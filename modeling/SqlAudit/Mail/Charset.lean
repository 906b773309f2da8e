import SqlAudit.Text.Utf8

/-!
# Character sets

The character sets that encoded words of a header may be in. Bytes that stand for no character are
kept as stray bytes.
-/

namespace SqlAudit.Mail

/-- A character set. -/
inductive Charset where
  | utf8
  | ascii
  | latin1
  | latin9
  | windows
deriving DecidableEq, Repr

namespace Charset

/-- The names of the character sets, in small letters and with underscores between their parts. -/
def names : List (String × Charset) := [
  ("utf_8", .utf8), ("u8", .utf8), ("utf", .utf8), ("utf8", .utf8), ("utf8_ucs2", .utf8),
  ("utf8_ucs4", .utf8), ("cp65001", .utf8), ("ascii", .ascii), ("646", .ascii),
  ("ansi_x3.4_1968", .ascii), ("ansi_x3_4_1968", .ascii), ("ansi_x3.4_1986", .ascii),
  ("cp367", .ascii), ("csascii", .ascii), ("ibm367", .ascii), ("iso646_us", .ascii),
  ("iso_646.irv_1991", .ascii), ("iso_ir_6", .ascii), ("us", .ascii), ("us_ascii", .ascii),
  ("latin_1", .latin1), ("8859", .latin1), ("cp819", .latin1), ("csisolatin1", .latin1),
  ("ibm819", .latin1), ("iso8859", .latin1), ("iso8859_1", .latin1), ("iso_8859_1", .latin1),
  ("iso_8859_1_1987", .latin1), ("iso_ir_100", .latin1), ("l1", .latin1), ("latin", .latin1),
  ("latin1", .latin1), ("iso8859_15", .latin9), ("iso_8859_15", .latin9), ("l9", .latin9),
  ("latin9", .latin9), ("cp1252", .windows), ("1252", .windows), ("windows_1252", .windows)]

/-- A name in small letters, with one underscore in place of each run of other characters than
letters, digits and points, and none at the ends. `pending` tells whether such a run was just
read. -/
def normalFrom (pending : Bool) : List Char → List Char
  | [] => []
  | c :: cs =>
    if c.isAlphanum || c == '.' then
      (if pending then ['_', c.toLower] else [c.toLower]) ++ normalFrom false cs
    else normalFrom true cs

/-- The character set of a name. -/
def ofName? (name : List Char) : Option Charset :=
  names.lookup (String.ofList (normalFrom false (name.dropWhile fun c => !(c.isAlphanum || c == '.'))))

/-- The characters of the last Latin set that differ from the first. -/
def latin9Changes : List (Nat × Nat) := [
  (0xa4, 0x20ac), (0xa6, 0x160), (0xa8, 0x161), (0xb4, 0x17d), (0xb8, 0x17e), (0xbc, 0x152),
  (0xbd, 0x153), (0xbe, 0x178)]

/-- The characters that another common set has where Latin has controls. -/
def windowsChanges : List (Nat × Nat) := [
  (0x80, 0x20ac), (0x82, 0x201a), (0x83, 0x192), (0x84, 0x201e), (0x85, 0x2026), (0x86, 0x2020),
  (0x87, 0x2021), (0x88, 0x2c6), (0x89, 0x2030), (0x8a, 0x160), (0x8b, 0x2039), (0x8c, 0x152),
  (0x8e, 0x17d), (0x91, 0x2018), (0x92, 0x2019), (0x93, 0x201c), (0x94, 0x201d), (0x95, 0x2022),
  (0x96, 0x2013), (0x97, 0x2014), (0x98, 0x2dc), (0x99, 0x2122), (0x9a, 0x161), (0x9b, 0x203a),
  (0x9c, 0x153), (0x9e, 0x17e), (0x9f, 0x178)]

/-- The character of a byte in a set of single bytes. -/
def byteChar (set : Charset) (b : Nat) : Char :=
  match set with
  | .latin1 => Char.ofNat b
  | .latin9 => Char.ofNat ((latin9Changes.lookup b).getD b)
  | .windows =>
    match windowsChanges.lookup b with
    | some n => Char.ofNat n
    | none => if 0x80 ≤ b && b < 0xa0 then Text.strayByte b else Char.ofNat b
  | _ => if b < 0x80 then Char.ofNat b else Text.strayByte b

/-- The text of bytes in a character set. -/
def decode : Charset → List Nat → List Char
  | .utf8, bs => Text.readUtf8 bs
  | set, bs => bs.map (byteChar set)

end Charset

end SqlAudit.Mail
