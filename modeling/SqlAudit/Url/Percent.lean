import SqlAudit.Text.Hex
import SqlAudit.Text.Utf8

/-!
# Percent signs in addresses

An address is made of basic Latin characters, and each of its parts reserves some of them. Every
other character is written as its bytes in UTF-8, each as a percent sign and two digits. The percent
sign itself is reserved nowhere, so bytes that are written so already stay as they are.
-/

namespace SqlAudit.Url

/-- A basic Latin character that can be printed, the space left out. -/
def isGraphic (c : Char) : Bool :=
  0x20 < c.toNat && c.toNat < 0x7f

/-- The characters of a name and a password. -/
def isUserSafe (c : Char) : Bool :=
  isGraphic c && !("\"#<>?`\x7b\x7d/;=@[\\]^|".toList.contains c)

/-- The characters of the name of a host. -/
def isHostSafe (c : Char) : Bool :=
  c.isAlphanum || "-._~!$&'()*+,;=\"`\x7b\x7d%|\\".toList.contains c

/-- The characters of a path. -/
def isPathSafe (c : Char) : Bool :=
  isGraphic c && !("\"#<>?`\x7b\x7d".toList.contains c)

/-- The characters of a query. -/
def isQuerySafe (c : Char) : Bool :=
  isGraphic c && !("\"#<>".toList.contains c)

/-- The characters of a fragment. -/
def isFragmentSafe (c : Char) : Bool :=
  isGraphic c && !("\"<>`".toList.contains c)

/-- A character as its bytes. -/
def escaped (c : Char) : List Char :=
  (Text.utf8Char c).flatMap fun b => '%' :: (Text.hex 2 b).map Char.toUpper

/-- A text in which only safe characters stand for themselves. -/
def percentEncode (isSafe : Char → Bool) (s : List Char) : List Char :=
  s.flatMap fun c => if isSafe c then [c] else escaped c

end SqlAudit.Url
