import SqlAudit.Mail.EncodedWord
import SqlAudit.Text.Blank

/-!
# Words of a header

The smallest parts of an address: fillers (blanks and comments), atoms, texts in quotes and encoded
words, and the phrases that they make up. Reading is lenient: whatever can be given a meaning is.
-/

namespace SqlAudit.Mail

/-- A space or a tab. -/
def isSpace (c : Char) : Bool :=
  c == ' ' || c == '\t'

/-- The characters with a meaning of their own. -/
def specials : List Char :=
  "()<>@,:;.\\\"[]".toList

/-- Whether a character ends an atom. -/
def endsAtom (c : Char) : Bool :=
  specials.contains c || isSpace c

/-- Whether a character ends a phrase. Points, quotes and comments do not. -/
def endsPhrase (c : Char) : Bool :=
  specials.contains c && c != '.' && c != '"' && c != '('

/-- Whether a character starts a filler. -/
def startsFiller (c : Char) : Bool :=
  isSpace c || c == '('

/-- Whether a text starts with a filler. -/
def fillerNext (s : List Char) : Bool :=
  s.head?.any startsFiller

/-! ## Fillers -/

/-- The text behind a comment whose opening parenthesis has been read, inside of `depth` others. -/
def afterComment : (depth : Nat) → List Char → List Char
  | _, [] => []
  | depth, '\\' :: c :: cs =>
    if isSpace c then afterComment depth (c :: cs) else afterComment depth cs
  | depth, '(' :: cs => afterComment (depth + 1) cs
  | 0, ')' :: cs => cs
  | depth + 1, ')' :: cs => afterComment depth cs
  | depth, _ :: cs => afterComment depth cs

/-- Reads a filler: its blanks and comments, with their contents left out, and what follows. -/
def readFillerFrom : (fuel : Nat) → List Char → List Char × List Char
  | 0, s => ([], s)
  | _, [] => ([], [])
  | fuel + 1, c :: cs =>
    if isSpace c then
      let r := readFillerFrom fuel (Text.trimStart cs)
      (' ' :: r.1, r.2)
    else if c == '(' then
      let r := readFillerFrom fuel (afterComment 0 cs)
      ('(' :: ')' :: r.1, r.2)
    else ([], c :: cs)

/-- Reads a filler if there is one. -/
def readFiller (s : List Char) : Option (List Char) × List Char :=
  if fillerNext s then
    let r := readFillerFrom s.length s
    (some r.1, r.2)
  else (none, s)

/-! ## Texts in quotes -/

/-- Characters up to a space or one of `ends`, and what follows. A backslash stands for the
character after it, and before a space for nothing. -/
def readEscaped (ends : List Char) : List Char → List Char × List Char
  | [] => ([], [])
  | ['\\'] => ([], [])
  | '\\' :: c :: cs =>
    if isSpace c then ([], c :: cs)
    else
      let r := readEscaped ends cs
      (c :: r.1, r.2)
  | c :: cs =>
    if isSpace c || ends.contains c then ([], c :: cs)
    else
      let r := readEscaped ends cs
      (c :: r.1, r.2)

/-- A piece of a text in quotes. -/
inductive Piece where
  | plain (s : List Char)
  | blank (s : List Char)
  | encoded (s : List Char)

/-- The pieces up to a closing quote or the end, and what follows the quote. -/
def readPieces : (fuel : Nat) → List Char → List Piece × List Char
  | 0, s => ([], s)
  | _, [] => ([], [])
  | fuel + 1, c :: cs =>
    if c == '"' then ([], cs)
    else if isSpace c then
      let rest := Text.trimStart cs
      let r := readPieces fuel rest
      (.blank (c :: cs.take (cs.length - rest.length)) :: r.1, r.2)
    else match readEncodedWord? (c :: cs) with
      | some (text, rest) =>
        let r := readPieces fuel rest
        (.encoded text :: r.1, r.2)
      | none =>
        let e := readEscaped ['"'] (c :: cs)
        let r := readPieces fuel e.2
        (.plain e.1 :: r.1, r.2)

/-- The text of pieces. Blanks between two encoded words are part of neither. -/
def pieceText : List Piece → List Char
  | [] => []
  | .encoded s :: .blank _ :: .encoded t :: ps => s ++ pieceText (.encoded t :: ps)
  | .encoded s :: ps => s ++ pieceText ps
  | .blank s :: ps => s ++ pieceText ps
  | .plain s :: ps => s ++ pieceText ps

/-- A text put in quotes. -/
def inQuotes (s : List Char) : List Char :=
  '"' :: s.flatMap (fun c => if c == '"' || c == '\\' then ['\\', c] else [c]) ++ ['"']

/-! ## Words -/

/-- The core of a word. -/
inductive Core where
  | atom (s : List Char)
  | encoded (s : List Char)
  /-- A text in quotes. -/
  | quoted (s : List Char)
  /-- A quote at the end of the header. -/
  | openQuote

/-- A text in which each run of blanks that starts with a space or a tab is one space. -/
def spacedFrom (inBlank : Bool) : List Char → List Char
  | [] => []
  | c :: cs =>
    if inBlank && Text.isBlank c then spacedFrom true cs
    else if isSpace c then ' ' :: spacedFrom true cs
    else c :: spacedFrom false cs

/-- What a core stands for. -/
def Core.value : Core → List Char
  | .atom s => s
  | .encoded s => spacedFrom false s
  | .quoted s => s
  | .openQuote => []

/-- A core as it would be written without encoded words. -/
def Core.text : Core → List Char
  | .atom s => s
  | .encoded s => s
  | .quoted s => inQuotes s
  | .openQuote => inQuotes []

/-- Whether a core consists of nothing at all. -/
def Core.isVoid : Core → Bool
  | .encoded s => s.isEmpty
  | .openQuote => true
  | _ => false

/-- A word: a core, perhaps with fillers around it. -/
structure Word where
  before : Option (List Char)
  core : Core
  after : Option (List Char)

/-- What a word stands for; a filler stands for a space. -/
def Word.value (w : Word) : List Char :=
  (if w.before.isSome then [' '] else []) ++ w.core.value ++ (if w.after.isSome then [' '] else [])

/-- A word as it would be written without encoded words. -/
def Word.text (w : Word) : List Char :=
  w.before.getD [] ++ w.core.text ++ w.after.getD []

/-- The core at the start of a text, given how an atom is read. -/
def readCore? (readAtom? : List Char → Option (List Char × List Char)) (s : List Char) :
    Option (Core × List Char) :=
  match readEncodedWord? s with
  | some (text, rest) => some (.encoded text, rest)
  | none => (readAtom? s).map fun r => (.atom r.1, r.2)

/-- A core with the filler after it. -/
def withAfter (before : Option (List Char)) (r : Core × List Char) : Word × List Char :=
  let after := readFiller r.2
  (⟨before, r.1, after.1⟩, after.2)

/-- The characters of an atom, of which there is at least one. -/
def readAtomText? (s : List Char) : Option (List Char × List Char) :=
  let atom := s.takeWhile fun c => !endsAtom c
  if atom.isEmpty then none else some (atom, s.drop atom.length)

/-- Reads an atom with the fillers around it. -/
def readAtom? (s : List Char) : Option (Word × List Char) :=
  let before := readFiller s
  (readCore? readAtomText? before.2).map (withAfter before.1)

/-- Atoms with single points between them. -/
def readDottedText? : (fuel : Nat) → List Char → Option (List Char × List Char)
  | 0, _ => none
  | fuel + 1, s => (readAtomText? s).bind fun (atom, rest) =>
    match rest with
    | '.' :: more => (readDottedText? fuel more).map fun r => (atom ++ '.' :: r.1, r.2)
    | _ => some (atom, rest)

/-- Reads atoms with single points between them, and the filler after them. -/
def readDotted? (s : List Char) : Option (Word × List Char) :=
  (readCore? (readDottedText? s.length) s).map (withAfter none)

/-- Reads a text in quotes, from its opening quote on, and the filler after it. -/
def readQuoted (cs : List Char) : Word × List Char :=
  let r := readPieces cs.length cs
  withAfter none (if cs.isEmpty then .openQuote else .quoted (pieceText r.1), r.2)

/-- Reads a word with the fillers around it. -/
def readWord? (s : List Char) : Option (Word × List Char) :=
  let before := readFiller s
  match before.2 with
  | '"' :: cs =>
    let r := readQuoted cs
    some ({ r.1 with before := before.1 }, r.2)
  | cs => (readCore? readAtomText? cs).map (withAfter before.1)

/-! ## Phrases -/

/-- A part of a phrase or of the part of an address before the at sign. -/
inductive Part where
  | word (w : Word)
  | dot
  | filler
  /-- A backslash outside of quotes. -/
  | backslash

/-- What a part stands for. -/
def Part.value : Part → List Char
  | .word w => w.value
  | .dot => ['.']
  | .filler => [' ']
  | .backslash => ['\\']

/-- Whether a part is a filler. -/
def Part.isFiller : Part → Bool
  | .filler => true
  | _ => false

/-- Whether a part is a point. -/
def Part.isDot : Part → Bool
  | .dot => true
  | _ => false

/-- Reads a phrase: words, points and fillers, up to a character that ends it. -/
def readPhraseFrom : (fuel : Nat) → List Char → List Part × List Char
  | 0, s => ([], s)
  | _, [] => ([], [])
  | fuel + 1, c :: cs =>
    if endsPhrase c then ([], c :: cs)
    else if c == '.' then
      let r := readPhraseFrom fuel cs
      (.dot :: r.1, r.2)
    else match readWord? (c :: cs) with
      | some (w, rest) =>
        let r := readPhraseFrom fuel rest
        (.word w :: r.1, r.2)
      | none =>
        let r := readPhraseFrom fuel (readFiller (c :: cs)).2
        (.filler :: r.1, r.2)

/-- Reads a phrase. -/
def readPhrase (s : List Char) : List Part × List Char :=
  readPhraseFrom s.length s

end SqlAudit.Mail
