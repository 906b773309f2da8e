import SqlAudit.Mail.Word

/-!
# Mailboxes

An address of the form `local@domain`, alone or in angle brackets behind a name. Reading follows the
grammar of headers, its obsolete forms included. `Miss.other` means that something else may be there
instead; the other failures end the reading of the whole header.
-/

namespace SqlAudit.Mail

/-- Why a header of addresses cannot be made. -/
inductive HeaderError where
  /-- The text has several lines. -/
  | severalLines
  /-- The text ends where an address goes on. -/
  | endOfText
  /-- A part of an address has nothing in it. -/
  | emptyPart
  /-- A name starts or ends with a point. -/
  | pointAtEdge
  /-- A name starts with a point behind a filler. -/
  | pointAfterFiller
  /-- Something follows a group. -/
  | afterGroup
  /-- A domain in brackets is not closed. -/
  | openBracket
  /-- A domain in brackets has blanks and ends. -/
  | blankBracket
  /-- A part of an address has a line break. -/
  | lineBreak
  /-- An address cannot be encoded. -/
  | unencodable (e : Text.Unencodable)
deriving DecidableEq, Repr

/-- An error in words. -/
def HeaderError.message : HeaderError → String
  | .severalLines => "Header values may not contain linefeed or carriage return characters"
  | .endOfText => "string index out of range"
  | .emptyPart => "list index out of range"
  | .pointAtEdge => "'str' object has no attribute 'token_type'"
  | .pointAfterFiller => "'ValueTerminal' object does not support item assignment"
  | .afterGroup => "'Group' object has no attribute 'local_part'"
  | .openBracket => "'InvalidHeaderDefect' object has no attribute 'all_defects'"
  | .blankBracket => "cannot access local variable 'pos' where it is not associated with a value"
  | .lineBreak => "invalid arguments; address parts cannot contain CR or LF"
  | .unencodable e => e.message

/-- Why something is not read. -/
inductive Miss where
  /-- It is not there. -/
  | other
  /-- The header cannot be made. -/
  | fatal (e : HeaderError)

/-- The text ends where an address goes on. -/
def Miss.ended : Miss := .fatal .endOfText

/-- A reading that may only find nothing. -/
def found {α : Type} : Option α → Except Miss α
  | some a => .ok a
  | none => .error .other

/-! ## Before the at sign -/

/-- What stands before the at sign: one word, or parts in the obsolete form. -/
inductive LocalPart where
  | word (w : Word)
  | parts (ps : List Part)

/-- Reads words, points, fillers and backslashes. -/
def readPartsFrom : (fuel : Nat) → List Char → List Part × List Char
  | 0, s => ([], s)
  | _, [] => ([], [])
  | fuel + 1, c :: cs =>
    if c == '\\' then
      let r := readPartsFrom fuel cs
      (.backslash :: r.1, r.2)
    else if endsPhrase c then ([], c :: cs)
    else if c == '.' then
      let r := readPartsFrom fuel cs
      (.dot :: r.1, r.2)
    else match readWord? (c :: cs) with
      | some (w, rest) =>
        let r := readPartsFrom fuel rest
        (.word w :: r.1, r.2)
      | none =>
        let r := readPartsFrom fuel (readFiller (c :: cs)).2
        (.filler :: r.1, r.2)

/-- Reads the obsolete form, which has at least one part besides a filler. -/
def readParts (s : List Char) : Except Miss (LocalPart × List Char) :=
  match readPartsFrom s.length s with
  | ([], _) | ([.filler], _) => .error (.fatal .emptyPart)
  | (ps, rest) => .ok (.parts ps, rest)

/-- Whether the part before the at sign goes on. -/
def goesOn (s : List Char) : Bool :=
  s.head?.any fun c => c == '\\' || !endsPhrase c

/-- Reads what stands before the at sign. If more follows than one word, all of it is read again in
the obsolete form. -/
def readLocalPart (s : List Char) : Except Miss (LocalPart × List Char) :=
  if s.isEmpty then .error .ended
  else
    let before := readFiller s
    if before.2.isEmpty then .error .other
    else match (readDotted? before.2).or (readWord? before.2) with
      | some (w, rest) =>
        let w := { w with before := before.1 }
        if goesOn rest then readParts (w.text ++ rest) else .ok (.word w, rest)
      | none =>
        if goesOn before.2 then readParts (before.1.getD [] ++ before.2) else .error .other

/-- Parts without the fillers that stand at an end or next to a point. `atPoint` tells whether the
next part stands at the start or after a point. -/
def closeUp (atPoint : Bool) : List Part → List Part
  | [] => []
  | .filler :: ps => closeUp atPoint ps
  | .word w :: ps =>
    let before := if atPoint then none else w.before
    let after := if (ps.find? fun p => !p.isFiller).all Part.isDot then none else w.after
    .word { w with before, after } :: closeUp false ps
  | .dot :: ps => .dot :: closeUp true ps
  | .backslash :: ps => .backslash :: closeUp false ps

/-- What the part before the at sign stands for. -/
def LocalPart.value : LocalPart → Except HeaderError (List Char)
  | .word w => if w.core.isVoid then .error .emptyPart else .ok w.core.value
  | .parts ps => .ok ((closeUp true ps).flatMap Part.value)

/-! ## After the at sign -/

/-- What stands after the at sign. -/
structure Domain where
  text : List Char
  /-- Whether it is in brackets that are not closed. -/
  isOpen : Bool

/-- A domain without blanks. -/
def Domain.ofText (s : List Char) : Domain :=
  ⟨s.filter fun c => !Text.isBlank c, false⟩

/-- A text without the blanks that a space or a tab at its start begins. -/
def skipBlanks (s : List Char) : List Char :=
  if s.head?.any isSpace then Text.trimStart s else s

/-- Reads a domain in brackets, whose opening one has been read. -/
def readBracket (s : List Char) : Except Miss (Domain × List Char) :=
  let inner := skipBlanks s
  let r := readEscaped ['[', ']'] inner
  if s.isEmpty then .ok (⟨[], true⟩, [])
  else if inner.isEmpty then .error (.fatal .blankBracket)
  else match skipBlanks r.2 with
    | [] => .ok (⟨[], true⟩, [])
    | ']' :: cs => .ok (.ofText ('[' :: r.1 ++ [']']), (readFiller cs).2)
    | _ => .error .other

/-- Reads the further labels of a domain, each behind a point. -/
def readLabels : (fuel : Nat) → List Char → Except Miss (List Char × List Char)
  | fuel + 1, '.' :: cs => do
    let (w, rest) ← found (readAtom? cs)
    let (more, rest) ← readLabels fuel rest
    return ('.' :: w.value ++ more, rest)
  | _, s => .ok ([], s)

/-- Reads a domain. -/
def readDomain (s : List Char) : Except Miss (Domain × List Char) :=
  if s.isEmpty then .error .ended
  else match (readFiller s).2 with
    | [] => .error .other
    | '[' :: cs => readBracket cs
    | cs => do
      let (w, rest) ← found ((readDotted? cs).or (readAtom? cs))
      if rest.head? == some '@' then .error .other
      else
        let (more, rest) ← readLabels rest.length rest
        return (.ofText (w.value ++ more), rest)

/-! ## Addresses -/

/-- An address; the domain may be left out. -/
structure AddrSpec where
  localPart : LocalPart
  domain : Option Domain

/-- Reads an address. -/
def readAddrSpec (s : List Char) : Except Miss (AddrSpec × List Char) := do
  let (localPart, rest) ← readLocalPart s
  match rest with
  | '@' :: cs =>
    let (domain, rest) ← readDomain cs
    return (⟨localPart, some domain⟩, rest)
  | _ => return (⟨localPart, none⟩, rest)

/-- The text after commas and fillers. -/
def skipCommas : (fuel : Nat) → List Char → List Char
  | fuel + 1, c :: cs =>
    if c == ',' then skipCommas fuel cs
    else if startsFiller c then skipCommas fuel (readFiller (c :: cs)).2
    else c :: cs
  | _, s => s

/-- The text after the further domains of a route and its colon. -/
def afterDomains : (fuel : Nat) → List Char → Except Miss (List Char)
  | fuel + 1, ',' :: cs =>
    if cs.isEmpty then .error .other
    else match (readFiller cs).2 with
      | [] => .error (.fatal .endOfText)
      | '@' :: more => (readDomain more).bind fun r => afterDomains fuel r.2
      | rest => afterDomains fuel rest
  | _, ':' :: cs => .ok cs
  | _, _ => .error .other

/-- The text after a route, the domains by way of which a message once went. -/
def afterRoute (s : List Char) : Except Miss (List Char) :=
  match skipCommas s.length s with
  | '@' :: cs => (readDomain cs).bind fun r => afterDomains (r.2.length + 1) r.2
  | _ => .error .other

/-- Reads an address in angle brackets, with a route perhaps; none if there is nothing in them. -/
def readAngle (s : List Char) : Except Miss (Option AddrSpec × List Char) :=
  match (readFiller s).2 with
  | ['<'] => .error .ended
  | '<' :: '>' :: cs => .ok (none, cs)
  | '<' :: cs => do
    let (spec, rest) ← match readAddrSpec cs with
      | .error .other => (afterRoute cs).bind readAddrSpec
      | r => r
    let rest := if rest.head? == some '>' then rest.tail else rest
    return (some spec, (readFiller rest).2)
  | _ => .error .other

/-! ## Names -/

/-- What a name stands for: its parts without the fillers at its ends. -/
def nameText (ps : List Part) : Except HeaderError (List Char) :=
  match ps with
  | [] => .ok []
  | .dot :: _ | .backslash :: _ => .error .pointAtEdge
  | .filler :: ps => trimEnd ps
  | .word w :: ps => trimEnd (.word { w with before := none } :: ps)
where
  /-- Parts without the filler at the end. -/
  trimEnd (ps : List Part) : Except HeaderError (List Char) :=
    match ps.getLast? with
    | none => .error .emptyPart
    | some .dot | some .backslash => .error .pointAtEdge
    | some .filler => .ok (ps.dropLast.flatMap Part.value)
    | some (.word w) => .ok ((ps.dropLast ++ [Part.word { w with after := none }]).flatMap Part.value)

/-- A mailbox. -/
inductive Mailbox where
  /-- An address alone. -/
  | bare (spec : AddrSpec)
  /-- An address in angle brackets, perhaps behind a name. -/
  | angle (name : Option (List Part)) (spec : Option AddrSpec)
  /-- Something that is no mailbox. -/
  | invalid

/-- Reads an address in angle brackets, perhaps behind a name. -/
def readNamed (s : List Char) : Except Miss (Mailbox × List Char) :=
  let before := readFiller s
  match before.2 with
  | [] => .error .other
  | c :: cs =>
    if c == '<' then (readAngle (c :: cs)).map fun r => (.angle none r.1, r.2)
    else if endsPhrase c then .error .other
    else
      let name := readPhrase (c :: cs)
      if name.2.isEmpty then .error .other
      else if c == '.' && before.1.isSome then .error (.fatal .pointAfterFiller)
      else (readAngle name.2).map fun r => (.angle (some name.1) r.1, r.2)

/-- Whether the domain of a mailbox is in brackets that are not closed. -/
def Mailbox.isOpen : Mailbox → Bool
  | .bare spec => spec.domain.any Domain.isOpen
  | .angle _ spec => spec.any fun spec => spec.domain.any Domain.isOpen
  | .invalid => false

/-- Reads a mailbox. -/
def readMailbox (s : List Char) : Except Miss (Mailbox × List Char) := do
  let (m, rest) ← match readNamed s with
    | .error .other => (readAddrSpec s).map fun r => (.bare r.1, r.2)
    | r => r
  if m.isOpen then .error (.fatal .openBracket) else return (m, rest)

/-- The text after what is no mailbox, up to one of `ends`. -/
def afterInvalid (ends : List Char) : (fuel : Nat) → List Char → List Char
  | fuel + 1, c :: cs =>
    if ends.contains c then c :: cs
    else if endsPhrase c then afterInvalid ends fuel cs
    else afterInvalid ends fuel (readPhrase (c :: cs)).2
  | _, s => s

end SqlAudit.Mail
