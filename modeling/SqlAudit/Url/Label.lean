import SqlAudit.Text.Lower
import SqlAudit.Url.Joining
import SqlAudit.Url.Permitted
import SqlAudit.Url.Punycode

/-!
# International names of hosts

A name of a host in any script, as the name in basic Latin characters that stands for it. The parts
between its points are checked one by one, and those that need it are written in Punycode.
-/

namespace SqlAudit.Url

/-- Whether each character of the rest of a label may stand where it does. -/
def charsFit (before : List Char) : List Char → Bool
  | [] => true
  | c :: cs => (isPermitted c || fitsAround before c cs) && charsFit (c :: before) cs

/-- Whether a text is a label: no hyphens at its ends or in its third and fourth places, no mark at
its start, in normal form, of permitted characters, and plainly ordered. -/
def isLabel (s : List Char) : Bool :=
  !s.isEmpty && isComposed s && (s.drop 2).take 2 != ['-', '-'] && s.head? != some '-' &&
    s.getLast? != some '-' && !s.head?.any isAnyMark && charsFit [] s && isPlainlyOrdered s

/-- Whether a label of basic Latin characters can stand as it is. One with the mark of Punycode has
to stand for a label. -/
def isBasicLabel (s : List Char) : Bool :=
  if s.take 4 == "xn--".toList then
    let puny := s.drop 4
    !puny.isEmpty && puny.getLast? != some '-' && (ofPunycode? puny).any isLabel
  else isLabel s

/-- The label in basic Latin characters that stands for a label. -/
def basicLabel? (s : List Char) : Option (List Char) :=
  let basic :=
    if s.all fun c => c.toNat < 128 then if isBasicLabel s then some s else none
    else if isLabel s then some ("xn--".toList ++ punycode s)
    else none
  basic.filter fun b => b.length ≤ 63

/-- Whether a character separates labels. -/
def isLabelPoint (c : Char) : Bool :=
  c == '.' || c == '\u3002' || c == '\uff0e' || c == '\uff61'

/-- The parts of a text between points. -/
def labels : List Char → List (List Char)
  | [] => [[]]
  | c :: cs =>
    if isLabelPoint c then [] :: labels cs
    else match labels cs with
      | l :: ls => (c :: l) :: ls
      | [] => [[c]]

/-- Labels with points between them. -/
def pointed : List (List Char) → List Char
  | [] => []
  | [l] => l
  | l :: ls => l ++ '.' :: pointed ls

/-- The name in basic Latin characters that stands for a name; a point at its end stays. -/
def basicName? (s : List Char) : Option (List Char) :=
  let ls := labels s
  let ended := ls.getLast? == some []
  if 254 < s.length || ls == [[]] then none
  else ((if ended then ls.dropLast else ls).mapM basicLabel?).bind fun bs =>
    let name := pointed (if ended then bs ++ [[]] else bs)
    if name.length ≤ (if ended then 254 else 253) then some name else none

end SqlAudit.Url
