import SqlAudit.Input.Rejection
import SqlAudit.Params

/-!
# Fields

How the fields of an input are read from values: texts, truth values, parameters and contexts.
-/

namespace SqlAudit.Field

/-- A text. -/
def text : Value → Checked String
  | .text s => .ok s
  | v => .fail v .notText

/-- A text, or null for none. -/
def optionalText : Value → Checked (Option String)
  | .null => .ok none
  | v => (text v).map some

/-- The words for truth values, in any case. -/
def boolWords : List (String × Bool) :=
  [("0", false), ("off", false), ("f", false), ("false", false), ("n", false), ("no", false),
    ("1", true), ("on", true), ("t", true), ("true", true), ("y", true), ("yes", true)]

/-- The truth value of a number: zero and one are read, and other integers of 64 bits are at least
numbers of the right kind. -/
def boolOfInt (v : Value) (n : Int) : Checked Bool :=
  if n = 0 then .ok false
  else if n = 1 then .ok true
  else .fail v (if -0x8000000000000000 ≤ n ∧ n < 0x8000000000000000 then .unreadableBool
    else .notBool)

/-- A truth value: one as such, the numbers zero and one, or a word for it. -/
def bool : Value → Checked Bool
  | .bool b => .ok b
  | .int n => boolOfInt (.int n) n
  | .float x => match x.toInt64? with
    | some n => boolOfInt (.float x) n
    | none => .fail (.float x) .notBool
  | .text s =>
    if s.toList.any Text.isHalf then .fail (.text s) .notUnicode
    else match boolWords.lookup (String.ofList (s.toList.map Char.toLower)) with
      | some b => .ok b
      | none => .fail (.text s) .unreadableBool
  | v => .fail v .notBool

/-- A scalar. Any other value fits none of the scalar types. -/
def scalar : Value → Checked Scalar
  | .scalar s => .ok s
  | v => .error [⟨[.name "bool"], .notBool, v⟩, ⟨[.name "int"], .notInt, v⟩,
      ⟨[.name "float"], .notNumber, v⟩, ⟨[.name "str"], .notText, v⟩]

/-- A scalar that is neither an integer nor a text, for a reason why it is no integer. -/
def badKey (k : Scalar) (reason : Reason) : Checked Key :=
  .error [⟨[.name "int"], reason, .scalar k⟩, ⟨[.name "str"], .notText, .scalar k⟩]

/-- Why a floating-point number is no position. -/
def noPosition (x : Binary64) : Reason :=
  if !x.isFinite then .notFinite else if x.toInt?.isSome then .hugeInt else .fractional

/-- The key of a parameter. Truth values and whole numbers are the positions they equal. -/
def key : Scalar → Checked Key
  | .null => badKey .null .notInt
  | .bool b => .ok (.position (if b then 1 else 0))
  | .int n => .ok (.position n)
  | .float x => match x.toInt64? with
    | some n => .ok (.position n)
    | none => badKey (.float x) (noPosition x)
  | .text s => .ok (.name s)

/-- One parameter: its key and its value. -/
def entry (e : Scalar × Value) : Checked (Key × Scalar) :=
  Checked.under (.ofKey e.1) ((Checked.under (.name "[key]") (key e.1)).zip (scalar e.2))

/-- Parameters from a mapping. -/
def params : Value → Checked Params
  | .object es => (Checked.all (es.map entry)).map Params.ofEntries
  | v => .fail v .notMapping

/-- The items of a list, each read in the same way. -/
def items {α : Type} (read : Value → Checked α) (vs : List Value) : Checked (List α) :=
  Checked.all (vs.zipIdx.map fun v => Checked.under (.index v.2) (read v.1))

/-- A list. -/
def list {α : Type} (read : Value → Checked α) : Value → Checked (List α)
  | .list vs => items read vs
  | v => .fail v .notList

/-- The items of a list of scalars. -/
def scalars (vs : List Value) : Checked (List Scalar) :=
  items scalar vs

/-- Parameters from null (none), a list (under positions) or a mapping. -/
def bindings : Value → Checked Params
  | .null => .ok .empty
  | .list vs => (scalars vs).map Params.ofList
  | v => params v

/-- A name of an entry of a context. -/
def contextName (e : Scalar × Value) : Checked (String × Value) :=
  match e.1 with
  | .text s => .ok (s, e.2)
  | k => .error [⟨[.ofKey k, .name "[key]"], .notText, .scalar k⟩]

/-- A context: null for none, or a mapping from names. -/
def context : Value → Checked (Option (List (String × Value)))
  | .null => .ok none
  | .object es => (Checked.all (es.map contextName)).map some
  | v => .fail v .notMapping

/-- A field of `whole` that must be there. -/
def required {α : Type} (whole : Value) (read : Value → Checked α) : Option Value → Checked α
  | some v => read v
  | none => .fail whole .missing

/-- The field of a name among entries. -/
def member {α : Type} (es : Value.Entries) (name : String) (read : Option Value → Checked α) :
    Checked α :=
  Checked.under (.name name) (read (Value.lookup? name es))

/-- A field with a default. -/
def orElse {α : Type} (default : α) (read : Value → Checked α) : Option Value → Checked α
  | some v => read v
  | none => .ok default

end SqlAudit.Field
