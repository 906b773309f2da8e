import SqlAudit.Number.Binary64

/-!
# Values

The values that callers hand in: scalars, lists, and mappings from scalars to values that keep
their order. Bound parameters, contexts, settings and request bodies are made of them.
-/

namespace SqlAudit

/-- A single value. -/
inductive Scalar where
  | null
  | bool (b : Bool)
  | int (n : Int)
  | float (x : Binary64)
  | text (s : String)
deriving DecidableEq, Repr

/-- A value. -/
inductive Value where
  | scalar (s : Scalar)
  | list (items : List Value)
  | object (entries : List (Scalar × Value))

namespace Scalar

/-- Whether a scalar counts as true: everything but null, false, zero and the empty text. -/
def isTruthy : Scalar → Bool
  | .null => false
  | .bool b => b
  | .int n => n != 0
  | .float x => !x.isZero
  | .text s => s != ""

/-- What a scalar is as a key: truth values and whole numbers are the integers they equal. -/
def keyForm : Scalar → Scalar
  | .bool b => .int (if b then 1 else 0)
  | .float x => match x.toInt? with
    | some n => .int n
    | none => .float x
  | s => s

/-- Whether two scalars are the same key. A number that is none is the same as nothing. -/
def sameKey (a b : Scalar) : Bool :=
  a.keyForm == b.keyForm && a.keyForm != .float .nan

/-- The name of the type of a scalar. -/
def typeName : Scalar → String
  | .null => "NoneType"
  | .bool _ => "bool"
  | .int _ => "int"
  | .float _ => "float"
  | .text _ => "str"

end Scalar

namespace Value

/-- The absent value. -/
@[match_pattern] def null : Value := .scalar .null

/-- A truth value. -/
@[match_pattern] def bool (b : Bool) : Value := .scalar (.bool b)

/-- An integer. -/
@[match_pattern] def int (n : Int) : Value := .scalar (.int n)

/-- A floating-point number. -/
@[match_pattern] def float (x : Binary64) : Value := .scalar (.float x)

/-- A text. -/
@[match_pattern] def text (s : String) : Value := .scalar (.text s)

instance : Inhabited Value := ⟨.null⟩

/-- Whether a value counts as true. -/
def isTruthy : Value → Bool
  | .scalar s => s.isTruthy
  | .list vs => !vs.isEmpty
  | .object es => !es.isEmpty

/-- The name of the type of a value. -/
def typeName : Value → String
  | .scalar s => s.typeName
  | .list _ => "list"
  | .object _ => "dict"

/-- The entries of a mapping, in order. -/
abbrev Entries := List (Scalar × Value)

/-- Entries with `key` bound to `v`: in the place of the same key if there is one, else at the
end. -/
def insertEntry (key : Scalar) (v : Value) : Entries → Entries
  | [] => [(key, v)]
  | e :: es => if e.1.sameKey key then (e.1, v) :: es else e :: insertEntry key v es

/-- The mapping that binds each key of a list of pairs to its last value, in the order of the first
occurrences. -/
def mapping (pairs : Entries) : Value :=
  .object (pairs.foldl (fun es p => insertEntry p.1 p.2 es) [])

/-- The mapping from names. -/
def record (fields : List (String × Value)) : Value :=
  mapping (fields.map fun f => (.text f.1, f.2))

/-- What entries bind a name to. -/
def lookup? (name : String) (entries : Entries) : Option Value :=
  (entries.find? fun e => e.1 == .text name).map Prod.snd

end Value

end SqlAudit
