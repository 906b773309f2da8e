import SqlAudit.Statement
import SqlAudit.Value.Basic

/-!
# Previews of values

`Preview.make` cuts a value that a host hands over, to a limit that the host chooses. Values other
than texts fit only if they need no cut.
-/

namespace SqlAudit

/-- Why there is no preview. -/
inductive PreviewError where
  /-- The value is of a type that has no length. -/
  | noLength (typeName : String)
  /-- The limit is of a type that no length compares with. -/
  | noLimit (typeName : String)
  /-- The value is longer than a limit that is no integer. -/
  | fractionalCut
  /-- The value is a list and needs a cut. -/
  | listCut
  /-- The value is a mapping and needs a cut. -/
  | mappingCut
deriving DecidableEq, Repr

/-- Why there is no preview, in words. -/
def PreviewError.message : PreviewError → String
  | .noLength typeName => "object of type '" ++ typeName ++ "' has no len()"
  | .noLimit typeName => "'<=' not supported between instances of 'int' and '" ++ typeName ++ "'"
  | .fractionalCut => "slice indices must be integers or None or have an __index__ method"
  | .listCut => "can only concatenate list (not \"str\") to list"
  | .mappingCut => "unhashable type: 'slice'"

namespace Preview

/-- A limit: an integer, or a number that lengths compare with but that nothing is cut to. -/
inductive Limit where
  | whole (n : Int)
  | float (x : Binary64)

/-- The limit that a value stands for. Truth values count as zero and one. -/
def Limit.read : Value → Except PreviewError Limit
  | .int n => .ok (.whole n)
  | .bool b => .ok (.whole (if b then 1 else 0))
  | .float x => .ok (.float x)
  | v => .error (.noLimit v.typeName)

/-- Whether a length is within a limit. -/
def Limit.allows (length : Nat) : Limit → Bool
  | .whole n => length ≤ n
  | .float x => x.isAtLeast length

/-- The length of a value, if it has any. -/
def length : Value → Except PreviewError Nat
  | .text s => .ok s.length
  | .list vs => .ok vs.length
  | .object es => .ok es.length
  | v => .error (.noLength v.typeName)

/-- A value that is longer than a limit, cut to it. -/
def shorten (dots : Bool) : Value → Limit → Except PreviewError Value
  | .object _, _ => .error .mappingCut
  | _, .float _ => .error .fractionalCut
  | .text s, .whole n => .ok (.text (String.ofList (Statement.preview n dots s.toList)))
  | _, .whole _ => .error .listCut

/-- A value as it is if it is within the limit, else cut to the limit and perhaps marked with
dots. -/
def make (limit : Value) (dots : Bool) (v : Value) : Except PreviewError Value := do
  let n ← length v
  let limit ← Limit.read limit
  if limit.allows n then return v else shorten dots v limit

end Preview

end SqlAudit
