import SqlAudit.Number.Shortest
import SqlAudit.Text.Quoted
import SqlAudit.Value.Basic

/-!
# Values as text

`literal` writes a value so that its type shows: texts are quoted, lists are in brackets and
mappings in braces. `display` is the same but for a text, which is shown as it is.
-/

namespace SqlAudit

namespace Scalar

/-- A scalar with its type showing. -/
def literal : Scalar → String
  | .null => "None"
  | .bool b => if b then "True" else "False"
  | .int n => toString n
  | .float x => x.text
  | .text s => String.ofList (Text.quoted s.toList)

/-- A scalar for people to read. -/
def display : Scalar → String
  | .text s => s
  | s => s.literal

end Scalar

/-- Texts with a comma and a space between them. -/
def commaSeparated (items : List String) : String :=
  ", ".intercalate items

namespace Value

mutual

/-- A value with its type showing. -/
def literal : Value → String
  | .scalar s => s.literal
  | .list vs => "[" ++ commaSeparated (literals vs) ++ "]"
  | .object es => "\x7b" ++ commaSeparated (entryLiterals es) ++ "\x7d"

/-- The literals of the items of a list. -/
def literals : List Value → List String
  | [] => []
  | v :: vs => literal v :: literals vs

/-- The literals of the entries of a mapping. -/
def entryLiterals : List (Scalar × Value) → List String
  | [] => []
  | (k, v) :: es => (k.literal ++ ": " ++ literal v) :: entryLiterals es

end

/-- A value for people to read. -/
def display : Value → String
  | .scalar s => s.display
  | v => v.literal

end Value

end SqlAudit
