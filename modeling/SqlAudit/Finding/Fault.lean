import SqlAudit.Finding.Basic

/-!
# Faults

The causes of errors. Each has its wording and its code here, and nowhere else.
-/

namespace SqlAudit

/-- The two quotes. -/
inductive Quote where
  | single
  | double
deriving DecidableEq, Repr

namespace Quote

/-- The character of a quote. -/
def sign : Quote → Char
  | .single => '\''
  | .double => '"'

/-- The name of a quote within a sentence. -/
def name : Quote → String
  | .single => "single"
  | .double => "double"

/-- The name of a quote at the start of a sentence. -/
def title : Quote → String
  | .single => "Single"
  | .double => "Double"

end Quote

/-- The cause of an error. -/
inductive Fault where
  | emptyQuery
  | unbalancedParentheses (opening closing : Nat)
  | unpairedQuotes (quote : Quote) (count : Nat)
  | insertPlaceholders (fields placeholders : Nat)
  | insertValues (fields values : Nat)
  | deleteWithoutWhere
  | placeholderCount (placeholders parameters : Nat)
  | mixedPlaceholders
  | superglobalAccess
  | hostVariable
  | dangerousLiteral (idiom : String) (index : Nat) (shown : List Char)
  | superglobal (name : String)
deriving DecidableEq, Repr

namespace Fault

/-- The code of a fault. -/
def code : Fault → Code
  | .emptyQuery => .emptyQuery
  | .unbalancedParentheses .. => .unbalancedParentheses
  | .unpairedQuotes .single _ => .unpairedSingleQuotes
  | .unpairedQuotes .double _ => .unpairedDoubleQuotes
  | .insertPlaceholders .. => .insertPlaceholderCountMismatch
  | .insertValues .. => .insertValueCountMismatch
  | .deleteWithoutWhere => .deleteWithoutWhere
  | .placeholderCount .. => .placeholderCountMismatch
  | .mixedPlaceholders => .mixedPlaceholders
  | .superglobalAccess => .superglobalInQuery
  | .hostVariable => .hostVariableInQuery
  | .dangerousLiteral .. => .dangerousLiteralPattern
  | .superglobal _ => .superglobalInQuery

/-- A fault in words. -/
def message : Fault → String
  | .emptyQuery => "CRITICAL ERROR: Empty query"
  | .unbalancedParentheses opening closing =>
    s!"Unbalanced parentheses (opening: {opening}, closing: {closing})"
  | .unpairedQuotes quote count =>
    s!"Unpaired {quote.name} quotes ({quote.sign}) (count: {count})"
  | .insertPlaceholders fields placeholders =>
    s!"INSERT error: Field count ({fields}) differs from placeholder count ({placeholders})"
  | .insertValues fields values =>
    s!"INSERT error: Field count ({fields}) differs from value count ({values})"
  | .deleteWithoutWhere => "DELETE without WHERE clause (risk of deleting all rows)"
  | .placeholderCount placeholders parameters =>
    s!"Placeholder count ({placeholders}) differs from parameter count ({parameters})"
  | .mixedPlaceholders => "Mixed '?' and named ':name' placeholders in the same query (forbidden)"
  | .superglobalAccess => "Superglobal variables detected in query! SQL INJECTION POSSIBLE!"
  | .hostVariable =>
    "Host variables detected in parameterized query! Use placeholders instead."
  | .dangerousLiteral idiom index shown =>
    s!"Dangerous pattern '{idiom}' detected in string #{index}: '{String.ofList shown}'"
  | .superglobal name =>
    s!"Superglobal variable {name} directly in query! SQL INJECTION POSSIBLE!"

/-- The finding of a fault. -/
def finding (f : Fault) : Finding :=
  ⟨.error, f.message, some f.code.name⟩

end Fault

end SqlAudit
