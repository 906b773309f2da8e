import SqlAudit.Finding.Fault
import SqlAudit.Params

/-!
# Notes

Pieces of information. Each has its wording here, and nowhere else; only the note of an alert has a
code.
-/

namespace SqlAudit

/-- A piece of information. -/
inductive Note where
  | parameterizedQuery
  | parameterCount (count : Nat)
  | excerpt (text : List Char)
  | statementType (name : List Char)
  | balancedParentheses (pairs : Nat)
  | pairedQuotes (quote : Quote) (pairs : Nat)
  | insertPlaceholders (fields placeholders : Nat)
  | targetTable (table : List Char)
  | insertValues (fields values : Nat)
  | updateWithWhere
  | joins (count : Nat)
  | deleteWithWhere
  | positionalPlaceholders (count : Nat)
  | namedPlaceholders (count : Nat)
  | placeholderNames (names : List (List Char))
  | perfectMatch (placeholders parameters : Nat)
  | parameterHeading
  | parameter (key : Key) (typeName : String) (shown : String)
  | hardcodedValues (shown : List (List Char))
  | literalCount (count : Nat)
  | literalAnalyzed (index : Nat) (shown : List Char)
  | alertSent (channel : String)
deriving DecidableEq, Repr

namespace Note

/-- The code of a note; only the note of an alert has one. -/
def code : Note → Option Code
  | .alertSent _ => some .notificationSent
  | _ => none

/-- A note in words. -/
def message : Note → String
  | .parameterizedQuery => "Type detected: Parameterized query (RECOMMENDED)"
  | .parameterCount count => s!"Parameter count: {count}"
  | .excerpt text => s!"Syntax analysis: {String.ofList text}..."
  | .statementType name => s!"Query type detected: {String.ofList name}"
  | .balancedParentheses pairs => s!"Balanced parentheses: {pairs} pairs"
  | .pairedQuotes quote pairs => s!"{quote.title} quotes paired: {pairs} pairs"
  | .insertPlaceholders fields placeholders =>
    s!"INSERT: {fields} fields match {placeholders} placeholders"
  | .targetTable table => s!"Target table: {String.ofList table}"
  | .insertValues fields values => s!"INSERT: {fields} fields match {values} values"
  | .updateWithWhere => "UPDATE: WHERE clause present"
  | .joins count => s!"SELECT: {count} JOIN(s) detected"
  | .deleteWithWhere => "DELETE: WHERE clause present"
  | .positionalPlaceholders count => s!"Placeholders '?' found: {count}"
  | .namedPlaceholders count => s!"Named placeholders found: {count}"
  | .placeholderNames names => "Placeholder names: " ++ commaSeparated (names.map String.ofList)
  | .perfectMatch placeholders parameters =>
    s!"Perfect match: {placeholders} placeholders = {parameters} parameters"
  | .parameterHeading => "=== PARAMETER ANALYSIS ==="
  | .parameter key typeName shown =>
    s!"Parameter [{key.display}]: type={typeName}, value={shown}"
  | .hardcodedValues shown => "Hardcoded values found: " ++
      commaSeparated (shown.map fun s => "'" ++ String.ofList s ++ "'")
  | .literalCount count => s!"String count detected: {count}"
  | .literalAnalyzed index shown => s!"String #{index} analyzed: '{String.ofList shown}'"
  | .alertSent channel => s!"Error report sent via {channel}"

/-- The finding of a note. -/
def finding (n : Note) : Finding :=
  ⟨.info, n.message, n.code.map Code.name⟩

end Note

end SqlAudit
