import SqlAudit.Report
import SqlAudit.Statement

/-!
# Remedies

One suggestion for a verbose report: a raw query should be parameterized, and a parameterized one
has its gravest structural flaw put right. `Remedy.of` is the remedy that a report calls for,
`Remedy.suggestion` its wording.
-/

namespace SqlAudit

/-- What would improve a query. -/
inductive Remedy where
  /-- Bind the values of a statement of some kind. -/
  | parameterize (kind : Statement.Kind)
  /-- Make the parameters fit the placeholders. -/
  | fitParameters (query : String) (params : Params)
  /-- Make the fields of an insert fit its values. -/
  | matchFields
  /-- Restrict a delete. -/
  | restrictDelete
  /-- Restrict an update. -/
  | restrictUpdate
  /-- Name the columns of a selection. -/
  | nameColumns
  /-- Bind the values that stand in the text. -/
  | bindLiterals
deriving DecidableEq

namespace Remedy

/-- The remedy that a report calls for: the first that applies. -/
def of (r : Report) : Option Remedy :=
  if !r.isVerbose then none
  else if !r.isParameterized then some (.parameterize (Statement.kind r.query.toList))
  else if r.found .placeholderCountMismatch then some (.fitParameters r.query r.bound)
  else if r.found .insertPlaceholderCountMismatch || r.found .insertValueCountMismatch then
    some .matchFields
  else if r.found .deleteWithoutWhere then some .restrictDelete
  else if r.found .updateWithoutWhere then some .restrictUpdate
  else if r.found .selectStar then some .nameColumns
  else if r.found .hardcodedLiteral then some .bindLiterals
  else none

/-! ## Wording -/

/-- Lines of code. -/
def code (lines : List String) : String :=
  "\n".intercalate lines

/-- Why a query should be parameterized. -/
def whyParameterize : String :=
  "Convert to a parameterized query to prevent SQL injection. Replace values with placeholders (?) " ++
    "and pass them as parameters."

/-- An example of a parameterized statement, and of code that runs it. -/
def parameterizedExample : Statement.Kind → Option (String × String)
  | .select => some ("SELECT * FROM table WHERE column = ?",
      code ["cursor.execute(\"SELECT * FROM table WHERE column = ?\", (value,))",
        "rows = cursor.fetchall()"])
  | .insert => some ("INSERT INTO table (col1, col2) VALUES (?, ?)",
      "cursor.execute(\"INSERT INTO table (col1, col2) VALUES (?, ?)\", (value1, value2))")
  | .update => some ("UPDATE table SET column = ? WHERE id = ?",
      "cursor.execute(\"UPDATE table SET column = ? WHERE id = ?\", (new_value, row_id))")
  | .delete => some ("DELETE FROM table WHERE id = ?",
      "cursor.execute(\"DELETE FROM table WHERE id = ?\", (row_id,))")
  | .other => none

/-- What stands for a value that is missing. -/
def missingValue : Scalar :=
  .text "missing_value"

/-- The parameters that fit the placeholders of a query. -/
def fittedParams (query : String) (params : Params) : Params :=
  params.fit (Statement.placeholderCount query.toList) missingValue

/-- What is wrong with a number of parameters. -/
def fitExplanation (placeholders parameters : Nat) : String :=
  if parameters < placeholders then
    let missing := placeholders - parameters
    s!"You have {placeholders} placeholders but only {parameters} parameters. " ++
      s!"Add {missing} more parameter(s)."
  else
    let extra := parameters - placeholders
    s!"You have {parameters} parameters but only {placeholders} placeholders. " ++
      s!"Remove {extra} parameter(s) or add more placeholders."

/-- How to make the parameters of a query fit. -/
def fitSuggestion (query : String) (params : Params) : Suggestion where
  exampleQuery := some query
  exampleCode := some (code [
    "query = ParameterizedQuery(",
    "    text=" ++ (Scalar.text query).literal ++ ",",
    "    params=" ++ (fittedParams query params).toValue.literal ++ ",",
    ")"])
  explanation := fitExplanation (Statement.placeholderCount query.toList) params.size

/-- How to make the fields of an insert fit its values. -/
def fieldSuggestion : Suggestion where
  exampleQuery := some "INSERT INTO table (field1, field2, field3) VALUES (?, ?, ?)"
  exampleCode := some (code [
    "# Ensure the number of fields matches the number of placeholders",
    "fields = [\"field1\", \"field2\", \"field3\"]",
    "placeholders = \", \".join(\"?\" for _ in fields)",
    "sql = f\"INSERT INTO table (\x7b', '.join(fields)\x7d) VALUES (\x7bplaceholders\x7d)\""])
  explanation := "The number of fields in your INSERT statement must match the number of " ++
    "VALUES placeholders. Count them carefully or build both lists from the " ++
    "same sequence of field names."

/-- How to restrict a statement to some rows. -/
def whereSuggestion (verb : String) : Suggestion where
  exampleQuery := some (verb ++ " FROM table WHERE id = ?")
  exampleCode := some (code [
    "# ALWAYS use a WHERE clause with " ++ verb,
    "cursor.execute(\"" ++ verb ++ " FROM table WHERE id = ?\", (row_id,))",
    "",
    "# Or for multiple conditions:",
    "cursor.execute(\"" ++ verb ++
      " FROM table WHERE status = ? AND created_at < ?\", (status, date))"])
  explanation := "CRITICAL: " ++ verb ++ " without WHERE clause will affect ALL rows in the table! " ++
    "Always specify which rows to " ++ verb ++ " using a WHERE clause with appropriate conditions."

/-- How to name the columns of a selection. -/
def columnSuggestion : Suggestion where
  exampleQuery := some "SELECT id, name, email, created_at FROM users WHERE active = ?"
  exampleCode := some (code [
    "# Specify only the columns you need",
    "cursor.execute(\"SELECT id, name, email FROM users WHERE active = ?\", (1,))",
    "",
    "# Benefits:",
    "# 1. Better performance (less data transferred)",
    "# 2. More maintainable (explicit dependencies)",
    "# 3. Safer (won't break if table structure changes)"])
  explanation := "Avoid SELECT * in production code. Explicitly list the columns you need. " ++
    "This improves performance, makes your code more maintainable, and prevents " ++
    "issues when table structure changes."

/-- How to bind the values that stand in the text. -/
def literalSuggestion : Suggestion where
  exampleQuery := some "INSERT INTO logs (message, level, user_id) VALUES (?, ?, ?)"
  exampleCode := some (code [
    "# WRONG: hardcoded value in a parameterized query",
    "# sql = \"INSERT INTO logs (message, level) VALUES (?, 'ERROR')\"",
    "",
    "# CORRECT: use placeholders for all values",
    "sql = \"INSERT INTO logs (message, level, user_id) VALUES (?, ?, ?)\"",
    "cursor.execute(sql, (message, level, user_id))"])
  explanation := "Even in parameterized queries, avoid hardcoding values directly in the SQL. " ++
    "Use placeholders for all dynamic values. This keeps your queries flexible and consistent."

/-- A remedy in words. -/
def suggestion : Remedy → Suggestion
  | .parameterize kind =>
    let example? := parameterizedExample kind
    ⟨example?.map Prod.fst, example?.map Prod.snd, whyParameterize⟩
  | .fitParameters query params => fitSuggestion query params
  | .matchFields => fieldSuggestion
  | .restrictDelete => whereSuggestion "DELETE"
  | .restrictUpdate => whereSuggestion "UPDATE"
  | .nameColumns => columnSuggestion
  | .bindLiterals => literalSuggestion

/-- What keeps a remedy from being put into words: the parameters that it shows. Those that fill up
are under positions no longer than any count. -/
def failure? : Remedy → Option WriteError
  | .fitParameters query params =>
    (params.entries.take (Statement.placeholderCount query.toList)).findSome?
      Params.entryUnwritable?
  | _ => none

end Remedy

/-- The suggestion for a report, if it calls for one. -/
def Report.suggest (r : Report) : Option Suggestion :=
  (Remedy.of r).map Remedy.suggestion

/-- What keeps the suggestion for a report from being put into words. -/
def Report.suggestFailure? (r : Report) : Option WriteError :=
  (Remedy.of r).bind Remedy.failure?

end SqlAudit
