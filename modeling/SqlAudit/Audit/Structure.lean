import SqlAudit.Finding.Remarks
import SqlAudit.Statement

/-!
# Structure of a query

Checks of the text of a query on its own: balanced parentheses, paired quotes (raw queries only), a
closing semicolon, and what the kind of statement calls for. An insert has as many values as fields,
an update and a delete have a `WHERE`, a selection names its columns.
-/

namespace SqlAudit.Structure

open Statement

/-- The number of items of a list with commas. -/
def itemCount (s : List Char) : Nat :=
  s.count ',' + 1

/-- The table, the fields and the values of an insert statement. -/
structure Insert where
  table : List Char
  fields : List Char
  values : List Char
deriving DecidableEq, Repr

/-- The parts of the first insert statement in a text, if it has lists of fields and values. -/
def insert? (sql : List Char) : Option Insert :=
  match (Catalog.insertStatement.find? sql).map Occurrence.groups with
  | some [table, fields, values] => some ⟨table, fields, values⟩
  | _ => none

/-- The number of `SET` in a query, in any case. -/
def setCount (sql : List Char) : Nat :=
  Text.countOf "SET".toList (Text.upper sql)

/-- The number of joins in a query. -/
def joinCount (sql : List Char) : Nat :=
  (Catalog.joinKeyword.occurrences sql).length

/-! ## Faults -/

/-- Parentheses that are not balanced. -/
def parenthesisFaults (sql : List Char) : List Fault :=
  if sql.count '(' = sql.count ')' then []
  else [.unbalancedParentheses (sql.count '(') (sql.count ')')]

/-- Quotes that are not paired. -/
def quoteFaults (sql : List Char) : List Fault :=
  [Quote.single, Quote.double].flatMap fun q =>
    if sql.count q.sign % 2 = 0 then [] else [.unpairedQuotes q (sql.count q.sign)]

/-- Fields and values of an insert that do not match in number. -/
def insertFaults (parameterized : Bool) (i : Insert) : List Fault :=
  let fields := itemCount i.fields
  if parameterized then
    if fields = placeholderCount i.values then []
    else [.insertPlaceholders fields (placeholderCount i.values)]
  else if fields = itemCount i.values then [] else [.insertValues fields (itemCount i.values)]

/-- What the kind of statement calls for and the query lacks. -/
def kindFaults (parameterized : Bool) (sql : List Char) : List Fault :=
  match kind sql with
  | .insert => (insert? sql).elim [] (insertFaults parameterized)
  | .delete => if hasWhere sql then [] else [.deleteWithoutWhere]
  | _ => []

/-- The faults of the structure of a query. -/
def faults (parameterized : Bool) (sql : List Char) : List Fault :=
  parenthesisFaults sql ++ (if parameterized then [] else quoteFaults sql) ++
    kindFaults parameterized sql

/-! ## Cautions -/

/-- What an update calls for. -/
def updateCautions (sql : List Char) : List Caution :=
  (if hasWhere sql then [] else [.updateWithoutWhere]) ++
    (if 1 < setCount sql then [.repeatedSet (setCount sql)] else [])

/-- The cautions about the structure of a query. -/
def cautions (sql : List Char) : List Caution :=
  (if Text.endsWith ';' (Text.trim sql) then [] else [.missingSemicolon]) ++
    match kind sql with
    | .update => updateCautions sql
    | .select => if Catalog.selectStar.occursIn sql then [.selectStar] else []
    | _ => []

/-! ## Notes -/

/-- Notes on the quotes of a raw query. -/
def quoteNotes (sql : List Char) : List Note :=
  [Quote.single, Quote.double].flatMap fun q =>
    let count := sql.count q.sign
    if count % 2 = 0 ∧ 0 < count then [.pairedQuotes q (count / 2)] else []

/-- Notes on an insert whose fields and values match in number. -/
def insertNotes (parameterized : Bool) (i : Insert) : List Note :=
  let fields := itemCount i.fields
  if parameterized then
    if fields = placeholderCount i.values then
      [.insertPlaceholders fields (placeholderCount i.values), .targetTable i.table]
    else []
  else if fields = itemCount i.values then [.insertValues fields (itemCount i.values)] else []

/-- Notes on the kind of statement. -/
def kindNotes (parameterized : Bool) (sql : List Char) : List Note :=
  match kind sql with
  | .insert => (insert? sql).elim [] (insertNotes parameterized)
  | .update => if hasWhere sql then [.updateWithWhere] else []
  | .select => if 0 < joinCount sql then [.joins (joinCount sql)] else []
  | .delete => if hasWhere sql then [.deleteWithWhere] else []
  | .other => []

/-- The notes on the structure of a query. -/
def notes (parameterized : Bool) (sql : List Char) : List Note :=
  [.excerpt (sql.take 100), .statementType (typeName sql)] ++
    (if sql.count '(' = sql.count ')' then [.balancedParentheses (sql.count '(')] else []) ++
    (if parameterized then [] else quoteNotes sql) ++ kindNotes parameterized sql

/-- All that the structure of a query gives rise to. -/
def remarks (parameterized : Bool) (sql : List Char) : Remarks :=
  ⟨faults parameterized sql, cautions sql, notes parameterized sql⟩

end SqlAudit.Structure
