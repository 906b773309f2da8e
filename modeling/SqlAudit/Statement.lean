import SqlAudit.Catalog
import SqlAudit.Text.Search
import SqlAudit.Text.Upper

/-!
# Statements

What the checks read off the text of a query: the type of the statement, its placeholders and its
quoted literals, and how a long text is cut for display.
-/

namespace SqlAudit.Statement

/-- The first token of a query in upper case; empty for a blank query. -/
def typeName (sql : List Char) : List Char :=
  Text.upper (Text.firstToken sql)

/-- The statements with a check of their own. -/
inductive Kind where
  | insert
  | update
  | select
  | delete
  | other
deriving DecidableEq, Repr

/-- The kind that a type name stands for. -/
def Kind.ofName (name : List Char) : Kind :=
  if name = "INSERT".toList then .insert
  else if name = "UPDATE".toList then .update
  else if name = "SELECT".toList then .select
  else if name = "DELETE".toList then .delete
  else .other

/-- The kind of a statement. -/
def kind (sql : List Char) : Kind :=
  .ofName (typeName sql)

/-- The named placeholders, with their colons, from left to right. -/
def namedPlaceholders (sql : List Char) : List (List Char) :=
  (Catalog.namedPlaceholder.occurrences sql).map Occurrence.text

/-- The number of positional placeholders. -/
def positionalCount (sql : List Char) : Nat :=
  sql.count '?'

/-- The number of named placeholders. -/
def namedCount (sql : List Char) : Nat :=
  (namedPlaceholders sql).length

/-- The number of placeholders of both styles. -/
def placeholderCount (sql : List Char) : Nat :=
  positionalCount sql + namedCount sql

/-- The contents of the literals in single quotes, from left to right. -/
def literals (sql : List Char) : List (List Char) :=
  (Catalog.quotedLiteral.occurrences sql).flatMap Occurrence.groups

/-- Whether the upper case of a query has a `WHERE`. -/
def hasWhere (sql : List Char) : Bool :=
  Text.contains "WHERE".toList (Text.upper sql)

/-- The first `limit` characters of a text; a negative limit counts from the end. -/
def cut (limit : Int) (s : List Char) : List Char :=
  s.take (if 0 ≤ limit then limit else s.length + limit).toNat

/-- A text, cut and perhaps marked with dots when it is longer than the limit. -/
def preview (limit : Int) (dots : Bool) (s : List Char) : List Char :=
  if s.length ≤ limit then s else cut limit s ++ (if dots then ['.', '.', '.'] else [])

end SqlAudit.Statement
