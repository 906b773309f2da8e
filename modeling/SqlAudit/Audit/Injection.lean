import SqlAudit.Finding.Remarks
import SqlAudit.Statement

/-!
# Signs of injection

Checks of the text of a query for signs of injected code. Literals, host variables and keywords are
searched in raw queries only, since bound values never become part of the text; comments are
searched in every query.
-/

namespace SqlAudit.Injection

open Statement

/-- The literals of a query, numbered from one. -/
def numbered (sql : List Char) : List (List Char × Nat) :=
  (literals sql).zipIdx 1

/-- The faults of a literal: the idioms that occur in it. -/
def literalFaults (l : List Char × Nat) : List Fault :=
  (Catalog.idioms.filter fun i => i.pattern.occursIn l.1).map fun i =>
    .dangerousLiteral i.description l.2 (preview 50 false l.1)

/-- The names of request data that occur in a query. -/
def superglobalFaults (sql : List Char) : List Fault :=
  (Catalog.superglobals.filter fun name => Text.contains name.toList sql).map .superglobal

/-- The signs of injection that are faults. -/
def faults (parameterized : Bool) (sql : List Char) : List Fault :=
  if parameterized then [] else (numbered sql).flatMap literalFaults ++ superglobalFaults sql

/-- Whether a literal has a backslash, and none next to another. -/
def hasLoneBackslash (s : List Char) : Bool :=
  s.contains '\\' && !Text.contains ['\\', '\\'] s

/-- The cautions about a literal. -/
def literalCautions (l : List Char) : List Caution :=
  if hasLoneBackslash l then [.unescapedBackslash (preview 50 false l)] else []

/-- The cautions about the text of a raw query. -/
def rawCautions (sql : List Char) : List Caution :=
  (literals sql).flatMap literalCautions ++
    (if Catalog.hostVariable.occursIn sql then [.hostVariable] else []) ++
    (Catalog.dangerousKeywords.filter fun k => Text.contains k.toList (Text.upper sql)).map
      .dangerousKeyword

/-- The cautions about comments. -/
def commentCautions (sql : List Char) : List Caution :=
  (if Text.contains "--".toList sql then [.lineComment] else []) ++
    (if Text.contains "/*".toList sql || Text.contains "*/".toList sql then [.blockComment]
      else []) ++
    (if Catalog.hashComment.occursIn sql then [.hashComment] else [])

/-- The signs of injection that are cautions. -/
def cautions (parameterized : Bool) (sql : List Char) : List Caution :=
  (if parameterized then [] else rawCautions sql) ++ commentCautions sql

/-- The notes on the literals of a raw query. -/
def notes (parameterized : Bool) (sql : List Char) : List Note :=
  if parameterized || (literals sql).isEmpty then []
  else .literalCount (literals sql).length ::
    (numbered sql).map fun l => .literalAnalyzed l.2 (preview 50 true l.1)

/-- All that signs of injection give rise to. -/
def remarks (parameterized : Bool) (sql : List Char) : Remarks :=
  ⟨faults parameterized sql, cautions parameterized sql, notes parameterized sql⟩

end SqlAudit.Injection
