import SqlAudit.Pattern.Search

/-!
# The catalogue

The tables and patterns that all checks share: what counts as suspicious inside bound values, as an
injection idiom inside quoted literals, as a dangerous keyword, as a host-language variable, and how
placeholders, literals and statements look.
-/

namespace SqlAudit.Catalog

open Pattern

/-- Texts that are suspicious inside a bound value, in any case. -/
def suspiciousTexts : List String :=
  ["--", "/*", "*/", "xp_", "sp_"]

/-- Keywords that are noteworthy inside a bound value, in any case. -/
def keywords : List String :=
  ["UNION", "DROP", "DELETE", "UPDATE", "INSERT", "SELECT", "OR 1=1", "OR '1'='1'"]

/-- Keywords that are dangerous anywhere in a raw query, in any case. -/
def dangerousKeywords : List String :=
  ["TRUNCATE", "LOAD_FILE", "OUTFILE", "DUMPFILE", "INTO OUTFILE", "INTO DUMPFILE", "EXEC(",
    "EXECUTE(", "BENCHMARK(", "SLEEP(", "WAITFOR DELAY"]

/-- Names of host-language variables that hold request data. -/
def superglobals : List String :=
  ["$_GET", "$_POST", "$_REQUEST", "$_COOKIE", "$_SESSION", "$_SERVER"]

/-- An injection idiom: how it looks, and what it is called. -/
structure Idiom where
  description : String
  pattern : Pattern

/-- `OR`, then an equation between two characters of a class, each perhaps in quotes. -/
def tautology (side : CharClass) : Pattern :=
  keyword "OR" ++ run1 .blank ++ perhaps .quote ++ one side ++ perhaps .quote ++ run .blank ++
    sign '=' ++ run .blank ++ perhaps .quote ++ one side ++ perhaps .quote

/-- The idioms searched for inside quoted literals. -/
def idioms : List Idiom := [
  ⟨"SQL comment (--)", text "--"⟩,
  ⟨"Block comment start (/*)", text "/*"⟩,
  ⟨"Block comment end (*/)", text "*/"⟩,
  ⟨"SQL Server extended procedure (xp_)", keyword "xp_"⟩,
  ⟨"SQL Server system procedure (sp_)", keyword "sp_"⟩,
  ⟨"UNION", wholeWord "UNION"⟩,
  ⟨"DROP", wholeWord "DROP"⟩,
  ⟨"DROP after semicolon", sign ';' ++ run .blank ++ keyword "DROP"⟩,
  ⟨"OR 1=1 pattern", tautology (.exactly '1')⟩,
  ⟨"OR 'x'='x' pattern", tautology .latin⟩]

/-- An element of request data, such as `$_GET[`. -/
def superglobalAccess : Pattern :=
  text "$_" ++ oneOf ["GET", "POST", "REQUEST", "COOKIE", "SESSION"] ++ sign '['

/-- A host-language variable. -/
def hostVariable : Pattern :=
  sign '$' ++ run1 .word

/-- A host-language variable between braces. -/
def interpolation : Pattern :=
  sign '\x7b' ++ sign '$' ++ run1 .word ++ sign '\x7d'

/-- A named placeholder. -/
def namedPlaceholder : Pattern :=
  sign ':' ++ run1 .word

/-- A literal in single quotes; the group is its content. -/
def quotedLiteral : Pattern :=
  sign '\'' ++ group (run (.except '\'')) ++ sign '\''

/-- A comment from a hash sign to the end of the line. -/
def hashComment : Pattern :=
  sign '#' ++ run (.except '\n')

/-- An insert statement with lists of fields and values; the groups are the table, the fields and
the values. -/
def insertStatement : Pattern :=
  keyword "INSERT" ++ run1 .blank ++ keyword "INTO" ++ run1 .blank ++ group (run1 .word) ++
    run .blank ++ sign '(' ++ group (run1 (.except ')')) ++ sign ')' ++
    run .blank ++ keyword "VALUES" ++ run .blank ++ sign '(' ++
    group (run1 (.except ')')) ++ sign ')'

/-- The selection of all columns. -/
def selectStar : Pattern :=
  keyword "SELECT" ++ run1 .blank ++ sign '*'

/-- The keyword that joins tables. -/
def joinKeyword : Pattern :=
  wholeWord "JOIN"

end SqlAudit.Catalog
