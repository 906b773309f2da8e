import SqlAudit.Report
import SqlAudit.Value.Document

/-!
# Formats

How keys and values become parts of a document, how deeply what is written may be nested, and how
times are read. All this is left to whoever writes documents; `Format.standard` is the usual way.
-/

namespace SqlAudit

/-- Why there is no document. -/
inductive DocumentError where
  /-- It would be nested too deeply. -/
  | tooDeep
deriving DecidableEq, Repr

/-- Why there is no document, in words. -/
def DocumentError.message : DocumentError → String
  | .tooDeep => "Maximum serialization depth exceeded"

/-- How values are written and read. -/
structure Format where
  /-- The name of the member for a key. -/
  name : Key → String
  /-- A bound value in a document. -/
  bound : Scalar → Scalar
  /-- A value that a host put into a report, in a document. -/
  host : Value → Except DocumentError Value
  /-- A scalar of a document as a reply shows it. -/
  reply : Scalar → Scalar
  /-- Reads a time. -/
  time : Value → Checked Timestamp
  /-- How deeply lists and mappings may be nested in what is written as text. -/
  room : Nat

/-- Keys are named as they are displayed, except that halves of pairs are lost. Numbers that are not
finite are null in values of a host and in replies. -/
def Format.standard : Format where
  name k := String.ofList (Text.lossy k.display.toList)
  bound := id
  host v := if v.depth ≤ Value.depthLimit then .ok v.named else .error .tooDeep
  reply := Scalar.orNull
  time := Timestamp.read
  room := 900

end SqlAudit
