import SqlAudit.Render.Format

/-!
# Reports as documents

A report as a value with named members, as it is posted to web hooks and returned to requests. The
bound values are members of an object, so keys of one name share a member, and the later value
stands.
-/

namespace SqlAudit

/-- A text that may be absent, as a value. -/
def Value.ofOption : Option String → Value
  | some s => .text s
  | none => .null

/-- A finding as a value. -/
def Finding.document (f : Finding) : Value :=
  .record [("severity", .text f.severity.name), ("message", .text f.message),
    ("code", .ofOption f.code)]

/-- A suggestion as a value. -/
def Suggestion.document (s : Suggestion) : Value :=
  .record [("example_query", .ofOption s.exampleQuery), ("example_code", .ofOption s.exampleCode),
    ("explanation", .text s.explanation)]

/-- Bound values as an object. -/
def Params.document (w : Format) (p : Params) : Value :=
  .record (p.entries.map fun e => (w.name e.1, .scalar (w.bound e.2)))

/-- The members of a context. -/
def Context.members (w : Format) : Context → Except DocumentError (List (String × Value))
  | [] => .ok []
  | e :: c => do
    let v ← w.host e.2
    let members ← Context.members w c
    return (w.name (.name e.1), v) :: members

/-- A context as an object; null if there is none. -/
def Context.document (w : Format) : Option Context → Except DocumentError Value
  | none => .ok .null
  | some c => (c.members w).map .record

/-- The members of the document of a report, given what becomes of the values of a host. -/
def Report.members (w : Format) (r : Report) (parameterized verbose context : Value) :
    List (String × Value) := [
  ("query", .text r.query),
  ("params", (r.params.map (Params.document w)).getD .null),
  ("is_parameterized", parameterized),
  ("verbose", verbose),
  ("status", .text r.status.name),
  ("errors", .list (r.errors.map Finding.document)),
  ("warnings", .list (r.warnings.map Finding.document)),
  ("infos", .list (r.infos.map Finding.document)),
  ("suggestion", (r.suggestion.map Suggestion.document).getD .null),
  ("message", .ofOption r.message),
  ("timestamp", .text r.timestamp.iso),
  ("context", context),
  ("error_count", .int r.errors.length),
  ("warning_count", .int r.warnings.length)]

/-- A report as a value, unless it would be nested too deeply. -/
def Report.toDocument (w : Format) (r : Report) : Except DocumentError Value := do
  let parameterized ← w.host r.parameterized
  let verbose ← w.host r.verbose
  let context ← Context.document w r.context
  return .record (r.members w parameterized verbose context)

end SqlAudit
