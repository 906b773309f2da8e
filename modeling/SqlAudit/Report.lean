import SqlAudit.Finding.Remarks
import SqlAudit.Input.Field
import SqlAudit.Timestamp

/-!
# Reports

The result of auditing one query: what was audited, the findings by severity, and a verdict. A
report is made once, grows by findings, and is then finalized.
-/

namespace SqlAudit

/-- The verdict of a report. -/
inductive Status where
  | pending
  | success
  | error
  | bypassed
deriving DecidableEq, Repr

/-- The name of a status. -/
def Status.name : Status → String
  | .pending => "pending"
  | .success => "success"
  | .error => "error"
  | .bypassed => "bypassed"

/-- Reads the name of a status. -/
def Status.read : Value → Checked Status
  | .text "pending" => .ok .pending
  | .text "success" => .ok .success
  | .text "error" => .ok .error
  | .text "bypassed" => .ok .bypassed
  | .text s => .fail (.text s) (if s.toList.any Text.isHalf then .notUnicode else .unknownStatus)
  | v => .fail v .unknownStatus

/-- A remedy: an example of a better query, of code that runs it, and why it is better. -/
structure Suggestion where
  exampleQuery : Option String
  exampleCode : Option String
  explanation : String
deriving DecidableEq, Repr

/-- Reads the name of a severity. -/
def Severity.read : Value → Checked Severity
  | .text "error" => .ok .error
  | .text "warning" => .ok .warning
  | .text "info" => .ok .info
  | .text s =>
    .fail (.text s) (if s.toList.any Text.isHalf then .notUnicode else .unknownSeverity)
  | v => .fail v .unknownSeverity

namespace Finding

/-- Reads a finding of a severity from its other fields. -/
def read (severity : Severity) (es : Value.Entries) : Checked Finding :=
  ((Field.member es "message" (Field.required (.object es) Field.text)).zip
    (Field.member es "code" (Field.orElse none Field.optionalText))).map
    fun f => ⟨severity, f.1, f.2⟩

/-- Reads a finding of any severity. -/
def ofValue : Value → Checked Finding
  | .object es =>
    let severity := Field.member es "severity" (Field.required (.object es) Severity.read)
    let message := Field.member es "message" (Field.required (.object es) Field.text)
    let code := Field.member es "code" (Field.orElse none Field.optionalText)
    (severity.zip (message.zip code)).map fun (severity, message, code) =>
      ⟨severity, message, code⟩
  | v => .fail v (.notRecord "Finding")

end Finding

/-- Reads a suggestion, or null for none. -/
def Suggestion.ofValue : Value → Checked (Option Suggestion)
  | .null => .ok none
  | .object es =>
    let query := Field.member es "example_query" (Field.orElse none Field.optionalText)
    let code := Field.member es "example_code" (Field.orElse none Field.optionalText)
    let explanation := Field.member es "explanation" (Field.required (.object es) Field.text)
    (query.zip (code.zip explanation)).map fun (query, code, explanation) =>
      some ⟨query, code, explanation⟩
  | v => .fail v (.notRecord "Suggestion")

/-- Reads a time in its machine-readable form. -/
def Timestamp.read : Value → Checked Timestamp
  | .text s => match Timestamp.ofIso? s with
    | some t => .ok t
    | none => .fail (.text s) .notTime
  | v => .fail v .notTime

/-- What a caller says about where a query comes from. -/
abbrev Context := List (String × Value)

/-- The result of auditing a query. A host may put any value in the place of the two flags; whether
it counts as true decides. -/
structure Report where
  query : String
  params : Option Params
  parameterized : Value
  verbose : Value
  status : Status
  errors : List Finding
  warnings : List Finding
  infos : List Finding
  suggestion : Option Suggestion
  message : Option String
  timestamp : Timestamp
  context : Option Context

namespace Report

/-- A report without findings. -/
def blank (query : String) (now : Timestamp) : Report where
  query := query
  params := none
  parameterized := .bool false
  verbose := .bool false
  status := .pending
  errors := []
  warnings := []
  infos := []
  suggestion := none
  message := none
  timestamp := now
  context := none

/-- The report of a query that is not audited. -/
def bypass (query : String) (now : Timestamp) : Report :=
  { blank query now with status := .bypassed, message := some "SQLGuard validation disabled" }

/-- Whether the query is parameterized. -/
def isParameterized (r : Report) : Bool :=
  r.parameterized.isTruthy

/-- Whether information and a suggestion are asked for. -/
def isVerbose (r : Report) : Bool :=
  r.verbose.isTruthy

/-- The bound parameters; none if the report has none. -/
def bound (r : Report) : Params :=
  r.params.getD .empty

/-- A report with one more finding at the end of the list of its severity. -/
def add (r : Report) (f : Finding) : Report :=
  match f.severity with
  | .error => { r with errors := r.errors ++ [f] }
  | .warning => { r with warnings := r.warnings ++ [f] }
  | .info => { r with infos := r.infos ++ [f] }

/-- A report with the remarks of a check; notes are for verbose reports only. -/
def record (r : Report) (found : Remarks) : Report :=
  { r with
    errors := r.errors ++ found.faults.map Fault.finding
    warnings := r.warnings ++ found.cautions.map Caution.finding
    infos := r.infos ++ (if r.isVerbose then found.notes.map Note.finding else []) }

/-- All findings, the gravest first. -/
def findings (r : Report) : List Finding :=
  r.errors ++ r.warnings ++ r.infos

/-- Whether a finding has a code; `none` asks for a finding without one. -/
def hasFinding (r : Report) (code : Option String) : Bool :=
  r.findings.any fun f => f.code == code

/-- Whether a finding has one of the codes of the checks. -/
def found (r : Report) (code : Code) : Bool :=
  r.hasFinding (some code.name)

/-- A report with its verdict: an error if there is any, else a success. -/
def finalize (r : Report) : Report :=
  { r with status := if r.errors.isEmpty then .success else .error }

/-- Whether a query may be run: its report is a success, or it was not audited. -/
def isAcceptable (r : Report) : Bool :=
  r.status == .success || r.status == .bypassed

/-- Whether a report has a context that says anything. -/
def hasContext (r : Report) : Bool :=
  r.context.any fun c => !c.isEmpty

/-- Parameters of a report: null for none, or a mapping. -/
def readParams : Value → Checked (Option Params)
  | .null => .ok none
  | v => (Field.params v).map some

/-- Makes a report from its fields, of which all but the query have defaults, or tells all that is
wrong with them. The default of the time is `now`; `readTime` reads any other. Findings that are
given stay in the lists in which they are given. -/
def ofEntries (es : Value.Entries) (now : Timestamp)
    (readTime : Value → Checked Timestamp := Timestamp.read) : Checked Report :=
  let query := Field.member es "query" (Field.required (.object es) Field.text)
  let params := Field.member es "params" (Field.orElse none readParams)
  let parameterized := Field.member es "is_parameterized" (Field.orElse false Field.bool)
  let verbose := Field.member es "verbose" (Field.orElse false Field.bool)
  let status := Field.member es "status" (Field.orElse .pending Status.read)
  let errors := Field.member es "errors" (Field.orElse [] (Field.list Finding.ofValue))
  let warnings := Field.member es "warnings" (Field.orElse [] (Field.list Finding.ofValue))
  let infos := Field.member es "infos" (Field.orElse [] (Field.list Finding.ofValue))
  let suggestion := Field.member es "suggestion" (Field.orElse none Suggestion.ofValue)
  let message := Field.member es "message" (Field.orElse none Field.optionalText)
  let timestamp := Field.member es "timestamp" (Field.orElse now readTime)
  let context := Field.member es "context" (Field.orElse none Field.context)
  (query.zip (params.zip (parameterized.zip (verbose.zip (status.zip (errors.zip (warnings.zip
    (infos.zip (suggestion.zip (message.zip (timestamp.zip context))))))))))).map
    fun (query, params, parameterized, verbose, status, errors, warnings, infos, suggestion,
        message, timestamp, context) =>
      { query, params, parameterized := .bool parameterized, verbose := .bool verbose, status,
        errors, warnings, infos, suggestion, message, timestamp, context }

end Report

end SqlAudit
