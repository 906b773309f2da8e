import SqlAudit.Audit.Run
import SqlAudit.Render.Document
import SqlAudit.Render.Html

/-!
# Sessions

Working on one report step by step: making it, adding findings, running single checks, asking for a
suggestion, finalizing, rendering. A step whose input does not fit changes nothing. A step that has
to write what cannot be written fails; what a check has added by then stays.
-/

namespace SqlAudit

/-- One step of a session. -/
inductive Step where
  /-- Makes a new report from its fields. -/
  | new (fields : Value.Entries)
  /-- Makes the report of a query that is not audited. -/
  | bypass (fields : Value.Entries)
  /-- Adds a finding from its fields. -/
  | add (severity : Severity) (fields : Value.Entries)
  /-- Asks for a finding with a code; null asks for one without. -/
  | hasFinding (code : Value)
  | findings
  /-- Runs a check on a text, or on the query as it is. -/
  | checkStructure (sql : Option String)
  | checkBinding (sql : Option String)
  | checkInjection (sql : Option String)
  /-- Asks for a suggestion, and perhaps puts it into the report. -/
  | suggest (attach : Bool)
  | setVerbose (verbose : Value)
  | setParameterized (parameterized : Value)
  | finalize
  | plain
  | html
  | report
  | document

/-- What a step answers. -/
inductive StepAnswer where
  | report (r : Report)
  | counts (errors warnings infos : Nat)
  | flag (b : Bool)
  | findings (fs : List Finding)
  /-- The findings of a report by severity. -/
  | lists (errors warnings infos : List Finding)
  | suggestion (s : Option Suggestion)
  | status (s : Status)
  | text (s : String)
  | document (v : Value)

/-- Why a step has no answer. -/
inductive StepError where
  /-- The input of the step does not fit. -/
  | invalid (errors : List FieldError)
  /-- The step has to write what cannot be written. -/
  | unwritable (e : WriteError)
  /-- The report has no document. -/
  | undocumented (e : DocumentError)

/-- The outcome of a step: the report after it, and the answer. -/
structure StepOutcome where
  report : Report
  answer : Except StepError StepAnswer

namespace Session

/-- Whether a finding has a code, which may be any value. -/
def asks (r : Report) : Value → Bool
  | .null => r.hasFinding none
  | .text s => r.hasFinding (some s)
  | _ => false

/-- The outcome of a step that reads its input: a report made of it, or `r` as it is. -/
def reading {α : Type} (r : Report) (input : Checked α) (outcome : α → Report × StepAnswer) :
    StepOutcome :=
  match input with
  | .ok a => ⟨(outcome a).1, .ok (outcome a).2⟩
  | .error es => ⟨r, .error (.invalid es)⟩

/-- The outcome of a step that writes: a text made of `r`, which stays as it is. -/
def writing (r : Report) (text : Except WriteError String) : StepOutcome :=
  ⟨r, (text.map .text).mapError .unwritable⟩

/-- The outcome of a check. -/
def checked (r : Report) (failure? : Option WriteError) : StepOutcome :=
  ⟨r, (writtenUnless failure? (.lists r.errors r.warnings r.infos)).mapError .unwritable⟩

/-- A step on a report. -/
def stepOn (w : Format) (now : Timestamp) (r : Report) : Step → StepOutcome
  | .new es => reading r (Report.ofEntries es now w.time) fun r => (r, .report r)
  | .bypass es =>
    reading r (Field.member es "query" (Field.required (.object es) Field.text)) fun q =>
      (Report.bypass q now, .report (Report.bypass q now))
  | .add severity es => reading r (Finding.read severity es) fun f =>
      let r := r.add f
      (r, .counts r.errors.length r.warnings.length r.infos.length)
  | .hasFinding code => ⟨r, .ok (.flag (asks r code))⟩
  | .findings => ⟨r, .ok (.findings r.findings)⟩
  | .checkStructure sql => checked (r.checkStructure (textOf sql)) none
  | .checkBinding sql => checked (r.afterBinding (textOf sql)) r.bindingFailure?
  | .checkInjection sql => checked (r.checkInjection (textOf sql)) none
  | .suggest attach =>
    match writtenUnless r.suggestFailure? r.suggest with
    | .ok suggestion => ⟨if attach then { r with suggestion } else r, .ok (.suggestion suggestion)⟩
    | .error e => ⟨r, .error (.unwritable e)⟩
  | .setVerbose verbose => ⟨{ r with verbose }, .ok (.report { r with verbose })⟩
  | .setParameterized parameterized =>
    ⟨{ r with parameterized }, .ok (.report { r with parameterized })⟩
  | .finalize => ⟨r.finalize, .ok (.status r.finalize.status)⟩
  | .plain => writing r (r.toPlain w.room)
  | .html => writing r (r.toHtml w.room)
  | .report => ⟨r, .ok (.report r)⟩
  | .document => ⟨r, ((r.toDocument w).map .document).mapError .undocumented⟩
where
  /-- The text that a check is run on. -/
  textOf (sql : Option String) : List Char := (sql.getD r.query).toList

/-- The answer of a step as a session notes it. A session goes on after input that does not fit, and
ends at any other failure. -/
def settle : Except StepError StepAnswer → Except StepError (Checked StepAnswer)
  | .ok answer => .ok (.ok answer)
  | .error (.invalid es) => .ok (.error es)
  | .error e => .error e

/-- The answers of steps one after another, each on the report that the last one left, or why the
session ends early. -/
def run (w : Format) (now : Timestamp) (r : Report) :
    List Step → Except StepError (List (Checked StepAnswer))
  | [] => .ok []
  | s :: ss => do
    let o := stepOn w now r s
    let answer ← settle o.answer
    let answers ← run w now o.report ss
    return answer :: answers

end Session

end SqlAudit
