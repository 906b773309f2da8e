import SqlAudit.Audit.Binding
import SqlAudit.Audit.Injection
import SqlAudit.Audit.Structure
import SqlAudit.Query
import SqlAudit.Remedy

/-!
# Auditing a query

All checks in their order, on the trimmed text of a query: structure, bindings, signs of injection,
then a suggestion, then the verdict. `Audit.run` takes a submission and options as callers give
them, and refuses what does not fit. It takes every bound value as one that can be written;
`Audit.attempt` is the audit that callers see, which fails at a bound value that cannot be.
-/

namespace SqlAudit

namespace Report

/-- A report with the remarks on the structure of a text. -/
def checkStructure (r : Report) (sql : List Char) : Report :=
  r.record (Structure.remarks r.isParameterized sql)

/-- A report with the remarks on the bindings of a text, if it is parameterized. -/
def checkBinding (r : Report) (sql : List Char) : Report :=
  if r.isParameterized then r.record (Binding.remarks r.bound sql) else r

/-- What keeps the remarks on the bindings of a report from being written. -/
def bindingFailure? (r : Report) : Option WriteError :=
  if r.isParameterized then r.bound.entries.findSome? (Binding.failure? r.isVerbose) else none

/-- A report after the check of the bindings of a text, which ends at the first bound value whose
remarks cannot be written. -/
def afterBinding (r : Report) (sql : List Char) : Report :=
  match r.bindingFailure? with
  | none => r.checkBinding sql
  | some _ => r.record (Binding.remarksBefore r.isVerbose r.bound sql)

/-- A report with the remarks on signs of injection in a text. -/
def checkInjection (r : Report) (sql : List Char) : Report :=
  r.record (Injection.remarks r.isParameterized sql)

end Report

/-- How a query is to be audited. Any value may be given; whether it counts as true decides. -/
structure Options where
  enabled : Value := .bool true
  verbose : Value := .bool false
  context : Value := .null

namespace Audit

/-- A report with the opening remark on the kind of query. `loud` tells whether the caller asked
for information. -/
def opening (loud : Bool) (r : Report) : Report :=
  if r.isParameterized then
    if loud then
      (r.add Note.parameterizedQuery.finding).add (Note.parameterCount r.bound.size).finding
    else r
  else r.add Caution.nonParameterized.finding

/-- A report after all checks of a text that is not blank. -/
def checks (loud : Bool) (sql : List Char) (r : Report) : Report :=
  let r := opening loud r
  let r := ((r.checkStructure sql).checkBinding sql).checkInjection sql
  if loud then { r with suggestion := r.suggest } else r

/-- A report after all checks of its query. -/
def inspect (loud : Bool) (r : Report) : Report :=
  let sql := Text.trim r.query.toList
  (if sql.isEmpty then r.add Fault.emptyQuery.finding else checks loud sql r).finalize

/-- The report of a query before any check. -/
def begin (now : Timestamp) (q : Query) (verbose context : Value) : Checked Report :=
  ((Checked.under (.name "verbose") (Field.bool verbose)).zip
    (Checked.under (.name "context") (Field.context context))).map fun o =>
      { Report.blank q.text now with
        params := q.params, parameterized := .bool q.isParameterized, verbose := .bool o.1,
        context := o.2 }

/-- Audits a submission. If auditing is not enabled, the report says so and nothing else. -/
def run (now : Timestamp) (s : Submission) (o : Options) : Except Rejection Report := do
  if !o.enabled.isTruthy then
    let text ← (Checked.under (.name "query") (Field.text s.text)).toCall
    return Report.bypass text now
  let q ← s.toQuery
  let r ← (begin now q o.verbose o.context).toCall
  return inspect o.verbose.isTruthy r

end Audit

/-- Why a call returns no report. -/
inductive CallError where
  /-- The submission or an option does not fit. -/
  | rejected (e : Rejection)
  /-- Something has to be written that cannot be. -/
  | unwritable (e : WriteError)

namespace Audit

/-- A report after all checks of a text that is not blank, unless something has to be written that
cannot be. -/
def tryChecks (loud : Bool) (sql : List Char) (r : Report) : Except WriteError Report := do
  let r := (opening loud r).checkStructure sql
  let r ← writtenUnless r.bindingFailure? (r.checkBinding sql)
  let r := r.checkInjection sql
  if loud then writtenUnless r.suggestFailure? { r with suggestion := r.suggest } else return r

/-- A report after all checks of its query, unless something has to be written that cannot be. -/
def tryInspect (loud : Bool) (r : Report) : Except WriteError Report :=
  let sql := Text.trim r.query.toList
  (if sql.isEmpty then .ok (r.add Fault.emptyQuery.finding) else tryChecks loud sql r).map
    Report.finalize

/-- Audits a submission, unless something has to be written that cannot be. -/
def attempt (now : Timestamp) (s : Submission) (o : Options) : Except CallError Report := do
  if !o.enabled.isTruthy then
    let text ← (Checked.under (.name "query") (Field.text s.text)).toCall.mapError .rejected
    return Report.bypass text now
  let q ← s.toQuery.mapError .rejected
  let r ← (begin now q o.verbose o.context).toCall.mapError .rejected
  (tryInspect o.verbose.isTruthy r).mapError .unwritable

end Audit

end SqlAudit
