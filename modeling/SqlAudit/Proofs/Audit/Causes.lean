import SqlAudit.Validator

/-!
# The causes of the findings of an audit

The findings of an audit come from lists of causes that depend on the query alone, but for notes:
`Audit.faults`, `Audit.cautions` and `Audit.notes`. Main statements:

* `faults_parameterized`, `cautions_parameterized`, `faults_raw`: the causes of the two kinds of
  queries, in the order of the checks;
* `run_eq_ok_iff`: what an audit that is enabled takes, and the report that it returns;
* `errors_inspect`, `warnings_inspect`, `infos_inspect`, `status_inspect`, `suggestion_inspect`:
  what this report holds;
* `found_inspect_iff`: a report has a finding with a code if and only if it has a cause with it.
-/

namespace SqlAudit

/-! ## Remarks -/

namespace Remarks

/-- No remarks. -/
def none : Remarks := ⟨[], [], []⟩

/-- The remarks of one check, then those of another. -/
instance : Append Remarks :=
  ⟨fun a b => ⟨a.faults ++ b.faults, a.cautions ++ b.cautions, a.notes ++ b.notes⟩⟩

@[simp] theorem faults_append (a b : Remarks) : (a ++ b).faults = a.faults ++ b.faults := rfl

@[simp] theorem cautions_append (a b : Remarks) : (a ++ b).cautions = a.cautions ++ b.cautions :=
  rfl

@[simp] theorem notes_append (a b : Remarks) : (a ++ b).notes = a.notes ++ b.notes := rfl

end Remarks

namespace Report

theorem record_none (r : Report) : r.record .none = r := by
  simp [record, Remarks.none]

/-- Remarks are recorded all at once or one after another. -/
theorem record_append (r : Report) (a b : Remarks) : r.record (a ++ b) = (r.record a).record b := by
  have hv : (r.record a).isVerbose = r.isVerbose := rfl
  rw [record, record, hv]
  simp only [record, Remarks.faults_append, Remarks.cautions_append, Remarks.notes_append,
    List.map_append, List.append_assoc]
  split <;> rfl

theorem checkBinding_eq (r : Report) (sql : List Char) : r.checkBinding sql =
    r.record (if r.isParameterized then Binding.remarks r.bound sql else .none) := by
  rw [checkBinding]
  split
  · rfl
  · exact (record_none r).symm

end Report

/-- The bound parameters of a query; a raw query has none. -/
def Query.bound (q : Query) : Params :=
  q.params.getD .empty

namespace Audit

/-- The remarks of all checks on a text. -/
def remarks (parameterized : Bool) (params : Params) (sql : List Char) : Remarks :=
  Structure.remarks parameterized sql ++
    (if parameterized then Binding.remarks params sql else .none) ++
    Injection.remarks parameterized sql

theorem faults_remarks (parameterized : Bool) (params : Params) (sql : List Char) :
    (remarks parameterized params sql).faults = Structure.faults parameterized sql ++
      (if parameterized then Binding.faults params sql else []) ++
      Injection.faults parameterized sql := by
  cases parameterized <;> rfl

theorem cautions_remarks (parameterized : Bool) (params : Params) (sql : List Char) :
    (remarks parameterized params sql).cautions = Structure.cautions sql ++
      (if parameterized then Binding.cautions params sql else []) ++
      Injection.cautions parameterized sql := by
  cases parameterized <;> rfl

theorem notes_remarks (parameterized : Bool) (params : Params) (sql : List Char) :
    (remarks parameterized params sql).notes = Structure.notes parameterized sql ++
      (if parameterized then Binding.notes params sql else []) ++
      Injection.notes parameterized sql := by
  cases parameterized <;> rfl

/-- The checks of a text, in their order, record their remarks at once. -/
theorem checkAll_eq (r : Report) (sql : List Char) :
    ((r.checkStructure sql).checkBinding sql).checkInjection sql =
      r.record (remarks r.isParameterized r.bound sql) := by
  rw [remarks, Report.record_append, Report.record_append, Report.checkBinding_eq]
  rfl

/-! ## Causes -/

/-- The faults of a query. -/
def faults (q : Query) : List Fault :=
  let sql := Text.trim q.text.toList
  if sql.isEmpty then [.emptyQuery] else (remarks q.isParameterized q.bound sql).faults

/-- The cautions about a query. -/
def cautions (q : Query) : List Caution :=
  let sql := Text.trim q.text.toList
  if sql.isEmpty then []
  else (if q.isParameterized then [] else [.nonParameterized]) ++
    (remarks q.isParameterized q.bound sql).cautions

/-- The notes on a query: those that the caller asks for, then those that the report asks for. -/
def notes (loud verbose : Bool) (q : Query) : List Note :=
  let sql := Text.trim q.text.toList
  if sql.isEmpty then []
  else (if loud && q.isParameterized then [.parameterizedQuery, .parameterCount q.bound.size]
      else []) ++
    (if verbose then (remarks q.isParameterized q.bound sql).notes else [])

theorem faults_of_blank {q : Query} (h : (Text.trim q.text.toList).isEmpty = true) :
    faults q = [.emptyQuery] := by
  rw [faults, h]
  rfl

section Text

variable {q : Query} (h : (Text.trim q.text.toList).isEmpty = false)
include h

theorem faults_of_text :
    faults q = (remarks q.isParameterized q.bound (Text.trim q.text.toList)).faults := by
  rw [faults, h]
  rfl

theorem cautions_of_text : cautions q =
    (if q.isParameterized then [] else [.nonParameterized]) ++
      (remarks q.isParameterized q.bound (Text.trim q.text.toList)).cautions := by
  rw [cautions, h]
  rfl

theorem notes_of_text (loud verbose : Bool) : notes loud verbose q =
    (if loud && q.isParameterized then [.parameterizedQuery, .parameterCount q.bound.size] else [])
      ++ (if verbose then (remarks q.isParameterized q.bound (Text.trim q.text.toList)).notes
        else []) := by
  rw [notes, h]
  rfl

end Text

section Kinds

variable {t : String} (h : (Text.trim t.toList).isEmpty = false)
include h

theorem faults_parameterized (p : Params) : faults (.parameterized t p) =
    Structure.faults true (Text.trim t.toList) ++ Binding.faults p (Text.trim t.toList) := by
  rw [faults_of_text (q := .parameterized t p) h, faults_remarks]
  simp only [Query.isParameterized, Query.text, Query.bound, Query.params, Option.getD_some,
    Injection.faults, if_true, List.append_nil]

theorem cautions_parameterized (p : Params) : cautions (.parameterized t p) =
    Structure.cautions (Text.trim t.toList) ++ Binding.cautions p (Text.trim t.toList) ++
      Injection.cautions true (Text.trim t.toList) := by
  rw [cautions_of_text (q := .parameterized t p) h, cautions_remarks]
  simp only [Query.isParameterized, Query.text, Query.bound, Query.params, Option.getD_some,
    if_true, List.nil_append]

theorem faults_raw : faults (.raw t) =
    Structure.faults false (Text.trim t.toList) ++ Injection.faults false (Text.trim t.toList) := by
  rw [faults_of_text (q := .raw t) h, faults_remarks]
  simp only [Query.isParameterized, Query.text, Bool.false_eq_true, if_false, List.append_nil]

end Kinds

/-! ## The report of an audit -/

/-- The report of a query before any check. -/
def draft (now : Timestamp) (q : Query) (verbose : Bool) (context : Option Context) : Report :=
  { Report.blank q.text now with
    params := q.params, parameterized := .bool q.isParameterized, verbose := .bool verbose,
    context }

theorem opening_eq (loud : Bool) (r : Report) : opening loud r =
    { r with
      warnings := r.warnings ++ (if r.isParameterized then [] else [.nonParameterized]).map
        Caution.finding
      infos := r.infos ++ (if loud && r.isParameterized then
        [.parameterizedQuery, .parameterCount r.bound.size] else []).map Note.finding } := by
  rw [opening]
  cases r.isParameterized <;> cases loud <;> simp [Report.add, Caution.finding, Note.finding]

section Inspect

variable (loud : Bool) (now : Timestamp) (q : Query) (verbose : Bool) (context : Option Context)

/-- The report of a query with the findings of all checks. -/
def checked : Report :=
  { draft now q verbose context with
    errors := (faults q).map Fault.finding
    warnings := (cautions q).map Caution.finding
    infos := (notes loud verbose q).map Note.finding }

theorem record_opening_draft (h : (Text.trim q.text.toList).isEmpty = false) :
    (opening loud (draft now q verbose context)).record
        (remarks q.isParameterized q.bound (Text.trim q.text.toList)) =
      checked loud now q verbose context := by
  have hv : (opening loud (draft now q verbose context)).isVerbose = verbose := by
    rw [opening_eq]
    rfl
  have hp : (draft now q verbose context).isParameterized = q.isParameterized := rfl
  have hb : (draft now q verbose context).bound = q.bound := rfl
  rw [Report.record, hv, opening_eq, hp, hb, checked, faults_of_text h, cautions_of_text h,
    notes_of_text h, List.map_append, List.map_append]
  simp only [draft, Report.blank, List.nil_append]
  cases verbose <;> simp only [if_true, Bool.false_eq_true, if_false, List.map_nil]

theorem checks_draft (h : (Text.trim q.text.toList).isEmpty = false) :
    checks loud (Text.trim q.text.toList) (draft now q verbose context) =
      let r := checked loud now q verbose context
      { r with suggestion := if loud then r.suggest else none } := by
  have hp : (opening loud (draft now q verbose context)).isParameterized = q.isParameterized := by
    rw [opening_eq]
    rfl
  have hb : (opening loud (draft now q verbose context)).bound = q.bound := by
    rw [opening_eq]
    rfl
  rw [checks, checkAll_eq, hp, hb, record_opening_draft loud now q verbose context h]
  cases loud <;> rfl

/-- All that the checks of a query change. -/
theorem inspect_draft : inspect loud (draft now q verbose context) =
    let r := checked loud now q verbose context
    { r with
      status := if faults q = [] then .success else .error
      suggestion := if loud && !(Text.trim q.text.toList).isEmpty then r.suggest else none } := by
  have hq : (draft now q verbose context).query = q.text := rfl
  rw [inspect, hq]
  cases h : (Text.trim q.text.toList).isEmpty with
  | true =>
    simp only [checked, faults, cautions, notes, h, if_true]
    cases loud <;> rfl
  | false =>
    have hs : (if (faults q).map Fault.finding = [] then Status.success else .error) =
        if faults q = [] then .success else .error := by
      simp only [List.map_eq_nil_iff]
    rw [if_neg Bool.false_ne_true, checks_draft loud now q verbose context h]
    simp only [Report.finalize, List.isEmpty_iff, checked, hs, Bool.not_false, Bool.and_true]

@[simp] theorem errors_inspect : (inspect loud (draft now q verbose context)).errors =
    (faults q).map Fault.finding := by
  rw [inspect_draft]
  rfl

@[simp] theorem warnings_inspect : (inspect loud (draft now q verbose context)).warnings =
    (cautions q).map Caution.finding := by
  rw [inspect_draft]
  rfl

@[simp] theorem infos_inspect : (inspect loud (draft now q verbose context)).infos =
    (notes loud verbose q).map Note.finding := by
  rw [inspect_draft]
  rfl

@[simp] theorem status_inspect : (inspect loud (draft now q verbose context)).status =
    if faults q = [] then .success else .error := by
  rw [inspect_draft]

@[simp] theorem query_inspect : (inspect loud (draft now q verbose context)).query = q.text := by
  rw [inspect_draft]
  rfl

@[simp] theorem bound_inspect : (inspect loud (draft now q verbose context)).bound = q.bound := by
  rw [inspect_draft]
  rfl

@[simp] theorem isParameterized_inspect :
    (inspect loud (draft now q verbose context)).isParameterized = q.isParameterized := by
  rw [inspect_draft]
  rfl

@[simp] theorem isVerbose_inspect :
    (inspect loud (draft now q verbose context)).isVerbose = verbose := by
  rw [inspect_draft]
  rfl

/-- The suggestion of a finished report is the one that the report itself calls for. -/
theorem suggestion_inspect : (inspect loud (draft now q verbose context)).suggestion =
    if loud && !(Text.trim q.text.toList).isEmpty then
      (inspect loud (draft now q verbose context)).suggest
    else none := by
  rw [inspect_draft]
  rfl

end Inspect

/-! ## Running an audit -/

theorem begin_eq_ok_iff {now : Timestamp} {q : Query} {verbose context : Value} {r : Report} :
    begin now q verbose context = .ok r ↔ ∃ b c, Field.bool verbose = .ok b ∧
      Field.context context = .ok c ∧ r = draft now q b c := by
  rw [begin]
  cases Field.bool verbose <;> cases Field.context context <;>
    simp [Checked.under, Checked.zip, Except.map, draft, eq_comm]

theorem toCall_eq_ok_iff {α : Type} {x : Checked α} {a : α} : x.toCall = .ok a ↔ x = .ok a := by
  cases x <;> simp [Checked.toCall]

theorem bind_eq_ok_iff {ε α β : Type} {x : Except ε α} {f : α → Except ε β} {b : β} :
    (x >>= f) = .ok b ↔ ∃ a, x = .ok a ∧ f a = .ok b := by
  cases x <;> simp [bind, Except.bind]

theorem bind_eq_error_iff {ε α β : Type} {x : Except ε α} {f : α → Except ε β} {e : ε} :
    (x >>= f) = .error e ↔ x = .error e ∨ ∃ a, x = .ok a ∧ f a = .error e := by
  cases x <;> simp [bind, Except.bind]

theorem mapError_eq_ok_iff {ε δ α : Type} {x : Except ε α} {f : ε → δ} {a : α} :
    x.mapError f = .ok a ↔ x = .ok a := by
  cases x with
  | error e => exact iff_of_false (by rintro ⟨⟩) (by rintro ⟨⟩)
  | ok b =>
    constructor
    · rintro ⟨⟩
      rfl
    · rintro ⟨⟩
      rfl

theorem mapError_eq_error_iff {ε δ α : Type} {x : Except ε α} {f : ε → δ} {d : δ} :
    x.mapError f = .error d ↔ ∃ e, x = .error e ∧ f e = d := by
  cases x with
  | error e =>
    constructor
    · rintro ⟨⟩
      exact ⟨e, rfl, rfl⟩
    · rintro ⟨_, ⟨⟩, rfl⟩
      rfl
  | ok b => exact iff_of_false (by rintro ⟨⟩) (by rintro ⟨_, ⟨⟩, -⟩)

theorem run_of_enabled {o : Options} (he : o.enabled.isTruthy = true) (now : Timestamp)
    (s : Submission) : run now s o = (do
      let q ← s.toQuery
      let r ← (begin now q o.verbose o.context).toCall
      .ok (inspect o.verbose.isTruthy r)) := by
  rw [run, he]
  rfl

theorem run_of_disabled {o : Options} (he : o.enabled.isTruthy = false) (now : Timestamp)
    (s : Submission) : run now s o = ((Checked.under (.name "query") (Field.text s.text)).toCall >>=
      fun text => .ok (Report.bypass text now)) := by
  rw [run, he]
  rfl

/-- An audit that is not enabled takes any text. -/
theorem run_of_text {o : Options} (he : o.enabled.isTruthy = false) {s : Submission} {t : String}
    (ht : s.text = .text t) (now : Timestamp) : run now s o = .ok (Report.bypass t now) := by
  rw [run_of_disabled he, ht]
  rfl

/-- An audit that is enabled returns a report if and only if the submission is a query and the
options fit, and then it is the report of all checks. -/
theorem run_eq_ok_iff {now : Timestamp} {s : Submission} {o : Options} {r : Report}
    (he : o.enabled.isTruthy = true) :
    run now s o = .ok r ↔ ∃ q b c, s.toQuery = .ok q ∧ Field.bool o.verbose = .ok b ∧
      Field.context o.context = .ok c ∧ r = inspect o.verbose.isTruthy (draft now q b c) := by
  rw [run_of_enabled he, bind_eq_ok_iff]
  constructor
  · rintro ⟨q, hq, h⟩
    obtain ⟨d, hd, hr⟩ := bind_eq_ok_iff.1 h
    obtain ⟨b, c, hb, hc, rfl⟩ := begin_eq_ok_iff.1 (toCall_eq_ok_iff.1 hd)
    exact ⟨q, b, c, hq, hb, hc, (Except.ok.inj hr).symm⟩
  · rintro ⟨q, b, c, hq, hb, hc, rfl⟩
    have hd := toCall_eq_ok_iff.2 (begin_eq_ok_iff.2 ⟨b, c, hb, hc, rfl⟩ : begin now q _ _ = _)
    exact ⟨q, hq, bind_eq_ok_iff.2 ⟨_, hd, rfl⟩⟩

/-- An audit that is not enabled says so, and nothing else. -/
theorem eq_bypass_of_run {now : Timestamp} {s : Submission} {o : Options} {r : Report}
    (he : o.enabled.isTruthy = false) (h : run now s o = .ok r) :
    ∃ text, r = Report.bypass text now := by
  rw [run_of_disabled he] at h
  obtain ⟨text, -, hr⟩ := bind_eq_ok_iff.1 h
  exact ⟨text, (Except.ok.inj hr).symm⟩

end Audit

/-- Options with which every query is audited: auditing is enabled, and the rest can be read. -/
structure Options.Audits (o : Options) : Prop where
  enabled : o.enabled.isTruthy = true
  verbose : ∃ b, Field.bool o.verbose = .ok b
  context : ∃ c, Field.context o.context = .ok c

namespace Validator

/-- The validator that sends no alerts. -/
def silent : Validator := ⟨none⟩

/-- Without a channel, a call is nothing but an audit. -/
theorem validate_silent (wire : Wire) (now : Timestamp) (s : Submission) (o : Options) :
    silent.validate wire now s o = ⟨Audit.run now s o, [], silent⟩ := by
  rw [validate]
  cases Audit.run now s o <;> rfl

/-- A call that audits returns the report of the query that was submitted. -/
theorem validate_eq_ok_iff {wire : Wire} {now : Timestamp} {s : Submission} {o : Options}
    {r : Report} (he : o.enabled.isTruthy = true) : (silent.validate wire now s o).result = .ok r ↔
      ∃ q b c, s.toQuery = .ok q ∧ Field.bool o.verbose = .ok b ∧ Field.context o.context = .ok c ∧
        r = Audit.inspect o.verbose.isTruthy (Audit.draft now q b c) := by
  rw [validate_silent]
  exact Audit.run_eq_ok_iff he

/-- The report of a query that is audited. -/
theorem validate_query_eq_ok {o : Options} (ho : o.Audits) (wire : Wire) (now : Timestamp)
    (q : Query) : ∃ b c, (silent.validate wire now (.query q) o).result =
      .ok (Audit.inspect o.verbose.isTruthy (Audit.draft now q b c)) := by
  obtain ⟨b, hb⟩ := ho.verbose
  obtain ⟨c, hc⟩ := ho.context
  exact ⟨b, c, (validate_eq_ok_iff ho.enabled).2 ⟨q, b, c, rfl, hb, hc, rfl⟩⟩

/-- Sending a report leaves its errors as they are; without a channel, all of it. -/
theorem finish_eq_ok {ε : Type} (v : Validator) (wire : Wire) (r : Report) :
    ∃ r', (v.finish (ε := ε) wire r).result = .ok r' ∧ r'.errors = r.errors ∧
      (v.channel = none → r' = r) := by
  obtain ⟨_ | c⟩ := v
  · exact ⟨r, rfl, rfl, fun _ => rfl⟩
  · by_cases hr : r.errors.isEmpty
    · refine ⟨r, ?_, rfl, fun _ => rfl⟩
      simp only [finish, hr, if_true]
    · refine ⟨r.add (alertFinding c.name (c.dispatch wire r).failure), ?_, ?_, fun hc => nomatch hc⟩
      · simp only [finish, hr, Bool.false_eq_true, if_false]
      · cases (c.dispatch wire r).failure <;> rfl

/-- A call that audits returns a report with the errors of the query; without a channel, also with
its warnings. -/
theorem validate_audits {o : Options} (ho : o.Audits) {s : Submission} {q : Query}
    (hq : s.toQuery = .ok q) (v : Validator) (wire : Wire) (now : Timestamp) :
    ∃ r, (v.validate wire now s o).result = .ok r ∧
      r.errors = (Audit.faults q).map Fault.finding ∧
      (v.channel = none → r.warnings = (Audit.cautions q).map Caution.finding) := by
  obtain ⟨b, hb⟩ := ho.verbose
  obtain ⟨c, hc⟩ := ho.context
  have hrun : Audit.run now s o = .ok (Audit.inspect o.verbose.isTruthy (Audit.draft now q b c)) :=
    (Audit.run_eq_ok_iff ho.enabled).2 ⟨q, b, c, hq, hb, hc, rfl⟩
  obtain ⟨r, hr, he, hn⟩ := v.finish_eq_ok wire
    (Audit.inspect o.verbose.isTruthy (Audit.draft now q b c))
  refine ⟨r, ?_, he.trans (Audit.errors_inspect ..), fun hv => ?_⟩
  · rw [validate, hrun]
    exact hr
  · rw [hn hv, Audit.warnings_inspect]

end Validator

/-! ## Codes -/

/-- All codes. -/
def Code.all : List Code :=
  [.emptyQuery, .unbalancedParentheses, .unpairedSingleQuotes, .unpairedDoubleQuotes,
    .insertPlaceholderCountMismatch, .insertValueCountMismatch, .deleteWithoutWhere,
    .placeholderCountMismatch, .mixedPlaceholders, .superglobalInQuery, .hostVariableInQuery,
    .dangerousLiteralPattern, .nonParameterized, .missingSemicolon, .updateWithoutWhere,
    .multipleSetClauses, .selectStar, .suspiciousParameter, .sqlKeywordInParameter,
    .hardcodedLiteral, .unescapedBackslash, .dangerousKeyword, .lineComment, .blockComment,
    .hashComment, .notificationSent, .notificationFailed]

theorem Code.mem_all (c : Code) : c ∈ Code.all := by
  cases c <;> decide

/-- Codes have different names. -/
theorem Code.name_inj {c d : Code} : c.name = d.name ↔ c = d := by
  have h : ∀ c ∈ Code.all, ∀ d ∈ Code.all, c.name = d.name → c = d := by decide +kernel
  exact ⟨h c c.mem_all d d.mem_all, congrArg Code.name⟩

theorem Note.code_ne {n : Note} {code : Code} (hc : code ≠ .notificationSent) :
    n.code ≠ some code := by
  cases n <;> simp [Note.code, hc.symm]

namespace Audit

/-- A finished report has a finding with a code if and only if the query gives cause for it. -/
theorem found_inspect_iff (loud : Bool) (now : Timestamp) (q : Query) (verbose : Bool)
    (context : Option Context) {code : Code} (hc : code ≠ .notificationSent) :
    (inspect loud (draft now q verbose context)).found code = true ↔
      (∃ f ∈ faults q, f.code = code) ∨ ∃ c ∈ cautions q, c.code = code := by
  simp only [Report.found, Report.hasFinding, Report.findings, errors_inspect, warnings_inspect,
    infos_inspect, List.any_append, Bool.or_eq_true, List.any_map, List.any_eq_true,
    Function.comp_apply, Fault.finding, Caution.finding, Note.finding, beq_iff_eq,
    Option.some.injEq, Code.name_inj, Option.map_eq_some_iff, exists_eq_right, Note.code_ne hc,
    and_false, exists_false, or_false]

end Audit

end SqlAudit
