import SqlAudit.Proofs.Audit.Causes
import SqlAudit.Proofs.Input.Fits
import SqlAudit.Proofs.Statement.Placeholders

/-!
# What a verdict does not depend on

Two audits of one submission with different options are audits of one query, and its faults and
cautions depend on nothing else. Two audits of different queries with the same options end alike if
the reports of the queries are (`Audit.run_alike`). Main statements:

* `verdict_of_verbosity`: how much a caller wants to know changes what is told, not what is found;
* `validate_padded`: blank characters around a query change nothing in its report but the query that
  it shows.
-/

namespace SqlAudit

namespace Audit

/-- A report that is neither asked for information nor for a suggestion has no notes. -/
theorem notes_quiet (q : Query) : notes false false q = [] := by
  rw [notes]
  split <;> rfl

/-- A query may be run if and only if it has no faults. -/
theorem isAcceptable_inspect (loud : Bool) (now : Timestamp) (q : Query) (verbose : Bool)
    (context : Option Context) :
    (inspect loud (draft now q verbose context)).isAcceptable = (faults q).isEmpty := by
  rw [Report.isAcceptable, status_inspect]
  cases faults q <;> rfl

end Audit

/-- Asking whether a submission may be run is asking whether its query has faults. -/
theorem Validator.isValid_silent {s : Submission} {q : Query} {enabled : Value}
    (he : enabled.isTruthy = true) (hq : s.toQuery = .ok q) (wire : Wire) (now : Timestamp) :
    (silent.isValid wire now s enabled).result = .ok (Audit.faults q).isEmpty := by
  have hr : (silent.validate wire now s { enabled }).result =
      .ok (Audit.inspect false (Audit.draft now q false none)) :=
    (validate_eq_ok_iff (o := { enabled }) he).2 ⟨q, false, none, hq, rfl, rfl, rfl⟩
  rw [isValid, Outcome.map, hr, Except.map, Audit.isAcceptable_inspect]

/-- Two reports of one submission, whatever information was asked for, have the same errors and
warnings and the same status. A caller who asks for no information gets no notes and no suggestion,
and one who asks for the verdict alone is told whether there are errors. -/
theorem verdict_of_verbosity {s : Submission} {o₁ o₂ : Options}
    (he₁ : o₁.enabled.isTruthy = true) (he₂ : o₂.enabled.isTruthy = true)
    {wire₁ wire₂ : Wire} {now₁ now₂ : Timestamp} {r₁ r₂ : Report}
    (h₁ : (Validator.silent.validate wire₁ now₁ s o₁).result = .ok r₁)
    (h₂ : (Validator.silent.validate wire₂ now₂ s o₂).result = .ok r₂) :
    r₁.errors = r₂.errors ∧ r₁.warnings = r₂.warnings ∧ r₁.status = r₂.status ∧
      (o₁.verbose = .bool false → r₁.infos = [] ∧ r₁.suggestion = none) ∧
      ∀ (wire : Wire) (now : Timestamp) (enabled : Value), enabled.isTruthy = true →
        (Validator.silent.isValid wire now s enabled).result = .ok r₁.errors.isEmpty := by
  obtain ⟨q, b₁, c₁, hq, hb, -, rfl⟩ := (Validator.validate_eq_ok_iff he₁).1 h₁
  obtain ⟨q', b₂, c₂, hq', -, -, rfl⟩ := (Validator.validate_eq_ok_iff he₂).1 h₂
  obtain rfl : q = q' := Except.ok.inj (hq.symm.trans hq')
  refine ⟨?_, ?_, ?_, fun hv => ?_, fun wire now enabled he => ?_⟩
  · rw [Audit.errors_inspect, Audit.errors_inspect]
  · rw [Audit.warnings_inspect, Audit.warnings_inspect]
  · rw [Audit.status_inspect, Audit.status_inspect]
  · rw [hv] at hb ⊢
    cases hb
    refine ⟨?_, ?_⟩
    · rw [Audit.infos_inspect]
      exact congrArg _ (Audit.notes_quiet q)
    · rw [Audit.suggestion_inspect]
      rfl
  · rw [Validator.isValid_silent he hq, Audit.errors_inspect, List.isEmpty_map]

/-- The text `no` counts as true to the validator and as false to its report; a delete without a
condition fails with it as it does without. -/
theorem delete_fails_quietly :
    ∃ r₁ r₂, (Validator.silent.validate {} ⟨2024, 1, 2, 3, 4, 5, 0⟩
        (.value (.text "DELETE FROM t")) {}).result = .ok r₁ ∧
      (Validator.silent.validate {} ⟨2025, 1, 2, 3, 4, 5, 0⟩
        (.value (.text "DELETE FROM t")) { verbose := .text "no" }).result = .ok r₂ ∧
      r₁.errors = r₂.errors ∧ r₁.infos = [] ∧
      (Validator.silent.isValid {} ⟨2024, 1, 2, 3, 4, 5, 0⟩ (.value (.text "DELETE FROM t"))
        (.bool true)).result = .ok false := by
  let q := Query.raw "DELETE FROM t"
  let r₁ := Audit.inspect false (Audit.draft ⟨2024, 1, 2, 3, 4, 5, 0⟩ q false none)
  have h₁ : (Validator.silent.validate {} ⟨2024, 1, 2, 3, 4, 5, 0⟩
      (.value (.text "DELETE FROM t")) {}).result = .ok r₁ :=
    (Validator.validate_eq_ok_iff (o := {}) rfl).2 ⟨q, false, none, rfl, rfl, rfl, rfl⟩
  have h₂ : (Validator.silent.validate {} ⟨2025, 1, 2, 3, 4, 5, 0⟩
      (.value (.text "DELETE FROM t")) { verbose := .text "no" }).result =
        .ok (Audit.inspect true (Audit.draft ⟨2025, 1, 2, 3, 4, 5, 0⟩ q false none)) :=
    (Validator.validate_eq_ok_iff (o := { verbose := .text "no" }) rfl).2
      ⟨q, false, none, rfl, rfl, rfl, rfl⟩
  obtain ⟨he, -, -, hquiet, hvalid⟩ := verdict_of_verbosity rfl rfl h₁ h₂
  have hfails : r₁.errors.isEmpty = false := by
    rw [Audit.errors_inspect, List.isEmpty_map]
    decide
  exact ⟨r₁, _, h₁, h₂, he, (hquiet rfl).1, hfails ▸ hvalid {} _ (.bool true) rfl⟩

/-! ## Calls that end alike -/

/-- Two calls end alike: both are refused for the same reason, or their reports are related. -/
def Alike (R : Report → Report → Prop) : Except Rejection Report → Except Rejection Report → Prop
  | .error e, .error e' => e = e'
  | .ok r, .ok r' => R r r'
  | _, _ => False

theorem Alike.exists_ok {R : Report → Report → Prop} {x y : Except Rejection Report} {r : Report}
    (h : Alike R x y) (hx : x = .ok r) : ∃ r', y = .ok r' ∧ R r r' := by
  subst hx
  cases y with
  | error e => exact h.elim
  | ok r' => exact ⟨r', rfl, h⟩

theorem Submission.text_of_toQuery {s : Submission} {q : Query} (h : s.toQuery = .ok q) :
    s.text = .text q.text := by
  obtain ⟨-, name, he⟩ | ⟨-, -, errors, he⟩ | ⟨-, -, q', hq, ht⟩ := s.toQuery_cases
  · cases h.symm.trans he
  · cases h.symm.trans he
  · cases h.symm.trans hq
    exact ht

namespace Audit

theorem begin_eq (now : Timestamp) (q : Query) (verbose context : Value) :
    begin now q verbose context =
      ((Checked.under (.name "verbose") (Field.bool verbose)).zip
        (Checked.under (.name "context") (Field.context context))).map
          fun o => draft now q o.1 o.2 :=
  rfl

/-- Two queries with related reports are audited alike, whatever the options are. -/
theorem run_alike {R : Report → Report → Prop} {s s' : Submission} {q q' : Query}
    (hq : s.toQuery = .ok q) (hq' : s'.toQuery = .ok q') {now now' : Timestamp}
    (hbypass : R (Report.bypass q.text now) (Report.bypass q'.text now'))
    (hinspect : ∀ loud verbose context, R (inspect loud (draft now q verbose context))
      (inspect loud (draft now' q' verbose context))) (o : Options) :
    Alike R (run now s o) (run now' s' o) := by
  cases he : o.enabled.isTruthy with
  | false =>
    rw [run_of_text he (Submission.text_of_toQuery hq),
      run_of_text he (Submission.text_of_toQuery hq')]
    exact hbypass
  | true =>
    rw [run_of_enabled he, run_of_enabled he, hq, hq']
    show Alike R ((begin now q o.verbose o.context).toCall >>= _)
      ((begin now' q' o.verbose o.context).toCall >>= _)
    rw [begin_eq, begin_eq]
    cases (Checked.under (.name "verbose") (Field.bool o.verbose)).zip
        (Checked.under (.name "context") (Field.context o.context)) with
    | error errors => exact rfl
    | ok fields => exact hinspect _ fields.1 fields.2

end Audit

/-! ## Blank characters around a query -/

/-- A query with more text around its own. -/
def Query.padded (w₁ w₂ : String) : Query → Query
  | .raw t => .raw (w₁ ++ t ++ w₂)
  | .parameterized t p => .parameterized (w₁ ++ t ++ w₂) p

namespace Query

variable (w₁ w₂ : String) (q : Query)

@[simp] theorem text_padded : (q.padded w₁ w₂).text = w₁ ++ q.text ++ w₂ := by
  cases q <;> rfl

@[simp] theorem bound_padded : (q.padded w₁ w₂).bound = q.bound := by
  cases q <;> rfl

@[simp] theorem isParameterized_padded :
    (q.padded w₁ w₂).isParameterized = q.isParameterized := by
  cases q <;> rfl

end Query

namespace Remedy

/-- Two reports with the same findings call for the same remedy, but for the query in it. -/
theorem of_cases (r r' : Report) (hv : r.isVerbose = r'.isVerbose)
    (hp : r.isParameterized = r'.isParameterized) (hb : r.bound = r'.bound)
    (hk : Statement.kind r.query.toList = Statement.kind r'.query.toList)
    (hf : ∀ code, r.found code = r'.found code) :
    of r = of r' ∨ r.found .placeholderCountMismatch = true ∧
      of r = some (.fitParameters r.query r.bound) ∧
      of r' = some (.fitParameters r'.query r.bound) := by
  rw [of, of, hv, hp, hb, hk]
  simp only [hf]
  cases r'.isVerbose with
  | false => exact .inl rfl
  | true =>
    cases r'.isParameterized with
    | false => exact .inl rfl
    | true =>
      cases r'.found .placeholderCountMismatch with
      | false => exact .inl rfl
      | true => exact .inr ⟨rfl, rfl, rfl⟩

/-- A statement with parameters that fit it, as a suggestion. -/
def fitExample (text : String) (params : Params) (explanation : String) : Suggestion where
  exampleQuery := some text
  exampleCode := some (code [
    "query = ParameterizedQuery(",
    "    text=" ++ (Scalar.text text).literal ++ ",",
    "    params=" ++ params.toValue.literal ++ ",",
    ")"])
  explanation := explanation

end Remedy

section Padded

variable {w₁ w₂ : String} (h₁ : ∀ c ∈ w₁.toList, Text.isBlank c = true)
  (h₂ : ∀ c ∈ w₂.toList, Text.isBlank c = true)
include h₁ h₂

theorem Text.trim_text_padded (q : Query) :
    Text.trim (q.padded w₁ w₂).text.toList = Text.trim q.text.toList := by
  rw [Query.text_padded, String.toList_append, String.toList_append, Text.trim_padded h₁ h₂]

theorem Statement.placeholderCount_padded (t : String) :
    placeholderCount (w₁ ++ t ++ w₂).toList = placeholderCount t.toList := by
  rw [← placeholderCount_trim, String.toList_append, String.toList_append, Text.trim_padded h₁ h₂,
    placeholderCount_trim]

theorem Statement.kind_padded (t : String) : kind (w₁ ++ t ++ w₂).toList = kind t.toList := by
  rw [kind, typeName, String.toList_append, String.toList_append, Text.firstToken_padded h₁ h₂]
  rfl

namespace Audit

theorem faults_padded (q : Query) : faults (q.padded w₁ w₂) = faults q := by
  rw [faults, faults, Text.trim_text_padded h₁ h₂, Query.isParameterized_padded,
    Query.bound_padded]

theorem cautions_padded (q : Query) : cautions (q.padded w₁ w₂) = cautions q := by
  rw [cautions, cautions, Text.trim_text_padded h₁ h₂, Query.isParameterized_padded,
    Query.bound_padded]

theorem notes_padded (loud verbose : Bool) (q : Query) :
    notes loud verbose (q.padded w₁ w₂) = notes loud verbose q := by
  rw [notes, notes, Text.trim_text_padded h₁ h₂, Query.isParameterized_padded,
    Query.bound_padded]

/-- The suggestions of two reports differ at most in the statement that they show. -/
theorem suggestion_padded (q : Query) (loud : Bool) (now now' : Timestamp) (verbose : Bool)
    (context : Option Context) :
    let r := inspect loud (draft now q verbose context)
    let r' := inspect loud (draft now' (q.padded w₁ w₂) verbose context)
    r.suggestion = r'.suggestion ∨ r.found .placeholderCountMismatch = true ∧
      ∃ params explanation,
        r.suggestion = some (Remedy.fitExample q.text params explanation) ∧
        r'.suggestion = some (Remedy.fitExample (w₁ ++ q.text ++ w₂) params explanation) := by
  intro r r'
  have hfound (code : Code) : r.found code = r'.found code := by
    simp only [Report.found, Report.hasFinding, Report.findings, r, r', errors_inspect,
      warnings_inspect, infos_inspect, faults_padded h₁ h₂, cautions_padded h₁ h₂,
      notes_padded h₁ h₂]
  have hkind : Statement.kind r.query.toList = Statement.kind r'.query.toList := by
    rw [query_inspect, query_inspect, Query.text_padded, Statement.kind_padded h₁ h₂]
  have hremedy := Remedy.of_cases r r' (by simp [r, r']) (by simp [r, r']) (by simp [r, r']) hkind
    hfound
  rw [suggestion_inspect, suggestion_inspect, Text.trim_text_padded h₁ h₂]
  split
  · rw [Report.suggest, Report.suggest]
    rcases hremedy with hof | ⟨hm, hof, hof'⟩
    · rw [hof]
      exact .inl rfl
    · refine .inr ⟨hm, Remedy.fittedParams q.text q.bound,
        Remedy.fitExplanation (Statement.placeholderCount q.text.toList) q.bound.size, ?_, ?_⟩
      · rw [hof, query_inspect, bound_inspect]
        rfl
      · rw [hof', query_inspect, bound_inspect, Query.text_padded, Option.map_some,
          Remedy.suggestion, Remedy.fitSuggestion, Remedy.fittedParams,
          Statement.placeholderCount_padded h₁ h₂]
        rfl
  · exact .inl rfl

end Audit

end Padded

/-- Blank characters around a query change nothing in its report but the query that it shows. Calls
with and without them are refused for the same reason, or their reports have the same errors,
warnings and notes and the same status. Their suggestions are the same too, or both show how to make
the parameters fit, with the same parameters and words, each for the text of its own query. -/
theorem validate_padded {w₁ w₂ : String} (h₁ : ∀ c ∈ w₁.toList, Text.isBlank c = true)
    (h₂ : ∀ c ∈ w₂.toList, Text.isBlank c = true) {s s' : Submission} {q : Query}
    (hq : s.toQuery = .ok q) (hq' : s'.toQuery = .ok (q.padded w₁ w₂)) (wire wire' : Wire)
    (now now' : Timestamp) (o : Options) :
    Alike (fun r r' => r.errors = r'.errors ∧ r.warnings = r'.warnings ∧ r.infos = r'.infos ∧
        r.status = r'.status ∧
        (r.suggestion = r'.suggestion ∨ r.found .placeholderCountMismatch = true ∧
          ∃ params explanation,
            r.suggestion = some (Remedy.fitExample q.text params explanation) ∧
            r'.suggestion = some (Remedy.fitExample (w₁ ++ q.text ++ w₂) params explanation)))
      (Validator.silent.validate wire now s o).result
      (Validator.silent.validate wire' now' s' o).result ∧
    (o.Audits → ∃ r, (Validator.silent.validate wire now s o).result = .ok r) := by
  refine ⟨?_, fun ho => ?_⟩
  · rw [Validator.validate_silent, Validator.validate_silent]
    refine Audit.run_alike hq hq' ⟨rfl, rfl, rfl, rfl, .inl rfl⟩ (fun loud verbose context => ?_) o
    refine ⟨?_, ?_, ?_, ?_, Audit.suggestion_padded h₁ h₂ q loud now now' verbose context⟩
    · rw [Audit.errors_inspect, Audit.errors_inspect, Audit.faults_padded h₁ h₂]
    · rw [Audit.warnings_inspect, Audit.warnings_inspect, Audit.cautions_padded h₁ h₂]
    · rw [Audit.infos_inspect, Audit.infos_inspect, Audit.notes_padded h₁ h₂]
    · rw [Audit.status_inspect, Audit.status_inspect, Audit.faults_padded h₁ h₂]
  · obtain ⟨r, hr, -⟩ := Validator.validate_audits ho hq .silent wire now
    exact ⟨r, hr⟩

/-- An update without its parameter fails with blank characters around it as it does without. -/
theorem padded_update_fails :
    ∃ r r', (Validator.silent.validate {} ⟨2024, 1, 2, 3, 4, 5, 0⟩
        (.query (.parameterized "UPDATE t SET a = ?" .empty)) { verbose := .bool true }).result =
          .ok r ∧
      (Validator.silent.validate {} ⟨2025, 1, 2, 3, 4, 5, 0⟩
        (.query (.parameterized "\t UPDATE t SET a = ?\n" .empty))
        { verbose := .bool true }).result = .ok r' ∧
      r.errors = r'.errors ∧ r.infos = r'.infos ∧ r.status = r'.status ∧
      r.suggestion.map Suggestion.explanation = r'.suggestion.map Suggestion.explanation := by
  let s := Submission.query (.parameterized "UPDATE t SET a = ?" .empty)
  let s' := Submission.query (.parameterized "\t UPDATE t SET a = ?\n" .empty)
  have hblank₁ : ∀ c ∈ "\t ".toList, Text.isBlank c = true := List.all_eq_true.1 rfl
  have hblank₂ : ∀ c ∈ "\n".toList, Text.isBlank c = true := List.all_eq_true.1 rfl
  have hs' : s'.toQuery =
      .ok (.padded "\t " "\n" (.parameterized "UPDATE t SET a = ?" .empty)) := rfl
  obtain ⟨halike, hok⟩ := validate_padded hblank₁ hblank₂ (s := s) rfl hs' {} {}
    ⟨2024, 1, 2, 3, 4, 5, 0⟩ ⟨2025, 1, 2, 3, 4, 5, 0⟩ { verbose := .bool true }
  obtain ⟨r, hr⟩ := hok ⟨rfl, ⟨true, rfl⟩, ⟨none, rfl⟩⟩
  obtain ⟨r', hr', herrors, -, hinfos, hstatus, hsuggestion⟩ := halike.exists_ok hr
  refine ⟨r, r', hr, hr', herrors, hinfos, hstatus, ?_⟩
  rcases hsuggestion with h | ⟨-, params, explanation, h, h'⟩
  · rw [h]
  · rw [h, h']
    rfl

end SqlAudit
