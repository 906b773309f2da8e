import SqlAudit.Proofs.Audit.Attempt
import SqlAudit.Proofs.Input.Fits

/-!
# What a call refuses and what it returns

Every call of a validator ends in one of five ways: its submission is of no use as a query, a part
of the input does not fit, the query is not audited, an integer is too long to be shown in a remark,
or the query is audited and has a verdict. Main statements:

* `Audit.run_disabled`, `Audit.run_enabled`: how an audit ends, told from its input;
* `Audit.attempt_disabled`, `Audit.attempt_enabled`: how an attempt ends;
* `Validator.finish_eq_or_add`: an alert adds a finding to a report and leaves its verdict alone;
* `Validator.attempt_eq_ok_iff`: which reports of `Validator.validate` an attempt returns;
* `call_boundary`: how a call ends, and what it returns. An integer that is too long is no part that
  does not fit (`huge_params_unreported`).
-/

namespace SqlAudit

/-- A part of the input of an audit that does not fit: the text or the parameters of a mapping, or
one of the options. -/
def Misfit (s : Submission) (o : Options) : Prop :=
  s.hasStrayText = true ∨ s.hasStrayParams = true ∨ o.verbose.isTruthValue = false ∨
    o.context.isContext = false

instance (s : Submission) (o : Options) : Decidable (Misfit s o) :=
  inferInstanceAs (Decidable (_ ∨ _))

/-- The query that is submitted has a text, and the remarks on one of its parameters show an integer
of too many digits. -/
def Overlong (s : Submission) (o : Options) : Prop :=
  ∃ q b, s.toQuery = .ok q ∧ Field.bool o.verbose = .ok b ∧ Text.trim q.text.toList ≠ [] ∧
    q.bound.isOverlong b = true

namespace Audit

/-- An audit that is not enabled is refused if the text is no text, and else returns a report that
says no more than its query. -/
theorem run_disabled {o : Options} (he : o.enabled.isTruthy = false) (now : Timestamp)
    (s : Submission) :
    (s.hasStrayText = true ∧ ∃ errors, run now s o = .error (.invalid errors)) ∨
    (s.hasStrayText = false ∧ ∃ text, s.text = .text text ∧
      run now s o = .ok (Report.bypass text now)) := by
  have hok := Field.isOk_text s.text
  rw [s.isText_text] at hok
  cases hs : s.hasStrayText with
  | true =>
    rw [hs] at hok
    obtain ⟨errors, herrors⟩ := Checked.exists_of_not_isOk hok
    exact .inl ⟨rfl, _, by rw [run_of_disabled he, herrors]; rfl⟩
  | false =>
    rw [hs] at hok
    obtain ⟨text, htext⟩ := Checked.exists_of_isOk hok
    have ht := Field.text_eq_ok_iff.1 htext
    exact .inr ⟨rfl, text, ht, run_of_text he ht now⟩

theorem isOk_begin (now : Timestamp) (q : Query) (verbose context : Value) :
    Except.isOk (begin now q verbose context) = (verbose.isTruthValue && context.isContext) := by
  simp only [begin, Checked.isOk_map, Checked.isOk_zip, Checked.isOk_under, Field.isOk_bool,
    Field.isOk_context]

/-- An audit that is enabled is refused for the type of its submission, or else for a part that does
not fit, or else returns the report of a query with the text of the submission. -/
theorem run_enabled {o : Options} (he : o.enabled.isTruthy = true) (now : Timestamp)
    (s : Submission) :
    (s.isSupported = false ∧ ∃ name, run now s o = .error (.unsupported name)) ∨
    (s.isSupported = true ∧ Misfit s o ∧ ∃ errors, run now s o = .error (.invalid errors)) ∨
    (s.isSupported = true ∧ ¬ Misfit s o ∧ ∃ q b c, s.text = .text q.text ∧ s.toQuery = .ok q ∧
      Field.bool o.verbose = .ok b ∧
      run now s o = .ok (inspect o.verbose.isTruthy (draft now q b c))) := by
  rw [run_of_enabled he]
  obtain ⟨hs, name, hq⟩ | ⟨hs, hstray, errors, hq⟩ | ⟨hs, hstray, q, hq, ht⟩ := s.toQuery_cases
  · exact .inl ⟨hs, name, by rw [hq]; rfl⟩
  · rw [Bool.or_eq_true] at hstray
    exact .inr (.inl ⟨hs, by rw [Misfit, ← or_assoc]; exact .inl hstray, errors, by rw [hq]; rfl⟩)
  · rw [Bool.or_eq_false_iff] at hstray
    have hok := isOk_begin now q o.verbose o.context
    rw [hq]
    cases ho : o.verbose.isTruthValue && o.context.isContext with
    | false =>
      have hmisfit : Misfit s o := .inr (.inr (Bool.and_eq_false_iff.1 ho))
      rw [ho] at hok
      obtain ⟨errors, herrors⟩ := Checked.exists_of_not_isOk hok
      refine .inr (.inl ⟨hs, hmisfit, errors, ?_⟩)
      show (begin now q o.verbose o.context).toCall >>= _ = _
      rw [herrors]
      rfl
    | true =>
      have hfits : ¬ Misfit s o := by
        rw [Bool.and_eq_true] at ho
        simp [Misfit, hstray, ho]
      rw [ho] at hok
      obtain ⟨r, hr⟩ := Checked.exists_of_isOk hok
      obtain ⟨b, c, hb, -, rfl⟩ := begin_eq_ok_iff.1 hr
      refine .inr (.inr ⟨hs, hfits, q, b, c, ht, rfl, hb, ?_⟩)
      show (begin now q o.verbose o.context).toCall >>= _ = _
      rw [hr]
      rfl

/-- An attempt that is not enabled ends as an audit. -/
theorem attempt_disabled {o : Options} (he : o.enabled.isTruthy = false) (now : Timestamp)
    (s : Submission) :
    (s.hasStrayText = true ∧ ∃ errors, attempt now s o = .error (.rejected (.invalid errors))) ∨
    (s.hasStrayText = false ∧ ∃ text, s.text = .text text ∧
      attempt now s o = .ok (Report.bypass text now)) := by
  obtain ⟨hs, errors, hrun⟩ | ⟨hs, text, ht, hrun⟩ := run_disabled he now s
  · exact .inl ⟨hs, errors, attempt_eq_rejected_iff.2 hrun⟩
  · exact .inr ⟨hs, text, ht, attempt_eq_ok_iff.2 ⟨hrun, Report.unwritable?_bypass text now⟩⟩

/-- An attempt that is enabled ends as an audit, or else at an integer of too many digits. -/
theorem attempt_enabled {o : Options} (he : o.enabled.isTruthy = true) (now : Timestamp)
    (s : Submission) :
    (s.isSupported = false ∧ ∃ name, attempt now s o = .error (.rejected (.unsupported name))) ∨
    (s.isSupported = true ∧ Misfit s o ∧
      ∃ errors, attempt now s o = .error (.rejected (.invalid errors))) ∨
    (s.isSupported = true ∧ ¬ Misfit s o ∧ Overlong s o ∧
      attempt now s o = .error (.unwritable .digits)) ∨
    (s.isSupported = true ∧ ¬ Misfit s o ∧ ¬ Overlong s o ∧ ∃ q b c, s.text = .text q.text ∧
      attempt now s o = .ok (inspect o.verbose.isTruthy (draft now q b c))) := by
  obtain ⟨hs, name, hrun⟩ | ⟨hs, hm, errors, hrun⟩ | ⟨hs, hm, q, b, c, ht, hq, hb, hrun⟩ :=
    run_enabled he now s
  · exact .inl ⟨hs, name, attempt_eq_rejected_iff.2 hrun⟩
  · exact .inr (.inl ⟨hs, hm, errors, attempt_eq_rejected_iff.2 hrun⟩)
  · have hover : Overlong s o ↔ Text.trim q.text.toList ≠ [] ∧ q.bound.isOverlong b = true := by
      constructor
      · rintro ⟨q', b', hq', hb', hover⟩
        cases hq.symm.trans hq'
        cases hb.symm.trans hb'
        exact hover
      · exact fun hover => ⟨q, b, hq, hb, hover⟩
    obtain ⟨q', b', c', hq', hb', hc, -⟩ := (run_eq_ok_iff he).1 hrun
    cases hq.symm.trans hq'
    cases hb.symm.trans hb'
    obtain ⟨hfails, hsucceeds⟩ := attempt_query he hq hb hc now
    by_cases h : Text.trim q.text.toList ≠ [] ∧ q.bound.isOverlong b = true
    · exact .inr (.inr (.inl ⟨hs, hm, hover.2 h, hfails h⟩))
    · exact .inr (.inr (.inr ⟨hs, hm, mt hover.1 h, q, b, c', ht, hsucceeds h⟩))

end Audit

namespace Report

@[simp] theorem status_add (r : Report) (f : Finding) : (r.add f).status = r.status := by
  rw [add]
  cases f.severity <;> rfl

@[simp] theorem query_add (r : Report) (f : Finding) : (r.add f).query = r.query := by
  rw [add]
  cases f.severity <;> rfl

theorem unwritable?_add (r : Report) (f : Finding) : (r.add f).unwritable? = r.unwritable? := by
  rw [add]
  cases f.severity <;> rfl

theorem errors_add {f : Finding} (hf : f.severity ≠ .error) (r : Report) :
    (r.add f).errors = r.errors := by
  rw [add]
  cases h : f.severity with
  | error => exact absurd h hf
  | warning => rfl
  | info => rfl

end Report

namespace Validator

/-- A finished report is returned, whatever else could have gone wrong, as it is or with a finding on
its alert, which is no error. -/
theorem exists_finish_eq (v : Validator) (wire : Wire) (r : Report) :
    ∃ r', (∀ ε, (v.finish (ε := ε) wire r).result = .ok r') ∧
      (r' = r ∨ ∃ f : Finding, f.severity ≠ .error ∧ r' = r.add f) := by
  obtain ⟨_ | c⟩ := v
  · exact ⟨r, fun _ => rfl, .inl rfl⟩
  · cases hr : r.errors.isEmpty with
    | true => exact ⟨r, fun ε => by simp only [finish, hr, if_true], .inl rfl⟩
    | false =>
      simp only [finish, hr, Bool.false_eq_true, if_false]
      refine ⟨_, fun _ => rfl, .inr ⟨_, ?_, rfl⟩⟩
      cases (c.dispatch wire r).failure <;> exact Severity.noConfusion

theorem finish_eq_or_add {ε : Type} (v : Validator) (wire : Wire) (r : Report) :
    (v.finish (ε := ε) wire r).result = .ok r ∨
      ∃ f : Finding, f.severity ≠ .error ∧ (v.finish (ε := ε) wire r).result = .ok (r.add f) := by
  obtain ⟨r', hfinish, rfl | ⟨f, hf, rfl⟩⟩ := v.exists_finish_eq wire r
  · exact .inl (hfinish ε)
  · exact .inr ⟨f, hf, hfinish ε⟩

/-- An attempt returns the report that a call returns for which all can be written, if all of this
report can be. So what holds of the reports of such calls holds of those of attempts. -/
theorem attempt_eq_ok_iff {v : Validator} {wire : Wire} {now : Timestamp} {s : Submission}
    {o : Options} {r : Report} : (v.attempt wire now s o).result = .ok r ↔
      (v.validate wire now s o).result = .ok r ∧ r.unwritable? = none := by
  rw [attempt, validate]
  cases hrun : Audit.run now s o with
  | error e =>
    rw [Audit.attempt_eq_rejected_iff.2 hrun]
    simp
  | ok r₁ =>
    obtain ⟨r', hfinish, hr'⟩ := v.exists_finish_eq wire r₁
    have hsame : r'.unwritable? = r₁.unwritable? := by
      obtain rfl | ⟨f, -, rfl⟩ := hr'
      · rfl
      · exact Report.unwritable?_add r₁ f
    cases hwritten : r₁.unwritable? with
    | some e =>
      rw [Audit.attempt_eq_unwritable_iff.2 ⟨r₁, hrun, hwritten⟩]
      simp only [hfinish]
      constructor
      · rintro ⟨⟩
      · rintro ⟨⟨⟩, hnone⟩
        cases (hsame.trans hwritten).symm.trans hnone
    | none =>
      rw [Audit.attempt_eq_ok_iff.2 ⟨hrun, hwritten⟩]
      simp only [hfinish]
      constructor
      · rintro ⟨⟩
        exact ⟨rfl, hsame.trans hwritten⟩
      · rintro ⟨⟨⟩, -⟩
        rfl

/-- The status of an audited query tells whether there are errors, whatever becomes of its alert. -/
theorem finish_inspect {ε : Type} (v : Validator) (wire : Wire) (loud : Bool) (now : Timestamp)
    (q : Query) (verbose : Bool) (context : Option Context) :
    ∃ r, (v.finish (ε := ε) wire (Audit.inspect loud (Audit.draft now q verbose context))).result =
        .ok r ∧ (r.status = .error ↔ r.errors ≠ []) ∧ (r.status = .success ↔ r.errors = []) ∧
      r.query = q.text := by
  obtain ⟨r, hr, hs, he, hq⟩ : ∃ r,
      (v.finish (ε := ε) wire (Audit.inspect loud (Audit.draft now q verbose context))).result =
        .ok r ∧ r.status = (if Audit.faults q = [] then .success else .error) ∧
      r.errors = (Audit.faults q).map Fault.finding ∧ r.query = q.text := by
    obtain h | ⟨f, hf, h⟩ := v.finish_eq_or_add (ε := ε) wire
      (Audit.inspect loud (Audit.draft now q verbose context))
    · exact ⟨_, h, by simp, by simp, by simp⟩
    · exact ⟨_, h, by simp, by simp [Report.errors_add hf], by simp⟩
  by_cases hf : Audit.faults q = []
  · rw [if_pos hf] at hs
    rw [hf, List.map_nil] at he
    exact ⟨r, hr, by simp [hs, he], by simp [hs, he], hq⟩
  · rw [if_neg hf] at hs
    have hne : r.errors ≠ [] := by rwa [he, ne_eq, List.map_eq_nil_iff]
    exact ⟨r, hr, by simp [hs, hne], by simp [hs, hne], hq⟩

theorem attempt_of_error {now : Timestamp} {s : Submission} {o : Options} {e : CallError}
    (h : Audit.attempt now s o = .error e) (v : Validator) (wire : Wire) :
    v.attempt wire now s o = ⟨.error e, [], v⟩ := by
  rw [attempt, h]

theorem attempt_of_bypass {now : Timestamp} {s : Submission} {o : Options} {text : String}
    (h : Audit.attempt now s o = .ok (Report.bypass text now)) (v : Validator) (wire : Wire) :
    v.attempt wire now s o = ⟨.ok (Report.bypass text now), [], v⟩ := by
  have hclean : (Report.bypass text now).errors.isEmpty = true := rfl
  rw [attempt, h]
  obtain ⟨_ | c⟩ := v
  · rfl
  · simp only [finish, hclean, if_true]

end Validator

/-- How a call ends, whatever is submitted and whatever the options are.

If auditing is not enabled, nothing is sent. The call is refused if the submission is a mapping
whose text counts as true and is none; else its report says that the query was bypassed, shows its
text and nothing else.

If auditing is enabled, the call is refused for the type of its submission if that is none of a
query, and else for the parts that do not fit, if there are any. Else it fails if a remark would show
an integer of too many digits. In all other cases it returns a report, whose status tells whether it
has errors and which shows the text of the submission. A call that is not enabled then returns a
report with the same text. -/
theorem call_boundary (v : Validator) (wire : Wire) (now : Timestamp) (s : Submission)
    (o : Options) :
    let call := v.attempt wire now s o
    (o.enabled.isTruthy = false →
      call.deliveries = [] ∧ call.next = v ∧
      ((∃ e, call.result = .error e) ↔ s.hasStrayText = true) ∧
      (∀ e, call.result = .error e → ∃ errors, e = .rejected (.invalid errors)) ∧
      ∀ r, call.result = .ok r → r.status = .bypassed ∧ r.findings = [] ∧ r.suggestion = none ∧
        r.context = none ∧ s.text = .text r.query) ∧
    (o.enabled.isTruthy = true →
      ((∃ name, call.result = .error (.rejected (.unsupported name))) ↔ s.isSupported = false) ∧
      ((∃ errors, call.result = .error (.rejected (.invalid errors))) ↔
        s.isSupported = true ∧ Misfit s o) ∧
      (∀ e, call.result = .error (.unwritable e) ↔
        e = .digits ∧ s.isSupported = true ∧ ¬ Misfit s o ∧ Overlong s o) ∧
      ((∃ r, call.result = .ok r) ↔ s.isSupported = true ∧ ¬ Misfit s o ∧ ¬ Overlong s o) ∧
      ∀ r, call.result = .ok r → (r.status = .error ↔ r.errors ≠ []) ∧
        (r.status = .success ↔ r.errors = []) ∧ s.text = .text r.query ∧
        ∀ (wire' : Wire) (now' : Timestamp) (o' : Options), o'.enabled.isTruthy = false →
          ∃ r', (v.attempt wire' now' s o').result = .ok r' ∧ r'.query = r.query) := by
  intro call
  refine ⟨fun he => ?_, fun he => ?_⟩
  · obtain ⟨hs, errors, hrun⟩ | ⟨hs, text, ht, hrun⟩ := Audit.attempt_disabled he now s
    · have hcall : call = ⟨.error (.rejected (.invalid errors)), [], v⟩ :=
        Validator.attempt_of_error hrun v wire
      rw [hcall]
      exact ⟨rfl, rfl, by simp [hs], by simp, by simp⟩
    · have hcall : call = ⟨.ok (Report.bypass text now), [], v⟩ :=
        Validator.attempt_of_bypass hrun v wire
      rw [hcall]
      refine ⟨rfl, rfl, by simp [hs], by simp, fun r hr => ?_⟩
      cases hr
      exact ⟨rfl, rfl, rfl, rfl, ht⟩
  · obtain ⟨hs, name, hrun⟩ | ⟨hs, hm, errors, hrun⟩ | ⟨hs, hm, hover, hrun⟩ |
      ⟨hs, hm, hover, q, b, c, ht, hrun⟩ := Audit.attempt_enabled he now s
    · have hcall : call = ⟨.error (.rejected (.unsupported name)), [], v⟩ :=
        Validator.attempt_of_error hrun v wire
      rw [hcall]
      simp [hs]
    · have hcall : call = ⟨.error (.rejected (.invalid errors)), [], v⟩ :=
        Validator.attempt_of_error hrun v wire
      rw [hcall]
      simp [hs, hm]
    · have hcall : call = ⟨.error (.unwritable .digits), [], v⟩ :=
        Validator.attempt_of_error hrun v wire
      rw [hcall]
      refine ⟨by simp [hs], by simp [hm], fun e => ⟨?_, ?_⟩, by simp [hover], by simp⟩
      · rintro ⟨⟩
        exact ⟨rfl, hs, hm, hover⟩
      · rintro ⟨rfl, -⟩
        rfl
    · obtain ⟨r, hr, herror, hsuccess, hq⟩ :=
        v.finish_inspect wire o.verbose.isTruthy now q b c
      have hcall : call.result = .ok r := by
        show (v.attempt wire now s o).result = .ok r
        rw [Validator.attempt, hrun]
        exact hr
      rw [hcall]
      refine ⟨by simp [hs], by simp [hs, hm], by simp [hover], by simp [hs, hm, hover],
        fun r' hr' => ?_⟩
      cases hr'
      refine ⟨herror, hsuccess, by rw [hq, ht], fun wire' now' o' he' => ?_⟩
      obtain ⟨hstray, -⟩ | ⟨-, text, htext, hbypass⟩ := Audit.attempt_disabled he' now' s
      · exact absurd (.inl hstray) hm
      · refine ⟨Report.bypass text now', ?_, ?_⟩
        · rw [Validator.attempt_of_bypass hbypass v wire']
        · rw [ht] at htext
          rw [hq]
          cases htext
          rfl

/-- A mapping with a list inside of its parameters is refused, but not by a call that is not
enabled, which takes any options. -/
theorem nested_params_refused :
    let s := Submission.value (.record [("query", .text "SELECT ?"), ("params", .list [.list []])])
    let off : Options := { enabled := .int 0, verbose := .null, context := .int 7 }
    (∃ errors, (Validator.silent.attempt {} ⟨2024, 1, 2, 3, 4, 5, 0⟩ s {}).result =
      .error (.rejected (.invalid errors))) ∧
    ∃ r, (Validator.silent.attempt {} ⟨2024, 1, 2, 3, 4, 5, 0⟩ s off).result = .ok r ∧
      r.status = .bypassed ∧ s.text = .text r.query := by
  intro s off
  obtain ⟨-, -, hstray, -, hbypass⟩ :=
    (call_boundary .silent {} ⟨2024, 1, 2, 3, 4, 5, 0⟩ s off).1 rfl
  obtain ⟨-, hmisfit, -, -, -⟩ := (call_boundary .silent {} ⟨2024, 1, 2, 3, 4, 5, 0⟩ s {}).2 rfl
  refine ⟨hmisfit.2 ⟨rfl, by decide⟩, ?_⟩
  cases h : (Validator.silent.attempt {} ⟨2024, 1, 2, 3, 4, 5, 0⟩ s off).result with
  | error e => exact absurd (hstray.1 ⟨e, h⟩) (by decide)
  | ok r =>
    obtain ⟨hstatus, -, -, -, htext⟩ := hbypass r h
    exact ⟨r, rfl, hstatus, htext⟩

/-- Nothing in a mapping with the least integer of too many digits is a misfit, but a verbose call
fails at it. -/
theorem huge_params_unreported :
    let n : Int := Numeral.digitBound
    let s := Submission.value (.record [("query", .text "SELECT ?;"), ("params", .list [.int n])])
    let o : Options := { verbose := .bool true }
    o.enabled.isTruthy = true ∧ s.isSupported = true ∧ ¬ Misfit s o ∧
    (Validator.silent.attempt {} ⟨2024, 1, 2, 3, 4, 5, 0⟩ s o).result =
      .error (.unwritable .digits) := by
  intro n s o
  have hn : (Scalar.int n).isOverlong = true := Scalar.isOverlong_digitBound
  clear_value n
  have hfits : ¬ Misfit s o := not_or.2 ⟨nofun, not_or.2 ⟨nofun, not_or.2 ⟨nofun, nofun⟩⟩⟩
  have hq : s.toQuery = .ok (.parameterized "SELECT ?;" (.ofList [.int n])) := rfl
  exact ⟨rfl, rfl, hfits, Validator.silent.attempt_overlong hq (by decide) hn _ _⟩

end SqlAudit
