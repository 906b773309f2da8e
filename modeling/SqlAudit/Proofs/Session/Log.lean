import SqlAudit.Proofs.Audit.Attempt
import SqlAudit.Proofs.Audit.Locality
import SqlAudit.Proofs.Input.Fits
import SqlAudit.Proofs.Render.Document
import SqlAudit.Session

/-!
# Reports as logs

A session makes a report and then works on it. `Session.after` is the report after steps, which is
the one that `Session.run` takes the next step on (`run_append_singleton`). `Effect` says all that a
step can do to a report, and `Step.unwritable?` what can keep it from being answered. Main
statements:

* `effect_next`: a step that makes no report has one of these effects;
* `Effect.continues`, `Effect.status`, `Effect.suggestion`: what each effect keeps;
* `answer_cases`: how a step is answered, and when it is not;
* `continues_after`: what any number of steps keeps;
* `report_is_log`: a report is a log to which findings are added, and nothing else but its flags,
  its status and its suggestion ever changes. What it was made with stays
  (`misfiled_finding_stays`).
-/

namespace SqlAudit

/-! ## Later states of a report -/

namespace Report

/-- A list of findings has grown at its end, by findings of one severity. -/
def Grows (severity : Severity) (fs fs' : List Finding) : Prop :=
  ∃ added, fs' = fs ++ added ∧ ∀ f ∈ added, f.severity = severity

/-- A later state of a report: it is about the same query, and its lists have grown at their ends or
not at all, each by findings of its own severity. -/
structure Continues (r r' : Report) : Prop where
  query : r'.query = r.query
  params : r'.params = r.params
  message : r'.message = r.message
  timestamp : r'.timestamp = r.timestamp
  context : r'.context = r.context
  errors : Grows .error r.errors r'.errors
  warnings : Grows .warning r.warnings r'.warnings
  infos : Grows .info r.infos r'.infos

/-- Every finding stands in the list of its severity. -/
structure Sorted (r : Report) : Prop where
  errors : ∀ f ∈ r.errors, f.severity = .error
  warnings : ∀ f ∈ r.warnings, f.severity = .warning
  infos : ∀ f ∈ r.infos, f.severity = .info

/-- All that may have to be shown of a report can be written: no key or value of a parameter is an
integer of too many digits, and there is room for what is shown of its context. -/
structure Writable (room : Nat) (r : Report) : Prop where
  params : ∀ e ∈ r.bound.entries, Params.entryUnwritable? e = none
  context : ∀ v ∈ (r.context.getD []).shownValues, v.unwritable? room = none

theorem Grows.refl (severity : Severity) (fs : List Finding) : Grows severity fs fs :=
  ⟨[], (List.append_nil fs).symm, List.forall_mem_nil _⟩

theorem Grows.trans {severity : Severity} {fs₁ fs₂ fs₃ : List Finding}
    (h : Grows severity fs₁ fs₂) (h' : Grows severity fs₂ fs₃) : Grows severity fs₁ fs₃ := by
  obtain ⟨added, rfl, hadded⟩ := h
  obtain ⟨added', rfl, hadded'⟩ := h'
  exact ⟨added ++ added', List.append_assoc _ _ _, List.forall_mem_append.2 ⟨hadded, hadded'⟩⟩

theorem Grows.forall_mem {severity : Severity} {fs fs' : List Finding}
    (h : Grows severity fs fs') (hfs : ∀ f ∈ fs, f.severity = severity) :
    ∀ f ∈ fs', f.severity = severity := by
  obtain ⟨added, rfl, hadded⟩ := h
  exact List.forall_mem_append.2 ⟨hfs, hadded⟩

namespace Continues

theorem refl (r : Report) : r.Continues r :=
  ⟨rfl, rfl, rfl, rfl, rfl, .refl _ _, .refl _ _, .refl _ _⟩

theorem trans {r₁ r₂ r₃ : Report} (h : r₁.Continues r₂) (h' : r₂.Continues r₃) :
    r₁.Continues r₃ where
  query := h'.query.trans h.query
  params := h'.params.trans h.params
  message := h'.message.trans h.message
  timestamp := h'.timestamp.trans h.timestamp
  context := h'.context.trans h.context
  errors := h.errors.trans h'.errors
  warnings := h.warnings.trans h'.warnings
  infos := h.infos.trans h'.infos

theorem sorted {r r' : Report} (h : r.Continues r') (hr : r.Sorted) : r'.Sorted :=
  ⟨h.errors.forall_mem hr.errors, h.warnings.forall_mem hr.warnings, h.infos.forall_mem hr.infos⟩

theorem writable {r r' : Report} {room : Nat} (h : r.Continues r') (hr : r.Writable room) :
    r'.Writable room := by
  obtain ⟨hparams, hcontext⟩ := hr
  rw [bound, ← h.params] at hparams
  rw [← h.context] at hcontext
  exact ⟨hparams, hcontext⟩

end Continues

theorem extend_nil (r : Report) : r.extend [] [] [] = r := by
  simp only [extend, List.append_nil]

/-- A finding is added to the list of its severity. -/
theorem add_eq_extend (r : Report) (f : Finding) : r.add f =
    r.extend ([f].filter (·.severity = .error)) ([f].filter (·.severity = .warning))
      ([f].filter (·.severity = .info)) := by
  obtain ⟨severity, message, code⟩ := f
  cases severity <;> simp [add, extend]

section Writable

variable {room : Nat} {r : Report} (h : r.Writable room)
include h

theorem Writable.bindingFailure?_eq_none : r.bindingFailure? = none := by
  have hfailure (verbose : Bool) : r.bound.entries.findSome? (Binding.failure? verbose) = none := by
    refine List.findSome?_eq_none_iff.2 fun e he => ?_
    have hentry := h.params e he
    cases verbose with
    | true => exact hentry
    | false =>
      have hkey := (Option.or_eq_none_iff.1 hentry).1
      rw [Binding.failure?, hkey]
      simp
  rw [bindingFailure?, hfailure]
  split <;> rfl

theorem Writable.contextFailure?_eq_none : r.contextFailure? room = none := by
  rw [contextFailure?, Context.failure?, List.findSome?_eq_none_iff.2 h.context]
  split <;> rfl

theorem Writable.plainFailure?_eq_none : r.plainFailure? room = none := by
  rw [plainFailure?, h.contextFailure?_eq_none, List.findSome?_eq_none_iff.2 h.params]
  split <;> rfl

end Writable

end Report

/-! ## Steps -/

namespace Step

/-- Whether a step makes a report instead of working on the one that there is. -/
def makes : Step → Bool
  | .new _ | .bypass _ => true
  | _ => false

/-- Whether a step makes a report with findings. -/
def givesFindings : Step → Bool
  | .new es => ["errors", "warnings", "infos"].any fun name => (Value.lookup? name es).isSome
  | _ => false

/-- What a step has to write that cannot be written: remarks on bindings, a suggestion or a
rendering. -/
def unwritable? (room : Nat) (r : Report) : Step → Option WriteError
  | .checkBinding _ => r.bindingFailure?
  | .suggest _ => r.suggestFailure?
  | .plain => r.plainFailure? room
  | .html => r.contextFailure? room
  | _ => none

/-- On a report that can be written, all that a step has to write can be. -/
theorem unwritable?_eq_none {room : Nat} {r : Report} (h : r.Writable room) (s : Step) :
    s.unwritable? room r = none := by
  cases s with
  | checkBinding sql => exact h.bindingFailure?_eq_none
  | suggest attach => exact Report.suggestFailure?_eq_none h.bindingFailure?_eq_none
  | plain => exact h.plainFailure?_eq_none
  | html => exact h.contextFailure?_eq_none
  | _ => rfl

end Step

namespace Session

variable {w : Format} {now : Timestamp}

/-- The report after a step, whether or not it is answered. -/
def next (w : Format) (now : Timestamp) (r : Report) (s : Step) : Report :=
  (stepOn w now r s).report

/-- The report after steps one after another. -/
def after (w : Format) (now : Timestamp) (r : Report) (ss : List Step) : Report :=
  ss.foldl (next w now) r

theorem after_cons (r : Report) (s : Step) (ss : List Step) :
    after w now r (s :: ss) = after w now (next w now r s) ss := rfl

theorem after_append (r : Report) (ss ts : List Step) :
    after w now r (ss ++ ts) = after w now (after w now r ss) ts :=
  List.foldl_append

/-- A session takes its last step on the report after those before it. -/
theorem run_append_singleton (r : Report) (ss : List Step) (s : Step) :
    run w now r (ss ++ [s]) = run w now r ss >>= fun answers =>
      settle (stepOn w now (after w now r ss) s).answer >>= fun answer =>
        .ok (answers ++ [answer]) := by
  induction ss generalizing r with
  | nil =>
    have hnil : after w now r [] = r := rfl
    rw [List.nil_append, hnil, run, run]
    cases settle (stepOn w now r s).answer <;> rfl
  | cons s₁ ss ih =>
    rw [List.cons_append, run, run, ih, after_cons]
    cases settle (stepOn w now r s₁).answer with
    | error e => rfl
    | ok answer =>
      show (run w now (next w now r s₁) ss >>= _) >>= _ = (run w now (next w now r s₁) ss >>= _) >>= _
      cases run w now (next w now r s₁) ss with
      | error e => rfl
      | ok answers =>
        show (settle (stepOn w now (after w now (next w now r s₁) ss) s).answer >>= _) >>= _ =
          settle (stepOn w now (after w now (next w now r s₁) ss) s).answer >>= _
        cases settle (stepOn w now (after w now (next w now r s₁) ss) s).answer <;> rfl

/-! ## Effects -/

/-- What a step can do to a report: add findings, each to the list of its severity, attach the
suggestion, set a flag, or tell the verdict. -/
inductive Effect (r : Report) : Step → Report → Prop where
  | extend {s : Step} (hs : s ≠ .finalize)
      {errors warnings infos : List Finding} (he : ∀ f ∈ errors, f.severity = .error)
      (hw : ∀ f ∈ warnings, f.severity = .warning) (hi : ∀ f ∈ infos, f.severity = .info) :
      Effect r s (r.extend errors warnings infos)
  | suggest : Effect r (.suggest true) { r with suggestion := r.suggest }
  | setVerbose (v : Value) : Effect r (.setVerbose v) { r with verbose := v }
  | setParameterized (v : Value) : Effect r (.setParameterized v) { r with parameterized := v }
  | finalize : Effect r .finalize r.finalize

namespace Effect

variable {r r' : Report} {s : Step}

/-- A step that only looks at a report leaves it as it is. -/
theorem none (hs : s ≠ .finalize) : Effect r s r := by
  have h : Effect r s (r.extend [] [] []) := .extend hs nofun nofun nofun
  rwa [Report.extend_nil] at h

theorem add (hs : s ≠ .finalize) (f : Finding) : Effect r s (r.add f) := by
  have hfilter (severity : Severity) :
      ∀ g ∈ [f].filter (·.severity = severity), g.severity = severity := fun g hg => by
    simpa using (List.mem_filter.1 hg).2
  rw [Report.add_eq_extend]
  exact .extend hs (hfilter .error) (hfilter .warning) (hfilter .info)

theorem record (hs : s ≠ .finalize) (found : Remarks) : Effect r s (r.record found) := by
  refine .extend hs (List.forall_mem_map.2 fun _ _ => rfl) (List.forall_mem_map.2 fun _ _ => rfl) ?_
  split
  · exact List.forall_mem_map.2 fun _ _ => rfl
  · exact nofun

theorem continues (h : Effect r s r') : r.Continues r' := by
  cases h with
  | extend hs he hw hi =>
    exact { Report.Continues.refl r with
      errors := ⟨_, rfl, he⟩, warnings := ⟨_, rfl, hw⟩, infos := ⟨_, rfl, hi⟩ }
  | suggest | setVerbose | setParameterized | finalize => exact { Report.Continues.refl r with }

/-- The status changes with the verdict only. -/
theorem status (h : Effect r s r') :
    (s = .finalize → r'.status = if r.errors = [] then .success else .error) ∧
      (s ≠ .finalize → r'.status = r.status) := by
  cases h with
  | extend hs => exact ⟨fun h => absurd h hs, fun _ => rfl⟩
  | suggest | setVerbose | setParameterized => exact ⟨nofun, fun _ => rfl⟩
  | finalize =>
    refine ⟨fun _ => ?_, fun h => absurd rfl h⟩
    simp only [Report.finalize, List.isEmpty_iff]

/-- The suggestion changes when one is attached only. -/
theorem suggestion (h : Effect r s r') (hs : s ≠ .suggest true) :
    r'.suggestion = r.suggestion := by
  cases h with
  | suggest => exact absurd rfl hs
  | extend | setVerbose | setParameterized | finalize => rfl

end Effect

/-- The check of bindings adds remarks to a report, even if it fails. -/
theorem exists_afterBinding_eq (r : Report) (sql : List Char) :
    ∃ found, r.afterBinding sql = r.record found := by
  rw [Report.afterBinding]
  cases r.bindingFailure? with
  | none => exact ⟨_, r.checkBinding_eq sql⟩
  | some e => exact ⟨_, rfl⟩

/-- A step that makes no report has one of the effects. -/
theorem effect_next (r : Report) {s : Step} (hs : s.makes = false) :
    Effect r s (next w now r s) := by
  cases s with
  | new | bypass => exact nomatch hs
  | add severity es =>
    rw [next, stepOn]
    cases Finding.read severity es with
    | error errors => exact .none (s := .add severity es) nofun
    | ok f => exact .add (s := .add severity es) nofun f
  | checkStructure sql => exact .record (s := .checkStructure sql) nofun _
  | checkBinding sql =>
    obtain ⟨found, hfound⟩ := exists_afterBinding_eq r (stepOn.textOf r sql)
    have hnext : next w now r (.checkBinding sql) = r.record found := hfound
    rw [hnext]
    exact .record (s := .checkBinding sql) nofun found
  | checkInjection sql => exact .record (s := .checkInjection sql) nofun _
  | suggest attach =>
    rw [next, stepOn]
    cases r.suggestFailure? with
    | some e => exact .none nofun
    | none =>
      cases attach with
      | true => exact .suggest
      | false => exact .none nofun
  | setVerbose v => exact .setVerbose v
  | setParameterized v => exact .setParameterized v
  | finalize => exact .finalize
  | hasFinding | findings | plain | html | report | document => exact .none nofun

/-! ## Answers -/

/-- How a step is answered. It is refused if it is to add a finding whose fields do not fit, it fails
if it has to write what cannot be written, and there may be no document. -/
theorem answer_cases (r : Report) {s : Step} (hs : s.makes = false) :
    let o := stepOn w now r s
    ((∃ answer, o.answer = .ok answer) ∧ s.unwritable? w.room r = none) ∨
    (∃ severity es errors, s = .add severity es ∧ Finding.read severity es = .error errors ∧
      o = ⟨r, .error (.invalid errors)⟩) ∨
    (∃ e, s.unwritable? w.room r = some e ∧ o.answer = .error (.unwritable e)) ∨
    (∃ e, s = .document ∧ r.toDocument w = .error e ∧ o = ⟨r, .error (.undocumented e)⟩) := by
  cases s with
  | new | bypass => exact nomatch hs
  | add severity es =>
    rw [stepOn]
    cases hf : Finding.read severity es with
    | ok f => exact .inl ⟨⟨_, rfl⟩, rfl⟩
    | error errors => exact .inr (.inl ⟨severity, es, errors, rfl, hf, rfl⟩)
  | checkBinding sql =>
    rw [stepOn, checked, Step.unwritable?]
    cases r.bindingFailure? with
    | none => exact .inl ⟨⟨_, rfl⟩, rfl⟩
    | some e => exact .inr (.inr (.inl ⟨e, rfl, rfl⟩))
  | suggest attach =>
    rw [stepOn, Step.unwritable?]
    cases r.suggestFailure? with
    | none => exact .inl ⟨⟨_, rfl⟩, rfl⟩
    | some e => exact .inr (.inr (.inl ⟨e, rfl, rfl⟩))
  | plain =>
    rw [stepOn, writing, Report.toPlain, Step.unwritable?]
    cases r.plainFailure? w.room with
    | none => exact .inl ⟨⟨_, rfl⟩, rfl⟩
    | some e => exact .inr (.inr (.inl ⟨e, rfl, rfl⟩))
  | html =>
    rw [stepOn, writing, Report.toHtml, Step.unwritable?]
    cases r.contextFailure? w.room with
    | none => exact .inl ⟨⟨_, rfl⟩, rfl⟩
    | some e => exact .inr (.inr (.inl ⟨e, rfl, rfl⟩))
  | document =>
    rw [stepOn]
    cases hd : r.toDocument w with
    | ok d => exact .inl ⟨⟨_, rfl⟩, rfl⟩
    | error e => exact .inr (.inr (.inr ⟨e, rfl, rfl, rfl⟩))
  | _ => exact .inl ⟨⟨_, rfl⟩, rfl⟩

/-- The counts that a step answers with are the lengths of the lists after it. -/
theorem counts_stepOn {r : Report} {s : Step} {errors warnings infos : Nat}
    (hs : s.makes = false) (h : (stepOn w now r s).answer = .ok (.counts errors warnings infos)) :
    errors = (next w now r s).errors.length ∧ warnings = (next w now r s).warnings.length ∧
      infos = (next w now r s).infos.length := by
  cases s with
  | new | bypass => exact nomatch hs
  | add severity es =>
    rw [stepOn] at h
    rw [next, stepOn]
    cases hf : Finding.read severity es with
    | error errors =>
      rw [hf] at h
      exact nomatch h
    | ok f =>
      rw [hf] at h
      cases h
      exact ⟨rfl, rfl, rfl⟩
  | checkBinding sql =>
    rw [stepOn, checked] at h
    cases hf : r.bindingFailure? <;> rw [hf] at h <;> exact nomatch h
  | suggest attach =>
    rw [stepOn] at h
    cases hf : r.suggestFailure? <;> rw [hf] at h <;> exact nomatch h
  | plain =>
    rw [stepOn, writing] at h
    cases hf : r.toPlain w.room <;> rw [hf] at h <;> exact nomatch h
  | html =>
    rw [stepOn, writing] at h
    cases hf : r.toHtml w.room <;> rw [hf] at h <;> exact nomatch h
  | document =>
    rw [stepOn] at h
    cases hf : r.toDocument w <;> rw [hf] at h <;> exact nomatch h
  | _ => exact nomatch Except.ok.inj h

/-- A suggestion is attached if the step that does so is answered, and none is if it fails. -/
theorem suggestion_next (r : Report) :
    let o := stepOn w now r (.suggest true)
    (∀ answer, o.answer = .ok answer → o.report.suggestion = r.suggest) ∧
      ∀ e, o.answer = .error e → o.report.suggestion = r.suggestion := by
  rw [stepOn]
  cases r.suggestFailure? with
  | none => exact ⟨fun _ _ => rfl, nofun⟩
  | some e => exact ⟨nofun, fun _ _ => rfl⟩

/-! ## Sessions -/

/-- A report that is made without findings has none, so none in a wrong list. -/
theorem sorted_of_makes {r r₀ : Report} {s : Step} {answer : StepAnswer} (hs : s.makes = true)
    (hgives : s.givesFindings = false) (h : stepOn w now r s = ⟨r₀, .ok answer⟩) : r₀.Sorted := by
  cases s with
  | new es =>
    simp only [Step.givesFindings, List.any_cons, List.any_nil, Bool.or_false, Bool.or_eq_false_iff,
      Option.isSome_eq_false_iff, Option.isNone_iff_eq_none] at hgives
    obtain ⟨herrors, hwarnings, hinfos⟩ := hgives
    rw [stepOn] at h
    cases hr : Report.ofEntries es now w.time with
    | error errors =>
      rw [hr] at h
      cases h
    | ok r₁ =>
      rw [hr] at h
      cases h
      obtain ⟨fields, hfields, rfl⟩ := Checked.map_eq_ok_iff.1 hr
      simp only [Field.member, herrors, hwarnings, hinfos, Field.orElse, Checked.zip_eq_ok_iff,
        Checked.under_eq_ok_iff, Except.ok.injEq] at hfields
      obtain ⟨-, -, -, -, -, he, hw, hi, -⟩ := hfields
      exact ⟨by simp [← he], by simp [← hw], by simp [← hi]⟩
  | bypass es =>
    rw [stepOn] at h
    cases hq : Field.member es "query" (Field.required (.object es) Field.text) with
    | error errors =>
      rw [hq] at h
      cases h
    | ok q =>
      rw [hq] at h
      cases h
      exact ⟨List.forall_mem_nil _, List.forall_mem_nil _, List.forall_mem_nil _⟩
  | _ => exact Bool.noConfusion hs

theorem continues_after {ss : List Step} (hss : ∀ s ∈ ss, s.makes = false) (r : Report) :
    r.Continues (after w now r ss) := by
  induction ss generalizing r with
  | nil => exact .refl r
  | cons s ss ih =>
    obtain ⟨hs, hss⟩ := List.forall_mem_cons.1 hss
    exact (effect_next r hs).continues.trans (ih hss (next w now r s))

/-- A report is a log. From when it is made, whatever steps are taken on it, it is about the same
query with the same parameters, message, time and context, and its lists only grow at their ends,
each by findings of its own severity; if it was made without findings, or with none of another
severity, it has no others. The counts that documents and answers show are the lengths of the lists.

A session takes each step on the report after the steps before. A step that adds a finding whose
fields do not fit is refused and changes nothing. A step fails only where it has to write what cannot
be written, which never happens if all that may have to be shown of the report as it was made can be
written, or if the report has no document. Only the verdict changes the status, to an error if there
is one at that time and to a success if not, and only attaching a suggestion changes the
suggestion. -/
theorem report_is_log (w : Format) {now : Timestamp} {start r₀ : Report} {s₀ : Step}
    {a₀ : StepAnswer} (hmakes : s₀.makes = true) (hmade : stepOn w now start s₀ = ⟨r₀, .ok a₀⟩)
    {ss : List Step} (hss : ∀ s ∈ ss, s.makes = false) :
    let r := after w now r₀ ss
    (s₀.givesFindings = false ∨ r₀.Sorted → r.Sorted) ∧
    (∀ d, r.toDocument w = .ok d →
      d.member? "errors" = some (.list (r.errors.map Finding.document)) ∧
      d.member? "warnings" = some (.list (r.warnings.map Finding.document)) ∧
      d.member? "error_count" = some (.int r.errors.length) ∧
      d.member? "warning_count" = some (.int r.warnings.length)) ∧
    (∀ ts : List Step, (∀ s ∈ ts, s.makes = false) → r.Continues (after w now r₀ (ss ++ ts))) ∧
    ∀ s : Step, s.makes = false →
      let o := stepOn w now r s
      let r' := after w now r₀ (ss ++ [s])
      (o.report = r' ∧ run w now r₀ (ss ++ [s]) = run w now r₀ ss >>= fun answers =>
        settle o.answer >>= fun answer => .ok (answers ++ [answer])) ∧
      (((∃ answer, o.answer = .ok answer) ∧ s.unwritable? w.room r = none) ∨
        (∃ severity es errors, s = .add severity es ∧ Finding.read severity es = .error errors ∧
          o.answer = .error (.invalid errors) ∧ r' = r) ∨
        (∃ e, s.unwritable? w.room r = some e ∧ o.answer = .error (.unwritable e)) ∨
        ∃ e, s = .document ∧ r.toDocument w = .error e ∧ o.answer = .error (.undocumented e)) ∧
      (r₀.Writable w.room → s.unwritable? w.room r = none) ∧
      (∀ errors warnings infos, o.answer = .ok (.counts errors warnings infos) →
        errors = r'.errors.length ∧ warnings = r'.warnings.length ∧ infos = r'.infos.length) ∧
      (s = .finalize → r'.status = if r.errors = [] then .success else .error) ∧
      (s ≠ .finalize → r'.status = r.status) ∧
      (s = .suggest true →
        (∀ answer, o.answer = .ok answer → r'.suggestion = r.suggest) ∧
        ∀ e, o.answer = .error e → r'.suggestion = r.suggestion) ∧
      (s ≠ .suggest true → r'.suggestion = r.suggestion) := by
  intro r
  have hlater : r₀.Continues r := continues_after hss r₀
  refine ⟨fun h => hlater.sorted (h.elim (sorted_of_makes hmakes · hmade) id),
    fun d hd => (Report.document_members hd).2.2, fun ts hts => ?_, fun s hs => ?_⟩
  · rw [after_append]
    exact continues_after hts r
  intro o r'
  have hnext : r' = next w now r s := after_append r₀ ss [s]
  have heffect : Effect r s r' := hnext ▸ effect_next r hs
  refine ⟨⟨hnext.symm, run_append_singleton r₀ ss s⟩, ?_, ?_, ?_, heffect.status.1,
    heffect.status.2, ?_, heffect.suggestion⟩
  · obtain h | ⟨severity, es, errors, hadd, hread, ho⟩ | h | ⟨e, hdoc, hd, ho⟩ :=
      @answer_cases w now r s hs
    · exact .inl h
    · refine .inr (.inl ⟨severity, es, errors, hadd, hread, congrArg StepOutcome.answer ho, ?_⟩)
      exact hnext.trans (congrArg StepOutcome.report ho)
    · exact .inr (.inr (.inl h))
    · exact .inr (.inr (.inr ⟨e, hdoc, hd, congrArg StepOutcome.answer ho⟩))
  · exact fun hr => s.unwritable?_eq_none (hlater.writable hr)
  · exact fun errors warnings infos h => hnext ▸ counts_stepOn hs h
  · rintro rfl
    exact hnext ▸ suggestion_next r

/-- A delete without a condition fails, after a finding without a proper message was refused and the
report was declared parameterized without any parameters. -/
theorem delete_logged :
    let now : Timestamp := ⟨2024, 1, 2, 3, 4, 5, 0⟩
    let r₀ := Report.blank "DELETE FROM t" now
    let s₀ : Step := .new [(.text "query", .text "DELETE FROM t")]
    let ss : List Step := [.checkStructure none, .add .error [(.text "message", .int 1)],
      .setParameterized (.bool true), .checkBinding (some "?")]
    let r := after .standard now r₀ ss
    s₀.makes = true ∧ stepOn .standard now r₀ s₀ = ⟨r₀, .ok (.report r₀)⟩ ∧
      (∀ s ∈ ss, s.makes = false) ∧ r.errors.length = 2 ∧ r.Sorted ∧ r₀.Continues r ∧
      Step.plain.unwritable? Format.standard.room r = none ∧
      (after .standard now r₀ (ss ++ [.finalize])).status = .error := by
  intro now r₀ s₀ ss r
  have hmade : stepOn .standard now r₀ s₀ = ⟨r₀, .ok (.report r₀)⟩ := rfl
  have hss : ∀ s ∈ ss, s.makes = false := List.forall_mem_cons.2 ⟨rfl, List.forall_mem_cons.2
    ⟨rfl, List.forall_mem_cons.2 ⟨rfl, List.forall_mem_singleton.2 rfl⟩⟩⟩
  have hlength : r.errors.length = 2 := by decide
  obtain ⟨hsorted, -, -, hstep⟩ := report_is_log .standard rfl hmade hss
  obtain ⟨-, -, hlater, -⟩ := report_is_log .standard rfl hmade (List.forall_mem_nil _)
  obtain ⟨-, -, -, -, hstatus, -⟩ := hstep .finalize rfl
  obtain ⟨-, -, hwritable, -⟩ := hstep .plain rfl
  refine ⟨rfl, hmade, hss, hlength, hsorted (.inl rfl), hlater ss hss,
    hwritable ⟨List.forall_mem_nil _, List.forall_mem_nil _⟩, ?_⟩
  rw [hstatus rfl, if_neg]
  intro hnil
  rw [hnil] at hlength
  exact nomatch hlength

/-- A report that is made with information among its errors keeps it there, whatever steps follow.
And a report of a parameterized query that is made with an integer of too many digits cannot be
written as plain text, though its query is a text. -/
theorem misfiled_finding_stays :
    let now : Timestamp := ⟨2024, 1, 2, 3, 4, 5, 0⟩
    let r₁ := { Report.blank "x" now with errors := [⟨.info, "m", none⟩] }
    let n : Int := Numeral.digitBound
    let r₂ := { Report.blank "SELECT ?;" now with
      params := some (.ofList [.int n]), parameterized := .bool true }
    stepOn .standard now r₁ (.new [(.text "query", .text "x"), (.text "errors",
        .list [.object [(.text "severity", .text "info"), (.text "message", .text "m")]])]) =
      ⟨r₁, .ok (.report r₁)⟩ ∧
    (∀ ss : List Step, (∀ s ∈ ss, s.makes = false) → ¬ (after .standard now r₁ ss).Sorted) ∧
    stepOn .standard now r₂ (.new [(.text "query", .text "SELECT ?;"),
        (.text "params", .object [(.int 0, .int n)]), (.text "is_parameterized", .bool true)]) =
      ⟨r₂, .ok (.report r₂)⟩ ∧
    stepOn .standard now r₂ .plain = ⟨r₂, .error (.unwritable .digits)⟩ := by
  intro now r₁ n r₂
  have hn : (Scalar.int n).isOverlong = true := Scalar.isOverlong_digitBound
  refine ⟨rfl, fun ss hss hsorted => ?_, ?_, ?_⟩
  · have hlater : r₁.Continues (after .standard now r₁ ss) := continues_after hss r₁
    obtain ⟨added, hadded, -⟩ := hlater.errors
    have hmem : (⟨.info, "m", none⟩ : Finding) ∈ (after .standard now r₁ ss).errors := by
      rw [hadded]
      exact List.mem_append_left _ (List.mem_singleton_self _)
    exact nomatch hsorted.errors _ hmem
  · clear_value n
    rfl
  · have hkey : (Key.position 0).toScalar.isOverlong = false :=
      Scalar.isOverlong_int_of_lt (by decide)
    have hplain : r₂.plainFailure? Format.standard.room = some .digits := by
      rw [Report.plainFailure?]
      clear_value n
      show Option.or none ([(Key.position 0, Scalar.int n)].findSome? Params.entryUnwritable?) = _
      rw [List.findSome?_cons, Params.entryUnwritable?, Key.unwritable?, Scalar.unwritable?_eq,
        Scalar.unwritable?_eq, hn, hkey]
      rfl
    rw [stepOn, Report.toPlain, hplain]
    rfl

end Session

end SqlAudit
