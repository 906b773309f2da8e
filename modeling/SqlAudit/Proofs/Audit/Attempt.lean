import SqlAudit.Proofs.Audit.Causes

/-!
# Audits that fail at a bound value

An audit has no report if its remarks would have to show an integer of too many digits.
`Audit.attempt` takes this into account, and `Audit.run` does not. Main statements:

* `Params.findSome?_failure?`: which parameters cannot be shown;
* `Audit.tryChecks_eq`: checks fail at the remarks on bound values or not at all, since a suggestion
  shows no more than they do;
* `Audit.attempt_eq`: an attempt is an audit, and its report tells whether it succeeds;
* `Audit.attempt_query`: how an attempt ends for a query.
-/

namespace SqlAudit

/-! ## Integers of too many digits -/

/-- Whether a scalar is an integer of too many digits. -/
def Scalar.isOverlong : Scalar → Bool
  | .int n => decide (Numeral.digitBound ≤ n.natAbs)
  | _ => false

/-- Whether a key is an integer of too many digits. -/
def Key.isOverlong (k : Key) : Bool :=
  k.toScalar.isOverlong

/-- Whether the remarks on a bound value show an integer of too many digits. A verbose report notes
each key with its value, and any report shows the key of a text that it warns of. -/
def Binding.isOverlong (verbose : Bool) (e : Key × Scalar) : Bool :=
  e.1.isOverlong && (verbose || !(valueCautions e).isEmpty) || e.2.isOverlong && verbose

/-- Whether the remarks on some parameter show an integer of too many digits. -/
def Params.isOverlong (verbose : Bool) (p : Params) : Bool :=
  p.entries.any (Binding.isOverlong verbose)

theorem Scalar.unwritable?_eq (v : Scalar) :
    v.unwritable? = if v.isOverlong then some .digits else none := by
  cases v with
  | int n =>
    by_cases h : n.natAbs < Numeral.digitBound
    · simp [unwritable?, isOverlong, h, Nat.not_le.2 h]
    · simp [unwritable?, isOverlong, h, Nat.not_lt.1 h]
  | _ => rfl

theorem Scalar.isOverlong_digitBound : (Scalar.int Numeral.digitBound).isOverlong = true := by
  rw [isOverlong, Int.natAbs_natCast]
  exact decide_eq_true (Nat.le_refl _)

/-- An integer of one digit can be written. -/
theorem Scalar.isOverlong_int_of_lt {n : Int} (h : n.natAbs < 10) :
    (Scalar.int n).isOverlong = false := by
  have hbound : 10 ≤ Numeral.digitBound := by
    have hlimit : Numeral.digitLimit ≠ 0 := by decide
    unfold Numeral.digitBound
    -- The power is not to be evaluated.
    generalize Numeral.digitLimit = k at hlimit ⊢
    exact Nat.le_self_pow hlimit 10
  rw [isOverlong, decide_eq_false_iff_not, Nat.not_le]
  exact Nat.lt_of_lt_of_le h hbound

theorem Binding.failure?_eq (verbose : Bool) (e : Key × Scalar) :
    failure? verbose e = if isOverlong verbose e then some .digits else none := by
  rw [failure?, isOverlong, Params.entryUnwritable?, Key.unwritable?, Scalar.unwritable?_eq,
    Scalar.unwritable?_eq, Key.isOverlong]
  cases verbose <;> cases e.1.toScalar.isOverlong <;> cases e.2.isOverlong <;>
    cases (valueCautions e).isEmpty <;> rfl

theorem findSome?_ite {α β : Type} (p : α → Bool) (b : β) (l : List α) :
    l.findSome? (fun a => if p a then some b else none) = if l.any p then some b else none := by
  induction l with
  | nil => rfl
  | cons a l ih =>
    rw [List.findSome?_cons, ih, List.any_cons]
    cases p a <;> rfl

/-- The remarks on parameters fail at an integer of too many digits. -/
theorem Params.findSome?_failure? (verbose : Bool) (p : Params) :
    p.entries.findSome? (Binding.failure? verbose) =
      if p.isOverlong verbose then some .digits else none := by
  rw [funext (Binding.failure?_eq verbose)]
  exact findSome?_ite _ _ _

/-! ## Reports -/

namespace Report

/-- What keeps an audit from ending with this report: the remarks on the bindings of a text that is
not blank. -/
def unwritable? (r : Report) : Option WriteError :=
  if (Text.trim r.query.toList).isEmpty then none else r.bindingFailure?

theorem unwritable?_bypass (text : String) (now : Timestamp) :
    (bypass text now).unwritable? = none := by
  rw [unwritable?]
  split <;> rfl

/-- Only the parameters of a verbose report are shown in a suggestion. -/
theorem eq_bound_of_fitParameters {r : Report} {query : String} {p : Params}
    (h : Remedy.of r = some (.fitParameters query p)) :
    r.isVerbose = true ∧ r.isParameterized = true ∧ p = r.bound := by
  rw [Remedy.of] at h
  cases hv : r.isVerbose with
  | false => simp [hv] at h
  | true =>
    cases hp : r.isParameterized with
    | false => simp [hv, hp] at h
    | true =>
      refine ⟨rfl, rfl, ?_⟩
      simp only [hv, hp, Bool.not_true, Bool.false_eq_true, if_false] at h
      split at h
      · cases h
        rfl
      · -- All other remedies are of another kind.
        repeat' split at h
        all_goals cases h

/-- If the remarks on bound values can be written, so can a suggestion. -/
theorem suggestFailure?_eq_none {r : Report} (h : r.bindingFailure? = none) :
    r.suggestFailure? = none := by
  rw [suggestFailure?]
  cases hr : Remedy.of r with
  | none => rfl
  | some remedy =>
    cases remedy with
    | fitParameters query p =>
      obtain ⟨hv, hp, rfl⟩ := eq_bound_of_fitParameters hr
      rw [bindingFailure?, hp, hv, if_pos rfl, List.findSome?_eq_none_iff] at h
      refine List.findSome?_eq_none_iff.2 fun e he => ?_
      exact h e (List.mem_of_mem_take he)
    | _ => rfl

end Report

namespace Audit

theorem bindingFailure?_opening (loud : Bool) (r : Report) :
    (opening loud r).bindingFailure? = r.bindingFailure? := by
  rw [opening_eq]
  rfl

/-- Checks fail at the remarks on bound values or not at all. -/
theorem tryChecks_eq (loud : Bool) (sql : List Char) (r : Report) :
    tryChecks loud sql r = writtenUnless r.bindingFailure? (checks loud sql r) := by
  have hopening : ((opening loud r).checkStructure sql).bindingFailure? = r.bindingFailure? :=
    bindingFailure?_opening loud r
  rw [tryChecks, hopening]
  cases h : r.bindingFailure? with
  | some e => rfl
  | none =>
    have hsuggest : ((((opening loud r).checkStructure sql).checkBinding sql).checkInjection
        sql).suggestFailure? = none := by
      refine Report.suggestFailure?_eq_none ?_
      rw [checkAll_eq]
      exact (bindingFailure?_opening loud r).trans h
    cases loud with
    | false => rfl
    | true =>
      show writtenUnless (Report.suggestFailure? _) _ = _
      rw [hsuggest]
      rfl

theorem tryInspect_eq (loud : Bool) (r : Report) :
    tryInspect loud r = writtenUnless r.unwritable? (inspect loud r) := by
  rw [tryInspect, inspect, Report.unwritable?]
  cases (Text.trim r.query.toList).isEmpty with
  | true => rfl
  | false =>
    simp only [Bool.false_eq_true, if_false, tryChecks_eq]
    cases r.bindingFailure? <;> rfl

theorem unwritable?_inspect (loud : Bool) (now : Timestamp) (q : Query) (verbose : Bool)
    (context : Option Context) : (inspect loud (draft now q verbose context)).unwritable? =
      (draft now q verbose context).unwritable? := by
  rw [Report.unwritable?, Report.bindingFailure?, query_inspect, bound_inspect, isVerbose_inspect,
    isParameterized_inspect]
  rfl

/-- Whether the report of a query can be written is told from the query alone. -/
theorem unwritable?_draft (now : Timestamp) (q : Query) (verbose : Bool)
    (context : Option Context) : (draft now q verbose context).unwritable? =
      if (Text.trim q.text.toList).isEmpty then none
      else if q.bound.isOverlong verbose then some .digits else none := by
  rw [← Params.findSome?_failure?]
  cases q <;> rfl

/-! ## Attempts -/

/-- What is done with a draft may fail, or its result tells that it should have. -/
theorem attempt_of_begin (x : Checked Report) {f : Report → Report}
    {g : Report → Except WriteError Report}
    (h : ∀ d, x = .ok d → g d = writtenUnless (f d).unwritable? (f d)) :
    (x.toCall.mapError CallError.rejected >>= fun d => (g d).mapError .unwritable) =
      (x.toCall >>= fun d => .ok (f d)).mapError .rejected >>= fun r =>
        (writtenUnless r.unwritable? r).mapError .unwritable := by
  cases x with
  | error es => rfl
  | ok d => exact congrArg (Except.mapError CallError.unwritable) (h d rfl)

/-- An attempt is an audit; it fails where the report of the audit cannot be written. -/
theorem attempt_eq (now : Timestamp) (s : Submission) (o : Options) :
    attempt now s o = (run now s o).mapError .rejected >>= fun r =>
      (writtenUnless r.unwritable? r).mapError .unwritable := by
  cases he : o.enabled.isTruthy with
  | false =>
    rw [run_of_disabled he, attempt, he]
    cases (Checked.under (.name "query") (Field.text s.text)).toCall with
    | error e => rfl
    | ok text =>
      show _ = (writtenUnless (Report.bypass text now).unwritable? _).mapError _
      rw [Report.unwritable?_bypass]
      rfl
  | true =>
    rw [run_of_enabled he, attempt, he]
    cases s.toQuery with
    | error e => rfl
    | ok q =>
      refine attempt_of_begin (begin now q o.verbose o.context) fun d hd => ?_
      obtain ⟨b, c, -, -, rfl⟩ := begin_eq_ok_iff.1 hd
      rw [tryInspect_eq, unwritable?_inspect]

section Attempt

variable {now : Timestamp} {s : Submission} {o : Options}

theorem attempt_eq_ok_iff {r : Report} :
    attempt now s o = .ok r ↔ run now s o = .ok r ∧ r.unwritable? = none := by
  simp only [attempt_eq, bind_eq_ok_iff, mapError_eq_ok_iff, writtenUnless_eq_ok_iff]
  constructor
  · rintro ⟨_, hr, hwritten, rfl⟩
    exact ⟨hr, hwritten⟩
  · rintro ⟨hr, hwritten⟩
    exact ⟨r, hr, hwritten, rfl⟩

theorem attempt_eq_rejected_iff {e : Rejection} :
    attempt now s o = .error (.rejected e) ↔ run now s o = .error e := by
  simp [attempt_eq, bind_eq_error_iff, mapError_eq_ok_iff, mapError_eq_error_iff]

theorem attempt_eq_unwritable_iff {e : WriteError} :
    attempt now s o = .error (.unwritable e) ↔
      ∃ r, run now s o = .ok r ∧ r.unwritable? = some e := by
  simp [attempt_eq, bind_eq_error_iff, mapError_eq_ok_iff, mapError_eq_error_iff]

end Attempt

/-- An attempt at a query with options that fit ends with the report of all checks, unless the text
is not blank and remarks on a parameter show an integer of too many digits. -/
theorem attempt_query {o : Options} (he : o.enabled.isTruthy = true) {s : Submission} {q : Query}
    {b : Bool} {c : Option Context} (hq : s.toQuery = .ok q) (hb : Field.bool o.verbose = .ok b)
    (hc : Field.context o.context = .ok c) (now : Timestamp) :
    (Text.trim q.text.toList ≠ [] ∧ q.bound.isOverlong b = true →
      attempt now s o = .error (.unwritable .digits)) ∧
    (¬ (Text.trim q.text.toList ≠ [] ∧ q.bound.isOverlong b = true) →
      attempt now s o = .ok (inspect o.verbose.isTruthy (draft now q b c))) := by
  have hrun : run now s o = .ok (inspect o.verbose.isTruthy (draft now q b c)) :=
    (run_eq_ok_iff he).2 ⟨q, b, c, hq, hb, hc, rfl⟩
  have hfails := (unwritable?_inspect o.verbose.isTruthy now q b c).trans
    (unwritable?_draft now q b c)
  rw [attempt_eq_ok_iff, attempt_eq_unwritable_iff]
  constructor
  · rintro ⟨ht, hover⟩
    refine ⟨_, hrun, ?_⟩
    rw [hfails, if_neg (mt List.isEmpty_iff.1 ht), if_pos hover]
  · intro h
    refine ⟨hrun, ?_⟩
    rw [hfails]
    split
    · rfl
    · next ht => rw [if_neg fun hover => h ⟨mt List.isEmpty_iff.2 ht, hover⟩]

end Audit

namespace Validator

/-- Without a channel, a call is nothing but an attempt. -/
theorem attempt_silent (wire : Wire) (now : Timestamp) (s : Submission) (o : Options) :
    silent.attempt wire now s o = ⟨Audit.attempt now s o, [], silent⟩ := by
  rw [attempt]
  cases Audit.attempt now s o <;> rfl

/-- A call with a query and options that fit finishes the report of all checks, unless the attempt
at it fails. -/
theorem attempt_query {o : Options} (ho : o.Audits) {b : Bool} (hb : Field.bool o.verbose = .ok b)
    {s : Submission} {q : Query} (hq : s.toQuery = .ok q) (v : Validator) (wire : Wire)
    (now : Timestamp) :
    (Text.trim q.text.toList ≠ [] ∧ q.bound.isOverlong b = true →
      v.attempt wire now s o = ⟨.error (.unwritable .digits), [], v⟩) ∧
    (¬ (Text.trim q.text.toList ≠ [] ∧ q.bound.isOverlong b = true) →
      ∃ c, v.attempt wire now s o =
        v.finish wire (Audit.inspect o.verbose.isTruthy (Audit.draft now q b c))) := by
  obtain ⟨c, hc⟩ := ho.context
  obtain ⟨hfails, hsucceeds⟩ := Audit.attempt_query ho.enabled hq hb hc now
  constructor
  · intro h
    rw [attempt, hfails h]
  · intro h
    exact ⟨c, by rw [attempt, hsucceeds h]⟩

/-- Such a call fails only if the attempt does, since alerts never fail. -/
theorem attempt_fails_iff {o : Options} (ho : o.Audits) {b : Bool}
    (hb : Field.bool o.verbose = .ok b) {s : Submission} {q : Query} (hq : s.toQuery = .ok q)
    (v : Validator) (wire : Wire) (now : Timestamp) :
    (v.attempt wire now s o).result = .error (.unwritable .digits) ↔
      Text.trim q.text.toList ≠ [] ∧ q.bound.isOverlong b = true := by
  obtain ⟨hfails, hsucceeds⟩ := v.attempt_query ho hb hq wire now
  refine ⟨fun he => Decidable.byContradiction fun h => ?_,
    fun h => congrArg Outcome.result (hfails h)⟩
  obtain ⟨c, hc⟩ := hsucceeds h
  obtain ⟨r, hr, -⟩ := v.finish_eq_ok (ε := CallError) wire
    (Audit.inspect o.verbose.isTruthy (Audit.draft now q b c))
  rw [hc, hr] at he
  exact nomatch he

/-- A verbose call fails at a single parameter that is an integer of too many digits, if the text is
not blank. -/
theorem attempt_overlong {s : Submission} {t : String} {n : Int}
    (hs : s.toQuery = .ok (.parameterized t (.ofList [.int n]))) (ht : Text.trim t.toList ≠ [])
    (hn : (Scalar.int n).isOverlong = true) (v : Validator) (wire : Wire) (now : Timestamp) :
    (v.attempt wire now s { verbose := .bool true }).result = .error (.unwritable .digits) := by
  have ho : ({ verbose := .bool true } : Options).Audits := ⟨rfl, ⟨true, rfl⟩, ⟨none, rfl⟩⟩
  have hover : (Params.ofList [.int n]).isOverlong true = true := by
    show [(Key.position 0, Scalar.int n)].any (Binding.isOverlong true) = true
    simp [Binding.isOverlong, hn]
  exact (v.attempt_fails_iff ho rfl hs wire now).2 ⟨ht, hover⟩

end Validator

end SqlAudit
