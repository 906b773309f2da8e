import SqlAudit.Proofs.Audit.Attempt

/-!
# Calls of one validator

A validator with a hook makes any calls, one after another. `Call.failure?` is the report of a call
that has to be announced, and `Call.answer` is what such a validator answers, both said in terms of
a validator without alerts. Main statements:

* `Audit.run_asOf`, `Audit.attempt_asOf`: the time of an audit is noted in its report, and changes
  nothing else;
* `Validator.call_hook`: what one call answers, and what it leaves of the outcomes of the hook;
* `callsAt_hook`: each of several calls answers as if it were alone, and the hook is asked by those
  that fail, once by each and in their order.
-/

namespace SqlAudit

/-! ## Times -/

/-- A report as of another time. -/
def Report.asOf (now : Timestamp) (r : Report) : Report :=
  { r with timestamp := now }

/-- A result as of another time. -/
def CallResult.asOf (now : Timestamp) : CallResult → CallResult
  | .report r => .report (r.asOf now)
  | .verdict valid => .verdict valid

namespace Audit

theorem begin_asOf (now now' : Timestamp) (q : Query) (verbose context : Value) :
    begin now q verbose context = (begin now' q verbose context).map (Report.asOf now) := by
  rw [begin, begin]
  cases (Checked.under (.name "verbose") (Field.bool verbose)).zip
    (Checked.under (.name "context") (Field.context context)) <;> rfl

theorem checks_asOf (loud : Bool) (sql : List Char) (now : Timestamp) (r : Report) :
    checks loud sql (r.asOf now) = (checks loud sql r).asOf now := by
  have ho : opening loud (r.asOf now) = (opening loud r).asOf now := by
    rw [opening_eq, opening_eq]
    rfl
  rw [checks, checks, checkAll_eq, checkAll_eq, ho]
  cases loud <;> rfl

theorem inspect_asOf (loud : Bool) (now : Timestamp) (r : Report) :
    inspect loud (r.asOf now) = (inspect loud r).asOf now := by
  have hq : (r.asOf now).query = r.query := rfl
  rw [inspect, inspect, hq, checks_asOf]
  cases (Text.trim r.query.toList).isEmpty <;> rfl

/-- An audit at another time has the same outcome, but for the time in its report. -/
theorem run_asOf (now now' : Timestamp) (s : Submission) (o : Options) :
    run now s o = (run now' s o).map (Report.asOf now) := by
  cases he : o.enabled.isTruthy with
  | true =>
    rw [run_of_enabled he, run_of_enabled he]
    cases s.toQuery with
    | error e => rfl
    | ok q =>
      show (begin now q _ _).toCall >>= _ = Except.map _ ((begin now' q _ _).toCall >>= _)
      rw [begin_asOf now now']
      cases begin now' q o.verbose o.context with
      | error es => rfl
      | ok r => exact congrArg Except.ok (inspect_asOf _ _ _)
  | false =>
    rw [run_of_disabled he, run_of_disabled he]
    cases Checked.under (.name "query") (Field.text s.text) <;> rfl

theorem attempt_asOf (now now' : Timestamp) (s : Submission) (o : Options) :
    attempt now s o = (attempt now' s o).map (Report.asOf now) := by
  rw [attempt_eq, attempt_eq, run_asOf now now']
  cases run now' s o with
  | error e => rfl
  | ok r =>
    show (writtenUnless r.unwritable? (r.asOf now)).mapError CallError.unwritable =
      ((writtenUnless r.unwritable? r).mapError CallError.unwritable).map (Report.asOf now)
    cases r.unwritable? <;> rfl

/-- Only an audit that is enabled finds errors, and then its report fails. -/
theorem failing_of_run {now : Timestamp} {s : Submission} {o : Options} {r : Report}
    (h : run now s o = .ok r) (hr : r.errors ≠ []) :
    o.enabled.isTruthy = true ∧ r.status = .error := by
  cases he : o.enabled.isTruthy with
  | false =>
    obtain ⟨text, rfl⟩ := eq_bypass_of_run he h
    exact absurd rfl hr
  | true =>
    obtain ⟨q, b, c, -, -, -, rfl⟩ := (run_eq_ok_iff he).1 h
    have hf : faults q ≠ [] := by
      rintro hf
      rw [errors_inspect, hf] at hr
      exact hr rfl
    rw [status_inspect, if_neg hf]
    exact ⟨rfl, rfl⟩

end Audit

/-! ## Calls and their answers -/

/-- A result with one more finding in its report, if it has one. -/
def CallResult.noting (f : Finding) : CallResult → CallResult
  | .report r => .report (r.add f)
  | .verdict valid => .verdict valid

/-- The finding on a hook that was asked, by what became of it. -/
def hookFinding (name : String) : Option Failure → Finding
  | none => ⟨.info, "Error report sent via " ++ name, some "notification_sent"⟩
  | some e => ⟨.warning, "Failed to notify via " ++ name ++ ": " ++ e.text,
      some "notification_failed"⟩

namespace Call

/-- What is submitted with a call. -/
def submission : Call → Submission
  | .validate s _ => s
  | .isValid s _ => s

/-- The options of a call. Who asks for a verdict asks for no information. -/
def options : Call → Options
  | .validate _ o => o
  | .isValid _ enabled => { enabled }

/-- What a call returns of its report. -/
def resultOf : Call → Report → CallResult
  | .validate .. => .report
  | .isValid .. => fun r => .verdict r.isAcceptable

/-- The report of a call that is to be announced: the call is enabled, and there are errors. -/
def failure? (now : Timestamp) (c : Call) : Option Report :=
  match (Validator.silent.attempt {} now c.submission c.options).result with
  | .ok r => if c.options.enabled.isTruthy && !r.errors.isEmpty then some r else none
  | .error _ => none

/-- What a call at the time `now` answers if alerts go to a hook, told from what it answers without
alerts at the time `alone`. The hook is asked if the call fails, and finds a finished report;
`outcome` is what becomes of it. -/
def answer (name : String) (outcome : Option Failure) (now alone : Timestamp) (c : Call) :
    Except CallError CallResult × List Delivery :=
  let result := (Validator.silent.call {} alone c).result.map (.asOf now)
  match c.failure? alone with
  | none => (result, [])
  | some r => (result.map (.noting (hookFinding name outcome)),
      [.call .error r.errors.length r.warnings.length r.infos.length])

theorem resultOf_asOf (c : Call) (now : Timestamp) (r : Report) :
    c.resultOf (r.asOf now) = (c.resultOf r).asOf now := by
  cases c <;> rfl

theorem resultOf_add (c : Call) (r : Report) (f : Finding) :
    c.resultOf (r.add f) = (c.resultOf r).noting f := by
  have hs : (r.add f).status = r.status := by
    rw [Report.add]
    cases f.severity <;> rfl
  cases c with
  | validate s o => rfl
  | isValid s enabled => simp only [resultOf, CallResult.noting, Report.isAcceptable, hs]

theorem failure?_eq (now : Timestamp) (c : Call) : c.failure? now =
    match Audit.attempt now c.submission c.options with
    | .ok r => if r.errors.isEmpty then none else some r
    | .error _ => none := by
  rw [failure?, Validator.attempt_silent]
  cases h : Audit.attempt now c.submission c.options with
  | error e => rfl
  | ok r =>
    cases hr : r.errors with
    | nil => simp [hr]
    | cons f fs =>
      have hrun := (Audit.attempt_eq_ok_iff.1 h).1
      have he := (Audit.failing_of_run hrun (hr ▸ List.cons_ne_nil f fs)).1
      simp [hr, he]

end Call

namespace Validator

/-- A validator whose alerts go to a hook. -/
def withHook (name : String) (outcomes : List (Option Failure)) : Validator :=
  ⟨some (.hook name outcomes)⟩

theorem call_eq (v : Validator) (wire : Wire) (now : Timestamp) (c : Call) :
    v.call wire now c = (v.attempt wire now c.submission c.options).map c.resultOf := by
  cases c <;> rfl

theorem finish_hook_of_clean {ε : Type} {r : Report} (hr : r.errors = []) (name : String)
    (outcomes : List (Option Failure)) (wire : Wire) :
    (withHook name outcomes).finish (ε := ε) wire r = ⟨.ok r, [], withHook name outcomes⟩ := by
  rw [finish]
  simp only [withHook, hr, List.isEmpty_nil, if_true]

theorem finish_hook_of_failing {ε : Type} {r : Report} (hr : r.errors ≠ []) (name : String)
    (outcomes : List (Option Failure)) (wire : Wire) :
    (withHook name outcomes).finish (ε := ε) wire r =
      ⟨.ok (r.add (hookFinding name outcomes.head?.join)),
        [.call r.status r.errors.length r.warnings.length r.infos.length],
        withHook name outcomes.tail⟩ := by
  have hf : alertFinding name (outcomes.head?.join.map Failure.text) =
      hookFinding name outcomes.head?.join := by
    cases outcomes.head?.join <;> rfl
  rw [finish]
  simp only [withHook, List.isEmpty_iff, hr, if_false, Channel.dispatch, Channel.dispatchHook,
    Channel.name, hf]

/-- One call: what it answers, and what it leaves of the outcomes of the hook. -/
theorem call_hook (name : String) (outcomes : List (Option Failure)) (wire : Wire)
    (now alone : Timestamp) (c : Call) :
    let o := (withHook name outcomes).call wire now c
    (o.result, o.deliveries) = c.answer name outcomes.head?.join now alone ∧
      o.next = withHook name (if (c.failure? alone).isSome then outcomes.tail else outcomes) := by
  simp only [Call.answer, Call.failure?_eq, call_eq, attempt_silent, Outcome.map]
  rw [attempt, Audit.attempt_asOf now alone]
  cases h : Audit.attempt alone c.submission c.options with
  | error e => exact ⟨rfl, rfl⟩
  | ok r =>
    by_cases hr : r.errors = []
    · simp only [Except.map, finish_hook_of_clean (r := r.asOf now) hr, hr, Call.resultOf_asOf]
      exact ⟨rfl, rfl⟩
    · have hs : (r.asOf now).status = .error :=
        (Audit.failing_of_run (Audit.attempt_eq_ok_iff.1 h).1 hr).2
      simp only [Except.map, finish_hook_of_failing (r := r.asOf now) hr, hs, List.isEmpty_iff, hr,
        if_false, Call.resultOf_asOf, Call.resultOf_add]
      exact ⟨rfl, rfl⟩

end Validator

/-- Any calls of a validator with a hook, each at its time. Each call answers what it answers alone,
whenever that is, but for the time of its report. Calls that fail ask the hook, each of them once
and when its report is finished, and get one finding on what became of that; the hook goes through
its outcomes from one such call to the next. All other calls leave the hook alone. -/
theorem callsAt_hook (name : String) (outcomes : List (Option Failure)) (wire : Wire)
    (alone : Timestamp) (calls : List (Timestamp × Call)) :
    (Validator.withHook name outcomes).callsAt wire calls = calls.mapIdx fun i c =>
      let asked := (calls.take i).countP fun c => (c.2.failure? alone).isSome
      c.2.answer name (outcomes.getD asked none) c.1 alone := by
  -- By induction on the calls: a call that fails takes the first outcome off the list.
  induction calls generalizing outcomes with
  | nil => rfl
  | cons c calls ih =>
    obtain ⟨now, c⟩ := c
    obtain ⟨ha, hn⟩ := Validator.call_hook name outcomes wire now alone c
    have hhead : outcomes.head?.join = outcomes.getD 0 none := by
      cases outcomes <;> rfl
    have htail : ∀ n, outcomes.tail.getD n none = outcomes.getD (n + 1) none := by
      cases outcomes <;> simp
    rw [Validator.callsAt, ha, hn, ih, List.mapIdx_cons, hhead]
    simp only [List.take_succ_cons, List.countP_cons]
    cases (c.failure? alone).isSome with
    | true => simp only [if_true, htail, List.take_zero, List.countP_nil]
    | false => rfl

end SqlAudit
