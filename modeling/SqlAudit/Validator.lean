import SqlAudit.Alert.Channel
import SqlAudit.Audit.Run

/-!
# Validators

A validator audits queries and sends every failing report over its channel, if it has one. The
report then gets one more finding, which tells whether that succeeded. `validate` and `isValid` take
every bound value as one that can be written, as all are that come in a request; the calls that are
made of a validator are attempts, which return the same report unless a bound value cannot be.
-/

namespace SqlAudit

/-- The version of this library. -/
def version : String := "1.0.0"

/-- A validator, with the channel for its alerts. -/
structure Validator where
  channel : Option Channel

/-- The outcome of a call: its result, or why there is none, what was delivered, and the validator
as it is now. -/
structure Outcome (α : Type) (ε : Type := Rejection) where
  result : Except ε α
  deliveries : List Delivery
  next : Validator

/-- An outcome with another result. -/
def Outcome.map {α β ε : Type} (f : α → β) (o : Outcome α ε) : Outcome β ε :=
  ⟨o.result.map f, o.deliveries, o.next⟩

namespace Validator

/-- The finding on an alert over a channel. -/
def alertFinding (name : String) : Option String → Finding
  | none => (Note.alertSent name).finding
  | some reason => (Caution.alertFailed name reason).finding

/-- Sends a finished report if it fails. -/
def finish {ε : Type} (v : Validator) (wire : Wire) (r : Report) : Outcome Report ε :=
  match v.channel with
  | none => ⟨.ok r, [], v⟩
  | some c =>
    if r.errors.isEmpty then ⟨.ok r, [], v⟩
    else
      let sent := c.dispatch wire r
      ⟨.ok (r.add (alertFinding c.name sent.failure)), sent.deliveries, ⟨some sent.channel⟩⟩

/-- Audits a submission whose bound values can be written. -/
def validate (v : Validator) (wire : Wire) (now : Timestamp) (s : Submission) (o : Options) :
    Outcome Report :=
  match Audit.run now s o with
  | .ok r => v.finish wire r
  | .error e => ⟨.error e, [], v⟩

/-- Whether a submission whose bound values can be written may be run. -/
def isValid (v : Validator) (wire : Wire) (now : Timestamp) (s : Submission) (enabled : Value) :
    Outcome Bool :=
  (v.validate wire now s { enabled }).map Report.isAcceptable

/-- Audits a submission, unless something has to be written that cannot be. -/
def attempt (v : Validator) (wire : Wire) (now : Timestamp) (s : Submission) (o : Options) :
    Outcome Report CallError :=
  match Audit.attempt now s o with
  | .ok r => v.finish wire r
  | .error e => ⟨.error e, [], v⟩

end Validator

/-- One call of a validator. -/
inductive Call where
  | validate (s : Submission) (o : Options)
  | isValid (s : Submission) (enabled : Value)

/-- What a call returns. -/
inductive CallResult where
  | report (r : Report)
  | verdict (valid : Bool)

/-- Makes one call. -/
def Validator.call (v : Validator) (wire : Wire) (now : Timestamp) :
    Call → Outcome CallResult CallError
  | .validate s o => (v.attempt wire now s o).map .report
  | .isValid s enabled =>
    (v.attempt wire now s { enabled }).map fun r => .verdict r.isAcceptable

/-- Makes calls one after another, each at its time; each finds the validator as the last one left
it. -/
def Validator.callsAt (v : Validator) (wire : Wire) :
    List (Timestamp × Call) → List (Except CallError CallResult × List Delivery)
  | [] => []
  | (now, c) :: cs =>
    let o := v.call wire now c
    (o.result, o.deliveries) :: o.next.callsAt wire cs

/-- Makes calls one after another, all at one time. -/
def Validator.calls (v : Validator) (wire : Wire) (now : Timestamp) (cs : List Call) :
    List (Except CallError CallResult × List Delivery) :=
  v.callsAt wire (cs.map fun c => (now, c))

end SqlAudit
