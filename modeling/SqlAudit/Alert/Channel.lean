import SqlAudit.Alert.Wire
import SqlAudit.Render.Document
import SqlAudit.Render.Plain
import SqlAudit.Text.Search

/-!
# Alert channels

A failing report is sent over a channel: a hook of the host application, e-mail, or a web hook.
What the world does in reply is data: the outcomes of a hook's calls, and a `Wire` for the other
two. `Channel.dispatch` tells what was delivered and why sending failed, if it did.
-/

namespace SqlAudit

/-- Why something outside failed. -/
inductive Failure where
  /-- A failure with a message. -/
  | plain (message : String)
  /-- A key was not found; the message is the key in quotes. -/
  | missingKey (key : String)
deriving DecidableEq, Repr

/-- A failure in words. -/
def Failure.text : Failure → String
  | .plain message => message
  | .missingKey key => (Scalar.text key).literal

/-- A way to send alerts. -/
inductive Channel where
  /-- A hook; the outcomes are those of its next calls, and later calls succeed. -/
  | hook (name : String) (outcomes : List (Option Failure))
  | email (mailer : Mailer)
  | webhook (url timeout : Value)

/-- What was delivered. -/
inductive Delivery where
  /-- A hook was called with a report in this state. -/
  | call (status : Status) (errors warnings infos : Nat)
  | mail (mailer : Mailer) (message : Message)
  /-- A payload was posted to a web hook, which gave this answer. -/
  | post (answer : Answer) (payload : Value)

namespace Alert

/-- The subject of an alert. -/
def subject : String :=
  "[SQLGuard Alert] SQL Query Validation Errors"

/-- The e-mail on a report, with its text in line feeds only. The headers are written first. -/
def message (wire : Wire) (m : Mailer) (r : Report) : Except String Message := do
  let sender ← wire.header m.sender
  let recipient ← wire.header m.recipient
  let plain ← (r.toPlain wire.format.room).mapError WriteError.message
  match wire.unsendable? plain with
  | some reason => throw reason
  | none => return ⟨sender, recipient, subject, String.ofList (Text.unixLines plain.toList)⟩

/-- What is posted to a web hook on a report: its text, and then its document. -/
def payload (wire : Wire) (r : Report) : Except String Value := do
  let plain ← (r.toPlain wire.format.room).mapError WriteError.message
  let document ← (r.toDocument wire.format).mapError DocumentError.message
  return .record [("subject", .text subject), ("text", .text plain), ("report", document)]

end Alert

/-- The outcome of sending a report: what was delivered, why sending failed, and the channel as it
is now. -/
structure Dispatch where
  deliveries : List Delivery
  failure : Option String
  channel : Channel

namespace Channel

/-- A hook that is a function: under the given name, or else its own. -/
def ofFunction (given functionName : Option String) (outcomes : List (Option Failure)) : Channel :=
  .hook ((given.filter (· ≠ "")).getD (functionName.getD "callable")) outcomes

/-- A hook that is an object without a name: under the name of its type. -/
def ofObject (typeName : String) (outcomes : List (Option Failure)) : Channel :=
  .hook typeName outcomes

/-- The name of a channel. -/
def name : Channel → String
  | .hook name _ => name
  | .email _ => "email"
  | .webhook .. => "webhook"

/-- Calls a hook. -/
def dispatchHook (name : String) (outcomes : List (Option Failure)) (r : Report) : Dispatch where
  deliveries := [.call r.status r.errors.length r.warnings.length r.infos.length]
  failure := outcomes.head?.join.map Failure.text
  channel := .hook name outcomes.tail

/-- Sends an e-mail. The server is asked once there is a message, and a log then names the
recipient. -/
def dispatchMail (m : Mailer) (wire : Wire) (r : Report) : Dispatch :=
  let failed (reason : String) : Dispatch := ⟨[], some reason, .email m⟩
  match Alert.message wire m r with
  | .error reason => failed reason
  | .ok message => match wire.connect m, wire.send m message with
    | some reason, _ => failed reason
    | none, some reason => failed reason
    | none, none =>
      ⟨[.mail m message], (m.recipient.unwritable? wire.format.room).map WriteError.message,
        .email m⟩

/-- Posts to a web hook. The hook is asked once there is a payload. -/
def dispatchPost (url timeout : Value) (wire : Wire) (r : Report) : Dispatch :=
  let channel := Channel.webhook url timeout
  match Alert.payload wire r with
  | .error reason => ⟨[], some reason, channel⟩
  | .ok payload => match wire.post url timeout payload with
    | .error reason => ⟨[], some reason, channel⟩
    | .ok answer => ⟨[.post answer payload], answer.refusal, channel⟩

/-- Sends a report over a channel. -/
def dispatch (c : Channel) (wire : Wire) (r : Report) : Dispatch :=
  match c with
  | .hook name outcomes => dispatchHook name outcomes r
  | .email m => dispatchMail m wire r
  | .webhook url timeout => dispatchPost url timeout wire r

end Channel

end SqlAudit
