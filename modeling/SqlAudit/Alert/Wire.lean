import SqlAudit.Render.Format

/-!
# Wires

What alerts leave to others: how headers and messages are written, what servers answer, and in which
format reports are written. A `Wire` is one way of doing so.
-/

namespace SqlAudit

/-- Where e-mail goes, and through which server. -/
structure Mailer where
  recipient : Value
  sender : Value
  host : Value
  port : Value
  timeout : Value

/-- An e-mail as it is handed to a server. -/
structure Message where
  sender : String
  recipient : String
  subject : String
  content : String
deriving DecidableEq, Repr

/-- What a web hook answers. -/
structure Answer where
  /-- The address that was asked. -/
  address : String
  status : Nat
  /-- Why the answer counts as a failure, if it does. -/
  refusal : Option String
deriving DecidableEq, Repr

/-- How the world takes part in sending. Failures are told in words. -/
structure Wire where
  /-- A sender or a recipient as the header of an e-mail. -/
  header : Value → Except String String := fun v => .ok v.display
  /-- Why a text cannot be the content of an e-mail, if it cannot. -/
  unsendable? : String → Option String := fun _ => none
  /-- Why a server cannot be reached, if it cannot. -/
  connect : Mailer → Option String := fun _ => none
  /-- Why a server does not take an e-mail, if it does not. -/
  send : Mailer → Message → Option String := fun _ _ => none
  /-- The answer of a web hook to a payload, or why there is none. -/
  post : (url timeout payload : Value) → Except String Answer :=
    fun url _ _ => .ok ⟨url.display, 204, none⟩
  /-- The format of reports. -/
  format : Format := .standard

end SqlAudit
