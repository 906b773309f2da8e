import SqlAudit.Alert.Answer
import SqlAudit.Alert.Channel
import SqlAudit.Json.Strict
import SqlAudit.Mail.AddressList
import SqlAudit.Url.Basic

/-!
# Recorders

Wires that deliver to nobody: they write headers, addresses and payloads as they would be sent, and
fail or answer as they are told. They serve to try out channels; what is said about alerts holds for
any wire.
-/

namespace SqlAudit

namespace Alert

/-- The message of a failure to reach a web hook. -/
def reachText : Failure → String
  | .plain message => message
  | .missingKey key => key

/-- Why the answer of a web hook is a failure, if it is. An answer from no place in particular is one
in any case. -/
def refusal? (u : Url) (status : Nat) : Option String :=
  if !u.isAbsolute then some ("unknown url type: " ++ (Scalar.text u.text).literal)
  else if isSuccess status then none
  else some (answerText u.text status)

end Alert

/-- The recorder for which connecting and sending fail as given, and all answers have one status. -/
def Wire.recorder (connect send : Option Failure) (status : Nat) : Wire where
  header v := (Mail.header v).mapError Mail.HeaderError.message
  unsendable? s := (Text.unencodable? s.toList).map Text.Unencodable.message
  connect _ := connect.map Failure.text
  send _ _ := send.map Failure.text
  post url _ payload := do
    let u ← (Url.ofValue url).mapError UrlError.message
    if let some e := Json.sendFailure? payload then throw e.message
    if let some e := connect then throw (Alert.reachText e)
    return ⟨u.text, status, Alert.refusal? u status⟩

end SqlAudit
