import SqlAudit.Json.Writer
import SqlAudit.Value.Document

/-!
# Documents that cannot be sent

A document is sent as JSON in UTF-8. The standard has no word for a number that is not finite, and a
text with half of a pair has no encoding; `Json.sendFailure?` finds what of the two keeps a document
from being sent.
-/

namespace SqlAudit.Json

/-- What keeps a document from being sent. -/
inductive SendFailure where
  /-- It has a number that is not finite. -/
  | notFinite
  /-- It has a text that cannot be encoded. -/
  | unencodable (e : Text.Unencodable)
deriving DecidableEq, Repr

/-- What keeps a document from being sent, in words. -/
def SendFailure.message : SendFailure → String
  | .notFinite => "Out of range float values are not JSON compliant"
  | .unencodable e => e.message

/-- Finds what keeps a document from being sent. Numbers count before texts, since a document is
written before it is encoded. -/
def sendFailure? (v : Value) : Option SendFailure :=
  if v.isFinite then (Text.unencodable? (write v)).map .unencodable else some .notFinite

end SqlAudit.Json
