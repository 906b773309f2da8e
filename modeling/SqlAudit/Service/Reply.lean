import SqlAudit.Json.Encoding
import SqlAudit.Json.Reader
import SqlAudit.Json.Strict
import SqlAudit.Render.Html
import SqlAudit.Service.Body
import SqlAudit.Service.Request
import SqlAudit.Validator

/-!
# Replies

Audits over HTTP: `Service.handle` is the reply to a request. A body that does not fit is answered
by all that is wrong with it, and a reply that cannot be sent is none.
-/

namespace SqlAudit

/-- The content of a reply. -/
inductive Content where
  | none
  | document (v : Value)
  | plain (text : String)
  | html (text : String)
  /-- What is wrong with the body of a request. -/
  | errors (es : List FieldError)

/-- The type of a content. -/
def Content.type : Content → String
  | .none => ""
  | .document _ | .errors _ => "application/json"
  | .plain _ => "text/plain; charset=utf-8"
  | .html _ => "text/html; charset=utf-8"

/-- A reply. -/
structure Reply where
  status : Nat
  content : Content

/-- Why there is no reply. -/
inductive ServiceError where
  /-- The settings do not fit. -/
  | rejected (e : Rejection)
  /-- The reply cannot be sent. -/
  | unsendable (e : Json.SendFailure)
  /-- A text of a report cannot be encoded. -/
  | unencodableReport (e : Text.Unencodable)
  /-- The report shows what cannot be written. -/
  | unwritable (e : WriteError)
  /-- The report has no document. -/
  | undocumented (e : DocumentError)

/-- Why there is no reply, in words; parts of settings that do not fit have words of their own. -/
def ServiceError.message? : ServiceError → Option String
  | .rejected e => e.message?
  | .unsendable e => some e.message
  | .unencodableReport e => some ("Error serializing to JSON: UnicodeEncodeError: " ++ e.message)
  | .unwritable e => some e.message
  | .undocumented e => some e.message

/-- A step of the way to a part of a body, as a part of a reply. -/
def PathStep.document : PathStep → Value
  | .name s => .text s
  | .index n => .int n

/-- A part of a body that does not fit, as a part of a reply. -/
def FieldError.document (e : FieldError) : Value :=
  .record [("type", .text e.reason.code), ("loc", .list (e.path.map PathStep.document)),
    ("msg", .text e.reason.message), ("input", e.input.shown)]

namespace Service

/-- A reply that only explains its status. -/
def explained (status : Nat) (detail : String) : Reply :=
  ⟨status, .document (.record [("detail", .text detail)])⟩

/-- The reply to a body that does not fit. -/
def refused (es : List FieldError) : Reply :=
  ⟨422, .errors es⟩

/-- How deeply lists and objects may be nested in a body. -/
def nestingLimit : Nat := 970

/-- Reads the body of a request, or replies what is wrong with it. -/
def readBody (body : List Char) : Except Reply AuditRequest :=
  if body.isEmpty then .error (refused [⟨[.name "body"], .missing, .null⟩])
  else match Json.decode? body with
    | none => .error unreadable
    | some text => match Json.read nestingLimit text with
      | .error (.malformed offset) =>
        .error (refused [⟨[.name "body", .index offset], .malformedJson, .object []⟩])
      | .error _ => .error unreadable
      | .ok v => match Checked.under (.name "body") (AuditRequest.read v) with
        | .ok a => .ok a
        | .error es => .error (refused es)
where
  /-- The reply to a body that is beyond reading. -/
  unreadable : Reply := explained 400 "There was an error parsing the body"

/-- Audits as a request asks for. -/
def audit (s : Settings) (wire : Wire) (now : Timestamp) (r : Request) (e : Endpoint)
    (a : AuditRequest) : Outcome Report :=
  Validator.validate ⟨if a.notify then s.channel else none⟩ wire now (.query a.query)
    (a.options s (r.context e))

/-- The content of the reply to an audit. -/
def content (w : Format) (e : Endpoint) (r : Report) : Except ServiceError Content :=
  match e with
  | .plain =>
    if r.status = .bypassed then .ok (.plain (r.message.getD "" ++ "\n"))
    else ((r.toPlain w.room).map .plain).mapError .unwritable
  | .html => ((r.toHtml w.room).map .html).mapError .unwritable
  | _ => ((r.toDocument w).map fun v => .document (v.mapScalars w.reply)).mapError .undocumented

/-- What keeps the reply to an audit from being sent. -/
def reportFailure? : Content → Option ServiceError
  | .plain s | .html s => (Text.unencodable? s.toList).map (.unsendable ∘ .unencodable)
  | .document v => v.unencodable?.map .unencodableReport
  | _ => none

/-- What keeps any other reply from being sent. -/
def replyFailure? : Content → Option ServiceError
  | .document v => (Json.sendFailure? v).map .unsendable
  | .errors es =>
    (Json.sendFailure? (.record [("detail", .list (es.map FieldError.document))])).map .unsendable
  | _ => none

/-- A reply, unless something keeps it from being sent. -/
def sendable (failure? : Content → Option ServiceError) (reply : Reply) : Except ServiceError Reply :=
  match failure? reply.content with
  | some e => .error e
  | none => .ok reply

/-- What the root says about the service. -/
def greeting (s : Settings) : Value :=
  .record [("message", .text "SQLGuard API"), ("docs", .text "/docs"), ("version", .text version),
    ("validation_enabled", s.enabled.shown)]

/-- Replies to a request at an endpoint. -/
def serve (s : Settings) (wire : Wire) (now : Timestamp) (r : Request) (e : Endpoint) :
    Except ServiceError (Reply × List Delivery) :=
  match e with
  | .root => (sendable replyFailure? ⟨200, .document (greeting s)⟩).map (·, [])
  | .version =>
    .ok (⟨200, .document (.record [("name", .text "sqlguard"), ("version", .text version)])⟩, [])
  | e => match readBody r.body with
    | .error reply => (sendable replyFailure? reply).map (·, [])
    | .ok a =>
      let o := audit s wire now r e a
      match o.result with
      | .error err => .error (.rejected err)
      | .ok report => do
        let content ← content wire.format e report
        (sendable reportFailure? ⟨200, content⟩).map (·, o.deliveries)

/-- The reply to a request that is made by a wrong method. -/
def wrongMethod : Reply :=
  explained 405 "Method Not Allowed"

/-- The reply to a request that leads nowhere. A path that would lead somewhere with other slashes at
its end is sent there. The pages that describe the service are not part of it. -/
def lost (r : Request) : Reply :=
  match Destination.ofPath? r.path with
  | some _ => if r.method = "GET" ∨ r.method = "HEAD" then notFound else wrongMethod
  | none => if Destination.isNear r.path then ⟨307, .none⟩ else notFound
where
  /-- The reply when there is nothing. -/
  notFound : Reply := explained 404 "Not Found"

/-- Replies to a request. -/
def handle (s : Settings) (wire : Wire) (now : Timestamp) (r : Request) :
    Except ServiceError (Reply × List Delivery) :=
  match Destination.ofPath? r.path with
  | some (.endpoint e) => if e.method = r.method then serve s wire now r e else .ok (wrongMethod, [])
  | _ => .ok (lost r, [])

end Service

end SqlAudit
