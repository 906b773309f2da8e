import SqlAudit.Alert.Answer
import SqlAudit.Proofs.Render.Document
import SqlAudit.Proofs.Validator.Boundary
import SqlAudit.Proofs.Validator.Calls

/-!
# What alerts say and what was delivered

A report that fails is sent over a channel, and gets one finding on what became of that. The channel
sees the report without this finding. What servers do is up to the wire. Main statements:

* `Alert.message_eq_ok_iff`, `Alert.payload_eq_ok_iff`: when there is something to send, and what it
  holds;
* `Channel.dispatch_email`, `Channel.dispatch_webhook`: when something is delivered, and when sending
  counts as a success;
* `Validator.attempt_of_failing`: what a call with a channel adds to one without;
* `alert_agrees`: the finding on an alert tells what was delivered.
-/

namespace SqlAudit

/-! ## Messages and payloads -/

namespace Alert

/-- There is a message if the sender and the recipient can be headers, the report can be written and
its text can be sent. -/
theorem message_eq_ok_iff {wire : Wire} {m : Mailer} {r : Report} {message : Message} :
    Alert.message wire m r = .ok message ↔ wire.header m.sender = .ok message.sender ∧
      wire.header m.recipient = .ok message.recipient ∧
      r.plainFailure? wire.format.room = none ∧ wire.unsendable? r.plain = none ∧
      message.subject = subject ∧
      message.content = String.ofList (Text.unixLines r.plain.toList) := by
  obtain ⟨sender, recipient, about, content⟩ := message
  simp only [Alert.message, Audit.bind_eq_ok_iff, Audit.mapError_eq_ok_iff, Report.toPlain,
    writtenUnless_eq_ok_iff]
  constructor
  · rintro ⟨_, hsender, _, hrecipient, _, ⟨hwritten, rfl⟩, h⟩
    cases hsend : wire.unsendable? r.plain with
    | some reason =>
      rw [hsend] at h
      cases h
    | none =>
      rw [hsend] at h
      cases h
      exact ⟨hsender, hrecipient, hwritten, rfl, rfl, rfl⟩
  · rintro ⟨hsender, hrecipient, hwritten, hsend, rfl, rfl⟩
    refine ⟨_, hsender, _, hrecipient, _, ⟨hwritten, rfl⟩, ?_⟩
    rw [hsend]
    rfl

/-- There is a payload if the report can be written and has a document. -/
theorem payload_eq_ok_iff {wire : Wire} {r : Report} {p : Value} :
    payload wire r = .ok p ↔ r.plainFailure? wire.format.room = none ∧
      ∃ d, r.toDocument wire.format = .ok d ∧
        p = .record [("subject", .text subject), ("text", .text r.plain), ("report", d)] := by
  simp only [payload, Audit.bind_eq_ok_iff, Audit.mapError_eq_ok_iff, Report.toPlain,
    writtenUnless_eq_ok_iff]
  constructor
  · rintro ⟨_, ⟨hwritten, rfl⟩, d, hd, h⟩
    cases h
    exact ⟨hwritten, d, hd, rfl⟩
  · rintro ⟨hwritten, d, hd, rfl⟩
    exact ⟨_, ⟨hwritten, rfl⟩, d, hd, rfl⟩

/-- A payload holds the report in plain text and as a document. -/
theorem members_of_payload {wire : Wire} {r : Report} {p : Value} (h : payload wire r = .ok p) :
    p.member? "text" = some (.text r.plain) ∧
      ∃ d, r.toDocument wire.format = .ok d ∧ p.member? "report" = some d := by
  obtain ⟨-, d, hd, rfl⟩ := payload_eq_ok_iff.1 h
  exact ⟨Value.member?_record (by simp) (by simp), d, hd,
    Value.member?_record (by simp) (by simp)⟩

end Alert

/-! ## Channels -/

namespace Channel

/-- An e-mail is delivered if there is a message and neither connecting nor sending fails, and then
this is a success if the recipient can be named in a log. -/
theorem dispatch_email (m : Mailer) (wire : Wire) (r : Report) :
    let d := (Channel.email m).dispatch wire r
    (d.failure = none ↔ d.deliveries ≠ [] ∧ m.recipient.unwritable? wire.format.room = none) ∧
    (d.deliveries = [] ∨ ∃ message, d.deliveries = [.mail m message] ∧
      Alert.message wire m r = .ok message ∧ wire.connect m = none ∧
      wire.send m message = none) ∧
    ∀ message, Alert.message wire m r = .ok message → wire.connect m = none →
      wire.send m message = none → d.deliveries = [.mail m message] := by
  simp only [dispatch, dispatchMail]
  cases hm : Alert.message wire m r with
  | error e => simp
  | ok message =>
    cases hconnect : wire.connect m with
    | some e => simp
    | none => cases hsend : wire.send m message <;> simp +contextual [hsend]

/-- A web hook is asked if there is a payload. This is a success if it answers and does not
refuse. -/
theorem dispatch_webhook (url timeout : Value) (wire : Wire) (r : Report) :
    let d := (Channel.webhook url timeout).dispatch wire r
    (d.failure = none ↔ ∃ answer payload, d.deliveries = [.post answer payload] ∧
      answer.refusal = none) ∧
    (d.deliveries = [] ∨ ∃ answer payload, d.deliveries = [.post answer payload] ∧
      Alert.payload wire r = .ok payload ∧ wire.post url timeout payload = .ok answer) ∧
    ∀ answer payload, Alert.payload wire r = .ok payload →
      wire.post url timeout payload = .ok answer → d.deliveries = [.post answer payload] := by
  simp only [dispatch, dispatchPost]
  cases hp : Alert.payload wire r with
  | error e => simp
  | ok payload =>
    cases ha : wire.post url timeout payload with
    | error e => simp +contextual [ha]
    | ok answer =>
      simp only [ha]
      refine ⟨by simp, .inr ⟨answer, payload, rfl, rfl, ha⟩, ?_⟩
      rintro answer' _ ⟨⟩ ha'
      cases ha.symm.trans ha'
      rfl

end Channel

/-! ## Calls -/

@[simp] theorem Report.suggestion_add (r : Report) (f : Finding) :
    (r.add f).suggestion = r.suggestion := by
  rw [add]
  cases f.severity <;> rfl

namespace Validator

theorem severity_alertFinding (name : String) (failure : Option String) :
    (alertFinding name failure).severity ≠ .error := by
  cases failure <;> exact Severity.noConfusion

/-- The finding on an alert has the code of a success if and only if there was no failure. -/
theorem code_alertFinding_iff {name : String} {failure : Option String} :
    (alertFinding name failure).code = some "notification_sent" ↔ failure = none := by
  cases failure with
  | none => exact iff_of_true rfl rfl
  | some reason =>
    simp [alertFinding, Caution.finding, Caution.code, Code.name]

/-- A call with a channel whose report fails ends as one without, but that the report is sent and
gets one more finding. -/
theorem attempt_of_failing {wire : Wire} {now : Timestamp} {s : Submission} {o : Options}
    {r : Report} (h : (silent.attempt wire now s o).result = .ok r) (hr : r.errors ≠ [])
    (c : Channel) :
    let call := (Validator.mk (some c)).attempt wire now s o
    let sent := c.dispatch wire r
    call.result = .ok (r.add (alertFinding c.name sent.failure)) ∧
      call.deliveries = sent.deliveries := by
  rw [attempt_silent] at h
  have hattempt : Audit.attempt now s o = .ok r := h
  simp only [attempt, hattempt, finish, List.isEmpty_iff, hr, if_false, and_self]

end Validator

/-- The finding on an alert agrees with what was delivered, if a web hook refuses all that it does
not answer with a status of success. A call whose report fails returns the report that it returns
without alerts, with one more finding, which says that the alert was sent or that it failed; the
errors, the status, the suggestion and the query are the same.

By e-mail to a text, the alert was sent if and only if a message was delivered; any other recipient
has to be one that can be named in a log, too. The content of the message is the report in plain
text. By web hook, the alert was sent if and only if a request was delivered and the status of its
answer is in 200..299; what is delivered holds the report in plain text and as a document, with its
status. Neither shows the finding on the alert. -/
theorem alert_agrees {wire : Wire} (hpost : ∀ url timeout payload answer,
      wire.post url timeout payload = .ok answer →
        (answer.refusal = none ↔ 200 ≤ answer.status ∧ answer.status < 300))
    {now : Timestamp} {s : Submission} {o : Options} {r : Report}
    (h : (Validator.silent.attempt wire now s o).result = .ok r) (hr : r.errors ≠ [])
    (c : Channel) :
    let call := (Validator.mk (some c)).attempt wire now s o
    ∃ f : Finding, call.result = .ok (r.add f) ∧
      (f = (Note.alertSent c.name).finding ∨
        ∃ reason, f = (Caution.alertFailed c.name reason).finding) ∧
      ((r.add f).errors = r.errors ∧ (r.add f).status = r.status ∧ r.status = .error ∧
        (r.add f).suggestion = r.suggestion ∧ (r.add f).query = r.query) ∧
      (∀ m, c = .email m →
        (∀ address, m.recipient = .text address →
          (f.code = some "notification_sent" ↔ call.deliveries ≠ [])) ∧
        (f.code = some "notification_sent" ↔
          call.deliveries ≠ [] ∧ m.recipient.unwritable? wire.format.room = none) ∧
        (call.deliveries = [] ∨ ∃ message, call.deliveries = [.mail m message] ∧
          message.content = String.ofList (Text.unixLines r.plain.toList)) ∧
        ∀ message, Alert.message wire m r = .ok message → wire.connect m = none →
          wire.send m message = none → call.deliveries = [.mail m message]) ∧
      ∀ url timeout, c = .webhook url timeout →
        (f.code = some "notification_sent" ↔ ∃ answer payload,
          call.deliveries = [.post answer payload] ∧ 200 ≤ answer.status ∧ answer.status < 300) ∧
        (call.deliveries = [] ∨ ∃ answer payload d, call.deliveries = [.post answer payload] ∧
          wire.post url timeout payload = .ok answer ∧
          payload.member? "text" = some (.text r.plain) ∧
          payload.member? "report" = some d ∧ r.toDocument wire.format = .ok d ∧
          d.member? "status" = some (.text "error")) ∧
        ∀ answer payload, Alert.payload wire r = .ok payload →
          wire.post url timeout payload = .ok answer →
            call.deliveries = [.post answer payload] := by
  intro call
  obtain ⟨hresult, hdeliveries⟩ := Validator.attempt_of_failing h hr c
  have hstatus : r.status = .error := by
    have hvalid := (Validator.attempt_eq_ok_iff.1 h).1
    rw [Validator.validate_silent] at hvalid
    exact (Audit.failing_of_run hvalid hr).2
  refine ⟨_, hresult, ?_, ?_, ?_, ?_⟩
  · cases (c.dispatch wire r).failure with
    | none => exact .inl rfl
    | some reason => exact .inr ⟨reason, rfl⟩
  · exact ⟨Report.errors_add (Validator.severity_alertFinding _ _) r, Report.status_add _ _,
      hstatus, Report.suggestion_add _ _, Report.query_add _ _⟩
  · rintro m rfl
    obtain ⟨hsent, hmail, hdue⟩ := Channel.dispatch_email m wire r
    rw [hdeliveries, Validator.code_alertFinding_iff]
    refine ⟨fun address ht => ?_, hsent, hmail.imp_right ?_, hdue⟩
    · rw [hsent, ht]
      exact and_iff_left rfl
    · rintro ⟨message, hmessage, hwritten, -⟩
      exact ⟨message, hmessage, (Alert.message_eq_ok_iff.1 hwritten).2.2.2.2.2⟩
  · rintro url timeout rfl
    obtain ⟨hsent, hposted, hdue⟩ := Channel.dispatch_webhook url timeout wire r
    rw [hdeliveries, Validator.code_alertFinding_iff]
    refine ⟨?_, hposted.imp_right ?_, hdue⟩
    · rw [hsent]
      refine exists_congr fun answer => exists_congr fun payload => and_congr_right fun hd => ?_
      -- What is delivered was answered, so that the assumption on answers applies.
      obtain hnone | ⟨answer', payload', hd', -, hanswer⟩ := hposted
      · exact nomatch hnone.symm.trans hd
      · cases hd.symm.trans hd'
        exact hpost _ _ _ _ hanswer
    · rintro ⟨answer, payload, hd, hpayload, hanswer⟩
      obtain ⟨htext, d, hdocument, hreport⟩ := Alert.members_of_payload hpayload
      refine ⟨answer, payload, d, hd, hanswer, htext, hreport, hdocument, ?_⟩
      rw [(Report.document_members hdocument).2.1, hstatus]
      rfl

/-- The report on a blank query is mailed, and the finding says so. A web hook that is out of service
is asked, and the finding says that this failed. -/
theorem blank_query_mailed :
    let refusal (url : Value) := Alert.answerText url.display 503
    let wire : Wire := { post := fun url _ _ => .ok ⟨url.display, 503, some (refusal url)⟩ }
    let m : Mailer :=
      ⟨.text "ops@example.org", .text "audit@example.org", .text "localhost", .int 25, .int 10⟩
    let hook := Channel.webhook (.text "http://localhost/hook") (.int 10)
    let call (c : Channel) := (Validator.mk (some c)).attempt wire ⟨2024, 1, 2, 3, 4, 5, 0⟩
      (.value (.text "")) {}
    ∃ r f g, (Validator.silent.attempt wire ⟨2024, 1, 2, 3, 4, 5, 0⟩ (.value (.text ""))
        {}).result = .ok r ∧ r.errors ≠ [] ∧
      (call (.email m)).result = .ok (r.add f) ∧ f.code = some "notification_sent" ∧
      (call (.email m)).deliveries = [.mail m ⟨"audit@example.org", "ops@example.org",
        Alert.subject, String.ofList (Text.unixLines r.plain.toList)⟩] ∧
      (call hook).result = .ok (r.add g) ∧ g.code ≠ some "notification_sent" ∧
      (call hook).deliveries ≠ [] := by
  intro refusal wire m hook call
  have hpost : ∀ url timeout payload answer, wire.post url timeout payload = .ok answer →
      (answer.refusal = none ↔ 200 ≤ answer.status ∧ answer.status < 300) := by
    rintro url timeout payload answer ⟨⟩
    simp
  let r := Audit.inspect false (Audit.draft ⟨2024, 1, 2, 3, 4, 5, 0⟩ (.raw "") false none)
  have hr : (Validator.silent.attempt wire ⟨2024, 1, 2, 3, 4, 5, 0⟩ (.value (.text ""))
      {}).result = .ok r := rfl
  have herrors : r.errors ≠ [] := List.cons_ne_nil _ _
  obtain ⟨f, hf, -, -, hmail, -⟩ := alert_agrees hpost hr herrors (.email m)
  obtain ⟨hsent, -, -, hdelivered⟩ := hmail m rfl
  obtain ⟨g, hg, -, -, -, hhook⟩ := alert_agrees hpost hr herrors hook
  obtain ⟨hfailed, -, hposted⟩ := hhook _ _ rfl
  have hmessage : Alert.message wire m r = .ok ⟨"audit@example.org", "ops@example.org",
      Alert.subject, String.ofList (Text.unixLines r.plain.toList)⟩ :=
    Alert.message_eq_ok_iff.2 ⟨rfl, rfl, rfl, rfl, rfl, rfl⟩
  have hmailed := hdelivered _ hmessage rfl rfl
  obtain ⟨payload, hpayload⟩ : ∃ payload, Alert.payload wire r = .ok payload :=
    ⟨_, Alert.payload_eq_ok_iff.2 ⟨rfl, _, rfl, rfl⟩⟩
  have hasked := hposted _ payload hpayload rfl
  have hcode : g.code ≠ some "notification_sent" := by
    rw [ne_eq, hfailed, hasked]
    rintro ⟨_, _, ⟨⟩, -, hstatus⟩
    exact absurd hstatus (by decide)
  refine ⟨r, f, g, hr, herrors, hf, (hsent _ rfl).2 ?_, hmailed, hg, hcode, ?_⟩
  · rw [hmailed]
    exact List.cons_ne_nil _ _
  · rw [hasked]
    exact List.cons_ne_nil _ _

end SqlAudit
