import SqlAudit.Proofs.Audit.Invariance
import SqlAudit.Proofs.Json.Names
import SqlAudit.Proofs.Render.Document
import SqlAudit.Proofs.Validator.Calls
import SqlAudit.Service.Reply

/-!
# Audits over HTTP and direct audits

A request for an audit reads its parameters on its own way, and a direct call reads them from a
mapping. `Service.direct` is what a direct call submits in place of a request. Main statements:

* `AuditRequest.bindings_of_readParams`: both ways bind the same parameters;
* `Service.toQuery_direct`: what is submitted directly is the query of the request;
* `service_agrees`: a request that sends no alerts is answered by the report of the direct call.
-/

namespace SqlAudit

/-! ## Parameters -/

namespace AuditRequest

theorem entry_eq_ok_iff {name : String} {v : Value} {x : String × Scalar} :
    entry (.text name, v) = .ok x ↔ Field.scalar v = .ok x.2 ∧ x.1 = name := by
  obtain ⟨n, s⟩ := x
  rw [entry, Checked.under_eq_ok_iff, Checked.map_eq_ok_iff]
  simp only [Prod.mk.injEq]
  constructor
  · rintro ⟨s', hs, rfl, rfl⟩
    exact ⟨hs, rfl⟩
  · rintro ⟨hs, rfl⟩
    exact ⟨s, hs, rfl, rfl⟩

/-- Parameters under names are bound to the same names, in the same order. -/
theorem entries_of_named {es : Value.Entries} (hes : ∀ e ∈ es, e.1.IsName)
    {xs : List (String × Scalar)} (h : Checked.all (es.map entry) = .ok xs) :
    Checked.all (es.map Field.entry) = .ok (xs.map fun x => (.name x.1, x.2)) := by
  induction es generalizing xs with
  | nil =>
    cases h
    rfl
  | cons e es ih =>
    obtain ⟨⟨name, hname⟩, hnames⟩ := List.forall_mem_cons.1 hes
    obtain ⟨k, v⟩ := e
    obtain rfl : k = .text name := hname
    obtain ⟨x, xs, hx, hxs, rfl⟩ := Checked.all_cons_eq_ok_iff.1 h
    obtain ⟨hv, rfl⟩ := entry_eq_ok_iff.1 hx
    have hentry : Field.entry (.text x.1, v) = .ok (.name x.1, x.2) := by
      rw [Field.entry, hv]
      rfl
    exact Checked.all_cons_eq_ok_iff.2 ⟨_, _, hentry, ih hnames hxs, rfl⟩

/-- What a request binds is what the parameters that were sent stand for. -/
theorem bindings_of_readParams {v : Value} (hv : v.IsDocument) {p : RequestParams}
    (h : readParams v = .ok (some p)) : Field.bindings v = .ok p.toParams := by
  cases hv with
  | scalar s => cases s <;> cases h
  | @list vs items =>
    cases hs : Field.scalars vs with
    | error errors => simp [readParams, positional, named, hs, Except.map, Checked.fail] at h
    | ok xs =>
      simp only [readParams, positional, hs, Except.map] at h
      cases h
      simp only [Field.bindings, hs, Except.map]
      rfl
  | @object es names values =>
    cases hs : Checked.all (es.map entry) with
    | error errors => simp [readParams, positional, named, hs, Except.map, Checked.fail] at h
    | ok xs =>
      simp only [readParams, positional, named, hs, Except.map, Checked.fail] at h
      cases h
      simp only [Field.bindings, Field.params, entries_of_named names hs, Except.map]
      rfl

/-- Only null binds nothing. -/
theorem eq_null_of_readParams {v : Value} (h : readParams v = .ok none) : v = .null := by
  cases v with
  | scalar s =>
    cases s with
    | null => rfl
    | _ => cases h
  | list vs =>
    cases hs : Field.scalars vs <;>
      simp [readParams, positional, named, hs, Except.map, Checked.fail] at h
  | object es =>
    cases hs : Checked.all (es.map entry) <;>
      simp [readParams, positional, named, hs, Except.map, Checked.fail] at h

/-- What a request that is read takes from its body. -/
theorem read_object {es : Value.Entries} {a : AuditRequest} (h : read (.object es) = .ok a) :
    Value.lookup? "sql" es = some (.text a.sql) ∧
      Field.orElse none readParams (Value.lookup? "params" es) = .ok a.params := by
  obtain ⟨⟨sql, params, enabled, verbose, notify⟩, hread, rfl⟩ := Checked.map_eq_ok_iff.1 h
  obtain ⟨hsql, hread⟩ := Checked.zip_eq_ok_iff.1 hread
  obtain ⟨hparams, -⟩ := Checked.zip_eq_ok_iff.1 hread
  refine ⟨?_, Checked.under_eq_ok_iff.1 hparams⟩
  have hsql := Checked.under_eq_ok_iff.1 hsql
  cases hlookup : Value.lookup? "sql" es with
  | none => simp [hlookup, Field.required, Checked.fail] at hsql
  | some v =>
    rw [hlookup, Field.required] at hsql
    rw [Field.text_eq_ok_iff.1 hsql]

end AuditRequest

/-! ## Requests -/

/-- An audit depends on nothing but the query that is submitted. -/
theorem Audit.run_of_toQuery {s : Submission} {q : Query} (h : s.toQuery = .ok q) (now : Timestamp)
    (o : Options) : run now s o = run now (.query q) o := by
  cases he : o.enabled.isTruthy with
  | false => rw [run_of_text he (Submission.text_of_toQuery h), run_of_text he (t := q.text) rfl]
  | true =>
    rw [run_of_enabled he, run_of_enabled he, h]
    rfl

/-- The text of a mapping is its entry `sql` if that is a text. -/
theorem Submission.textEntry_of_lookup? {es : Value.Entries} {sql : String}
    (h : Value.lookup? "sql" es = some (.text sql)) : textEntry es = .text sql := by
  simp only [textEntry, h, Option.getD_some]
  -- An empty text counts as false, and is then put in its own place.
  by_cases hempty : sql = ""
  · rw [hempty]
    rfl
  · exact if_pos (bne_iff_ne.2 hempty)

/-- A mapping with a text and parameters is the query that it shows. -/
theorem Submission.toQuery_record {sql : String} {v : Value} {p : Params}
    (h : Field.bindings v = .ok p) :
    (Submission.value (.record [("sql", .text sql), ("params", v)])).toQuery =
      .ok (.parameterized sql p) := by
  have hnames : ["sql", "params"].Nodup := by decide
  have hrecord : Value.record [("sql", .text sql), ("params", v)] =
      .object [(.text "sql", .text sql), (.text "params", v)] := Value.record_eq hnames
  have htext : textEntry [(.text "sql", .text sql), (.text "params", v)] = .text sql :=
    textEntry_of_lookup? rfl
  have hparams : Value.lookup? "params" [(.text "sql", .text sql), (.text "params", v)] = some v :=
    rfl
  have hbound : Field.member [(.text "text", .text sql), (.text "params", v)] "params"
      (Field.orElse .empty Field.bindings) = .ok p := Checked.under_eq_ok_iff.2 h
  have hread : Query.readParameterized [(.text "text", .text sql), (.text "params", v)] =
      .ok (.parameterized sql p) := by
    rw [Query.readParameterized, hbound]
    rfl
  rw [hrecord, toQuery, htext, hparams]
  exact congrArg Checked.toCall hread

namespace Service

/-- What is submitted to a validator directly in place of a request: its text if it binds no
parameters, and else a mapping, with the parameters as they were sent. -/
def direct (sql : String) : (params : Option Value) → Submission
  | none | some .null => .value (.text sql)
  | some v => .value (.record [("sql", .text sql), ("params", v)])

/-- What is submitted directly is the query of the request. -/
theorem toQuery_direct {es : Value.Entries} (hes : (Value.object es).IsDocument) {a : AuditRequest}
    (h : AuditRequest.read (.object es) = .ok a) :
    (direct a.sql (Value.lookup? "params" es)).toQuery = .ok a.query := by
  obtain ⟨-, hparams⟩ := AuditRequest.read_object h
  cases hlookup : Value.lookup? "params" es with
  | none =>
    rw [hlookup] at hparams
    rw [AuditRequest.query, ← Except.ok.inj hparams]
    rfl
  | some v =>
    rw [hlookup, Field.orElse] at hparams
    cases ha : a.params with
    | none =>
      rw [ha] at hparams
      rw [AuditRequest.query, ha, AuditRequest.eq_null_of_readParams hparams]
      rfl
    | some p =>
      rw [ha] at hparams
      have hv : v.IsDocument := Value.isDocument_of_lookup? hes hlookup
      have hbound := AuditRequest.bindings_of_readParams hv hparams
      rw [AuditRequest.query, ha, direct]
      · exact Submission.toQuery_record hbound
      · rintro rfl
        cases hparams

/-- A body that is accepted is a document, and the request is read from its members. -/
theorem readBody_eq_ok {body : List Char} {a : AuditRequest} (h : readBody body = .ok a) :
    ∃ text es, Json.decode? body = some text ∧ Json.read nestingLimit text = .ok (.object es) ∧
      AuditRequest.read (.object es) = .ok a := by
  rw [readBody] at h
  split at h
  · cases h
  split at h
  · cases h
  · next text htext =>
    split at h
    · cases h
    · cases h
    · next v hv =>
      split at h
      · next a' hread =>
        cases h
        have hread := Checked.under_eq_ok_iff.1 hread
        cases v with
        | scalar s => cases hread
        | list vs => cases hread
        | object es => exact ⟨text, es, htext, hv, hread⟩
      · cases h

/-- A request that sends no alerts is audited by a validator without a channel. -/
theorem audit_of_not_notify {a : AuditRequest} (hn : a.notify = false) (s : Settings) (wire : Wire)
    (now : Timestamp) (r : Request) (e : Endpoint) : audit s wire now r e a =
      ⟨Audit.run now (.query a.query) (a.options s (r.context e)), [], .silent⟩ := by
  rw [audit, hn]
  exact Validator.validate_silent ..

end Service

/-! ## Reports -/

theorem Value.isContext_record (fields : List (String × Value)) :
    (record fields).isContext = true := by
  obtain ⟨es, hes, hnames⟩ := isName_record fields
  rw [hes, isContext, List.all_eq_true]
  intro e he
  obtain ⟨name, hname⟩ := hnames e he
  rw [hname]
  rfl

/-- A query is refused for its options only, and only if they are looked at. -/
theorem Audit.exists_report {o : Options}
    (hv : o.verbose.isTruthValue = true ∨ o.enabled.isTruthy = false)
    (hc : o.context.isContext = true) (now : Timestamp) (q : Query) :
    ∃ r, run now (.query q) o = .ok r := by
  cases he : o.enabled.isTruthy with
  | false => exact ⟨_, run_of_text he (t := q.text) rfl now⟩
  | true =>
    have hv := hv.resolve_right (by rw [he]; exact Bool.noConfusion)
    obtain ⟨b, hb⟩ := Checked.exists_of_isOk ((Field.isOk_bool o.verbose).trans hv)
    obtain ⟨c, hc⟩ := Checked.exists_of_isOk ((Field.isOk_context o.context).trans hc)
    exact ⟨_, (run_eq_ok_iff he).2 ⟨q, b, c, rfl, hb, hc, rfl⟩⟩

/-- A request that sends no alerts is answered, but for the time, by the report of a direct call with
what its body says. The direct call is made with the text of the body or, if parameters other than
null were sent, with a mapping of the text and these parameters. It is enabled if both the request
and the settings say so, it is verbose as the request or else the settings say, and its context is
that of the request. Whatever body is accepted, the direct call takes it for the same query, and it
returns a report unless it is enabled and its verbosity is no truth value. -/
theorem service_agrees (s : Settings) (wire wire' : Wire) (now now' : Timestamp) (r : Request)
    (e : Endpoint) {a : AuditRequest} (ha : Service.readBody r.body = .ok a)
    (hn : a.notify = false) :
    ∃ text es, Json.decode? r.body = some text ∧
      Json.read Service.nestingLimit text = .ok (.object es) ∧
      Value.lookup? "sql" es = some (.text a.sql) ∧
      let submitted := Service.direct a.sql (Value.lookup? "params" es)
      let o : Options :=
        { enabled := if a.enabled then s.enabled else .bool false
          verbose := a.verbose.elim s.verbose .bool
          context := .record (r.context e) }
      let call := Validator.silent.validate wire' now' submitted o
      (Service.audit s wire now r e a).result = call.result.map (Report.asOf now) ∧
      (Service.audit s wire now r e a).deliveries = [] ∧
      submitted.toQuery = .ok a.query ∧
      (o.verbose.isTruthValue = true ∨ o.enabled.isTruthy = false →
        ∃ report, call.result = .ok report) := by
  obtain ⟨text, es, htext, hes, hread⟩ := Service.readBody_eq_ok ha
  have hquery := Service.toQuery_direct (Json.isDocument_read hes) hread
  refine ⟨text, es, htext, hes, (AuditRequest.read_object hread).1, ?_⟩
  intro submitted o call
  have ho : a.options s (r.context e) = o := by
    rw [AuditRequest.options]
    cases hverbose : a.verbose <;> simp only [o, hverbose, Option.elim]
  have hcall : call.result = Audit.run now' (.query a.query) o := by
    simp only [call, Validator.validate_silent, Audit.run_of_toQuery hquery, submitted]
  rw [Service.audit_of_not_notify hn, ho, hcall]
  refine ⟨Audit.run_asOf now now' _ _, rfl, hquery, fun hv => ?_⟩
  exact Audit.exists_report hv (Value.isContext_record _) now' a.query

/-- A body with an empty text and with a parameter that is sent twice. -/
theorem repeated_parameter_agrees :
    let r : Request := ⟨"POST", "http://localhost", "/validate", none,
      "\x7b\"sql\": \"\", \"params\": \x7b\"a\": 1, \"b\": true, \"a\": null\x7d\x7d".toList⟩
    let a : AuditRequest :=
      ⟨"", some (.named [("a", .null), ("b", .bool true)]), true, none, false⟩
    let s : Settings := ⟨.bool true, .bool false, .null, .null, .null, .null, .null, .null⟩
    let o : Options := ⟨.bool true, .bool false, .record (r.context .report)⟩
    Service.readBody r.body = .ok a ∧ a.notify = false ∧
      ∃ es report, Value.lookup? "sql" es = some (.text "") ∧
        (Validator.silent.validate {} ⟨2025, 1, 2, 3, 4, 5, 0⟩
          (Service.direct "" (Value.lookup? "params" es)) o).result = .ok report ∧
        (Service.audit s {} ⟨2024, 1, 2, 3, 4, 5, 0⟩ r .report a).result =
          .ok (report.asOf ⟨2024, 1, 2, 3, 4, 5, 0⟩) := by
  intro r a s o
  have ha : Service.readBody r.body = .ok a := by
    have hread : (Service.readBody r.body).toOption = some a := by decide +kernel
    cases h : Service.readBody r.body with
    | error reply => simp [h, Except.toOption] at hread
    | ok a' => simpa [h, Except.toOption] using hread
  obtain ⟨text, es, -, -, hsql, hresult, -, -, hreport⟩ := service_agrees s {} {}
    ⟨2024, 1, 2, 3, 4, 5, 0⟩ ⟨2025, 1, 2, 3, 4, 5, 0⟩ r .report ha rfl
  obtain ⟨report, hcall⟩ := hreport (.inl rfl)
  rw [hcall] at hresult
  exact ⟨ha, rfl, es, report, hsql, hcall, hresult⟩

end SqlAudit
