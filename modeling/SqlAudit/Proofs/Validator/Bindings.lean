import SqlAudit.Proofs.Validator.Boundary

/-!
# Parameters on their way into a report

A query reads its parameters from null, a list or a mapping, and a report reads them once more. Main
statements:

* `Params.entries_ofEntries`: entries with distinct keys are bound as they are;
* `Field.key_eq_ok`, `Field.nodup_of_keysDiffer`: keys are kept but for their type and differ;
* `Field.params_toValue`: parameters that are read once more do not change;
* `Audit.begin_eq_ofEntries`: the report of a query is the one that is made from its fields;
* `parameters_kept`: what becomes of parameters from the input to the report of a call.
-/

namespace SqlAudit

/-! ## Bound entries -/

namespace Params

theorem ext_entries {p q : Params} (h : p.entries = q.entries) : p = q := by
  obtain ⟨es, hes⟩ := p
  obtain ⟨fs, hfs⟩ := q
  obtain rfl : es = fs := h
  rfl

/-- Entries whose keys are new are added at the end, in their order. -/
theorem entries_foldl_insert {p : Params} {es : List (Key × Scalar)}
    (h : ((p.entries ++ es).map Prod.fst).Nodup) :
    (es.foldl (fun p e => p.insert e.1 e.2) p).entries = p.entries ++ es := by
  induction es generalizing p with
  | nil => rw [List.foldl_nil, List.append_nil]
  | cons e es ih =>
    have hsplit : p.entries ++ e :: es = p.entries ++ [e] ++ es := by simp
    have hnew : e.1 ∉ p.entries.map Prod.fst := by
      rw [List.map_append, List.map_cons, List.nodup_append] at h
      exact fun hm => h.2.2 _ hm _ List.mem_cons_self rfl
    have hinsert : (p.insert e.1 e.2).entries = p.entries ++ [e] := insertEntry_new hnew
    rw [List.foldl_cons, ih (by rwa [hinsert, ← hsplit]), hinsert, hsplit]

/-- Entries with distinct keys are bound as they are. -/
theorem entries_ofEntries {es : List (Key × Scalar)} (h : (es.map Prod.fst).Nodup) :
    (ofEntries es).entries = es :=
  entries_foldl_insert (p := empty) h

theorem ofEntries_entries (p : Params) : ofEntries p.entries = p :=
  ext_entries (entries_ofEntries p.distinct)

/-- The bound values, in order. -/
def values (p : Params) : List Value :=
  p.entries.map fun e => .scalar e.2

theorem keys_ofList (ss : List Scalar) :
    (ofList ss).keys = (List.range ss.length).map fun i : Nat => Key.position i := by
  rw [keys, ofList, List.map_map, List.range_eq_range', ← List.zipIdx_map_snd 0 ss, List.map_map]
  rfl

theorem values_ofList (ss : List Scalar) : (ofList ss).values = ss.map Value.scalar := by
  have hitems : ss.zipIdx.map (Value.scalar ∘ Prod.fst) = ss.map Value.scalar := by
    rw [← List.map_map, List.zipIdx_map_fst]
  rw [values, ofList, List.map_map]
  exact hitems

end Params

/-! ## Keys -/

namespace Field

theorem scalar_eq_ok_iff {v : Value} {s : Scalar} : scalar v = .ok s ↔ v = .scalar s := by
  cases v <;> simp [scalar]

/-- The key that is read is the integer or the text that the key of the input is the same as. -/
theorem key_eq_ok {k : Scalar} {key : Key} (h : Field.key k = .ok key) :
    key.toScalar = k.keyForm := by
  cases k with
  | null => cases h
  | bool b => cases h; rfl
  | int n => cases h; rfl
  | text s => cases h; rfl
  | float x =>
    simp only [Field.key] at h
    cases hx : x.toInt64? with
    | none => simp [hx, badKey] at h
    | some n =>
      rw [hx] at h
      cases h
      have hint : x.toInt? = some n := (Option.filter_eq_some_iff.1 hx).1
      simp only [Scalar.keyForm, hint]
      rfl

theorem key_toScalar (key : Key) : Field.key key.toScalar = .ok key := by
  cases key <;> rfl

theorem entry_eq_ok_iff {e : Scalar × Value} {x : Key × Scalar} :
    entry e = .ok x ↔ Field.key e.1 = .ok x.1 ∧ e.2 = .scalar x.2 := by
  rw [entry, Checked.under_eq_ok_iff, Checked.zip_eq_ok_iff, Checked.under_eq_ok_iff,
    scalar_eq_ok_iff]

/-- The entries that are read have the keys and the values of the input, in its order. -/
theorem keys_and_values_of_entries {es : Value.Entries} {xs : List (Key × Scalar)}
    (h : Checked.all (es.map entry) = .ok xs) :
    xs.map (fun x => x.1.toScalar) = es.map (fun e => e.1.keyForm) ∧
      xs.map (fun x => Value.scalar x.2) = es.map Prod.snd := by
  induction es generalizing xs with
  | nil =>
    cases h
    exact ⟨rfl, rfl⟩
  | cons e es ih =>
    obtain ⟨x, xs, hx, hxs, rfl⟩ := Checked.all_cons_eq_ok_iff.1 h
    obtain ⟨hkey, hvalue⟩ := entry_eq_ok_iff.1 hx
    obtain ⟨hkeys, hvalues⟩ := ih hxs
    simp only [List.map_cons, key_eq_ok hkey, hvalue, hkeys, hvalues, and_self]

theorem items_of_scalarsFrom {vs : List Value} {ss : List Scalar} (n : Nat)
    (h : Checked.all ((vs.zipIdx n).map fun v => Checked.under (.index v.2) (scalar v.1)) =
      .ok ss) :
    ss.map Value.scalar = vs := by
  induction vs generalizing n ss with
  | nil =>
    cases h
    rfl
  | cons v vs ih =>
    rw [List.zipIdx_cons, List.map_cons] at h
    obtain ⟨s, ss, hs, hss, rfl⟩ := Checked.all_cons_eq_ok_iff.1 h
    have hv : v = .scalar s := scalar_eq_ok_iff.1 (Checked.under_eq_ok_iff.1 hs)
    rw [List.map_cons, ih _ hss, hv]

end Field

/-! ## What a value gives -/

namespace Value

/-- No two keys of a mapping are the same, as of every mapping that a host can build. -/
def KeysDiffer : Value → Prop
  | .object es => es.Pairwise fun a b => a.1.sameKey b.1 = false
  | _ => True

/-- The number of parameters that a value gives. -/
def bindingCount : Value → Nat
  | .scalar _ => 0
  | .list vs => vs.length
  | .object es => es.length

/-- A value gives these parameters and no others, in this order: null gives none, a list its items
under the positions from zero on, and a mapping its values, each under its key or the integer that
its key equals. -/
def Gives (v : Value) (p : Params) : Prop :=
  match v with
  | .scalar s => s = .null ∧ p.entries = []
  | .list vs =>
    p.keys = (List.range vs.length).map (fun i : Nat => Key.position i) ∧ p.values = vs
  | .object es => p.keys.map Key.toScalar = es.map (fun e => e.1.keyForm) ∧
      p.values = es.map Prod.snd

theorem size_of_gives {v : Value} {p : Params} (h : v.Gives p) : p.size = v.bindingCount := by
  have hsize : p.values.length = p.size := List.length_map ..
  cases v with
  | scalar s =>
    have hentries : p.entries = [] := h.2
    rw [Params.size, hentries]
    rfl
  | list vs =>
    have hvalues : p.values = vs := h.2
    rw [← hsize, hvalues]
    rfl
  | object es =>
    have hvalues : p.values = es.map Prod.snd := h.2
    rw [← hsize, hvalues, List.length_map]
    rfl

end Value

namespace Field

/-- Keys that differ are still distinct after they are read. -/
theorem nodup_of_keysDiffer {es : Value.Entries} (h : (Value.object es).KeysDiffer)
    {xs : List (Key × Scalar)}
    (hkeys : xs.map (fun x => x.1.toScalar) = es.map (fun e => e.1.keyForm)) :
    (xs.map Prod.fst).Nodup := by
  have hforms : (es.map fun e => e.1.keyForm).Pairwise
      fun a b => (a == b && a != .float .nan) = false := List.pairwise_map.2 h
  rw [← hkeys, List.pairwise_map] at hforms
  refine List.pairwise_map.2 (hforms.imp fun {x y} hxy hsame => ?_)
  -- Equal keys would be the same key of the input, since none of them is no number.
  have hnan : x.1.toScalar ≠ .float .nan := by cases x.1 <;> exact Scalar.noConfusion
  rw [← hsame, beq_self_eq_true, Bool.true_and] at hxy
  exact hnan (by simpa using hxy)

/-- The parameters that are read from a value are those that it gives. -/
theorem gives_of_bindings {v : Value} (hv : v.KeysDiffer) {p : Params} (h : bindings v = .ok p) :
    v.Gives p := by
  cases v with
  | scalar s =>
    cases s with
    | null =>
      cases h
      exact ⟨rfl, rfl⟩
    | _ => cases h
  | list vs =>
    obtain ⟨ss, hss, rfl⟩ := Checked.map_eq_ok_iff.1 h
    have hitems := items_of_scalarsFrom 0 hss
    have hlength : ss.length = vs.length := by rw [← hitems, List.length_map]
    refine ⟨?_, ?_⟩
    · rw [Params.keys_ofList, hlength]
    · rw [Params.values_ofList, hitems]
  | object es =>
    obtain ⟨xs, hxs, rfl⟩ := Checked.map_eq_ok_iff.1 h
    obtain ⟨hkeys, hvalues⟩ := keys_and_values_of_entries hxs
    have hentries := Params.entries_ofEntries (nodup_of_keysDiffer hv hkeys)
    refine ⟨?_, ?_⟩
    · rw [Params.keys, hentries, List.map_map]
      exact hkeys
    · rw [Params.values, hentries]
      exact hvalues

/-- Parameters that are read once more do not change. -/
theorem params_toValue (p : Params) : params p.toValue = .ok p := by
  have hentry (x : Key × Scalar) : entry (x.1.toScalar, .scalar x.2) = .ok x :=
    entry_eq_ok_iff.2 ⟨key_toScalar x.1, rfl⟩
  have hall (xs : List (Key × Scalar)) :
      Checked.all ((xs.map fun x => (x.1.toScalar, Value.scalar x.2)).map entry) = .ok xs := by
    induction xs with
    | nil => rfl
    | cons x xs ih => exact Checked.all_cons_eq_ok_iff.2 ⟨x, xs, hentry x, ih, rfl⟩
  rw [Params.toValue, params, hall p.entries]
  exact congrArg Except.ok p.ofEntries_entries

end Field

/-! ## Reports -/

namespace Report

theorem readParams_toValue (p : Params) : readParams p.toValue = .ok (some p) := by
  have hread : readParams p.toValue = (Field.params p.toValue).map some := rfl
  rw [hread, Field.params_toValue]
  rfl

@[simp] theorem params_add (r : Report) (f : Finding) : (r.add f).params = r.params := by
  rw [add]
  cases f.severity <;> rfl

end Report

namespace Audit

/-- The fields that a query and the options give a report. -/
def fields (q : Query) (verbose context : Value) : Value.Entries :=
  [(.text "query", .text q.text), (.text "params", (q.params.map Params.toValue).getD .null),
    (.text "is_parameterized", .bool q.isParameterized), (.text "verbose", verbose),
    (.text "context", context)]

/-- The report of a query before any check is the one that is made from its fields. -/
theorem begin_eq_ofEntries (now : Timestamp) (q : Query) (verbose context : Value) :
    begin now q verbose context = Report.ofEntries (fields q verbose context) now := by
  have hparams : Field.member (fields q verbose context) "params"
      (Field.orElse none Report.readParams) = .ok q.params := by
    cases q with
    | raw t => rfl
    | parameterized t p => exact Checked.under_eq_ok_iff.2 (Report.readParams_toValue p)
  have hquery : Field.member (fields q verbose context) "query"
      (Field.required (.object (fields q verbose context)) Field.text) = .ok q.text := rfl
  have hflag : Field.member (fields q verbose context) "is_parameterized"
      (Field.orElse false Field.bool) = .ok q.isParameterized := rfl
  have hverbose : Field.member (fields q verbose context) "verbose"
      (Field.orElse false Field.bool) = Checked.under (.name "verbose") (Field.bool verbose) := rfl
  have hcontext : Field.member (fields q verbose context) "context"
      (Field.orElse none Field.context) =
        Checked.under (.name "context") (Field.context context) := rfl
  simp only [Report.ofEntries, hquery, hparams, hflag, hverbose, hcontext, begin]
  cases Field.bool verbose <;> cases Field.context context <;> rfl

theorem params_inspect (loud : Bool) (now : Timestamp) (q : Query) (verbose : Bool)
    (context : Option Context) :
    (inspect loud (draft now q verbose context)).params = q.params := by
  rw [inspect_draft]
  rfl

end Audit

/-- A call that audits returns a report with the parameters of the query. -/
theorem Validator.params_of_validate {o : Options} (ho : o.Audits) {s : Submission} {q : Query}
    (hq : s.toQuery = .ok q) (v : Validator) (wire : Wire) (now : Timestamp) :
    ∃ r, (v.validate wire now s o).result = .ok r ∧ r.params = q.params := by
  obtain ⟨b, hb⟩ := ho.verbose
  obtain ⟨c, hc⟩ := ho.context
  have hrun : Audit.run now s o = .ok (Audit.inspect o.verbose.isTruthy (Audit.draft now q b c)) :=
    (Audit.run_eq_ok_iff ho.enabled).2 ⟨q, b, c, hq, hb, hc, rfl⟩
  rw [validate, hrun]
  obtain h | ⟨f, -, h⟩ := v.finish_eq_or_add wire
    (Audit.inspect o.verbose.isTruthy (Audit.draft now q b c))
  · exact ⟨_, h, Audit.params_inspect ..⟩
  · exact ⟨_, h, (Report.params_add ..).trans (Audit.params_inspect ..)⟩

/-- A query has the parameters that are read from its entry for them. -/
theorem Query.params_of_readParameterized {es : Value.Entries} {v : Value}
    (hv : Value.lookup? "params" es = some v) {q : Query} (h : readParameterized es = .ok q) :
    ∃ t p, q = .parameterized t p ∧ Field.bindings v = .ok p := by
  obtain ⟨⟨t, p⟩, htp, rfl⟩ := Checked.map_eq_ok_iff.1 h
  have hp := Checked.under_eq_ok_iff.1 (Checked.zip_eq_ok_iff.1 htp).2
  rw [hv] at hp
  exact ⟨t, p, rfl, hp⟩

/-- Whatever gives a query its parameters, and the query is accepted: the query has exactly the
parameters that are given, as many as there are, in their order and with values of their types. The
items of a list have the positions from zero on; integers and texts are kept as keys, and truth
values and whole numbers become the integers they equal, so that keys that differ stay apart. A
report reads the parameters once more and they do not change: the report of the query is the one
that is made from its fields, and however the query is submitted and whoever audits it, the report
that is returned has the parameters of the query. -/
theorem parameters_kept {es : Value.Entries} {v : Value} (hv : Value.lookup? "params" es = some v)
    (hkeys : v.KeysDiffer) {q : Query} (hq : Query.readParameterized es = .ok q) :
    ∃ t p, q = .parameterized t p ∧ v.Gives p ∧ p.size = v.bindingCount ∧
      Report.readParams p.toValue = .ok (some p) ∧
      (∀ now verbose context,
        Audit.begin now q verbose context = Report.ofEntries (Audit.fields q verbose context) now) ∧
      ∀ (validator : Validator) (wire : Wire) (now : Timestamp) (o : Options) (s : Submission),
        o.Audits → s.toQuery = .ok q →
        ∃ r, (validator.validate wire now s o).result = .ok r ∧ r.params = some p := by
  obtain ⟨t, p, rfl, hp⟩ := Query.params_of_readParameterized hv hq
  have hgives := Field.gives_of_bindings hkeys hp
  refine ⟨t, p, rfl, hgives, Value.size_of_gives hgives, Report.readParams_toValue p,
    fun now verbose context => Audit.begin_eq_ofEntries .., ?_⟩
  intro validator wire now o s ho hs
  exact Validator.params_of_validate ho hs validator wire now

/-- A mapping with a truth value, a text and a whole number for keys: truth value and number become
integers, and the text stays apart from them. -/
theorem mixed_keys_kept :
    let two : Binary64 := .finite false 0x10000000000000 (-51)
    let v : Value := .object [(.bool true, .bool false), (.text "1", .int 1),
      (.float two, .float .nan)]
    let es : Value.Entries := [(.text "text", .text "SELECT ?"), (.text "params", v)]
    let p : Params := .ofEntries [(.position 1, .bool false), (.name "1", .int 1),
      (.position 2, .float .nan)]
    v.KeysDiffer ∧ Query.readParameterized es = .ok (.parameterized "SELECT ?" p) ∧
      p.size = 3 ∧ v.Gives p ∧
      ∃ r, (Validator.silent.validate {} ⟨2024, 1, 2, 3, 4, 5, 0⟩
        (.query (.parameterized "SELECT ?" p)) {}).result = .ok r ∧ r.params = some p := by
  intro two v es p
  have hkeys : v.KeysDiffer := by
    show List.Pairwise _ _
    decide
  have hq : Query.readParameterized es = .ok (.parameterized "SELECT ?" p) := rfl
  obtain ⟨t, p', hp, hgives, hsize, -, -, hreport⟩ := parameters_kept rfl hkeys hq
  cases hp
  exact ⟨hkeys, hq, hsize, hgives, hreport .silent {} _ {} _ ⟨rfl, ⟨false, rfl⟩, ⟨none, rfl⟩⟩ rfl⟩

end SqlAudit
