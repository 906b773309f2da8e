import Mathlib.Data.List.Nodup
import Mathlib.Data.List.Perm.Subperm
import SqlAudit.Proofs.Text.Trim
import SqlAudit.Proofs.Validator.Alerts
import SqlAudit.Service.Reply

/-!
# Parameters as members

In a document, parameters stand under names, and a position under its decimal text. So parameters may
share a member. Main statements:

* `Value.field?_fieldsOf`, `Value.nodup_fieldsOf`, `Value.mem_fieldsOf_iff`: a record binds each name
  once, to the last value that is given for it;
* `Params.nodup_displays_iff`: when parameters share a name;
* `Value.member?_mapScalars`: a reply has the members of the document that it is made of;
* `clashing_parameters_share_member`: what becomes of the parameters of a report in its document, in
  any format that writes positions, names and values as they are.
-/

namespace SqlAudit

/-! ## Records with repeated names -/

namespace Value

/-- Fields with `name` set to `v`: in the place of the name if it is there, else at the end. -/
def setField (name : String) (v : Value) : List (String × Value) → List (String × Value)
  | [] => [(name, v)]
  | f :: fs => if f.1 = name then (name, v) :: fs else f :: setField name v fs

/-- The fields of a record: each name in the place where it is given first, with its last value. -/
def fieldsOf (fields : List (String × Value)) : List (String × Value) :=
  fields.foldl (fun fs f => setField f.1 f.2 fs) []

theorem insertEntry_entryOf (name : String) (v : Value) (fs : List (String × Value)) :
    insertEntry (.text name) v (fs.map entryOf) = (setField name v fs).map entryOf := by
  induction fs with
  | nil => rfl
  | cons f fs ih =>
    rw [List.map_cons, insertEntry, setField, ih, entryOf, sameKey_text]
    by_cases h : f.1 = name
    · simp [h, entryOf]
    · simp [h, entryOf]

theorem record_eq_fieldsOf (fields : List (String × Value)) :
    record fields = .object ((fieldsOf fields).map entryOf) := by
  have hfold (fs : List (String × Value)) :
      (fields.map fun f => (Scalar.text f.1, f.2)).foldl (fun es p => insertEntry p.1 p.2 es)
          (fs.map entryOf) =
        (fields.foldl (fun fs f => setField f.1 f.2 fs) fs).map entryOf := by
    induction fields generalizing fs with
    | nil => rfl
    | cons f fields ih =>
      rw [List.map_cons, List.foldl_cons, List.foldl_cons, insertEntry_entryOf]
      exact ih _
  exact congrArg Value.object (hfold [])

/-- What fields bind a name to. -/
def field? (name : String) (fs : List (String × Value)) : Option Value :=
  (fs.find? fun f => f.1 = name).map Prod.snd

theorem field?_cons (name : String) (f : String × Value) (fs : List (String × Value)) :
    field? name (f :: fs) = if f.1 = name then some f.2 else field? name fs := by
  rw [field?, List.find?_cons, field?]
  by_cases h : f.1 = name <;> simp [h]

theorem field?_setField (name key : String) (v : Value) (fs : List (String × Value)) :
    field? name (setField key v fs) = if key = name then some v else field? name fs := by
  induction fs with
  | nil => rw [setField, field?_cons]
  | cons f fs ih =>
    rw [setField]
    by_cases hf : f.1 = key
    · subst hf
      rw [if_pos rfl, field?_cons, field?_cons]
      split <;> rfl
    · rw [if_neg hf, field?_cons, field?_cons, ih]
      by_cases h : key = name
      · rw [if_neg (h ▸ hf), if_pos h, if_pos h]
      · rw [if_neg h, if_neg h]

/-- A record binds a name to the last value that is given for it. -/
theorem field?_fieldsOf (fields : List (String × Value)) (name : String) :
    field? name (fieldsOf fields) = field? name fields.reverse := by
  have hfold (fs : List (String × Value)) :
      field? name (fields.foldl (fun fs f => setField f.1 f.2 fs) fs) =
        (field? name fields.reverse).or (field? name fs) := by
    induction fields generalizing fs with
    | nil => rfl
    | cons f fields ih =>
      have hreverse : field? name (f :: fields).reverse =
          (field? name fields.reverse).or (field? name [f]) := by
        rw [field?, List.reverse_cons, List.find?_append, field?, field?]
        cases fields.reverse.find? fun f => f.1 = name <;> rfl
      rw [List.foldl_cons, ih, field?_setField, hreverse, field?_cons, Option.or_assoc]
      congr 1
      split <;> rfl
  rw [fieldsOf, hfold]
  exact Option.or_none

theorem mem_setField_iff {name key : String} {v : Value} {fs : List (String × Value)} :
    name ∈ (setField key v fs).map Prod.fst ↔ name = key ∨ name ∈ fs.map Prod.fst := by
  induction fs with
  | nil => simp [setField]
  | cons f fs ih =>
    rw [setField]
    by_cases h : f.1 = key
    · simp [h]
    · simp only [h, if_false, List.map_cons, List.mem_cons, ih, or_left_comm]

theorem nodup_setField {key : String} {v : Value} {fs : List (String × Value)}
    (h : (fs.map Prod.fst).Nodup) : ((setField key v fs).map Prod.fst).Nodup := by
  induction fs with
  | nil => simp [setField]
  | cons f fs ih =>
    rw [List.map_cons, List.nodup_cons] at h
    rw [setField]
    by_cases hf : f.1 = key
    · rw [if_pos hf, List.map_cons, List.nodup_cons]
      exact ⟨hf ▸ h.1, h.2⟩
    · rw [if_neg hf, List.map_cons, List.nodup_cons, mem_setField_iff, not_or]
      exact ⟨⟨hf, h.1⟩, ih h.2⟩

theorem mem_fieldsOf_iff {fields : List (String × Value)} {name : String} :
    name ∈ (fieldsOf fields).map Prod.fst ↔ name ∈ fields.map Prod.fst := by
  have hfold (fs : List (String × Value)) :
      name ∈ (fields.foldl (fun fs f => setField f.1 f.2 fs) fs).map Prod.fst ↔
        name ∈ fs.map Prod.fst ∨ name ∈ fields.map Prod.fst := by
    induction fields generalizing fs with
    | nil => simp
    | cons f fields ih =>
      rw [List.foldl_cons, ih, mem_setField_iff, List.map_cons, List.mem_cons, or_assoc,
        or_left_comm]
  rw [fieldsOf, hfold]
  simp

theorem nodup_fieldsOf (fields : List (String × Value)) :
    ((fieldsOf fields).map Prod.fst).Nodup := by
  have hfold (fs : List (String × Value)) (h : (fs.map Prod.fst).Nodup) :
      ((fields.foldl (fun fs f => setField f.1 f.2 fs) fs).map Prod.fst).Nodup := by
    induction fields generalizing fs with
    | nil => exact h
    | cons f fields ih => exact ih _ (nodup_setField h)
  exact hfold [] List.nodup_nil

/-- A record has as many members as fields if and only if no name is given twice. -/
theorem length_fieldsOf_eq_iff {fields : List (String × Value)} :
    (fieldsOf fields).length = fields.length ↔ (fields.map Prod.fst).Nodup := by
  have hsub : (fieldsOf fields).map Prod.fst ⊆ fields.map Prod.fst := fun _ h =>
    mem_fieldsOf_iff.1 h
  have hsup : fields.map Prod.fst ⊆ (fieldsOf fields).map Prod.fst := fun _ h =>
    mem_fieldsOf_iff.2 h
  have hlength (fs : List (String × Value)) : (fs.map Prod.fst).length = fs.length :=
    List.length_map _
  rw [← hlength (fieldsOf fields), ← hlength fields]
  constructor
  · intro h
    have hperm := ((nodup_fieldsOf fields).subperm hsub).perm_of_length_le (Nat.le_of_eq h.symm)
    exact hperm.nodup_iff.1 (nodup_fieldsOf fields)
  · intro h
    exact Nat.le_antisymm ((nodup_fieldsOf fields).length_le_of_subset hsub)
      (h.length_le_of_subset hsup)

theorem member?_object (fs : List (String × Value)) (name : String) :
    (object (fs.map entryOf)).member? name = field? name fs := by
  have hkey (f : String × Value) : ((entryOf f).1 == Scalar.text name) = decide (f.1 = name) := by
    simp [entryOf, Bool.beq_eq_decide_eq]
  rw [member?, lookup?, List.find?_map, Option.map_map, field?]
  simp only [Function.comp_def, hkey]
  rfl

/-- The number of members of a mapping. -/
def memberCount : Value → Nat
  | .object es => es.length
  | _ => 0

theorem memberCount_record (fields : List (String × Value)) :
    (record fields).memberCount = (fieldsOf fields).length := by
  rw [record_eq_fieldsOf, memberCount, List.length_map]

end Value

/-! ## Names of members -/

/-- Integers have different decimal texts. -/
theorem Text.toString_int_inj {n m : Int} : toString n = toString m ↔ n = m := by
  have hminus (k : Nat) : '-' ∉ (toString k).toList := fun h =>
    absurd (isDigit_of_mem_toString h) (by decide)
  have hnat {a b : Nat} (h : (toString a).toList = (toString b).toList) : a = b :=
    eq_of_toString_append (s := []) (t := []) rfl rfl (congrArg (· ++ []) h)
  have hneg (k : Nat) : (toString (Int.negSucc k)).toList = '-' :: (toString (k + 1)).toList :=
    String.toList_append
  refine ⟨fun h => ?_, congrArg toString⟩
  replace h := congrArg String.toList h
  cases n with
  | ofNat a =>
    cases m with
    | ofNat b => exact congrArg Int.ofNat (hnat h)
    | negSucc b =>
      rw [hneg] at h
      exact absurd (h ▸ List.mem_cons_self) (hminus a)
  | negSucc a =>
    cases m with
    | ofNat b =>
      rw [hneg] at h
      exact absurd (h ▸ List.mem_cons_self) (hminus b)
    | negSucc b =>
      rw [hneg, hneg] at h
      exact congrArg Int.negSucc (Nat.succ_inj.1 (hnat (List.cons.inj h).2))

namespace Params

/-- A position and its decimal text are both bound. -/
def Clashes (p : Params) : Prop :=
  ∃ n : Int, .position n ∈ p.keys ∧ .name (toString n) ∈ p.keys

/-- Parameters are displayed under names of their own if and only if no position clashes with a
name. -/
theorem nodup_displays_iff (p : Params) : (p.keys.map Key.display).Nodup ↔ ¬ p.Clashes := by
  have hkeys : p.keys.Nodup := p.distinct
  rw [List.nodup_map_iff_inj_on hkeys]
  constructor
  · rintro hinj ⟨n, hn, hs⟩
    exact nomatch hinj _ hn _ hs rfl
  · intro hclash k hk l hl h
    cases k with
    | position n =>
      cases l with
      | position m => rw [Text.toString_int_inj.1 h]
      | name s =>
        obtain rfl : toString n = s := h
        exact absurd ⟨n, hk, hl⟩ hclash
    | name s =>
      cases l with
      | position n =>
        obtain rfl : s = toString n := h
        exact absurd ⟨n, hl, hk⟩ hclash
      | name t =>
        obtain rfl : s = t := h
        rfl

/-- The parameters as fields of a record. -/
def fields (p : Params) : List (String × Value) :=
  p.entries.map fun e => (e.1.display, .scalar e.2)

theorem names_fields (p : Params) : p.fields.map Prod.fst = p.keys.map Key.display := by
  rw [fields, keys, List.map_map, List.map_map]
  rfl

/-- A record of parameters binds a name to the value of the last one that is displayed so. -/
theorem member?_record_fields (p : Params) (name : String) :
    (Value.record p.fields).member? name =
      (p.entries.reverse.find? fun e => e.1.display = name).map fun e => .scalar e.2 := by
  rw [Value.record_eq_fieldsOf, Value.member?_object, Value.field?_fieldsOf, Value.field?, fields,
    ← List.map_reverse, List.find?_map, Option.map_map]
  rfl

theorem memberCount_record_fields_eq_iff (p : Params) :
    (Value.record p.fields).memberCount = p.size ↔ ¬ p.Clashes := by
  have hlength : p.fields.length = p.size := List.length_map _
  rw [Value.memberCount_record, ← hlength, Value.length_fieldsOf_eq_iff, names_fields,
    nodup_displays_iff]

/-- A format that writes positions, names and values as they are makes a record of parameters. -/
theorem document_eq_record {w : Format} {p : Params}
    (hposition : ∀ n, w.name (.position n) = toString n)
    (hname : ∀ s, .name s ∈ p.keys → w.name (.name s) = s)
    (hbound : ∀ e ∈ p.entries, w.bound e.2 = e.2) : p.document w = .record p.fields := by
  refine congrArg Value.record (List.map_congr_left fun e he => ?_)
  obtain ⟨k, v⟩ := e
  have hkey : w.name k = k.display := by
    cases k with
    | position n => exact hposition n
    | name s => exact hname s (List.mem_map_of_mem he)
  rw [hkey, hbound _ he]

end Params

/-! ## Replies -/

namespace Value

theorem mapEntries_eq_map (f : Scalar → Scalar) (es : Entries) :
    mapEntries f es = es.map fun e => (e.1, e.2.mapScalars f) := by
  induction es with
  | nil => rfl
  | cons e es ih => rw [mapEntries, ih, List.map_cons]

/-- Other scalars stand under the same names. -/
theorem member?_mapScalars (f : Scalar → Scalar) (v : Value) (name : String) :
    (v.mapScalars f).member? name = (v.member? name).map (mapScalars f) := by
  cases v with
  | object es =>
    rw [mapScalars, member?, member?, mapEntries_eq_map, lookup?, lookup?, List.find?_map,
      Option.map_map, Option.map_map]
    rfl
  | scalar s => rfl
  | list vs => rfl

theorem memberCount_mapScalars (f : Scalar → Scalar) (v : Value) :
    (v.mapScalars f).memberCount = v.memberCount := by
  cases v with
  | object es => rw [mapScalars, mapEntries_eq_map, memberCount, List.length_map, memberCount]
  | scalar s => rfl
  | list vs => rfl

end Value

/-- What becomes of the parameters of a report in its document, in the payload for a web hook and in
the reply to a request, for a format that writes positions as decimal texts, and the names and values
of these parameters as they are. There is a document if all values of the host can be written. There
are as many members as parameters if and only if no position clashes with its decimal text. Then each
parameter has a member of its own, under its key as people read it. In any case a member has the value
of the last parameter that stands under its name. A reply may show other scalars, under the same
names. -/
theorem clashing_parameters_share_member {w : Format}
    (hposition : ∀ n, w.name (.position n) = toString n) {r : Report} {p : Params}
    (hp : r.params = some p) (hname : ∀ s, .name s ∈ p.keys → w.name (.name s) = s)
    (hbound : ∀ e ∈ p.entries, w.bound e.2 = e.2) :
    ((∀ v ∈ r.hostValues, ∃ v', w.host v = .ok v') → ∃ d, r.toDocument w = .ok d) ∧
    (∀ d, r.toDocument w = .ok d → d.member? "params" = some (p.document w)) ∧
    (∀ (wire : Wire) (payload : Value), wire.format = w → Alert.payload wire r = .ok payload →
      ∃ d, payload.member? "report" = some d ∧ d.member? "params" = some (p.document w)) ∧
    (∀ content, Service.content w .report r = .ok content →
      ∃ d, content = .document d ∧
        d.member? "params" = some ((p.document w).mapScalars w.reply)) ∧
    ((p.document w).memberCount = p.size ↔ ¬ p.Clashes) ∧
    (¬ p.Clashes → ∀ k v, (k, v) ∈ p.entries →
      (p.document w).member? k.display = some (.scalar v)) ∧
    (∀ name, (p.document w).member? name =
      (p.entries.reverse.find? fun e => e.1.display = name).map fun e => .scalar e.2) ∧
    ((p.document w).mapScalars w.reply).memberCount = (p.document w).memberCount ∧
    ∀ name, ((p.document w).mapScalars w.reply).member? name =
      ((p.document w).member? name).map (Value.mapScalars w.reply) := by
  have hfields := Params.document_eq_record hposition hname hbound
  have hdump : ∀ d, r.toDocument w = .ok d → d.member? "params" = some (p.document w) := by
    intro d hd
    rw [(Report.document_members hd).1, hp]
    rfl
  refine ⟨Report.exists_toDocument, hdump, ?_, ?_, ?_, ?_, ?_, Value.memberCount_mapScalars _ _,
    Value.member?_mapScalars _ _⟩
  · rintro wire payload rfl hpayload
    obtain ⟨-, d, hd, hreport⟩ := Alert.members_of_payload hpayload
    exact ⟨d, hreport, hdump d hd⟩
  · intro content hcontent
    have hreply : ((r.toDocument w).map fun v => Content.document (v.mapScalars w.reply)).mapError
        ServiceError.undocumented = .ok content := hcontent
    rw [Audit.mapError_eq_ok_iff] at hreply
    cases hd : r.toDocument w with
    | error e =>
      rw [hd] at hreply
      exact nomatch hreply
    | ok d =>
      rw [hd] at hreply
      cases hreply
      refine ⟨_, rfl, ?_⟩
      rw [Value.member?_mapScalars, hdump d hd, Option.map_some]
  · rw [hfields]
    exact p.memberCount_record_fields_eq_iff
  · intro hclash k v hv
    have hnames : (p.fields.map Prod.fst).Nodup := by
      rw [p.names_fields, p.nodup_displays_iff]
      exact hclash
    rw [hfields]
    exact Value.member?_record hnames (List.mem_map_of_mem hv)
  · rw [hfields]
    exact p.member?_record_fields

/-- The position 0 and the name "0" share a member, which has the later value; a negative position has
its own. -/
theorem zero_shares_member :
    let p : Params := .ofEntries [(.position 0, .int 7), (.name "0", .int 8), (.position (-1), .null)]
    let r : Report := { Report.blank "SELECT ?" ⟨2024, 1, 2, 3, 4, 5, 0⟩ with params := some p }
    let w : Format := { Format.standard with name := Key.display }
    p.Clashes ∧ (p.document w).memberCount ≠ p.size ∧
      (∃ d, r.toDocument w = .ok d ∧ d.member? "params" = some (p.document w)) ∧
      (p.document w).member? "0" = some (.int 8) ∧ (p.document w).member? "-1" = some .null := by
  intro p r w
  have hclash : p.Clashes := ⟨0, by decide, by decide⟩
  obtain ⟨-, hdump, -, -, hcount, -, hmember, -⟩ := clashing_parameters_share_member (w := w)
    (fun _ => rfl) (r := r) (p := p) rfl (fun _ _ => rfl) (fun _ _ => rfl)
  refine ⟨hclash, fun h => hcount.1 h hclash, ⟨_, rfl, hdump _ rfl⟩, ?_, ?_⟩
  · rw [hmember]
    rfl
  · rw [hmember]
    rfl

end SqlAudit
