import SqlAudit.Proofs.Audit.Causes

/-!
# Members of documents

A record whose names are distinct holds its fields as they are given (`record_eq`), so that each
name is bound to its value (`member?_record`). The document of a report is such a record
(`toDocument_eq_ok_iff`, `exists_toDocument`, `document_members`).
-/

namespace SqlAudit

namespace Value

/-- What a mapping binds a name to. -/
def member? (name : String) : Value → Option Value
  | .object es => lookup? name es
  | _ => none

/-- A field as an entry of a mapping. -/
def entryOf (field : String × Value) : Scalar × Value :=
  (.text field.1, field.2)

theorem sameKey_text (a b : String) : (Scalar.text a).sameKey (.text b) = decide (a = b) := by
  simp [Scalar.sameKey, Scalar.keyForm, Bool.beq_eq_decide_eq]

theorem insertEntry_new {name : String} {v : Value} {fields : List (String × Value)}
    (h : name ∉ fields.map Prod.fst) :
    insertEntry (.text name) v (fields.map entryOf) = (fields ++ [(name, v)]).map entryOf := by
  induction fields with
  | nil => rfl
  | cons f fields ih =>
    rw [List.map_cons, List.mem_cons, not_or] at h
    rw [List.map_cons, insertEntry, ih h.2, entryOf, sameKey_text, decide_eq_false (Ne.symm h.1)]
    rfl

theorem foldl_insertEntry (done : List (String × Value)) {fields : List (String × Value)}
    (h : ((done ++ fields).map Prod.fst).Nodup) :
    (fields.map entryOf).foldl (fun es p => insertEntry p.1 p.2 es) (done.map entryOf) =
      (done ++ fields).map entryOf := by
  induction fields generalizing done with
  | nil => rw [List.map_nil, List.foldl_nil, List.append_nil]
  | cons f fields ih =>
    have hsplit : done ++ f :: fields = done ++ [f] ++ fields := by simp
    have hnew : f.1 ∉ done.map Prod.fst := by
      rw [List.map_append, List.map_cons, List.nodup_append] at h
      exact fun hm => h.2.2 _ hm _ List.mem_cons_self rfl
    rw [List.map_cons, List.foldl_cons, entryOf, insertEntry_new hnew, hsplit]
    exact ih (done ++ [f]) (hsplit ▸ h)

/-- A record with distinct names holds its fields as they are given. -/
theorem record_eq {fields : List (String × Value)} (h : (fields.map Prod.fst).Nodup) :
    record fields = .object (fields.map entryOf) :=
  congrArg Value.object (foldl_insertEntry [] h)

theorem lookup?_entryOf {fields : List (String × Value)} (hn : (fields.map Prod.fst).Nodup)
    {name : String} {v : Value} (h : (name, v) ∈ fields) :
    lookup? name (fields.map entryOf) = some v := by
  induction fields with
  | nil => exact absurd h List.not_mem_nil
  | cons f fields ih =>
    rw [List.map_cons, List.nodup_cons] at hn
    rw [List.map_cons, lookup?, List.find?_cons]
    rcases List.mem_cons.1 h with rfl | h
    · simp [entryOf]
    · have hne : f.1 ≠ name := fun he => hn.1 (he ▸ List.mem_map_of_mem h)
      have hb : ((entryOf f).1 == Scalar.text name) = false := by simpa [entryOf] using hne
      rw [hb]
      exact ih hn.2 h

/-- A record with distinct names binds each of them to its value. -/
theorem member?_record {fields : List (String × Value)} (hn : (fields.map Prod.fst).Nodup)
    {name : String} {v : Value} (h : (name, v) ∈ fields) :
    (record fields).member? name = some v := by
  rw [record_eq hn]
  exact lookup?_entryOf hn h

end Value

namespace Report

theorem nodup_members (w : Format) (r : Report) (parameterized verbose context : Value) :
    ((r.members w parameterized verbose context).map Prod.fst).Nodup := by
  simp only [members, List.map_cons, List.map_nil]
  decide

/-- A report has a document if and only if the values of its host can be written. -/
theorem toDocument_eq_ok_iff {w : Format} {r : Report} {d : Value} :
    r.toDocument w = .ok d ↔ ∃ parameterized verbose context,
      w.host r.parameterized = .ok parameterized ∧ w.host r.verbose = .ok verbose ∧
      Context.document w r.context = .ok context ∧
      d = .record (r.members w parameterized verbose context) := by
  simp only [toDocument, Audit.bind_eq_ok_iff, pure, Except.pure, Except.ok.injEq]
  constructor
  · rintro ⟨a, ha, b, hb, c, hc, rfl⟩
    exact ⟨a, b, c, ha, hb, hc, rfl⟩
  · rintro ⟨a, b, c, ha, hb, hc, rfl⟩
    exact ⟨a, ha, b, hb, c, hc, rfl⟩

/-- The values of a report that are left to its host: its flags and those of its context. -/
def hostValues (r : Report) : List Value :=
  r.parameterized :: r.verbose :: (r.context.getD []).map Prod.snd

theorem exists_members {w : Format} {c : Context}
    (h : ∀ v ∈ c.map Prod.snd, ∃ v', w.host v = .ok v') : ∃ members, c.members w = .ok members := by
  induction c with
  | nil => exact ⟨[], rfl⟩
  | cons e c ih =>
    obtain ⟨⟨v, hv⟩, hc⟩ := List.forall_mem_cons.1 h
    obtain ⟨members, hmembers⟩ := ih hc
    refine ⟨(w.name (.name e.1), v) :: members, ?_⟩
    rw [Context.members, hv, hmembers]
    rfl

/-- A report has a document if all values of its host can be written. -/
theorem exists_toDocument {w : Format} {r : Report}
    (h : ∀ v ∈ r.hostValues, ∃ v', w.host v = .ok v') : ∃ d, r.toDocument w = .ok d := by
  simp only [hostValues, List.forall_mem_cons] at h
  obtain ⟨⟨parameterized, hp⟩, ⟨verbose, hv⟩, hcontext⟩ := h
  obtain ⟨context, hc⟩ : ∃ context, Context.document w r.context = .ok context := by
    cases hr : r.context with
    | none => exact ⟨.null, rfl⟩
    | some c =>
      rw [hr, Option.getD_some] at hcontext
      obtain ⟨members, hmembers⟩ := exists_members hcontext
      refine ⟨.record members, ?_⟩
      rw [Context.document, hmembers]
      rfl
  exact ⟨_, toDocument_eq_ok_iff.2 ⟨parameterized, verbose, context, hp, hv, hc, rfl⟩⟩

/-- A document shows the parameters of a report, its status and its two lists of findings, with their
lengths beside them. -/
theorem document_members {w : Format} {r : Report} {d : Value} (h : r.toDocument w = .ok d) :
    d.member? "params" = some ((r.params.map (Params.document w)).getD .null) ∧
    d.member? "status" = some (.text r.status.name) ∧
    d.member? "errors" = some (.list (r.errors.map Finding.document)) ∧
    d.member? "warnings" = some (.list (r.warnings.map Finding.document)) ∧
    d.member? "error_count" = some (.int r.errors.length) ∧
    d.member? "warning_count" = some (.int r.warnings.length) := by
  obtain ⟨parameterized, verbose, context, -, -, -, rfl⟩ := toDocument_eq_ok_iff.1 h
  have hnames := r.nodup_members w parameterized verbose context
  refine ⟨?_, ?_, ?_, ?_, ?_, ?_⟩
  all_goals
    apply Value.member?_record hnames
    simp [members]

end Report

end SqlAudit
