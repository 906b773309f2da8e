import SqlAudit.Json.Reader

/-!
# Names in documents

Keys of mappings may be any scalars, but those of a document that was read are names. Main
statements:

* `Value.forall_mapping`: keys and values that are put into a mapping are all that is in it;
* `Json.readItems_cases`, `Json.readMembers_cases`: what one step of reading a list or an object does;
* `Json.isDocument_read`: every value that is read has nothing but names for keys, at any depth.
-/

namespace SqlAudit

/-- The key is a name. -/
def Scalar.IsName (key : Scalar) : Prop :=
  ∃ name, key = .text name

namespace Value

/-- All keys of the mappings in a value are names. -/
inductive IsDocument : Value → Prop where
  | scalar (s : Scalar) : IsDocument (.scalar s)
  | list {vs : List Value} (items : ∀ v ∈ vs, IsDocument v) : IsDocument (.list vs)
  | object {es : Entries} (names : ∀ e ∈ es, e.1.IsName) (values : ∀ e ∈ es, IsDocument e.2) :
    IsDocument (.object es)

theorem isDocument_of_lookup? {es : Entries} (h : (object es).IsDocument) {name : String}
    {v : Value} (hv : lookup? name es = some v) : v.IsDocument := by
  obtain ⟨e, he, rfl⟩ := Option.map_eq_some_iff.1 hv
  cases h with
  | object _ values => exact values e (List.mem_of_find?_eq_some he)

section Mapping

variable {K : Scalar → Prop} {V : Value → Prop}

theorem forall_insertEntry {key : Scalar} {v : Value} {es : Entries} (hkey : K key) (hv : V v)
    (h : ∀ e ∈ es, K e.1 ∧ V e.2) : ∀ e ∈ insertEntry key v es, K e.1 ∧ V e.2 := by
  induction es with
  | nil =>
    intro e he
    rw [insertEntry, List.mem_singleton] at he
    exact he ▸ ⟨hkey, hv⟩
  | cons f es ih =>
    rw [List.forall_mem_cons] at h
    rw [insertEntry]
    split
    · exact List.forall_mem_cons.2 ⟨⟨h.1.1, hv⟩, h.2⟩
    · exact List.forall_mem_cons.2 ⟨h.1, ih h.2⟩

theorem forall_foldl_insertEntry {pairs : Entries} (hpairs : ∀ p ∈ pairs, K p.1 ∧ V p.2)
    {es : Entries} (h : ∀ e ∈ es, K e.1 ∧ V e.2) :
    ∀ e ∈ pairs.foldl (fun es p => insertEntry p.1 p.2 es) es, K e.1 ∧ V e.2 := by
  induction pairs generalizing es with
  | nil => exact h
  | cons p pairs ih =>
    obtain ⟨hp, hpairs⟩ := List.forall_mem_cons.1 hpairs
    exact ih hpairs (forall_insertEntry hp.1 hp.2 h)

/-- A mapping holds keys and values of the pairs that it is made of. -/
theorem forall_mapping {pairs : Entries} (h : ∀ p ∈ pairs, K p.1 ∧ V p.2) :
    ∃ es, mapping pairs = .object es ∧ ∀ e ∈ es, K e.1 ∧ V e.2 :=
  ⟨_, rfl, forall_foldl_insertEntry h fun _ he => absurd he List.not_mem_nil⟩

end Mapping

theorem isDocument_mapping {pairs : Entries} (h : ∀ p ∈ pairs, p.1.IsName ∧ p.2.IsDocument) :
    (mapping pairs).IsDocument := by
  obtain ⟨es, hes, h⟩ := forall_mapping h
  rw [hes]
  exact .object (fun e he => (h e he).1) fun e he => (h e he).2

/-- The keys of a record are names. -/
theorem isName_record (fields : List (String × Value)) :
    ∃ es, record fields = .object es ∧ ∀ e ∈ es, e.1.IsName := by
  have hnames : ∀ p ∈ fields.map fun f => (Scalar.text f.1, f.2), p.1.IsName ∧ True := by
    intro p hp
    obtain ⟨f, -, rfl⟩ := List.mem_map.1 hp
    exact ⟨⟨f.1, rfl⟩, trivial⟩
  obtain ⟨es, hes, h⟩ := forall_mapping (V := fun _ => True) hnames
  exact ⟨es, hes, fun e he => (h e he).1⟩

end Value

namespace Json

theorem map_eq_ok_iff {α β : Type} {f : α → β} {x : Except Error α} {b : β} :
    x.map f = .ok b ↔ ∃ a, x = .ok a ∧ f a = b := by
  cases x <;> simp [Except.map]

section Steps

variable {depth fuel : Nat} {c c' : Cursor}

/-- A step of reading a list reads one item, which is the last, or goes on behind it. -/
theorem readItems_cases {vs : List Value} (h : readItems depth (fuel + 1) c = .ok (vs, c')) :
    ∃ v c₁, readValue depth fuel c = .ok (v, c₁) ∧
      (vs = [v] ∨ ∃ vs' c₂, readItems depth fuel c₂ = .ok (vs', c') ∧ vs = v :: vs') := by
  rw [readItems] at h
  cases hv : readValue depth fuel c with
  | error e => simp [hv, bind, Except.bind] at h
  | ok r =>
    obtain ⟨v, c₁⟩ := r
    refine ⟨v, c₁, rfl, ?_⟩
    simp only [hv, bind, Except.bind] at h
    split at h
    · cases h
      exact .inl rfl
    · split at h
      · cases h
      · cases hvs : readItems depth fuel (c₁.skipBlanks.skip 1).skipBlanks with
        | error e => simp [hvs] at h
        | ok r =>
          rw [hvs] at h
          cases h
          exact .inr ⟨r.1, _, hvs, rfl⟩

/-- A step of reading an object reads one member with a name, which is the last, or goes on behind
it. -/
theorem readMembers_cases {es : Value.Entries}
    (h : readMembers depth (fuel + 1) c = .ok (es, c')) :
    ∃ name v c₁ c₂, readValue depth fuel c₁ = .ok (v, c₂) ∧ (es = [(.text name, v)] ∨
      ∃ es' c₃, readMembers depth fuel c₃ = .ok (es', c') ∧ es = (.text name, v) :: es') := by
  rw [readMembers] at h
  simp only [bind, Except.bind] at h
  split at h
  · cases h
  cases hk : readText c.offset (c.offset + 1) 0 c.ahead.tail with
  | error e => simp [hk] at h
  | ok r =>
    obtain ⟨key, c₀⟩ := r
    simp only [hk] at h
    split at h
    · cases h
    cases hv : readValue depth fuel (c₀.skipBlanks.skip 1).skipBlanks with
    | error e => simp [hv] at h
    | ok r =>
      obtain ⟨v, c₂⟩ := r
      simp only [hv] at h
      refine ⟨String.ofList key, v, _, c₂, hv, ?_⟩
      split at h
      · cases h
        exact .inl rfl
      · split at h
        · cases h
        · cases hes : readMembers depth fuel (c₂.skipBlanks.skip 1).skipBlanks with
          | error e => simp [hes] at h
          | ok r =>
            rw [hes] at h
            cases h
            exact .inr ⟨r.1, _, hes, rfl⟩

/-- A value that is read is a scalar, a list or an object. -/
theorem readValue_cases {v : Value} (h : readValue depth (fuel + 1) c = .ok (v, c')) :
    (∃ s, v = .scalar s) ∨
    (∃ vs, v = .list vs ∧ (vs = [] ∨ ∃ depth c₁, readItems depth fuel c₁ = .ok (vs, c'))) ∨
    ∃ es, v = Value.mapping es ∧
      (es = [] ∨ ∃ depth c₁, readMembers depth fuel c₁ = .ok (es, c')) := by
  unfold readValue at h
  split at h
  · obtain ⟨r, -, hr⟩ := map_eq_ok_iff.1 h
    cases hr
    exact .inl ⟨_, rfl⟩
  · cases h
  · cases h
  · dsimp only at h
    split at h
    · cases h
      exact .inr (.inl ⟨[], rfl, .inl rfl⟩)
    · obtain ⟨r, hitems, hr⟩ := map_eq_ok_iff.1 h
      cases hr
      exact .inr (.inl ⟨_, rfl, .inr ⟨_, _, hitems⟩⟩)
  · dsimp only at h
    split at h
    · cases h
      exact .inr (.inr ⟨[], rfl, .inl rfl⟩)
    · obtain ⟨r, hmembers, hr⟩ := map_eq_ok_iff.1 h
      cases hr
      exact .inr (.inr ⟨_, rfl, .inr ⟨_, _, hmembers⟩⟩)
  · obtain ⟨r, -, hr⟩ := map_eq_ok_iff.1 h
    cases hr
    exact .inl ⟨_, rfl⟩

end Steps

/-- What is read with some fuel has names for keys. -/
structure Named (fuel : Nat) : Prop where
  value : ∀ {depth c v c'}, readValue depth fuel c = .ok (v, c') → v.IsDocument
  items : ∀ {depth c vs c'}, readItems depth fuel c = .ok (vs, c') → ∀ v ∈ vs, v.IsDocument
  members : ∀ {depth c es c'}, readMembers depth fuel c = .ok (es, c') →
    ∀ e ∈ es, e.1.IsName ∧ e.2.IsDocument

theorem named_zero : Named 0 where
  value h := by cases h
  items h := by cases h
  members h := by cases h

/-- What a step reads is put together from what is read behind it. -/
theorem Named.succ {fuel : Nat} (ih : Named fuel) : Named (fuel + 1) where
  value h := by
    obtain ⟨s, rfl⟩ | ⟨vs, rfl, rfl | ⟨_, _, hvs⟩⟩ | ⟨es, rfl, rfl | ⟨_, _, hes⟩⟩ :=
      readValue_cases h
    · exact .scalar s
    · exact .list (by simp)
    · exact .list (ih.items hvs)
    · exact Value.isDocument_mapping (by simp)
    · exact Value.isDocument_mapping (ih.members hes)
  items h := by
    obtain ⟨v, c₁, hv, rfl | ⟨vs, c₂, hvs, rfl⟩⟩ := readItems_cases h
    · simpa using ih.value hv
    · exact List.forall_mem_cons.2 ⟨ih.value hv, ih.items hvs⟩
  members h := by
    obtain ⟨name, v, c₁, c₂, hv, rfl | ⟨es, c₃, hes, rfl⟩⟩ := readMembers_cases h
    · simpa using ⟨⟨name, rfl⟩, ih.value hv⟩
    · exact List.forall_mem_cons.2 ⟨⟨⟨name, rfl⟩, ih.value hv⟩, ih.members hes⟩

/-- What is read has names for keys, however much fuel there is. -/
theorem named (fuel : Nat) : Named fuel := by
  -- Each of the three readers calls the others with one step less.
  induction fuel with
  | zero => exact named_zero
  | succ fuel ih => exact ih.succ

/-- All keys of the mappings in a document that is read are names. -/
theorem isDocument_read {depth : Nat} {text : List Char} {v : Value}
    (h : read depth text = .ok v) : v.IsDocument := by
  rw [read] at h
  cases hv : readValue depth (2 * text.length + 2) (Cursor.mk 0 text).skipBlanks with
  | error e => simp [hv, bind, Except.bind] at h
  | ok r =>
    obtain ⟨v', c⟩ := r
    simp only [hv, bind, Except.bind] at h
    split at h
    · cases h
      exact (named _).value hv
    · cases h

end Json

end SqlAudit
