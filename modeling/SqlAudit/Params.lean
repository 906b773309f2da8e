import SqlAudit.Value.Literal
import SqlAudit.Value.Writing

/-!
# Bound parameters

The values bound to the placeholders of a query, under positions or names, in the order in which
they were given. No key occurs twice; `Params` carries the proof. `pad` and `take` fit parameters
to a number of placeholders; padding tries one position after the other (`Padding.run`).
-/

namespace SqlAudit

/-- The key of a bound value: a position (for `?`) or a name (for `:name`). -/
inductive Key where
  | position (n : Int)
  | name (s : String)
deriving DecidableEq, Repr

namespace Key

/-- The key as a scalar. -/
def toScalar : Key → Scalar
  | .position n => .int n
  | .name s => .text s

/-- The key for people to read. -/
def display (k : Key) : String :=
  k.toScalar.display

/-- What keeps the key from being written. -/
def unwritable? (k : Key) : Option WriteError :=
  k.toScalar.unwritable?

/-- Positions are as distinct as their numbers. -/
theorem nodup_map_position {is : List Nat} (h : is.Nodup) :
    (is.map fun i : Nat => position i).Nodup := by
  refine List.Pairwise.map _ (fun a b hab hk => hab ?_) h
  injection hk with hk
  exact Int.ofNat.inj hk

end Key

/-- Bound values with distinct keys, in order. -/
structure Params where
  entries : List (Key × Scalar)
  distinct : (entries.map Prod.fst).Nodup
deriving DecidableEq

namespace Params

instance : Inhabited Params := ⟨⟨[], .nil⟩⟩

/-- No bound values. -/
def empty : Params :=
  ⟨[], .nil⟩

/-- What keeps a bound value from being written with its key. -/
def entryUnwritable? (e : Key × Scalar) : Option WriteError :=
  e.1.unwritable?.or e.2.unwritable?

/-- The number of bound values. -/
def size (p : Params) : Nat :=
  p.entries.length

/-- The keys, in order. -/
def keys (p : Params) : List Key :=
  p.entries.map Prod.fst

/-- Whether a key is bound. -/
def hasKey (p : Params) (k : Key) : Bool :=
  p.keys.contains k

/-- Entries with `key` bound to `v`: in the place of the key if it is there, else at the end. -/
def insertEntry (key : Key) (v : Scalar) : List (Key × Scalar) → List (Key × Scalar)
  | [] => [(key, v)]
  | e :: es => if e.1 = key then (key, v) :: es else e :: insertEntry key v es

theorem mem_keys_insertEntry {k key : Key} {v : Scalar} {es : List (Key × Scalar)} :
    k ∈ (insertEntry key v es).map Prod.fst ↔ k = key ∨ k ∈ es.map Prod.fst := by
  induction es with
  | nil => simp [insertEntry]
  | cons e es ih =>
    unfold insertEntry
    by_cases h : e.1 = key
    · simp [h]
    · simp only [h, if_false, List.map_cons, List.mem_cons, ih]
      constructor
      · rintro (h | h | h) <;> simp [h]
      · rintro (h | h | h) <;> simp [h]

theorem nodup_insertEntry {key : Key} {v : Scalar} {es : List (Key × Scalar)}
    (h : (es.map Prod.fst).Nodup) : ((insertEntry key v es).map Prod.fst).Nodup := by
  induction es with
  | nil => simp [insertEntry]
  | cons e es ih =>
    rw [List.map_cons, List.nodup_cons] at h
    unfold insertEntry
    by_cases he : e.1 = key
    · rw [if_pos he, List.map_cons, List.nodup_cons]
      exact ⟨he ▸ h.1, h.2⟩
    · rw [if_neg he, List.map_cons, List.nodup_cons]
      refine ⟨fun hm => ?_, ih h.2⟩
      rcases mem_keys_insertEntry.1 hm with hk | hk
      · exact he hk
      · exact h.1 hk

theorem insertEntry_new {key : Key} {v : Scalar} {es : List (Key × Scalar)}
    (h : key ∉ es.map Prod.fst) : insertEntry key v es = es ++ [(key, v)] := by
  induction es with
  | nil => rfl
  | cons e es ih =>
    rw [List.map_cons, List.mem_cons, not_or] at h
    rw [insertEntry, if_neg (Ne.symm h.1), ih h.2, List.cons_append]

/-- Parameters with `key` bound to `v`. -/
def insert (p : Params) (key : Key) (v : Scalar) : Params :=
  ⟨insertEntry key v p.entries, nodup_insertEntry p.distinct⟩

/-- The parameters that bind each key of a list to its last value. -/
def ofEntries (es : List (Key × Scalar)) : Params :=
  es.foldl (fun p e => p.insert e.1 e.2) empty

theorem nodup_positions (vs : List Scalar) :
    ((vs.zipIdx.map fun e => (Key.position e.2, e.1)).map Prod.fst).Nodup := by
  have h : (vs.zipIdx.map fun e => (Key.position e.2, e.1)).map Prod.fst =
      (List.range vs.length).map fun i : Nat => Key.position i := by
    rw [List.map_map, List.range_eq_range', ← List.zipIdx_map_snd 0 vs, List.map_map]
    rfl
  rw [h]
  exact Key.nodup_map_position List.nodup_range

/-- Values bound to the positions from zero on. -/
def ofList (vs : List Scalar) : Params :=
  ⟨vs.zipIdx.map fun e => (Key.position e.2, e.1), nodup_positions vs⟩

/-- The first `n` bound values. -/
def take (p : Params) (n : Nat) : Params :=
  ⟨p.entries.take n, p.distinct.sublist ((List.take_sublist n _).map _)⟩

end Params

/-! ## Padding -/

/-- Whether a key is a position from `n` on. -/
def Key.isFrom (n : Nat) : Key → Bool
  | .position m => (n : Int) ≤ m
  | .name _ => false

/-- A position counts among those from itself on, but not among those behind it. -/
theorem Key.countP_isFrom_succ_add_count_le (n : Nat) (ks : List Key) :
    ks.countP (isFrom (n + 1)) + ks.count (.position n) ≤ ks.countP (isFrom n) := by
  induction ks with
  | nil => exact Nat.le_refl _
  | cons k ks ih =>
    have hk : (if isFrom (n + 1) k then 1 else 0) + (if k == .position n then 1 else 0) ≤
        if isFrom n k then 1 else 0 := by
      cases k with
      | name s => simp [isFrom]
      | position m =>
        simp only [isFrom, decide_eq_true_eq, beq_iff_eq, Key.position.injEq]
        split <;> split <;> split <;> omega
    rw [List.countP_cons, List.countP_cons, List.count_cons]
    omega

/-- Parameters that are being padded, and the position that is next. -/
structure Padding where
  params : Params
  next : Nat

namespace Padding

/-- One round of padding: the next position is bound to `v` unless it is bound already. -/
def round (v : Scalar) (s : Padding) : Padding where
  params :=
    if s.params.hasKey (.position s.next) then s.params else s.params.insert (.position s.next) v
  next := s.next + 1

/-- The number of positions, from the next one on, that are bound already. -/
def taken (s : Padding) : Nat :=
  s.params.keys.countP (Key.isFrom s.next)

/-- A round binds a position or leaves one behind that is bound. -/
theorem round_lt {s : Padding} {total : Nat} (h : s.params.size < total) (v : Scalar) :
    total - (s.round v).params.size + (s.round v).taken < total - s.params.size + s.taken := by
  have hcount := Key.countP_isFrom_succ_add_count_le s.next s.params.keys
  simp only [round, taken]
  split
  · next hkey =>
    have hpos : 0 < s.params.keys.count (.position s.next) :=
      List.count_pos_iff.2 (List.contains_iff_mem.1 hkey)
    omega
  · next hkey =>
    have hnew : (s.params.insert (.position s.next) v).entries =
        s.params.entries ++ [(.position s.next, v)] :=
      Params.insertEntry_new fun hm => hkey (List.contains_iff_mem.2 hm)
    have hnext : Key.isFrom (s.next + 1) (.position s.next) = false := by
      simp only [Key.isFrom, decide_eq_false_iff_not]
      omega
    simp only [Params.size, Params.keys, hnew, List.map_append, List.map_cons, List.map_nil,
      List.countP_append, List.countP_singleton, hnext, List.length_append, List.length_singleton]
      at hcount h ⊢
    simp only [Bool.false_eq_true, if_false]
    omega

/-- Rounds of padding until there are `total` parameters. -/
def run (total : Nat) (v : Scalar) (s : Padding) : Padding :=
  if s.params.size < total then run total v (s.round v) else s
termination_by total - s.params.size + s.taken
decreasing_by exact round_lt ‹_› v

end Padding

namespace Params

/-- Parameters with as many more as it takes to have `total`, bound to `v` under the least positions,
from the number of parameters on, that are free. -/
def pad (p : Params) (total : Nat) (v : Scalar) : Params :=
  (Padding.run total v ⟨p, p.size⟩).params

/-- Parameters made to fit a number of placeholders: padded with `filler`, or cut. -/
def fit (p : Params) (total : Nat) (filler : Scalar) : Params :=
  if p.size < total then p.pad total filler else p.take total

/-- The parameters as a mapping. -/
def toValue (p : Params) : Value :=
  .object (p.entries.map fun e => (e.1.toScalar, .scalar e.2))

end Params

end SqlAudit
