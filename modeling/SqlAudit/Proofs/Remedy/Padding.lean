import Mathlib.Logic.Function.Iterate
import SqlAudit.Remedy

/-!
# Padding

Parameters that are too few are padded round by round, and a round may pass over a position that is
bound without coming closer to the end. Main statements:

* `Padding.From.round`, `Padding.From.iterate`: what one round and any number of rounds preserve:
  of the positions that were passed, exactly the free ones are bound to the filler;
* `Padding.run_spec`: a run is a number of rounds, of which each but the last leaves parameters
  missing;
* `Params.pad_spec`: what padding comes to, and how many rounds it takes at most;
* `padding_ends_at_least_free`: padded parameters are the old ones and then fillers under the least
  free positions.
-/

namespace SqlAudit

namespace Params

/-- The free positions below `next`, from the number of parameters on. -/
def freeBelow (p : Params) (next : Nat) : List Nat :=
  (List.range' p.size (next - p.size)).filter fun i => !p.hasKey (.position i)

theorem mem_freeBelow_iff {p : Params} {next i : Nat} :
    i ∈ p.freeBelow next ↔ p.size ≤ i ∧ i < next ∧ .position i ∉ p.keys := by
  rw [freeBelow, List.mem_filter, List.mem_range'_1, Bool.not_eq_true', ← Bool.not_eq_true, hasKey,
    List.contains_iff_mem, ← and_assoc]
  refine and_congr_left fun _ => ?_
  omega

theorem pairwise_freeBelow (p : Params) (next : Nat) : (p.freeBelow next).Pairwise (· < ·) :=
  List.Pairwise.filter _ (List.pairwise_lt_range' 1)

theorem freeBelow_succ {p : Params} {next : Nat} (h : p.size ≤ next) :
    p.freeBelow (next + 1) =
      p.freeBelow next ++ if p.hasKey (.position next) then [] else [next] := by
  have hrange : List.range' p.size (next + 1 - p.size) =
      List.range' p.size (next - p.size) ++ [next] := by
    rw [Nat.succ_sub h, List.range'_concat]
    congr 2
    omega
  rw [freeBelow, hrange, List.filter_append, freeBelow, List.filter_cons, List.filter_nil]
  cases p.hasKey (.position next) <;> rfl

/-- Of positions in a row, at most as many are bound as there are parameters. -/
theorem sub_le_length_freeBelow_add (p : Params) (next : Nat) :
    next - p.size ≤ (p.freeBelow next).length + p.size := by
  let row := List.range' p.size (next - p.size)
  let bound : Nat → Bool := fun i => p.hasKey (.position i)
  have hsplit := List.length_eq_countP_add_countP bound (l := row)
  rw [List.length_range'] at hsplit
  have hfree : row.countP (fun i => !bound i) = (p.freeBelow next).length :=
    List.countP_eq_length_filter
  have hbound : row.countP bound ≤ p.size := by
    have hnodup : ((row.filter bound).map fun i : Nat => Key.position i).Nodup :=
      Key.nodup_map_position (List.Pairwise.filter _ (List.nodup_range' 1))
    have hsub : ((row.filter bound).map fun i : Nat => Key.position i) ⊆ p.keys := by
      intro k hk
      obtain ⟨i, hi, rfl⟩ := List.mem_map.1 hk
      exact List.contains_iff_mem.1 (List.mem_filter.1 hi).2
    calc row.countP bound = ((row.filter bound).map fun i : Nat => Key.position i).length := by
          rw [List.length_map, List.countP_eq_length_filter]
      _ ≤ p.keys.length := hnodup.length_le_of_subset hsub
      _ = p.size := List.length_map ..
  simp only [Bool.not_eq_true, Bool.decide_eq_false] at hsplit
  omega

end Params

namespace Padding

/-! ## Rounds -/

/-- Padding has come from `p` to `s`: of the positions below the next one, exactly the free ones are
bound to `v`, behind the old parameters. -/
structure From (p : Params) (v : Scalar) (s : Padding) : Prop where
  size_le : p.size ≤ s.next
  entries : s.params.entries = p.entries ++ (p.freeBelow s.next).map fun i => (.position i, v)

namespace From

variable {p : Params} {v : Scalar} {s : Padding}

theorem start (p : Params) (v : Scalar) : From p v ⟨p, p.size⟩ where
  size_le := Nat.le_refl _
  entries := by simp [Params.freeBelow]

theorem keys (h : From p v s) :
    s.params.keys = p.keys ++ (p.freeBelow s.next).map fun i => .position i := by
  rw [Params.keys, h.entries, List.map_append, List.map_map]
  rfl

theorem size (h : From p v s) : s.params.size = p.size + (p.freeBelow s.next).length := by
  rw [Params.size, h.entries, List.length_append, List.length_map]
  rfl

/-- The next position is bound if and only if it was bound from the start. -/
theorem hasKey (h : From p v s) :
    s.params.hasKey (.position s.next) = p.hasKey (.position s.next) := by
  have hnext : Key.position s.next ∉ (p.freeBelow s.next).map fun i : Nat => Key.position i := by
    intro hm
    obtain ⟨i, hi, hkey⟩ := List.mem_map.1 hm
    injection hkey with hkey
    have hlt := (Params.mem_freeBelow_iff.1 hi).2.1
    omega
  rw [Bool.eq_iff_iff, Params.hasKey, Params.hasKey, List.contains_iff_mem, List.contains_iff_mem,
    h.keys, List.mem_append, or_iff_left hnext]

theorem round (h : From p v s) : From p v (s.round v) where
  size_le := Nat.le_succ_of_le h.size_le
  entries := by
    have hnext : (s.round v).next = s.next + 1 := rfl
    rw [hnext, Params.freeBelow_succ h.size_le, List.map_append, ← List.append_assoc, ← h.entries,
      ← h.hasKey, Padding.round]
    cases hkey : s.params.hasKey (.position s.next) with
    | true => simp
    | false =>
      have hnew : Key.position s.next ∉ s.params.keys := by
        rw [← List.contains_iff_mem, ← Params.hasKey, hkey]
        exact Bool.false_ne_true
      exact Params.insertEntry_new hnew

theorem iterate (h : From p v s) (rounds : Nat) : From p v ((Padding.round v)^[rounds] s) := by
  induction rounds generalizing s with
  | zero => exact h
  | succ rounds ih => exact ih h.round

end From

theorem next_iterate (v : Scalar) (s : Padding) (rounds : Nat) :
    ((round v)^[rounds] s).next = s.next + rounds := by
  induction rounds generalizing s with
  | zero => rfl
  | succ rounds ih =>
    rw [Function.iterate_succ_apply, ih]
    simp only [round]
    omega

/-- A run is a number of rounds: before each of them parameters are missing, and after the last none
are. -/
theorem run_spec (total : Nat) (v : Scalar) (s : Padding) : ∃ rounds,
    run total v s = (round v)^[rounds] s ∧
    (∀ k < rounds, ((round v)^[k] s).params.size < total) ∧
    total ≤ (run total v s).params.size := by
  fun_induction run total v s with
  | case1 s h ih =>
    obtain ⟨rounds, hrun, hbefore, hsize⟩ := ih
    refine ⟨rounds + 1, hrun, ?_, hsize⟩
    rintro (_ | k) hk
    · exact h
    · exact hbefore k (by omega)
  | case2 s h => exact ⟨0, rfl, fun k hk => absurd hk (Nat.not_lt_zero k), Nat.le_of_not_lt h⟩

end Padding

/-! ## Padded parameters -/

namespace Params

/-- Padding takes at most `total` rounds. Then there are `total` parameters, and of the positions that
were passed exactly the free ones are bound to the filler, behind the old parameters. -/
theorem pad_spec {p : Params} {total : Nat} (h : p.size ≤ total) (v : Scalar) : ∃ rounds ≤ total,
    (∀ k < rounds, ((Padding.round v)^[k] ⟨p, p.size⟩).params.size < total) ∧
    ((Padding.round v)^[rounds] ⟨p, p.size⟩).params = p.pad total v ∧
    (p.freeBelow (p.size + rounds)).length = total - p.size ∧
    (p.pad total v).entries =
      p.entries ++ (p.freeBelow (p.size + rounds)).map fun i => (.position i, v) := by
  obtain ⟨rounds, hrun, hbefore, hsize⟩ := Padding.run_spec total v ⟨p, p.size⟩
  have hstate (k : Nat) := (Padding.From.start p v).iterate k
  have hlength (k : Nat) : ((Padding.round v)^[k] ⟨p, p.size⟩).params.size =
      p.size + (p.freeBelow (p.size + k)).length := by
    rw [(hstate k).size, Padding.next_iterate]
  have hfree : (p.freeBelow (p.size + rounds)).length = total - p.size := by
    rw [hrun, hlength] at hsize
    cases rounds with
    | zero =>
      have hnone : p.freeBelow (p.size + 0) = [] := by simp [freeBelow]
      rw [hnone, List.length_nil] at hsize ⊢
      omega
    | succ k =>
      -- Before its last round the run lacked a parameter, and a round adds at most one.
      have hlast := hbefore k (Nat.lt_succ_self k)
      have hsucc := freeBelow_succ (Nat.le_add_right p.size k)
      have hone : (p.freeBelow (p.size + (k + 1))).length ≤
          (p.freeBelow (p.size + k)).length + 1 := by
        rw [← Nat.add_assoc, hsucc, List.length_append]
        split <;> simp
      rw [hlength] at hlast
      omega
  refine ⟨rounds, ?_, hbefore, ?_, hfree, ?_⟩
  · have hbound := p.sub_le_length_freeBelow_add (p.size + rounds)
    omega
  · rw [pad, hrun]
  · rw [pad, hrun, (hstate rounds).entries, Padding.next_iterate]

/-- Parameters that are made to fit are as many as they have to be. -/
theorem size_fit (p : Params) (total : Nat) (v : Scalar) : (p.fit total v).size = total := by
  rw [fit]
  split
  · next h =>
    obtain ⟨rounds, -, -, -, hlength, hentries⟩ := pad_spec (Nat.le_of_lt h) v
    rw [size, hentries, List.length_append, List.length_map, hlength]
    exact Nat.add_sub_of_le (Nat.le_of_lt h)
  · next h =>
    rw [take, size, List.length_take]
    exact Nat.min_eq_left (Nat.le_of_not_lt h)

end Params

open Remedy in
/-- Padding parameters that are too few ends: after at most `total` rounds, before each of which some
are missing, there are `total` of them. They are the old parameters, unchanged and in order, and then
fillers whose positions are, in increasing order, the least integers from the number of parameters on
that are no keys. These are the parameters that the suggestion for a query with `total` placeholders
shows. -/
theorem padding_ends_at_least_free {p : Params} {total : Nat} (h : p.size < total) :
    ∃ (rounds : Nat) (free : List Int), rounds ≤ total ∧
      (∀ k < rounds, ((Padding.round missingValue)^[k] ⟨p, p.size⟩).params.size < total) ∧
      ((Padding.round missingValue)^[rounds] ⟨p, p.size⟩).params = p.pad total missingValue ∧
      (p.pad total missingValue).size = total ∧
      (p.pad total missingValue).entries =
        p.entries ++ free.map (fun n => (.position n, .text "missing_value")) ∧
      free.length = total - p.size ∧ free.Pairwise (· < ·) ∧
      (∀ n ∈ free, (p.size : Int) ≤ n ∧ .position n ∉ p.keys) ∧
      (∀ n : Int, p.size ≤ n → .position n ∉ p.keys → n ∉ free → ∀ m ∈ free, m < n) ∧
      ∀ query : String, Statement.placeholderCount query.toList = total →
        fittedParams query p = p.pad total missingValue := by
  obtain ⟨rounds, hrounds, hbefore, hafter, hlength, hentries⟩ :=
    Params.pad_spec (Nat.le_of_lt h) missingValue
  have hfit : p.fit total missingValue = p.pad total missingValue := if_pos h
  refine ⟨rounds, (p.freeBelow (p.size + rounds)).map fun i : Nat => (i : Int), hrounds, hbefore,
    hafter, ?_, ?_, ?_, ?_, ?_, ?_, ?_⟩
  · rw [← hfit, Params.size_fit]
  · rw [hentries, List.map_map]
    rfl
  · rw [List.length_map, hlength]
  · exact List.Pairwise.map _ (fun a b hab => Int.ofNat_lt.2 hab) (p.pairwise_freeBelow _)
  · intro n hn
    obtain ⟨i, hi, rfl⟩ := List.mem_map.1 hn
    obtain ⟨hsize, -, hkey⟩ := Params.mem_freeBelow_iff.1 hi
    exact ⟨Int.ofNat_le.2 hsize, hkey⟩
  · intro n hsize hkey hfree m hm
    obtain ⟨i, hi, rfl⟩ := List.mem_map.1 hm
    obtain ⟨j, rfl⟩ := Int.eq_ofNat_of_zero_le (show 0 ≤ n by omega)
    -- A free position that is not bound was not passed.
    have hj : j ∉ p.freeBelow (p.size + rounds) := fun hj => hfree (List.mem_map_of_mem hj)
    rw [Params.mem_freeBelow_iff] at hi hj
    have hnext : p.size + rounds ≤ j := by
      by_contra hlt
      exact hj ⟨Int.ofNat_le.1 hsize, by omega, hkey⟩
    omega
  · intro query hquery
    rw [fittedParams, hquery, hfit]

/-- Four parameters leave the positions 5 and 7 free among those from 4 on: a name that reads like a
position is none. -/
theorem scattered_positions_padded :
    let p : Params := .ofEntries [(.position 4, .int 7), (.name "5", .null),
      (.position (-1), .bool true), (.position 6, .int 8)]
    p.size < 6 ∧ (p.pad 6 Remedy.missingValue).entries = p.entries ++
      [(.position 5, .text "missing_value"), (.position 7, .text "missing_value")] := by
  intro p
  have hsize : p.size = 4 := by decide
  have h4 : Key.position 4 ∈ p.keys := by decide
  have h5 : Key.position 5 ∉ p.keys := by decide
  have h6 : Key.position 6 ∈ p.keys := by decide
  have h7 : Key.position 7 ∉ p.keys := by decide
  obtain ⟨-, free, -, -, -, -, hentries, hlength, hincreasing, hfree, hleast, -⟩ :=
    padding_ends_at_least_free (show p.size < 6 by decide)
  rw [hsize] at hlength hfree hleast
  obtain ⟨a, b, rfl⟩ : ∃ a b, free = [a, b] := by
    match free, hlength with
    | [a, b], _ => exact ⟨a, b, rfl⟩
  have hab : a < b := by simpa using hincreasing
  have ha := hfree a (by simp)
  have hb := hfree b (by simp)
  have ha4 : a ≠ 4 := fun h => ha.2 (h ▸ h4)
  have hb6 : b ≠ 6 := fun h => hb.2 (h ▸ h6)
  have hfive : 5 ∈ [a, b] := by
    by_contra h
    have := hleast 5 (by decide) h5 h a (by simp)
    omega
  have hseven : 7 ∈ [a, b] := by
    by_contra h
    have := hleast 7 (by decide) h7 h b (by simp)
    omega
  simp only [List.mem_cons, List.not_mem_nil, or_false] at hfive hseven
  obtain ⟨rfl, rfl⟩ : a = 5 ∧ b = 7 := by omega
  exact ⟨by decide, hentries⟩

end SqlAudit
