import SqlAudit.Proofs.Pattern.Reads

/-!
# Patterns that read in one way

A run of characters can be read in as many ways as it has beginnings, but in one way only if the
text behind it must not go on with its characters. `Pattern.UniqueBefore` says that a pattern has at
most one reading at a place, as long as what stands behind it has a property. Main statements:

* `UniqueBefore.seq`: two patterns in a row read in one way if the second ends the first;
* `findFrom_eq_some_iff`: the first occurrence is the match at the least offset that has one;
* `find?_eq_some_iff`: a pattern that reads in one way is found at the least offset at which it
  reads anything.
-/

namespace SqlAudit.Pattern

/-- At every place, all readings of the pattern that end before a text with the property are the
same. -/
def UniqueBefore (p : Pattern) (follow : List Char → Prop) : Prop :=
  ∀ ⦃place : Place⦄ ⦃r r' : Reading⦄, r ∈ p.readings place → r' ∈ p.readings place →
    follow r.next.ahead → follow r'.next.ahead → r = r'

/-- What the pattern reads before a text with the property `G` makes a text with the property
`F`. -/
def Leads (p : Pattern) (G F : List Char → Prop) : Prop :=
  ∀ ⦃place : Place⦄ ⦃r : Reading⦄, r ∈ p.readings place → G r.next.ahead → F place.ahead

theorem leads_anything (p : Pattern) (G : List Char → Prop) : p.Leads G fun _ => True :=
  fun _ _ _ _ => trivial

theorem Leads.group {p : Pattern} {G F : List Char → Prop} (h : p.Leads G F) :
    (Pattern.group p).Leads G F := by
  intro place r hr hg
  obtain ⟨u, hu, rfl⟩ := List.mem_map.1 hr
  exact h hu hg

namespace UniqueBefore

theorem mono {p : Pattern} {F G : List Char → Prop} (hp : p.UniqueBefore F)
    (h : ∀ s, G s → F s) : p.UniqueBefore G :=
  fun _ _ _ hr hr' hg hg' => hp hr hr' (h _ hg) (h _ hg')

/-- Two patterns in a row read in one way if what the second reads ends the first. -/
theorem seq {p q : Pattern} {F G : List Char → Prop} (hp : p.UniqueBefore F)
    (hq : q.UniqueBefore G) (hlead : q.Leads G F) : (p ++ q).UniqueBefore G := by
  intro place r r' hr hr' hg hg'
  obtain ⟨r₁, h₁, r₂, h₂, rfl⟩ := mem_readings_seq.1 hr
  obtain ⟨r₁', h₁', r₂', h₂', rfl⟩ := mem_readings_seq.1 hr'
  obtain rfl : r₁ = r₁' := hp h₁ h₁' (hlead h₂ hg) (hlead h₂' hg')
  rw [hq h₂ h₂' hg hg']

theorem group {p : Pattern} {F : List Char → Prop} (hp : p.UniqueBefore F) :
    (Pattern.group p).UniqueBefore F := by
  intro place r r' hr hr' hf hf'
  obtain ⟨u, hu, rfl⟩ := List.mem_map.1 hr
  obtain ⟨u', hu', rfl⟩ := List.mem_map.1 hr'
  rw [hp hu hu' hf hf']

end UniqueBefore

/-! ## Parts of patterns -/

section Parts

variable (F : List Char → Prop)

theorem uniqueBefore_empty : empty.UniqueBefore F := by
  intro place r r' hr hr' _ _
  rw [List.mem_singleton.1 hr, List.mem_singleton.1 hr']

theorem uniqueBefore_one (k : CharClass) : (one k).UniqueBefore F := by
  intro place r r' hr hr' _ _
  obtain ⟨before, _ | ⟨c, cs⟩⟩ := place
  · exact absurd hr List.not_mem_nil
  · rw [readings] at hr hr'
    split at hr
    · rename_i hc
      rw [if_pos hc] at hr'
      rw [List.mem_singleton.1 hr, List.mem_singleton.1 hr']
    · exact absurd hr List.not_mem_nil

theorem uniqueBefore_sign (c : Char) : (sign c).UniqueBefore F :=
  uniqueBefore_one F _

theorem uniqueBefore_keyword (s : String) : (keyword s).UniqueBefore F := by
  rw [keyword]
  induction s.toList with
  | nil => exact uniqueBefore_empty F
  | cons c cs ih =>
    exact (uniqueBefore_one (fun _ => True) _).seq ih (leads_anything _ F)

end Parts

/-- The text does not go on with a character of the class. -/
def Ends (k : CharClass) (s : List Char) : Prop :=
  s.head?.any k.has = false

theorem takeWhile_of_ends {k : CharClass} {t s : List Char} (ht : ∀ c ∈ t, k.has c = true)
    (hs : Ends k s) : (t ++ s).takeWhile k.has = t := by
  rw [List.takeWhile_append_of_pos ht]
  cases s with
  | nil => rw [List.takeWhile_nil, List.append_nil]
  | cons c s =>
    have hc : k.has c = false := hs
    rw [List.takeWhile_cons_of_neg (by simp [hc]), List.append_nil]

/-- A run is read in one way if the text behind it does not go on with it. -/
theorem uniqueBefore_run (k : CharClass) : (run k).UniqueBefore (Ends k) := by
  intro place r r' hr hr' hf hf'
  obtain ⟨hs, hb, ht, hg⟩ := mem_runReadings_iff.1 hr
  obtain ⟨hs', hb', ht', hg'⟩ := mem_runReadings_iff.1 hr'
  have htext : r.text = r'.text := by
    rw [← takeWhile_of_ends ht hf, ← hs, hs', takeWhile_of_ends ht' hf']
  have hnext : r.next.ahead = r'.next.ahead := by
    rw [hs, htext] at hs'
    exact List.append_cancel_left hs'
  obtain ⟨text, groups, before, ahead⟩ := r
  obtain ⟨text', groups', before', ahead'⟩ := r'
  simp only at htext hnext hb hb' hg hg'
  rw [htext, hnext, hb, hb', hg, hg', htext]

theorem uniqueBefore_run1 (k : CharClass) : (run1 k).UniqueBefore (Ends k) :=
  (uniqueBefore_one (fun _ => True) k).seq (uniqueBefore_run k) (leads_anything _ _)

/-! ## The first occurrence -/

/-- The first occurrence is the match at the least offset that has one. -/
theorem findFrom_eq_some_iff {p : Pattern} {start : Nat} {before : Option Char} {s : List Char}
    {o : Occurrence} : p.findFrom start before s = some o ↔ ∃ n ≤ s.length, o.start = start + n ∧
      (∃ r, p.first? ⟨lastChar before (s.take n), s.drop n⟩ = some r ∧ r.text = o.text ∧
        r.groups = o.groups) ∧
      ∀ m < n, p.first? ⟨lastChar before (s.take m), s.drop m⟩ = none := by
  obtain ⟨first, text, groups⟩ := o
  -- By induction on the text: either there is a match right here, or the search goes on behind the
  -- first character, from where all offsets are smaller by one.
  induction s generalizing start before with
  | nil =>
    simp only [findFrom, Option.map_eq_some_iff, Occurrence.mk.injEq, List.length_nil,
      Nat.le_zero_eq]
    constructor
    · rintro ⟨r, hr, rfl, rfl, rfl⟩
      exact ⟨0, rfl, rfl, ⟨r, hr, rfl, rfl⟩, fun m hm => absurd hm (Nat.not_lt_zero m)⟩
    · rintro ⟨_, rfl, rfl, ⟨r, hr, rfl, rfl⟩, -⟩
      exact ⟨r, hr, rfl, rfl, rfl⟩
  | cons c cs ih =>
    cases h : p.first? ⟨before, c :: cs⟩ with
    | some r =>
      simp only [findFrom, h, Option.some.injEq, Occurrence.mk.injEq]
      constructor
      · rintro ⟨rfl, rfl, rfl⟩
        exact ⟨0, Nat.zero_le _, rfl, ⟨r, h, rfl, rfl⟩, fun m hm => absurd hm (Nat.not_lt_zero m)⟩
      · rintro ⟨_ | n, -, rfl, ⟨r', hr', rfl, rfl⟩, hleast⟩
        · obtain rfl := Option.some.inj (h.symm.trans hr')
          exact ⟨rfl, rfl, rfl⟩
        · exact absurd (h.symm.trans (hleast 0 n.succ_pos)) (by simp)
    | none =>
      simp only [findFrom, h, ih, List.length_cons]
      constructor
      · rintro ⟨n, hn, rfl, hr, hleast⟩
        refine ⟨n + 1, by omega, by omega, by simpa using hr, ?_⟩
        rintro (_ | m) hm
        · exact h
        · simpa using hleast m (by omega)
      · rintro ⟨_ | n, hn, rfl, hr, hleast⟩
        · obtain ⟨r, hr, -⟩ := hr
          exact absurd (h.symm.trans hr) (by simp)
        · refine ⟨n, by omega, by omega, by simpa using hr, fun m hm => ?_⟩
          simpa using hleast (m + 1) (by omega)

/-- At an offset of a text, the pattern reads what stands there. -/
def ReadsAt (p : Pattern) (s : List Char) (n : Nat) (text : List Char)
    (groups : List (List Char)) : Prop :=
  n ≤ s.length ∧ ∃ after, s.drop n = text ++ after ∧
    p.Reads (lastChar none (s.take n)) text groups after

theorem readsAt_iff {p : Pattern} {s : List Char} {n : Nat} {text : List Char}
    {groups : List (List Char)} : p.ReadsAt s n text groups ↔ n ≤ s.length ∧
      ∃ r ∈ p.readings ⟨lastChar none (s.take n), s.drop n⟩, r.text = text ∧ r.groups = groups := by
  refine and_congr_right fun _ => ⟨?_, ?_⟩
  · rintro ⟨after, hs, hr⟩
    exact ⟨⟨text, groups, ⟨lastChar (lastChar none (s.take n)) text, after⟩⟩,
      mem_readings_iff.2 ⟨hs, rfl, hr⟩, rfl, rfl⟩
  · rintro ⟨r, hr, rfl, rfl⟩
    obtain ⟨hs, -, hr⟩ := mem_readings_iff.1 hr
    exact ⟨r.next.ahead, hs, hr⟩

section Unique

variable {p : Pattern} (hp : p.UniqueBefore fun _ => True)
include hp

/-- A pattern that reads in one way reads at most one text at an offset, with one value for each of
its groups. -/
theorem readsAt_unique {s : List Char} {n : Nat} {text text' : List Char}
    {groups groups' : List (List Char)} (h : p.ReadsAt s n text groups)
    (h' : p.ReadsAt s n text' groups') : text = text' ∧ groups = groups' := by
  obtain ⟨-, r, hr, rfl, rfl⟩ := readsAt_iff.1 h
  obtain ⟨-, r', hr', rfl, rfl⟩ := readsAt_iff.1 h'
  rw [hp hr hr' trivial trivial]
  exact ⟨rfl, rfl⟩

/-- A pattern that reads in one way is found at the least offset at which it reads anything. -/
theorem find?_eq_some_iff {s : List Char} {o : Occurrence} :
    p.find? s = some o ↔ p.ReadsAt s o.start o.text o.groups ∧
      ∀ n < o.start, ∀ text groups, ¬ p.ReadsAt s n text groups := by
  rw [find?, findFrom_eq_some_iff]
  constructor
  · rintro ⟨n, hn, ho, ⟨r, hr, htext, hgroups⟩, hleast⟩
    rw [Nat.zero_add] at ho
    rw [first?_eq_head?] at hr
    refine ⟨readsAt_iff.2 ⟨ho ▸ hn, r, ho ▸ List.mem_of_head? hr, htext, hgroups⟩, ?_⟩
    rintro m hm text groups ⟨-, after, hs, hreads⟩
    exact first?_eq_none_iff.1 (hleast m (ho ▸ hm)) text groups after hs hreads
  · rintro ⟨hreads, hleast⟩
    obtain ⟨hn, r, hr, htext, hgroups⟩ := readsAt_iff.1 hreads
    refine ⟨o.start, hn, (Nat.zero_add _).symm, ⟨r, ?_, htext, hgroups⟩, fun m hm => ?_⟩
    · rw [first?_eq_head?]
      obtain ⟨r', rs, hrs⟩ := List.exists_cons_of_ne_nil (List.ne_nil_of_mem hr)
      have hr' : r' ∈ p.readings ⟨lastChar none (s.take o.start), s.drop o.start⟩ :=
        hrs ▸ List.mem_cons_self
      rw [hrs, List.head?_cons, hp hr hr' trivial trivial]
    · rw [first?_eq_none_iff]
      intro text groups after hs hread
      exact hleast m hm text groups ⟨Nat.le_of_lt (Nat.lt_of_lt_of_le hm hn), after, hs, hread⟩

end Unique

end SqlAudit.Pattern
