import SqlAudit.Pattern.Search

/-!
# What patterns read

`Pattern.Reads` says which texts a pattern reads at a place, and what its groups read there. It says
nothing on which of several texts is preferred. Main statements:

* `mem_readings_iff`: the readings of a pattern at a place are the texts that it reads there;
* `first?_eq_none_iff`, `reads_of_first?`: the match is one of these texts, and it is missing only
  if there are none;
* `occursIn_iff`: a pattern occurs in a text if and only if it reads a part of it;
* `firstRun_of_accept`: a run whose longest reading is accepted never backtracks;
* `occursIn_of_infix`: a pattern without boundaries occurs in every text around one that it occurs
  in.
-/

namespace SqlAudit

/-- The character before the place behind `text`, for the one before `text`. -/
def lastChar (before : Option Char) (text : List Char) : Option Char :=
  text.getLast?.or before

@[simp] theorem lastChar_nil (before : Option Char) : lastChar before [] = before := rfl

@[simp] theorem lastChar_cons (before : Option Char) (c : Char) (text : List Char) :
    lastChar before (c :: text) = lastChar (some c) text := by
  cases text with
  | nil => rfl
  | cons d text => simp [lastChar, List.getLast?_cons]

theorem lastChar_append (before : Option Char) (s t : List Char) :
    lastChar before (s ++ t) = lastChar (lastChar before s) t := by
  rw [lastChar, lastChar, lastChar, List.getLast?_append, Option.or_assoc]

namespace Pattern

/-- The pattern reads `text` and its groups read `groups`, behind the character `before` and in
front of `after`. -/
def Reads : Pattern → (before : Option Char) → (text : List Char) → (groups : List (List Char)) →
    (after : List Char) → Prop
  | .empty, _, text, groups, _ => text = [] ∧ groups = []
  | .one k, _, text, groups, _ => ∃ c, k.has c = true ∧ text = [c] ∧ groups = []
  | .run k, _, text, groups, _ => (∀ c ∈ text, k.has c = true) ∧ groups = []
  | .seq p q, before, text, groups, after => ∃ t₁ g₁ t₂ g₂, text = t₁ ++ t₂ ∧ groups = g₁ ++ g₂ ∧
      p.Reads before t₁ g₁ (t₂ ++ after) ∧ q.Reads (lastChar before t₁) t₂ g₂ after
  | .alt p q, before, text, groups, after =>
      p.Reads before text groups after ∨ q.Reads before text groups after
  | .boundary, before, text, groups, after =>
      text = [] ∧ groups = [] ∧ Place.isBoundary ⟨before, after⟩ = true
  | .group p, before, text, groups, after =>
      ∃ g, groups = text :: g ∧ p.Reads before text g after

/-! ## Readings -/

theorem mem_runReadings_iff {k : CharClass} {before : Option Char} {s : List Char} {r : Reading} :
    r ∈ runReadings k before s ↔ s = r.text ++ r.next.ahead ∧
      r.next.before = lastChar before r.text ∧ (∀ c ∈ r.text, k.has c = true) ∧ r.groups = [] := by
  induction s generalizing before r with
  | nil =>
    obtain ⟨text, groups, before', ahead⟩ := r
    simp only [runReadings, List.mem_singleton, Reading.nothing, Reading.mk.injEq, Place.mk.injEq,
      List.nil_eq, List.append_eq_nil_iff]
    constructor
    · rintro ⟨rfl, rfl, rfl, rfl⟩
      simp
    · rintro ⟨⟨rfl, rfl⟩, h, -, rfl⟩
      exact ⟨rfl, rfl, h, rfl⟩
  | cons c cs ih =>
    obtain ⟨text, groups, before', ahead⟩ := r
    -- The reading that takes nothing is there whether `c` belongs to the class or not.
    cases text with
    | nil =>
      by_cases hc : k.has c = true <;>
        simp [runReadings, hc, Reading.nothing, Reading.cons] <;> grind
    | cons d text =>
      by_cases hc : k.has c = true
      · have hm : ⟨d :: text, groups, before', ahead⟩ ∈ runReadings k before (c :: cs) ↔
            d = c ∧ ⟨text, groups, before', ahead⟩ ∈ runReadings k (some c) cs := by
          simp only [runReadings, hc, if_true, List.mem_append, List.mem_map, List.mem_singleton,
            Reading.nothing, Reading.mk.injEq, List.cons_ne_nil, false_and, or_false]
          constructor
          · rintro ⟨⟨t, g, next⟩, hr, he⟩
            simp only [Reading.cons, Reading.mk.injEq, List.cons.injEq] at he
            obtain ⟨⟨rfl, rfl⟩, rfl, rfl⟩ := he
            exact ⟨rfl, hr⟩
          · rintro ⟨rfl, hr⟩
            exact ⟨_, hr, rfl⟩
        rw [hm, ih]
        simp only [List.cons_append, List.cons.injEq, lastChar_cons, List.mem_cons,
          forall_eq_or_imp]
        grind
      · simp only [runReadings, hc, Reading.nothing, List.cons_append, List.cons.injEq,
          List.mem_cons, forall_eq_or_imp]
        grind

theorem mem_readings_seq {p q : Pattern} {place : Place} {r : Reading} :
    r ∈ (p.seq q).readings place ↔
      ∃ r₁ ∈ p.readings place, ∃ r₂ ∈ q.readings r₁.next, r₁.andThen r₂ = r := by
  simp [readings, List.mem_flatMap, List.mem_map]

/-- The readings of a pattern at a place are the texts that it reads there. -/
theorem mem_readings_iff {p : Pattern} {place : Place} {r : Reading} :
    r ∈ p.readings place ↔ place.ahead = r.text ++ r.next.ahead ∧
      r.next.before = lastChar place.before r.text ∧
      p.Reads place.before r.text r.groups r.next.ahead := by
  induction p generalizing place r with
  | empty =>
    obtain ⟨text, groups, before', ahead⟩ := r
    obtain ⟨before, s⟩ := place
    simp only [readings, Reads, Reading.nothing, List.mem_singleton, Reading.mk.injEq,
      Place.mk.injEq]
    constructor
    · rintro ⟨rfl, rfl, rfl, rfl⟩
      simp
    · rintro ⟨h, h', rfl, rfl⟩
      exact ⟨rfl, rfl, h', h.symm⟩
  | one k =>
    obtain ⟨text, groups, before', ahead⟩ := r
    obtain ⟨before, _ | ⟨c, cs⟩⟩ := place
    · simp only [readings, Reads, List.not_mem_nil, List.nil_eq, List.append_eq_nil_iff, false_iff]
      rintro ⟨⟨rfl, -⟩, -, d, -, h, -⟩
      exact List.cons_ne_nil _ _ h.symm
    · by_cases hc : k.has c = true <;> simp only [readings, Reads, hc] <;> grind [lastChar]
  | run k => exact mem_runReadings_iff
  | seq p q ihp ihq =>
    rw [mem_readings_seq]
    constructor
    · rintro ⟨r₁, h₁, r₂, h₂, rfl⟩
      obtain ⟨ha₁, hb₁, hr₁⟩ := ihp.1 h₁
      obtain ⟨ha₂, hb₂, hr₂⟩ := ihq.1 h₂
      rw [hb₁] at hb₂ hr₂
      rw [ha₂] at ha₁ hr₁
      refine ⟨by simp [Reading.andThen, ha₁], ?_, r₁.text, r₁.groups, r₂.text, r₂.groups, rfl, rfl,
        hr₁, hr₂⟩
      exact hb₂.trans (lastChar_append ..).symm
    · rintro ⟨ha, hb, t₁, g₁, t₂, g₂, ht, hg, h₁, h₂⟩
      rw [ht] at ha hb
      refine ⟨⟨t₁, g₁, ⟨lastChar place.before t₁, t₂ ++ r.next.ahead⟩⟩,
        ihp.2 ⟨by simp [ha], rfl, h₁⟩, ⟨t₂, g₂, r.next⟩, ihq.2 ⟨rfl, hb.trans (lastChar_append ..), h₂⟩, ?_⟩
      rw [Reading.andThen, ← ht, ← hg]
  | alt p q ihp ihq =>
    rw [readings, List.mem_append, ihp, ihq, Reads]
    grind
  | boundary =>
    obtain ⟨text, groups, before', ahead⟩ := r
    obtain ⟨before, s⟩ := place
    by_cases hb : Place.isBoundary ⟨before, s⟩ = true <;>
      simp only [readings, Reads, hb, Reading.nothing] <;> grind [lastChar]
  | group p ih =>
    simp only [readings, List.mem_map, Reads]
    constructor
    · rintro ⟨r, hr, rfl⟩
      obtain ⟨ha, hb, h⟩ := ih.1 hr
      exact ⟨ha, hb, r.groups, rfl, h⟩
    · rintro ⟨ha, hb, g, hg, h⟩
      refine ⟨⟨r.text, g, r.next⟩, ih.2 ⟨ha, hb, h⟩, ?_⟩
      rw [Reading.grouped, ← hg]

/-! ## Matches -/

theorem reads_of_first? {p : Pattern} {place : Place} {r : Reading} (h : p.first? place = some r) :
    place.ahead = r.text ++ r.next.ahead ∧ r.next.before = lastChar place.before r.text ∧
      p.Reads place.before r.text r.groups r.next.ahead := by
  rw [first?_eq_head?] at h
  exact mem_readings_iff.1 (List.mem_of_head? h)

/-- A pattern has no match at a place if and only if it reads nothing there. -/
theorem first?_eq_none_iff {p : Pattern} {before : Option Char} {s : List Char} :
    p.first? ⟨before, s⟩ = none ↔
      ∀ text groups after, s = text ++ after → ¬ p.Reads before text groups after := by
  rw [first?_eq_head?, List.head?_eq_none_iff, List.eq_nil_iff_forall_not_mem]
  constructor
  · intro h text groups after hs hr
    exact h ⟨text, groups, ⟨lastChar before text, after⟩⟩ (mem_readings_iff.2 ⟨hs, rfl, hr⟩)
  · intro h r hr
    obtain ⟨hs, -, hp⟩ := mem_readings_iff.1 hr
    exact h _ _ _ hs hp

theorem isSome_first?_iff {p : Pattern} {before : Option Char} {s : List Char} :
    (p.first? ⟨before, s⟩).isSome = true ↔
      ∃ text groups after, s = text ++ after ∧ p.Reads before text groups after := by
  rw [Option.isSome_iff_ne_none, ne_eq, first?_eq_none_iff]
  grind

/-- An occurrence is a text that the pattern reads, at its offset. -/
theorem reads_of_findFrom {p : Pattern} {start : Nat} {before : Option Char} {s : List Char}
    {o : Occurrence} (h : p.findFrom start before s = some o) :
    ∃ skipped after, s = skipped ++ o.text ++ after ∧ o.start = start + skipped.length ∧
      p.Reads (lastChar before skipped) o.text o.groups after := by
  induction s generalizing start before with
  | nil =>
    simp only [findFrom, Option.map_eq_some_iff] at h
    obtain ⟨r, hr, rfl⟩ := h
    obtain ⟨hs, -, hp⟩ := reads_of_first? hr
    exact ⟨[], r.next.ahead, hs, rfl, hp⟩
  | cons c cs ih =>
    rw [findFrom] at h
    split at h
    · rename_i r hr
      obtain ⟨hs, -, hp⟩ := reads_of_first? hr
      obtain rfl := Option.some.inj h
      exact ⟨[], r.next.ahead, hs, rfl, hp⟩
    · obtain ⟨skipped, after, hs, ho, hp⟩ := ih h
      refine ⟨c :: skipped, after, by simp [hs], ?_, by rwa [lastChar_cons]⟩
      rw [ho, List.length_cons]
      omega

theorem isSome_findFrom_iff {p : Pattern} {start : Nat} {before : Option Char} {s : List Char} :
    (p.findFrom start before s).isSome = true ↔ ∃ skipped text groups after,
      s = skipped ++ text ++ after ∧ p.Reads (lastChar before skipped) text groups after := by
  constructor
  · intro h
    obtain ⟨o, ho⟩ := Option.isSome_iff_exists.1 h
    obtain ⟨skipped, after, hs, -, hp⟩ := reads_of_findFrom ho
    exact ⟨skipped, o.text, o.groups, after, hs, hp⟩
  · rintro ⟨skipped, text, groups, after, rfl, hp⟩
    -- By induction on the characters before the text that is read.
    induction skipped generalizing start before with
    | nil =>
      have hf : (p.first? ⟨before, text ++ after⟩).isSome = true :=
        isSome_first?_iff.2 ⟨text, groups, after, rfl, hp⟩
      obtain ⟨r, hr⟩ := Option.isSome_iff_exists.1 hf
      rw [List.nil_append]
      cases hs : text ++ after <;> rw [hs] at hr <;> simp [findFrom, hr]
    | cons c skipped ih =>
      rw [lastChar_cons] at hp
      simp only [List.cons_append, findFrom]
      split
      · rfl
      · exact ih hp

/-- A pattern occurs in a text if and only if it reads a part of it. -/
theorem occursIn_iff {p : Pattern} {s : List Char} :
    p.occursIn s = true ↔ ∃ skipped text groups after,
      s = skipped ++ text ++ after ∧ p.Reads (lastChar none skipped) text groups after :=
  isSome_findFrom_iff

/-! ## Greedy runs -/

/-- A run whose longest reading is accepted never backtracks. -/
theorem firstRun_of_accept {β : Type} {k : CharClass} {before : Option Char} {s : List Char}
    {accept : Reading → Option β} {b : β}
    (h : accept ⟨s.takeWhile k.has, [], ⟨lastChar before (s.takeWhile k.has), s.dropWhile k.has⟩⟩ =
      some b) : firstRun k before s accept = some b := by
  induction s generalizing before accept with
  | nil => exact h
  | cons c cs ih =>
    by_cases hc : k.has c = true
    · rw [List.takeWhile_cons_of_pos hc, List.dropWhile_cons_of_pos hc, lastChar_cons] at h
      have hr : firstRun k (some c) cs (fun r => accept (r.cons c)) = some b := ih h
      simp only [firstRun, hc, if_true, hr]
    · rw [List.takeWhile_cons_of_neg hc, List.dropWhile_cons_of_neg hc] at h
      simp only [firstRun, hc]
      exact h

/-! ## Occurrences without overlap -/

theorem occurrencesFrom_skip (p : Pattern) (start : Nat) (before : Option Char)
    (read rest : List Char) :
    p.occurrencesFrom start read.length before (read ++ rest) =
      p.occurrencesFrom (start + read.length) 0 (lastChar before read) rest := by
  induction read generalizing start before with
  | nil => rfl
  | cons c read ih =>
    simp only [List.length_cons, List.cons_append, occurrencesFrom, lastChar_cons, ih]
    congr 1
    omega

/-- Behind a match that is not empty, the search goes on where the match ends. -/
theorem occurrencesFrom_of_some {p : Pattern} {before : Option Char} {s : List Char} {r : Reading}
    (h : p.first? ⟨before, s⟩ = some r) (hr : r.text ≠ []) (start : Nat) :
    p.occurrencesFrom start 0 before s = ⟨start, r.text, r.groups⟩ ::
      p.occurrencesFrom (start + r.text.length) 0 r.next.before r.next.ahead := by
  obtain ⟨hs, hb, -⟩ := reads_of_first? h
  obtain ⟨c, text, ht⟩ := List.exists_cons_of_ne_nil hr
  simp only [ht, List.cons_append] at hs hb
  subst hs
  simp only [occurrencesFrom, h, ht, List.length_cons, Nat.add_sub_cancel, hb, lastChar_cons,
    occurrencesFrom_skip, Nat.add_assoc, Nat.add_comm 1]

theorem occurrencesFrom_of_none {p : Pattern} {before : Option Char} {c : Char} {s : List Char}
    (h : p.first? ⟨before, c :: s⟩ = none) (start : Nat) :
    p.occurrencesFrom start 0 before (c :: s) = p.occurrencesFrom (start + 1) 0 (some c) s := by
  simp only [occurrencesFrom, h]

/-! ## Parts of patterns -/

theorem reads_seq {p q : Pattern} {before : Option Char} {text : List Char}
    {groups : List (List Char)} {after : List Char} :
    (p ++ q).Reads before text groups after ↔
      ∃ t₁ g₁ t₂ g₂, text = t₁ ++ t₂ ∧ groups = g₁ ++ g₂ ∧
        p.Reads before t₁ g₁ (t₂ ++ after) ∧ q.Reads (lastChar before t₁) t₂ g₂ after :=
  Iff.rfl

theorem reads_sign {c : Char} {before : Option Char} {text : List Char} {groups : List (List Char)}
    {after : List Char} : (sign c).Reads before text groups after ↔ text = [c] ∧ groups = [] := by
  simp [sign, Reads, CharClass.has]

theorem reads_run1 {k : CharClass} {before : Option Char} {text : List Char}
    {groups : List (List Char)} {after : List Char} :
    (run1 k).Reads before text groups after ↔
      text ≠ [] ∧ (∀ c ∈ text, k.has c = true) ∧ groups = [] := by
  simp only [run1, Reads]
  constructor
  · rintro ⟨t₁, g₁, t₂, g₂, rfl, rfl, ⟨c, hc, rfl, rfl⟩, ht, rfl⟩
    exact ⟨List.cons_ne_nil _ _, List.forall_mem_cons.2 ⟨hc, ht⟩, rfl⟩
  · rintro ⟨hne, hall, rfl⟩
    obtain ⟨c, t, rfl⟩ := List.exists_cons_of_ne_nil hne
    obtain ⟨hc, ht⟩ := List.forall_mem_cons.1 hall
    exact ⟨[c], [], t, [], rfl, rfl, ⟨c, hc, rfl, rfl⟩, ht, rfl⟩

theorem reads_text {s : String} {before : Option Char} {text : List Char}
    {groups : List (List Char)} {after : List Char} :
    (Pattern.text s).Reads before text groups after ↔ text = s.toList ∧ groups = [] := by
  rw [Pattern.text]
  induction s.toList generalizing before text groups with
  | nil => rfl
  | cons c cs ih =>
    simp only [List.foldr_cons, Reads, CharClass.has, beq_iff_eq, ih]
    grind

theorem reads_keyword {s : String} {before : Option Char} {text : List Char}
    {groups : List (List Char)} {after : List Char} :
    (keyword s).Reads before text groups after ↔
      text.map Text.fold = s.toList.map Char.toLower ∧ groups = [] := by
  rw [keyword]
  induction s.toList generalizing before text groups with
  | nil => simp [Reads]
  | cons c cs ih =>
    simp only [List.foldr_cons, Reads, CharClass.has, beq_iff_eq, ih, List.map_cons,
      List.map_eq_cons_iff]
    grind

/-! ## Surroundings -/

/-- Whether a pattern asks nothing of the characters around what it reads. -/
def isFree : Pattern → Bool
  | .empty | .one _ | .run _ => true
  | .seq p q | .alt p q => p.isFree && q.isFree
  | .boundary => false
  | .group p => p.isFree

/-- What a pattern without boundaries reads, it reads anywhere. -/
theorem Reads.anywhere {p : Pattern} (hp : p.isFree = true) {before : Option Char}
    {text : List Char} {groups : List (List Char)} {after : List Char}
    (h : p.Reads before text groups after) (before' : Option Char) (after' : List Char) :
    p.Reads before' text groups after' := by
  induction p generalizing before text groups after before' after' with
  | empty | one | run => exact h
  | seq p q ihp ihq =>
    rw [isFree, Bool.and_eq_true] at hp
    obtain ⟨t₁, g₁, t₂, g₂, ht, hg, h₁, h₂⟩ := h
    exact ⟨t₁, g₁, t₂, g₂, ht, hg, ihp hp.1 h₁ _ _, ihq hp.2 h₂ _ _⟩
  | alt p q ihp ihq =>
    rw [isFree, Bool.and_eq_true] at hp
    exact h.imp (ihp hp.1 · _ _) (ihq hp.2 · _ _)
  | boundary => exact nomatch hp
  | group p ih =>
    obtain ⟨g, hg, h⟩ := h
    exact ⟨g, hg, ih hp h _ _⟩

/-- A pattern without boundaries occurs in every text around one that it occurs in. -/
theorem occursIn_of_infix {p : Pattern} (hp : p.isFree = true) {s t : List Char} (h : s <:+: t)
    (hs : p.occursIn s = true) : p.occursIn t = true := by
  obtain ⟨skipped, text, groups, after, rfl, hr⟩ := occursIn_iff.1 hs
  obtain ⟨a, b, rfl⟩ := h
  exact occursIn_iff.2 ⟨a ++ skipped, text, groups, after ++ b, by simp, hr.anywhere hp _ _⟩

end Pattern

end SqlAudit
