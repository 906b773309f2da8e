import SqlAudit.Proofs.Pattern.Reads
import SqlAudit.Proofs.Text.Trim
import SqlAudit.Statement

/-!
# Named placeholders

A named placeholder starts at a colon with a word character right behind it, and a host variable at
such a dollar sign. `nameOffsets` lists these places and `nameCount` counts them, both without
scanning for the names:

* `occurrencesFrom_namedPlaceholder`: the scanner finds the named placeholders at these places, each
  with all word characters behind its colon;
* `hostVariable_occursIn_iff`: a host variable occurs if there is such a place;
* `nameCount_append`: names of two texts are those of their concatenation, but for one that the cut
  divides;
* `placeholderCount_trim`: trimming keeps the number of placeholders;
* `placeholders_listed_once`: which placeholders a text has, and how many there are in a text that
  is put together from two.
-/

namespace SqlAudit

/-- How often `mark` has a word character right behind it. -/
def Text.nameCount (mark : Char) (s : List Char) : Nat :=
  (s.zip s.tail).countP fun e => e.1 == mark && isWord e.2

namespace Text

@[simp] theorem nameCount_nil (mark : Char) : nameCount mark [] = 0 := rfl

theorem nameCount_cons (mark c : Char) (s : List Char) : nameCount mark (c :: s) =
    nameCount mark s + if c = mark ∧ s.head?.any isWord = true then 1 else 0 := by
  cases s with
  | nil => simp [nameCount]
  | cons d s =>
    rw [nameCount, List.tail_cons, List.zip_cons_cons, List.countP_cons, List.head?_cons,
      Option.any_some]
    simp only [Bool.and_eq_true, beq_iff_eq]
    rfl

/-- The names of two texts are those of their concatenation, but for one that starts with the last
character of the first. -/
theorem nameCount_append (mark : Char) (a b : List Char) :
    nameCount mark (a ++ b) = nameCount mark a + nameCount mark b +
      if a.getLast? = some mark ∧ b.head?.any isWord = true then 1 else 0 := by
  induction a with
  | nil => simp
  | cons c a ih =>
    rw [List.cons_append, nameCount_cons, nameCount_cons, ih]
    cases a with
    | nil =>
      simp only [List.nil_append, List.getLast?_nil, List.getLast?_singleton, List.head?_nil,
        Option.some.injEq, Option.any_none, nameCount_nil, Bool.false_eq_true, reduceCtorEq,
        and_false, false_and, if_false]
      omega
    | cons d a =>
      rw [List.getLast?_cons_cons, List.cons_append, List.head?_cons, List.head?_cons]
      omega

theorem nameCount_eq_zero {mark : Char} {s : List Char} (h : mark ∉ s) : nameCount mark s = 0 := by
  induction s with
  | nil => rfl
  | cons c s ih =>
    rw [List.mem_cons, not_or] at h
    rw [nameCount_cons, ih h.2, if_neg fun hc => h.1 hc.1.symm]

/-- There is a name if and only if a word character stands right behind the mark somewhere. -/
theorem nameCount_pos_iff {mark : Char} {s : List Char} :
    0 < nameCount mark s ↔ ∃ a w b, s = a ++ mark :: w :: b ∧ isWord w = true := by
  induction s with
  | nil => simp
  | cons c s ih =>
    rw [nameCount_cons]
    constructor
    · intro h
      by_cases hc : c = mark ∧ s.head?.any isWord = true
      · obtain ⟨rfl, hw⟩ := hc
        obtain _ | ⟨w, b⟩ := s
        · exact absurd hw (by decide)
        · exact ⟨[], w, b, rfl, hw⟩
      · rw [if_neg hc, Nat.add_zero, ih] at h
        obtain ⟨a, w, b, rfl, hw⟩ := h
        exact ⟨c :: a, w, b, rfl, hw⟩
    · rintro ⟨a, w, b, hs, hw⟩
      obtain _ | ⟨d, a⟩ := a
      · obtain ⟨rfl, rfl⟩ := List.cons.inj hs
        rw [if_pos ⟨rfl, hw⟩]
        omega
      · obtain ⟨rfl, rfl⟩ := List.cons.inj hs
        have := ih.2 ⟨a, w, b, rfl, hw⟩
        omega

/-- The offsets at which `mark` has a word character right behind it, from left to right. -/
def nameOffsets (mark : Char) (s : List Char) : List Nat :=
  (List.range s.length).filter fun i => s[i]? = some mark ∧ s[i + 1]?.any isWord = true

theorem nameOffsets_cons (mark c : Char) (s : List Char) : nameOffsets mark (c :: s) =
    (if c = mark ∧ s.head?.any isWord = true then [0] else []) ++
      (nameOffsets mark s).map (· + 1) := by
  rw [nameOffsets, List.length_cons, List.range_succ_eq_map, List.filter_cons, List.filter_map,
    List.head?_eq_getElem?]
  simp only [List.getElem?_cons_zero, List.getElem?_cons_succ, Option.some.injEq,
    decide_eq_true_eq]
  split <;> rfl

/-- There is one offset for each name. -/
theorem length_nameOffsets (mark : Char) (s : List Char) :
    (nameOffsets mark s).length = nameCount mark s := by
  induction s with
  | nil => rfl
  | cons c s ih =>
    rw [nameOffsets_cons, List.length_append, List.length_map, ih, nameCount_cons, Nat.add_comm]
    split <;> rfl

/-- Trimming keeps the number of names: blank characters are neither marks nor word characters. -/
theorem nameCount_trim {mark : Char} (hm : isBlank mark = false) (s : List Char) :
    nameCount mark (trim s) = nameCount mark s := by
  obtain ⟨a, b, hs, ha, hb⟩ := exists_eq_trim s
  have hmark : ∀ t : List Char, (∀ c ∈ t, isBlank c = true) → mark ∉ t := fun t ht h => by
    rw [ht mark h] at hm
    exact Bool.noConfusion hm
  have hlast : ¬ (a.getLast? = some mark ∧ (trim s).head?.any isWord = true) := fun h =>
    hmark a ha (List.mem_of_getLast? h.1)
  have hhead : ¬ ((a ++ trim s).getLast? = some mark ∧ b.head?.any isWord = true) := by
    rintro ⟨-, h⟩
    obtain _ | ⟨c, b⟩ := b
    · exact absurd h (by decide)
    · rw [List.head?_cons, Option.any_some, isWord_of_isBlank (hb c List.mem_cons_self)] at h
      exact Bool.noConfusion h
  have h := congrArg (nameCount mark) hs
  rw [nameCount_append, nameCount_append, if_neg hlast, if_neg hhead,
    nameCount_eq_zero (hmark a ha), nameCount_eq_zero (hmark b hb)] at h
  omega

end Text

/-! ## The scanner -/

namespace Statement

open Pattern

theorem reads_mark {mark : Char} {before : Option Char} {text : List Char}
    {groups : List (List Char)} {after : List Char} :
    (sign mark ++ run1 .word).Reads before text groups after ↔ ∃ w name, text = mark :: w :: name ∧
      Text.isWord w = true ∧ (∀ c ∈ name, Text.isWord c = true) ∧ groups = [] := by
  simp only [reads_seq, reads_sign, reads_run1]
  constructor
  · rintro ⟨t₁, g₁, t₂, g₂, rfl, rfl, ⟨rfl, rfl⟩, hne, hall, rfl⟩
    obtain ⟨w, name, rfl⟩ := List.exists_cons_of_ne_nil hne
    obtain ⟨hw, hn⟩ := List.forall_mem_cons.1 hall
    exact ⟨w, name, rfl, hw, hn, rfl⟩
  · rintro ⟨w, name, rfl, hw, hn, rfl⟩
    exact ⟨[mark], [], w :: name, [], rfl, rfl, ⟨rfl, rfl⟩, List.cons_ne_nil _ _,
      List.forall_mem_cons.2 ⟨hw, hn⟩, rfl⟩

/-- A mark with a word character behind it is found together with the whole name. -/
theorem first?_mark (mark : Char) {s : List Char} (h : s.head?.any Text.isWord = true)
    (before : Option Char) : (sign mark ++ run1 .word).first? ⟨before, mark :: s⟩ =
      some ⟨mark :: s.takeWhile Text.isWord, [],
        ⟨lastChar (some mark) (s.takeWhile Text.isWord), s.dropWhile Text.isWord⟩⟩ := by
  obtain _ | ⟨w, s⟩ := s
  · exact absurd h (by decide)
  have hm : (CharClass.exactly mark).has mark = true := beq_self_eq_true mark
  have hw : Text.isWord w = true := h
  have hk : CharClass.word.has w = true := h
  rw [List.takeWhile_cons_of_pos hw, List.dropWhile_cons_of_pos hw, lastChar_cons]
  show (Pattern.seq (.one (.exactly mark)) (.seq (.one .word) (.run .word))).firstThat _ _ = _
  simp only [firstThat, hm, hk, if_true]
  exact firstRun_of_accept rfl

theorem first?_mark_eq_none {mark c : Char} {s : List Char}
    (h : ¬ (c = mark ∧ s.head?.any Text.isWord = true)) (before : Option Char) :
    (sign mark ++ run1 .word).first? ⟨before, c :: s⟩ = none := by
  rw [first?_eq_none_iff]
  intro text groups after hs hr
  obtain ⟨w, name, rfl, hw, -⟩ := reads_mark.1 hr
  obtain ⟨rfl, rfl⟩ := List.cons.inj hs
  exact h ⟨rfl, hw⟩

/-- The named placeholder at the offset `i` of a text whose first character has the offset
`start`: the colon and the longest run of word characters behind it. -/
def placeholderAt (start : Nat) (s : List Char) (i : Nat) : Occurrence :=
  ⟨start + i, ':' :: (s.drop (i + 1)).takeWhile Text.isWord, []⟩

theorem map_placeholderAt_cons (start : Nat) (c : Char) (s : List Char) (offsets : List Nat) :
    (offsets.map (· + 1)).map (placeholderAt start (c :: s)) =
      offsets.map (placeholderAt (start + 1) s) := by
  rw [List.map_map]
  refine List.map_congr_left fun i _ => ?_
  rw [Function.comp_apply, placeholderAt, placeholderAt, List.drop_succ_cons, Nat.add_assoc,
    Nat.add_comm 1]

/-- The scanner finds a named placeholder at each of their offsets, and nothing else. -/
theorem occurrencesFrom_namedPlaceholder {skip : Nat} {s : List Char} (h : ':' ∉ s.take skip)
    (start : Nat) (before : Option Char) :
    Catalog.namedPlaceholder.occurrencesFrom start skip before s =
      (Text.nameOffsets ':' s).map (placeholderAt start s) := by
  -- By induction on the text. No colon is among the characters that are left out, so that no offset
  -- is: they are the word characters that the last match has read.
  induction s generalizing start skip before with
  | nil => rfl
  | cons c s ih =>
    cases skip with
    | succ skip =>
      rw [List.take_succ_cons, List.mem_cons, not_or] at h
      rw [occurrencesFrom, ih h.2, Text.nameOffsets_cons, if_neg fun hc => h.1 hc.1.symm,
        List.nil_append, map_placeholderAt_cons]
    | zero =>
      by_cases hc : c = ':' ∧ s.head?.any Text.isWord = true
      · obtain ⟨rfl, hw⟩ := hc
        have hname : s.take (s.takeWhile Text.isWord).length = s.takeWhile Text.isWord :=
          (List.prefix_iff_eq_take.1 (List.takeWhile_prefix _)).symm
        have hread : ':' ∉ s.take (s.takeWhile Text.isWord).length := by
          intro hmem
          rw [hname] at hmem
          exact absurd (List.all_eq_true.1 List.all_takeWhile _ hmem) (by decide)
        have hfirst := first?_mark ':' hw before
        rw [← Catalog.namedPlaceholder] at hfirst
        simp only [occurrencesFrom, hfirst, List.length_cons, Nat.add_sub_cancel]
        rw [ih hread, Text.nameOffsets_cons, if_pos ⟨rfl, hw⟩, List.singleton_append, List.map_cons,
          map_placeholderAt_cons]
        rfl
      · rw [Catalog.namedPlaceholder, occurrencesFrom_of_none (first?_mark_eq_none hc before),
          ← Catalog.namedPlaceholder, ih (by simp), Text.nameOffsets_cons, if_neg hc,
          List.nil_append, map_placeholderAt_cons]

/-- The named placeholders stand at the colons with a word character right behind them. -/
theorem namedPlaceholders_eq (sql : List Char) : namedPlaceholders sql =
    (Text.nameOffsets ':' sql).map fun i =>
      ':' :: (sql.drop (i + 1)).takeWhile Text.isWord := by
  rw [namedPlaceholders, occurrences, occurrencesFrom_namedPlaceholder (by simp), List.map_map]
  rfl

/-- The scanner finds each named placeholder once. -/
theorem namedCount_eq (sql : List Char) : namedCount sql = Text.nameCount ':' sql := by
  rw [namedCount, namedPlaceholders_eq, List.length_map, Text.length_nameOffsets]

theorem placeholderCount_eq (sql : List Char) :
    placeholderCount sql = sql.count '?' + Text.nameCount ':' sql := by
  rw [placeholderCount, positionalCount, namedCount_eq]

/-- Trimming keeps the number of placeholders. -/
theorem placeholderCount_trim (sql : List Char) :
    placeholderCount (Text.trim sql) = placeholderCount sql := by
  rw [placeholderCount_eq, placeholderCount_eq, Text.count_trim (by decide),
    Text.nameCount_trim (by decide)]

/-! ## Host variables -/

/-- A host variable occurs if and only if a dollar sign has a word character right behind it. -/
theorem hostVariable_occursIn_iff {sql : List Char} :
    Catalog.hostVariable.occursIn sql = true ↔ 0 < Text.nameCount '$' sql := by
  rw [occursIn_iff, Text.nameCount_pos_iff]
  constructor
  · rintro ⟨skipped, text, groups, after, rfl, hr⟩
    obtain ⟨w, name, rfl, hw, -⟩ := reads_mark.1 hr
    exact ⟨skipped, w, name ++ after, by simp, hw⟩
  · rintro ⟨a, w, b, rfl, hw⟩
    exact ⟨a, ['$', w], [], b, by simp, reads_mark.2 ⟨w, [], rfl, hw, by simp, rfl⟩⟩

/-- An element of request data is a host variable. -/
theorem hostVariable_of_superglobalAccess {sql : List Char}
    (h : Catalog.superglobalAccess.occursIn sql = true) :
    Catalog.hostVariable.occursIn sql = true := by
  obtain ⟨skipped, text, groups, after, rfl, hr⟩ := occursIn_iff.1 h
  rw [Catalog.superglobalAccess, reads_seq] at hr
  obtain ⟨t₁, g₁, t₂, g₂, rfl, -, hr, -⟩ := hr
  obtain ⟨t₃, g₃, t₄, g₄, rfl, -, hr, -⟩ := reads_seq.1 hr
  obtain ⟨rfl, -⟩ := reads_text.1 hr
  rw [hostVariable_occursIn_iff, Text.nameCount_pos_iff]
  exact ⟨skipped, '_', t₄ ++ t₂ ++ after, by simp, by decide⟩

/-- A host variable between braces is a host variable. -/
theorem hostVariable_of_interpolation {sql : List Char}
    (h : Catalog.interpolation.occursIn sql = true) :
    Catalog.hostVariable.occursIn sql = true := by
  obtain ⟨skipped, text, groups, after, rfl, hr⟩ := occursIn_iff.1 h
  rw [Catalog.interpolation, reads_seq] at hr
  obtain ⟨t₁, g₁, t₂, g₂, rfl, -, hr, -⟩ := hr
  obtain ⟨t₃, g₃, t₄, g₄, rfl, -, hr, hname⟩ := reads_seq.1 hr
  obtain ⟨hne, hall, -⟩ := reads_run1.1 hname
  obtain ⟨w, name, rfl⟩ := List.exists_cons_of_ne_nil hne
  obtain ⟨t₅, g₅, t₆, g₆, rfl, -, -, hsign⟩ := reads_seq.1 hr
  obtain ⟨rfl, -⟩ := reads_sign.1 hsign
  rw [hostVariable_occursIn_iff, Text.nameCount_pos_iff]
  exact ⟨skipped ++ t₅, w, name ++ t₂ ++ after, by simp, hall w List.mem_cons_self⟩

end Statement

/-! ## All placeholders of a text -/

/-- A text has a named placeholder for each offset of a colon with a word character right behind it,
in this order: the colon and the longest run of word characters behind it. Two texts one after the
other have the placeholders of both, and one more named placeholder if and only if the first text
ends with a colon and the second starts with a word character. -/
theorem placeholders_listed_once (a : List Char) :
    Statement.namedPlaceholders a =
      ((List.range a.length).filter fun i =>
        a[i]? = some ':' ∧ a[i + 1]?.any Text.isWord = true).map
          (fun i => ':' :: (a.drop (i + 1)).takeWhile Text.isWord) ∧
    ∀ b : List Char,
      Statement.positionalCount (a ++ b) =
        Statement.positionalCount a + Statement.positionalCount b ∧
      Statement.namedCount (a ++ b) = Statement.namedCount a + Statement.namedCount b +
        if a.getLast? = some ':' ∧ b.head?.any Text.isWord = true then 1 else 0 := by
  refine ⟨Statement.namedPlaceholders_eq a, fun b => ⟨List.count_append, ?_⟩⟩
  rw [Statement.namedCount_eq, Statement.namedCount_eq, Statement.namedCount_eq,
    Text.nameCount_append]

example : Statement.namedPlaceholders "::x = :a:b_1 OR : c".toList =
    [":x", ":a", ":b_1"].map String.toList := by decide

end SqlAudit
