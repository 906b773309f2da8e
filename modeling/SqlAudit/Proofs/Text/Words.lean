import SqlAudit.Proofs.Pattern.Reads
import SqlAudit.Proofs.Text.Trim

/-!
# Words

The words of a text are its longest runs of word characters. `words` finds them by splitting the
text at all other characters, without looking for any word in particular. Main statements:

* `mem_words_iff`: a word is a run of word characters that the characters around it do not extend;
* `wordsFrom_cons`: whoever goes through a text from left to right meets a word at each place with a
  word character ahead and none before it;
* `words_trim`: trimming keeps the words.
-/

namespace SqlAudit.Text

/-- The longest runs of word characters of a text, from left to right. -/
def words (s : List Char) : List (List Char) :=
  (s.splitOnP fun c => !isWord c).filter fun t => !t.isEmpty

@[simp] theorem words_nil : words [] = [] := rfl

/-- A character that is no word character divides the words before it from those behind it. -/
theorem words_append_cons {c : Char} (hc : isWord c = false) (s t : List Char) :
    words (s ++ c :: t) = words s ++ words t := by
  rw [words, List.splitOnP_append_cons _ _ (by rw [hc]; rfl), List.filter_append]
  rfl

theorem words_cons {c : Char} (hc : isWord c = false) (s : List Char) : words (c :: s) = words s :=
  words_append_cons hc [] s

section Run

variable {t : List Char} (hne : t ≠ []) (ht : ∀ c ∈ t, isWord c = true)
include hne ht

theorem words_of_run : words t = [t] := by
  have hsplit : (t.splitOnP fun c => !isWord c) = [t] :=
    List.splitOnP_eq_singleton fun c hc => by rw [ht c hc]; rfl
  rw [words, hsplit, List.filter_cons_of_pos (by simpa using hne), List.filter_nil]

/-- A run of word characters is the first word if the text behind it does not extend it. -/
theorem words_append_of_run {s : List Char} (hs : s.head?.any isWord = false) :
    words (t ++ s) = t :: words s := by
  cases s with
  | nil => rw [List.append_nil, words_of_run hne ht, words_nil]
  | cons c s =>
    have hc : isWord c = false := hs
    rw [words_append_cons hc, words_of_run hne ht, words_cons hc, List.singleton_append]

end Run

theorem isWord_of_takeWhile_ne_nil {c : Char} {s : List Char}
    (h : (c :: s).takeWhile isWord ≠ []) : isWord c = true :=
  Decidable.byContradiction fun hc => h (List.takeWhile_cons_of_neg hc)

theorem any_head?_dropWhile (s : List Char) : (s.dropWhile isWord).head?.any isWord = false :=
  (Option.any_eq_false ..).2 fun _ hc => false_of_mem_head?_dropWhile hc

/-! ## Words from left to right -/

/-- The words that start behind the character `before`. If it is a word character, the run that it
belongs to has started already. -/
def wordsFrom (before : Option Char) (s : List Char) : List (List Char) :=
  words (if before.any isWord = true then s.dropWhile isWord else s)

theorem wordsFrom_cons (before : Option Char) (c : Char) (s : List Char) :
    wordsFrom before (c :: s) =
      if before.any isWord = false ∧ isWord c = true then
        (c :: s).takeWhile isWord :: wordsFrom (some c) s
      else wordsFrom (some c) s := by
  -- A word character starts a word or goes on with one; any other ends what has started.
  by_cases hc : isWord c = true
  · have hnext : wordsFrom (some c) s = words (s.dropWhile isWord) := by
      rw [wordsFrom, Option.any_some, if_pos hc]
    cases hb : before.any isWord with
    | true =>
      rw [wordsFrom, hb, if_pos rfl, if_neg fun h => Bool.noConfusion h.1,
        List.dropWhile_cons_of_pos hc, hnext]
    | false =>
      have hrun : ∀ d ∈ (c :: s).takeWhile isWord, isWord d = true :=
        List.all_eq_true.1 List.all_takeWhile
      have hne : (c :: s).takeWhile isWord ≠ [] := by
        rw [List.takeWhile_cons_of_pos hc]
        exact List.cons_ne_nil _ _
      have h := words_append_of_run hne hrun (any_head?_dropWhile (c :: s))
      rw [List.takeWhile_append_dropWhile, List.dropWhile_cons_of_pos hc] at h
      rw [wordsFrom, hb, if_neg Bool.false_ne_true, if_pos ⟨rfl, hc⟩, h, hnext]
  · rw [Bool.not_eq_true] at hc
    rw [if_neg fun h => Bool.noConfusion (hc.symm.trans h.2)]
    have hnext : wordsFrom (some c) s = words s := by
      rw [wordsFrom, Option.any_some, hc, if_neg Bool.false_ne_true]
    rw [wordsFrom, List.dropWhile_cons_of_neg (by simp [hc]), ite_self, words_cons hc, hnext]

/-- A word that starts behind `before` is a run of word characters that the characters around it do
not extend. -/
theorem exists_of_mem_wordsFrom {before : Option Char} {s t : List Char}
    (h : t ∈ wordsFrom before s) : ∃ skipped after, s = skipped ++ t ++ after ∧ t ≠ [] ∧
      (∀ c ∈ t, isWord c = true) ∧ (lastChar before skipped).any isWord = false ∧
      after.head?.any isWord = false := by
  induction s generalizing before with
  | nil =>
    rw [wordsFrom, List.dropWhile_nil, ite_self] at h
    exact absurd h List.not_mem_nil
  | cons c s ih =>
    have hcases : (before.any isWord = false ∧ isWord c = true) ∧ t = (c :: s).takeWhile isWord ∨
        t ∈ wordsFrom (some c) s := by
      rw [wordsFrom_cons] at h
      split at h
      · rename_i hstart
        exact (List.mem_cons.1 h).imp_left fun ht => ⟨hstart, ht⟩
      · exact .inr h
    rcases hcases with ⟨⟨hb, hc⟩, rfl⟩ | hmem
    · refine ⟨[], (c :: s).dropWhile isWord, ?_, ?_, List.all_eq_true.1 List.all_takeWhile, hb,
        any_head?_dropWhile _⟩
      · rw [List.nil_append, List.takeWhile_append_dropWhile]
      · rw [List.takeWhile_cons_of_pos hc]
        exact List.cons_ne_nil _ _
    · obtain ⟨skipped, after, rfl, hne, ht, hb, ha⟩ := ih hmem
      exact ⟨c :: skipped, after, rfl, hne, ht, by rwa [lastChar_cons], ha⟩

/-- The words of a text are its runs of word characters that the characters around them do not
extend. -/
theorem mem_words_iff {s t : List Char} : t ∈ words s ↔ ∃ before after,
    s = before ++ t ++ after ∧ t ≠ [] ∧ (∀ c ∈ t, isWord c = true) ∧
      before.getLast?.any isWord = false ∧ after.head?.any isWord = false := by
  constructor
  · intro h
    have hfrom : t ∈ wordsFrom none s := h
    obtain ⟨before, after, hs, hne, ht, hb, ha⟩ := exists_of_mem_wordsFrom hfrom
    rw [lastChar, Option.or_none] at hb
    exact ⟨before, after, hs, hne, ht, hb, ha⟩
  · rintro ⟨before, after, rfl, hne, ht, hb, ha⟩
    rw [List.append_assoc]
    obtain rfl | ⟨before, d, rfl⟩ := List.eq_nil_or_concat before
    · rw [List.nil_append, words_append_of_run hne ht ha]
      exact List.mem_cons_self
    · rw [List.concat_eq_append, List.getLast?_concat, Option.any_some] at hb
      rw [List.concat_eq_append, List.append_assoc, List.singleton_append, words_append_cons hb,
        words_append_of_run hne ht ha]
      exact List.mem_append_right _ List.mem_cons_self

example : words "(a_1) --b2\n".toList = ["a_1", "b2"].map String.toList := by decide

/-! ## Trimming -/

theorem words_append_left {p : List Char} (h : ∀ c ∈ p, isWord c = false) (s : List Char) :
    words (p ++ s) = words s := by
  induction p with
  | nil => rfl
  | cons c p ih =>
    obtain ⟨hc, hp⟩ := List.forall_mem_cons.1 h
    rw [List.cons_append, words_cons hc, ih hp]

theorem words_append_right {p : List Char} (h : ∀ c ∈ p, isWord c = false) (s : List Char) :
    words (s ++ p) = words s := by
  cases p with
  | nil => rw [List.append_nil]
  | cons c p =>
    obtain ⟨hc, hp⟩ := List.forall_mem_cons.1 h
    have hnone : words p = [] := by
      have hnil := words_append_left hp []
      rwa [List.append_nil] at hnil
    rw [words_append_cons hc, hnone, List.append_nil]

/-- Trimming keeps the words: blank characters are no word characters. -/
theorem words_trim (s : List Char) : words (trim s) = words s := by
  obtain ⟨a, b, hs, ha, hb⟩ := exists_eq_trim s
  have h := congrArg words hs
  rw [words_append_right fun c hc => isWord_of_isBlank (hb c hc),
    words_append_left fun c hc => isWord_of_isBlank (ha c hc)] at h
  exact h.symm

end SqlAudit.Text
