import SqlAudit.Text.Blank
import SqlAudit.Text.Search
import SqlAudit.Text.Word

/-!
# Trimmed texts

What trimming and searching come to. `trim` cuts blank characters and nothing else
(`exists_eq_trim`), so that characters that are not blank are as many before as after it
(`count_trim`); it cuts all of those around a text (`trim_padded`, `trim_eq_iff`), which the first
token of the text does not depend on either (`firstToken_padded`). No blank character is a word
character (`isWord_of_isBlank`), and numbers are written in digits, which tell them apart
(`isDigit_of_mem_toString`, `eq_of_toString_append`). `contains` tells whether a text is a part of
another (`contains_iff`).
-/

namespace SqlAudit.Text

/-- A text is contained in another if and only if it is a part of it. -/
theorem contains_iff {needle s : List Char} : contains needle s = true ↔ needle <:+: s := by
  induction s with
  | nil => rw [contains, List.isEmpty_iff, List.infix_nil]
  | cons c cs ih =>
    rw [contains, Bool.or_eq_true, List.isPrefixOf_iff_prefix, ih, List.infix_cons_iff]

/-! ## Blank and word characters -/

/-- The code points of the blank characters. -/
def blankCodes : List Nat :=
  [9, 10, 11, 12, 13, 28, 29, 30, 31, 32, 0x85, 0xa0, 0x1680, 0x2000, 0x2001, 0x2002, 0x2003,
    0x2004, 0x2005, 0x2006, 0x2007, 0x2008, 0x2009, 0x200a, 0x2028, 0x2029, 0x202f, 0x205f, 0x3000]

theorem toNat_mem_blankCodes {c : Char} (h : isBlank c = true) : c.toNat ∈ blankCodes := by
  simp only [isBlank, Bool.or_eq_true, Bool.and_eq_true, decide_eq_true_eq, beq_iff_eq] at h
  simp only [blankCodes, List.mem_cons, List.not_mem_nil, or_false]
  omega

theorem isWord_blankCodes : ∀ n ∈ blankCodes, isWord (Char.ofNat n) = false := by
  decide +kernel

/-- No blank character is a word character. -/
theorem isWord_of_isBlank {c : Char} (h : isBlank c = true) : isWord c = false := by
  have hc := isWord_blankCodes _ (toNat_mem_blankCodes h)
  rwa [Char.ofNat_toNat] at hc

theorem isDigit_of_mem_toString {n : Nat} {c : Char} (h : c ∈ (toString n).toList) :
    c.isDigit = true := by
  rw [Nat.toString_eq_repr, Nat.toList_repr] at h
  exact Nat.isDigit_of_mem_toDigits (by decide) (by decide) h

/-- A number is told from its digits if the texts behind them do not go on with digits. -/
theorem eq_of_toString_append {m n : Nat} {s t : List Char}
    (hs : s.head?.any Char.isDigit = false) (ht : t.head?.any Char.isDigit = false)
    (h : (toString m).toList ++ s = (toString n).toList ++ t) : m = n := by
  have hdigits (k : Nat) {u : List Char} (hu : u.head?.any Char.isDigit = false) :
      ((toString k).toList ++ u).takeWhile Char.isDigit = Nat.toDigits 10 k := by
    rw [List.takeWhile_append_of_pos fun c hc => isDigit_of_mem_toString hc,
      Nat.toString_eq_repr, Nat.toList_repr]
    cases u with
    | nil => rw [List.takeWhile_nil, List.append_nil]
    | cons c u =>
      have hc : c.isDigit = false := hu
      rw [List.takeWhile_cons_of_neg (by simp [hc]), List.append_nil]
  have hmn := congrArg (List.takeWhile Char.isDigit) h
  rw [hdigits m hs, hdigits n ht] at hmn
  calc m = Nat.ofDigitChars 10 (Nat.toDigits 10 m) 0 :=
        (Nat.ofDigitChars_toDigits (by decide) (by decide)).symm
    _ = Nat.ofDigitChars 10 (Nat.toDigits 10 n) 0 := by rw [hmn]
    _ = n := Nat.ofDigitChars_toDigits (by decide) (by decide)

/-! ## Trimming -/

theorem exists_eq_trimEnd (s : List Char) :
    ∃ b, s = trimEnd s ++ b ∧ ∀ c ∈ b, isBlank c = true := by
  refine ⟨(s.reverse.takeWhile isBlank).reverse, ?_, fun c hc => ?_⟩
  · rw [trimEnd, ← List.reverse_append, List.takeWhile_append_dropWhile, List.reverse_reverse]
  · exact List.all_eq_true.1 List.all_takeWhile c (List.mem_reverse.1 hc)

/-- Trimming cuts blank characters at both ends. -/
theorem exists_eq_trim (s : List Char) : ∃ a b, s = a ++ trim s ++ b ∧
    (∀ c ∈ a, isBlank c = true) ∧ ∀ c ∈ b, isBlank c = true := by
  obtain ⟨b, hb, hblank⟩ := exists_eq_trimEnd (trimStart s)
  refine ⟨s.takeWhile isBlank, b, ?_, fun c hc => ?_, hblank⟩
  · rw [trim, List.append_assoc, ← hb, trimStart, List.takeWhile_append_dropWhile]
  · exact List.all_eq_true.1 List.all_takeWhile c hc

/-- Trimming leaves a part of the text. -/
theorem isInfix_trim (s : List Char) : trim s <:+: s := by
  obtain ⟨a, b, hs, -⟩ := exists_eq_trim s
  exact ⟨a, b, hs.symm⟩

theorem count_eq_zero_of_blank {c : Char} {a : List Char} (hc : isBlank c = false)
    (h : ∀ d ∈ a, isBlank d = true) : a.count c = 0 := by
  rw [List.count_eq_zero]
  intro hm
  rw [h c hm] at hc
  exact Bool.noConfusion hc

/-- Trimming keeps the number of every character that is not blank. -/
theorem count_trim {c : Char} (hc : isBlank c = false) (s : List Char) :
    (trim s).count c = s.count c := by
  obtain ⟨a, b, hs, ha, hb⟩ := exists_eq_trim s
  have h := congrArg (List.count c) hs
  rw [List.count_append, List.count_append, count_eq_zero_of_blank hc ha,
    count_eq_zero_of_blank hc hb] at h
  omega

/-! ## Trimmed texts -/

/-- A text that is empty, or starts and ends with a character that is not blank. -/
def IsTrimmed (s : List Char) : Prop :=
  (∀ c ∈ s.head?, isBlank c = false) ∧ ∀ c ∈ s.getLast?, isBlank c = false

theorem false_of_mem_head?_dropWhile {p : Char → Bool} {s : List Char} {c : Char}
    (hc : c ∈ (s.dropWhile p).head?) : p c = false := by
  have h := List.head?_dropWhile_not p s
  rw [Option.mem_def.1 hc] at h
  exact h

theorem isTrimmed_trim (s : List Char) : IsTrimmed (trim s) := by
  constructor
  · intro c hc
    obtain ⟨b, hb, -⟩ := exists_eq_trimEnd (trimStart s)
    refine false_of_mem_head?_dropWhile (s := s) ?_
    rw [← trimStart, hb, List.head?_append, ← trim, Option.mem_def.1 hc]
    rfl
  · intro c hc
    rw [trim, trimEnd, List.getLast?_reverse] at hc
    exact false_of_mem_head?_dropWhile hc

theorem trim_of_isTrimmed {s : List Char} (h : IsTrimmed s) : trim s = s := by
  have hkeep {u : List Char} (hu : ∀ c ∈ u.head?, isBlank c = false) : u.dropWhile isBlank = u := by
    cases u with
    | nil => rfl
    | cons c u => rw [List.dropWhile_cons_of_neg (by simp [hu c rfl])]
  rw [trim, trimStart, hkeep h.1, trimEnd, hkeep (by rw [List.head?_reverse]; exact h.2),
    List.reverse_reverse]

/-! ## Padding -/

section Padding

variable {a b : List Char} (ha : ∀ c ∈ a, isBlank c = true) (hb : ∀ c ∈ b, isBlank c = true)
include ha hb

/-- Blank characters before a text are cut, and those behind it only if nothing else is left. -/
theorem trimStart_padded (s : List Char) :
    trimStart (a ++ s ++ b) = trimStart s ∨ trimStart (a ++ s ++ b) = trimStart s ++ b := by
  have hnil : b.dropWhile isBlank = [] := by
    rw [← List.append_nil b, List.dropWhile_append_of_pos hb, List.dropWhile_nil]
  rw [List.append_assoc, trimStart, List.dropWhile_append_of_pos ha, List.dropWhile_append]
  split
  · next hs =>
    rw [hnil, trimStart, List.isEmpty_iff.1 hs]
    exact .inl rfl
  · exact .inr rfl

/-- Blank characters around a text are cut. -/
theorem trim_padded (s : List Char) : trim (a ++ s ++ b) = trim s := by
  rw [trim, trim]
  rcases trimStart_padded ha hb s with h | h
  · rw [h]
  · rw [h, trimEnd, List.reverse_append, List.dropWhile_append_of_pos, trimEnd]
    intro c hc
    exact hb c (List.mem_reverse.1 hc)

/-- A text has the same first token with blank characters around it. -/
theorem firstToken_padded (s : List Char) : firstToken (a ++ s ++ b) = firstToken s := by
  rw [firstToken, firstToken]
  rcases trimStart_padded ha hb s with h | h
  · rw [h]
  · have hnil : (b.takeWhile fun c => !isBlank c) = [] := by
      cases b with
      | nil => rfl
      | cons c b => simp [hb c List.mem_cons_self]
    rw [h, List.takeWhile_append, hnil, List.append_nil]
    split
    · next hlen => exact ((List.takeWhile_prefix _).eq_of_length hlen).symm
    · rfl

end Padding

/-- What trimming leaves is the trimmed text that blank characters stand around. -/
theorem trim_eq_iff {s t : List Char} : trim s = t ↔ IsTrimmed t ∧ ∃ a b, s = a ++ t ++ b ∧
    (∀ c ∈ a, isBlank c = true) ∧ ∀ c ∈ b, isBlank c = true := by
  constructor
  · rintro rfl
    exact ⟨isTrimmed_trim s, exists_eq_trim s⟩
  · rintro ⟨ht, a, b, rfl, ha, hb⟩
    rw [trim_padded ha hb, trim_of_isTrimmed ht]

theorem trim_of_blank {s : List Char} (h : ∀ c ∈ s, isBlank c = true) : trim s = [] :=
  trim_eq_iff.2 ⟨⟨by simp, by simp⟩, s, [], by simp, h, by simp⟩

end SqlAudit.Text
