import SqlAudit.Text.Blank
import SqlAudit.Text.Caseless
import SqlAudit.Text.Half
import SqlAudit.Text.Search
import SqlAudit.Text.Upper
import SqlAudit.Text.Word

/-!
# The case of letters

`uncased` gives all basic Latin letters of a text their small form: two texts that differ only in
the case of such letters have it in common. Whatever reads a text character by character either does
not see the difference or keeps it in its place. Main statements:

* `apply_toLower`: what is the same for the 26 capitals and their small forms is the same for all
  characters;
* `upper_uncased`, `lower_uncased`: the upper and the lower case of a text are those of its small
  form;
* `trim_uncased`, `firstToken_uncased`: a text is cut where its small form is;
* `count_uncased`, `contains_uncased`, `endsWith_uncased`: signs other than letters are found where
  they were.
-/

namespace SqlAudit.Text

/-! ## Characters -/

/-- The basic Latin capitals. -/
def capitals : List Char :=
  "ABCDEFGHIJKLMNOPQRSTUVWXYZ".toList

/-- Only the basic Latin capitals have another small form. -/
theorem toLower_eq_self {c : Char} (h : c ∉ capitals) : c.toLower = c := by
  have hcodes : ((List.range 26).all fun i => capitals.contains (Char.ofNat (65 + i))) = true := by
    decide
  delta Char.toLower
  split
  · next hc =>
    refine absurd ?_ h
    have hn : 65 ≤ c.toNat ∧ c.toNat ≤ 90 := by
      simpa [UInt32.le_iff_toNat_le] using hc
    have hm := List.all_eq_true.1 hcodes (c.toNat - 65) (List.mem_range.2 (by omega))
    rw [Nat.add_sub_cancel' hn.1, Char.ofNat_toNat, List.contains_iff_mem] at hm
    exact hm
  · rfl

/-- What is the same for the capitals and their small forms is the same for all characters. -/
theorem apply_toLower {β : Type} [BEq β] [LawfulBEq β] {f : Char → β}
    (h : (capitals.all fun c => f c.toLower == f c) = true) (c : Char) : f c.toLower = f c := by
  by_cases hc : c ∈ capitals
  · exact eq_of_beq (List.all_eq_true.1 h c hc)
  · rw [toLower_eq_self hc]

@[simp] theorem isHalf_toLower (c : Char) : isHalf c.toLower = isHalf c :=
  apply_toLower (by decide) c

@[simp] theorem isBlank_toLower (c : Char) : isBlank c.toLower = isBlank c :=
  apply_toLower (by decide) c

@[simp] theorem isWord_toLower (c : Char) : isWord c.toLower = isWord c :=
  apply_toLower (by decide) c

@[simp] theorem fold_toLower (c : Char) : fold c.toLower = fold c :=
  apply_toLower (by decide) c

@[simp] theorem lowerChar_toLower (c : Char) : lowerChar c.toLower = lowerChar c :=
  apply_toLower (by decide) c

@[simp] theorem upperChar_toLower (c : Char) : upperChar c.toLower = upperChar c :=
  apply_toLower (by decide) c

/-- A sign other than a letter is the small form of nothing else. -/
theorem toLower_beq {c : Char} (hc : c.isAlpha = false) (d : Char) :
    (d.toLower == c) = (d == c) := by
  have hletters : (capitals.all fun d => d.isAlpha && d.toLower.isAlpha) = true := by
    decide
  by_cases hd : d ∈ capitals
  · have hd := List.all_eq_true.1 hletters d hd
    rw [Bool.and_eq_true] at hd
    have hne : d ≠ c := fun h => by
      rw [h, hc] at hd
      exact Bool.noConfusion hd.1
    have hne' : d.toLower ≠ c := fun h => by
      rw [h, hc] at hd
      exact Bool.noConfusion hd.2
    rw [beq_eq_false_iff_ne.2 hne, beq_eq_false_iff_ne.2 hne']
  · rw [toLower_eq_self hd]

theorem beq_toLower {c : Char} (hc : c.isAlpha = false) (d : Char) :
    (c == d.toLower) = (c == d) := by
  rw [BEq.comm, toLower_beq hc, BEq.comm]

/-! ## Texts -/

/-- A text with all basic Latin letters in their small form. -/
def uncased (s : List Char) : List Char :=
  s.map Char.toLower

@[simp] theorem uncased_nil : uncased [] = [] := rfl

@[simp] theorem uncased_cons (c : Char) (s : List Char) :
    uncased (c :: s) = c.toLower :: uncased s := rfl

@[simp] theorem uncased_append (s t : List Char) : uncased (s ++ t) = uncased s ++ uncased t :=
  List.map_append

@[simp] theorem length_uncased (s : List Char) : (uncased s).length = s.length :=
  List.length_map _

@[simp] theorem isEmpty_uncased (s : List Char) : (uncased s).isEmpty = s.isEmpty :=
  List.isEmpty_map

@[simp] theorem upper_uncased (s : List Char) : upper (uncased s) = upper s := by
  simp only [upper, uncased, List.flatMap_map, upperChar_toLower]

@[simp] theorem lower_uncased (s : List Char) : lower (uncased s) = lower s := by
  simp only [lower, uncased, List.flatMap_map, lowerChar_toLower]

/-! ### Cuts -/

@[simp] theorem trimStart_uncased (s : List Char) :
    trimStart (uncased s) = uncased (trimStart s) := by
  rw [trimStart, uncased, List.dropWhile_map]
  simp only [Function.comp_def, isBlank_toLower]
  rfl

@[simp] theorem trimEnd_uncased (s : List Char) : trimEnd (uncased s) = uncased (trimEnd s) := by
  rw [trimEnd, uncased, ← List.map_reverse, List.dropWhile_map, ← List.map_reverse]
  simp only [Function.comp_def, isBlank_toLower]
  rfl

@[simp] theorem trim_uncased (s : List Char) : trim (uncased s) = uncased (trim s) := by
  rw [trim, trimStart_uncased, trimEnd_uncased, trim]

@[simp] theorem firstToken_uncased (s : List Char) :
    firstToken (uncased s) = uncased (firstToken s) := by
  rw [firstToken, trimStart_uncased, uncased, List.takeWhile_map]
  simp only [Function.comp_def, isBlank_toLower]
  rfl

/-! ### Signs -/

section Sign

variable {c : Char} (hc : c.isAlpha = false)
include hc

theorem count_uncased (s : List Char) : (uncased s).count c = s.count c := by
  simp only [List.count, uncased, List.countP_map, Function.comp_def, toLower_beq hc]

theorem contains_char_uncased (s : List Char) : (uncased s).contains c = s.contains c := by
  simp only [List.contains_eq_any_beq, uncased, List.any_map, Function.comp_def,
    beq_toLower hc]

theorem endsWith_uncased (s : List Char) : endsWith c (uncased s) = endsWith c s := by
  rw [endsWith, endsWith, uncased, List.getLast?_map]
  cases s.getLast? with
  | none => rfl
  | some d => exact toLower_beq hc d

end Sign

/-- Whether a text has no letters. -/
def letterFree (s : List Char) : Bool :=
  s.all fun c => !c.isAlpha

theorem isPrefixOf_uncased {needle : List Char} (hn : letterFree needle = true) (s : List Char) :
    needle.isPrefixOf (uncased s) = needle.isPrefixOf s := by
  induction needle generalizing s with
  | nil => rfl
  | cons c needle ih =>
    simp only [letterFree, List.all_cons, Bool.and_eq_true, Bool.not_eq_true'] at hn
    cases s with
    | nil => rfl
    | cons d s =>
      rw [uncased_cons, List.isPrefixOf, List.isPrefixOf, ih hn.2, beq_toLower hn.1]

/-- A text without letters occurs where it does in the small form. -/
theorem contains_uncased {needle : List Char} (hn : letterFree needle = true) (s : List Char) :
    contains needle (uncased s) = contains needle s := by
  induction s with
  | nil => rfl
  | cons c s ih =>
    rw [uncased_cons, contains, contains, ih, ← uncased_cons, isPrefixOf_uncased hn]

end SqlAudit.Text
