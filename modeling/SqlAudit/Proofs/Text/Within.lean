import SqlAudit.Proofs.Text.Case
import SqlAudit.Proofs.Text.Trim
import SqlAudit.Text.Lower

/-!
# Texts within texts

What is found in a text is found in every text around it: a part of a text is still one when both
are trimmed or changed in case. The full lower case of a text depends on where its characters stand,
so this does not hold of it as such; but a basic Latin text cannot tell it from `lower`, for which
it does. Main statements:

* `trim_infix_trim`: a part that is not blank is a part of the trimmed text;
* `upper_infix_upper`, `lower_infix_lower`: parts in upper and in lower case;
* `map_basic?_lowerCase`: the full lower case differs from `lower` beyond basic Latin only;
* `contains_lowerCase_eq`: a basic Latin text occurs in the one if and only if it does in the other.
-/

namespace SqlAudit.Text

/-! ## Trimming -/

/-- Trimming the start of a text stops at a character that is not blank. -/
theorem trimStart_append_cons {c : Char} (hc : isBlank c = false) (a u : List Char) :
    trimStart (a ++ c :: u) = trimStart a ++ c :: u := by
  have hu : (c :: u).dropWhile isBlank = c :: u := List.dropWhile_cons_of_neg (by simp [hc])
  rw [trimStart, List.dropWhile_append, hu, trimStart]
  split
  · next ha => rw [List.isEmpty_iff.1 ha, List.nil_append]
  · rfl

/-- Trimming the end of a text stops at a character that is not blank. -/
theorem trimEnd_append_singleton {d : Char} (hd : isBlank d = false) (u b : List Char) :
    trimEnd (u ++ [d] ++ b) = u ++ [d] ++ trimEnd b := by
  have hr : (u ++ [d] ++ b).reverse = b.reverse ++ d :: u.reverse := by simp
  have htrim := trimStart_append_cons hd b.reverse u.reverse
  rw [trimStart, trimStart] at htrim
  rw [trimEnd, hr, htrim, trimEnd]
  simp

/-- A trimmed text starts and ends with characters that are not blank. -/
theorem trim_ends {s : List Char} (hs : trim s ≠ []) :
    (∃ c u, trim s = c :: u ∧ isBlank c = false) ∧
      ∃ u d, trim s = u ++ [d] ∧ isBlank d = false := by
  obtain ⟨hhead, hlast⟩ := isTrimmed_trim s
  obtain ⟨c, u, hc⟩ := List.exists_cons_of_ne_nil hs
  obtain ⟨v, d, hd⟩ := (List.eq_nil_or_concat (trim s)).resolve_left hs
  rw [List.concat_eq_append] at hd
  rw [hc] at hhead
  refine ⟨⟨c, u, hc, hhead c rfl⟩, v, d, hd, hlast d ?_⟩
  rw [hd, List.getLast?_concat]
  rfl

/-- A part of a text that is not blank is, trimmed, a part of the trimmed text. -/
theorem trim_infix_trim {s t : List Char} (h : s <:+: t) (hs : trim s ≠ []) :
    trim s <:+: trim t := by
  obtain ⟨a, b, rfl⟩ := h
  obtain ⟨x, y, hxy, -, -⟩ := exists_eq_trim s
  obtain ⟨⟨c, u, hcu, hc⟩, v, d, hvd, hd⟩ := trim_ends hs
  have ht : a ++ s ++ b = a ++ x ++ c :: (u ++ (y ++ b)) := by
    rw [hcu] at hxy
    rw [hxy]
    simp
  have hmiddle : trimStart (a ++ x) ++ c :: (u ++ (y ++ b)) =
      trimStart (a ++ x) ++ v ++ [d] ++ (y ++ b) := by
    rw [← List.cons_append, ← hcu, hvd]
    simp
  refine ⟨trimStart (a ++ x), trimEnd (y ++ b), ?_⟩
  rw [hvd, ht, trim, trimStart_append_cons hc, hmiddle, trimEnd_append_singleton hd]
  simp

/-! ## Upper and lower case -/

theorem flatMap_infix {s t : List Char} (h : s <:+: t) (f : Char → List Char) :
    s.flatMap f <:+: t.flatMap f := by
  obtain ⟨a, b, rfl⟩ := h
  rw [List.flatMap_append, List.flatMap_append]
  exact List.infix_append _ _ _

theorem upper_infix_upper {s t : List Char} (h : s <:+: t) : upper s <:+: upper t :=
  flatMap_infix h upperChar

theorem lower_infix_lower {s t : List Char} (h : s <:+: t) : lower s <:+: lower t :=
  flatMap_infix h lowerChar

theorem contains_of_infix {needle s t : List Char} (h : s <:+: t) (hs : contains needle s = true) :
    contains needle t = true :=
  contains_iff.2 ((contains_iff.1 hs).trans h)

/-! ## The full lower case -/

/-- A basic Latin character; nothing for any other. -/
def basic? (c : Char) : Option Char :=
  if c.toNat < 128 then some c else none

/-- Whether a text is basic Latin. -/
def isBasic (s : List Char) : Bool :=
  s.all fun c => c.toNat < 128

theorem toNat_ofNat {n : Nat} (h : n < 0xd800 ∨ 0xdfff < n ∧ n < 0x110000) :
    (Char.ofNat n).toNat = n := by
  rw [Char.ofNat, dif_pos (show n.isValidChar from h)]
  rfl

/-- The lower case of a character in the table is beyond basic Latin, but for the Kelvin sign. -/
theorem lowerRuns_images : (lowerRuns.all fun r => (r.lo == 0x212a && r.hi == 0x212a) ||
    (decide (128 ≤ r.image) && (decide (r.hi - r.lo + r.image < 0xd800) ||
      decide (0xdfff < r.image) && decide (r.hi - r.lo + r.image < 0x110000)))) = true := by
  decide

theorem basic?_image {c : Char} {r : CaseRun} (hr : r ∈ lowerRuns) (hc : r.has c.toNat = true)
    (hk : c ≠ '\u212a') : basic? (Char.ofNat (c.toNat - r.lo + r.image)) = none := by
  have himage := List.all_eq_true.1 lowerRuns_images r hr
  have hne : c.toNat ≠ 0x212a := fun h => hk (Char.toNat_inj.1 h)
  simp only [Bool.or_eq_true, Bool.and_eq_true, beq_iff_eq, decide_eq_true_eq] at himage
  simp only [CaseRun.has, Bool.and_eq_true, decide_eq_true_eq] at hc
  have hn : (Char.ofNat (c.toNat - r.lo + r.image)).toNat = c.toNat - r.lo + r.image :=
    toNat_ofNat (by omega)
  rw [basic?, hn, if_neg (by omega)]

theorem toLower_of_not_basic {c : Char} (h : ¬c.toNat < 128) : c.toLower = c := by
  refine toLower_eq_self fun hc => h ?_
  have hcapitals : (capitals.all fun c => decide (c.toNat < 128)) = true := by decide
  simpa using List.all_eq_true.1 hcapitals c hc

theorem lowerChar_eq {c : Char} (hi : c ≠ '\u0130') (hk : c ≠ '\u212a') :
    lowerChar c = [c.toLower] := by
  rw [lowerChar, if_neg (by simpa using hi), if_neg (by simpa using hk)]

theorem map_basic?_smallChar (c : Char) : (smallChar c).map basic? = (lowerChar c).map basic? := by
  by_cases hi : c = '\u0130'
  · subst hi
    decide
  by_cases hk : c = '\u212a'
  · subst hk
    decide
  rw [lowerChar_eq hi hk, smallChar]
  split
  · rfl
  · next hbasic =>
    rw [if_neg (by simpa using hi), toLower_of_not_basic hbasic]
    split
    · next r hr =>
      have hhas : r.has c.toNat = true :=
        List.find?_some (p := fun r : CaseRun => r.has c.toNat) hr
      have himage := basic?_image (List.mem_of_find?_eq_some hr) hhas hk
      have hc : basic? c = none := if_neg hbasic
      rw [List.map_singleton, List.map_singleton, himage, hc]
    · rfl

theorem map_basic?_lowerFrom (before s : List Char) :
    (lowerFrom before s).map basic? = (lower s).map basic? := by
  induction s generalizing before with
  | nil => rfl
  | cons c s ih =>
    rw [lowerFrom, List.map_append, ih, lower, lower, List.flatMap_cons, List.map_append]
    congr 1
    split
    · next hc =>
      rw [eq_of_beq hc]
      split <;> decide
    · exact map_basic?_smallChar c

/-- The full lower case of a text is `lower`, but for characters beyond basic Latin. -/
theorem map_basic?_lowerCase (s : List Char) :
    (lowerCase s).map basic? = (lower s).map basic? :=
  map_basic?_lowerFrom [] s

theorem eq_of_map_basic? {n m : List Char} (hn : isBasic n = true)
    (h : m.map basic? = n.map basic?) : m = n := by
  induction n generalizing m with
  | nil => exact List.map_eq_nil_iff.1 h
  | cons c n ih =>
    simp only [isBasic, List.all_cons, Bool.and_eq_true, decide_eq_true_eq] at hn
    obtain ⟨d, m, rfl, hd, hm⟩ := List.map_eq_cons_iff.1 h
    rw [basic?, basic?, if_pos hn.1] at hd
    obtain rfl : d = c := by
      split at hd
      · exact Option.some.inj hd
      · exact nomatch hd
    rw [ih hn.2 hm]

/-- A basic Latin text is a part of another if and only if it is one as far as basic Latin goes. -/
theorem infix_iff_map_basic? {needle s : List Char} (hn : isBasic needle = true) :
    needle <:+: s ↔ needle.map basic? <:+: s.map basic? := by
  refine ⟨fun h => h.map basic?, ?_⟩
  rintro ⟨a, b, h⟩
  obtain ⟨front, b', rfl, hfront, -⟩ := List.map_eq_append_iff.1 h.symm
  obtain ⟨a', middle, rfl, -, hmiddle⟩ := List.map_eq_append_iff.1 hfront
  rw [eq_of_map_basic? hn hmiddle]
  exact List.infix_append a' needle b'

/-- A basic Latin text occurs in the full lower case of a text if and only if it does in `lower`. -/
theorem contains_lowerCase_eq {needle : List Char} (hn : isBasic needle = true) (s : List Char) :
    contains needle (lowerCase s) = contains needle (lower s) := by
  rw [Bool.eq_iff_iff, contains_iff, contains_iff, infix_iff_map_basic? hn,
    infix_iff_map_basic? hn, map_basic?_lowerCase]

end SqlAudit.Text
