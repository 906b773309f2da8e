import Mathlib.Data.List.Forall2
import SqlAudit.Catalog
import SqlAudit.Proofs.Pattern.Reads

/-!
# What the idioms of injection look like

`Catalog.meanings` says of every idiom which texts it occurs in, in terms of their parts. Main
statements:

* `Pattern.Accepts.seq`, `Pattern.Accepts.occursIn_iff`: patterns that look at nothing but what they
  read are put together as texts are;
* `Pattern.occursIn_wholeWord_iff`: a whole word is a run of word characters that no other extends;
* `Catalog.forall₂_meanings`: the pattern of every idiom occurs in a text if and only if the idiom
  does; hence the same idioms are found either way (`Catalog.descriptions_eq`).
-/

namespace SqlAudit

/-! ## Letters in any case -/

namespace Text

/-- The text is the word in any case. -/
def AnyCase (word : String) (t : List Char) : Prop :=
  t.map fold = word.toList.map Char.toLower

instance (word : String) (t : List Char) : Decidable (AnyCase word t) :=
  inferInstanceAs (Decidable (_ = _))

theorem AnyCase.ne_nil {word : String} (hne : word.toList ≠ []) {t : List Char}
    (h : AnyCase word t) : t ≠ [] := by
  rintro rfl
  exact hne (List.map_eq_nil_iff.1 h.symm)

/-- All characters of the text are blank. -/
def Blank (t : List Char) : Prop :=
  ∀ c ∈ t, isBlank c = true

/-- A part of the text has a property. -/
def HasPart (L : List Char → Prop) (s : List Char) : Prop :=
  ∃ t, t <:+: s ∧ L t

/-- A run of word characters that no other extends is the word in any case. -/
def HasWord (word : String) (s : List Char) : Prop :=
  ∃ before t after, s = before ++ t ++ after ∧ AnyCase word t ∧
    (∀ c ∈ t, isWord c = true) ∧
    before.getLast?.any isWord = false ∧ after.head?.any isWord = false

/-- A letter from A to Z in any case. -/
def IsLatin (c : Char) : Prop :=
  'a' ≤ fold c ∧ fold c ≤ 'z'

theorem isUpper_iff {c : Char} : c.isUpper = true ↔ 65 ≤ c.toNat ∧ c.toNat ≤ 90 := by
  delta Char.isUpper
  simp [UInt32.le_iff_toNat_le]

theorem isLower_iff {c : Char} : c.isLower = true ↔ 97 ≤ c.toNat ∧ c.toNat ≤ 122 := by
  delta Char.isLower
  simp [UInt32.le_iff_toNat_le]

theorem isAlphanum_of_toLower {c : Char} (h : 'a' ≤ c.toLower ∧ c.toLower ≤ 'z') :
    c.toNat < 128 ∧ c.isAlphanum = true := by
  have hletter : c.isUpper = true ∨ c.isLower = true := by
    delta Char.toLower at h
    split at h
    · rename_i hc
      exact .inl (decide_eq_true hc)
    · exact .inr (isLower_iff.2 (by simpa [Char.le_def, UInt32.le_iff_toNat_le] using h))
  have hascii : c.toNat < 128 := by
    rw [isUpper_iff, isLower_iff] at hletter
    omega
  have halpha : c.isAlpha = true := Bool.or_eq_true_iff.2 hletter
  exact ⟨hascii, by rw [Char.isAlphanum, halpha, Bool.true_or]⟩

/-- A letter is a word character, also where it counts as a letter by its case only. -/
theorem isWord_of_isLatin {c : Char} (h : IsLatin c) : isWord c = true := by
  have hspecial : ['\u017f', '\u0130', '\u0131', '\u212a'].all isWord = true := by
    decide +kernel
  by_cases hc : c ∈ ['\u017f', '\u0130', '\u0131', '\u212a']
  · exact List.all_eq_true.1 hspecial c hc
  · simp only [List.mem_cons, List.not_mem_nil, or_false, not_or] at hc
    have hfold : fold c = c.toLower := by simp [fold, hc]
    rw [IsLatin, hfold] at h
    obtain ⟨hascii, halnum⟩ := isAlphanum_of_toLower h
    rw [isWord, if_pos hascii, halnum, Bool.true_or]

/-- Words of letters, by their small forms. -/
def lettersOnly (word : String) : Bool :=
  (word.toList.map Char.toLower).all fun c => 'a' ≤ c && c ≤ 'z'

theorem isWord_of_anyCase {word : String} (hw : lettersOnly word = true) {t : List Char}
    (h : AnyCase word t) : ∀ c ∈ t, isWord c = true := by
  intro c hc
  have hfold : fold c ∈ word.toList.map Char.toLower := h ▸ List.mem_map_of_mem hc
  have hlatin := List.all_eq_true.1 hw _ hfold
  rw [Bool.and_eq_true, decide_eq_true_iff, decide_eq_true_iff] at hlatin
  exact isWord_of_isLatin hlatin

end Text

/-! ## Patterns that look at nothing around them -/

namespace Pattern

/-- Wherever it stands, the pattern reads the texts with a property, and it has no groups. -/
def Accepts (p : Pattern) (L : List Char → Prop) : Prop :=
  ∀ before text groups after, p.Reads before text groups after ↔ L text ∧ groups = []

theorem Accepts.congr {p : Pattern} {L M : List Char → Prop} (hp : p.Accepts L)
    (h : ∀ t, L t ↔ M t) : p.Accepts M := fun before text groups after =>
  (hp before text groups after).trans (and_congr_left fun _ => h text)

theorem accepts_one (k : CharClass) : (one k).Accepts fun t => ∃ c, k.has c = true ∧ t = [c] := by
  intro before text groups after
  rw [Reads]
  grind

theorem accepts_sign (c : Char) : (sign c).Accepts (· = [c]) :=
  fun _ _ _ _ => reads_sign

theorem accepts_run (k : CharClass) : (run k).Accepts fun t => ∀ c ∈ t, k.has c = true :=
  fun _ _ _ _ => Iff.rfl

theorem accepts_run1 (k : CharClass) :
    (run1 k).Accepts fun t => t ≠ [] ∧ ∀ c ∈ t, k.has c = true :=
  fun _ _ _ _ => reads_run1.trans and_assoc.symm

theorem accepts_perhaps (k : CharClass) :
    (perhaps k).Accepts fun t => t = [] ∨ ∃ c, k.has c = true ∧ t = [c] := by
  intro before text groups after
  rw [perhaps, Reads, Reads, Reads]
  grind

theorem accepts_text (s : String) : (Pattern.text s).Accepts (· = s.toList) :=
  fun _ _ _ _ => reads_text

theorem accepts_keyword (s : String) : (keyword s).Accepts (Text.AnyCase s) :=
  fun _ _ _ _ => reads_keyword

/-- What two patterns read one after the other. -/
theorem Accepts.seq {p q : Pattern} {L M : List Char → Prop} (hp : p.Accepts L) (hq : q.Accepts M) :
    (p ++ q).Accepts fun t => ∃ u v, t = u ++ v ∧ L u ∧ M v := by
  intro before text groups after
  rw [reads_seq]
  constructor
  · rintro ⟨u, g, v, g', rfl, rfl, hu, hv⟩
    obtain ⟨hL, rfl⟩ := (hp ..).1 hu
    obtain ⟨hM, rfl⟩ := (hq ..).1 hv
    exact ⟨⟨u, v, rfl, hL, hM⟩, rfl⟩
  · rintro ⟨⟨u, v, rfl, hu, hv⟩, rfl⟩
    exact ⟨u, [], v, [], rfl, rfl, (hp ..).2 ⟨hu, rfl⟩, (hq ..).2 ⟨hv, rfl⟩⟩

/-- Such a pattern occurs in a text if and only if it accepts a part of it. -/
theorem Accepts.occursIn_iff {p : Pattern} {L : List Char → Prop} (hp : p.Accepts L)
    {s : List Char} : p.occursIn s = true ↔ Text.HasPart L s := by
  rw [Pattern.occursIn_iff]
  constructor
  · rintro ⟨skipped, text, groups, after, rfl, h⟩
    exact ⟨text, ⟨skipped, after, rfl⟩, ((hp ..).1 h).1⟩
  · rintro ⟨t, ⟨skipped, after, rfl⟩, h⟩
    exact ⟨skipped, t, [], after, rfl, (hp ..).2 ⟨h, rfl⟩⟩

/-! ## Whole words -/

section WholeWord

variable {t : List Char} (hne : t ≠ []) (ht : ∀ c ∈ t, Text.isWord c = true)
include hne ht

theorem isBoundary_before_word (before : Option Char) (after : List Char) :
    Place.isBoundary ⟨before, t ++ after⟩ = true ↔ before.any Text.isWord = false := by
  obtain ⟨c, u, rfl⟩ := List.exists_cons_of_ne_nil hne
  have hc : Text.isWord c = true := ht c List.mem_cons_self
  simp [Place.isBoundary, hc]

theorem isBoundary_behind_word (before : Option Char) (after : List Char) :
    Place.isBoundary ⟨lastChar before t, after⟩ = true ↔
      after.head?.any Text.isWord = false := by
  have hlast : Text.isWord (t.getLast hne) = true := ht _ (List.getLast_mem hne)
  simp [Place.isBoundary, lastChar, List.getLast?_eq_some_getLast hne, hlast]

end WholeWord

section Word

variable {word : String} (hne : word.toList ≠ []) (hw : Text.lettersOnly word = true)
include hne hw

/-- A whole word is read where the characters around it do not extend it. -/
theorem reads_wholeWord {before : Option Char} {text : List Char} {groups : List (List Char)}
    {after : List Char} : (wholeWord word).Reads before text groups after ↔
      Text.AnyCase word text ∧ groups = [] ∧ before.any Text.isWord = false ∧
        after.head?.any Text.isWord = false := by
  constructor
  · rintro ⟨_, _, _, _, rfl, rfl, ⟨_, _, t, _, rfl, rfl, ⟨rfl, rfl, hstart⟩, hread⟩, rfl, rfl,
      hend⟩
    obtain ⟨ht, rfl⟩ := reads_keyword.1 hread
    have hword := Text.isWord_of_anyCase hw ht
    rw [List.nil_append, isBoundary_behind_word (Text.AnyCase.ne_nil hne ht) hword] at hend
    rw [isBoundary_before_word (Text.AnyCase.ne_nil hne ht) hword] at hstart
    rw [List.nil_append, List.append_nil]
    exact ⟨ht, rfl, hstart, hend⟩
  · rintro ⟨ht, rfl, hstart, hend⟩
    have hword := Text.isWord_of_anyCase hw ht
    refine ⟨text, [], [], [], by simp, rfl, ⟨[], [], text, [], rfl, rfl, ⟨rfl, rfl, ?_⟩,
      reads_keyword.2 ⟨ht, rfl⟩⟩, rfl, rfl, ?_⟩
    · rwa [isBoundary_before_word (Text.AnyCase.ne_nil hne ht) hword]
    · rwa [isBoundary_behind_word (Text.AnyCase.ne_nil hne ht) hword]

/-- A whole word is a run of word characters that the characters around it do not extend. -/
theorem occursIn_wholeWord_iff (s : List Char) :
    (wholeWord word).occursIn s = true ↔ Text.HasWord word s := by
  have hbefore (before : List Char) : lastChar none before = before.getLast? := Option.or_none
  rw [occursIn_iff]
  constructor
  · rintro ⟨before, t, groups, after, rfl, hread⟩
    obtain ⟨ht, -, hstart, hend⟩ := (reads_wholeWord hne hw).1 hread
    rw [hbefore] at hstart
    exact ⟨before, t, after, rfl, ht, Text.isWord_of_anyCase hw ht, hstart, hend⟩
  · rintro ⟨before, t, after, rfl, ht, -, hstart, hend⟩
    rw [← hbefore] at hstart
    exact ⟨before, t, [], after, rfl, (reads_wholeWord hne hw).2 ⟨ht, rfl, hstart, hend⟩⟩

end Word

end Pattern

/-! ## The idioms -/

namespace Catalog

open Pattern

/-- A semicolon, then perhaps blank characters, then `DROP`. -/
def IsStackedDrop (t : List Char) : Prop :=
  ∃ gap word, t = ';' :: (gap ++ word) ∧ Text.Blank gap ∧ Text.AnyCase "DROP" word

/-- Nothing, or one single or double quote. -/
def IsOptionalQuote (t : List Char) : Prop :=
  t = [] ∨ t = ['\''] ∨ t = ['"']

/-- `OR` and blank characters, then two characters with an equals sign between them. There may be
quotes before each of them and behind the first, and blank characters around the sign. A quote
behind the second makes no difference to whether this is part of a text. -/
def IsTautology (side : Char → Prop) (t : List Char) : Prop :=
  ∃ (word gap q₁ : List Char) (x : Char) (q₂ left right q₃ : List Char) (y : Char),
    t = word ++ gap ++ q₁ ++ [x] ++ q₂ ++ left ++ ['='] ++ right ++ q₃ ++ [y] ∧
    Text.AnyCase "OR" word ∧ gap ≠ [] ∧ Text.Blank gap ∧ Text.Blank left ∧ Text.Blank right ∧
    IsOptionalQuote q₁ ∧ IsOptionalQuote q₂ ∧ IsOptionalQuote q₃ ∧ side x ∧ side y

/-- What an idiom is called, and in which texts it occurs. -/
structure Meaning where
  description : String
  occursIn : List Char → Prop

/-- The meanings of the idioms, in their order. -/
def meanings : List Meaning := [
  ⟨"SQL comment (--)", ("--".toList <:+: ·)⟩,
  ⟨"Block comment start (/*)", ("/*".toList <:+: ·)⟩,
  ⟨"Block comment end (*/)", ("*/".toList <:+: ·)⟩,
  ⟨"SQL Server extended procedure (xp_)", Text.HasPart (Text.AnyCase "xp_")⟩,
  ⟨"SQL Server system procedure (sp_)", Text.HasPart (Text.AnyCase "sp_")⟩,
  ⟨"UNION", Text.HasWord "UNION"⟩,
  ⟨"DROP", Text.HasWord "DROP"⟩,
  ⟨"DROP after semicolon", Text.HasPart IsStackedDrop⟩,
  ⟨"OR 1=1 pattern", Text.HasPart (IsTautology (· = '1'))⟩,
  ⟨"OR 'x'='x' pattern", Text.HasPart (IsTautology Text.IsLatin)⟩]

theorem accepts_blank : (run .blank).Accepts Text.Blank :=
  accepts_run .blank

theorem accepts_optionalQuote : (perhaps .quote).Accepts IsOptionalQuote := by
  refine (accepts_perhaps .quote).congr fun t => ?_
  simp only [IsOptionalQuote, CharClass.has, Bool.or_eq_true, beq_iff_eq]
  grind

theorem accepts_stackedDrop : (sign ';' ++ run .blank ++ keyword "DROP").Accepts IsStackedDrop := by
  refine (((accepts_sign ';').seq accepts_blank).seq (accepts_keyword "DROP")).congr fun t => ?_
  constructor
  · rintro ⟨_, word, rfl, ⟨_, gap, rfl, rfl, hgap⟩, hword⟩
    exact ⟨gap, word, rfl, hgap, hword⟩
  · rintro ⟨gap, word, rfl, hgap, hword⟩
    exact ⟨';' :: gap, word, rfl, ⟨[';'], gap, rfl, rfl, hgap⟩, hword⟩

/-- A tautology, and perhaps one more quote behind it. -/
theorem accepts_tautology {k : CharClass} {side : Char → Prop}
    (hk : ∀ c, k.has c = true ↔ side c) : (tautology k).Accepts fun t =>
      ∃ u q, t = u ++ q ∧ IsTautology side u ∧ IsOptionalQuote q := by
  have hside : (one k).Accepts fun t => ∃ c, side c ∧ t = [c] :=
    (accepts_one k).congr fun t => by simp only [hk]
  have hleft := (((((accepts_keyword "OR").seq (accepts_run1 .blank)).seq
    accepts_optionalQuote).seq hside).seq accepts_optionalQuote).seq accepts_blank
  have hright := (((hleft.seq (accepts_sign '=')).seq accepts_blank).seq accepts_optionalQuote).seq
    hside
  refine (hright.seq accepts_optionalQuote).congr fun t => ?_
  constructor
  · rintro ⟨_, q, rfl, ⟨_, _, rfl, ⟨_, q₃, rfl, ⟨_, right, rfl, ⟨_, _, rfl, ⟨_, left, rfl, ⟨_, q₂,
      rfl, ⟨_, _, rfl, ⟨_, q₁, rfl, ⟨word, gap, rfl, hword, hne, hgap⟩, h₁⟩, x, hx, rfl⟩, h₂⟩,
      hleft⟩, rfl⟩, hright⟩, h₃⟩, y, hy, rfl⟩, hq⟩
    exact ⟨_, q, rfl, ⟨word, gap, q₁, x, q₂, left, right, q₃, y, rfl, hword, hne, hgap, hleft,
      hright, h₁, h₂, h₃, hx, hy⟩, hq⟩
  · rintro ⟨_, q, rfl, ⟨word, gap, q₁, x, q₂, left, right, q₃, y, rfl, hword, hne, hgap, hleft,
      hright, h₁, h₂, h₃, hx, hy⟩, hq⟩
    exact ⟨_, q, rfl, ⟨_, _, rfl, ⟨_, q₃, rfl, ⟨_, right, rfl, ⟨_, _, rfl, ⟨_, left, rfl, ⟨_, q₂,
      rfl, ⟨_, _, rfl, ⟨_, q₁, rfl, ⟨word, gap, rfl, hword, hne, hgap⟩, h₁⟩, x, hx, rfl⟩, h₂⟩,
      hleft⟩, rfl⟩, hright⟩, h₃⟩, y, hy, rfl⟩, hq⟩

theorem occursIn_tautology_iff {k : CharClass} {side : Char → Prop}
    (hk : ∀ c, k.has c = true ↔ side c) (s : List Char) :
    (tautology k).occursIn s = true ↔ Text.HasPart (IsTautology side) s := by
  rw [(accepts_tautology hk).occursIn_iff]
  constructor
  · rintro ⟨_, ⟨x, y, rfl⟩, u, q, rfl, hu, -⟩
    exact ⟨u, ⟨x, q ++ y, by simp⟩, hu⟩
  · rintro ⟨u, hs, hu⟩
    exact ⟨u, hs, u, [], (List.append_nil u).symm, hu, .inl rfl⟩

theorem occursIn_text_iff (text : String) (s : List Char) :
    (Pattern.text text).occursIn s = true ↔ text.toList <:+: s := by
  rw [(accepts_text text).occursIn_iff]
  simp [Text.HasPart]

/-- The pattern of an idiom occurs in a text if and only if the idiom does. -/
theorem forall₂_meanings : List.Forall₂ (fun (i : Idiom) (m : Meaning) =>
    i.description = m.description ∧ ∀ s, i.pattern.occursIn s = true ↔ m.occursIn s)
    idioms meanings := by
  have hunion : ∀ s, (wholeWord "UNION").occursIn s = true ↔ Text.HasWord "UNION" s :=
    occursIn_wholeWord_iff (by decide) (by decide)
  have hdrop : ∀ s, (wholeWord "DROP").occursIn s = true ↔ Text.HasWord "DROP" s :=
    occursIn_wholeWord_iff (by decide) (by decide)
  have hdigit : ∀ c, (CharClass.exactly '1').has c = true ↔ c = '1' := fun c => beq_iff_eq
  have hletter : ∀ c, CharClass.latin.has c = true ↔ Text.IsLatin c := fun c => by
    simp [CharClass.has, Text.IsLatin]
  exact .cons ⟨rfl, occursIn_text_iff "--"⟩ <| .cons ⟨rfl, occursIn_text_iff "/*"⟩ <|
    .cons ⟨rfl, occursIn_text_iff "*/"⟩ <|
    .cons ⟨rfl, fun s => (accepts_keyword "xp_").occursIn_iff⟩ <|
    .cons ⟨rfl, fun s => (accepts_keyword "sp_").occursIn_iff⟩ <|
    .cons ⟨rfl, hunion⟩ <| .cons ⟨rfl, hdrop⟩ <|
    .cons ⟨rfl, fun s => accepts_stackedDrop.occursIn_iff⟩ <|
    .cons ⟨rfl, occursIn_tautology_iff hdigit⟩ <| .cons ⟨rfl, occursIn_tautology_iff hletter⟩ .nil

open Classical in
/-- The idioms whose patterns occur in a text are those that occur in it, in the same order. -/
theorem descriptions_eq (s : List Char) :
    (idioms.filter fun i => i.pattern.occursIn s).map Idiom.description =
      (meanings.filter fun m => m.occursIn s).map Meaning.description := by
  have h := forall₂_meanings
  generalize idioms = is, meanings = ms at h ⊢
  induction h with
  | nil => rfl
  | @cons i m is ms him _ ih =>
    obtain ⟨hdesc, hoccurs⟩ := him
    have hi : i.pattern.occursIn s = decide (m.occursIn s) := by
      rw [Bool.eq_iff_iff, hoccurs, decide_eq_true_iff]
    simp only [List.filter_cons, hi]
    split
    · rw [List.map_cons, List.map_cons, ih, hdesc]
    · exact ih

end Catalog

end SqlAudit
