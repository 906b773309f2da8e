import SqlAudit.Number.Numeral
import SqlAudit.Proofs.Text.Case

/-!
# The grammar of numerals

What a text must look like to be read as a number. Digits of any script stand in runs (`Run`), with
single underscores between them; an integer is a run of at most `digitLimit` digits with or without
a sign (`IsInteger`), and a floating-point number is a word, or digits with a fraction and an exponent
(`IsFloat`). Main statements:

* `leadingDigits_eq_some_iff`: the longest run at the start of a text is taken;
* `dropSeparators_append_iff`: underscores can be dropped run by run;
* `readInt_eq_ok_iff`, `readFloat_eq_some_iff`: reading accepts the grammar and nothing else.
-/

namespace SqlAudit.Numeral

open SqlAudit.Text

/-! ## Runs of digits -/

/-- Digits with single underscores between them, and the digits alone. -/
inductive Run : List Char → List Char → Prop where
  | last {c : Char} (hc : isDigit c = true) : Run [c] [c]
  | next {c : Char} {s ds : List Char} (hc : isDigit c = true) (hs : Run s ds) :
    Run (c :: s) (c :: ds)
  | separated {c : Char} {s ds : List Char} (hc : isDigit c = true) (hs : Run s ds) :
    Run (c :: '_' :: s) (c :: ds)

/-- A run of digits, or nothing. -/
def Digits (s ds : List Char) : Prop :=
  s = [] ∧ ds = [] ∨ Run s ds

/-- A run of digits cannot go on here. -/
def Ends (s : List Char) : Prop :=
  ∀ c ∈ s.head?, isDigit c = false ∧ c ≠ '_'

theorem ends_nil : Ends [] := by
  intro c hc
  cases hc

theorem ends_cons {c : Char} (hc : isDigit c = false) (hunderscore : c ≠ '_') (s : List Char) :
    Ends (c :: s) := by
  intro d hd
  cases hd
  exact ⟨hc, hunderscore⟩

theorem ne_underscore_of_isDigit {c : Char} (hc : isDigit c = true) : c ≠ '_' := by
  rintro rfl
  exact absurd hc (by decide)

theorem Run.exists_head {s ds : List Char} (h : Run s ds) :
    ∃ c cs, s = c :: cs ∧ isDigit c = true := by
  cases h with
  | last hc => exact ⟨_, _, rfl, hc⟩
  | next hc _ => exact ⟨_, _, rfl, hc⟩
  | separated hc _ => exact ⟨_, _, rfl, hc⟩

theorem Run.ne_nil {s ds : List Char} (h : Run s ds) : ds ≠ [] := by
  cases h <;> exact List.cons_ne_nil _ _

theorem Run.isDigit_of_mem {s ds : List Char} (h : Run s ds) : ∀ c ∈ ds, isDigit c = true := by
  induction h with
  | last hc => exact List.forall_mem_singleton.2 hc
  | next hc _ ih => exact List.forall_mem_cons.2 ⟨hc, ih⟩
  | separated hc _ ih => exact List.forall_mem_cons.2 ⟨hc, ih⟩

theorem Digits.isDigit_of_mem {s ds : List Char} (h : Digits s ds) :
    ∀ c ∈ ds, isDigit c = true := by
  rcases h with ⟨-, rfl⟩ | h
  · exact fun c hc => absurd hc List.not_mem_nil
  · exact h.isDigit_of_mem

theorem Digits.run {s ds : List Char} (h : Digits s ds) (hds : ds ≠ []) : Run s ds :=
  h.resolve_left fun h => hds h.2

/-! ## Reading a run -/

theorem leadingDigits_of_ends {s : List Char} (h : Ends s) (afterDigit : Bool) :
    leadingDigits afterDigit s = some ([], s) := by
  cases s with
  | nil => rfl
  | cons c s =>
    obtain ⟨hc, hunderscore⟩ := h c rfl
    simp [leadingDigits, hc, hunderscore]

/-- A run that ends is read. -/
theorem Run.leadingDigits_append {s ds rest : List Char} (h : Run s ds) (hrest : Ends rest)
    (afterDigit : Bool) : leadingDigits afterDigit (s ++ rest) = some (ds, rest) := by
  induction h generalizing afterDigit with
  | last hc =>
    simp [leadingDigits, hc, ne_underscore_of_isDigit hc, leadingDigits_of_ends hrest]
  | next hc _ ih => simp [leadingDigits, hc, ne_underscore_of_isDigit hc, ih]
  | separated hc hs ih =>
    obtain ⟨d, s, rfl, hd⟩ := hs.exists_head
    have ih := ih false
    rw [List.cons_append] at ih
    simp [leadingDigits.eq_def _ (_ :: '_' :: _), leadingDigits.eq_def _ ('_' :: _), hc, hd,
      ne_underscore_of_isDigit hc, ih]

/-- What is read is a run that ends, or the rest of a run after a digit. -/
theorem leadingDigits_sound {afterDigit : Bool} {s ds rest : List Char}
    (h : leadingDigits afterDigit s = some (ds, rest)) :
    Ends rest ∧ ∃ w, s = w ++ rest ∧ (afterDigit = false → Digits w ds) ∧
      (afterDigit = true → ∀ c, isDigit c = true → Run (c :: w) (c :: ds)) := by
  induction s generalizing afterDigit ds with
  | nil =>
    cases h
    exact ⟨ends_nil, [], rfl, fun _ => .inl ⟨rfl, rfl⟩, fun _ _ => .last⟩
  | cons c s ih =>
    rw [leadingDigits] at h
    split at h
    · next hc =>
      split at h
      · next hnext =>
        -- The underscore stands after a digit, and a digit follows: the rest is a run of its own.
        obtain ⟨hafter, hd⟩ := Bool.and_eq_true_iff.1 hnext
        obtain ⟨hrest, w, rfl, hdigits, -⟩ := ih h
        refine ⟨hrest, c :: w, rfl, fun hf => ?_, fun _ d hdigit => ?_⟩
        · rw [hafter] at hf
          cases hf
        · rw [eq_of_beq hc]
          refine .separated hdigit ((hdigits rfl).run ?_)
          rintro rfl
          rcases hdigits rfl with ⟨rfl, -⟩ | hrun
          · rw [List.nil_append] at hd
            obtain ⟨e, he, hdigit⟩ := (Option.any_eq_true _ _).1 hd
            rw [(hrest e he).1] at hdigit
            cases hdigit
          · exact hrun.ne_nil rfl
      · cases h
    · split at h
      · next hc =>
        obtain ⟨⟨es, rest'⟩, hes, heq⟩ := Option.map_eq_some_iff.1 h
        cases heq
        obtain ⟨hrest, w, rfl, -, hrun⟩ := ih hes
        exact ⟨hrest, c :: w, rfl, fun _ => .inr (hrun rfl c hc),
          fun _ d hd => .next hd (hrun rfl c hc)⟩
      · next hunderscore hc =>
        cases h
        refine ⟨ends_cons (Bool.eq_false_iff.2 hc) (by simpa using hunderscore) s, [], rfl,
          fun _ => .inl ⟨rfl, rfl⟩, fun _ _ => .last⟩

/-- The longest run at the start of a text is taken. -/
theorem leadingDigits_eq_some_iff {s ds rest : List Char} :
    leadingDigits false s = some (ds, rest) ↔ Ends rest ∧ ∃ w, s = w ++ rest ∧ Digits w ds := by
  constructor
  · intro h
    obtain ⟨hrest, w, hs, hdigits, -⟩ := leadingDigits_sound h
    exact ⟨hrest, w, hs, hdigits rfl⟩
  · rintro ⟨hrest, w, rfl, ⟨rfl, rfl⟩ | hrun⟩
    · exact leadingDigits_of_ends hrest false
    · exact hrun.leadingDigits_append hrest false

/-! ## Dropping underscores -/

/-- Underscores are dropped from the run at the start, and then from the rest. -/
theorem dropSeparators_eq_bind (afterDigit : Bool) (s : List Char) :
    dropSeparators afterDigit s = (leadingDigits afterDigit s).bind fun r =>
      (dropSeparators false r.2).map (r.1 ++ ·) := by
  induction s generalizing afterDigit with
  | nil => rfl
  | cons c s ih =>
    rw [dropSeparators, leadingDigits]
    split
    · next hc =>
      split
      · exact ih false
      · rfl
    · next hunderscore =>
      cases hc : isDigit c with
      | true =>
        rw [ih true, if_pos rfl, Option.map_bind, Option.bind_map]
        congr 1
        funext r
        rw [Function.comp_apply, Option.map_map]
        rfl
      | false =>
        rw [if_neg Bool.false_ne_true, Option.bind_some, dropSeparators, if_neg hunderscore, hc]
        exact Option.map_id'.symm

theorem dropSeparators_eq_nil_iff {s : List Char} : dropSeparators false s = some [] ↔ s = [] := by
  cases s with
  | nil => exact iff_of_true rfl rfl
  | cons c s =>
    rw [dropSeparators]
    split <;> simp

theorem dropSeparators_eq_cons_iff {c : Char} {s u : List Char} (hc : isDigit c = false)
    (hunderscore : c ≠ '_') : dropSeparators false s = some (c :: u) ↔
      ∃ r, s = c :: r ∧ dropSeparators false r = some u := by
  constructor
  · intro h
    cases s with
    | nil => cases h
    | cons d s =>
      rw [dropSeparators] at h
      split at h
      · cases h
      · obtain ⟨v, hv, heq⟩ := Option.map_eq_some_iff.1 h
        cases heq
        exact ⟨s, rfl, hc ▸ hv⟩
  · rintro ⟨r, rfl, hr⟩
    simp [dropSeparators, hunderscore, hc, hr]

theorem head?_dropSeparators {s u : List Char} (hs : Ends s) (h : dropSeparators false s = some u) :
    u.head? = s.head? := by
  cases s with
  | nil => cases h; rfl
  | cons c s =>
    obtain ⟨hc, hunderscore⟩ := hs c rfl
    rw [dropSeparators, if_neg (by simpa using hunderscore)] at h
    obtain ⟨v, -, rfl⟩ := Option.map_eq_some_iff.1 h
    rfl

/-- The digits at the start of a text, and the rest. -/
theorem span_append {ds u : List Char} (hds : ∀ c ∈ ds, isDigit c = true) (hu : Ends u) :
    (ds ++ u).takeWhile isDigit = ds ∧ (ds ++ u).dropWhile isDigit = u := by
  have hnone : u.takeWhile isDigit = [] ∧ u.dropWhile isDigit = u := by
    cases u with
    | nil => exact ⟨rfl, rfl⟩
    | cons c u => simp [(hu c rfl).1]
  rw [List.takeWhile_append_of_pos hds, List.dropWhile_append_of_pos hds, hnone.1, hnone.2]
  exact ⟨List.append_nil ds, rfl⟩

/-- Underscores can be dropped run by run. -/
theorem dropSeparators_append_iff {s ds u : List Char} (hds : ∀ c ∈ ds, isDigit c = true)
    (hu : Ends u) : dropSeparators false s = some (ds ++ u) ↔
      ∃ w r, s = w ++ r ∧ Digits w ds ∧ Ends r ∧ dropSeparators false r = some u := by
  rw [dropSeparators_eq_bind]
  constructor
  · intro h
    obtain ⟨⟨es, r⟩, hlead, hmap⟩ := Option.bind_eq_some_iff.1 h
    obtain ⟨v, hv, heq⟩ := Option.map_eq_some_iff.1 hmap
    obtain ⟨hr, w, rfl, hw⟩ := leadingDigits_eq_some_iff.1 hlead
    -- Both sides are split at the first character that is no digit.
    have hends : Ends v := by
      intro c hc
      rw [head?_dropSeparators hr hv] at hc
      exact hr c hc
    have hes := span_append hw.isDigit_of_mem hends
    rw [heq, (span_append hds hu).1, (span_append hds hu).2] at hes
    rw [hes.1, hes.2]
    exact ⟨w, r, rfl, hw, hr, hv⟩
  · rintro ⟨w, r, rfl, hw, hr, hdrop⟩
    rw [leadingDigits_eq_some_iff.2 ⟨hr, w, rfl, hw⟩, Option.bind_some, hdrop, Option.map_some]

/-- A text that is digits without its underscores is a run. -/
theorem dropSeparators_eq_digits_iff {s ds : List Char} (hds : ∀ c ∈ ds, isDigit c = true) :
    dropSeparators false s = some ds ↔ Digits s ds := by
  have h := dropSeparators_append_iff (s := s) hds ends_nil
  rw [List.append_nil] at h
  rw [h]
  constructor
  · rintro ⟨w, r, rfl, hw, -, hr⟩
    rwa [dropSeparators_eq_nil_iff.1 hr, List.append_nil]
  · intro hs
    exact ⟨s, [], (List.append_nil s).symm, hs, ends_nil, rfl⟩

/-! ## Signs -/

/-- A text with or without a sign: whether the sign is a minus, the text, and the text after the
sign. -/
inductive Signed : Bool → List Char → List Char → Prop where
  | bare {s : List Char} : Signed false s s
  | plus {s : List Char} : Signed false ('+' :: s) s
  | minus {s : List Char} : Signed true ('-' :: s) s

/-- A text does not start with a sign. -/
def Unsigned (s : List Char) : Prop :=
  ∀ c ∈ s.head?, c ≠ '+' ∧ c ≠ '-'

theorem signed_splitSign (s : List Char) : Signed (splitSign s).1 s (splitSign s).2 := by
  fun_cases splitSign s
  · exact .minus
  · exact .plus
  · exact .bare

theorem Signed.splitSign_eq {negative : Bool} {s body : List Char} (h : Signed negative s body)
    (hbody : Unsigned body) : splitSign s = (negative, body) := by
  cases h with
  | bare =>
    cases s with
    | nil => rfl
    | cons c s => simp [splitSign, hbody c rfl]
  | plus => rfl
  | minus => rfl

theorem unsigned_of_isDigit {s : List Char} (h : ∀ c ∈ s.head?, isDigit c = true) :
    Unsigned s := by
  intro c hc
  constructor <;> rintro rfl <;> exact absurd (h _ hc) (by decide)

theorem Run.unsigned {s ds : List Char} (h : Run s ds) : Unsigned s := by
  obtain ⟨c, cs, rfl, hc⟩ := h.exists_head
  exact unsigned_of_isDigit fun d hd => Option.some.inj hd ▸ hc

/-! ## Integers -/

/-- A text is an integer of at most `digitLimit` digits. -/
def IsInteger (s : List Char) (n : Int) : Prop :=
  ∃ negative body ds, Signed negative s body ∧ Run body ds ∧ ds.length ≤ digitLimit ∧
    n = if negative then -(natOf ds : Int) else natOf ds

/-- Reading accepts integers and nothing else. -/
theorem readInt_eq_ok_iff {s : List Char} {n : Int} : readInt s = .ok n ↔ IsInteger s n := by
  constructor
  · intro h
    simp only [readInt] at h
    split at h
    · cases h
    · next ds rest hlead =>
      split at h
      · cases h
      · next hlimit =>
        split at h
        · cases h
        · next hshape =>
          obtain ⟨hds, hrest⟩ : ds ≠ [] ∧ rest = [] := by simpa using hshape
          obtain ⟨-, w, hw, hdigits⟩ := leadingDigits_eq_some_iff.1 hlead
          rw [hrest, List.append_nil] at hw
          exact ⟨_, w, ds, hw ▸ signed_splitSign s, hdigits.run hds, Nat.le_of_not_lt hlimit,
            (Except.ok.inj h).symm⟩
  · rintro ⟨negative, body, ds, hsigned, hrun, hlimit, rfl⟩
    have hlead := hrun.leadingDigits_append ends_nil false
    rw [List.append_nil] at hlead
    simp [readInt, hsigned.splitSign_eq hrun.unsigned, hlead, Nat.not_lt.2 hlimit, hrun.ne_nil]

/-! ## Floating-point numbers -/

/-- An exponent: nothing, or the letter e and an integer. -/
inductive Exponent : List Char → Int → Prop where
  | none : Exponent [] 0
  | some {c : Char} {negative : Bool} {s body ds : List Char} (hc : c = 'e' ∨ c = 'E')
    (hs : Signed negative s body) (hbody : Run body ds) :
    Exponent (c :: s) (if negative then -(natOf ds : Int) else natOf ds)

/-- A fraction: nothing, or a point and digits, if any. -/
inductive Fraction : List Char → List Char → Prop where
  | none : Fraction [] []
  | point {s ds : List Char} (hs : Digits s ds) : Fraction ('.' :: s) ds

/-- Digits with a fraction and an exponent; there is a digit before the exponent. -/
def IsDecimal (negative : Bool) (s : List Char) (x : Binary64) : Prop :=
  ∃ w ws f fs e n, s = w ++ (f ++ e) ∧ Digits w ws ∧ Fraction f fs ∧ Exponent e n ∧
    ws ++ fs ≠ [] ∧ x = Binary64.ofDecimal negative (natOf (ws ++ fs)) (n - fs.length)

/-- A text is a floating-point number: a word in any case, or a decimal, with or without a sign. -/
inductive IsFloat (s : List Char) : Binary64 → Prop where
  | nan {negative : Bool} {body : List Char} (hs : Signed negative s body)
    (hbody : uncased body = "nan".toList) : IsFloat s .nan
  | infinity {negative : Bool} {body : List Char} (hs : Signed negative s body)
    (hbody : uncased body = "inf".toList ∨ uncased body = "infinity".toList) :
    IsFloat s (.infinity negative)
  | decimal {negative : Bool} {body : List Char} {x : Binary64} (hs : Signed negative s body)
    (hbody : IsDecimal negative body x) : IsFloat s x

theorem ends_of_exponentSign {c : Char} (hc : c = 'e' ∨ c = 'E') (s : List Char) : Ends (c :: s) := by
  rcases hc with rfl | rfl <;> exact ends_cons (by decide) (by decide) s

theorem Exponent.ends {s : List Char} {n : Int} (h : Exponent s n) : Ends s := by
  cases h with
  | none => exact ends_nil
  | some hc _ _ => exact ends_of_exponentSign hc _

/-- An exponent that can be read is empty or starts with its letter. -/
theorem readExponent_eq_some {u : List Char} {n : Int} (h : readExponent u = some n) :
    u = [] ∧ n = 0 ∨ ∃ c v, u = c :: v ∧ (c = 'e' ∨ c = 'E') ∧ (splitSign v).2 ≠ [] ∧
      (∀ d ∈ (splitSign v).2, isDigit d = true) ∧
      n = if (splitSign v).1 then -(natOf (splitSign v).2 : Int) else natOf (splitSign v).2 := by
  cases u with
  | nil => exact .inl ⟨rfl, (Option.some.inj h).symm⟩
  | cons c v =>
    simp only [readExponent] at h
    split at h
    · next hshape =>
      simp only [Bool.and_eq_true, Bool.or_eq_true, beq_iff_eq, Bool.not_eq_true',
        List.isEmpty_eq_false_iff, List.all_eq_true] at hshape
      exact .inr ⟨c, v, rfl, hshape.1.1, hshape.1.2, hshape.2, (Option.some.inj h).symm⟩
    · cases h

theorem dropSeparators_splitSign {s u : List Char} (h : dropSeparators false s = some u) :
    ∃ body, Signed (splitSign u).1 s body ∧ dropSeparators false body = some (splitSign u).2 := by
  fun_cases splitSign u
  · obtain ⟨r, rfl, hr⟩ := (dropSeparators_eq_cons_iff (by decide) (by decide)).1 h
    exact ⟨r, .minus, hr⟩
  · obtain ⟨r, rfl, hr⟩ := (dropSeparators_eq_cons_iff (by decide) (by decide)).1 h
    exact ⟨r, .plus, hr⟩
  · exact ⟨s, .bare, h⟩

theorem Signed.exists_dropSeparators {negative : Bool} {s body ds : List Char}
    (hs : Signed negative s body) (hbody : Run body ds) :
    ∃ u, dropSeparators false s = some u ∧ splitSign u = (negative, ds) := by
  have hdrop := (dropSeparators_eq_digits_iff hbody.isDigit_of_mem).2 (.inr hbody)
  cases hs with
  | bare =>
    refine ⟨ds, hdrop, Signed.bare.splitSign_eq (unsigned_of_isDigit fun c hc => ?_)⟩
    exact hbody.isDigit_of_mem c (List.mem_of_head? hc)
  | plus =>
    refine ⟨'+' :: ds, ?_, rfl⟩
    exact (dropSeparators_eq_cons_iff (by decide) (by decide)).2 ⟨_, rfl, hdrop⟩
  | minus =>
    refine ⟨'-' :: ds, ?_, rfl⟩
    exact (dropSeparators_eq_cons_iff (by decide) (by decide)).2 ⟨_, rfl, hdrop⟩

/-- Reading accepts exponents and nothing else. -/
theorem exists_readExponent_iff {s : List Char} {n : Int} :
    (∃ u, dropSeparators false s = some u ∧ readExponent u = some n) ↔ Exponent s n := by
  constructor
  · rintro ⟨u, hu, hread⟩
    obtain ⟨rfl, rfl⟩ | ⟨c, v, rfl, hc, hne, hdigits, rfl⟩ := readExponent_eq_some hread
    · rw [dropSeparators_eq_nil_iff.1 hu]
      exact .none
    · obtain ⟨hdigit, hunderscore⟩ := ends_of_exponentSign hc v c rfl
      obtain ⟨r, rfl, hr⟩ := (dropSeparators_eq_cons_iff hdigit hunderscore).1 hu
      obtain ⟨body, hsigned, hbody⟩ := dropSeparators_splitSign hr
      exact .some hc hsigned (((dropSeparators_eq_digits_iff hdigits).1 hbody).run hne)
  · intro h
    cases h with
    | none => exact ⟨[], rfl, rfl⟩
    | @some c negative s body ds hc hs hbody =>
      obtain ⟨hdigit, hunderscore⟩ := ends_of_exponentSign hc s c rfl
      obtain ⟨u, hu, hsplit⟩ := hs.exists_dropSeparators hbody
      refine ⟨c :: u, (dropSeparators_eq_cons_iff hdigit hunderscore).2 ⟨s, rfl, hu⟩, ?_⟩
      have hshape : ((c == 'e' || c == 'E') && !ds.isEmpty && ds.all isDigit) = true := by
        simp only [Bool.and_eq_true, Bool.or_eq_true, beq_iff_eq, Bool.not_eq_true',
          List.isEmpty_eq_false_iff, List.all_eq_true]
        exact ⟨⟨hc, hbody.ne_nil⟩, hbody.isDigit_of_mem⟩
      simp only [readExponent, hsplit, hshape, if_true]

/-- A decimal without underscores, part by part. -/
theorem readDecimal_append {negative : Bool} {ws f fs e : List Char}
    (hws : ∀ c ∈ ws, isDigit c = true) (hfs : ∀ c ∈ fs, isDigit c = true)
    (hf : f = [] ∧ fs = [] ∨ f = '.' :: fs) (he : Ends e) (hpoint : e.head? ≠ some '.') :
    readDecimal negative (ws ++ (f ++ e)) = if ws ++ fs = [] then none else
      (readExponent e).map fun n =>
        Binary64.ofDecimal negative (natOf (ws ++ fs)) (n - fs.length) := by
  rcases hf with ⟨rfl, rfl⟩ | rfl
  · obtain ⟨hwhole, hrest⟩ := span_append hws he
    simp [readDecimal, hwhole, hrest, hpoint]
  · obtain ⟨hwhole, hrest⟩ := span_append hws
      (ends_cons (c := '.') (by decide) (by decide) (fs ++ e))
    obtain ⟨hfraction, hrest'⟩ := span_append hfs he
    simp [readDecimal, hwhole, hrest, hfraction, hrest']

/-- The parts of a decimal without underscores that can be read. -/
theorem readDecimal_eq_some {negative : Bool} {t : List Char} {x : Binary64}
    (h : readDecimal negative t = some x) : ∃ ws f fs e n, t = ws ++ (f ++ e) ∧
      (∀ c ∈ ws, isDigit c = true) ∧ (∀ c ∈ fs, isDigit c = true) ∧
      (f = [] ∧ fs = [] ∨ f = '.' :: fs) ∧ readExponent e = some n ∧ ws ++ fs ≠ [] ∧
      x = Binary64.ofDecimal negative (natOf (ws ++ fs)) (n - fs.length) := by
  have hdigits (u : List Char) : ∀ c ∈ u.takeWhile isDigit, isDigit c = true :=
    List.all_eq_true.1 List.all_takeWhile
  have ht := (List.takeWhile_append_dropWhile (p := isDigit) (l := t)).symm
  simp only [readDecimal] at h
  by_cases hpoint : (t.dropWhile isDigit).head? = some '.'
  · obtain ⟨r, hr⟩ := List.head?_eq_some_iff.1 hpoint
    simp only [hr, List.head?_cons, beq_self_eq_true, if_true, List.tail_cons] at h
    split at h
    · cases h
    · next hne =>
      obtain ⟨n, hn, rfl⟩ := Option.map_eq_some_iff.1 h
      refine ⟨_, _, _, _, n, ?_, hdigits t, hdigits r, .inr rfl, hn, by simpa using hne, rfl⟩
      rw [List.cons_append, List.takeWhile_append_dropWhile, ← hr]
      exact ht
  · simp only [beq_eq_false_iff_ne.2 hpoint, Bool.false_eq_true, if_false] at h
    split at h
    · cases h
    · next hne =>
      obtain ⟨n, hn, rfl⟩ := Option.map_eq_some_iff.1 h
      refine ⟨_, [], [], _, n, ht, hdigits t, by simp, .inl ⟨rfl, rfl⟩, hn, by simpa using hne, rfl⟩

theorem ends_of_readExponent {e : List Char} {n : Int} (h : readExponent e = some n) :
    Ends e ∧ e.head? ≠ some '.' := by
  obtain ⟨rfl, -⟩ | ⟨c, v, rfl, hc, -⟩ := readExponent_eq_some h
  · exact ⟨ends_nil, by decide⟩
  · refine ⟨ends_of_exponentSign hc v, ?_⟩
    rcases hc with rfl | rfl <;> simp

/-- Reading accepts decimals and nothing else. -/
theorem bind_readDecimal_eq_some_iff {negative : Bool} {s : List Char} {x : Binary64} :
    (dropSeparators false s).bind (readDecimal negative) = some x ↔ IsDecimal negative s x := by
  have hdot (u : List Char) : Ends ('.' :: u) := ends_cons (by decide) (by decide) u
  have hcons {r u : List Char} := dropSeparators_eq_cons_iff (c := '.') (s := r) (u := u)
    (by decide) (by decide)
  rw [Option.bind_eq_some_iff]
  constructor
  · rintro ⟨t, ht, hread⟩
    obtain ⟨ws, f, fs, u, n, rfl, hws, hfs, hf, hn, hne, rfl⟩ := readDecimal_eq_some hread
    obtain ⟨hends, -⟩ := ends_of_readExponent hn
    rcases hf with ⟨rfl, rfl⟩ | rfl
    · obtain ⟨w, e, rfl, hw, -, he⟩ := (dropSeparators_append_iff hws hends).1 ht
      exact ⟨w, ws, [], [], e, n, rfl, hw, .none, exists_readExponent_iff.1 ⟨u, he, hn⟩, hne, rfl⟩
    · obtain ⟨w, r, rfl, hw, -, hr⟩ := (dropSeparators_append_iff hws (hdot _)).1 ht
      obtain ⟨r, rfl, htail⟩ := hcons.1 hr
      obtain ⟨f, e, rfl, hf, -, he⟩ := (dropSeparators_append_iff hfs hends).1 htail
      exact ⟨w, ws, '.' :: f, fs, e, n, rfl, hw, .point hf, exists_readExponent_iff.1 ⟨u, he, hn⟩,
        hne, rfl⟩
  · rintro ⟨w, ws, f, fs, e, n, rfl, hw, hf, he, hne, rfl⟩
    obtain ⟨u, hu, hn⟩ := exists_readExponent_iff.2 he
    obtain ⟨hends, hpoint⟩ := ends_of_readExponent hn
    cases hf with
    | none =>
      refine ⟨ws ++ ([] ++ u), ?_, ?_⟩
      · rw [List.nil_append, List.nil_append]
        exact (dropSeparators_append_iff hw.isDigit_of_mem hends).2 ⟨w, e, rfl, hw, he.ends, hu⟩
      rw [readDecimal_append hw.isDigit_of_mem (by simp) (.inl ⟨rfl, rfl⟩) hends hpoint,
        if_neg hne, hn, Option.map_some]
    | @point f _ hf =>
      have htail : dropSeparators false (f ++ e) = some (fs ++ u) :=
        (dropSeparators_append_iff hf.isDigit_of_mem hends).2 ⟨f, e, rfl, hf, he.ends, hu⟩
      refine ⟨ws ++ ('.' :: fs ++ u), (dropSeparators_append_iff hw.isDigit_of_mem (hdot _)).2
        ⟨w, _, rfl, hw, hdot _, hcons.2 ⟨_, rfl, htail⟩⟩, ?_⟩
      rw [readDecimal_append hw.isDigit_of_mem hf.isDigit_of_mem (.inr rfl) hends hpoint,
        if_neg hne, hn, Option.map_some]

/-! ## Words -/

theorem isDigit_toLower (c : Char) : isDigit c.toLower = isDigit c :=
  apply_toLower (by decide) c

/-- A decimal starts with a digit or a point. -/
theorem IsDecimal.exists_head {negative : Bool} {s : List Char} {x : Binary64}
    (h : IsDecimal negative s x) : ∃ c cs, s = c :: cs ∧ (isDigit c = true ∨ c = '.') := by
  obtain ⟨w, ws, f, fs, e, n, rfl, ⟨rfl, rfl⟩ | hw, hf, -, hne, -⟩ := h
  · cases hf with
    | none => exact absurd rfl hne
    | point hf => exact ⟨'.', _, rfl, .inr rfl⟩
  · obtain ⟨c, cs, rfl, hc⟩ := hw.exists_head
    exact ⟨c, _, rfl, .inl hc⟩

/-- The words for numbers that are not finite, in small letters. -/
def words : List (List Char) :=
  ["nan".toList, "inf".toList, "infinity".toList]

theorem toLower_of_uncased_mem_words {c : Char} {s : List Char} (h : uncased (c :: s) ∈ words) :
    c.toLower = 'n' ∨ c.toLower = 'i' := by
  have hhead : some c.toLower ∈ words.map List.head? := List.mem_map_of_mem h
  simpa [words] using hhead

theorem unsigned_of_uncased_mem_words {s : List Char} (h : uncased s ∈ words) : Unsigned s := by
  intro c hc
  obtain ⟨s, rfl⟩ := List.head?_eq_some_iff.1 hc
  have hlower := toLower_of_uncased_mem_words h
  constructor <;> rintro rfl <;> exact absurd hlower (by decide)

/-- A decimal is neither signed nor a word. -/
theorem IsDecimal.unsigned_not_word {negative : Bool} {s : List Char} {x : Binary64}
    (h : IsDecimal negative s x) : Unsigned s ∧ uncased s ∉ words := by
  obtain ⟨c, s, rfl, hc⟩ := h.exists_head
  constructor
  · intro d hd
    cases hd
    constructor <;> rintro rfl <;> exact absurd hc (by decide)
  · intro hword
    rcases hc with hc | rfl
    · rw [← isDigit_toLower] at hc
      rcases toLower_of_uncased_mem_words hword with h | h <;> exact absurd (h ▸ hc) (by decide)
    · exact absurd (toLower_of_uncased_mem_words hword) (by decide)

/-- Reading accepts floating-point numbers and nothing else. -/
theorem readFloat_eq_some_iff {s : List Char} {x : Binary64} :
    readFloat s = some x ↔ IsFloat s x := by
  have hword (body : List Char) (word : String) :
      String.ofList (body.map Char.toLower) = word ↔ uncased body = word.toList := by
    rw [← String.toList_inj, String.toList_ofList, uncased]
  simp only [readFloat, beq_iff_eq, Bool.or_eq_true, hword]
  constructor
  · intro h
    split at h
    · next hnan => exact Option.some.inj h ▸ .nan (signed_splitSign s) hnan
    · split at h
      · next hinf => exact Option.some.inj h ▸ .infinity (signed_splitSign s) hinf
      · exact .decimal (signed_splitSign s) (bind_readDecimal_eq_some_iff.1 h)
  · intro h
    cases h with
    | nan hs hbody =>
      have hmem := hbody ▸ (by decide : "nan".toList ∈ words)
      rw [hs.splitSign_eq (unsigned_of_uncased_mem_words hmem), if_pos hbody]
    | @infinity negative body hs hbody =>
      obtain ⟨hmem, hnan⟩ : uncased body ∈ words ∧ uncased body ≠ "nan".toList := by
        rcases hbody with h | h <;> rw [h] <;> decide
      rw [hs.splitSign_eq (unsigned_of_uncased_mem_words hmem), if_neg hnan, if_pos hbody]
    | decimal hs hbody =>
      obtain ⟨hunsigned, hword⟩ := hbody.unsigned_not_word
      rw [hs.splitSign_eq hunsigned, if_neg, if_neg, bind_readDecimal_eq_some_iff.2 hbody]
      · rintro (h | h) <;> exact hword (h ▸ by decide)
      · exact fun h => hword (h ▸ by decide)

end SqlAudit.Numeral
