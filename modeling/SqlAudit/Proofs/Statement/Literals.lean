import SqlAudit.Proofs.Pattern.Reads
import SqlAudit.Proofs.Text.Trim
import SqlAudit.Statement

/-!
# Literals as segments between quotes

Splitting a text at its single quotes leaves segments that are outside and inside of literals by
turns. `literals_eq` says that the scanner finds those at the odd positions, but for the last
segment, which no quote closes. If quotes are paired, the last segment is outside of a literal
anyway, and the literals are all segments at the odd positions (`mem_literals_iff`). A literal
behind paired quotes comes between the literals of the texts on both its sides (`literals_append`),
and trimming a text leaves its literals alone (`literals_trim`).
-/

namespace SqlAudit

/-- The items of a list at the odd positions, counted from zero. -/
def oddItems {α : Type} : List α → List α
  | _ :: x :: xs => x :: oddItems xs
  | _ => []

theorem mem_oddItems_iff {α : Type} {x : α} {xs : List α} :
    x ∈ oddItems xs ↔ ∃ i : Nat, xs[2 * i + 1]? = some x := by
  fun_induction oddItems xs with
  | case1 y z xs ih =>
    rw [List.mem_cons, ih]
    constructor
    · rintro (rfl | ⟨i, hi⟩)
      · exact ⟨0, rfl⟩
      · exact ⟨i + 1, hi⟩
    · rintro ⟨_ | i, hi⟩
      · exact .inl (Option.some.inj hi).symm
      · exact .inr ⟨i, hi⟩
  | case2 xs h =>
    rw [List.mem_nil_iff, false_iff]
    rintro ⟨i, hi⟩
    match xs, h with
    | [], _ => simp at hi
    | [y], _ => simp at hi
    | y :: z :: xs, h => exact h y z xs rfl

theorem oddItems_modifyHead {α : Type} (f : α → α) (xs : List α) :
    oddItems (xs.modifyHead f) = oddItems xs := by
  match xs with
  | [] => rfl
  | [x] => rfl
  | x :: y :: xs => rfl

/-- The last of an odd number of items is at an even position. -/
theorem oddItems_dropLast {α : Type} {xs : List α} (h : xs.length % 2 = 1) :
    oddItems xs.dropLast = oddItems xs := by
  fun_induction oddItems xs with
  | case1 x y xs ih =>
    have hxs : xs ≠ [] := by
      rintro rfl
      rw [List.length_cons, List.length_singleton] at h
      omega
    rw [List.length_cons, List.length_cons] at h
    rw [List.dropLast_cons_of_ne_nil (List.cons_ne_nil _ _), List.dropLast_cons_of_ne_nil hxs,
      oddItems, ih (by omega)]
  | case2 xs hxs =>
    match xs, hxs with
    | [], _ => rfl
    | [x], _ => rfl
    | x :: y :: xs, hxs => exact (hxs x y xs rfl).elim

theorem length_oddItems {α : Type} : ∀ xs : List α, (oddItems xs).length = xs.length / 2
  | [] => by simp [oddItems]
  | [_] => by simp [oddItems]
  | _ :: _ :: xs => by
    rw [oddItems, List.length_cons, List.length_cons, List.length_cons, length_oddItems xs]
    omega

/-- Behind an odd number of items, the next one is at an odd position. -/
theorem oddItems_append {α : Type} : ∀ {xs : List α}, xs.length % 2 = 1 → ∀ (y : α) (ys : List α),
    oddItems (xs ++ y :: ys) = oddItems xs ++ y :: oddItems ys
  | [_], _, _, _ => rfl
  | _ :: _ :: xs, h, y, ys => by
    have hxs : xs.length % 2 = 1 := by
      rw [List.length_cons, List.length_cons] at h
      omega
    rw [List.cons_append, List.cons_append, oddItems, oddItems_append hxs, oddItems,
      List.cons_append]

theorem length_splitOn (sep : Char) (s : List Char) :
    (s.splitOn sep).length = s.count sep + 1 := by
  induction s with
  | nil => rfl
  | cons c s ih =>
    rw [List.splitOn_cons_eq_if_modifyHead, List.count_cons]
    split
    · rw [List.length_cons, ih]
    · rw [List.length_modifyHead, ih]

namespace Statement

open Pattern

theorem reads_quotedLiteral {before : Option Char} {text : List Char} {groups : List (List Char)}
    {after : List Char} : Catalog.quotedLiteral.Reads before text groups after ↔
      ∃ content, text = '\'' :: (content ++ ['\'']) ∧ '\'' ∉ content ∧ groups = [content] := by
  simp only [Catalog.quotedLiteral, reads_seq, reads_sign, Reads, CharClass.has, bne_iff_ne]
  constructor
  · rintro ⟨t₁, g₁, t₂, g₂, rfl, rfl, ⟨t₃, g₃, t₄, g₄, rfl, rfl, ⟨rfl, rfl⟩, g, rfl, ht, rfl⟩, rfl,
      rfl⟩
    exact ⟨t₄, rfl, fun h => ht _ h rfl, rfl⟩
  · rintro ⟨content, rfl, hq, rfl⟩
    exact ⟨'\'' :: content, [content], ['\''], [], rfl, rfl, ⟨['\''], [], content, [content], rfl,
      rfl, ⟨rfl, rfl⟩, [], rfl, fun c hc he => hq (he ▸ hc), rfl⟩, rfl, rfl⟩

/-- A literal is found up to the next quote. -/
theorem first?_quotedLiteral {content : List Char} (h : '\'' ∉ content) (before : Option Char)
    (s : List Char) :
    Catalog.quotedLiteral.first? ⟨before, '\'' :: (content ++ '\'' :: s)⟩ =
      some ⟨'\'' :: (content ++ ['\'']), [content], ⟨some '\'', s⟩⟩ := by
  have hall : ∀ c ∈ content, (CharClass.except '\'').has c = true := fun c hc =>
    bne_iff_ne.2 fun he => h (he ▸ hc)
  have hq : (CharClass.except '\'').has '\'' = false := rfl
  have htake : (content ++ '\'' :: s).takeWhile (CharClass.except '\'').has = content := by
    rw [List.takeWhile_append_of_pos hall, List.takeWhile_cons, hq, if_neg (by decide),
      List.append_nil]
  have hdrop : (content ++ '\'' :: s).dropWhile (CharClass.except '\'').has = '\'' :: s := by
    rw [List.dropWhile_append_of_pos hall, List.dropWhile_cons, hq, if_neg (by decide)]
  show (Pattern.seq (.seq (.one (.exactly '\'')) (.group (.run (.except '\''))))
    (.one (.exactly '\''))).firstThat _ _ = _
  simp only [firstThat, show (CharClass.exactly '\'').has '\'' = true from rfl, if_true]
  apply firstRun_of_accept
  rw [htake, hdrop]
  rfl

theorem first?_quotedLiteral_eq_none {c : Char} {s : List Char} (h : c ≠ '\'' ∨ '\'' ∉ s)
    (before : Option Char) : Catalog.quotedLiteral.first? ⟨before, c :: s⟩ = none := by
  rw [first?_eq_none_iff]
  intro text groups after hs hr
  obtain ⟨content, rfl, -, -⟩ := reads_quotedLiteral.1 hr
  obtain ⟨rfl, rfl⟩ := List.cons.inj hs
  rcases h with h | h
  · exact h rfl
  · exact h (by simp)

theorem groups_occurrencesFrom_quotedLiteral (start : Nat) (before : Option Char) (s : List Char) :
    (Catalog.quotedLiteral.occurrencesFrom start 0 before s).flatMap Occurrence.groups =
      oddItems (s.splitOn '\'').dropLast := by
  -- By induction on the length: a literal takes two quotes off the text, so that the parity of the
  -- segments behind it is that of the whole text again.
  induction hn : s.length using Nat.strongRecOn generalizing start before s with
  | ind n ih =>
    obtain _ | ⟨c, s⟩ := s
    · rfl
    subst hn
    by_cases hc : c = '\''
    · subst hc
      by_cases hs : '\'' ∈ s
      · obtain ⟨content, rest, rfl, hq⟩ := List.eq_append_cons_of_mem hs
        have hlen : rest.length < ('\'' :: (content ++ '\'' :: rest)).length := by
          rw [List.length_cons, List.length_append, List.length_cons]
          omega
        have hsplit : ('\'' :: (content ++ '\'' :: rest)).splitOn '\'' =
            [] :: content :: rest.splitOn '\'' := by
          rw [List.splitOn_cons_eq_if_modifyHead, if_pos (by decide),
            List.splitOn_append_cons_of_beq _ _ (by decide), List.splitOn_eq_singleton hq,
            List.singleton_append]
        rw [occurrencesFrom_of_some (first?_quotedLiteral hq before rest) (by simp),
          List.flatMap_cons, ih _ hlen _ _ _ rfl, hsplit,
          List.dropLast_cons_of_ne_nil (List.cons_ne_nil _ _),
          List.dropLast_cons_of_ne_nil (List.splitOn_ne_nil _ _)]
        rfl
      · have hsplit : ('\'' :: s).splitOn '\'' = [[], s] := by
          rw [List.splitOn_cons_eq_if_modifyHead, if_pos (by decide), List.splitOn_eq_singleton hs]
        rw [occurrencesFrom_of_none (first?_quotedLiteral_eq_none (.inr hs) before),
          ih _ (by simp) _ _ _ rfl, hsplit, List.splitOn_eq_singleton hs]
        rfl
    · rw [occurrencesFrom_of_none (first?_quotedLiteral_eq_none (.inl hc) before),
        ih _ (by simp) _ _ _ rfl, List.splitOn_cons_eq_if_modifyHead, if_neg (by simpa using hc),
        ← List.modifyHead_dropLast, oddItems_modifyHead]

/-- The literals of a text are the segments between its quotes at the odd positions, without the
last segment. -/
theorem literals_eq (sql : List Char) :
    literals sql = oddItems (sql.splitOn '\'').dropLast :=
  groups_occurrencesFrom_quotedLiteral 0 none sql

/-- If quotes are paired, the literals are all segments between them at the odd positions. -/
theorem mem_literals_iff {sql content : List Char} (h : sql.count '\'' % 2 = 0) :
    content ∈ literals sql ↔ ∃ i : Nat, (sql.splitOn '\'')[2 * i + 1]? = some content := by
  rw [literals_eq, oddItems_dropLast (by rw [length_splitOn]; omega), mem_oddItems_iff]

/-! ## Literals and the text around them -/

/-- Two quotes make a literal. -/
theorem length_literals (sql : List Char) : (literals sql).length = sql.count '\'' / 2 := by
  rw [literals_eq, length_oddItems, List.length_dropLast, length_splitOn, Nat.add_sub_cancel]

/-- A literal behind paired quotes comes after the literals before it and before those after it. -/
theorem literals_append {a content : List Char} (ha : a.count '\'' % 2 = 0) (hc : '\'' ∉ content)
    (b : List Char) :
    literals (a ++ '\'' :: (content ++ '\'' :: b)) = literals a ++ content :: literals b := by
  have hodd : (a.splitOn '\'').length % 2 = 1 := by
    rw [length_splitOn]
    omega
  have hsplit : (a ++ '\'' :: (content ++ '\'' :: b)).splitOn '\'' =
      a.splitOn '\'' ++ content :: b.splitOn '\'' := by
    rw [List.splitOn_append_cons_of_beq _ _ (by decide),
      List.splitOn_append_cons_of_beq _ _ (by decide), List.splitOn_eq_singleton hc,
      List.singleton_append]
  rw [literals_eq, hsplit, List.dropLast_append_of_ne_nil (List.cons_ne_nil _ _),
    List.dropLast_cons_of_ne_nil (List.splitOn_ne_nil _ _), oddItems_append hodd,
    literals_eq, literals_eq, oddItems_dropLast hodd]

theorem literals_cons {c : Char} (h : c ≠ '\'') (sql : List Char) :
    literals (c :: sql) = literals sql := by
  rw [literals_eq, literals_eq, List.splitOn_cons_eq_if_modifyHead, if_neg (by simpa using h),
    ← List.modifyHead_dropLast, oddItems_modifyHead]

theorem literals_append_left {p : List Char} (h : '\'' ∉ p) (sql : List Char) :
    literals (p ++ sql) = literals sql := by
  induction p with
  | nil => rfl
  | cons c p ih =>
    rw [List.mem_cons, not_or] at h
    rw [List.cons_append, literals_cons (Ne.symm h.1), ih h.2]

theorem literals_append_right {p : List Char} (h : '\'' ∉ p) (sql : List Char) :
    literals (sql ++ p) = literals sql := by
  -- What follows the last quote is dropped.
  have hdrop : ((sql ++ p).splitOn '\'').dropLast = (sql.splitOn '\'').dropLast := by
    induction sql with
    | nil =>
      rw [List.nil_append, List.splitOn_eq_singleton h]
      rfl
    | cons c sql ih =>
      rw [List.cons_append, List.splitOn_cons_eq_if_modifyHead, List.splitOn_cons_eq_if_modifyHead]
      split
      · rw [List.dropLast_cons_of_ne_nil (List.splitOn_ne_nil _ _),
          List.dropLast_cons_of_ne_nil (List.splitOn_ne_nil _ _), ih]
      · rw [← List.modifyHead_dropLast, ← List.modifyHead_dropLast, ih]
  rw [literals_eq, literals_eq, hdrop]

/-- Trimming a text leaves its literals alone. -/
theorem literals_trim (sql : List Char) : literals (Text.trim sql) = literals sql := by
  obtain ⟨p, q, hs, hp, hq⟩ := Text.exists_eq_trim sql
  have hquote {p : List Char} (hp : ∀ c ∈ p, Text.isBlank c = true) : '\'' ∉ p := fun h =>
    absurd (hp _ h) (by decide)
  have h := congrArg literals hs
  rw [literals_append_right (hquote hq), literals_append_left (hquote hp)] at h
  exact h.symm

end Statement

end SqlAudit
