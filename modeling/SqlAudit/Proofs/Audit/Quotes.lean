import Mathlib.Data.List.Basic
import SqlAudit.Proofs.Audit.Codes
import SqlAudit.Proofs.Statement.Literals

/-!
# Literals and unpaired quotes

What the scanner for literals and the check of quotes have to do with each other. Main statements:

* `Statement.literals_eq_segments`: the literals of a text are its segments between quotes at the odd
  positions below the number of quotes;
* `Statement.literals_append_of_paired`: what stands behind paired quotes is scanned as if it stood
  alone;
* `Audit.exists_unpairedSingleQuotes_iff`: when a raw query is reported for its quotes;
* `literals_split_at_quotes`: all of this of one text, and that its literals take all quotes but the
  one that is reported.
-/

namespace SqlAudit

/-- The odd positions of a list are picked one after another. -/
theorem oddItems_eq_filterMap {α : Type} (xs : List α) : oddItems xs =
    ((List.range xs.length).filter fun i => i % 2 = 1).filterMap fun i => xs[i]? := by
  fun_induction oddItems xs with
  | case1 x y xs ih =>
    have hrange : List.range (x :: y :: xs).length =
        0 :: 1 :: (List.range xs.length).map (· + 2) := by
      rw [List.length_cons, List.length_cons, List.range_succ_eq_map, List.range_succ_eq_map]
      simp
    have hodd : (fun i => decide (i % 2 = 1)) ∘ (· + 2) = fun i => decide (i % 2 = 1) := by
      funext i
      simp
    rw [hrange, List.filter_cons_of_neg (by decide), List.filter_cons_of_pos (by decide),
      List.filter_map, hodd, List.filterMap_cons, List.filterMap_map, ih]
    rfl
  | case2 xs h =>
    cases xs with
    | nil => rfl
    | cons x xs =>
      cases xs with
      | nil => rfl
      | cons y xs => exact (h x y xs rfl).elim

namespace Statement

/-- The literals are the segments between quotes at the positions 1, 3, 5 and so on below the number
of quotes. -/
theorem literals_eq_segments (sql : List Char) : literals sql =
    ((List.range (sql.count '\'')).filter fun i => i % 2 = 1).filterMap
      fun i => (sql.splitOn '\'')[i]? := by
  have hlength : (sql.splitOn '\'').dropLast.length = sql.count '\'' := by
    rw [List.length_dropLast, length_splitOn, Nat.add_sub_cancel]
  rw [literals_eq, oddItems_eq_filterMap, hlength]
  refine List.filterMap_congr fun i hi => ?_
  have hlt : i < sql.count '\'' := List.mem_range.1 (List.mem_filter.1 hi).1
  rw [List.getElem?_dropLast, length_splitOn, if_pos (by omega)]

/-- What stands behind paired quotes is scanned as if it stood alone. -/
theorem literals_append_of_paired {a : List Char} (ha : a.count '\'' % 2 = 0) (b : List Char) :
    literals (a ++ b) = literals a ++ literals b := by
  -- By induction on the length of the first text: its first literal takes two quotes off it, and the
  -- quotes behind that literal are paired again.
  induction hn : a.length using Nat.strongRecOn generalizing a with
  | ind n ih =>
    by_cases hq : '\'' ∈ a
    · obtain ⟨p, s, rfl, hp⟩ := List.eq_append_cons_of_mem hq
      have hp0 : p.count '\'' = 0 := List.count_eq_zero.2 hp
      rw [List.count_append, List.count_cons_self, hp0] at ha
      have hs : '\'' ∈ s := by
        rw [← List.count_pos_iff]
        omega
      obtain ⟨content, rest, rfl, hc⟩ := List.eq_append_cons_of_mem hs
      rw [List.count_append, List.count_cons_self, List.count_eq_zero.2 hc] at ha
      have hlen : rest.length < n := by
        simp only [List.length_append, List.length_cons] at hn
        omega
      have hassoc : p ++ '\'' :: (content ++ '\'' :: rest) ++ b =
          p ++ '\'' :: (content ++ '\'' :: (rest ++ b)) := by simp
      rw [hassoc, literals_append (by omega) hc, literals_append (by omega) hc,
        ih _ hlen (by omega) rfl, List.append_assoc, List.cons_append]
    · have hnil : literals a = [] := by
        have h := literals_append_left hq []
        rwa [List.append_nil] at h
      rw [literals_append_left hq, hnil, List.nil_append]

end Statement

/-! ## Quotes that are reported -/

namespace Structure

theorem exists_mem_quoteFaults_iff {sql : List Char} :
    (∃ f ∈ quoteFaults sql, f.code = .unpairedSingleQuotes) ↔ sql.count '\'' % 2 = 1 := by
  have hsign : Quote.single.sign = '\'' := rfl
  constructor
  · rintro ⟨f, hf, hcode⟩
    obtain ⟨quote, -, hf⟩ := List.mem_flatMap.1 hf
    cases quote with
    | single =>
      by_contra hodd
      rw [hsign, if_pos (by omega)] at hf
      exact absurd hf List.not_mem_nil
    | double =>
      obtain rfl : f = .unpairedQuotes .double (sql.count Quote.double.sign) := by grind
      cases hcode
  · intro hodd
    refine ⟨.unpairedQuotes .single (sql.count '\''), ?_, rfl⟩
    refine List.mem_flatMap.2 ⟨.single, List.mem_cons_self, ?_⟩
    rw [hsign, if_neg (by omega)]
    exact List.mem_singleton_self _

end Structure

namespace Audit

/-- A raw query is reported for its single quotes if and only if their number is odd. -/
theorem exists_unpairedSingleQuotes_iff {t : String} :
    (∃ f ∈ faults (.raw t), f.code = .unpairedSingleQuotes) ↔ t.toList.count '\'' % 2 = 1 := by
  rw [← Text.count_trim (by decide) t.toList]
  cases hs : (Text.trim t.toList).isEmpty with
  | true =>
    rw [faults_of_blank (q := .raw t) hs, List.isEmpty_iff.1 hs]
    simp [Fault.code]
  | false =>
    rw [← Structure.exists_mem_quoteFaults_iff, faults_raw hs, Injection.faults,
      if_neg Bool.false_ne_true, Structure.faults, if_neg Bool.false_ne_true]
    constructor
    · rintro ⟨f, hf, hcode⟩
      rw [List.mem_append, List.mem_append, List.mem_append, List.mem_append, List.mem_flatMap] at hf
      rcases hf with ((hf | hf) | hf) | ⟨l, -, hf⟩ | hf
      · obtain rfl : f = .unbalancedParentheses ((Text.trim t.toList).count '(')
          ((Text.trim t.toList).count ')') := by grind [Structure.parenthesisFaults]
        cases hcode
      · exact ⟨f, hf, hcode⟩
      · have hkind := (Structure.code_of_mem_kindFaults hf).2
        rw [hcode] at hkind
        cases hkind
      · cases (Injection.code_of_mem_literalFaults hf).symm.trans hcode
      · cases (Injection.code_of_mem_superglobalFaults hf).symm.trans hcode
    · rintro ⟨f, hf, hcode⟩
      exact ⟨f, List.mem_append_left _ (List.mem_append_left _ (List.mem_append_right _ hf)), hcode⟩

end Audit

/-- Scanning for literals is splitting at quotes. The literals of a text are its segments between
quotes at the positions 1, 3, 5 and so on below the number of quotes, so there is one for every two
quotes. They take all quotes if and only if the check of quotes has nothing to say, or, which is the
same, whoever audits the text as a raw query has no error about its quotes. What stands behind a text
with paired quotes is scanned as if it stood alone. -/
theorem literals_split_at_quotes (sql : List Char) :
    Statement.literals sql =
      ((List.range (sql.count '\'')).filter fun i => i % 2 = 1).filterMap
        (fun i => (sql.splitOn '\'')[i]?) ∧
    (Statement.literals sql).length = sql.count '\'' / 2 ∧
    (2 * (Statement.literals sql).length = sql.count '\'' ↔
      ∀ f ∈ Structure.quoteFaults sql, f.code ≠ .unpairedSingleQuotes) ∧
    (∀ (v : Validator) (wire : Wire) (now : Timestamp) (o : Options), o.Audits → ∃ r,
      (v.validate wire now (.query (.raw (String.ofList sql))) o).result = .ok r ∧
      (2 * (Statement.literals sql).length = sql.count '\'' ↔ ¬ r.HasError .unpairedSingleQuotes)) ∧
    (sql.count '\'' % 2 = 0 → ∀ b,
      Statement.literals (sql ++ b) = Statement.literals sql ++ Statement.literals b) := by
  have hlength := Statement.length_literals sql
  have hall : 2 * (Statement.literals sql).length = sql.count '\'' ↔ ¬ sql.count '\'' % 2 = 1 := by
    omega
  refine ⟨Statement.literals_eq_segments sql, hlength, ?_, fun v wire now o ho => ?_,
    Statement.literals_append_of_paired⟩
  · rw [hall, ← Structure.exists_mem_quoteFaults_iff]
    simp only [not_exists, not_and]
  · obtain ⟨r, hr, herrors, -⟩ :=
      Validator.validate_audits ho (s := .query (.raw (String.ofList sql))) rfl v wire now
    refine ⟨r, hr, ?_⟩
    rw [hall, Report.hasError_iff herrors, Audit.exists_unpairedSingleQuotes_iff,
      String.toList_ofList]

/-- Adjacent quotes hold an empty literal, and a quote that is left open holds none and is
reported. -/
theorem open_quote_reported :
    "a = '' AND b = 'x' ".toList.count '\'' % 2 = 0 ∧
      Statement.literals ("a = '' AND b = 'x' ".toList ++ "'y".toList) = [[], ['x']] ∧
      ∃ r, (Validator.silent.validate {} ⟨2024, 1, 2, 3, 4, 5, 0⟩
          (.query (.raw (String.ofList "'y".toList))) {}).result = .ok r ∧
        r.HasError .unpairedSingleQuotes := by
  obtain ⟨-, -, -, -, happend⟩ := literals_split_at_quotes "a = '' AND b = 'x' ".toList
  obtain ⟨-, hlength, -, hreport, -⟩ := literals_split_at_quotes "'y".toList
  obtain ⟨r, hr, hiff⟩ := hreport .silent {} ⟨2024, 1, 2, 3, 4, 5, 0⟩ {}
    ⟨rfl, ⟨false, rfl⟩, ⟨none, rfl⟩⟩
  refine ⟨by decide, ?_, r, hr, ?_⟩
  · rw [happend (by decide)]
    decide
  · by_contra hnone
    rw [← hiff, hlength] at hnone
    exact absurd hnone (by decide)

end SqlAudit
