import SqlAudit.Proofs.Audit.Injected
import SqlAudit.Proofs.Pattern.Unique
import SqlAudit.Proofs.Remedy.Due
import SqlAudit.Proofs.Text.Words

/-!
# Whole words

A pattern for a whole word looks for a boundary of word characters, the word in any case, and a
boundary again. It finds the words of a text that are this word. Main statements:

* `Pattern.texts_occurrences_wholeWord`, `Pattern.occursIn_wholeWord_iff_mem_words`: all occurrences
  are these words in their order, and there is one if and only if there is such a word;
* `Audit.joins_mem_notes_iff`: how many joins a verbose audit tells of;
* `Validator.infos_of_validate`: what a report tells are notes on the query, and one on an alert;
* `Validator.joins_told_iff`: how many joins a verbose report tells of, by its messages;
* `whole_words_found`: what is counted as a join, and when the idioms that are single words occur.
-/

namespace SqlAudit

/-! ## Occurrences -/

namespace Pattern

open Text

section WholeWord

variable {word : String} (hne : word.toList ≠ []) (hw : lettersOnly word = true)
include hne hw

/-- A whole word is found at a place if the run of word characters ahead is that word and has not
started before. -/
theorem first?_wholeWord (before : Option Char) (s : List Char) :
    ((wholeWord word).first? ⟨before, s⟩).map Reading.text =
      if before.any isWord = false ∧ AnyCase word (s.takeWhile isWord) then
        some (s.takeWhile isWord)
      else none := by
  cases hfirst : (wholeWord word).first? ⟨before, s⟩ with
  | some r =>
    obtain ⟨hs, -, hr⟩ := reads_of_first? hfirst
    obtain ⟨ht, -, hb, ha⟩ := (reads_wholeWord hne hw).1 hr
    have hrun : s.takeWhile isWord = r.text := by
      rw [show s = r.text ++ r.next.ahead from hs]
      exact takeWhile_of_ends (k := .word) (isWord_of_anyCase hw ht) ha
    rw [hrun, if_pos ⟨hb, ht⟩, Option.map_some]
  | none =>
    rw [if_neg, Option.map_none]
    rintro ⟨hb, ht⟩
    refine first?_eq_none_iff.1 hfirst (s.takeWhile isWord) [] (s.dropWhile isWord)
      List.takeWhile_append_dropWhile.symm ?_
    exact (reads_wholeWord hne hw).2 ⟨ht, rfl, hb, any_head?_dropWhile s⟩

/-- Where the scanner for a whole word finds it, it leaves out the rest of the word; anywhere else
it goes on with the next character. -/
theorem texts_occurrencesFrom_cons (start : Nat) (before : Option Char) (c : Char) (s : List Char) :
    ((wholeWord word).occurrencesFrom start 0 before (c :: s)).map Occurrence.text =
      if before.any isWord = false ∧ AnyCase word ((c :: s).takeWhile isWord) then
        (c :: s).takeWhile isWord ::
          ((wholeWord word).occurrencesFrom (start + 1) (s.takeWhile isWord).length (some c) s).map
            Occurrence.text
      else ((wholeWord word).occurrencesFrom (start + 1) 0 (some c) s).map Occurrence.text := by
  have hfirst := first?_wholeWord hne hw before (c :: s)
  split
  · rename_i h
    rw [if_pos h] at hfirst
    obtain ⟨r, hread, htext⟩ := Option.map_eq_some_iff.1 hfirst
    have hc : isWord c = true := isWord_of_takeWhile_ne_nil (h.2.ne_nil hne)
    have hlength : r.text.length - 1 = (s.takeWhile isWord).length := by
      rw [htext, List.takeWhile_cons_of_pos hc, List.length_cons, Nat.add_sub_cancel]
    simp only [occurrencesFrom, hread, hlength, List.map_cons]
    rw [htext]
  · rename_i h
    rw [if_neg h] at hfirst
    rw [occurrencesFrom_of_none (Option.map_eq_none_iff.1 hfirst)]

/-- The scanner for a whole word meets the words of the text one after another. -/
theorem texts_occurrencesFrom_wholeWord (start : Nat) {skip : Nat} (before : Option Char)
    {s : List Char} (hskip : skip ≤ (s.takeWhile isWord).length)
    (hbefore : 0 < skip → before.any isWord = true) :
    ((wholeWord word).occurrencesFrom start skip before s).map Occurrence.text =
      (wordsFrom before s).filter fun t => AnyCase word t := by
  -- By induction on the text. The characters that are left out belong to a word that has started
  -- already, so that no other word starts among them.
  induction s generalizing start skip before with
  | nil => simp [occurrencesFrom, wordsFrom]
  | cons c s ih =>
    cases skip with
    | succ skip =>
      have hc : isWord c = true := by
        refine isWord_of_takeWhile_ne_nil (s := s) fun hnil => ?_
        rw [hnil] at hskip
        exact absurd hskip (Nat.not_succ_le_zero skip)
      rw [List.takeWhile_cons_of_pos hc, List.length_cons] at hskip
      have hrest := ih (start + 1) (some c) (Nat.le_of_succ_le_succ hskip) fun _ => hc
      rw [occurrencesFrom, hrest, wordsFrom_cons, if_neg]
      rw [hbefore skip.succ_pos]
      exact fun h => Bool.noConfusion h.1
    | zero =>
      have hnext := ih (start + 1) (some c) (Nat.zero_le _) fun h => absurd h (Nat.lt_irrefl 0)
      rw [texts_occurrencesFrom_cons hne hw, wordsFrom_cons]
      by_cases hstart : before.any isWord = false ∧ isWord c = true
      · rw [if_pos hstart]
        by_cases ht : AnyCase word ((c :: s).takeWhile isWord)
        · have hrest := ih (start + 1) (some c) (Nat.le_refl _) fun _ => hstart.2
          rw [if_pos ⟨hstart.1, ht⟩, hrest, List.filter_cons_of_pos (by simpa using ht)]
        · rw [if_neg fun h => ht h.2, hnext, List.filter_cons_of_neg (by simpa using ht)]
      · rw [if_neg hstart, if_neg, hnext]
        exact fun h => hstart ⟨h.1, isWord_of_takeWhile_ne_nil (h.2.ne_nil hne)⟩

/-- A whole word occurs as often as it is a word of the text, each time in the case of that word. -/
theorem texts_occurrences_wholeWord (s : List Char) :
    ((wholeWord word).occurrences s).map Occurrence.text =
      (words s).filter fun t => AnyCase word t :=
  texts_occurrencesFrom_wholeWord hne hw 0 none (Nat.zero_le _) fun h => absurd h (Nat.lt_irrefl 0)

/-- A whole word occurs if and only if it is a word of the text. -/
theorem occursIn_wholeWord_iff_mem_words (s : List Char) :
    (wholeWord word).occursIn s = true ↔ ∃ t ∈ words s, AnyCase word t := by
  rw [occursIn_wholeWord_iff hne hw]
  constructor
  · rintro ⟨before, t, after, hs, ht, hword, hb, ha⟩
    exact ⟨t, mem_words_iff.2 ⟨before, after, hs, ht.ne_nil hne, hword, hb, ha⟩, ht⟩
  · rintro ⟨t, hmem, ht⟩
    obtain ⟨before, after, hs, -, hword, hb, ha⟩ := mem_words_iff.1 hmem
    exact ⟨before, t, after, hs, ht, hword, hb, ha⟩

end WholeWord

end Pattern

/-! ## Joins in a report -/

/-- The joins of a query are the words of its text that are `JOIN` in any case. -/
theorem Structure.joinCount_eq (sql : List Char) :
    joinCount sql = (Text.words sql).countP fun t => Text.AnyCase "JOIN" t := by
  have htexts : (Catalog.joinKeyword.occurrences sql).map Occurrence.text =
      (Text.words sql).filter fun t => Text.AnyCase "JOIN" t :=
    Pattern.texts_occurrences_wholeWord (by decide) (by decide) sql
  rw [joinCount, ← List.length_map Occurrence.text, htexts, List.countP_eq_length_filter]

/-- A selection with joins has one note on their number. -/
theorem Structure.joins_mem_notes_iff {parameterized : Bool} {sql : List Char} {n : Nat} :
    Note.joins n ∈ notes parameterized sql ↔
      Statement.kind sql = .select ∧ 0 < n ∧ n = joinCount sql := by
  have hkind : Note.joins n ∈ notes parameterized sql ↔
      Note.joins n ∈ kindNotes parameterized sql := by
    simp [notes, quoteNotes]
  rw [hkind, kindNotes]
  cases hk : Statement.kind sql with
  | select =>
    simp only [true_and]
    grind
  | insert =>
    cases insert? sql <;> simp only [Option.elim, insertNotes] <;> grind
  | update | delete => grind
  | other => simp

/-- A verbose audit tells of joins if and only if the query is a selection with such words. -/
theorem Audit.joins_mem_notes_iff {loud : Bool} {q : Query} {n : Nat} :
    Note.joins n ∈ notes loud true q ↔ Statement.kind q.text.toList = .select ∧ 0 < n ∧
      n = (Text.words q.text.toList).countP fun t => Text.AnyCase "JOIN" t := by
  rw [← Statement.kind_trim, ← Text.words_trim, ← Structure.joinCount_eq]
  cases hs : (Text.trim q.text.toList).isEmpty with
  | true =>
    rw [notes_of_blank hs, List.isEmpty_iff.1 hs]
    refine iff_of_false List.not_mem_nil fun h => ?_
    exact absurd h.1 (by decide)
  | false =>
    have hbinding (p : Params) (sql : List Char) : Note.joins n ∉ Binding.notes p sql := by
      simp [Binding.notes, Binding.countNotes, Binding.valueNote]
    have hinjection (b : Bool) (sql : List Char) : Note.joins n ∉ Injection.notes b sql := by
      simp [Injection.notes]
    rw [notes_of_text hs, notes_remarks, if_pos rfl, List.mem_append, List.mem_append,
      List.mem_append, Structure.joins_mem_notes_iff]
    grind

/-- The number of joins in its message tells the note. -/
theorem Note.eq_joins_of_message {m : Note} {n : Nat}
    (h : m.message = "SELECT: " ++ toString n ++ " JOIN(s) detected") : m = .joins n := by
  have hlead : Leads 'S' 'E' m.message := by
    rw [h]
    exact .append (.append .literal)
  have hother {c d : Char} (hcd : ¬(c = 'S' ∧ d = 'E')) (hm : Leads c d m.message) : m = .joins n :=
    absurd (hm.unique hlead) hcd
  cases m with
  | joins k =>
    have hk : "SELECT: " ++ toString k ++ " JOIN(s) detected" =
        "SELECT: " ++ toString n ++ " JOIN(s) detected" := h
    have hlist := congrArg String.toList hk
    simp only [String.toList_append, List.append_assoc, List.append_cancel_left_eq] at hlist
    rw [Text.eq_of_toString_append (by simp) (by simp) hlist]
  | parameterizedQuery | updateWithWhere | deleteWithWhere | parameterHeading =>
    exact hother (by decide) .literal
  | parameterCount | statementType | targetTable | positionalPlaceholders | namedPlaceholders |
      placeholderNames | hardcodedValues | literalCount | alertSent =>
    exact hother (by decide) (.append .literal)
  | excerpt | balancedParentheses => exact hother (by decide) (.append (.append .literal))
  | insertPlaceholders | insertValues | perfectMatch | literalAnalyzed =>
    exact hother (by decide) (.append (.append (.append (.append .literal))))
  | parameter => exact hother (by decide) (.append (.append (.append (.append (.append .literal)))))
  | pairedQuotes quote =>
    cases quote <;> exact hother (by decide) (.append (.append (.append .literal)))

namespace Validator

/-- What a report tells are the notes on the query, and perhaps one on an alert. -/
theorem infos_of_validate {o : Options} (ho : o.Audits) {verbose : Bool}
    (hv : Field.bool o.verbose = .ok verbose) (v : Validator) (wire : Wire) (now : Timestamp)
    (q : Query) : ∃ r alerts, (v.validate wire now (.query q) o).result = .ok r ∧
      r.infos = (Audit.notes o.verbose.isTruthy verbose q ++ alerts).map Note.finding ∧
      ∀ n ∈ alerts, ∃ name, n = .alertSent name := by
  obtain ⟨c, hc⟩ := ho.context
  let r := Audit.inspect o.verbose.isTruthy (Audit.draft now q verbose c)
  have hrun : Audit.run now (.query q) o = .ok r :=
    (Audit.run_eq_ok_iff ho.enabled).2 ⟨q, verbose, c, rfl, hv, hc, rfl⟩
  have hinfos : r.infos = (Audit.notes o.verbose.isTruthy verbose q).map Note.finding :=
    Audit.infos_inspect ..
  have hquiet : r.infos = (Audit.notes o.verbose.isTruthy verbose q ++ []).map Note.finding := by
    rw [List.append_nil, hinfos]
  rw [validate, hrun]
  obtain ⟨_ | channel⟩ := v
  · exact ⟨r, [], rfl, hquiet, fun _ h => absurd h List.not_mem_nil⟩
  · by_cases hr : r.errors.isEmpty
    · refine ⟨r, [], ?_, hquiet, fun _ h => absurd h List.not_mem_nil⟩
      simp only [finish, hr, if_true]
    · simp only [finish, hr, Bool.false_eq_true, if_false]
      cases (channel.dispatch wire r).failure with
      | none =>
        refine ⟨_, [.alertSent channel.name], rfl, ?_, fun n hn => ⟨_, List.mem_singleton.1 hn⟩⟩
        rw [List.map_append, ← hinfos]
        rfl
      | some reason => exact ⟨_, [], rfl, hquiet, fun _ h => absurd h List.not_mem_nil⟩

/-- A verbose report on a selection tells how many of its words are `JOIN` in any case, unless there
are none; one on another statement does not. -/
theorem joins_told_iff {o : Options} (ho : o.Audits) (hv : Field.bool o.verbose = .ok true)
    (v : Validator) (wire : Wire) (now : Timestamp) (q : Query) :
    ∃ r, (v.validate wire now (.query q) o).result = .ok r ∧ ∀ n : Nat,
      (∃ f ∈ r.infos, f.message = "SELECT: " ++ toString n ++ " JOIN(s) detected") ↔
        Statement.kind q.text.toList = .select ∧ 0 < n ∧
          n = (Text.words q.text.toList).countP fun t => Text.AnyCase "JOIN" t := by
  obtain ⟨r, alerts, hr, hinfos, halerts⟩ := v.infos_of_validate ho hv wire now q
  refine ⟨r, hr, fun n => ?_⟩
  rw [hinfos, ← Audit.joins_mem_notes_iff]
  constructor
  · rintro ⟨f, hf, hmessage⟩
    obtain ⟨m, hm, rfl⟩ := List.mem_map.1 hf
    obtain rfl := Note.eq_joins_of_message hmessage
    obtain hm | hm := List.mem_append.1 hm
    · exact hm
    · obtain ⟨name, hname⟩ := halerts _ hm
      cases hname
  · intro hm
    exact ⟨_, List.mem_map_of_mem (List.mem_append_left alerts hm), rfl⟩

end Validator

/-! ## Words that are found -/

/-- A word of a text is one of its longest runs of word characters. The keyword that joins tables
occurs as often as a word is `JOIN` in any case. A verbose report on a selection tells this number,
unless it is zero, and a verbose report on another statement tells none. The idioms `UNION` and
`DROP` occur in a text if and only if one of its words is that word in any case. -/
theorem whole_words_found (s : List Char) :
    (Catalog.joinKeyword.occurrences s).length =
      (Text.words s).countP (fun t => Text.AnyCase "JOIN" t) ∧
    (∀ (v : Validator) (wire : Wire) (now : Timestamp) (o : Options) (q : Query), o.Audits →
      Field.bool o.verbose = .ok true → q.text = String.ofList s →
      ∃ r, (v.validate wire now (.query q) o).result = .ok r ∧ ∀ n : Nat,
        (∃ f ∈ r.infos, f.message = "SELECT: " ++ toString n ++ " JOIN(s) detected") ↔
          Statement.kind s = .select ∧ 0 < n ∧
            n = (Text.words s).countP fun t => Text.AnyCase "JOIN" t) ∧
    ∀ word ∈ ["UNION", "DROP"], ∃ i, Catalog.idioms.find? (fun i => i.description = word) = some i ∧
      (i.pattern.occursIn s = true ↔ ∃ t ∈ Text.words s, Text.AnyCase word t) := by
  refine ⟨Structure.joinCount_eq s, ?_, ?_⟩
  · intro v wire now o q ho hv hq
    have htold := v.joins_told_iff ho hv wire now q
    rwa [hq, String.toList_ofList] at htold
  · intro word hword
    obtain rfl | rfl : word = "UNION" ∨ word = "DROP" := by simpa using hword
    · exact ⟨⟨"UNION", .wholeWord "UNION"⟩, rfl,
        Pattern.occursIn_wholeWord_iff_mem_words (by decide) (by decide) s⟩
    · exact ⟨⟨"DROP", .wholeWord "DROP"⟩, rfl,
        Pattern.occursIn_wholeWord_iff_mem_words (by decide) (by decide) s⟩

/-- Words are told from longer ones, in any case and also with a letter that counts as an `I` by its
case only. -/
theorem joins_among_longer_words :
    let s := "select joint, union_id from a JOIN b Jo\u0131n c\nON joins = join;drop".toList
    (∃ r, (Validator.silent.validate {} ⟨2024, 1, 2, 3, 4, 5, 0⟩ (.query (.raw (String.ofList s)))
        { verbose := .bool true }).result = .ok r ∧
      ∃ f ∈ r.infos, f.message = "SELECT: 3 JOIN(s) detected") ∧
    (∃ i, Catalog.idioms.find? (fun i => i.description = "UNION") = some i ∧
      i.pattern.occursIn s = false) ∧
    ∃ i, Catalog.idioms.find? (fun i => i.description = "DROP") = some i ∧
      i.pattern.occursIn s = true := by
  intro s
  obtain ⟨-, hreport, hidioms⟩ := whole_words_found s
  obtain ⟨r, hr, htold⟩ := hreport .silent {} ⟨2024, 1, 2, 3, 4, 5, 0⟩ { verbose := .bool true }
    (.raw (String.ofList s)) ⟨rfl, ⟨true, rfl⟩, ⟨none, rfl⟩⟩ rfl rfl
  obtain ⟨i, hi, hunion⟩ := hidioms "UNION" (by decide)
  obtain ⟨j, hj, hdrop⟩ := hidioms "DROP" (by decide)
  refine ⟨⟨r, hr, (htold 3).2 ⟨by decide, by decide, by decide⟩⟩, ⟨i, hi, ?_⟩, j, hj, ?_⟩
  · rw [Bool.eq_false_iff, ne_eq, hunion]
    decide
  · rw [hdrop]
    decide

end SqlAudit
