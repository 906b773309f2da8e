import Mathlib.Data.List.Infix
import SqlAudit.Proofs.Audit.Insert
import SqlAudit.Proofs.Remedy.Fit
import SqlAudit.Proofs.Statement.Literals
import SqlAudit.Proofs.Validator.Alerts

/-!
# The remedy that a text calls for

A suggestion is chosen by the codes of the findings of a report. `Remedy.due` is the choice that the
text and the parameters of a query call for, without any report. Main statements:

* `Structure.exists_deleteWithoutWhere_iff` and its likes: what a code says about the text;
* `Remedy.of_inspect_parameterized`, `Remedy.of_inspect_raw`: the remedy of a report is the one that
  the text calls for;
* `suggestion_due`: the suggestion of every verbose report of a query. There is no report if remarks
  on a parameter show an integer of too many digits (`huge_parameter_without_suggestion`).
-/

namespace SqlAudit

/-! ## What calls for a remedy -/

namespace Statement

/-- The query has a `SELECT`, blank characters and an asterisk in a row. -/
def SelectsAll (sql : List Char) : Prop :=
  Text.HasPart (fun part => ∃ select gap, part = select ++ gap ++ ['*'] ∧
    Text.AnyCase "SELECT" select ∧ gap ≠ [] ∧ Text.Blank gap) sql

theorem selectStar_occursIn_iff {sql : List Char} :
    Catalog.selectStar.occursIn sql = true ↔ SelectsAll sql := by
  have haccepts : Catalog.selectStar.Accepts fun part => ∃ select gap,
      part = select ++ gap ++ ['*'] ∧ Text.AnyCase "SELECT" select ∧ gap ≠ [] ∧ Text.Blank gap := by
    refine (((Pattern.accepts_keyword "SELECT").seq (Pattern.accepts_run1 .blank)).seq
      (Pattern.accepts_sign '*')).congr fun part => ?_
    constructor
    · rintro ⟨_, _, rfl, ⟨select, gap, rfl, hselect, hne, hgap⟩, rfl⟩
      exact ⟨select, gap, rfl, hselect, hne, hgap⟩
    · rintro ⟨select, gap, rfl, hselect, hne, hgap⟩
      exact ⟨_, _, rfl, ⟨select, gap, rfl, hselect, hne, hgap⟩, rfl⟩
  exact haccepts.occursIn_iff

instance (sql : List Char) : Decidable (SelectsAll sql) :=
  decidable_of_iff _ selectStar_occursIn_iff

theorem kind_trim (sql : List Char) : kind (Text.trim sql) = kind sql := by
  obtain ⟨a, b, hs, ha, hb⟩ := Text.exists_eq_trim sql
  have htoken := Text.firstToken_padded ha hb (Text.trim sql)
  rw [← hs] at htoken
  rw [kind, kind, typeName, typeName, htoken]

theorem hasWhere_eq_false_iff {sql : List Char} :
    hasWhere sql = false ↔ ¬ "WHERE".toList <:+: Text.upper sql := by
  rw [← hasWhere_iff, Bool.not_eq_true]

end Statement

namespace Structure

open Statement

/-- The first insert statement of the query has other numbers of fields and of placeholders. -/
def FieldsUnmatched (sql : List Char) : Prop :=
  ∃ (i : Insert) (offset : Nat) (text : List Char), i.IsFirst sql offset text ∧
    i.fields.count ',' + 1 ≠ i.valueCount true

theorem any_insert?_iff {sql : List Char} :
    ((insert? sql).any fun i => i.fields.count ',' + 1 ≠ i.valueCount true) = true ↔
      FieldsUnmatched sql := by
  rw [Option.any_eq_true]
  constructor
  · rintro ⟨i, hi, hne⟩
    obtain ⟨offset, text, hfirst⟩ := insert?_eq_some_iff.1 hi
    exact ⟨i, offset, text, hfirst, of_decide_eq_true hne⟩
  · rintro ⟨i, offset, text, hfirst, hne⟩
    exact ⟨i, insert?_eq_some_iff.2 ⟨offset, text, hfirst⟩, decide_eq_true hne⟩

instance (sql : List Char) : Decidable (FieldsUnmatched sql) :=
  decidable_of_iff _ any_insert?_iff

/-! ## What codes say about a text -/

theorem exists_insertFault_iff {sql : List Char} :
    (∃ f ∈ faults true sql, f.code.kind? = some .insert) ↔
      kind sql = .insert ∧ FieldsUnmatched sql := by
  constructor
  · rintro ⟨f, hf, hcode⟩
    obtain ⟨hkind, i, hi, hmem⟩ := mem_faults_insert_iff.1 ⟨hf, hcode⟩
    obtain ⟨offset, text, hfirst⟩ := insert?_eq_some_iff.1 hi
    refine ⟨hkind, i, offset, text, hfirst, fun heq => ?_⟩
    rw [insertFaults_eq, if_pos heq] at hmem
    exact absurd hmem List.not_mem_nil
  · rintro ⟨hkind, i, offset, text, hfirst, hne⟩
    have hmem : mismatch true (i.fields.count ',' + 1) (i.valueCount true) ∈
        insertFaults true i := by
      rw [insertFaults_eq, if_neg hne]
      exact List.mem_singleton_self _
    exact ⟨_, mem_faults_insert_iff.2
      ⟨hkind, i, insert?_eq_some_iff.2 ⟨offset, text, hfirst⟩, hmem⟩⟩

theorem exists_deleteWithoutWhere_iff {parameterized : Bool} {sql : List Char} :
    (∃ f ∈ faults parameterized sql, f.code = .deleteWithoutWhere) ↔
      kind sql = .delete ∧ hasWhere sql = false := by
  constructor
  · rintro ⟨f, hf, hcode⟩
    obtain ⟨hkind, hf⟩ := mem_kindFaults_of_kind? (k := .delete) hf (by rw [hcode]; rfl)
    refine ⟨hkind, Bool.eq_false_iff.2 fun hwhere => ?_⟩
    simp only [kindFaults, hkind, hwhere, if_true, List.not_mem_nil] at hf
  · rintro ⟨hkind, hwhere⟩
    refine ⟨.deleteWithoutWhere, List.mem_append_right _ ?_, rfl⟩
    rw [kindFaults, hkind, hwhere]
    exact List.mem_singleton_self _

theorem exists_updateWithoutWhere_iff {sql : List Char} :
    (∃ c ∈ cautions sql, c.code = .updateWithoutWhere) ↔
      kind sql = .update ∧ hasWhere sql = false := by
  constructor
  · rintro ⟨c, hc, hcode⟩
    have hkind := (code_of_mem_cautions hc).2 .update (by rw [hcode]; rfl)
    refine ⟨hkind, Bool.eq_false_iff.2 fun hwhere => ?_⟩
    simp only [cautions, hkind, updateCautions, hwhere, if_true, List.nil_append,
      List.mem_append] at hc
    grind [Caution.code]
  · rintro ⟨hkind, hwhere⟩
    refine ⟨.updateWithoutWhere, List.mem_append_right _ ?_, rfl⟩
    rw [hkind, updateCautions, hwhere]
    exact List.mem_append_left _ (List.mem_singleton_self _)

theorem exists_selectStar_iff {sql : List Char} :
    (∃ c ∈ cautions sql, c.code = .selectStar) ↔ kind sql = .select ∧ SelectsAll sql := by
  rw [← selectStar_occursIn_iff]
  constructor
  · rintro ⟨c, hc, hcode⟩
    have hkind := (code_of_mem_cautions hc).2 .select (by rw [hcode]; rfl)
    refine ⟨hkind, ?_⟩
    by_contra hstar
    simp only [cautions, hkind, hstar, if_false, List.append_nil] at hc
    grind [Caution.code]
  · rintro ⟨hkind, hstar⟩
    refine ⟨.selectStar, List.mem_append_right _ ?_, rfl⟩
    rw [hkind, hstar]
    exact List.mem_singleton_self _

end Structure

open Statement in
theorem Binding.exists_hardcodedLiteral_iff {p : Params} {sql : List Char} :
    (∃ c ∈ cautions p sql, c.code = .hardcodedLiteral) ↔ 2 ≤ sql.count '\'' := by
  have hcount : (literals sql).isEmpty = false ↔ 2 ≤ sql.count '\'' := by
    rw [← Bool.not_eq_true, List.isEmpty_iff, ← List.length_eq_zero_iff, length_literals]
    omega
  rw [← hcount]
  constructor
  · rintro ⟨c, hc, hcode⟩
    rcases List.mem_append.1 hc with hc | hc
    · obtain ⟨e, -, he⟩ := List.mem_flatMap.1 hc
      have hvalue := code_of_mem_valueCautions he
      rw [hcode] at hvalue
      exact absurd hvalue (by decide)
    · by_contra hempty
      rw [if_pos (Bool.not_eq_false _ ▸ hempty)] at hc
      exact absurd hc List.not_mem_nil
  · intro hne
    refine ⟨.hardcodedLiteral, List.mem_append_right _ ?_, rfl⟩
    rw [hne]
    exact List.mem_singleton_self _

/-! ## The findings of a report -/

namespace Audit

section Parameterized

variable {t : String} (hs : (Text.trim t.toList).isEmpty = false) (p : Params) (now : Timestamp)
  (context : Option Context)
include hs

/-- Codes that neither bindings nor cautions have are those of faults in the structure. -/
theorem found_iff_structure_fault {code : Code} (hw : code ∉ Code.ofWarnings true)
    (hb : code ∉ Binding.faultCodes) (hn : code ≠ .notificationSent) :
    (inspect true (draft now (.parameterized t p) true context)).found code = true ↔
      ∃ f ∈ Structure.faults true (Text.trim t.toList), f.code = code := by
  rw [found_inspect_iff _ _ _ _ _ hn, faults_parameterized hs]
  constructor
  · rintro (⟨f, hf, rfl⟩ | ⟨c, hc, rfl⟩)
    · refine ⟨f, (List.mem_append.1 hf).resolve_right fun hf => ?_, rfl⟩
      exact hb (Binding.code_of_mem_faults hf)
    · exact absurd (code_of_mem_cautions (q := .parameterized t p) hs hc).1 hw
  · rintro ⟨f, hf, hcode⟩
    exact .inl ⟨f, List.mem_append_left _ hf, hcode⟩

/-- Codes that faults do not have are those of cautions. -/
theorem found_iff_caution {code : Code} (he : code ∉ Code.ofTextErrors true)
    (hn : code ≠ .notificationSent) :
    (inspect true (draft now (.parameterized t p) true context)).found code = true ↔
      ∃ c ∈ cautions (.parameterized t p), c.code = code := by
  rw [found_inspect_iff _ _ _ _ _ hn]
  refine or_iff_right ?_
  rintro ⟨f, hf, rfl⟩
  exact he (code_of_mem_faults (q := .parameterized t p) hs hf).1

theorem found_iff_structure_caution {code : Code} (hc : code ∈ Structure.cautionCodes) :
    (inspect true (draft now (.parameterized t p) true context)).found code = true ↔
      ∃ c ∈ Structure.cautions (Text.trim t.toList), c.code = code := by
  have hcodes : ∀ code ∈ Structure.cautionCodes, code ∉ Code.ofTextErrors true ∧
      code ≠ .notificationSent ∧ code ∉ Code.hardcodedLiteral :: Binding.valueCodes ∧
      code ∉ Injection.commentCodes := by decide
  obtain ⟨he, hn, hb, hi⟩ := hcodes code hc
  rw [found_iff_caution hs p now context he hn, cautions_parameterized hs]
  constructor
  · rintro ⟨c, hmem, rfl⟩
    rcases List.mem_append.1 hmem with hmem | hmem
    · refine ⟨c, (List.mem_append.1 hmem).resolve_right fun hmem => ?_, rfl⟩
      exact hb (Binding.code_of_mem_cautions hmem)
    · exact absurd (Injection.code_of_mem_commentCautions hmem) hi
  · rintro ⟨c, hmem, hcode⟩
    exact ⟨c, List.mem_append_left _ (List.mem_append_left _ hmem), hcode⟩

theorem found_mismatch_iff :
    (inspect true (draft now (.parameterized t p) true context)).found .placeholderCountMismatch =
      true ↔ Statement.placeholderCount (Text.trim t.toList) ≠ p.size := by
  rw [found_inspect_iff _ _ _ _ _ (by decide), exists_mismatch_iff,
    Statement.placeholderCount_trim]
  constructor
  · rintro (⟨-, hne⟩ | ⟨c, -, hcode⟩)
    · exact hne
    · exact absurd hcode c.code_ne_placeholderCountMismatch
  · exact fun hne => .inl ⟨hs, hne⟩

theorem found_insert_iff :
    let r := inspect true (draft now (.parameterized t p) true context)
    (r.found .insertPlaceholderCountMismatch || r.found .insertValueCountMismatch) = true ↔
      Statement.kind (Text.trim t.toList) = .insert ∧
        Structure.FieldsUnmatched (Text.trim t.toList) := by
  intro r
  rw [← Structure.exists_insertFault_iff, Bool.or_eq_true,
    found_iff_structure_fault hs p now context (by decide) (by decide) (by decide),
    found_iff_structure_fault hs p now context (by decide) (by decide) (by decide)]
  simp only [Code.kind?_eq_insert_iff, List.mem_cons, List.not_mem_nil, or_false, and_or_left,
    exists_or]

theorem found_hardcodedLiteral_iff :
    (inspect true (draft now (.parameterized t p) true context)).found .hardcodedLiteral = true ↔
      2 ≤ (Text.trim t.toList).count '\'' := by
  rw [found_iff_caution hs p now context (by decide) (by decide), cautions_parameterized hs,
    ← Binding.exists_hardcodedLiteral_iff (p := p)]
  have hstructure : Code.hardcodedLiteral ∉ Structure.cautionCodes := by decide
  have hcomments : Code.hardcodedLiteral ∉ Injection.commentCodes := by decide
  constructor
  · rintro ⟨c, hmem, hcode⟩
    rcases List.mem_append.1 hmem with hmem | hmem
    · refine ⟨c, (List.mem_append.1 hmem).resolve_left fun hmem => ?_, hcode⟩
      exact hstructure (hcode ▸ (Structure.code_of_mem_cautions hmem).1)
    · exact absurd (hcode ▸ Injection.code_of_mem_commentCautions hmem) hcomments
  · rintro ⟨c, hmem, hcode⟩
    exact ⟨c, List.mem_append_left _ (List.mem_append_right _ hmem), hcode⟩

end Parameterized

end Audit

/-! ## The remedy of a report -/

namespace Remedy

open Statement Structure

/-- The remedy that the text and the parameters of a query call for: the first that applies. -/
def due (t : String) (p : Params) : Option Remedy :=
  let sql := Text.trim t.toList
  let token := Text.upper (Text.firstToken sql)
  if sql.count '?' + Text.nameCount ':' sql ≠ p.size then some (.fitParameters t p)
  else if token = "INSERT".toList ∧ FieldsUnmatched sql then some .matchFields
  else if token = "DELETE".toList ∧ ¬ "WHERE".toList <:+: Text.upper sql then some .restrictDelete
  else if token = "UPDATE".toList ∧ ¬ "WHERE".toList <:+: Text.upper sql then some .restrictUpdate
  else if token = "SELECT".toList ∧ SelectsAll sql then some .nameColumns
  else if 2 ≤ sql.count '\'' then some .bindLiterals
  else none

/-- The codes of a report of a parameterized query lead to the remedy that its text calls for. -/
theorem of_inspect_parameterized {t : String} (hs : (Text.trim t.toList).isEmpty = false)
    (p : Params) (now : Timestamp) (context : Option Context) :
    Remedy.of (Audit.inspect true (Audit.draft now (.parameterized t p) true context)) =
      due t p := by
  have hmismatch := Audit.found_mismatch_iff hs p now context
  have hinsert := Audit.found_insert_iff hs p now context
  have hdelete := Audit.found_iff_structure_fault hs p now context
    (by decide : Code.deleteWithoutWhere ∉ Code.ofWarnings true) (by decide) (by decide)
  have hupdate := Audit.found_iff_structure_caution hs p now context
    (by decide : Code.updateWithoutWhere ∈ Structure.cautionCodes)
  have hselect := Audit.found_iff_structure_caution hs p now context
    (by decide : Code.selectStar ∈ Structure.cautionCodes)
  have hliteral := Audit.found_hardcodedLiteral_iff hs p now context
  rw [exists_deleteWithoutWhere_iff, hasWhere_eq_false_iff, kind_eq_iff rfl] at hdelete
  rw [exists_updateWithoutWhere_iff, hasWhere_eq_false_iff, kind_eq_iff rfl] at hupdate
  rw [exists_selectStar_iff, kind_eq_iff rfl] at hselect
  rw [kind_eq_iff rfl] at hinsert
  rw [placeholderCount_eq] at hmismatch
  rw [Remedy.of, Audit.isVerbose_inspect, Audit.isParameterized_inspect, Audit.query_inspect,
    Audit.bound_inspect, Bool.not_true, if_neg Bool.false_ne_true, Query.isParameterized,
    Bool.not_true, if_neg Bool.false_ne_true, due]
  -- The two chains of conditions agree link by link.
  exact if_congr hmismatch rfl <| if_congr hinsert rfl <| if_congr hdelete rfl <|
    if_congr hupdate rfl <| if_congr hselect rfl <| if_congr hliteral rfl rfl

/-- A report of a raw query leads to the remedy for the kind of its statement. -/
theorem of_inspect_raw (t : String) (now : Timestamp) (context : Option Context) :
    Remedy.of (Audit.inspect true (Audit.draft now (.raw t) true context)) =
      some (.parameterize (kind (Text.trim t.toList))) := by
  rw [Remedy.of, Audit.isVerbose_inspect, Audit.isParameterized_inspect, Audit.query_inspect,
    kind_trim]
  rfl

/-- The type names of the statements with an example. -/
def exampleTypes : List (List Char) :=
  ["SELECT", "INSERT", "UPDATE", "DELETE"].map String.toList

/-- The example for a type of statements is one of them. -/
theorem exampleQuery_of_mem {name : List Char} (h : name ∈ exampleTypes) :
    (parameterize (.ofName name)).suggestion.exampleQuery.map (fun e => typeName e.toList) =
      some name := by
  have hall : ∀ name ∈ exampleTypes,
      (parameterize (.ofName name)).suggestion.exampleQuery.map (fun e => typeName e.toList) =
        some name := by decide
  exact hall name h

/-- There is no example for other types. -/
theorem examples_of_notMem {name : List Char} (h : name ∉ exampleTypes) :
    (parameterize (.ofName name)).suggestion.exampleQuery = none ∧
      (parameterize (.ofName name)).suggestion.exampleCode = none := by
  have hother : Kind.ofName name = .other := by
    simp only [exampleTypes, List.map_cons, List.map_nil, List.mem_cons, List.not_mem_nil,
      or_false, not_or] at h
    simp only [Kind.ofName, h, if_false]
  rw [hother]
  exact ⟨rfl, rfl⟩

end Remedy

/-! ## The suggestion of a call -/

theorem Report.mem_infos_add {r : Report} {f : Finding} (h : f ∈ r.infos) (g : Finding) :
    f ∈ (r.add g).infos := by
  rw [add]
  cases g.severity with
  | error => exact h
  | warning => exact h
  | info => exact List.mem_append_left _ h

namespace Validator

/-- A verbose call that does not fail returns a report. Alerts leave the suggestion of the report and
the notes in it as they are. -/
theorem attempt_verbose {o : Options} (ho : o.Audits) (hv : o.verbose = .bool true)
    (v : Validator) (wire : Wire) (now : Timestamp) {q : Query}
    (hs : (Text.trim q.text.toList).isEmpty = false) (hshort : q.bound.isOverlong true = false) :
    ∃ r c, (v.attempt wire now (.query q) o).result = .ok r ∧
      r.suggestion = (Remedy.of (Audit.inspect true (Audit.draft now q true c))).map
        Remedy.suggestion ∧
      ∀ n ∈ Audit.notes true true q, n.finding ∈ r.infos := by
  have hb : Field.bool o.verbose = .ok true := hv ▸ rfl
  have hq : (Submission.query q).toQuery = .ok q := rfl
  obtain ⟨c, hc⟩ := (v.attempt_query ho hb hq wire now).2 (by simp [hshort])
  rw [hv] at hc
  have hsuggestion : (Audit.inspect true (Audit.draft now q true c)).suggestion =
      (Remedy.of (Audit.inspect true (Audit.draft now q true c))).map Remedy.suggestion := by
    rw [Audit.suggestion_inspect, hs]
    rfl
  have hnotes : ∀ n ∈ Audit.notes true true q,
      n.finding ∈ (Audit.inspect true (Audit.draft now q true c)).infos := by
    intro n hn
    rw [Audit.infos_inspect]
    exact List.mem_map_of_mem hn
  rw [hc]
  rcases v.finish_eq_or_add wire (Audit.inspect true (Audit.draft now q true c)) with
    hr | ⟨f, -, hr⟩
  · exact ⟨_, c, hr, hsuggestion, hnotes⟩
  · refine ⟨_, c, hr, ?_, fun n hn => Report.mem_infos_add (hnotes n hn) f⟩
    rw [Report.suggestion_add, hsuggestion]

end Validator

/-- The suggestion of a verbose report is the one that the query calls for, whoever validates it. Of
a parameterized query it is chosen by its text and its parameters (`Remedy.due`); but the call fails,
and returns no report, if remarks on a parameter show an integer of too many digits. A raw query is to
be parameterized, with an example of a statement of the type that the report notes, and without one
for statements of other types. -/
theorem suggestion_due {o : Options} (ho : o.Audits) (hv : o.verbose = .bool true) (v : Validator)
    (wire : Wire) (now : Timestamp) {t : String} (hs : Text.trim t.toList ≠ []) :
    (∀ p : Params,
      let result := (v.attempt wire now (.query (.parameterized t p)) o).result
      (result = .error (.unwritable .digits) ↔ p.isOverlong true = true) ∧
      (p.isOverlong true = false → ∃ r, result = .ok r ∧
        r.suggestion = (Remedy.due t p).map Remedy.suggestion)) ∧
    ∃ r suggestion, (v.attempt wire now (.query (.raw t)) o).result = .ok r ∧
      r.suggestion = some suggestion ∧
      ∃ name, (Note.statementType name).finding ∈ r.infos ∧
        name = Text.upper (Text.firstToken (Text.trim t.toList)) ∧
        suggestion = (Remedy.parameterize (.ofName name)).suggestion ∧
        (name ∈ Remedy.exampleTypes →
          suggestion.exampleQuery.map (fun e => Statement.typeName e.toList) = some name) ∧
        (name ∉ Remedy.exampleTypes →
          suggestion.exampleQuery = none ∧ suggestion.exampleCode = none) := by
  have hempty : (Text.trim t.toList).isEmpty = false := by simpa using hs
  constructor
  · intro p result
    have hb : Field.bool o.verbose = .ok true := hv ▸ rfl
    have hq : (Submission.query (.parameterized t p)).toQuery = .ok (.parameterized t p) := rfl
    refine ⟨(v.attempt_fails_iff ho hb hq wire now).trans (and_iff_right hs), fun h => ?_⟩
    obtain ⟨r, c, hr, hsuggestion, -⟩ := v.attempt_verbose ho hv wire now
      (q := .parameterized t p) hempty h
    exact ⟨r, hr, hsuggestion.trans (by rw [Remedy.of_inspect_parameterized hempty])⟩
  · obtain ⟨r, c, hr, hsuggestion, hnotes⟩ :=
      v.attempt_verbose ho hv wire now (q := .raw t) hempty rfl
    rw [Remedy.of_inspect_raw] at hsuggestion
    have hnote : Note.statementType (Statement.typeName (Text.trim t.toList)) ∈
        Audit.notes true true (.raw t) := by
      rw [Audit.notes_of_text (q := .raw t) hempty, Audit.notes_remarks]
      simp [Structure.notes, Query.text]
    exact ⟨r, _, hr, hsuggestion, _, hnotes _ hnote, rfl, rfl, Remedy.exampleQuery_of_mem,
      Remedy.examples_of_notMem⟩

/-- A deletion without a `WHERE` calls for one, though it also has a literal; as a raw query, it is
shown a deletion with placeholders. -/
theorem deletion_to_restrict :
    let t := "\tdelete from logs -- 'all'"
    Text.trim t.toList ≠ [] ∧
    (∃ r, (Validator.silent.attempt {} ⟨2024, 1, 2, 3, 4, 5, 0⟩ (.query (.parameterized t .empty))
        { verbose := .bool true }).result = .ok r ∧
      r.suggestion = some (Remedy.whereSuggestion "DELETE")) ∧
    ∃ r suggestion, (Validator.silent.attempt {} ⟨2024, 1, 2, 3, 4, 5, 0⟩ (.query (.raw t))
        { verbose := .bool true }).result = .ok r ∧
      r.suggestion = some suggestion ∧
      suggestion.exampleQuery = some "DELETE FROM table WHERE id = ?" := by
  intro t
  have hs : Text.trim t.toList ≠ [] := by decide
  obtain ⟨hparameterized, r, suggestion, hr, hsuggestion, name, -, hname, rfl, -⟩ :=
    suggestion_due (o := { verbose := .bool true }) ⟨rfl, ⟨true, rfl⟩, ⟨none, rfl⟩⟩ rfl .silent {}
      ⟨2024, 1, 2, 3, 4, 5, 0⟩ hs
  refine ⟨hs, ?_, r, _, hr, hsuggestion, ?_⟩
  · obtain ⟨r', hr', hsuggestion'⟩ := (hparameterized .empty).2 rfl
    have hdue : Remedy.due t .empty = some .restrictDelete := by decide +kernel
    exact ⟨r', hr', by rw [hsuggestion', hdue]; rfl⟩
  · rw [hname]
    decide +kernel

/-- A query with two placeholders and one parameter calls for another parameter, but its verbose
audit fails, and suggests nothing, if the parameter is the least integer of too many digits. -/
theorem huge_parameter_without_suggestion :
    let t := "SELECT ?, ?;"
    let p : Params := .ofList [.int Numeral.digitBound]
    Text.trim t.toList ≠ [] ∧ Remedy.due t p = some (.fitParameters t p) ∧
    (Validator.silent.attempt {} ⟨2024, 1, 2, 3, 4, 5, 0⟩ (.query (.parameterized t p))
      { verbose := .bool true }).result = .error (.unwritable .digits) := by
  intro t p
  have hs : Text.trim t.toList ≠ [] := by decide
  have hsize : p.size = 1 := rfl
  have hcount : (Text.trim t.toList).count '?' + Text.nameCount ':' (Text.trim t.toList) ≠
      p.size := by
    rw [hsize]
    decide
  exact ⟨hs, if_pos hcount,
    Validator.silent.attempt_overlong rfl hs Scalar.isOverlong_digitBound _ _⟩

end SqlAudit
