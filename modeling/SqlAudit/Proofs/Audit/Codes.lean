import SqlAudit.Proofs.Audit.Acceptance

/-!
# The codes of findings

Which codes the findings of a report can have, by the kind of query and by severity. Each stage has
codes of its own (`Structure.faultCodes` and its like), and the codes of an audit are those of its
stages. Main statements:

* `Structure.code_of_mem_faults`, `Binding.code_of_mem_faults`, `Injection.code_of_mem_faults` and
  their likes for cautions: the codes of one stage;
* `Audit.code_of_mem_faults`, `Audit.code_of_mem_cautions`: the codes of an audit, and the
  statements that a code belongs to;
* `findings_classified`: the codes of every report of a query that is audited.
-/

namespace SqlAudit

/-! ## Codes by kind and severity -/

namespace Code

/-- The codes of the errors of raw and of parameterized queries with a text. -/
def ofTextErrors : (parameterized : Bool) → List Code
  | false => [.unbalancedParentheses, .unpairedSingleQuotes, .unpairedDoubleQuotes,
      .insertValueCountMismatch, .deleteWithoutWhere, .dangerousLiteralPattern, .superglobalInQuery]
  | true => [.unbalancedParentheses, .insertPlaceholderCountMismatch, .deleteWithoutWhere,
      .placeholderCountMismatch, .mixedPlaceholders, .superglobalInQuery, .hostVariableInQuery]

/-- The codes of the errors of raw and of parameterized queries. -/
def ofErrors (parameterized : Bool) : List Code :=
  .emptyQuery :: ofTextErrors parameterized

/-- The codes of the warnings of raw and of parameterized queries. -/
def ofWarnings : (parameterized : Bool) → List Code
  | false => [.nonParameterized, .missingSemicolon, .updateWithoutWhere, .multipleSetClauses,
      .selectStar, .unescapedBackslash, .hostVariableInQuery, .dangerousKeyword, .lineComment,
      .blockComment, .hashComment]
  | true => [.missingSemicolon, .updateWithoutWhere, .multipleSetClauses, .selectStar,
      .suspiciousParameter, .sqlKeywordInParameter, .hardcodedLiteral, .lineComment, .blockComment,
      .hashComment]

/-- The kind of statement that a code belongs to, if it belongs to one. -/
def kind? : Code → Option Statement.Kind
  | .insertPlaceholderCountMismatch | .insertValueCountMismatch => some .insert
  | .updateWithoutWhere | .multipleSetClauses => some .update
  | .selectStar => some .select
  | .deleteWithoutWhere => some .delete
  | _ => none

end Code

/-- The report has an error with the code. -/
def Report.HasError (r : Report) (code : Code) : Prop :=
  ∃ e ∈ r.errors, e.code = some code.name

theorem Report.hasError_iff {r : Report} {fs : List Fault} (h : r.errors = fs.map Fault.finding)
    {code : Code} : r.HasError code ↔ ∃ f ∈ fs, f.code = code := by
  rw [HasError, h]
  constructor
  · rintro ⟨e, he, hcode⟩
    obtain ⟨f, hf, rfl⟩ := List.mem_map.1 he
    exact ⟨f, hf, Code.name_inj.1 (Option.some.inj hcode)⟩
  · rintro ⟨f, hf, rfl⟩
    exact ⟨f.finding, List.mem_map_of_mem hf, rfl⟩

/-! ## Codes of the stages -/

namespace Structure

open Statement

/-- The codes of the faults of the structure of a query. -/
def faultCodes : (parameterized : Bool) → List Code
  | false => [.unbalancedParentheses, .unpairedSingleQuotes, .unpairedDoubleQuotes,
      .insertValueCountMismatch, .deleteWithoutWhere]
  | true => [.unbalancedParentheses, .insertPlaceholderCountMismatch, .deleteWithoutWhere]

/-- The codes of the cautions about the structure of a query. -/
def cautionCodes : List Code :=
  [.missingSemicolon, .updateWithoutWhere, .multipleSetClauses, .selectStar]

theorem code_of_mem_insertFaults {parameterized : Bool} {i : Insert} {f : Fault}
    (h : f ∈ insertFaults parameterized i) : f.code =
      if parameterized then .insertPlaceholderCountMismatch else .insertValueCountMismatch := by
  rw [insertFaults] at h
  cases parameterized <;> grind [Fault.code]

/-- A fault that the kind of statement calls for has a code of that kind. -/
theorem code_of_mem_kindFaults {parameterized : Bool} {sql : List Char} {f : Fault}
    (h : f ∈ kindFaults parameterized sql) :
    f.code ∈ faultCodes parameterized ∧ f.code.kind? = some (kind sql) := by
  rw [kindFaults] at h
  cases hk : kind sql with
  | insert =>
    cases hi : insert? sql with
    | none => simp [hk, hi] at h
    | some i =>
      simp only [hk, hi, Option.elim_some] at h
      rw [code_of_mem_insertFaults h]
      cases parameterized <;> decide
  | delete =>
    simp only [hk] at h
    obtain rfl : f = .deleteWithoutWhere := by grind
    cases parameterized <;> decide
  | update | select | other => simp [hk] at h

theorem code_of_mem_faults {parameterized : Bool} {sql : List Char} {f : Fault}
    (h : f ∈ faults parameterized sql) : f.code ∈ faultCodes parameterized ∧
      ∀ k, f.code.kind? = some k → kind sql = k := by
  rw [faults, List.mem_append, List.mem_append] at h
  rcases h with (h | h) | h
  · obtain rfl : f = .unbalancedParentheses (sql.count '(') (sql.count ')') := by
      grind [parenthesisFaults]
    cases parameterized <;> simp [Fault.code, faultCodes, Code.kind?]
  · cases parameterized with
    | true => simp at h
    | false =>
      simp only [Bool.false_eq_true, if_false, quoteFaults, List.mem_flatMap] at h
      obtain ⟨quote, -, h⟩ := h
      obtain rfl : f = .unpairedQuotes quote (sql.count quote.sign) := by grind
      cases quote <;> simp [Fault.code, faultCodes, Code.kind?]
  · obtain ⟨hmem, hkind⟩ := code_of_mem_kindFaults h
    exact ⟨hmem, fun k hk => Option.some.inj (hkind.symm.trans hk)⟩

theorem code_of_mem_cautions {sql : List Char} {c : Caution} (h : c ∈ cautions sql) :
    c.code ∈ cautionCodes ∧ ∀ k, c.code.kind? = some k → kind sql = k := by
  rw [cautions, List.mem_append] at h
  rcases h with h | h
  · obtain rfl : c = .missingSemicolon := by grind
    simp [Caution.code, cautionCodes, Code.kind?]
  · cases hk : kind sql with
    | update =>
      simp only [hk, updateCautions, List.mem_append] at h
      rcases h with h | h
      · obtain rfl : c = .updateWithoutWhere := by grind
        simp [Caution.code, cautionCodes, Code.kind?]
      · obtain rfl : c = .repeatedSet (setCount sql) := by grind
        simp [Caution.code, cautionCodes, Code.kind?]
    | select =>
      simp only [hk] at h
      obtain rfl : c = .selectStar := by grind
      simp [Caution.code, cautionCodes, Code.kind?]
    | insert | delete | other => simp [hk] at h

theorem code_of_mem_kindNotes {parameterized : Bool} {sql : List Char} {n : Note}
    (h : n ∈ kindNotes parameterized sql) : n.code = none := by
  rw [kindNotes] at h
  cases hk : kind sql with
  | insert =>
    cases hi : insert? sql with
    | none => simp [hk, hi] at h
    | some i =>
      simp only [hk, hi, Option.elim_some, insertNotes] at h
      grind [Note.code]
  | update | select | delete | other =>
    simp only [hk] at h
    grind [Note.code]

theorem code_of_mem_notes {parameterized : Bool} {sql : List Char} {n : Note}
    (h : n ∈ notes parameterized sql) : n.code = none := by
  simp only [notes, List.mem_append] at h
  rcases h with ((h | h) | h) | h
  · grind [Note.code]
  · grind [Note.code]
  · cases parameterized with
    | true => simp at h
    | false =>
      simp only [Bool.false_eq_true, if_false, quoteNotes, List.mem_flatMap] at h
      grind [Note.code]
  · exact code_of_mem_kindNotes h

end Structure

namespace Binding

open Statement

/-- The codes of the faults of the bindings of a query. -/
def faultCodes : List Code :=
  [.placeholderCountMismatch, .mixedPlaceholders, .superglobalInQuery, .hostVariableInQuery]

/-- The codes of the cautions about a bound value. -/
def valueCodes : List Code :=
  [.suspiciousParameter, .sqlKeywordInParameter]

theorem code_of_mem_faults {params : Params} {sql : List Char} {f : Fault}
    (h : f ∈ faults params sql) : f.code ∈ faultCodes := by
  simp only [faults, countFaults, List.mem_append] at h
  rcases h with ((h | h) | h) | h
  · obtain rfl : f = .placeholderCount (placeholderCount sql) params.size := by grind
    simp [Fault.code, faultCodes]
  · obtain rfl : f = .mixedPlaceholders := by grind
    simp [Fault.code, faultCodes]
  · obtain rfl : f = .superglobalAccess := by grind
    simp [Fault.code, faultCodes]
  · obtain rfl : f = .hostVariable := by grind
    simp [Fault.code, faultCodes]

theorem code_of_mem_valueCautions {e : Key × Scalar} {c : Caution} (h : c ∈ valueCautions e) :
    c.code ∈ valueCodes := by
  obtain ⟨key, v⟩ := e
  cases v with
  | text s =>
    simp only [valueCautions, textCautions, List.mem_append, List.mem_map] at h
    rcases h with ⟨t, -, rfl⟩ | ⟨t, -, rfl⟩ <;> simp [Caution.code, valueCodes]
  | null | bool | int | float => simp [valueCautions] at h

theorem code_of_mem_cautions {params : Params} {sql : List Char} {c : Caution}
    (h : c ∈ cautions params sql) : c.code ∈ .hardcodedLiteral :: valueCodes := by
  rw [cautions, List.mem_append, List.mem_flatMap] at h
  rcases h with ⟨e, -, h⟩ | h
  · exact List.mem_cons_of_mem _ (code_of_mem_valueCautions h)
  · obtain rfl : c = .hardcodedLiteral := by grind
    exact List.mem_cons_self

theorem code_of_mem_notes {params : Params} {sql : List Char} {n : Note}
    (h : n ∈ notes params sql) : n.code = none := by
  simp only [notes, countNotes, List.mem_append, List.mem_map, valueNote] at h
  grind [Note.code]

end Binding

namespace Injection

/-- The codes of the cautions about the text of a raw query. -/
def rawCodes : List Code :=
  [.unescapedBackslash, .hostVariableInQuery, .dangerousKeyword]

/-- The codes of the cautions about comments. -/
def commentCodes : List Code :=
  [.lineComment, .blockComment, .hashComment]

theorem code_of_mem_literalFaults {l : List Char × Nat} {f : Fault} (h : f ∈ literalFaults l) :
    f.code = .dangerousLiteralPattern := by
  simp only [literalFaults, List.mem_map] at h
  obtain ⟨i, -, rfl⟩ := h
  rfl

theorem code_of_mem_superglobalFaults {sql : List Char} {f : Fault}
    (h : f ∈ superglobalFaults sql) : f.code = .superglobalInQuery := by
  simp only [superglobalFaults, List.mem_map] at h
  obtain ⟨name, -, rfl⟩ := h
  rfl

theorem code_of_mem_literalCautions {l : List Char} {c : Caution} (h : c ∈ literalCautions l) :
    c.code = .unescapedBackslash := by
  rw [literalCautions] at h
  obtain rfl : c = .unescapedBackslash (Statement.preview 50 false l) := by grind
  rfl

theorem code_of_mem_rawCautions {sql : List Char} {c : Caution} (h : c ∈ rawCautions sql) :
    c.code ∈ rawCodes := by
  simp only [rawCautions, List.mem_append, List.mem_flatMap, List.mem_map] at h
  rcases h with (⟨l, -, h⟩ | h) | ⟨keyword, -, rfl⟩
  · simp [code_of_mem_literalCautions h, rawCodes]
  · obtain rfl : c = .hostVariable := by grind
    simp [Caution.code, rawCodes]
  · simp [Caution.code, rawCodes]

theorem code_of_mem_commentCautions {sql : List Char} {c : Caution}
    (h : c ∈ commentCautions sql) : c.code ∈ commentCodes := by
  simp only [commentCautions, List.mem_append] at h
  rcases h with (h | h) | h
  · obtain rfl : c = .lineComment := by grind
    simp [Caution.code, commentCodes]
  · obtain rfl : c = .blockComment := by grind
    simp [Caution.code, commentCodes]
  · obtain rfl : c = .hashComment := by grind
    simp [Caution.code, commentCodes]

theorem code_of_mem_notes {parameterized : Bool} {sql : List Char} {n : Note}
    (h : n ∈ notes parameterized sql) : n.code = none := by
  rw [notes] at h
  split at h
  · exact absurd h List.not_mem_nil
  · rw [List.mem_cons, List.mem_map] at h
    grind [Note.code]

end Injection

/-! ## Codes of an audit -/

namespace Audit

open Statement

section Text

variable {q : Query} (hs : (Text.trim q.text.toList).isEmpty = false)
include hs

/-- The faults of a query have codes of its kind, and one of a statement only if it is that
statement. -/
theorem code_of_mem_faults {f : Fault} (h : f ∈ faults q) :
    f.code ∈ Code.ofTextErrors q.isParameterized ∧
      ∀ k, f.code.kind? = some k → kind (Text.trim q.text.toList) = k := by
  have hstructure (b : Bool) : ∀ c ∈ Structure.faultCodes b, c ∈ Code.ofTextErrors b := by
    cases b <;> decide
  have hbinding : ∀ c ∈ Binding.faultCodes, c ∈ Code.ofTextErrors true ∧ c.kind? = none := by
    decide
  have hinjection : ∀ c ∈ [Code.dangerousLiteralPattern, .superglobalInQuery],
      c ∈ Code.ofTextErrors false := by decide
  cases q with
  | raw t =>
    rw [faults_raw (t := t) hs, Injection.faults, if_neg Bool.false_ne_true, List.mem_append,
      List.mem_append, List.mem_flatMap] at h
    rcases h with h | ⟨l, -, h⟩ | h
    · obtain ⟨hmem, hkind⟩ := Structure.code_of_mem_faults h
      exact ⟨hstructure false _ hmem, hkind⟩
    · rw [Injection.code_of_mem_literalFaults h]
      exact ⟨hinjection _ (by decide), by rintro k ⟨⟩⟩
    · rw [Injection.code_of_mem_superglobalFaults h]
      exact ⟨hinjection _ (by decide), by rintro k ⟨⟩⟩
  | parameterized t p =>
    rw [faults_parameterized (t := t) hs, List.mem_append] at h
    rcases h with h | h
    · obtain ⟨hmem, hkind⟩ := Structure.code_of_mem_faults h
      exact ⟨hstructure true _ hmem, hkind⟩
    · obtain ⟨hmem, hnone⟩ := hbinding _ (Binding.code_of_mem_faults h)
      exact ⟨hmem, fun k hk => by cases hnone.symm.trans hk⟩

/-- The cautions about a query have codes of its kind, and one of a statement only if it is that
statement. -/
theorem code_of_mem_cautions {c : Caution} (h : c ∈ cautions q) :
    c.code ∈ Code.ofWarnings q.isParameterized ∧
      ∀ k, c.code.kind? = some k → kind (Text.trim q.text.toList) = k := by
  have hstructure (b : Bool) : ∀ c ∈ Structure.cautionCodes, c ∈ Code.ofWarnings b := by
    cases b <;> decide
  have hcomment (b : Bool) :
      ∀ c ∈ Injection.commentCodes, c ∈ Code.ofWarnings b ∧ c.kind? = none := by
    cases b <;> decide
  have hraw : ∀ c ∈ Injection.rawCodes, c ∈ Code.ofWarnings false ∧ c.kind? = none := by decide
  have hbinding : ∀ c ∈ Code.hardcodedLiteral :: Binding.valueCodes,
      c ∈ Code.ofWarnings true ∧ c.kind? = none := by decide
  rw [cautions_of_text hs, cautions_remarks, Injection.cautions, List.mem_append,
    List.mem_append, List.mem_append, List.mem_append] at h
  rcases h with h | (h | h) | h | h
  · cases q with
    | raw t =>
      obtain rfl := List.mem_singleton.1 h
      exact ⟨List.mem_cons_self, by rintro k ⟨⟩⟩
    | parameterized t p => exact absurd h List.not_mem_nil
  · obtain ⟨hmem, hkind⟩ := Structure.code_of_mem_cautions h
    exact ⟨hstructure _ _ hmem, hkind⟩
  · cases q with
    | raw t => exact absurd h List.not_mem_nil
    | parameterized t p =>
      obtain ⟨hmem, hnone⟩ := hbinding _ (Binding.code_of_mem_cautions h)
      exact ⟨hmem, fun k hk => by cases hnone.symm.trans hk⟩
  · cases q with
    | raw t =>
      obtain ⟨hmem, hnone⟩ := hraw _ (Injection.code_of_mem_rawCautions h)
      exact ⟨hmem, fun k hk => by cases hnone.symm.trans hk⟩
    | parameterized t p => exact absurd h List.not_mem_nil
  · obtain ⟨hmem, hnone⟩ := hcomment _ _ (Injection.code_of_mem_commentCautions h)
    exact ⟨hmem, fun k hk => by cases hnone.symm.trans hk⟩

/-- The notes on a query have no codes. -/
theorem code_of_mem_notes {loud verbose : Bool} {n : Note} (h : n ∈ notes loud verbose q) :
    n.code = none := by
  rw [notes_of_text hs, List.mem_append] at h
  rcases h with h | h
  · grind [Note.code]
  · cases verbose with
    | false => exact absurd h List.not_mem_nil
    | true =>
      rw [if_pos rfl, notes_remarks, List.mem_append, List.mem_append] at h
      rcases h with (h | h) | h
      · exact Structure.code_of_mem_notes h
      · cases hp : q.isParameterized with
        | false => simp [hp] at h
        | true =>
          rw [hp, if_pos rfl] at h
          exact Binding.code_of_mem_notes h
      · exact Injection.code_of_mem_notes h

/-- An error of a query has one of the codes of its kind. -/
theorem error_classified {f : Finding} (hf : f ∈ (faults q).map Fault.finding) :
    f.severity = .error ∧ ∃ code ∈ Code.ofTextErrors q.isParameterized, f.code = some code.name ∧
      ∀ k, code.kind? = some k → kind (Text.trim q.text.toList) = k := by
  obtain ⟨fault, hfault, rfl⟩ := List.mem_map.1 hf
  obtain ⟨hmem, hkind⟩ := code_of_mem_faults hs hfault
  exact ⟨rfl, fault.code, hmem, rfl, hkind⟩

/-- A warning of a query has one of the codes of its kind. -/
theorem warning_classified {f : Finding} (hf : f ∈ (cautions q).map Caution.finding) :
    f.severity = .warning ∧ ∃ code ∈ Code.ofWarnings q.isParameterized, f.code = some code.name ∧
      ∀ k, code.kind? = some k → kind (Text.trim q.text.toList) = k := by
  obtain ⟨caution, hcaution, rfl⟩ := List.mem_map.1 hf
  obtain ⟨hmem, hkind⟩ := code_of_mem_cautions hs hcaution
  exact ⟨rfl, caution.code, hmem, rfl, hkind⟩

/-- Information on a query has no code. -/
theorem info_classified {loud verbose : Bool} {f : Finding}
    (hf : f ∈ (notes loud verbose q).map Note.finding) : f.severity = .info ∧ f.code = none := by
  obtain ⟨note, hnote, rfl⟩ := List.mem_map.1 hf
  refine ⟨rfl, ?_⟩
  rw [Note.finding, code_of_mem_notes hs hnote]
  rfl

/-- The code of a finding is never that of a blank query, and one of a statement only if the query
is that statement. -/
theorem code_classified {loud verbose : Bool} {f : Finding}
    (hf : f ∈ (faults q).map Fault.finding ++ (cautions q).map Caution.finding ++
      (notes loud verbose q).map Note.finding) (code : Code) (hcode : f.code = some code.name) :
    code ≠ .emptyQuery ∧ ∀ k, code.kind? = some k → kind (Text.trim q.text.toList) = k := by
  have hne (b : Bool) :
      Code.emptyQuery ∉ Code.ofTextErrors b ∧ Code.emptyQuery ∉ Code.ofWarnings b := by
    cases b <;> decide
  rw [List.mem_append, List.mem_append] at hf
  rcases hf with (hf | hf) | hf
  · obtain ⟨-, code', hmem, hcode', hkind⟩ := error_classified hs hf
    obtain rfl := Code.name_inj.1 (Option.some.inj (hcode'.symm.trans hcode))
    exact ⟨fun h => (hne _).1 (h ▸ hmem), hkind⟩
  · obtain ⟨-, code', hmem, hcode', hkind⟩ := warning_classified hs hf
    obtain rfl := Code.name_inj.1 (Option.some.inj (hcode'.symm.trans hcode))
    exact ⟨fun h => (hne _).2 (h ▸ hmem), hkind⟩
  · cases (info_classified hs hf).2.symm.trans hcode

end Text

section Blank

variable {q : Query} (hs : (Text.trim q.text.toList).isEmpty = true)
include hs

theorem cautions_of_blank : cautions q = [] := by
  rw [cautions, hs]
  rfl

theorem notes_of_blank (loud verbose : Bool) : notes loud verbose q = [] := by
  rw [notes, hs]
  rfl

end Blank

end Audit

/-- The codes of the findings of a report, whatever was submitted and however it was audited.
Information has no code. A report with the code of a blank query has no other finding. The errors
and the warnings of raw and of parameterized queries each have codes from a list of their own, and
the codes that belong to one kind of statement occur only if the query starts as that kind. -/
theorem findings_classified {wire : Wire} {now : Timestamp} {s : Submission} {o : Options}
    {r : Report} (he : o.enabled.isTruthy = true)
    (h : (Validator.silent.validate wire now s o).result = .ok r) :
    (∀ f ∈ r.infos, f.severity = .info ∧ f.code = none) ∧
    (∀ f ∈ r.findings, f.code = some "empty_query" → r.findings = [f]) ∧
    ∃ q, s.toQuery = .ok q ∧
      (∀ f ∈ r.errors, f.severity = .error ∧
        ∃ code ∈ Code.ofErrors q.isParameterized, f.code = some code.name) ∧
      (∀ f ∈ r.warnings, f.severity = .warning ∧
        ∃ code ∈ Code.ofWarnings q.isParameterized, f.code = some code.name) ∧
      ∀ f ∈ r.findings, ∀ code kind name, f.code = some (Code.name code) → code.kind? = some kind →
        kind.name? = some name →
          Text.upper (Text.firstToken (Text.trim q.text.toList)) = name.toList := by
  obtain ⟨q, b, c, hq, -, -, rfl⟩ := (Validator.validate_eq_ok_iff he).1 h
  simp only [Report.findings, Audit.errors_inspect, Audit.warnings_inspect, Audit.infos_inspect]
  cases hs : (Text.trim q.text.toList).isEmpty with
  | true =>
    rw [Audit.faults_of_blank hs, Audit.cautions_of_blank hs, Audit.notes_of_blank hs]
    refine ⟨List.forall_mem_nil _, ?_, q, hq, ?_, List.forall_mem_nil _, ?_⟩
    · rintro f hf -
      rw [List.mem_singleton.1 hf]
      rfl
    · intro f hf
      rw [List.mem_singleton.1 hf]
      exact ⟨rfl, .emptyQuery, List.mem_cons_self, rfl⟩
    · intro f hf code kind name hcode hkind
      rw [List.mem_singleton.1 hf] at hcode
      obtain rfl : Code.emptyQuery = code := Code.name_inj.1 (Option.some.inj hcode)
      cases hkind
  | false =>
    refine ⟨fun f hf => Audit.info_classified hs hf, fun f hf hcode => ?_, q, hq, fun f hf => ?_,
      fun f hf => ?_, ?_⟩
    · exact absurd rfl (Audit.code_classified hs hf .emptyQuery hcode).1
    · obtain ⟨hseverity, code, hmem, hcode, -⟩ := Audit.error_classified hs hf
      exact ⟨hseverity, code, List.mem_cons_of_mem _ hmem, hcode⟩
    · obtain ⟨hseverity, code, hmem, hcode, -⟩ := Audit.warning_classified hs hf
      exact ⟨hseverity, code, hmem, hcode⟩
    · intro f hf code kind name hcode hkind hname
      exact (Statement.kind_eq_iff hname).1 ((Audit.code_classified hs hf code hcode).2 kind hkind)

/-- A verbose update without a condition, submitted as a mapping, has warnings of a parameterized
query, and it is an update; a blank text is a blank query and nothing else. -/
theorem update_classified :
    (∃ r, (Validator.silent.validate {} ⟨2024, 1, 2, 3, 4, 5, 0⟩
        (.value (.object [(.text "sql", .text "update t SET a = ?"),
          (.text "params", .list [.text "x; DROP"])])) { verbose := .bool true }).result = .ok r ∧
      (∀ f ∈ r.infos, f.severity = .info ∧ f.code = none) ∧
      (∀ f ∈ r.warnings, f.severity = .warning ∧
        ∃ code ∈ Code.ofWarnings true, f.code = some code.name) ∧
      Caution.updateWithoutWhere.finding ∈ r.warnings) ∧
    ∃ r, (Validator.silent.validate {} ⟨2024, 1, 2, 3, 4, 5, 0⟩ (.value (.text "\n")) {}).result =
      .ok r ∧ r.findings = [Fault.emptyQuery.finding] := by
  let q := Query.parameterized "update t SET a = ?" (.ofList [.text "x; DROP"])
  let r := Audit.inspect true (Audit.draft ⟨2024, 1, 2, 3, 4, 5, 0⟩ q true none)
  have hr : (Validator.silent.validate {} ⟨2024, 1, 2, 3, 4, 5, 0⟩
      (.value (.object [(.text "sql", .text "update t SET a = ?"),
        (.text "params", .list [.text "x; DROP"])])) { verbose := .bool true }).result = .ok r :=
    (Validator.validate_eq_ok_iff rfl).2 ⟨q, true, none, rfl, rfl, rfl, rfl⟩
  let r' := Audit.inspect false (Audit.draft ⟨2024, 1, 2, 3, 4, 5, 0⟩ (.raw "\n") false none)
  have hr' : (Validator.silent.validate {} ⟨2024, 1, 2, 3, 4, 5, 0⟩ (.value (.text "\n"))
      {}).result = .ok r' :=
    (Validator.validate_eq_ok_iff (o := {}) rfl).2 ⟨.raw "\n", false, none, rfl, rfl, rfl, rfl⟩
  obtain ⟨hinfos, -, q', hq', -, hwarnings, -⟩ := findings_classified rfl hr
  obtain rfl : q = q' := Except.ok.inj hq'
  refine ⟨⟨r, hr, hinfos, hwarnings, ?_⟩, r', hr', ?_⟩
  · rw [Audit.warnings_inspect]
    exact List.mem_map_of_mem (by decide)
  · exact (findings_classified rfl hr').2.1 _ List.mem_cons_self rfl

end SqlAudit
