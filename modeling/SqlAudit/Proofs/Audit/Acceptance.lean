import SqlAudit.Proofs.Audit.Attempt
import SqlAudit.Proofs.Statement.Literals
import SqlAudit.Proofs.Statement.Placeholders

/-!
# Accepted queries

Which queries pass an audit, said on their texts alone. `ParameterizedForm` and `RawForm` list what
the trimmed text of a query has to be like; they speak of characters and of the parts between them,
and not of the checks. Main statements:

* `parameterized_success_iff`: a parameterized query passes if and only if its text has the form,
  unless its audit fails at an integer of too many digits (`huge_parameter_fails`);
* `raw_success_iff`: likewise for raw queries.
-/

namespace SqlAudit

/-! ## Forms of texts -/

/-- A text that starts as an insert statement, and has lists of fields and values, has lists that
agree. -/
def InsertAgrees (agree : (fields values : List Char) → Prop) (s : List Char) : Prop :=
  Text.upper (Text.firstToken s) = "INSERT".toList →
    ∀ o, Catalog.insertStatement.find? s = some o →
      ∃ table fields values, o.groups = [table, fields, values] ∧ agree fields values

/-- What the text of every accepted query is like. -/
structure WellFormed (s : List Char) : Prop where
  nonempty : s ≠ []
  balanced : s.count '(' = s.count ')'
  restricted : Text.upper (Text.firstToken s) = "DELETE".toList →
    "WHERE".toList <:+: Text.upper s

/-- What the text of an accepted query with `count` bound values is like. -/
structure ParameterizedForm (count : Nat) (s : List Char) : Prop extends WellFormed s where
  bound : s.count '?' + Text.nameCount ':' s = count
  unmixed : ¬ (0 < s.count '?' ∧ 0 < Text.nameCount ':' s)
  closed : Text.nameCount '$' s = 0
  matched : InsertAgrees (fun fields values =>
    fields.count ',' + 1 = values.count '?' + Text.nameCount ':' values) s

/-- What the text of an accepted raw query is like. -/
structure RawForm (s : List Char) : Prop extends WellFormed s where
  singleQuotes : s.count '\'' % 2 = 0
  doubleQuotes : s.count '"' % 2 = 0
  harmless : ∀ (i : Nat) (segment : List Char), (s.splitOn '\'')[2 * i + 1]? = some segment →
    ∀ idiom ∈ Catalog.idioms, idiom.pattern.occursIn segment = false
  closed : ∀ name ∈ Catalog.superglobals, ¬ name.toList <:+: s
  matched : InsertAgrees (fun fields values => fields.count ',' = values.count ',') s

/-- A check that finds one fault finds none if and only if its condition holds. -/
theorem ite_nil_singleton_eq_nil_iff {α : Type} {P : Prop} [Decidable P] {a : α} :
    (if P then [] else [a]) = [] ↔ P := by
  split <;> simp [*]

/-! ## Kinds of statements -/

namespace Statement

/-- The type name of the statements of a kind. -/
def Kind.name? : Kind → Option String
  | .insert => some "INSERT"
  | .update => some "UPDATE"
  | .select => some "SELECT"
  | .delete => some "DELETE"
  | .other => none

/-- The kind of a statement is told by its first token. -/
theorem kind_eq_iff {sql : List Char} {k : Kind} {name : String} (h : k.name? = some name) :
    kind sql = k ↔ Text.upper (Text.firstToken sql) = name.toList := by
  rw [kind, typeName, Kind.ofName]
  generalize Text.upper (Text.firstToken sql) = token
  cases k <;> cases h <;> repeat' split
  all_goals
    subst_vars
    simp_all

theorem hasWhere_iff {sql : List Char} :
    hasWhere sql = true ↔ "WHERE".toList <:+: Text.upper sql :=
  Text.contains_iff

end Statement

/-! ## Insert statements -/

namespace Structure

open Pattern Statement

theorem groups_of_reads_insertStatement {before : Option Char} {text : List Char}
    {groups : List (List Char)} {after : List Char}
    (h : Catalog.insertStatement.Reads before text groups after) :
    ∃ table fields values, groups = [table, fields, values] := by
  simp only [Catalog.insertStatement, reads_seq, reads_keyword, reads_sign, reads_run1, Reads] at h
  grind

/-- An insert statement that is found has a table, fields and values. -/
theorem groups_of_find?_insertStatement {sql : List Char} {o : Occurrence}
    (h : Catalog.insertStatement.find? sql = some o) :
    ∃ table fields values, o.groups = [table, fields, values] := by
  obtain ⟨skipped, after, -, -, hr⟩ := reads_of_findFrom h
  exact groups_of_reads_insertStatement hr

theorem insertFaults_eq_nil_iff {parameterized : Bool} {i : Insert} :
    insertFaults parameterized i = [] ↔
      if parameterized then
        i.fields.count ',' + 1 = i.values.count '?' + Text.nameCount ':' i.values
      else i.fields.count ',' = i.values.count ',' := by
  rw [insertFaults, placeholderCount_eq, itemCount, itemCount]
  cases parameterized <;> simp

/-- Whatever the fields and values of an insert have to satisfy, `insert?` hands over those of the
insert statement that is found first. -/
theorem elim_insert?_eq_nil_iff {sql : List Char} {f : Insert → List Fault} :
    (insert? sql).elim [] f = [] ↔ ∀ o, Catalog.insertStatement.find? sql = some o →
      ∃ table fields values, o.groups = [table, fields, values] ∧
        f ⟨table, fields, values⟩ = [] := by
  rw [insert?]
  cases h : Catalog.insertStatement.find? sql with
  | none => simp
  | some o =>
    obtain ⟨table, fields, values, hg⟩ := groups_of_find?_insertStatement h
    simp only [Option.map_some, hg, Option.elim_some, Option.some.injEq, forall_eq']
    constructor
    · intro hf
      exact ⟨table, fields, values, rfl, hf⟩
    · rintro ⟨table', fields', values', he, hf⟩
      cases he
      exact hf

theorem kindFaults_eq_nil_iff {parameterized : Bool} {sql : List Char} :
    kindFaults parameterized sql = [] ↔
      (Text.upper (Text.firstToken sql) = "DELETE".toList →
        "WHERE".toList <:+: Text.upper sql) ∧
      InsertAgrees (fun fields values =>
        if parameterized then fields.count ',' + 1 = values.count '?' + Text.nameCount ':' values
        else fields.count ',' = values.count ',') sql := by
  rw [InsertAgrees, ← kind_eq_iff (k := .delete) rfl, ← kind_eq_iff (k := .insert) rfl, kindFaults,
    ← hasWhere_iff]
  cases hk : kind sql with
  | insert => simp [elim_insert?_eq_nil_iff, insertFaults_eq_nil_iff]
  | delete => simp
  | update | select | other => simp

theorem quoteFaults_eq_nil_iff {sql : List Char} :
    quoteFaults sql = [] ↔ sql.count '\'' % 2 = 0 ∧ sql.count '"' % 2 = 0 := by
  simp only [quoteFaults, List.flatMap_cons, List.flatMap_nil, List.append_nil,
    List.append_eq_nil_iff, ite_nil_singleton_eq_nil_iff]
  rfl

theorem faults_eq_nil_iff {parameterized : Bool} {sql : List Char} :
    faults parameterized sql = [] ↔ sql.count '(' = sql.count ')' ∧
      (parameterized = false → sql.count '\'' % 2 = 0 ∧ sql.count '"' % 2 = 0) ∧
      kindFaults parameterized sql = [] := by
  rw [faults, List.append_eq_nil_iff, List.append_eq_nil_iff, ← quoteFaults_eq_nil_iff,
    parenthesisFaults]
  cases parameterized <;> simp [and_assoc]

end Structure

/-! ## Bindings and signs of injection -/

/-- A host variable is a fault of a parameterized query; elements of request data and host variables
between braces are host variables, and make no difference. -/
theorem Binding.faults_eq_nil_iff {params : Params} {sql : List Char} :
    Binding.faults params sql = [] ↔ sql.count '?' + Text.nameCount ':' sql = params.size ∧
      ¬ (0 < sql.count '?' ∧ 0 < Text.nameCount ':' sql) ∧ Text.nameCount '$' sql = 0 := by
  have hvar : Text.nameCount '$' sql = 0 ↔ Catalog.hostVariable.occursIn sql = false := by
    rw [← Bool.not_eq_true, Statement.hostVariable_occursIn_iff]
    omega
  have haccess := mt (@Statement.hostVariable_of_superglobalAccess sql)
  have hbraces := mt (@Statement.hostVariable_of_interpolation sql)
  rw [hvar, Binding.faults, Binding.countFaults, Statement.placeholderCount_eq,
    Statement.positionalCount, Statement.namedCount_eq]
  simp only [List.append_eq_nil_iff, ite_eq_left_iff, ite_eq_right_iff, List.cons_ne_nil, imp_false,
    Bool.or_eq_true, not_or, Decidable.not_not, Bool.not_eq_true, and_assoc] at haccess hbraces ⊢
  constructor
  · rintro ⟨hcount, hmixed, -, hhost, -⟩
    exact ⟨hcount, hmixed, hhost⟩
  · rintro ⟨hcount, hmixed, hhost⟩
    exact ⟨hcount, hmixed, haccess hhost, hhost, hbraces hhost⟩

theorem Injection.faults_raw_eq_nil_iff {sql : List Char} :
    Injection.faults false sql = [] ↔
      (∀ l ∈ Statement.literals sql, ∀ idiom ∈ Catalog.idioms, idiom.pattern.occursIn l = false) ∧
      ∀ name ∈ Catalog.superglobals, ¬ name.toList <:+: sql := by
  rw [Injection.faults, if_neg Bool.false_ne_true, List.append_eq_nil_iff,
    Injection.superglobalFaults, List.map_eq_nil_iff, List.filter_eq_nil_iff,
    List.flatMap_eq_nil_iff]
  simp only [Text.contains_iff, Injection.numbered, Injection.literalFaults, List.map_eq_nil_iff,
    List.filter_eq_nil_iff, Bool.not_eq_true]
  refine and_congr_left' ⟨fun h l hl => ?_, fun h l hl => h _ (List.fst_mem_of_mem_zipIdx hl)⟩
  obtain ⟨i, hi⟩ := List.mem_iff_getElem?.1 hl
  exact h (l, 1 + i) (List.mk_add_mem_zipIdx_iff_getElem?.2 hi)

/-! ## Accepted queries -/

namespace Audit

/-- A parameterized query without faults has a text of the form for its number of bound values. -/
theorem faults_parameterized_eq_nil_iff {t : String} {p : Params} :
    faults (.parameterized t p) = [] ↔ ParameterizedForm p.size (Text.trim t.toList) := by
  cases h : (Text.trim t.toList).isEmpty with
  | true =>
    rw [faults_of_blank (q := .parameterized t p) h]
    exact ⟨fun hf => absurd hf (List.cons_ne_nil _ _),
      fun hf => absurd (List.isEmpty_iff.1 h) hf.nonempty⟩
  | false =>
    rw [faults_parameterized h, List.append_eq_nil_iff, Structure.faults_eq_nil_iff,
      Structure.kindFaults_eq_nil_iff, Binding.faults_eq_nil_iff]
    constructor
    · rintro ⟨⟨hbalanced, -, hrestricted, hmatched⟩, hbound, hunmixed, hclosed⟩
      exact ⟨⟨List.isEmpty_eq_false_iff.1 h, hbalanced, hrestricted⟩, hbound, hunmixed, hclosed,
        hmatched⟩
    · rintro ⟨⟨-, hbalanced, hrestricted⟩, hbound, hunmixed, hclosed, hmatched⟩
      exact ⟨⟨hbalanced, fun hn => absurd hn (by decide), hrestricted, hmatched⟩, hbound, hunmixed,
        hclosed⟩

/-- A raw query without faults has a text of the form for raw queries. -/
theorem faults_raw_eq_nil_iff {t : String} :
    faults (.raw t) = [] ↔ RawForm (Text.trim t.toList) := by
  cases h : (Text.trim t.toList).isEmpty with
  | true =>
    rw [faults_of_blank (q := .raw t) h]
    exact ⟨fun hf => absurd hf (List.cons_ne_nil _ _),
      fun hf => absurd (List.isEmpty_iff.1 h) hf.nonempty⟩
  | false =>
    rw [faults_raw h, List.append_eq_nil_iff, Structure.faults_eq_nil_iff,
      Structure.kindFaults_eq_nil_iff, Injection.faults_raw_eq_nil_iff]
    -- Only if quotes are paired are the literals all segments at the odd positions.
    constructor
    · rintro ⟨⟨hbalanced, hquotes, hrestricted, hmatched⟩, hharmless, hclosed⟩
      obtain ⟨hsingle, hdouble⟩ := hquotes rfl
      refine ⟨⟨List.isEmpty_eq_false_iff.1 h, hbalanced, hrestricted⟩, hsingle, hdouble,
        fun i segment hi => ?_, hclosed, hmatched⟩
      exact hharmless segment ((Statement.mem_literals_iff hsingle).2 ⟨i, hi⟩)
    · rintro ⟨⟨-, hbalanced, hrestricted⟩, hsingle, hdouble, hharmless, hclosed, hmatched⟩
      refine ⟨⟨hbalanced, fun _ => ⟨hsingle, hdouble⟩, hrestricted, hmatched⟩, fun l hl => ?_,
        hclosed⟩
      obtain ⟨i, hi⟩ := (Statement.mem_literals_iff hsingle).1 hl
      exact hharmless i l hi

end Audit

/-- A parameterized query passes the audit if and only if its trimmed text has the form for its
number of bound values, and otherwise it has errors; but the call fails, and returns no report, if
the text is not blank and remarks on a parameter show an integer of too many digits. Elements of
request data and host variables between braces need no condition of their own, since a host variable
occurs wherever they do. -/
theorem parameterized_success_iff {o : Options} (ho : o.Audits) {b : Bool}
    (hb : Field.bool o.verbose = .ok b) (wire : Wire) (now : Timestamp) (t : String) (p : Params) :
    let result := (Validator.silent.attempt wire now (.query (.parameterized t p)) o).result
    (result = .error (.unwritable .digits) ↔
      Text.trim t.toList ≠ [] ∧ p.isOverlong b = true) ∧
    (¬ (Text.trim t.toList ≠ [] ∧ p.isOverlong b = true) → ∃ r, result = .ok r ∧
      (r.status = .success ↔ ParameterizedForm p.size (Text.trim t.toList)) ∧
      (r.status = .error ↔ ¬ ParameterizedForm p.size (Text.trim t.toList))) ∧
    ∀ pattern ∈ [Catalog.superglobalAccess, Catalog.interpolation],
      pattern.occursIn (Text.trim t.toList) = true →
        Catalog.hostVariable.occursIn (Text.trim t.toList) = true := by
  intro result
  have hq : (Submission.query (.parameterized t p)).toQuery = .ok (.parameterized t p) := rfl
  refine ⟨Validator.silent.attempt_fails_iff ho hb hq wire now, fun h => ?_, ?_⟩
  · obtain ⟨c, hc⟩ := (Validator.silent.attempt_query ho hb hq wire now).2 h
    refine ⟨_, congrArg Outcome.result hc, ?_, ?_⟩ <;>
      simp [← Audit.faults_parameterized_eq_nil_iff]
  · simp only [List.mem_cons, List.not_mem_nil, or_false]
    rintro pattern (rfl | rfl)
    · exact Statement.hostVariable_of_superglobalAccess
    · exact Statement.hostVariable_of_interpolation

/-- An insert with a name for each value passes; blanks around it and the case of its first word do
not matter. -/
theorem named_insert_succeeds :
    ∃ r, (Validator.silent.attempt {} ⟨2024, 1, 2, 3, 4, 5, 0⟩
        (.query (.parameterized "  insert INTO logs (level, user) VALUES (:level, :user);\n"
          (.ofList [.text "info", .int 7]))) { verbose := .text "no" }).result = .ok r ∧
      r.status = .success := by
  obtain ⟨-, hreport, -⟩ := parameterized_success_iff (o := { verbose := .text "no" })
    ⟨rfl, ⟨false, rfl⟩, ⟨none, rfl⟩⟩ rfl {} ⟨2024, 1, 2, 3, 4, 5, 0⟩
    "  insert INTO logs (level, user) VALUES (:level, :user);\n" (.ofList [.text "info", .int 7])
  have hshort : (Params.ofList [.text "info", .int 7]).isOverlong false = false := by
    show [(Key.position 0, Scalar.text "info"), (Key.position 1, Scalar.int 7)].any
      (Binding.isOverlong false) = false
    have hfirst : (Key.position 0).isOverlong = false := Scalar.isOverlong_int_of_lt (by decide)
    have hsecond : (Key.position 1).isOverlong = false := Scalar.isOverlong_int_of_lt (by decide)
    simp [Binding.isOverlong, hfirst, hsecond]
  obtain ⟨r, hr, hs, -⟩ := hreport (by simp [hshort])
  refine ⟨r, hr, hs.2 ⟨⟨by decide, by decide, by decide⟩, by decide, by decide, by decide, ?_⟩⟩
  rintro - o ho
  have hf : Catalog.insertStatement.find?
      (Text.trim "  insert INTO logs (level, user) VALUES (:level, :user);\n".toList) =
      some ⟨0, "insert INTO logs (level, user) VALUES (:level, :user)".toList,
        ["logs".toList, "level, user".toList, ":level, :user".toList]⟩ := by decide +kernel
  rw [hf] at ho
  cases ho
  exact ⟨_, _, _, rfl, by decide⟩

/-- A query with one placeholder and one parameter has the form, but its verbose audit fails if the
parameter is the least integer of too many digits. -/
theorem huge_parameter_fails :
    ParameterizedForm 1 (Text.trim "SELECT ?;".toList) ∧
    (Params.ofList [.int Numeral.digitBound]).size = 1 ∧
    (Validator.silent.attempt {} ⟨2024, 1, 2, 3, 4, 5, 0⟩
      (.query (.parameterized "SELECT ?;" (.ofList [.int Numeral.digitBound])))
      { verbose := .bool true }).result = .error (.unwritable .digits) := by
  refine ⟨⟨⟨by decide, by decide, by decide⟩, by decide, by decide, by decide, ?_⟩, rfl,
    Validator.silent.attempt_overlong rfl (by decide) Scalar.isOverlong_digitBound _ _⟩
  exact fun hk => absurd hk (by decide)

/-- A raw query passes the audit if and only if its trimmed text has the form for raw queries;
otherwise it fails. -/
theorem raw_success_iff {o : Options} (ho : o.Audits) (wire : Wire) (now : Timestamp)
    (t : String) :
    ∃ r, (Validator.silent.validate wire now (.query (.raw t)) o).result = .ok r ∧
      (r.status = .success ↔ RawForm (Text.trim t.toList)) ∧
      (r.status = .error ↔ ¬ RawForm (Text.trim t.toList)) := by
  obtain ⟨b, c, hr⟩ := Validator.validate_query_eq_ok ho wire now (.raw t)
  refine ⟨_, hr, ?_, ?_⟩ <;>
    simp [← Audit.faults_raw_eq_nil_iff]

/-- A raw query with harmless literals passes; its `WHERE` may be in any case. -/
theorem harmless_literal_succeeds :
    ∃ r, (Validator.silent.validate {} ⟨2024, 1, 2, 3, 4, 5, 0⟩
        (.query (.raw "DELETE FROM t where b = 'it' OR c = 'ok' "))
        { verbose := .text "no" }).result = .ok r ∧ r.status = .success := by
  obtain ⟨r, hr, hs, -⟩ := raw_success_iff (o := { verbose := .text "no" })
    ⟨rfl, ⟨false, rfl⟩, ⟨none, rfl⟩⟩ {} ⟨2024, 1, 2, 3, 4, 5, 0⟩
    "DELETE FROM t where b = 'it' OR c = 'ok' "
  refine ⟨r, hr, hs.2 ⟨⟨by decide, by decide, by decide +kernel⟩, by decide, by decide, ?_,
    by decide +kernel, fun hk => absurd hk (by decide)⟩⟩
  have hsplit : (Text.trim "DELETE FROM t where b = 'it' OR c = 'ok' ".toList).splitOn '\'' =
      ["DELETE FROM t where b = ".toList, "it".toList, " OR c = ".toList, "ok".toList, []] := by
    decide +kernel
  intro i segment hi
  rw [hsplit] at hi
  match i with
  | 0 =>
    cases hi
    decide +kernel
  | 1 =>
    cases hi
    decide +kernel
  | i + 2 =>
    rw [List.getElem?_eq_none (by simp only [List.length_cons, List.length_nil]; omega)] at hi
    cases hi

end SqlAudit
