import SqlAudit.Proofs.Audit.Invariance
import SqlAudit.Proofs.Pattern.Case

/-!
# The case of letters in a query

Every check reads a text as it reads its small form: patterns and tables hold for any case, and all
other signs that the checks look for are no letters. Only the names of request data are searched for
as they are written, and they all start with `$_`. Main statements:

* `Structure.faults_uncased`, `Structure.cautions_uncased`, `Binding.faults_uncased`,
  `Binding.cautions_uncased`: what the structure and the bindings of a text give rise to is the same
  for its small form;
* `Injection.codes_faults_uncased`, `Injection.codes_cautions_uncased`: findings that quote the text
  keep their codes;
* `Binding.flatMap_valueCautions_eq`: bound texts are searched in small form;
* `validate_sameButCase`: the reports of two queries that differ only in case have findings with the
  same codes.
-/

namespace SqlAudit

/-! ## Statements -/

namespace Statement

@[simp] theorem typeName_uncased (sql : List Char) :
    typeName (Text.uncased sql) = typeName sql := by
  rw [typeName, Text.firstToken_uncased, Text.upper_uncased, typeName]

@[simp] theorem kind_uncased (sql : List Char) : kind (Text.uncased sql) = kind sql := by
  rw [kind, typeName_uncased, kind]

@[simp] theorem hasWhere_uncased (sql : List Char) :
    hasWhere (Text.uncased sql) = hasWhere sql := by
  rw [hasWhere, Text.upper_uncased, hasWhere]

@[simp] theorem positionalCount_uncased (sql : List Char) :
    positionalCount (Text.uncased sql) = positionalCount sql :=
  Text.count_uncased (by decide) sql

@[simp] theorem namedCount_uncased (sql : List Char) :
    namedCount (Text.uncased sql) = namedCount sql := by
  simp only [namedCount, namedPlaceholders, List.length_map,
    Pattern.occurrences_uncased (p := Catalog.namedPlaceholder) (by decide)]

@[simp] theorem placeholderCount_uncased (sql : List Char) :
    placeholderCount (Text.uncased sql) = placeholderCount sql := by
  rw [placeholderCount, positionalCount_uncased, namedCount_uncased, placeholderCount]

@[simp] theorem hostVariable_occursIn_uncased (sql : List Char) :
    Catalog.hostVariable.occursIn (Text.uncased sql) = Catalog.hostVariable.occursIn sql :=
  Pattern.occursIn_uncased (by decide) sql

/-- The literals of a text in small form are the small forms of its literals. -/
@[simp] theorem literals_uncased (sql : List Char) :
    literals (Text.uncased sql) = (literals sql).map Text.uncased := by
  rw [literals, Pattern.occurrences_uncased (by decide), List.flatMap_map, literals,
    List.map_flatMap]
  rfl

end Statement

/-! ## Structure -/

namespace Structure

/-- The parts of an insert statement in small form. -/
def Insert.uncased (i : Insert) : Insert :=
  ⟨Text.uncased i.table, Text.uncased i.fields, Text.uncased i.values⟩

@[simp] theorem itemCount_uncased (s : List Char) : itemCount (Text.uncased s) = itemCount s := by
  rw [itemCount, Text.count_uncased (by decide), itemCount]

@[simp] theorem insert?_uncased (sql : List Char) :
    insert? (Text.uncased sql) = (insert? sql).map Insert.uncased := by
  have hgroups : (Catalog.insertStatement.find? (Text.uncased sql)).map Occurrence.groups =
      ((Catalog.insertStatement.find? sql).map Occurrence.groups).map (List.map Text.uncased) := by
    rw [Pattern.find?_uncased (by decide), Option.map_map, Option.map_map]
    rfl
  rw [insert?, hgroups, insert?]
  match (Catalog.insertStatement.find? sql).map Occurrence.groups with
  | none => rfl
  | some [] => rfl
  | some [_] => rfl
  | some [_, _] => rfl
  | some [_, _, _] => rfl
  | some (_ :: _ :: _ :: _ :: _) => rfl

@[simp] theorem setCount_uncased (sql : List Char) :
    setCount (Text.uncased sql) = setCount sql := by
  rw [setCount, Text.upper_uncased, setCount]

@[simp] theorem joinCount_uncased (sql : List Char) :
    joinCount (Text.uncased sql) = joinCount sql := by
  rw [joinCount, Pattern.occurrences_uncased (by decide), List.length_map, joinCount]

theorem parenthesisFaults_uncased (sql : List Char) :
    parenthesisFaults (Text.uncased sql) = parenthesisFaults sql := by
  rw [parenthesisFaults, Text.count_uncased (by decide), Text.count_uncased (by decide),
    parenthesisFaults]

theorem isAlpha_sign (q : Quote) : q.sign.isAlpha = false := by
  cases q <;> decide

theorem quoteFaults_uncased (sql : List Char) :
    quoteFaults (Text.uncased sql) = quoteFaults sql := by
  simp only [quoteFaults, Text.count_uncased (isAlpha_sign _)]

theorem insertFaults_uncased (parameterized : Bool) (i : Insert) :
    insertFaults parameterized i.uncased = insertFaults parameterized i := by
  simp only [insertFaults, Insert.uncased, itemCount_uncased, Statement.placeholderCount_uncased]

theorem kindFaults_uncased (parameterized : Bool) (sql : List Char) :
    kindFaults parameterized (Text.uncased sql) = kindFaults parameterized sql := by
  have hinsert : (insert? (Text.uncased sql)).elim [] (insertFaults parameterized) =
      (insert? sql).elim [] (insertFaults parameterized) := by
    rw [insert?_uncased]
    cases insert? sql with
    | none => rfl
    | some i => exact insertFaults_uncased parameterized i
  rw [kindFaults, kindFaults, Statement.kind_uncased, Statement.hasWhere_uncased, hinsert]

/-- The structure of a text has the faults that it has in small form. -/
theorem faults_uncased (parameterized : Bool) (sql : List Char) :
    faults parameterized (Text.uncased sql) = faults parameterized sql := by
  rw [faults, parenthesisFaults_uncased, quoteFaults_uncased, kindFaults_uncased, faults]

theorem cautions_uncased (sql : List Char) : cautions (Text.uncased sql) = cautions sql := by
  have hstar : Catalog.selectStar.occursIn (Text.uncased sql) = Catalog.selectStar.occursIn sql :=
    Pattern.occursIn_uncased (by decide) sql
  rw [cautions, cautions, Text.trim_uncased, Text.endsWith_uncased (by decide),
    Statement.kind_uncased, hstar, updateCautions, Statement.hasWhere_uncased, setCount_uncased]
  rfl

theorem quoteNotes_uncased (sql : List Char) : quoteNotes (Text.uncased sql) = quoteNotes sql := by
  simp only [quoteNotes, Text.count_uncased (isAlpha_sign _)]

theorem length_insertNotes_uncased (parameterized : Bool) (i : Insert) :
    (insertNotes parameterized i.uncased).length = (insertNotes parameterized i).length := by
  simp only [insertNotes, Insert.uncased, itemCount_uncased, Statement.placeholderCount_uncased]
  split
  · split <;> rfl
  · rfl

theorem length_kindNotes_uncased (parameterized : Bool) (sql : List Char) :
    (kindNotes parameterized (Text.uncased sql)).length = (kindNotes parameterized sql).length := by
  rw [kindNotes, kindNotes, Statement.kind_uncased, Statement.hasWhere_uncased, joinCount_uncased,
    insert?_uncased]
  cases Statement.kind sql with
  | insert =>
    cases insert? sql with
    | none => rfl
    | some i => exact length_insertNotes_uncased parameterized i
  | _ => rfl

/-- Notes quote the text, so that only their number is the same. -/
theorem length_notes_uncased (parameterized : Bool) (sql : List Char) :
    (notes parameterized (Text.uncased sql)).length = (notes parameterized sql).length := by
  have hopen : (Text.uncased sql).count '(' = sql.count '(' := Text.count_uncased (by decide) sql
  have hclose : (Text.uncased sql).count ')' = sql.count ')' := Text.count_uncased (by decide) sql
  simp only [notes, hopen, hclose, quoteNotes_uncased, List.length_append,
    length_kindNotes_uncased, List.length_cons]

end Structure

/-! ## Request data -/

theorem Text.infix_uncased_iff {needle s : List Char} (hn : letterFree needle = true) :
    needle <:+: uncased s ↔ needle <:+: s := by
  rw [← contains_iff, contains_uncased hn, contains_iff]

/-- No element of request data is in a text without the signs that all their names start with. -/
theorem Binding.superglobalAccess_of_free {sql : List Char} (h : ¬ "$_".toList <:+: sql) :
    Catalog.superglobalAccess.occursIn sql = false := by
  rw [← Bool.not_eq_true, Pattern.occursIn_iff]
  rintro ⟨skipped, text, groups, after, rfl, hr⟩
  rw [Catalog.superglobalAccess, Pattern.reads_seq] at hr
  obtain ⟨t₁, g₁, t₂, g₂, rfl, -, hr, -⟩ := hr
  obtain ⟨t₃, g₃, t₄, g₄, rfl, -, hr, -⟩ := Pattern.reads_seq.1 hr
  obtain ⟨rfl, -⟩ := Pattern.reads_text.1 hr
  exact h ⟨skipped, t₄ ++ t₂ ++ after, by simp⟩

/-- No name of request data is in such a text. -/
theorem Injection.superglobalFaults_of_free {sql : List Char} (h : ¬ "$_".toList <:+: sql) :
    superglobalFaults sql = [] := by
  have hnames : ∀ name ∈ Catalog.superglobals, "$_".toList <+: name.toList := by decide
  have hnone : (Catalog.superglobals.filter fun name => Text.contains name.toList sql) = [] := by
    rw [List.filter_eq_nil_iff]
    intro name hname hc
    exact h ((hnames name hname).isInfix.trans (Text.contains_iff.1 hc))
  rw [superglobalFaults, hnone]
  rfl

/-! ## Bindings -/

namespace Binding

open Statement

theorem faults_uncased (params : Params) {sql : List Char} (h : ¬ "$_".toList <:+: sql) :
    faults params (Text.uncased sql) = faults params sql := by
  have h' : ¬ "$_".toList <:+: Text.uncased sql := by
    rwa [Text.infix_uncased_iff (by decide)]
  have hbraces : Catalog.interpolation.occursIn (Text.uncased sql) =
      Catalog.interpolation.occursIn sql := Pattern.occursIn_uncased (by decide) sql
  rw [faults, countFaults, placeholderCount_uncased, positionalCount_uncased, namedCount_uncased,
    superglobalAccess_of_free h', hostVariable_occursIn_uncased, hbraces, faults, countFaults,
    superglobalAccess_of_free h]

@[simp] theorem mentions_uncased (needle : String) (s : List Char) :
    mentions needle (Text.uncased s) = mentions needle s := by
  rw [mentions, Text.lower_uncased, mentions]

theorem cautions_uncased (params : Params) (sql : List Char) :
    cautions params (Text.uncased sql) = cautions params sql := by
  rw [cautions, literals_uncased, List.isEmpty_map, cautions]

/-- The number of notes depends on how many values are bound, not on which. -/
theorem length_notes (params : Params) (sql : List Char) : (notes params sql).length =
    2 + (if 0 < namedCount sql then 1 else 0) +
      (if placeholderCount sql = params.size then 1 else 0) +
      (if params.size = 0 then 0 else 1) + params.size +
      (if (literals sql).isEmpty then 0 else 1) := by
  have hempty : params.entries.isEmpty = true ↔ params.size = 0 := List.isEmpty_iff_length_eq_zero
  have hsize : params.entries.length = params.size := rfl
  simp only [notes, countNotes, List.length_append, apply_ite List.length, List.length_cons,
    List.length_nil, List.length_map, Nat.zero_add, hempty, hsize]

theorem length_notes_uncased (params : Params) (sql : List Char) :
    (notes params (Text.uncased sql)).length = (notes params sql).length := by
  simp only [length_notes, namedCount_uncased, placeholderCount_uncased, literals_uncased,
    List.isEmpty_map]

end Binding

/-! ## Signs of injection -/

namespace Injection

open Statement

theorem ignoresCase_of_mem_idioms {i : Catalog.Idiom} (h : i ∈ Catalog.idioms) :
    i.pattern.ignoresCase = true := by
  have hall : (Catalog.idioms.all fun i => i.pattern.ignoresCase) = true := by decide
  exact List.all_eq_true.1 hall i h

theorem numbered_uncased (sql : List Char) :
    numbered (Text.uncased sql) = (numbered sql).map (Prod.map Text.uncased id) := by
  rw [numbered, literals_uncased, List.zipIdx_map, numbered]

theorem codes_literalFaults_uncased (l : List Char × Nat) :
    (literalFaults (Prod.map Text.uncased id l)).map Fault.code =
      (literalFaults l).map Fault.code := by
  have hfilter : (Catalog.idioms.filter fun i => i.pattern.occursIn (Text.uncased l.1)) =
      Catalog.idioms.filter fun i => i.pattern.occursIn l.1 :=
    List.filter_congr fun i hi => Pattern.occursIn_uncased (ignoresCase_of_mem_idioms hi) l.1
  rw [literalFaults, literalFaults, Prod.map_fst, hfilter, List.map_map, List.map_map]
  rfl

theorem codes_faults_uncased (parameterized : Bool) {sql : List Char}
    (h : ¬ "$_".toList <:+: sql) : (faults parameterized (Text.uncased sql)).map Fault.code =
      (faults parameterized sql).map Fault.code := by
  have h' : ¬ "$_".toList <:+: Text.uncased sql := by
    rwa [Text.infix_uncased_iff (by decide)]
  rw [faults, faults, superglobalFaults_of_free h, superglobalFaults_of_free h']
  split
  · rfl
  · simp only [List.append_nil, numbered_uncased, List.flatMap_map, List.map_flatMap,
      codes_literalFaults_uncased]

theorem hasLoneBackslash_uncased (s : List Char) :
    hasLoneBackslash (Text.uncased s) = hasLoneBackslash s := by
  rw [hasLoneBackslash, Text.contains_char_uncased (by decide), Text.contains_uncased (by decide),
    hasLoneBackslash]

theorem codes_literalCautions_uncased (l : List Char) :
    (literalCautions (Text.uncased l)).map Caution.code = (literalCautions l).map Caution.code := by
  rw [literalCautions, hasLoneBackslash_uncased, literalCautions]
  split <;> rfl

theorem codes_rawCautions_uncased (sql : List Char) :
    (rawCautions (Text.uncased sql)).map Caution.code = (rawCautions sql).map Caution.code := by
  simp only [rawCautions, literals_uncased, hostVariable_occursIn_uncased, Text.upper_uncased,
    List.map_append, List.flatMap_map, List.map_flatMap, codes_literalCautions_uncased]

theorem commentCautions_uncased (sql : List Char) :
    commentCautions (Text.uncased sql) = commentCautions sql := by
  have hhash : Catalog.hashComment.occursIn (Text.uncased sql) =
      Catalog.hashComment.occursIn sql := Pattern.occursIn_uncased (by decide) sql
  rw [commentCautions, Text.contains_uncased (by decide), Text.contains_uncased (by decide),
    Text.contains_uncased (by decide), hhash, commentCautions]

theorem codes_cautions_uncased (parameterized : Bool) (sql : List Char) :
    (cautions parameterized (Text.uncased sql)).map Caution.code =
      (cautions parameterized sql).map Caution.code := by
  rw [cautions, cautions, List.map_append, List.map_append, commentCautions_uncased]
  split
  · rfl
  · rw [codes_rawCautions_uncased]

theorem length_notes_uncased (parameterized : Bool) (sql : List Char) :
    (notes parameterized (Text.uncased sql)).length = (notes parameterized sql).length := by
  simp only [notes, literals_uncased, List.isEmpty_map, numbered_uncased]
  split
  · rfl
  · simp only [List.length_cons, List.length_map]

end Injection

/-! ## Queries -/

/-- The small form of a scalar that is a text. -/
def Scalar.uncased? : Scalar → Option (List Char)
  | .text s => some (Text.uncased s.toList)
  | _ => none

/-- The keys in order, each with the small form of the text that is bound to it, if it is one. -/
def Params.uncased (p : Params) : List (Key × Option (List Char)) :=
  p.entries.map fun e => (e.1, e.2.uncased?)

/-- Bound texts give rise to the cautions that their small forms do, and other values to none. -/
theorem Binding.flatMap_valueCautions_eq (p : Params) : p.entries.flatMap valueCautions =
    p.uncased.flatMap fun e => e.2.elim [] (textCautions e.1) := by
  have hvalue (e : Key × Scalar) :
      valueCautions e = e.2.uncased?.elim [] (textCautions e.1) := by
    obtain ⟨key, v⟩ := e
    cases v with
    | text s =>
      simp only [Scalar.uncased?, Option.elim_some, valueCautions, textCautions, mentions_uncased]
    | _ => rfl
  rw [Params.uncased, List.flatMap_map]
  exact congrArg (p.entries.flatMap ·) (funext hvalue)

/-- Entries with distinct keys that are the same up to order are the same if their keys are. -/
theorem Params.eq_of_perm {α : Type} {es es' : List (Key × α)} (hperm : es.Perm es')
    (hkeys : es.map Prod.fst = es'.map Prod.fst) (hnodup : (es.map Prod.fst).Nodup) : es = es' := by
  induction es generalizing es' with
  | nil => exact hperm.nil_eq
  | cons e es ih =>
    obtain _ | ⟨e', es'⟩ := es'
    · cases hkeys
    · rw [List.map_cons, List.map_cons, List.cons.injEq] at hkeys
      rw [List.map_cons, List.nodup_cons] at hnodup
      obtain rfl : e = e' := by
        rcases List.mem_cons.1 (hperm.mem_iff.1 List.mem_cons_self) with he | he
        · exact he
        · exact absurd (hkeys.2 ▸ List.mem_map_of_mem he) hnodup.1
      rw [ih hperm.cons_inv hkeys.2 hnodup.2]

/-- Two queries of one kind whose texts, and the texts bound to each key, differ only in the case of
basic Latin letters. Values that are no texts and the order of the keys may differ too. -/
structure Query.SameButCase (q q' : Query) : Prop where
  kind : q.isParameterized = q'.isParameterized
  text : Text.uncased q.text.toList = Text.uncased q'.text.toList
  bound : q.bound.uncased.Perm q'.bound.uncased

namespace Query.SameButCase

variable {q q' : Query} (h : q.SameButCase q')
include h

theorem trim :
    Text.uncased (Text.trim q.text.toList) = Text.uncased (Text.trim q'.text.toList) := by
  rw [← Text.trim_uncased, h.text, Text.trim_uncased]

theorem isEmpty_trim :
    (Text.trim q.text.toList).isEmpty = (Text.trim q'.text.toList).isEmpty := by
  rw [← Text.isEmpty_uncased, h.trim, Text.isEmpty_uncased]

theorem size : q.bound.size = q'.bound.size := by
  simpa [Params.uncased, Params.size] using h.bound.length_eq

/-- Bound values are in the same order if their keys are. -/
theorem uncased_eq (hkeys : q.bound.keys = q'.bound.keys) : q.bound.uncased = q'.bound.uncased := by
  have hmap (p : Params) : p.uncased.map Prod.fst = p.keys := by
    rw [Params.uncased, List.map_map]
    rfl
  refine Params.eq_of_perm h.bound ?_ ?_
  · rw [hmap, hmap, hkeys]
  · rw [hmap]
    exact q.bound.distinct

end Query.SameButCase

namespace Audit

/-! ### The same parameters, for a text and its small form -/

section Text

variable (parameterized : Bool) (p : Params) (sql : List Char)

theorem codes_faults_remarks_uncased (hfree : ¬ "$_".toList <:+: sql) :
    (remarks parameterized p (Text.uncased sql)).faults.map Fault.code =
      (remarks parameterized p sql).faults.map Fault.code := by
  simp only [faults_remarks, List.map_append]
  rw [Structure.faults_uncased, Binding.faults_uncased p hfree,
    Injection.codes_faults_uncased parameterized hfree]

theorem codes_cautions_remarks_uncased :
    (remarks parameterized p (Text.uncased sql)).cautions.map Caution.code =
      (remarks parameterized p sql).cautions.map Caution.code := by
  simp only [cautions_remarks, List.map_append]
  rw [Structure.cautions_uncased, Binding.cautions_uncased, Injection.codes_cautions_uncased]

theorem length_notes_remarks_uncased :
    (remarks parameterized p (Text.uncased sql)).notes.length =
      (remarks parameterized p sql).notes.length := by
  simp only [notes_remarks, List.length_append, apply_ite List.length,
    Structure.length_notes_uncased, Binding.length_notes_uncased, Injection.length_notes_uncased]

end Text

/-! ### Different parameters, for one text -/

section Params

variable {p p' : Params} (parameterized : Bool) (sql : List Char)

theorem faults_remarks_of_size (hp : p.size = p'.size) :
    (remarks parameterized p sql).faults = (remarks parameterized p' sql).faults := by
  simp only [faults_remarks, Binding.faults, Binding.countFaults, hp]

theorem length_notes_remarks_of_size (hp : p.size = p'.size) :
    (remarks parameterized p sql).notes.length = (remarks parameterized p' sql).notes.length := by
  simp only [notes_remarks, List.length_append, apply_ite List.length, Binding.length_notes, hp]

theorem cautions_remarks_of_perm (hp : p.uncased.Perm p'.uncased) :
    (remarks parameterized p sql).cautions.Perm (remarks parameterized p' sql).cautions := by
  have hvalues : (Binding.cautions p sql).Perm (Binding.cautions p' sql) := by
    rw [Binding.cautions, Binding.cautions, Binding.flatMap_valueCautions_eq,
      Binding.flatMap_valueCautions_eq]
    exact (hp.flatMap_right _).append_right _
  rw [cautions_remarks, cautions_remarks]
  refine (List.Perm.append_left _ ?_).append_right _
  split
  · exact hvalues
  · exact .nil

theorem cautions_remarks_of_eq (hp : p.uncased = p'.uncased) :
    (remarks parameterized p sql).cautions = (remarks parameterized p' sql).cautions := by
  rw [cautions_remarks, cautions_remarks, Binding.cautions, Binding.cautions,
    Binding.flatMap_valueCautions_eq, Binding.flatMap_valueCautions_eq, hp]

end Params

/-! ### Queries that differ in case -/

section Queries

variable {q q' : Query} (h : q.SameButCase q')
include h

/-- Queries that differ in case have faults with the same codes, unless they may name request
data. -/
theorem codes_faults_eq (hfree : ¬ "$_".toList <:+: q.text.toList) :
    (faults q).map Fault.code = (faults q').map Fault.code := by
  have hfree : ¬ "$_".toList <:+: Text.trim q.text.toList := fun hc =>
    hfree (hc.trans (Text.isInfix_trim q.text.toList))
  have hfree' : ¬ "$_".toList <:+: Text.trim q'.text.toList := by
    rwa [← Text.infix_uncased_iff (by decide), ← h.trim, Text.infix_uncased_iff (by decide)]
  rw [faults, faults, h.isEmpty_trim, h.kind]
  split
  · rfl
  · -- From one text to the small form that both have in common, then to the other text.
    rw [← codes_faults_remarks_uncased _ _ _ hfree, h.trim, faults_remarks_of_size _ _ h.size,
      codes_faults_remarks_uncased _ _ _ hfree']

theorem codes_cautions_perm :
    ((cautions q).map Caution.code).Perm ((cautions q').map Caution.code) := by
  rw [cautions, cautions, h.isEmpty_trim, h.kind]
  split
  · exact .nil
  · rw [List.map_append, List.map_append, ← codes_cautions_remarks_uncased, h.trim,
      ← codes_cautions_remarks_uncased _ _ (Text.trim q'.text.toList)]
    exact ((cautions_remarks_of_perm _ _ h.bound).map _).append_left _

theorem codes_cautions_eq (hkeys : q.bound.keys = q'.bound.keys) :
    (cautions q).map Caution.code = (cautions q').map Caution.code := by
  rw [cautions, cautions, h.isEmpty_trim, h.kind]
  split
  · rfl
  · rw [List.map_append, List.map_append, ← codes_cautions_remarks_uncased, h.trim,
      cautions_remarks_of_eq _ _ (h.uncased_eq hkeys), codes_cautions_remarks_uncased]

theorem length_notes_eq (loud verbose : Bool) :
    (notes loud verbose q).length = (notes loud verbose q').length := by
  have hremarks : (remarks q'.isParameterized q.bound (Text.trim q.text.toList)).notes.length =
      (remarks q'.isParameterized q'.bound (Text.trim q'.text.toList)).notes.length := by
    rw [← length_notes_remarks_uncased, h.trim, length_notes_remarks_of_size _ _ h.size,
      length_notes_remarks_uncased]
  rw [notes, notes, h.isEmpty_trim, h.kind, h.size]
  split
  · rfl
  · simp only [List.length_append, apply_ite List.length, hremarks]

end Queries

end Audit

/-- The case of letters does not change what is found. Two queries that differ in nothing else and
hold no `$_` are refused for the same reason, or their reports have errors with the same codes in
the same order, equally many notes and the same status. Their warnings have the same codes, and in
the same order if the parameters are. -/
theorem validate_sameButCase {s s' : Submission} {q q' : Query} (hq : s.toQuery = .ok q)
    (hq' : s'.toQuery = .ok q') (h : q.SameButCase q')
    (hfree : ¬ "$_".toList <:+: q.text.toList) (wire wire' : Wire) (now now' : Timestamp)
    (o : Options) :
    Alike (fun r r' => r.errors.map Finding.code = r'.errors.map Finding.code ∧
        (r.warnings.map Finding.code).Perm (r'.warnings.map Finding.code) ∧
        (q.bound.keys = q'.bound.keys →
          r.warnings.map Finding.code = r'.warnings.map Finding.code) ∧
        r.infos.length = r'.infos.length ∧ r.status = r'.status)
      (Validator.silent.validate wire now s o).result
      (Validator.silent.validate wire' now' s' o).result ∧
    (o.Audits → ∃ r, (Validator.silent.validate wire now s o).result = .ok r) := by
  have hfaults := Audit.codes_faults_eq h hfree
  have hcodes (fs : List Fault) : (fs.map Fault.finding).map Finding.code =
      (fs.map Fault.code).map fun c => some c.name := by
    rw [List.map_map, List.map_map]
    rfl
  have hcodes' (cs : List Caution) : (cs.map Caution.finding).map Finding.code =
      (cs.map Caution.code).map fun c => some c.name := by
    rw [List.map_map, List.map_map]
    rfl
  have hclean : Audit.faults q = [] ↔ Audit.faults q' = [] := by
    rw [← List.map_eq_nil_iff (f := Fault.code), hfaults, List.map_eq_nil_iff]
  refine ⟨?_, fun ho => ?_⟩
  · rw [Validator.validate_silent, Validator.validate_silent]
    refine Audit.run_alike hq hq' ⟨rfl, .nil, fun _ => rfl, rfl, rfl⟩
      (fun loud verbose context => ⟨?_, ?_, fun hkeys => ?_, ?_, ?_⟩) o
    · rw [Audit.errors_inspect, Audit.errors_inspect, hcodes, hfaults, hcodes]
    · rw [Audit.warnings_inspect, Audit.warnings_inspect, hcodes', hcodes']
      exact (Audit.codes_cautions_perm h).map _
    · rw [Audit.warnings_inspect, Audit.warnings_inspect, hcodes',
        Audit.codes_cautions_eq h hkeys, hcodes']
    · rw [Audit.infos_inspect, Audit.infos_inspect, List.length_map, List.length_map,
        Audit.length_notes_eq h]
    · rw [Audit.status_inspect, Audit.status_inspect]
      simp only [hclean]
  · obtain ⟨r, hr, -⟩ := Validator.validate_audits ho hq .silent wire now
    exact ⟨r, hr⟩

/-- A selection is found wanting in small letters as it is in capitals, and so is the text bound to
its placeholder. -/
theorem selection_warned_in_small_letters :
    let q := Query.parameterized "SELECT * FROM T WHERE A = :ID"
      ⟨[(.name "id", .text "X' OR 1=1; DROP --"), (.position 0, .int 1)], by decide⟩
    let q' := Query.parameterized "select * from t where a = :id"
      ⟨[(.name "id", .text "x' or 1=1; drop --"), (.position 0, .int 1)], by decide⟩
    q.SameButCase q' ∧ ¬ "$_".toList <:+: q.text.toList ∧
    ∃ r r', (Validator.silent.validate {} ⟨2024, 1, 2, 3, 4, 5, 0⟩ (.query q)
        { verbose := .bool true }).result = .ok r ∧
      (Validator.silent.validate {} ⟨2025, 1, 2, 3, 4, 5, 0⟩ (.query q')
        { verbose := .bool true }).result = .ok r' ∧
      r.errors.map Finding.code = r'.errors.map Finding.code ∧
      r.warnings.map Finding.code = r'.warnings.map Finding.code ∧
      r.infos.length = r'.infos.length ∧ r.status = r'.status := by
  intro q q'
  have hcase : q.SameButCase q' :=
    ⟨rfl, by decide, List.Perm.of_eq (by decide : q.bound.uncased = q'.bound.uncased)⟩
  have hfree : ¬ "$_".toList <:+: q.text.toList := by
    rw [← Text.contains_iff]
    decide
  have hq : (Submission.query q).toQuery = .ok q := rfl
  have hq' : (Submission.query q').toQuery = .ok q' := rfl
  obtain ⟨halike, hok⟩ := validate_sameButCase hq hq' hcase hfree {} {} ⟨2024, 1, 2, 3, 4, 5, 0⟩
    ⟨2025, 1, 2, 3, 4, 5, 0⟩ { verbose := .bool true }
  obtain ⟨r, hr⟩ := hok ⟨rfl, ⟨true, rfl⟩, ⟨none, rfl⟩⟩
  obtain ⟨r', hr', herrors, -, hwarnings, hinfos, hstatus⟩ := halike.exists_ok hr
  exact ⟨hcase, hfree, r, r', hr, hr', herrors, hwarnings rfl, hinfos, hstatus⟩

end SqlAudit
