import SqlAudit.Proofs.Audit.Codes
import SqlAudit.Proofs.Catalog.Idioms
import SqlAudit.Proofs.Text.Within

/-!
# Elements of request data

A query must not take an element of request data into its text, such as `$_GET[id]`. Raw queries are
searched for the names of request data, parameterized ones for a pattern that lists the names once
more, and leaves out `$_SERVER`. Main statements:

* `Catalog.superglobalAccess_occursIn_iff`: which names the pattern knows;
* `Audit.exists_superglobal_raw_iff`, `Audit.exists_superglobal_parameterized_iff`: when the two
  kinds of queries have a fault with the code of request data;
* `superglobal_access_reported`: the same of their reports;
* `server_access_unreported`: a parameterized query that takes an element of `$_SERVER` is reported
  without this code.
-/

namespace SqlAudit

/-- A text without blank characters at its ends is a part of a trimmed text if it is a part of the
text. -/
theorem Text.infix_trim_iff {needle s : List Char} (hne : needle ≠ [])
    (hn : Text.trim needle = needle) : needle <:+: Text.trim s ↔ needle <:+: s := by
  refine ⟨fun h => h.trans (Text.isInfix_trim s), fun h => ?_⟩
  rw [← hn] at hne ⊢
  exact Text.trim_infix_trim h hne

theorem Pattern.accepts_oneOf {words : List String} (h : words ≠ []) :
    (oneOf words).Accepts fun t => ∃ word ∈ words, t = word.toList := by
  intro before text groups after
  fun_induction oneOf words with
  | case1 => exact absurd rfl h
  | case2 word => simp only [reads_text, List.mem_singleton, exists_eq_left]
  | case3 word words hw ih =>
    have hne : words ≠ [] := fun hnil => hw (by rw [hnil])
    simp only [Reads, reads_text, ih hne, List.exists_mem_cons_iff, or_and_right]

namespace Catalog

open Pattern

/-- The query takes an element out of the variable. -/
def Accesses (sql : List Char) (name : String) : Prop :=
  name.toList ++ ['['] <:+: sql

theorem accesses_trim_iff {sql : List Char} {name : String} (h : name ∈ superglobals) :
    Accesses (Text.trim sql) name ↔ Accesses sql name := by
  have hends : ∀ name ∈ superglobals, Text.trim (name.toList ++ ['[']) = name.toList ++ ['['] := by
    decide
  exact Text.infix_trim_iff (by simp) (hends name h)

/-- The pattern for elements of request data knows all names but one. -/
theorem superglobalAccess_occursIn_iff {sql : List Char} :
    superglobalAccess.occursIn sql = true ↔
      ∃ name ∈ superglobals, name ≠ "$_SERVER" ∧ Accesses sql name := by
  have hnames : superglobals.filter (· ≠ "$_SERVER") =
      ["GET", "POST", "REQUEST", "COOKIE", "SESSION"].map ("$_" ++ ·) := by decide
  have hmem (name : String) : name ∈ superglobals ∧ name ≠ "$_SERVER" ↔
      ∃ word ∈ ["GET", "POST", "REQUEST", "COOKIE", "SESSION"], "$_" ++ word = name := by
    rw [← List.mem_map, ← hnames, List.mem_filter, decide_eq_true_iff]
  have haccepts := (((accepts_text "$_").seq (accepts_oneOf (List.cons_ne_nil "GET"
    ["POST", "REQUEST", "COOKIE", "SESSION"]))).seq (accepts_sign '[')).occursIn_iff (s := sql)
  rw [superglobalAccess, haccepts]
  constructor
  · rintro ⟨_, hinfix, _, _, rfl, ⟨_, _, rfl, rfl, word, hword, rfl⟩, rfl⟩
    obtain ⟨hname, hne⟩ := (hmem _).2 ⟨word, hword, rfl⟩
    refine ⟨"$_" ++ word, hname, hne, ?_⟩
    rwa [Accesses, String.toList_append]
  · rintro ⟨name, hname, hne, hinfix⟩
    obtain ⟨word, hword, rfl⟩ := (hmem name).1 ⟨hname, hne⟩
    rw [Accesses, String.toList_append] at hinfix
    exact ⟨_, hinfix, _, _, rfl, ⟨_, _, rfl, rfl, word, hword, rfl⟩, rfl⟩

end Catalog

/-! ## Faults -/

namespace Structure

theorem code_ne_superglobalInQuery {parameterized : Bool} {sql : List Char} {f : Fault}
    (h : f ∈ faults parameterized sql) : f.code ≠ .superglobalInQuery := by
  have hcodes (b : Bool) : Code.superglobalInQuery ∉ faultCodes b := by cases b <;> decide
  intro hcode
  exact hcodes parameterized (hcode ▸ (code_of_mem_faults h).1)

end Structure

namespace Audit

theorem emptyQuery_code_ne {f : Fault} (h : f ∈ [Fault.emptyQuery]) :
    f.code ≠ .superglobalInQuery := by
  rw [List.mem_singleton.1 h]
  decide

/-- A raw query has a fault of request data if and only if a name of request data occurs in it. -/
theorem exists_superglobal_raw_iff {t : String} :
    (∃ f ∈ faults (.raw t), f.code = .superglobalInQuery) ↔
      ∃ name ∈ Catalog.superglobals, name.toList <:+: t.toList := by
  have hends : ∀ name ∈ Catalog.superglobals, name.toList ≠ [] ∧
      Text.trim name.toList = name.toList := by decide
  have htrim {name : String} (h : name ∈ Catalog.superglobals) :
      name.toList <:+: Text.trim t.toList ↔ name.toList <:+: t.toList :=
    Text.infix_trim_iff (hends name h).1 (hends name h).2
  cases hs : (Text.trim t.toList).isEmpty with
  | true =>
    rw [faults_of_blank (q := .raw t) hs]
    constructor
    · rintro ⟨f, hf, hcode⟩
      exact absurd hcode (emptyQuery_code_ne hf)
    · rintro ⟨name, hname, hinfix⟩
      rw [← htrim hname, List.isEmpty_iff.1 hs, List.infix_nil] at hinfix
      exact absurd hinfix (hends name hname).1
  | false =>
    rw [faults_raw hs, Injection.faults, if_neg Bool.false_ne_true]
    constructor
    · rintro ⟨f, hf, hcode⟩
      rw [List.mem_append, List.mem_append, List.mem_flatMap] at hf
      rcases hf with hf | ⟨l, -, hf⟩ | hf
      · exact absurd hcode (Structure.code_ne_superglobalInQuery hf)
      · cases (Injection.code_of_mem_literalFaults hf).symm.trans hcode
      · obtain ⟨name, hname, rfl⟩ := List.mem_map.1 hf
        obtain ⟨hmem, hcontains⟩ := List.mem_filter.1 hname
        exact ⟨name, hmem, (htrim hmem).1 (Text.contains_iff.1 hcontains)⟩
    · rintro ⟨name, hname, hinfix⟩
      refine ⟨.superglobal name, List.mem_append_right _ (List.mem_append_right _ ?_), rfl⟩
      refine List.mem_map_of_mem (List.mem_filter.2 ⟨hname, ?_⟩)
      exact Text.contains_iff.2 ((htrim hname).2 hinfix)

/-- A parameterized query has a fault of request data if and only if it takes an element out of
request data other than `$_SERVER`. -/
theorem exists_superglobal_parameterized_iff {t : String} {p : Params} :
    (∃ f ∈ faults (.parameterized t p), f.code = .superglobalInQuery) ↔
      ∃ name ∈ Catalog.superglobals, name ≠ "$_SERVER" ∧ Catalog.Accesses t.toList name := by
  have htrim : (∃ name ∈ Catalog.superglobals, name ≠ "$_SERVER" ∧
      Catalog.Accesses (Text.trim t.toList) name) ↔
      ∃ name ∈ Catalog.superglobals, name ≠ "$_SERVER" ∧ Catalog.Accesses t.toList name := by
    refine exists_congr fun name => and_congr_right fun hname => ?_
    rw [Catalog.accesses_trim_iff hname]
  rw [← htrim, ← Catalog.superglobalAccess_occursIn_iff]
  cases hs : (Text.trim t.toList).isEmpty with
  | true =>
    rw [faults_of_blank (q := .parameterized t p) hs, List.isEmpty_iff.1 hs]
    constructor
    · rintro ⟨f, hf, hcode⟩
      exact absurd hcode (emptyQuery_code_ne hf)
    · intro h
      exact absurd h (by decide)
  | false =>
    rw [faults_parameterized hs]
    constructor
    · rintro ⟨f, hf, hcode⟩
      rcases List.mem_append.1 hf with hf | hf
      · exact absurd hcode (Structure.code_ne_superglobalInQuery hf)
      · by_contra hno
        simp only [Binding.faults, Binding.countFaults, hno, List.mem_append] at hf
        grind [Fault.code]
    · intro h
      refine ⟨.superglobalAccess, List.mem_append_right _ ?_, rfl⟩
      simp only [Binding.faults, Binding.countFaults, h, List.mem_append]
      exact .inl (.inr List.mem_cons_self)

end Audit

/-! ## Reports -/

/-- Whatever is bound to it and whoever audits it, a raw query has an error about request data if
and only if a name of request data occurs in it; in particular, it has one if it takes an element
out of request data. A parameterized query has one if and only if it takes an element out of request
data other than `$_SERVER`. -/
theorem superglobal_access_reported {o : Options} (ho : o.Audits) (v : Validator) (wire : Wire)
    (now : Timestamp) (t : String) (p : Params) :
    ∃ raw bound, (v.validate wire now (.query (.raw t)) o).result = .ok raw ∧
      (v.validate wire now (.query (.parameterized t p)) o).result = .ok bound ∧
      (raw.HasError .superglobalInQuery ↔
        ∃ name ∈ Catalog.superglobals, name.toList <:+: t.toList) ∧
      ((∃ name ∈ Catalog.superglobals, Catalog.Accesses t.toList name) →
        raw.HasError .superglobalInQuery) ∧
      (bound.HasError .superglobalInQuery ↔
        ∃ name ∈ Catalog.superglobals, name ≠ "$_SERVER" ∧ Catalog.Accesses t.toList name) := by
  obtain ⟨raw, hraw, herrors, -⟩ := Validator.validate_audits ho (s := .query (.raw t)) rfl v wire now
  obtain ⟨bound, hbound, herrors', -⟩ :=
    Validator.validate_audits ho (s := .query (.parameterized t p)) rfl v wire now
  have hreported := (Report.hasError_iff herrors).trans Audit.exists_superglobal_raw_iff
  refine ⟨raw, bound, hraw, hbound, hreported, ?_, ?_⟩
  · rintro ⟨name, hname, haccess⟩
    exact hreported.2 ⟨name, hname, (List.infix_append [] name.toList ['[']).trans haccess⟩
  · rw [Report.hasError_iff herrors', Audit.exists_superglobal_parameterized_iff]

/-- An element of a session is reported in both kinds of queries. -/
theorem session_access_reported :
    ∃ raw bound, (Validator.silent.validate {} ⟨2024, 1, 2, 3, 4, 5, 0⟩
        (.query (.raw "SELECT $_SESSION[id]")) {}).result = .ok raw ∧
      (Validator.silent.validate {} ⟨2024, 1, 2, 3, 4, 5, 0⟩
        (.query (.parameterized "SELECT $_SESSION[id]" .empty)) {}).result = .ok bound ∧
      raw.HasError .superglobalInQuery ∧ bound.HasError .superglobalInQuery := by
  have haccess : Catalog.Accesses "SELECT $_SESSION[id]".toList "$_SESSION" :=
    ⟨"SELECT ".toList, "id]".toList, by decide⟩
  obtain ⟨raw, bound, hraw, hbound, -, hreported, hiff⟩ := superglobal_access_reported (o := {})
    ⟨rfl, ⟨false, rfl⟩, ⟨none, rfl⟩⟩ .silent {} ⟨2024, 1, 2, 3, 4, 5, 0⟩ "SELECT $_SESSION[id]" .empty
  exact ⟨raw, bound, hraw, hbound, hreported ⟨"$_SESSION", by decide, haccess⟩,
    hiff.2 ⟨"$_SESSION", by decide, by decide, haccess⟩⟩

/-- `$_SERVER` is request data, but a parameterized query that takes an element out of it has no error
about that. -/
theorem server_access_unreported :
    "$_SERVER" ∈ Catalog.superglobals ∧
      Catalog.Accesses "SELECT $_SERVER[id]".toList "$_SERVER" ∧
      ∃ r, (Validator.silent.validate {} ⟨2024, 1, 2, 3, 4, 5, 0⟩
          (.query (.parameterized "SELECT $_SERVER[id]" .empty)) {}).result = .ok r ∧
        ¬ r.HasError .superglobalInQuery := by
  refine ⟨by decide, ⟨"SELECT ".toList, "id]".toList, by decide⟩, ?_⟩
  obtain ⟨r, hr, herrors, -⟩ := Validator.validate_audits (o := {})
    ⟨rfl, ⟨false, rfl⟩, ⟨none, rfl⟩⟩ (s := .query (.parameterized "SELECT $_SERVER[id]" .empty)) rfl
    .silent {} ⟨2024, 1, 2, 3, 4, 5, 0⟩
  refine ⟨r, hr, ?_⟩
  rw [Report.hasError_iff herrors]
  decide

end SqlAudit
