import SqlAudit.Proofs.Audit.Causes
import SqlAudit.Proofs.Catalog.Idioms
import SqlAudit.Proofs.Statement.Literals

/-!
# Idioms of injection in literals

A raw query is reported for every idiom in one of its literals, under the number of the literal.
Main statements:

* `Finding.NamesLiteral.unique`: a message names one literal at most;
* `Injection.map_literalFaults`: the errors of a literal, from the meanings of the idioms;
* `literal_reported`: the errors of a literal among those of the texts on both its sides.
-/

namespace SqlAudit

/-! ## What an error on a literal says -/

/-- The message names the literal with a number. -/
def Finding.NamesLiteral (n : Nat) (f : Finding) : Prop :=
  ∃ m ∈ Catalog.meanings, ∃ rest : String, f.message = "Dangerous pattern '" ++ m.description ++
    "' detected in string #" ++ toString n ++ ": '" ++ rest

/-- The descriptions of two idioms differ before either of them ends. -/
theorem Catalog.description_eq {m₁ m₂ : Meaning} (hm₁ : m₁ ∈ meanings) (hm₂ : m₂ ∈ meanings)
    {x y : List Char} (h : m₁.description.toList ++ ("' ".toList ++ x) =
      m₂.description.toList ++ ("' ".toList ++ y)) : m₁.description = m₂.description := by
  have hall : ∀ d₁ ∈ meanings.map Meaning.description, ∀ d₂ ∈ meanings.map Meaning.description,
      (d₁.toList ++ "' ".toList) <+: (d₂.toList ++ "' ".toList) → d₁ = d₂ := by
    decide
  have hd₁ := List.mem_map_of_mem (f := Meaning.description) hm₁
  have hd₂ := List.mem_map_of_mem (f := Meaning.description) hm₂
  have hp₁ : m₁.description.toList ++ "' ".toList <+:
      m₂.description.toList ++ ("' ".toList ++ y) := ⟨x, (List.append_assoc ..).trans h⟩
  have hp₂ : m₂.description.toList ++ "' ".toList <+:
      m₂.description.toList ++ ("' ".toList ++ y) := ⟨y, List.append_assoc ..⟩
  rcases List.prefix_or_prefix_of_prefix hp₁ hp₂ with hp | hp
  · exact hall _ hd₁ _ hd₂ hp
  · exact (hall _ hd₂ _ hd₁ hp).symm

/-- A message names one literal at most. -/
theorem Finding.NamesLiteral.unique {f : Finding} {n₁ n₂ : Nat} (h₁ : f.NamesLiteral n₁)
    (h₂ : f.NamesLiteral n₂) : n₁ = n₂ := by
  obtain ⟨m₁, hm₁, rest₁, h₁⟩ := h₁
  obtain ⟨m₂, hm₂, rest₂, h₂⟩ := h₂
  have hsplit : "' detected in string #".toList = "' ".toList ++ "detected in string #".toList := by
    decide
  have h := congrArg String.toList (h₁.symm.trans h₂)
  simp only [String.toList_append, List.append_assoc, List.append_cancel_left_eq, hsplit] at h
  rw [Catalog.description_eq hm₁ hm₂ h] at h
  simp only [List.append_cancel_left_eq] at h
  -- The digits of both numbers end at the first colon.
  exact Text.eq_of_toString_append (by simp) (by simp) h

/-- The text starts with two characters. -/
def Leads (c d : Char) (s : String) : Prop :=
  [c, d] <+: s.toList

theorem Leads.literal {c d : Char} {cs : List Char} : Leads c d (String.ofList (c :: d :: cs)) := by
  rw [Leads, String.toList_ofList]
  exact ⟨cs, rfl⟩

theorem Leads.append {c d : Char} {s t : String} (h : Leads c d s) : Leads c d (s ++ t) := by
  rw [Leads, String.toList_append]
  exact h.trans (List.prefix_append _ _)

theorem Leads.unique {c₁ d₁ c₂ d₂ : Char} {s : String} (h₁ : Leads c₁ d₁ s) (h₂ : Leads c₂ d₂ s) :
    c₁ = c₂ ∧ d₁ = d₂ := by
  obtain ⟨cs, h₁⟩ := h₁
  obtain ⟨cs', h₂⟩ := h₂
  have h := h₁.trans h₂.symm
  simp only [List.cons_append, List.cons.injEq] at h
  exact ⟨h.1, h.2.1⟩

/-- Only an error on a literal names one. -/
theorem Fault.code_of_namesLiteral {f : Fault} {n : Nat} (h : f.finding.NamesLiteral n) :
    f.code = .dangerousLiteralPattern := by
  obtain ⟨m, -, rest, h⟩ := h
  have hlead : Leads 'D' 'a' f.message := by
    rw [show f.message = _ from h]
    exact .append (.append (.append (.append (.append .literal))))
  have hother {c d : Char} (hcd : ¬(c = 'D' ∧ d = 'a')) (hf : Leads c d f.message) : False :=
    hcd (hf.unique hlead)
  cases f with
  | dangerousLiteral => rfl
  | emptyQuery | deleteWithoutWhere | mixedPlaceholders | superglobalAccess | hostVariable =>
    exact (hother (by decide) .literal).elim
  | superglobal => exact (hother (by decide) (.append (.append .literal))).elim
  | unpairedQuotes =>
    exact (hother (by decide)
      (.append (.append (.append (.append (.append (.append .literal))))))).elim
  | unbalancedParentheses | insertPlaceholders | insertValues | placeholderCount =>
    exact (hother (by decide) (.append (.append (.append (.append .literal))))).elim

/-! ## The errors of literals -/

theorem Fault.code_finding_eq_iff {f : Fault} :
    f.finding.code = some "dangerous_literal_pattern" ↔ f.code = .dangerousLiteralPattern := by
  rw [← Code.name_inj]
  exact Option.some_inj

theorem Fault.filter_map_finding (fs : List Fault) :
    (fs.map finding).filter (fun e => e.code = some "dangerous_literal_pattern") =
      (fs.filter fun f => f.code = .dangerousLiteralPattern).map finding := by
  rw [List.filter_map]
  simp only [Function.comp_def, code_finding_eq_iff]

/-- The checks of the structure look at no literals. -/
theorem Structure.code_ne {sql : List Char} {f : Fault} (h : f ∈ faults false sql) :
    f.code ≠ .dangerousLiteralPattern := by
  simp only [faults, Bool.false_eq_true, if_false, List.mem_append] at h
  rcases h with (h | h) | h
  · simp only [parenthesisFaults] at h
    grind [Fault.code]
  · simp only [quoteFaults, List.mem_flatMap] at h
    obtain ⟨quote, -, h⟩ := h
    cases quote <;> grind [Fault.code]
  · rw [kindFaults] at h
    split at h
    · cases hi : insert? sql with
      | none =>
        rw [hi] at h
        exact absurd h List.not_mem_nil
      | some i =>
        rw [hi, Option.elim_some, insertFaults] at h
        grind [Fault.code]
    · grind [Fault.code]
    · exact absurd h List.not_mem_nil

namespace Injection

/-- The error of an idiom in a literal with a number. -/
def idiomError (description : String) (content : List Char) (index : Nat) : Finding :=
  ⟨.error, "Dangerous pattern '" ++ description ++ "' detected in string #" ++ toString index ++
    ": '" ++ String.ofList (Statement.preview 50 false content) ++ "'",
    some "dangerous_literal_pattern"⟩

open Classical in
/-- The errors of a literal with a number: one for every idiom that occurs in it, in the order of
the table. -/
noncomputable def literalErrors (content : List Char) (index : Nat) : List Finding :=
  (Catalog.meanings.filter fun m => m.occursIn content).map fun m =>
    idiomError m.description content index

/-- The errors of the literals of a text, numbered from `first` on. -/
noncomputable def errorsFrom (first : Nat) (sql : List Char) : List Finding :=
  ((Statement.literals sql).zipIdx first).flatMap fun l => literalErrors l.1 l.2

/-- The faults of a literal are the idioms that occur in it by their meanings. -/
theorem map_literalFaults (l : List Char × Nat) :
    (literalFaults l).map Fault.finding = literalErrors l.1 l.2 := by
  have h := congrArg (List.map fun d => idiomError d l.1 l.2) (Catalog.descriptions_eq l.1)
  rw [List.map_map, List.map_map] at h
  rw [literalFaults, List.map_map]
  exact h

theorem mem_literalErrors_iff {content : List Char} {index : Nat} {e : Finding} :
    e ∈ literalErrors content index ↔
      ∃ m ∈ Catalog.meanings, m.occursIn content ∧ idiomError m.description content index = e := by
  simp [literalErrors, and_assoc]

theorem namesLiteral_of_mem_literalErrors {content : List Char} {index : Nat} {e : Finding}
    (h : e ∈ literalErrors content index) : e.NamesLiteral index := by
  obtain ⟨m, hm, -, rfl⟩ := mem_literalErrors_iff.1 h
  exact ⟨m, hm, _, String.append_assoc ..⟩

/-- The errors of the literals of a text name numbers in the range of these literals. -/
theorem exists_of_mem_errorsFrom {first : Nat} {sql : List Char} {e : Finding}
    (h : e ∈ errorsFrom first sql) : ∃ n, first ≤ n ∧ n < first + (Statement.literals sql).length ∧
      e.NamesLiteral n := by
  rw [errorsFrom, List.mem_flatMap] at h
  obtain ⟨⟨content, n⟩, hl, he⟩ := h
  obtain ⟨hle, hlt, -⟩ := List.mem_zipIdx hl
  exact ⟨n, hle, hlt, namesLiteral_of_mem_literalErrors he⟩

/-- The errors of a literal stand between those of the texts on both its sides. -/
theorem errorsFrom_append {a content : List Char} (ha : a.count '\'' % 2 = 0)
    (hc : '\'' ∉ content) (first : Nat) (b : List Char) :
    errorsFrom first (a ++ '\'' :: (content ++ '\'' :: b)) =
      errorsFrom first a ++ literalErrors content (first + a.count '\'' / 2) ++
        errorsFrom (first + a.count '\'' / 2 + 1) b := by
  rw [errorsFrom, Statement.literals_append ha hc, List.zipIdx_append, List.zipIdx_cons,
    Statement.length_literals, List.flatMap_append, List.flatMap_cons, List.append_assoc]
  rfl

end Injection

/-- The errors of a raw query on literals are those of its literals, numbered from one. -/
theorem Audit.filter_faults_raw {t : String} (h : (Text.trim t.toList).isEmpty = false) :
    ((faults (.raw t)).map Fault.finding).filter
      (fun e => e.code = some "dangerous_literal_pattern") = Injection.errorsFrom 1 t.toList := by
  have hstructure : (Structure.faults false (Text.trim t.toList)).filter
      (fun f => f.code = .dangerousLiteralPattern) = [] :=
    List.filter_eq_nil_iff.2 fun f hf => by simpa using Structure.code_ne hf
  have hliterals : ((Injection.numbered (Text.trim t.toList)).flatMap
      Injection.literalFaults).filter (fun f => f.code = .dangerousLiteralPattern) =
      (Injection.numbered (Text.trim t.toList)).flatMap Injection.literalFaults := by
    refine List.filter_eq_self.2 fun f hf => ?_
    obtain ⟨l, -, hf⟩ := List.mem_flatMap.1 hf
    obtain ⟨i, -, rfl⟩ := List.mem_map.1 hf
    rfl
  have hsuperglobals : (Injection.superglobalFaults (Text.trim t.toList)).filter
      (fun f => f.code = .dangerousLiteralPattern) = [] := by
    refine List.filter_eq_nil_iff.2 fun f hf => ?_
    obtain ⟨name, -, rfl⟩ := List.mem_map.1 hf
    exact Bool.false_ne_true
  rw [Fault.filter_map_finding, faults_raw h, Injection.faults, if_neg Bool.false_ne_true,
    List.filter_append, List.filter_append, hstructure, hliterals, hsuperglobals, List.nil_append,
    List.append_nil, List.map_flatMap, Injection.numbered, Statement.literals_trim,
    Injection.errorsFrom]
  simp only [Injection.map_literalFaults]

/-- Every idiom in a literal of a raw query is reported under the number of the literal. The literal
stands between a text with paired quotes and any other text. Among the errors on literals, its own
are one for every idiom that occurs in it, in the order of the table, behind those of the literals
before it and before those of the literals after it. No other error names its number. -/
theorem literal_reported {o : Options} (ho : o.Audits) {a content b : String}
    (ha : a.toList.count '\'' % 2 = 0) (hc : '\'' ∉ content.toList) {s : Submission}
    (hs : s.toQuery = .ok (.raw (a ++ "'" ++ content ++ "'" ++ b))) (v : Validator) (wire : Wire)
    (now : Timestamp) :
    let k := a.toList.count '\'' / 2 + 1
    let found := Injection.literalErrors content.toList k
    ∃ r, (v.validate wire now s o).result = .ok r ∧
      r.errors.filter (fun e => e.code = some "dangerous_literal_pattern") =
        Injection.errorsFrom 1 a.toList ++ found ++ Injection.errorsFrom (k + 1) b.toList ∧
      ∀ e ∈ r.errors, e.NamesLiteral k ↔ e ∈ found := by
  intro k found
  obtain ⟨r, hr, he, -⟩ := v.validate_audits ho hs wire now
  have ht : (a ++ "'" ++ content ++ "'" ++ b).toList =
      a.toList ++ '\'' :: (content.toList ++ '\'' :: b.toList) := by
    simp
  have hblank : (Text.trim (a ++ "'" ++ content ++ "'" ++ b).toList).isEmpty = false := by
    rw [List.isEmpty_eq_false_iff]
    intro hnil
    have hcount := Text.count_trim (c := '\'') (by decide) (a ++ "'" ++ content ++ "'" ++ b).toList
    rw [hnil, ht, List.count_append, List.count_cons_self, List.count_nil] at hcount
    omega
  have hfilter : r.errors.filter (fun e => e.code = some "dangerous_literal_pattern") =
      Injection.errorsFrom 1 a.toList ++ found ++ Injection.errorsFrom (k + 1) b.toList := by
    rw [he, Audit.filter_faults_raw hblank, ht, Injection.errorsFrom_append ha hc,
      Nat.add_comm 1]
  refine ⟨r, hr, hfilter, fun e hmem => ⟨fun hk => ?_, Injection.namesLiteral_of_mem_literalErrors⟩⟩
  have hcode : e.code = some "dangerous_literal_pattern" := by
    rw [he] at hmem
    obtain ⟨f, -, rfl⟩ := List.mem_map.1 hmem
    exact Fault.code_finding_eq_iff.2 (Fault.code_of_namesLiteral hk)
  have hin : e ∈ r.errors.filter fun e => e.code = some "dangerous_literal_pattern" :=
    List.mem_filter.2 ⟨hmem, decide_eq_true hcode⟩
  rw [hfilter, List.mem_append, List.mem_append] at hin
  -- The errors on both sides name numbers below and above `k`.
  rcases hin with (hbefore | hfound) | hafter
  · obtain ⟨n, -, hlt, hn⟩ := Injection.exists_of_mem_errorsFrom hbefore
    rw [Statement.length_literals] at hlt
    have := hn.unique hk
    omega
  · exact hfound
  · obtain ⟨n, hle, -, hn⟩ := Injection.exists_of_mem_errorsFrom hafter
    have := hn.unique hk
    omega

/-- A comment in the second of three literals, the last of which is not closed. -/
theorem second_literal_reported :
    ∃ r, (Validator.silent.validate {} ⟨2024, 1, 2, 3, 4, 5, 6⟩
        (.value (.text (" SELECT 'x', " ++ "'" ++ "a -- b" ++ "'" ++ " || 'DROP"))) {}).result =
          .ok r ∧
      (⟨.error, "Dangerous pattern 'SQL comment (--)' detected in string #2: 'a -- b'",
        some "dangerous_literal_pattern"⟩ : Finding) ∈ r.errors := by
  have ho : Options.Audits {} := ⟨rfl, ⟨false, rfl⟩, ⟨none, rfl⟩⟩
  have ha : " SELECT 'x', ".toList.count '\'' % 2 = 0 := by decide
  have hc : '\'' ∉ "a -- b".toList := by decide
  have hs : (Submission.value (.text (" SELECT 'x', " ++ "'" ++ "a -- b" ++ "'" ++
      " || 'DROP"))).toQuery = .ok (.raw (" SELECT 'x', " ++ "'" ++ "a -- b" ++ "'" ++
      " || 'DROP")) := rfl
  obtain ⟨r, hr, hfilter, -⟩ :=
    literal_reported ho ha hc hs .silent {} ⟨2024, 1, 2, 3, 4, 5, 6⟩
  have hfound : (⟨.error, "Dangerous pattern 'SQL comment (--)' detected in string #2: 'a -- b'",
      some "dangerous_literal_pattern"⟩ : Finding) ∈
      Injection.literalErrors "a -- b".toList 2 := by
    have hoccurs : "--".toList <:+: "a -- b".toList := by decide
    exact Injection.mem_literalErrors_iff.2 ⟨_, List.mem_cons_self, hoccurs, by decide⟩
  exact ⟨r, hr, List.mem_of_mem_filter (hfilter ▸ List.mem_append_left _
    (List.mem_append_right _ hfound))⟩

end SqlAudit
