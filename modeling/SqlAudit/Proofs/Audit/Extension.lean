import Mathlib.Data.List.Basic
import SqlAudit.Proofs.Audit.Codes
import SqlAudit.Proofs.Audit.Invariance
import SqlAudit.Proofs.Text.Within

/-!
# Signs that more text does not hide

Some findings stay whatever is written around the text that gives rise to them, be it the text of a
query or a bound value: they come from searches that find in a text all that they find in a part of
it. Others do not, such as a missing condition or an idiom inside a literal. Main statements:

* `Injection.superglobalFaults_subset`, `Injection.commentCautions_subset` and their likes: the
  searches of the checks;
* `Audit.mem_findings_padded`: the findings that a query keeps with more text around it;
* `Binding.textWarnings_sublist`: the warnings about a bound text stay with more text around it;
* `detections_padded`: both, for calls.
-/

namespace SqlAudit

/-- The codes of findings that stay whatever is written around a query. -/
def Code.lasting : List Code :=
  [.dangerousKeyword, .superglobalInQuery, .hostVariableInQuery, .lineComment, .blockComment,
    .hashComment]

/-! ## Searches -/

theorem ite_singleton_subset {α : Type} {p q : Bool} (x : α) (h : p = true → q = true) :
    (if p then [x] else []) ⊆ if q then [x] else [] := by
  cases p with
  | false => exact List.nil_subset _
  | true => rw [h rfl]; exact List.Subset.refl _

theorem map_filter_subset {α β : Type} {p q : α → Bool} (l : List α) (f : α → β)
    (h : ∀ x, p x = true → q x = true) : (l.filter p).map f ⊆ (l.filter q).map f :=
  ((List.monotone_filter_right l h).map f).subset

section Part

variable {s t : List Char} (h : s <:+: t)
include h

namespace Injection

theorem superglobalFaults_subset : superglobalFaults s ⊆ superglobalFaults t :=
  map_filter_subset _ _ fun _ => Text.contains_of_infix h

theorem keywordCautions_subset :
    (Catalog.dangerousKeywords.filter fun k => Text.contains k.toList (Text.upper s)).map
        Caution.dangerousKeyword ⊆
      (Catalog.dangerousKeywords.filter fun k => Text.contains k.toList (Text.upper t)).map
        .dangerousKeyword :=
  map_filter_subset _ _ fun _ => Text.contains_of_infix (Text.upper_infix_upper h)

theorem commentCautions_subset : commentCautions s ⊆ commentCautions t := by
  have hblock : (Text.contains "/*".toList s || Text.contains "*/".toList s) = true →
      (Text.contains "/*".toList t || Text.contains "*/".toList t) = true := by
    rw [Bool.or_eq_true, Bool.or_eq_true]
    exact Or.imp (Text.contains_of_infix h) (Text.contains_of_infix h)
  intro c hc
  rw [commentCautions, List.mem_append, List.mem_append] at hc ⊢
  rcases hc with (hc | hc) | hc
  · exact .inl (.inl (ite_singleton_subset _ (Text.contains_of_infix h) hc))
  · exact .inl (.inr (ite_singleton_subset _ hblock hc))
  · exact .inr (ite_singleton_subset _ (Pattern.occursIn_of_infix rfl h) hc)

/-- The cautions about a raw query stay, but for those about its literals. -/
theorem mem_rawCautions_of_infix {c : Caution} (hc : c ∈ rawCautions s)
    (hcode : c.code ∈ Code.lasting) : c ∈ rawCautions t := by
  rw [rawCautions, List.mem_append, List.mem_append] at hc ⊢
  rcases hc with (hc | hc) | hc
  · obtain ⟨l, -, hc⟩ := List.mem_flatMap.1 hc
    rw [code_of_mem_literalCautions hc] at hcode
    exact absurd hcode (by decide)
  · exact .inl (.inr (ite_singleton_subset _ (Pattern.occursIn_of_infix rfl h) hc))
  · exact .inr (keywordCautions_subset h hc)

end Injection

/-- The faults of bindings that are about host variables stay. -/
theorem Binding.mem_faults_of_infix {params : Params} {f : Fault} (hf : f ∈ faults params s)
    (hcode : f.code ∈ Code.lasting) : f ∈ faults params t := by
  have hhost : (Catalog.hostVariable.occursIn s || Catalog.interpolation.occursIn s) = true →
      (Catalog.hostVariable.occursIn t || Catalog.interpolation.occursIn t) = true := by
    rw [Bool.or_eq_true, Bool.or_eq_true]
    exact Or.imp (Pattern.occursIn_of_infix rfl h) (Pattern.occursIn_of_infix rfl h)
  simp only [faults, countFaults, List.mem_append] at hf ⊢
  rcases hf with ((hf | hf) | hf) | hf
  · obtain rfl : f = .placeholderCount (Statement.placeholderCount s) params.size := by grind
    simp [Fault.code, Code.lasting] at hcode
  · obtain rfl : f = .mixedPlaceholders := by grind
    simp [Fault.code, Code.lasting] at hcode
  · exact .inl (.inr (ite_singleton_subset _ (Pattern.occursIn_of_infix rfl h) hf))
  · exact .inr (ite_singleton_subset _ hhost hf)

end Part

/-! ## Text around a query -/

section Padded

variable (a b : String)

theorem Text.trim_infix_padded {q : Query} (hs : (trim q.text.toList).isEmpty = false) :
    trim q.text.toList <:+: trim (q.padded a b).text.toList := by
  refine trim_infix_trim ?_ (by simpa using hs)
  rw [Query.text_padded, String.toList_append, String.toList_append]
  exact List.infix_append _ _ _

theorem Text.isEmpty_trim_padded {q : Query} (hs : (trim q.text.toList).isEmpty = false) :
    (trim (q.padded a b).text.toList).isEmpty = false := by
  rw [List.isEmpty_eq_false_iff] at hs ⊢
  intro hnil
  have h := trim_infix_padded a b (List.isEmpty_eq_false_iff.2 hs)
  rw [hnil] at h
  exact hs (List.infix_nil.1 h)

namespace Audit

theorem mem_faults_padded {q : Query} {f : Fault} (hf : f ∈ faults q)
    (hcode : f.code ∈ Code.lasting) : f ∈ faults (q.padded a b) := by
  cases hs : (Text.trim q.text.toList).isEmpty with
  | true =>
    rw [faults_of_blank hs, List.mem_singleton] at hf
    subst hf
    exact absurd hcode (by decide)
  | false =>
    have hstructure (p : Bool) : ∀ c ∈ Structure.faultCodes p, c ∉ Code.lasting := by
      cases p <;> decide
    have hinfix := Text.trim_infix_padded a b hs
    have hs' := Text.isEmpty_trim_padded a b hs
    cases q with
    | raw t =>
      rw [faults_raw (t := t) hs, List.mem_append, Injection.faults, if_neg Bool.false_ne_true,
        List.mem_append] at hf
      rw [Query.padded, faults_raw (t := a ++ t ++ b) hs', List.mem_append, Injection.faults,
        if_neg Bool.false_ne_true, List.mem_append]
      rcases hf with hf | hf | hf
      · exact absurd hcode (hstructure _ _ (Structure.code_of_mem_faults hf).1)
      · obtain ⟨l, -, hf⟩ := List.mem_flatMap.1 hf
        rw [Injection.code_of_mem_literalFaults hf] at hcode
        exact absurd hcode (by decide)
      · exact .inr (.inr (Injection.superglobalFaults_subset hinfix hf))
    | parameterized t p =>
      rw [faults_parameterized (t := t) hs, List.mem_append] at hf
      rw [Query.padded, faults_parameterized (t := a ++ t ++ b) hs', List.mem_append]
      rcases hf with hf | hf
      · exact absurd hcode (hstructure _ _ (Structure.code_of_mem_faults hf).1)
      · exact .inr (Binding.mem_faults_of_infix hinfix hf hcode)

theorem mem_cautions_padded {q : Query} {c : Caution} (hc : c ∈ cautions q)
    (hcode : c.code ∈ Code.lasting) : c ∈ cautions (q.padded a b) := by
  cases hs : (Text.trim q.text.toList).isEmpty with
  | true =>
    rw [cautions_of_blank hs] at hc
    exact absurd hc List.not_mem_nil
  | false =>
    have hstructure : ∀ c ∈ Structure.cautionCodes, c ∉ Code.lasting := by decide
    have hbinding : ∀ c ∈ Code.hardcodedLiteral :: Binding.valueCodes, c ∉ Code.lasting := by decide
    have hinfix := Text.trim_infix_padded a b hs
    rw [cautions_of_text hs, cautions_remarks, Injection.cautions] at hc
    rw [cautions_of_text (Text.isEmpty_trim_padded a b hs), cautions_remarks, Injection.cautions,
      Query.isParameterized_padded]
    simp only [List.mem_append] at hc ⊢
    rcases hc with hc | (hc | hc) | hc | hc
    · exact .inl hc
    · exact absurd hcode (hstructure _ (Structure.code_of_mem_cautions hc).1)
    · cases hp : q.isParameterized with
      | false => simp [hp] at hc
      | true =>
        rw [hp, if_pos rfl] at hc
        exact absurd hcode (hbinding _ (Binding.code_of_mem_cautions hc))
    · cases hp : q.isParameterized with
      | false =>
        rw [hp, if_neg Bool.false_ne_true] at hc
        exact .inr (.inr (.inl (Injection.mem_rawCautions_of_infix hinfix hc hcode)))
      | true => simp [hp] at hc
    · exact .inr (.inr (.inr (Injection.commentCautions_subset hinfix hc)))

/-- The findings that a query keeps with more text around it. -/
theorem mem_findings_padded {q : Query} {loud loud' verbose verbose' : Bool} {now now' : Timestamp}
    {context context' : Option Context} {f : Finding}
    (hf : f ∈ (inspect loud (draft now q verbose context)).findings) {code : Code}
    (hmem : code ∈ Code.lasting) (hcode : f.code = some code.name) :
    f ∈ (inspect loud' (draft now' (q.padded a b) verbose' context')).findings := by
  simp only [Report.findings, errors_inspect, warnings_inspect, infos_inspect, List.mem_append,
    List.mem_map] at hf ⊢
  rcases hf with (⟨fault, hfault, rfl⟩ | ⟨caution, hcaution, rfl⟩) | ⟨note, -, rfl⟩
  · obtain rfl := Code.name_inj.1 (Option.some.inj hcode)
    exact .inl (.inl ⟨fault, mem_faults_padded a b hfault hmem, rfl⟩)
  · obtain rfl := Code.name_inj.1 (Option.some.inj hcode)
    exact .inl (.inr ⟨caution, mem_cautions_padded a b hcaution hmem, rfl⟩)
  · obtain ⟨code', hcode', hname⟩ := Option.map_eq_some_iff.1 hcode
    obtain rfl := Code.name_inj.1 hname
    have hne : code' ≠ .notificationSent := by
      rintro rfl
      exact absurd hmem (by decide)
    exact absurd hcode' (Note.code_ne hne)

end Audit

end Padded

/-! ## Text around a bound value -/

namespace Params

theorem insertEntry_append {key : Key} {v w : Scalar} {l₁ l₂ : List (Key × Scalar)}
    (h : key ∉ l₁.map Prod.fst) :
    insertEntry key w (l₁ ++ (key, v) :: l₂) = l₁ ++ (key, w) :: l₂ := by
  induction l₁ with
  | nil => rw [List.nil_append, insertEntry, if_pos rfl, List.nil_append]
  | cons e l₁ ih =>
    rw [List.map_cons, List.mem_cons, not_or] at h
    rw [List.cons_append, insertEntry, if_neg (Ne.symm h.1), ih h.2, List.cons_append]

/-- A key that is bound keeps its place when it is bound to another value. -/
theorem entries_insert {p : Params} {key : Key} {v : Scalar} (h : (key, v) ∈ p.entries)
    (w : Scalar) : ∃ l₁ l₂, p.entries = l₁ ++ (key, v) :: l₂ ∧
      (p.insert key w).entries = l₁ ++ (key, w) :: l₂ := by
  obtain ⟨l₁, l₂, hl⟩ := List.append_of_mem h
  have hnodup := p.distinct
  rw [hl, List.map_append, List.map_cons] at hnodup
  have hnot : key ∉ l₁.map Prod.fst := fun hm =>
    (List.nodup_append.1 hnodup).2.2 key hm key List.mem_cons_self rfl
  refine ⟨l₁, l₂, hl, ?_⟩
  calc (p.insert key w).entries = insertEntry key w p.entries := rfl
    _ = l₁ ++ (key, w) :: l₂ := by rw [hl, insertEntry_append hnot]

end Params

namespace Binding

/-- The warnings about a text bound to a key: one for each text of the catalogue that occurs in it
when both are in lower case. -/
def textWarnings (key : Key) (v : String) : List Finding :=
  let occurs (t : String) := Text.contains (Text.lowerCase t.toList) (Text.lowerCase v.toList)
  (Catalog.suspiciousTexts.filter occurs).map (fun t => (Caution.suspiciousParameter t key).finding)
    ++ (Catalog.keywords.filter occurs).map fun t => (Caution.keywordInParameter t key).finding

/-- For the texts of the catalogue, one lower case does as well as the other. -/
theorem mentions_eq {t : String} (ht : t ∈ Catalog.suspiciousTexts ++ Catalog.keywords)
    (s : List Char) :
    mentions t s = Text.contains (Text.lowerCase t.toList) (Text.lowerCase s) := by
  have hbasic : ((Catalog.suspiciousTexts ++ Catalog.keywords).all fun t =>
      Text.lowerCase t.toList == Text.lower t.toList && Text.isBasic (Text.lower t.toList)) =
        true := by
    decide
  have hneedle := List.all_eq_true.1 hbasic t ht
  rw [Bool.and_eq_true, beq_iff_eq] at hneedle
  rw [mentions, hneedle.1, Text.contains_lowerCase_eq hneedle.2]

theorem textWarnings_eq (key : Key) (v : String) :
    textWarnings key v = (textCautions key v.toList).map Caution.finding := by
  have hfilter {l : List String} (hl : l ⊆ Catalog.suspiciousTexts ++ Catalog.keywords) :
      (l.filter fun t => Text.contains (Text.lowerCase t.toList) (Text.lowerCase v.toList)) =
        l.filter fun t => mentions t v.toList :=
    List.filter_congr fun t ht => (mentions_eq (hl ht) v.toList).symm
  rw [textWarnings, textCautions, hfilter (List.subset_append_left _ _),
    hfilter (List.subset_append_right _ _), List.map_append, List.map_map, List.map_map]
  rfl

/-- The warnings about a bound text stay with more text around it. -/
theorem textWarnings_sublist (key : Key) (a v b : String) :
    (textWarnings key v).Sublist (textWarnings key (a ++ v ++ b)) := by
  have hinfix : v.toList <:+: (a ++ v ++ b).toList := by
    rw [String.toList_append, String.toList_append]
    exact List.infix_append _ _ _
  have hmentions (t : String) (h : mentions t v.toList = true) :
      mentions t (a ++ v ++ b).toList = true :=
    Text.contains_of_infix (Text.lower_infix_lower hinfix) h
  rw [textWarnings_eq, textWarnings_eq, textCautions, textCautions]
  refine List.Sublist.map _ (List.Sublist.append ?_ ?_)
  · exact (List.monotone_filter_right _ hmentions).map _
  · exact (List.monotone_filter_right _ hmentions).map _

end Binding

/-- The warnings about a bound value stand together, and no others depend on it. -/
theorem Audit.warnings_insert {t : String} (hs : (Text.trim t.toList).isEmpty = false) {p : Params}
    {key : Key} {v : String} (h : (key, .text v) ∈ p.entries) (w : String) : ∃ before after,
      (cautions (.parameterized t p)).map Caution.finding =
        before ++ Binding.textWarnings key v ++ after ∧
      (cautions (.parameterized t (p.insert key (.text w)))).map Caution.finding =
        before ++ Binding.textWarnings key w ++ after := by
  obtain ⟨l₁, l₂, hl, hl'⟩ := Params.entries_insert h (.text w)
  let sql := Text.trim t.toList
  let before := Structure.cautions sql ++ l₁.flatMap Binding.valueCautions
  let after := l₂.flatMap Binding.valueCautions ++
    (if (Statement.literals sql).isEmpty then [] else [Caution.hardcodedLiteral]) ++
    Injection.cautions true sql
  have hcautions {p : Params} {u : String} (hp : p.entries = l₁ ++ (key, .text u) :: l₂) :
      cautions (.parameterized t p) = before ++ Binding.textCautions key u.toList ++ after := by
    rw [cautions_parameterized hs, Binding.cautions, hp, List.flatMap_append, List.flatMap_cons,
      Binding.valueCautions]
    simp only [List.append_assoc, before, after, sql]
  refine ⟨before.map Caution.finding, after.map Caution.finding, ?_, ?_⟩
  · rw [hcautions hl, List.map_append, List.map_append, Binding.textWarnings_eq]
  · rw [hcautions hl', List.map_append, List.map_append, Binding.textWarnings_eq]

/-! ## Calls -/

/-- What is found in a text is not hidden by more text around it. A query with more text around its
own keeps its findings with the codes of `Code.lasting`. A bound text with more text around it keeps
its warnings, which stand in the same place among the others; a blank query has none. -/
theorem detections_padded {o o' : Options} (ho : o.Audits) (ho' : o'.Audits) {s s' : Submission}
    {q q' : Query} (hq : s.toQuery = .ok q) (hq' : s'.toQuery = .ok q') (wire wire' : Wire)
    (now now' : Timestamp) (a b : String) :
    ∃ r r', (Validator.silent.validate wire now s o).result = .ok r ∧
      (Validator.silent.validate wire' now' s' o').result = .ok r' ∧
      (q' = q.padded a b → ∀ f ∈ r.findings, ∀ code ∈ Code.lasting, f.code = some code.name →
        f ∈ r'.findings) ∧
      ∀ t p key v, q = .parameterized t p → (key, .text v) ∈ p.entries →
        q' = .parameterized t (p.insert key (.text (a ++ v ++ b))) →
        (Binding.textWarnings key v).Sublist (Binding.textWarnings key (a ++ v ++ b)) ∧
        ((Text.trim t.toList).isEmpty = true → r.warnings = []) ∧
        ((Text.trim t.toList).isEmpty = false → ∃ before after,
          r.warnings = before ++ Binding.textWarnings key v ++ after ∧
          r'.warnings = before ++ Binding.textWarnings key (a ++ v ++ b) ++ after) := by
  obtain ⟨v, hv⟩ := ho.verbose
  obtain ⟨c, hc⟩ := ho.context
  obtain ⟨v', hv'⟩ := ho'.verbose
  obtain ⟨c', hc'⟩ := ho'.context
  refine ⟨_, _, (Validator.validate_eq_ok_iff ho.enabled).2 ⟨q, v, c, hq, hv, hc, rfl⟩,
    (Validator.validate_eq_ok_iff ho'.enabled).2 ⟨q', v', c', hq', hv', hc', rfl⟩, ?_, ?_⟩
  · rintro rfl f hf code hmem hcode
    exact Audit.mem_findings_padded a b hf hmem hcode
  · rintro t p key v rfl hkey rfl
    rw [Audit.warnings_inspect, Audit.warnings_inspect]
    refine ⟨Binding.textWarnings_sublist key a v b, fun hs => ?_, fun hs => ?_⟩
    · rw [Audit.cautions_of_blank (q := .parameterized t p) hs, List.map_nil]
    · exact Audit.warnings_insert hs hkey (a ++ v ++ b)

/-- A call that sleeps and a hash comment are found inside a literal as well, and a comment sign in
a bound value also behind a letter whose lower case depends on where it stands. -/
theorem sleep_found_in_literal :
    (∃ r', (Validator.silent.validate {} ⟨2024, 1, 2, 3, 4, 5, 0⟩
        (.value (.text "SELECT 'sleep(1)#'")) {}).result = .ok r' ∧
      (Caution.dangerousKeyword "SLEEP(").finding ∈ r'.findings ∧
      Caution.hashComment.finding ∈ r'.findings) ∧
    ∃ r', (Validator.silent.validate {} ⟨2024, 1, 2, 3, 4, 5, 0⟩
        (.query (.parameterized "SELECT ?" (.ofList [.text "\u03a3--x"]))) {}).result = .ok r' ∧
      (Caution.suspiciousParameter "--" (.position 0)).finding ∈ r'.warnings := by
  have ho : Options.Audits {} := ⟨rfl, ⟨false, rfl⟩, ⟨none, rfl⟩⟩
  constructor
  · have hs : (Submission.value (.text "sleep(1)#")).toQuery = .ok (.raw "sleep(1)#") := rfl
    have hs' : (Submission.value (.text "SELECT 'sleep(1)#'")).toQuery =
        .ok ((Query.raw "sleep(1)#").padded "SELECT '" "'") := rfl
    obtain ⟨r, r', hr, hr', hkept, -⟩ := detections_padded ho ho hs hs' {} {}
      ⟨2024, 1, 2, 3, 4, 5, 0⟩ ⟨2024, 1, 2, 3, 4, 5, 0⟩ "SELECT '" "'"
    obtain ⟨q, b, c, hq, -, -, rfl⟩ := (Validator.validate_eq_ok_iff (o := {}) rfl).1 hr
    obtain rfl : Query.raw "sleep(1)#" = q := Except.ok.inj hq
    have hfound {c : Caution} (hc : c ∈ Audit.cautions (.raw "sleep(1)#"))
        (hcode : c.code ∈ Code.lasting) : c.finding ∈ r'.findings := by
      refine hkept rfl _ ?_ _ hcode rfl
      simp only [Report.findings, Audit.warnings_inspect, List.mem_append]
      exact .inl (.inr (List.mem_map_of_mem hc))
    exact ⟨r', hr', hfound (by decide) (by decide), hfound (by decide) (by decide)⟩
  · let q := Query.parameterized "SELECT ?" (.ofList [.text "--"])
    let q' := Query.parameterized "SELECT ?" (.ofList [.text "\u03a3--x"])
    have hs : (Submission.query q).toQuery = .ok q := rfl
    have hs' : (Submission.query q').toQuery = .ok q' := rfl
    obtain ⟨r, r', -, hr', -, hkept⟩ := detections_padded ho ho hs hs' {} {}
      ⟨2024, 1, 2, 3, 4, 5, 0⟩ ⟨2024, 1, 2, 3, 4, 5, 0⟩ "\u03a3" "x"
    obtain ⟨hsublist, -, hsplit⟩ := hkept "SELECT ?" (.ofList [.text "--"]) (.position 0) "--" rfl
      List.mem_cons_self rfl
    obtain ⟨before, after, -, hwarnings⟩ := hsplit (by decide)
    have hmem : (Caution.suspiciousParameter "--" (.position 0)).finding ∈
        Binding.textWarnings (.position 0) "--" := by
      decide
    refine ⟨r', hr', ?_⟩
    rw [hwarnings]
    exact List.mem_append_left _ (List.mem_append_right _ (hsublist.subset hmem))

end SqlAudit
