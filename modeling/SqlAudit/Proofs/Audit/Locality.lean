import SqlAudit.Proofs.Audit.Causes

/-!
# Stages of an audit

The checks of a text are three stages, each of which takes a report and returns it. `Stage.run`
makes one of them. Main statements:

* `Stage.run_eq_extend`: a stage adds findings to the ends of the three lists of a report, and
  touches nothing else; they depend on the text, the two flags and the bound values alone;
* `stages_local`: for any two reports that agree in these, and for a whole audit, whose errors and
  warnings are those of the stages on fresh reports, one after another.
-/

namespace SqlAudit

/-- The stages of an audit. -/
inductive Stage where
  /-- The structure of the text. -/
  | form
  /-- The text against the bound values. -/
  | binding
  /-- Signs of injection in the text. -/
  | injection
deriving DecidableEq, Repr

/-- Two reports that agree in all that stages may look at. -/
structure Report.Agrees (r₁ r₂ : Report) : Prop where
  parameterized : r₁.parameterized = r₂.parameterized
  verbose : r₁.verbose = r₂.verbose
  params : r₁.params = r₂.params

/-- A report with more findings at the end of each list. -/
def Report.extend (r : Report) (errors warnings infos : List Finding) : Report :=
  { r with
    errors := r.errors ++ errors
    warnings := r.warnings ++ warnings
    infos := r.infos ++ infos }

namespace Stage

/-- All stages, in their order. -/
def all : List Stage :=
  [.form, .binding, .injection]

/-- A report after a stage. -/
def run (sql : List Char) (r : Report) : Stage → Report
  | .form => r.checkStructure sql
  | .binding => r.checkBinding sql
  | .injection => r.checkInjection sql

/-- What a stage finds. -/
def remarks (parameterized : Bool) (params : Params) (sql : List Char) : Stage → Remarks
  | .form => Structure.remarks parameterized sql
  | .binding => if parameterized then Binding.remarks params sql else .none
  | .injection => Injection.remarks parameterized sql

theorem run_eq_record (stage : Stage) (sql : List Char) (r : Report) :
    stage.run sql r = r.record (stage.remarks r.isParameterized r.bound sql) := by
  cases stage with
  | form => rfl
  | binding => exact Report.checkBinding_eq r sql
  | injection => rfl

/-- A stage adds findings to a report, which depend on no more of it than its flags and bound
values. -/
theorem run_eq_extend (stage : Stage) (sql : List Char) (r : Report) :
    let found := stage.remarks r.isParameterized r.bound sql
    stage.run sql r = r.extend (found.faults.map Fault.finding)
      (found.cautions.map Caution.finding)
      (if r.isVerbose then found.notes.map Note.finding else []) :=
  run_eq_record stage sql r

section Draft

variable (sql : List Char) (now : Timestamp) (q : Query) (verbose : Bool)
  (context : Option Context)

theorem errors_run_draft (stage : Stage) :
    (stage.run sql (Audit.draft now q verbose context)).errors =
      (stage.remarks q.isParameterized q.bound sql).faults.map Fault.finding := by
  rw [run_eq_extend]
  exact List.nil_append _

theorem warnings_run_draft (stage : Stage) :
    (stage.run sql (Audit.draft now q verbose context)).warnings =
      (stage.remarks q.isParameterized q.bound sql).cautions.map Caution.finding := by
  rw [run_eq_extend]
  exact List.nil_append _

end Draft

end Stage

/-- Stages are local. On any two reports that agree in their flags and bound values, however else
they differ, a stage adds the same findings at the ends of the lists and changes nothing else. Hence
the errors of an audited query that is not blank are those of its stages, each alone on a fresh
report at any time, with any context and however verbose; so are its warnings, behind the one on raw
queries, as long as no alert adds another. -/
theorem stages_local :
    (∀ (stage : Stage) (sql : List Char) (r₁ r₂ : Report), r₁.Agrees r₂ →
      ∃ errors warnings infos, stage.run sql r₁ = r₁.extend errors warnings infos ∧
        stage.run sql r₂ = r₂.extend errors warnings infos) ∧
    ∀ (v : Validator) (wire : Wire) (now : Timestamp) (s : Submission) (o : Options) (q : Query),
      o.Audits → s.toQuery = .ok q → Text.trim q.text.toList ≠ [] →
      ∃ r, (v.validate wire now s o).result = .ok r ∧
        ∀ (now' : Timestamp) (verbose : Bool) (context : Option Context),
          let alone (stage : Stage) : Report :=
            stage.run (Text.trim q.text.toList) (Audit.draft now' q verbose context)
          r.errors = Stage.all.flatMap (fun stage => (alone stage).errors) ∧
          (v.channel = none → r.warnings =
            (if q.isParameterized then [] else [Caution.nonParameterized.finding]) ++
              Stage.all.flatMap fun stage => (alone stage).warnings) := by
  constructor
  · intro stage sql r₁ r₂ h
    have hp : r₁.isParameterized = r₂.isParameterized := congrArg Value.isTruthy h.parameterized
    have hv : r₁.isVerbose = r₂.isVerbose := congrArg Value.isTruthy h.verbose
    have hb : r₁.bound = r₂.bound := congrArg (Option.getD · Params.empty) h.params
    refine ⟨_, _, _, stage.run_eq_extend sql r₁, ?_⟩
    rw [stage.run_eq_extend sql r₂, hp, hv, hb]
  · intro v wire now s o q ho hq ht
    obtain ⟨r, hr, he, hw⟩ := v.validate_audits ho hq wire now
    have ht' : (Text.trim q.text.toList).isEmpty = false := List.isEmpty_eq_false_iff.2 ht
    refine ⟨r, hr, fun now' verbose context => ⟨?_, fun hv => ?_⟩⟩
    · simp only [Stage.errors_run_draft]
      rw [he, Audit.faults_of_text ht', Audit.remarks]
      simp [Stage.all, Stage.remarks]
    · simp only [Stage.warnings_run_draft]
      rw [hw hv, Audit.cautions_of_text ht', Audit.remarks]
      cases q.isParameterized <;> simp [Stage.all, Stage.remarks]

/-- A stage on two reports that share no more than it looks at, and an audit made of stages. -/
theorem stages_local_of_delete :
    let r₁ := Report.blank "SELECT 1" ⟨2024, 1, 2, 3, 4, 5, 6⟩
    let r₂ : Report :=
      { Report.blank "" ⟨2025, 6, 5, 4, 3, 2, 1⟩ with
        status := .error, warnings := [⟨.warning, "before", none⟩], context := some [] }
    (∃ errors warnings infos,
      Stage.injection.run "SELECT '--'".toList r₁ = r₁.extend errors warnings infos ∧
      Stage.injection.run "SELECT '--'".toList r₂ = r₂.extend errors warnings infos) ∧
    ∃ r, (Validator.silent.validate {} r₁.timestamp (.value (.text " DELETE FROM t ")) {}).result =
      .ok r ∧ r.errors = Stage.all.flatMap fun stage =>
        (stage.run (Text.trim " DELETE FROM t ".toList)
          (Audit.draft r₂.timestamp (.raw " DELETE FROM t ") true r₂.context)).errors := by
  intro r₁ r₂
  have ho : Options.Audits {} := ⟨rfl, ⟨false, rfl⟩, ⟨none, rfl⟩⟩
  obtain ⟨r, hr, halone⟩ := stages_local.2 .silent {} r₁.timestamp
    (.value (.text " DELETE FROM t ")) {} (.raw " DELETE FROM t ") ho rfl (by decide)
  exact ⟨stages_local.1 .injection "SELECT '--'".toList r₁ r₂ ⟨rfl, rfl, rfl⟩,
    r, hr, (halone r₂.timestamp true r₂.context).1⟩

end SqlAudit
