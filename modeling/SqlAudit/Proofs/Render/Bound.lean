import SqlAudit.Render.Html

/-!
# Bound values in the renderings of a report

The plain text of a report on a parameterized query has a line for every bound value. Its markup has
no part on them. Main statements:

* `Report.plain_eq_join`: the plain text consists of lines, each with its line feed;
* `Report.plain_withBound`: the lines on the bound values, and that no other line tells of them;
* `bound_values_shown_plainly`: what the two renderings show of the bound values;
* `bound_value_missing_from_html`: two reports with different values have the same markup.
-/

namespace SqlAudit

theorem intercalate_append_self {sep : String} {ss : List String} (h : ss ≠ []) :
    sep.intercalate ss ++ sep = String.join (ss.map (· ++ sep)) := by
  induction ss with
  | nil => exact absurd rfl h
  | cons s ss ih =>
    rw [List.map_cons, String.join_cons]
    by_cases hss : ss = []
    · subst hss
      simp
    · rw [String.intercalate_cons_of_ne_nil hss, String.append_assoc, ih hss]

namespace Report

/-- A report with other bound values. -/
def withBound (r : Report) (p : Params) : Report :=
  { r with params := some p }

theorem withBound_of_params {r : Report} {p : Params} (h : r.params = some p) :
    r.withBound p = r := by
  rw [withBound, ← h]

/-- The markup of a report has no part that depends on the bound values. -/
theorem html_withBound (r : Report) (p : Params) : (r.withBound p).html = r.html := rfl

/-- The lines of a plain text above those on the bound values. -/
def linesAbove (r : Report) : List String :=
  Render.heading r ++ Render.contextSection r ++ Render.querySection r

/-- The lines of a plain text below those on the bound values. -/
def linesBelow (r : Report) : List String :=
  Render.findingSection "ERRORS DETECTED:" r.errors ++
    Render.findingSection "WARNINGS:" r.warnings ++
    Render.findingSection "DETAILED INFORMATION:" r.infos ++ Render.suggestionSection r.suggestion

theorem plainLines_eq (r : Report) :
    Render.plainLines r = r.linesAbove ++ Render.paramSection r ++ r.linesBelow := by
  simp only [Render.plainLines, linesAbove, linesBelow, List.append_assoc]

/-- A plain text is its lines, each with a line feed. -/
theorem plain_eq_join (r : Report) :
    r.plain = String.join ((Render.plainLines r).map (· ++ "\n")) := by
  rw [plain, intercalate_append_self]
  simp [Render.plainLines, Render.heading]

theorem paramSection_withBound {r : Report} (hr : r.isParameterized = true) {p : Params}
    (hp : p.entries ≠ []) :
    Render.paramSection (r.withBound p) =
      ["PARAMETERS:"] ++ p.entries.map Render.paramLine ++ [""] := by
  have hparameterized : (r.withBound p).isParameterized = true := hr
  have hbound : (r.withBound p).bound = p := rfl
  rw [Render.paramSection, hparameterized, hbound, List.isEmpty_eq_false_iff.2 hp]
  rfl

/-- The lines on the bound values, between lines that do not depend on them. -/
theorem plain_withBound {r : Report} (hr : r.isParameterized = true) {p : Params}
    (hp : p.entries ≠ []) :
    (r.withBound p).plain = String.join ((r.linesAbove ++ (["PARAMETERS:"] ++
      p.entries.map Render.paramLine ++ [""]) ++ r.linesBelow).map (· ++ "\n")) := by
  rw [plain_eq_join, plainLines_eq, paramSection_withBound hr hp]
  rfl

/-- The literal of one bound value stands between texts that depend on all else. -/
theorem exists_around_literal {r : Report} (hr : r.isParameterized = true)
    (before after : List (Key × Scalar)) (k : Key) :
    ∃ front back : String, ∀ (p : Params) (v : Scalar), p.entries = before ++ (k, v) :: after →
      (r.withBound p).plain = front ++ v.literal ++ back := by
  refine ⟨String.join ((r.linesAbove ++ ["PARAMETERS:"] ++ before.map Render.paramLine).map
      (· ++ "\n")) ++ "  [" ++ k.display ++ "] = ",
    "\n" ++ String.join ((after.map Render.paramLine ++ [""] ++ r.linesBelow).map (· ++ "\n")),
    fun p v hp => ?_⟩
  have hne : p.entries ≠ [] := by simp [hp]
  rw [plain_withBound hr hne, hp]
  simp only [List.map_append, List.map_cons, List.map_nil, String.join_append, String.join_cons,
    String.join_nil, String.append_empty, Render.paramLine, String.append_assoc]

end Report

/-- The plain text of a report on a parameterized query has a line for every bound value, with its
key and its literal, in their order and between lines that do not depend on the bound values. So it
differs if one of the values has another literal. The markup of a report is the same whatever is
bound. -/
theorem bound_values_shown_plainly {r : Report} (hr : r.isParameterized = true) :
    (∃ above below : List String, ∀ p : Params, p.entries ≠ [] →
      (r.withBound p).plain = String.join ((above ++ (["PARAMETERS:"] ++
        p.entries.map (fun e => "  [" ++ e.1.display ++ "] = " ++ e.2.literal) ++ [""]) ++
        below).map (· ++ "\n"))) ∧
    (∀ (p p' : Params) (before after : List (Key × Scalar)) (k : Key) (v v' : Scalar),
      p.entries = before ++ (k, v) :: after → p'.entries = before ++ (k, v') :: after →
      v.literal ≠ v'.literal → (r.withBound p).plain ≠ (r.withBound p').plain) ∧
    (∀ p : Params, (r.withBound p).html = r.html) ∧
    ∀ p : Params, r.params = some p → r.withBound p = r := by
  refine ⟨⟨r.linesAbove, r.linesBelow, fun p hp => Report.plain_withBound hr hp⟩, ?_,
    r.html_withBound, fun p hp => Report.withBound_of_params hp⟩
  intro p p' before after k v v' hp hp' hv heq
  obtain ⟨front, back, haround⟩ := Report.exists_around_literal hr before after k
  rw [haround p v hp, haround p' v' hp', String.append_left_inj, String.append_right_inj] at heq
  exact hv heq

/-- A value with a line feed in it has one line, and a number is told from a text. -/
theorem two_values_shown_plainly :
    let r : Report := { Report.blank "SELECT ?, :a;" ⟨2024, 1, 2, 3, 4, 5, 0⟩ with
      parameterized := .bool true }
    let p : Params := .ofEntries [(.position 0, .text "x\ny"), (.name "a", .int 1)]
    let p' : Params := .ofEntries [(.position 0, .text "x\ny"), (.name "a", .text "1")]
    r.isParameterized = true ∧
      (∃ above below : List String, (r.withBound p).plain = String.join ((above ++
        ["PARAMETERS:", "  [0] = 'x\\ny'", "  [a] = 1", ""] ++ below).map (· ++ "\n"))) ∧
      (r.withBound p).plain ≠ (r.withBound p').plain := by
  intro r p p'
  obtain ⟨⟨above, below, hplain⟩, hne, -, -⟩ := bound_values_shown_plainly (r := r) rfl
  refine ⟨rfl, ⟨above, below, hplain p (by decide)⟩, ?_⟩
  exact hne p p' [(.position 0, .text "x\ny")] [] (.name "a") (.int 1) (.text "1") rfl rfl
    (by decide)

/-- The markup of a report does not have the literal of a bound value, and it is the same for
another value. -/
theorem bound_value_missing_from_html :
    let r : Report := { Report.blank "SELECT ?;" ⟨2024, 1, 2, 3, 4, 5, 0⟩ with
      params := some (.ofList [.text "jackal"]), parameterized := .bool true, status := .success }
    r.isParameterized = true ∧ r.bound.entries = [(.position 0, .text "jackal")] ∧
      ¬ (Html.escape (Scalar.text "jackal").literal).toList <:+: r.html.toList ∧
      (Scalar.text "jackal").literal ≠ (Scalar.text "okapi").literal ∧
      (r.withBound (.ofList [.text "okapi"])).html = r.html := by
  intro r
  refine ⟨rfl, rfl, fun hshown => ?_, by decide, r.html_withBound _⟩
  -- A letter that occurs in the value occurs nowhere in the markup.
  have hletter : 'j' ∈ (Html.escape (Scalar.text "jackal").literal).toList := by decide
  have hpieces : ((Html.pieces r).all fun s => !s.toList.contains 'j') = true := by decide
  have hhtml := hshown.subset hletter
  rw [Report.html, String.toList_join] at hhtml
  obtain ⟨s, hs, hin⟩ := List.mem_flatMap.1 hhtml
  have hout := List.all_eq_true.1 hpieces s hs
  rw [List.contains_iff_mem.2 hin] at hout
  exact Bool.noConfusion hout

end SqlAudit
