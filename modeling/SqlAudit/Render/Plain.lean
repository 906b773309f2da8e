import SqlAudit.Render.Context

/-!
# Reports as plain text

The text of a report, as it is sent in alerts: a heading, then a section for each part of the
report that has anything to say. Every line ends with a line feed. There is no text if the report
shows a value that cannot be written.
-/

namespace SqlAudit

/-- The kind of query a report is about, in words. -/
def Report.kindName (r : Report) : String :=
  if r.isParameterized then "Parameterized query" else "Raw query"

/-- The lines on the context; none if there is none. -/
def Report.contextLines (r : Report) : List String :=
  (r.context.getD []).lines

/-- What keeps the lines on the context of a report from being written. -/
def Report.contextFailure? (room : Nat) (r : Report) : Option WriteError :=
  if r.hasContext then (r.context.getD []).failure? room else none

namespace Render

/-- A horizontal rule. -/
def rule : String :=
  String.ofList (List.replicate 50 '─')

/-- The heading of a report. -/
def heading (r : Report) : List String :=
  ["SQLGUARD - SQL QUERY VALIDATION ALERT", "", "Date/Time: " ++ r.timestamp.plain,
    "Type: " ++ r.kindName, "Status: " ++ r.status.name, s!"Errors: {r.errors.length}",
    s!"Warnings: {r.warnings.length}", ""]

/-- The section on the context. -/
def contextSection (r : Report) : List String :=
  if r.hasContext then ["EXECUTION CONTEXT:", rule] ++ r.contextLines ++ [rule, ""] else []

/-- The section on the query. -/
def querySection (r : Report) : List String :=
  ["QUERY:", rule, r.query, rule, ""]

/-- The line on a bound value. -/
def paramLine (e : Key × Scalar) : String :=
  "  [" ++ e.1.display ++ "] = " ++ e.2.literal

/-- The section on the bound values. -/
def paramSection (r : Report) : List String :=
  if r.isParameterized && !r.bound.entries.isEmpty then
    ["PARAMETERS:"] ++ r.bound.entries.map paramLine ++ [""]
  else []

/-- A section on findings; none if there are none. -/
def findingSection (title : String) (fs : List Finding) : List String :=
  if fs.isEmpty then [] else [title] ++ fs.map (fun f => "  • " ++ f.message) ++ [""]

/-- A part of a suggestion; none if it is empty. -/
def examplePart (title : String) (text? : Option String) : List String :=
  match text? with
  | some text => if text = "" then [] else [title, text, ""]
  | none => []

/-- The section on the suggestion. -/
def suggestionSection : Option Suggestion → List String
  | none => []
  | some s => ["SECURE QUERY SUGGESTION:", rule] ++ examplePart "SQL:" s.exampleQuery ++
      examplePart "Python Code Example:" s.exampleCode ++ ["Explanation:", s.explanation, rule]

/-- The lines of a report. -/
def plainLines (r : Report) : List String :=
  heading r ++ contextSection r ++ querySection r ++ paramSection r ++
    findingSection "ERRORS DETECTED:" r.errors ++ findingSection "WARNINGS:" r.warnings ++
    findingSection "DETAILED INFORMATION:" r.infos ++ suggestionSection r.suggestion

end Render

namespace Report

/-- A report as plain text. -/
def plain (r : Report) : String :=
  "\n".intercalate (Render.plainLines r) ++ "\n"

/-- What keeps a report from being written as plain text. -/
def plainFailure? (room : Nat) (r : Report) : Option WriteError :=
  (r.contextFailure? room).or
    (if r.isParameterized then r.bound.entries.findSome? Params.entryUnwritable? else none)

/-- A report as plain text, unless it shows a value that cannot be written. -/
def toPlain (room : Nat) (r : Report) : Except WriteError String :=
  writtenUnless (r.plainFailure? room) r.plain

end Report

end SqlAudit
