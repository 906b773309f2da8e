import SqlAudit.Render.Plain

/-!
# Reports as markup

A report as a fragment of HTML. Every text that comes from the query, the context or the findings
is escaped, so that the tags are those of the template.
-/

namespace SqlAudit

namespace Html

/-- A character of a text within markup. -/
def escapeChar (c : Char) : List Char :=
  if c == '&' then "&amp;".toList
  else if c == '<' then "&lt;".toList
  else if c == '>' then "&gt;".toList
  else if c == '"' then "&quot;".toList
  else if c == '\'' then "&#x27;".toList
  else [c]

/-- A text within markup. -/
def escape (s : String) : String :=
  String.ofList (s.toList.flatMap escapeChar)

/-- The sign of a status. -/
def icon : Status → String
  | .success => "✅"
  | .error => "❌"
  | _ => "⏭️"

/-- The name of a status in capitals. -/
def statusName : Status → String
  | .pending => "PENDING"
  | .success => "SUCCESS"
  | .error => "ERROR"
  | .bypassed => "BYPASSED"

/-- The heading of a report. -/
def heading (r : Report) : List String :=
  ["<div style='font-family: monospace; background: #f5f5f5; padding: 20px; border-radius: 8px;'>",
    "<h2>" ++ icon r.status ++ " SQLGuard Validation Report</h2>",
    "<p><strong>Type:</strong> " ++ r.kindName ++ "</p>",
    "<p><strong>Status:</strong> " ++ statusName r.status ++ "</p>",
    s!"<p><strong>Errors:</strong> {r.errors.length} | " ++
      s!"<strong>Warnings:</strong> {r.warnings.length}</p>",
    "<pre><code>" ++ escape r.query ++ "</code></pre>"]

/-- An item of a list. -/
def item (s : String) : String :=
  "<li>" ++ escape s ++ "</li>"

/-- The part on the context. -/
def contextPart (r : Report) : List String :=
  if r.hasContext then
    ["<details open><summary><strong>Execution Context</strong></summary><ul>"] ++
      r.contextLines.map item ++ ["</ul></details>"]
  else []

/-- A part on findings in a colour. -/
def findingPart (title color : String) (fs : List Finding) : List String :=
  if fs.isEmpty then []
  else ["<h3>" ++ title ++ ":</h3><ul>"] ++
    fs.map (fun f => "<li style='color: " ++ color ++ ";'>" ++ escape f.message ++ "</li>") ++
    ["</ul>"]

/-- The part on mere information. -/
def infoPart (fs : List Finding) : List String :=
  if fs.isEmpty then []
  else ["<details><summary>Detailed Information</summary><ul>"] ++
    fs.map (fun f => item f.message) ++ ["</ul></details>"]

/-- An example of a suggestion; none if it is empty. -/
def examplePart (title : String) (text? : Option String) : List String :=
  match text? with
  | some text =>
    if text = "" then []
    else ["<p><strong>" ++ title ++ ":</strong></p><pre><code>" ++ escape text ++ "</code></pre>"]
  | none => []

/-- The part on the suggestion. -/
def suggestionPart : Option Suggestion → List String
  | none => []
  | some s =>
    ["<details open><summary><strong>Secure Query Suggestion</strong></summary>",
      "<div style='background: #e8f5e9; padding: 15px; border-left: 4px solid #4caf50;'>"] ++
    examplePart "SQL" s.exampleQuery ++ examplePart "Python Code Example" s.exampleCode ++
    ["<p><strong>Explanation:</strong></p><p>" ++ escape s.explanation ++ "</p>",
      "</div></details>"]

/-- The pieces of a report, in order. -/
def pieces (r : Report) : List String :=
  heading r ++ contextPart r ++ findingPart "Errors" "#d32f2f" r.errors ++
    findingPart "Warnings" "#f57c00" r.warnings ++ infoPart r.infos ++
    suggestionPart r.suggestion ++ ["</div>"]

end Html

/-- A report as a fragment of HTML. -/
def Report.html (r : Report) : String :=
  String.join (Html.pieces r)

/-- A report as a fragment of HTML, unless its context has a value that cannot be written. -/
def Report.toHtml (room : Nat) (r : Report) : Except WriteError String :=
  writtenUnless (r.contextFailure? room) r.html

end SqlAudit
