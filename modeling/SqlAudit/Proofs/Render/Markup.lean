import SqlAudit.Proofs.Text.Trim
import SqlAudit.Render.Html

/-!
# The tags of a report

A report as markup has the tags of its template, whatever the texts in it. `Html.tags` reads the
tags off a text and `Html.marks` the characters that markup is made of; `Html.frame` lists the tags
of the template for a report of some shape. Main statements:

* `Framed.append`, `Framed.content`: texts whose tags are all closed are put together, and escaped
  texts add nothing to them;
* `Html.framed_html`: the tags of a report are those of its frame, and no mark is outside of a tag;
* `same_markup`: two reports of one shape have the same tags.
-/

namespace SqlAudit

namespace Html

/-! ## Tags and marks -/

/-- A character that markup is made of. -/
def isMark (c : Char) : Bool :=
  c == '<' || c == '>' || c == '"' || c == '\''

/-- The marks of a text, in order. -/
def marks (s : String) : List Char :=
  s.toList.filter isMark

/-- The tags of a text behind the start of a tag, if one is open. -/
def tagsFrom : (opened : Option (List Char)) → List Char → List (List Char)
  | _, [] => []
  | none, c :: cs => if c = '<' then tagsFrom (some [c]) cs else tagsFrom none cs
  | some t, c :: cs =>
    if c = '>' then (t ++ [c]) :: tagsFrom none cs else tagsFrom (some (t ++ [c])) cs

/-- The tags of a text: each goes from the first `<` behind the last tag to the next `>`. -/
def tags (s : String) : List String :=
  (tagsFrom none s.toList).map String.ofList

/-- The start of a tag that is open at the end of a text. -/
def openAfter : (opened : Option (List Char)) → List Char → Option (List Char)
  | opened, [] => opened
  | none, c :: cs => if c = '<' then openAfter (some [c]) cs else openAfter none cs
  | some t, c :: cs => if c = '>' then openAfter none cs else openAfter (some (t ++ [c])) cs

theorem tagsFrom_append (opened : Option (List Char)) (s t : List Char) :
    tagsFrom opened (s ++ t) = tagsFrom opened s ++ tagsFrom (openAfter opened s) t := by
  induction s generalizing opened with
  | nil => cases opened <;> rfl
  | cons c s ih =>
    cases opened <;> by_cases hc : c = '<' <;> by_cases hc' : c = '>' <;>
      simp [tagsFrom, openAfter, ih, hc, hc']

theorem openAfter_append (opened : Option (List Char)) (s t : List Char) :
    openAfter opened (s ++ t) = openAfter (openAfter opened s) t := by
  induction s generalizing opened with
  | nil => cases opened <;> rfl
  | cons c s ih =>
    cases opened <;> by_cases hc : c = '<' <;> by_cases hc' : c = '>' <;>
      simp [openAfter, ih, hc, hc']

/-! ## Frames -/

/-- A text with the tags `frame`, all of them closed, and without marks outside of tags. -/
structure Framed (s : String) (frame : List String) : Prop where
  tags_eq : tags s = frame
  closed : openAfter none s.toList = none
  marks_eq : marks s = frame.flatMap marks

/-- The tags of a text whose tags are all closed, and which has no marks outside of them. -/
def outline (cs : List Char) : Option (List String) :=
  if openAfter none cs = none ∧
    cs.filter isMark = (tagsFrom none cs).flatMap (List.filter isMark) then
    some ((tagsFrom none cs).map String.ofList)
  else none

namespace Framed

/-- A fixed text, by its characters. -/
theorem markup {cs : List Char} {frame : List String} (h : outline cs = some frame) :
    Framed (String.ofList cs) frame := by
  rw [outline, Option.ite_none_right_eq_some, Option.some.injEq] at h
  obtain ⟨⟨ho, hm⟩, rfl⟩ := h
  refine ⟨?_, ?_, ?_⟩
  · rw [tags, String.toList_ofList]
  · rw [String.toList_ofList, ho]
  · rw [marks, String.toList_ofList, hm, List.flatMap_map]
    simp only [marks, String.toList_ofList]

/-- A text without marks has an empty frame. -/
theorem of_inert {s : String} (h : ∀ c ∈ s.toList, isMark c = false) : Framed s [] := by
  have htags : ∀ cs : List Char, (∀ c ∈ cs, isMark c = false) →
      tagsFrom none cs = [] ∧ openAfter none cs = none := by
    intro cs hcs
    induction cs with
    | nil => exact ⟨rfl, rfl⟩
    | cons c cs ih =>
      have hc : c ≠ '<' := by
        rintro rfl
        exact absurd (hcs '<' List.mem_cons_self) (by decide)
      simp only [tagsFrom, openAfter, hc, if_false]
      exact ih fun d hd => hcs d (List.mem_cons_of_mem c hd)
  obtain ⟨ht, ho⟩ := htags _ h
  refine ⟨?_, ho, ?_⟩
  · rw [tags, ht]
    rfl
  · exact List.filter_eq_nil_iff.2 fun c hc => by simp [h c hc]

theorem append {s t : String} {f g : List String} (hs : Framed s f) (ht : Framed t g) :
    Framed (s ++ t) (f ++ g) := by
  refine ⟨?_, ?_, ?_⟩
  · rw [tags, String.toList_append, tagsFrom_append, hs.closed, List.map_append, ← hs.tags_eq,
      ← ht.tags_eq]
    rfl
  · rw [String.toList_append, openAfter_append, hs.closed, ht.closed]
  · rw [marks, String.toList_append, List.filter_append, List.flatMap_append, ← hs.marks_eq,
      ← ht.marks_eq]
    rfl

/-- A text without tags between two others. -/
theorem around {s t u : String} {f g : List String} (hs : Framed s f) (ht : Framed t [])
    (hu : Framed u g) : Framed (s ++ t ++ u) (f ++ g) := by
  have h := (hs.append ht).append hu
  rwa [List.append_nil] at h

theorem nil : Framed (String.join []) [] :=
  ⟨rfl, rfl, rfl⟩

theorem cons {s : String} {ss : List String} {f g : List String} (hs : Framed s f)
    (hss : Framed (String.join ss) g) : Framed (String.join (s :: ss)) (f ++ g) := by
  rw [String.join_cons]
  exact hs.append hss

theorem singleton {s : String} {f : List String} (h : Framed s f) :
    Framed (String.join [s]) f := by
  rw [String.join_cons, String.join_nil, String.append_empty]
  exact h

theorem join_append {ss ts : List String} {f g : List String} (hs : Framed (String.join ss) f)
    (ht : Framed (String.join ts) g) : Framed (String.join (ss ++ ts)) (f ++ g) := by
  rw [String.join_append]
  exact hs.append ht

/-- Pieces between a first and a last one. -/
theorem between {first last : String} {ss : List String} {f g h : List String}
    (hf : Framed first f) (hs : Framed (String.join ss) g) (hl : Framed last h) :
    Framed (String.join ([first] ++ ss ++ [last])) (f ++ g ++ h) := by
  have hjoin : String.join ([first] ++ ss ++ [last]) = first ++ String.join ss ++ last := by
    simp only [String.join_append, String.join_cons, String.join_nil, String.append_empty]
  rw [hjoin]
  exact (hf.append hs).append hl

/-- Items of a list, each with the same tags. -/
theorem map {α : Type} {f : α → String} {frame : List String} (h : ∀ a, Framed (f a) frame)
    (l : List α) : Framed (String.join (l.map f)) (List.replicate l.length frame).flatten := by
  induction l with
  | nil => exact nil
  | cons a l ih => exact (h a).cons ih

/-- A tag: it may hold any text without the sign that ends it. -/
theorem tag {body : String} (h : '>' ∉ body.toList) :
    Framed ("<" ++ body ++ ">") ["<" ++ body ++ ">"] := by
  have hopen : ∀ (t cs : List Char), '>' ∉ cs →
      tagsFrom (some t) (cs ++ ['>']) = [t ++ cs ++ ['>']] ∧
      openAfter (some t) (cs ++ ['>']) = none := by
    intro t cs hcs
    induction cs generalizing t with
    | nil => simp [tagsFrom, openAfter]
    | cons c cs ih =>
      rw [List.mem_cons, not_or] at hcs
      have hc : c ≠ '>' := fun he => hcs.1 he.symm
      simpa [tagsFrom, openAfter, hc] using ih (t ++ [c]) hcs.2
  have hs : ("<" ++ body ++ ">").toList = '<' :: (body.toList ++ ['>']) := by
    simp
  obtain ⟨ht, ho⟩ := hopen ['<'] body.toList h
  refine ⟨?_, ?_, ?_⟩
  · have htags : tagsFrom none ("<" ++ body ++ ">").toList = [("<" ++ body ++ ">").toList] := by
      rw [hs]
      exact ht
    rw [tags, htags, List.map_singleton, String.ofList_toList]
  · rw [hs]
    exact ho
  · rw [List.flatMap_singleton]

end Framed

/-! ## Texts within markup -/

theorem isMark_of_mem_escapeChar {c d : Char} (h : d ∈ escapeChar c) : isMark d = false := by
  have hall : ['&', '<', '>', '"', '\''].all (fun c => (escapeChar c).all fun d => !isMark d) =
      true := by
    decide
  by_cases hc : c ∈ ['&', '<', '>', '"', '\'']
  · have hd := List.all_eq_true.1 (List.all_eq_true.1 hall c hc) d h
    rwa [Bool.not_eq_true'] at hd
  · simp only [List.mem_cons, List.not_mem_nil, or_false, not_or] at hc
    have he : escapeChar c = [c] := by simp [escapeChar, hc]
    rw [he, List.mem_singleton] at h
    simp [h, isMark, hc]

/-- An escaped text adds no tags. -/
theorem Framed.content (s : String) : Framed (escape s) [] := by
  refine .of_inert fun d hd => ?_
  rw [escape, String.toList_ofList, List.mem_flatMap] at hd
  obtain ⟨c, -, hd⟩ := hd
  exact isMark_of_mem_escapeChar hd

theorem Framed.number (n : Nat) : Framed (toString n) [] := by
  refine .of_inert fun c hc => ?_
  have hd : c.isDigit = true := Text.isDigit_of_mem_toString hc
  have hall : ['<', '>', '"', '\''].all (fun c => !c.isDigit) = true := by decide
  cases hm : isMark c with
  | false => rfl
  | true =>
    simp only [isMark, Bool.or_eq_true, beq_iff_eq, or_assoc] at hm
    have hc := List.all_eq_true.1 hall c (by simpa using hm)
    rw [hd] at hc
    exact Bool.noConfusion hc

end Html

/-! ## The template -/

/-- What the markup of a report depends on: how many findings of each severity it has, whether it
has a context and that an address, and which examples its suggestion has, if it has one. -/
structure Shape where
  errors : Nat
  warnings : Nat
  infos : Nat
  context : Bool
  url : Bool
  suggestion : Option (Bool × Bool)
deriving DecidableEq, Repr

/-- Whether an example is there and not empty. -/
def hasExample (text? : Option String) : Bool :=
  text?.any (· ≠ "")

/-- The shape of a report. -/
def Report.shape (r : Report) : Shape where
  errors := r.errors.length
  warnings := r.warnings.length
  infos := r.infos.length
  context := r.hasContext
  url := ((r.context.getD []).truthy? "url").isSome
  suggestion := r.suggestion.map fun s => (hasExample s.exampleQuery, hasExample s.exampleCode)

namespace Html

/-- All tags of the template. -/
def template : List String := [
  "<div style='font-family: monospace; background: #f5f5f5; padding: 20px; border-radius: 8px;'>",
  "<div style='background: #e8f5e9; padding: 15px; border-left: 4px solid #4caf50;'>", "</div>",
  "<h2>", "</h2>", "<h3>", "</h3>", "<p>", "</p>", "<strong>", "</strong>", "<pre>", "</pre>",
  "<code>", "</code>", "<ul>", "</ul>", "<li>", "<li style='color: #d32f2f;'>",
  "<li style='color: #f57c00;'>", "</li>", "<details>", "<details open>", "</details>", "<summary>",
  "</summary>"]

def headingFrame : List String :=
  ["<div style='font-family: monospace; background: #f5f5f5; padding: 20px; border-radius: 8px;'>",
    "<h2>", "</h2>", "<p>", "<strong>", "</strong>", "</p>", "<p>", "<strong>", "</strong>", "</p>",
    "<p>", "<strong>", "</strong>", "<strong>", "</strong>", "</p>", "<pre>", "<code>", "</code>",
    "</pre>"]

/-- The tags of a list of `count` items. -/
def itemsFrame (start : String) (count : Nat) : List String :=
  (List.replicate count [start, "</li>"]).flatten

def contextFrame (url : Bool) : List String :=
  ["<details open>", "<summary>", "<strong>", "</strong>", "</summary>", "<ul>"] ++
    itemsFrame "<li>" (if url then 5 else 4) ++ ["</ul>", "</details>"]

def findingFrame (color : String) (count : Nat) : List String :=
  if count = 0 then []
  else ["<h3>", "</h3>", "<ul>"] ++ itemsFrame ("<li style='color: " ++ color ++ ";'>") count ++
    ["</ul>"]

def infoFrame (count : Nat) : List String :=
  if count = 0 then []
  else ["<details>", "<summary>", "</summary>", "<ul>"] ++ itemsFrame "<li>" count ++
    ["</ul>", "</details>"]

def exampleFrame (present : Bool) : List String :=
  if present then
    ["<p>", "<strong>", "</strong>", "</p>", "<pre>", "<code>", "</code>", "</pre>"]
  else []

def suggestionFrame : Option (Bool × Bool) → List String
  | none => []
  | some (query, code) =>
    ["<details open>", "<summary>", "<strong>", "</strong>", "</summary>",
      "<div style='background: #e8f5e9; padding: 15px; border-left: 4px solid #4caf50;'>"] ++
    exampleFrame query ++ exampleFrame code ++
    ["<p>", "<strong>", "</strong>", "</p>", "<p>", "</p>", "</div>", "</details>"]

/-- The tags of a report of a shape, in order. -/
def frame (s : Shape) : List String :=
  headingFrame ++ (if s.context then contextFrame s.url else []) ++
    findingFrame "#d32f2f" s.errors ++ findingFrame "#f57c00" s.warnings ++ infoFrame s.infos ++
    suggestionFrame s.suggestion ++ ["</div>"]

/-! ## The parts of a report -/

theorem framed_icon (s : Status) : Framed (icon s) [] := by
  cases s <;> exact .markup rfl

theorem framed_statusName (s : Status) : Framed (statusName s) [] := by
  cases s <;> exact .markup rfl

theorem framed_kindName (r : Report) : Framed r.kindName [] := by
  rw [Report.kindName]
  cases r.isParameterized <;> exact .markup rfl

theorem framed_heading (r : Report) : Framed (String.join (heading r)) headingFrame := by
  have htitle : Framed ("<h2>" ++ icon r.status ++ " SQLGuard Validation Report</h2>")
      ["<h2>", "</h2>"] :=
    .around (f := ["<h2>"]) (.markup rfl) (framed_icon _) (.markup rfl)
  have hkind : Framed ("<p><strong>Type:</strong> " ++ r.kindName ++ "</p>")
      ["<p>", "<strong>", "</strong>", "</p>"] :=
    .around (f := ["<p>", "<strong>", "</strong>"]) (.markup rfl) (framed_kindName r) (.markup rfl)
  have hstatus : Framed ("<p><strong>Status:</strong> " ++ statusName r.status ++ "</p>")
      ["<p>", "<strong>", "</strong>", "</p>"] :=
    .around (f := ["<p>", "<strong>", "</strong>"]) (.markup rfl) (framed_statusName r.status)
      (.markup rfl)
  have herrors : Framed ("<p><strong>Errors:</strong> " ++ toString r.errors.length ++ " | ")
      ["<p>", "<strong>", "</strong>"] :=
    .around (f := ["<p>", "<strong>", "</strong>"]) (.markup rfl) (.number _) (.markup rfl)
  have hwarnings : Framed ("<strong>Warnings:</strong> " ++ toString r.warnings.length ++ "</p>")
      ["<strong>", "</strong>", "</p>"] :=
    .around (f := ["<strong>", "</strong>"]) (.markup rfl) (.number _) (.markup rfl)
  have hquery : Framed ("<pre><code>" ++ escape r.query ++ "</code></pre>")
      ["<pre>", "<code>", "</code>", "</pre>"] :=
    .around (f := ["<pre>", "<code>"]) (.markup rfl) (.content _) (.markup rfl)
  exact .cons (f := headingFrame.take 1) (.markup rfl) (htitle.cons (hkind.cons (hstatus.cons
    ((herrors.append hwarnings).cons hquery.singleton))))

theorem framed_item (s : String) : Framed (item s) ["<li>", "</li>"] :=
  .around (f := ["<li>"]) (.markup rfl) (.content s) (.markup rfl)

theorem length_lines (c : Context) :
    c.lines.length = if (c.truthy? "url").isSome then 5 else 4 := by
  rw [Context.lines, Context.originLines, List.length_append]
  cases c.truthy? "url" <;> rfl

theorem framed_contextPart (r : Report) : Framed (String.join (contextPart r))
    (if r.shape.context then contextFrame r.shape.url else []) := by
  rw [contextPart, Report.shape]
  cases r.hasContext with
  | false => exact .nil
  | true =>
    have hitems := Framed.map framed_item r.contextLines
    rw [Report.contextLines, length_lines] at hitems
    exact .between (f := (contextFrame true).take 6) (.markup rfl) hitems (.markup rfl)

theorem framed_findingPart {title color : String} (ht : Framed title [])
    (hc : '>' ∉ color.toList) (fs : List Finding) :
    Framed (String.join (findingPart title color fs)) (findingFrame color fs.length) := by
  rw [findingPart, findingFrame]
  cases fs with
  | nil => exact .nil
  | cons f fs =>
    have hstart : Framed ("<h3>" ++ title ++ ":</h3><ul>") ["<h3>", "</h3>", "<ul>"] :=
      .around (f := ["<h3>"]) (.markup rfl) ht (.markup rfl)
    have htag : Framed ("<li style='color: " ++ color ++ ";'>")
        ["<li style='color: " ++ color ++ ";'>"] := by
      have heq : "<li style='color: " ++ color ++ ";'>" =
          "<" ++ ("li style='color: " ++ color ++ ";'") ++ ">" := String.toList_inj.1 (by simp)
      rw [heq]
      exact .tag (by simpa using hc)
    have hitem (f : Finding) :
        Framed ("<li style='color: " ++ color ++ ";'>" ++ escape f.message ++ "</li>")
          ["<li style='color: " ++ color ++ ";'>", "</li>"] :=
      htag.around (.content f.message) (g := ["</li>"]) (.markup rfl)
    rw [if_neg (by simp), if_neg (by simp)]
    exact hstart.between (.map hitem (f :: fs)) (.markup rfl)

theorem framed_infoPart (fs : List Finding) :
    Framed (String.join (infoPart fs)) (infoFrame fs.length) := by
  rw [infoPart, infoFrame]
  cases fs with
  | nil => exact .nil
  | cons f fs =>
    have hstart : Framed "<details><summary>Detailed Information</summary><ul>"
        ["<details>", "<summary>", "</summary>", "<ul>"] := .markup rfl
    have hitem (f : Finding) : Framed (item f.message) ["<li>", "</li>"] := framed_item f.message
    rw [if_neg (by simp), if_neg (by simp)]
    exact hstart.between (.map hitem (f :: fs)) (.markup rfl)

theorem framed_examplePart {title : String} (ht : Framed title []) (text? : Option String) :
    Framed (String.join (examplePart title text?)) (exampleFrame (hasExample text?)) := by
  cases text? with
  | none => exact .nil
  | some text =>
    by_cases h : text = ""
    · subst h
      exact .nil
    · have hframe : exampleFrame (hasExample (some text)) = exampleFrame true := by
        simp [hasExample, h]
      have hstart : Framed ("<p><strong>" ++ title ++ ":</strong></p><pre><code>")
          ["<p>", "<strong>", "</strong>", "</p>", "<pre>", "<code>"] :=
        .around (f := ["<p>", "<strong>"]) (.markup rfl) ht (.markup rfl)
      rw [hframe, examplePart, if_neg h]
      exact .singleton (hstart.around (.content text) (.markup rfl))

theorem framed_suggestionPart (s? : Option Suggestion) :
    Framed (String.join (suggestionPart s?)) (suggestionFrame
      (s?.map fun s => (hasExample s.exampleQuery, hasExample s.exampleCode))) := by
  cases s? with
  | none => exact .nil
  | some s =>
    have hquery : Framed (String.join (examplePart "SQL" s.exampleQuery))
        (exampleFrame (hasExample s.exampleQuery)) :=
      framed_examplePart (.markup rfl) s.exampleQuery
    have hcode : Framed (String.join (examplePart "Python Code Example" s.exampleCode))
        (exampleFrame (hasExample s.exampleCode)) :=
      framed_examplePart (.markup rfl) s.exampleCode
    have hwhy : Framed ("<p><strong>Explanation:</strong></p><p>" ++ escape s.explanation ++ "</p>")
        ["<p>", "<strong>", "</strong>", "</p>", "<p>", "</p>"] :=
      .around (f := ["<p>", "<strong>", "</strong>", "</p>", "<p>"]) (.markup rfl)
        (.content s.explanation) (.markup rfl)
    have hstart : Framed (String.join
        ["<details open><summary><strong>Secure Query Suggestion</strong></summary>",
          "<div style='background: #e8f5e9; padding: 15px; border-left: 4px solid #4caf50;'>"])
        ["<details open>", "<summary>", "<strong>", "</strong>", "</summary>",
          "<div style='background: #e8f5e9; padding: 15px; border-left: 4px solid #4caf50;'>"] :=
      .cons (f := ["<details open>", "<summary>", "<strong>", "</strong>", "</summary>"])
        (.markup rfl) (.singleton (.markup rfl))
    have hend : Framed (String.join ["</div></details>"]) ["</div>", "</details>"] :=
      .singleton (.markup rfl)
    exact ((hstart.join_append hquery).join_append hcode).join_append (hwhy.cons hend)

/-- The tags of a report are those of the frame for its shape. -/
theorem framed_html (r : Report) : Framed r.html (frame r.shape) := by
  have herrors : Framed (String.join (findingPart "Errors" "#d32f2f" r.errors))
      (findingFrame "#d32f2f" r.shape.errors) :=
    framed_findingPart (.markup rfl) (by decide) r.errors
  have hwarnings : Framed (String.join (findingPart "Warnings" "#f57c00" r.warnings))
      (findingFrame "#f57c00" r.shape.warnings) :=
    framed_findingPart (.markup rfl) (by decide) r.warnings
  have hinfos : Framed (String.join (infoPart r.infos)) (infoFrame r.shape.infos) :=
    framed_infoPart r.infos
  have hsuggestion : Framed (String.join (suggestionPart r.suggestion))
      (suggestionFrame r.shape.suggestion) := framed_suggestionPart r.suggestion
  have hend : Framed (String.join ["</div>"]) ["</div>"] := .singleton (.markup rfl)
  rw [Report.html, pieces, frame]
  exact ((((((framed_heading r).join_append (framed_contextPart r)).join_append herrors).join_append
    hwarnings).join_append hinfos).join_append hsuggestion).join_append hend

theorem itemsFrame_subset {start : String} (hs : start ∈ template) (count : Nat) :
    itemsFrame start count ⊆ template := by
  intro t ht
  obtain ⟨f, hf, ht⟩ := List.mem_flatten.1 ht
  rw [List.eq_of_mem_replicate hf, List.mem_cons, List.mem_singleton] at ht
  rcases ht with rfl | rfl
  · exact hs
  · decide

theorem contextFrame_subset (url : Bool) : contextFrame url ⊆ template := by
  simp only [contextFrame, List.append_subset]
  exact ⟨⟨by decide, itemsFrame_subset (by decide) _⟩, by decide⟩

theorem findingFrame_subset {color : String}
    (hc : "<li style='color: " ++ color ++ ";'>" ∈ template) (count : Nat) :
    findingFrame color count ⊆ template := by
  rw [findingFrame]
  split
  · exact List.nil_subset _
  · simp only [List.append_subset]
    exact ⟨⟨by decide, itemsFrame_subset hc _⟩, by decide⟩

theorem infoFrame_subset (count : Nat) : infoFrame count ⊆ template := by
  rw [infoFrame]
  split
  · exact List.nil_subset _
  · simp only [List.append_subset]
    exact ⟨⟨by decide, itemsFrame_subset (by decide) _⟩, by decide⟩

theorem suggestionFrame_subset (s? : Option (Bool × Bool)) : suggestionFrame s? ⊆ template := by
  have hexample : ∀ present, exampleFrame present ⊆ template := by decide
  cases s? with
  | none => exact List.nil_subset _
  | some s =>
    simp only [suggestionFrame, List.append_subset]
    exact ⟨⟨⟨by decide, hexample _⟩, hexample _⟩, by decide⟩

/-- The frame of any shape is made of the tags of the template. -/
theorem frame_subset (s : Shape) : frame s ⊆ template := by
  have hcontext : (if s.context then contextFrame s.url else []) ⊆ template := by
    cases s.context with
    | true => exact contextFrame_subset s.url
    | false => exact List.nil_subset _
  simp only [frame, List.append_subset]
  exact ⟨⟨⟨⟨⟨⟨by decide, hcontext⟩, findingFrame_subset (by decide) _⟩,
    findingFrame_subset (by decide) _⟩, infoFrame_subset _⟩, suggestionFrame_subset _⟩,
    by decide⟩

end Html

/-- Two reports of one shape have the same markup, whatever their texts are: the same marks, and the
same tags in the same order. All tags are those of the template, and there are no marks outside of
them. Neither the status of a report nor the kind of its query matters. -/
theorem same_markup {r₁ r₂ : Report} (h : r₁.shape = r₂.shape) :
    Html.marks r₁.html = Html.marks r₂.html ∧ Html.tags r₁.html = Html.tags r₂.html ∧
      (∀ t ∈ Html.tags r₁.html, t ∈ Html.template) ∧
      Html.marks r₁.html = (Html.tags r₁.html).flatMap Html.marks := by
  have h₁ := Html.framed_html r₁
  have h₂ := Html.framed_html r₂
  rw [← h] at h₂
  refine ⟨?_, ?_, ?_, ?_⟩
  · rw [h₁.marks_eq, h₂.marks_eq]
  · rw [h₁.tags_eq, h₂.tags_eq]
  · rw [h₁.tags_eq]
    exact Html.frame_subset r₁.shape
  · rw [h₁.tags_eq, h₁.marks_eq]

/-- Hostile texts leave the markup of a report as harmless ones do. -/
theorem script_adds_no_tag :
    let harmless : Report :=
      { Report.blank "SELECT 1" ⟨2024, 1, 2, 3, 4, 5, 6⟩ with
        errors := [⟨.error, "Empty", none⟩], context := some [("url", .text "/home")],
        suggestion := some ⟨some "SELECT ?", none, "Bind it."⟩ }
    let hostile : Report :=
      { Report.blank "<script>alert('1')</script>" ⟨2024, 1, 2, 3, 4, 5, 6⟩ with
        errors := [⟨.error, "<img src=\"x\">", none⟩], context := some [("url", .text "'><b>")],
        suggestion := some ⟨some "</code></pre>", none, "<script>"⟩ }
    Html.tags hostile.html = Html.tags harmless.html ∧ "<script>" ∉ Html.tags hostile.html := by
  intro harmless hostile
  have hshape : hostile.shape = harmless.shape := rfl
  have hscript : "<script>" ∉ Html.template := by decide +kernel
  exact ⟨(same_markup hshape).2.1, fun h => hscript ((same_markup hshape).2.2.1 _ h)⟩

end SqlAudit
