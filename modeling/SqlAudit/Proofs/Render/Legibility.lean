import SqlAudit.Proofs.Render.Markup

/-!
# Reading a report off its markup

The markup of a report can be read in one way only. `Html.Part` says this of a part of a document:
in front of any text that may follow it, the part shows what it was made from and where it ends.
Main statements:

* `Html.escape_injective`: different texts are escaped differently;
* `Html.Part.append`, `Html.Part.option`, `Html.Part.items`: parts are put together, left out or
  repeated, as long as the beginnings of what may follow tell which of these was done;
* `html_eq_iff`: two reports have the same markup if and only if they agree in all that it shows.
-/

namespace SqlAudit

namespace Html

/-! ## Beginnings -/

/-- A text begins with one of several beginnings. -/
def BeginsWith (starts : List String) (s : List Char) : Prop :=
  ∃ start ∈ starts, start.toList <+: s

/-- Two beginnings that no text has both. -/
def Clash (s t : String) : Prop :=
  ¬ s.toList <+: t.toList ∧ ¬ t.toList <+: s.toList

instance (s t : String) : Decidable (Clash s t) :=
  inferInstanceAs (Decidable (_ ∧ _))

theorem Clash.not_both {s t : String} (h : Clash s t) {x : List Char} (hs : s.toList <+: x) :
    ¬ t.toList <+: x := by
  intro ht
  rcases List.prefix_or_prefix_of_prefix hs ht with hst | hts
  · exact h.1 hst
  · exact h.2 hts

theorem BeginsWith.head {start : String} {starts : List String} {s : List Char}
    (h : start.toList <+: s) : BeginsWith (start :: starts) s :=
  ⟨start, List.mem_cons_self, h⟩

theorem BeginsWith.tail {start : String} {starts : List String} {s : List Char}
    (h : BeginsWith starts s) : BeginsWith (start :: starts) s := by
  obtain ⟨t, ht, hs⟩ := h
  exact ⟨t, List.mem_cons_of_mem start ht, hs⟩

theorem beginsWith_singleton {start : String} {s : List Char} :
    BeginsWith [start] s ↔ start.toList <+: s := by
  simp [BeginsWith]

theorem beginsWith_empty (s : List Char) : BeginsWith [""] s :=
  .head List.nil_prefix

/-- A beginning that clashes with all others is not one of them. -/
theorem BeginsWith.avoids {start : String} {follow : List String} {x : List Char}
    (hx : BeginsWith follow x) (hc : ∀ f ∈ follow, Clash start f) : ¬ start.toList <+: x := by
  obtain ⟨f, hf, hfx⟩ := hx
  intro hs
  exact (hc f hf).not_both hs hfx

/-- A sign that two texts lack shows where they end. -/
theorem append_cons_inj {c : Char} {s t x y : List Char} (hs : c ∉ s) (ht : c ∉ t)
    (h : s ++ c :: x = t ++ c :: y) : s = t ∧ x = y := by
  rcases List.append_eq_append_iff.1 h with ⟨u, rfl, hu⟩ | ⟨u, rfl, hu⟩
  · cases u with
    | nil => exact ⟨(List.append_nil s).symm, (List.cons.inj hu).2⟩
    | cons d u => exact absurd (by simp [(List.cons.inj hu).1]) ht
  · cases u with
    | nil => exact ⟨List.append_nil t, (List.cons.inj hu).2.symm⟩
    | cons d u => exact absurd (by simp [(List.cons.inj hu).1]) hs

/-! ## Parts of a document -/

/-- A part of a document that begins with one of `starts`, if what is behind it begins with one of
`follow`. Two such parts in one text are made from values that look the same, and end at the same
place. -/
structure Part {α β : Type} (starts follow : List String) (write : α → String) (see : α → β) :
    Prop where
  legible : ∀ {a b : α} {x y : List Char}, BeginsWith follow x → BeginsWith follow y →
    (write a).toList ++ x = (write b).toList ++ y → see a = see b ∧ x = y
  begins : ∀ (a : α) {x : List Char}, BeginsWith follow x →
    BeginsWith starts ((write a).toList ++ x)

namespace Part

variable {α β γ δ : Type} {starts mid follow : List String} {write : α → String} {see : α → β}

/-- A part shows whatever is told by something that it shows. -/
theorem reveals {see' : α → γ} (h : Part starts follow write see)
    (hs : ∀ a b, see a = see b → see' a = see' b) : Part starts follow write see' where
  legible hx hy he := by
    obtain ⟨ha, hxy⟩ := h.legible hx hy he
    exact ⟨hs _ _ ha, hxy⟩
  begins := h.begins

theorem comap (h : Part starts follow write see) (f : γ → α) :
    Part starts follow (fun c => write (f c)) (fun c => see (f c)) where
  legible hx hy he := h.legible hx hy he
  begins c _ hx := h.begins (f c) hx

theorem shorten {start t : String} (h : Part [start] follow write see)
    (ht : t.toList <+: start.toList) : Part [t] follow write see where
  legible := h.legible
  begins a _ hx := .head (ht.trans (beginsWith_singleton.1 (h.begins a hx)))

/-- The same markup for every value. -/
theorem fixed (s : String) : Part [s] follow (fun _ : α => s) (fun _ => ()) where
  legible _ _ he := ⟨rfl, List.append_cancel_left he⟩
  begins _ _ _ := .head (List.prefix_append _ _)

/-- A text in front of a sign that it lacks. -/
theorem text {c : Char} (hw : ∀ a, c ∉ (write a).toList) :
    Part [""] [String.singleton c] write write where
  legible {a b x y} hx hy he := by
    obtain ⟨x', rfl⟩ := beginsWith_singleton.1 hx
    obtain ⟨y', rfl⟩ := beginsWith_singleton.1 hy
    have hcons : (write a).toList ++ c :: x' = (write b).toList ++ c :: y' := by
      simpa using he
    obtain ⟨hab, hxy⟩ := append_cons_inj (hw a) (hw b) hcons
    exact ⟨String.toList_inj.1 hab, by rw [hxy]⟩
  begins _ _ _ := beginsWith_empty _

/-- One part behind another. -/
theorem append {write' : α → String} {see' : α → γ} (h : Part starts mid write see)
    (h' : Part mid follow write' see') :
    Part starts follow (fun a => write a ++ write' a) (fun a => (see a, see' a)) where
  legible {a b x y} hx hy he := by
    rw [String.toList_append, String.toList_append, List.append_assoc, List.append_assoc] at he
    obtain ⟨hsee, hrest⟩ := h.legible (h'.begins a hx) (h'.begins b hy) he
    obtain ⟨hsee', hxy⟩ := h'.legible hx hy hrest
    exact ⟨by rw [hsee, hsee'], hxy⟩
  begins a x hx := by
    rw [String.toList_append, List.append_assoc]
    exact h.begins a (h'.begins a hx)

theorem singleton (h : Part starts follow write see) :
    Part starts follow (fun a => String.join [write a]) see := by
  simpa only [String.join_cons, String.join_nil, String.append_empty] using h

theorem cons {writes : α → List String} {see' : α → γ} (h : Part starts mid write see)
    (h' : Part mid follow (fun a => String.join (writes a)) see') :
    Part starts follow (fun a => String.join (write a :: writes a)) (fun a => (see a, see' a)) := by
  simpa only [String.join_cons] using h.append h'

theorem join_append {writes writes' : α → List String} {see' : α → γ}
    (h : Part starts mid (fun a => String.join (writes a)) see)
    (h' : Part mid follow (fun a => String.join (writes' a)) see') :
    Part starts follow (fun a => String.join (writes a ++ writes' a))
      (fun a => (see a, see' a)) := by
  simpa only [String.join_append] using h.append h'

/-- A text between two pieces of markup, the second of which begins with a sign that it lacks. -/
theorem between (pre : String) {post : String} {c : Char} (hw : ∀ a, c ∉ (write a).toList)
    (hpost : (String.singleton c).toList <+: post.toList) :
    Part [pre] follow (fun a => pre ++ write a ++ post) write :=
  (((fixed pre).append (text hw)).append ((fixed post).shorten hpost)).reveals
    fun _ _ h => congrArg (fun s => s.1.2) h

/-- A part that may be left out, since nothing that may follow it begins as it does. -/
theorem option {start : String} (h : Part [start] follow write see)
    (hc : ∀ f ∈ follow, Clash start f) :
    Part (start :: follow) follow (fun a? : Option α => a?.elim "" write) (Option.map see) where
  legible {a? b? x y} hx hy he := by
    cases a? with
    | none =>
      cases b? with
      | none => exact ⟨rfl, he⟩
      | some b =>
        have hb : x = (write b).toList ++ y := he
        exact absurd (beginsWith_singleton.1 (h.begins b hy)) (hb ▸ hx.avoids hc)
    | some a =>
      cases b? with
      | none =>
        have ha : (write a).toList ++ x = y := he
        exact absurd (beginsWith_singleton.1 (h.begins a hx)) (ha ▸ hy.avoids hc)
      | some b =>
        obtain ⟨hab, hxy⟩ := h.legible hx hy he
        exact ⟨congrArg some hab, hxy⟩
  begins a? x hx := by
    cases a? with
    | none => exact .tail hx
    | some a => exact .head (beginsWith_singleton.1 (h.begins a hx))

/-- Any number of parts, since nothing that may follow the last one begins as they do. -/
theorem items {start : String} (h : Part [start] (start :: follow) write see)
    (hc : ∀ f ∈ follow, Clash start f) :
    Part (start :: follow) follow (fun l : List α => String.join (l.map write)) (List.map see) := by
  have hcons (a : α) (l : List α) (x : List Char) :
      (String.join ((a :: l).map write)).toList ++ x =
        (write a).toList ++ ((String.join (l.map write)).toList ++ x) := by
    rw [List.map_cons, String.join_cons, String.toList_append, List.append_assoc]
  have hbegins (l : List α) {x : List Char} (hx : BeginsWith follow x) :
      BeginsWith (start :: follow) ((String.join (l.map write)).toList ++ x) := by
    induction l with
    | nil => exact .tail hx
    | cons a l ih =>
      rw [hcons]
      exact .head (beginsWith_singleton.1 (h.begins a ih))
  have hstart (a : α) (l : List α) {x : List Char} (hx : BeginsWith follow x) :
      start.toList <+: (String.join ((a :: l).map write)).toList ++ x := by
    rw [hcons]
    exact beginsWith_singleton.1 (h.begins a (hbegins l hx))
  refine ⟨fun {l m x y} hx hy he => ?_, fun l _ hx => hbegins l hx⟩
  -- By induction on one list; the other one goes on as long as it does, since a further item begins
  -- as nothing else does.
  induction l generalizing m with
  | nil =>
    cases m with
    | nil => exact ⟨rfl, he⟩
    | cons b m =>
      have hb : x = (String.join ((b :: m).map write)).toList ++ y := he
      exact absurd (hstart b m hy) (hb ▸ hx.avoids hc)
  | cons a l ih =>
    cases m with
    | nil =>
      have ha : (String.join ((a :: l).map write)).toList ++ x = y := he
      exact absurd (hstart a l hx) (ha ▸ hy.avoids hc)
    | cons b m =>
      rw [hcons, hcons] at he
      obtain ⟨hab, hrest⟩ := h.legible (hbegins l hx) (hbegins m hy) he
      obtain ⟨hlm, hxy⟩ := ih hrest
      exact ⟨by rw [List.map_cons, List.map_cons, hab, hlm], hxy⟩

/-- Items between a first and a last piece of markup. -/
theorem listing {start tag stop : String} (h : Part [tag] [tag, stop] write see)
    (hc : Clash tag stop) : Part [start] follow
      (fun l : List α => String.join ([start] ++ l.map write ++ [stop])) (List.map see) := by
  have hstart : Part [start] [tag, stop] (fun _ : List α => String.join [start]) (fun _ => ()) :=
    (fixed start).singleton
  have hitems : Part [tag, stop] [stop] (fun l : List α => String.join (l.map write))
      (List.map see) := h.items (by simpa using hc)
  have hstop : Part [stop] follow (fun _ : List α => String.join [stop]) (fun _ => ()) :=
    (fixed stop).singleton
  exact ((hstart.join_append hitems).join_append hstop).reveals
    fun _ _ h => congrArg (fun s => s.1.2) h

/-- Items between a first and a last piece of markup, all of which is left out if there are none. -/
theorem optionalListing {start tag stop : String} (h : Part [tag] [tag, stop] write see)
    (hc : Clash tag stop) (hf : ∀ f ∈ follow, Clash start f) : Part (start :: follow) follow
      (fun l : List α => String.join (if l.isEmpty then [] else [start] ++ l.map write ++ [stop]))
      (List.map see) := by
  have hwrite (l : List α) :
      String.join (if l.isEmpty then [] else [start] ++ l.map write ++ [stop]) =
        (if l.isEmpty then none else some l).elim ""
          fun l => String.join ([start] ++ l.map write ++ [stop]) := by
    cases l <;> rfl
  simp only [hwrite]
  refine (((h.listing hc).option hf).comap fun l => if l.isEmpty then none else some l).reveals
    fun l m hlm => ?_
  cases l <;> cases m <;> simp_all

end Part

/-! ## Escaped texts -/

/-- The characters that are not written as they are. -/
def special : List Char :=
  ['&', '<', '>', '"', '\'']

theorem escapeChar_of_notMem {c : Char} (h : c ∉ special) : escapeChar c = [c] ∧ c ≠ '&' := by
  simp only [special, List.mem_cons, List.not_mem_nil, or_false, not_or] at h
  exact ⟨by simp [escapeChar, h], h.1⟩

theorem escapeChar_of_mem {c : Char} (h : c ∈ special) : ∃ name, escapeChar c = '&' :: name := by
  simp only [special, List.mem_cons, List.not_mem_nil, or_false] at h
  rcases h with rfl | rfl | rfl | rfl | rfl <;> exact ⟨_, rfl⟩

/-- An escaped character shows which one it is, and where it ends. -/
theorem escapeChar_append_inj {c d : Char} {x y : List Char}
    (h : escapeChar c ++ x = escapeChar d ++ y) : c = d ∧ x = y := by
  by_cases hc : c ∈ special <;> by_cases hd : d ∈ special
  · simp only [special, List.mem_cons, List.not_mem_nil, or_false] at hc hd
    rcases hc with rfl | rfl | rfl | rfl | rfl <;> rcases hd with rfl | rfl | rfl | rfl | rfl <;>
      simp_all [escapeChar]
  · obtain ⟨name, hname⟩ := escapeChar_of_mem hc
    obtain ⟨hplain, hne⟩ := escapeChar_of_notMem hd
    rw [hname, hplain] at h
    exact absurd (List.cons.inj h).1.symm hne
  · obtain ⟨name, hname⟩ := escapeChar_of_mem hd
    obtain ⟨hplain, hne⟩ := escapeChar_of_notMem hc
    rw [hname, hplain] at h
    exact absurd (List.cons.inj h).1 hne
  · rw [(escapeChar_of_notMem hc).1, (escapeChar_of_notMem hd).1] at h
    exact List.cons.inj h

/-- Different texts are escaped differently. -/
theorem escape_injective : Function.Injective escape := by
  have hinj (s t : List Char) (h : s.flatMap escapeChar = t.flatMap escapeChar) : s = t := by
    have hne (c : Char) (s : List Char) : (c :: s).flatMap escapeChar ≠ [] := by
      by_cases hc : c ∈ special
      · obtain ⟨name, hname⟩ := escapeChar_of_mem hc
        simp [hname]
      · simp [escapeChar_of_notMem hc]
    induction s generalizing t with
    | nil =>
      cases t with
      | nil => rfl
      | cons d t => exact absurd h.symm (hne d t)
    | cons c s ih =>
      cases t with
      | nil => exact absurd h (hne c s)
      | cons d t =>
        rw [List.flatMap_cons, List.flatMap_cons] at h
        obtain ⟨rfl, hst⟩ := escapeChar_append_inj h
        rw [ih t hst]
  intro s t h
  exact String.toList_inj.1 (hinj _ _ (String.ofList_inj.1 h))

theorem notMem_escape (s : String) : '<' ∉ (escape s).toList := by
  intro h
  rw [escape, String.toList_ofList, List.mem_flatMap] at h
  obtain ⟨c, -, hc⟩ := h
  exact absurd (isMark_of_mem_escapeChar hc) (by decide)

/-- An escaped text between two tags. -/
theorem Part.content {α : Type} {follow : List String} (pre : String) {post : String}
    (text : α → String) (hpost : "<".toList <+: post.toList) :
    Part [pre] follow (fun a => pre ++ escape (text a) ++ post) text :=
  (Part.between pre (fun a => notMem_escape (text a)) hpost).reveals
    fun _ _ h => escape_injective h

/-! ## The parts of a report -/

theorem icon_notMem (s : Status) : ' ' ∉ (icon s).toList := by
  cases s <;> decide

theorem kindName_notMem (r : Report) : '<' ∉ r.kindName.toList := by
  rw [Report.kindName]
  cases r.isParameterized <;> decide

theorem isParameterized_of_kindName {r₁ r₂ : Report} (h : r₁.kindName = r₂.kindName) :
    r₁.isParameterized = r₂.isParameterized := by
  rw [Report.kindName, Report.kindName] at h
  cases h₁ : r₁.isParameterized <;> cases h₂ : r₂.isParameterized <;>
    simp_all

theorem statusName_notMem (s : Status) : '<' ∉ (statusName s).toList := by
  cases s <;> decide

theorem statusName_inj {s t : Status} (h : statusName s = statusName t) : s = t := by
  revert h
  cases s <;> cases t <;> decide

theorem number_notMem {c : Char} (hc : c.isDigit = false) (n : Nat) : c ∉ (toString n).toList := by
  intro h
  rw [Text.isDigit_of_mem_toString h] at hc
  exact Bool.noConfusion hc

/-! The beginnings of the parts that may be left out, and of what follows them. -/

def contextStart : String :=
  "<details open><summary><strong>Execution Context</strong></summary><ul>"

def findingStart (title : String) : String :=
  "<h3>" ++ title ++ ":</h3><ul>"

def infoStart : String :=
  "<details><summary>Detailed Information</summary><ul>"

def suggestionStart : String :=
  "<details open><summary><strong>Secure Query Suggestion</strong></summary>"

def exampleStart (title : String) : String :=
  "<p><strong>" ++ title ++ ":</strong></p><pre><code>"

def explanationStart : String :=
  "<p><strong>Explanation:</strong></p><p>"

theorem part_heading (follow : List String) : Part [""] follow
    (fun r => String.join (heading r)) (fun r => (r.status, r.isParameterized, r.query)) := by
  have htitle : Part ["<h2>"] ["<p><strong>Type:</strong> "]
      (fun r : Report => "<h2>" ++ icon r.status ++ " SQLGuard Validation Report</h2>") _ :=
    .between "<h2>" (fun r => icon_notMem r.status) (by decide)
  have hkind : Part ["<p><strong>Type:</strong> "] ["<p><strong>Status:</strong> "]
      (fun r : Report => "<p><strong>Type:</strong> " ++ r.kindName ++ "</p>") _ :=
    .between "<p><strong>Type:</strong> " kindName_notMem (by decide)
  have hstatus : Part ["<p><strong>Status:</strong> "] ["<p><strong>Errors:</strong> "]
      (fun r : Report => "<p><strong>Status:</strong> " ++ statusName r.status ++ "</p>") _ :=
    .between "<p><strong>Status:</strong> " (fun r => statusName_notMem r.status)
      (by decide)
  have herrors : Part ["<p><strong>Errors:</strong> "] ["<strong>Warnings:</strong> "]
      (fun r : Report => "<p><strong>Errors:</strong> " ++ toString r.errors.length ++ " | ") _ :=
    .between "<p><strong>Errors:</strong> " (c := ' ') (fun r => number_notMem (by decide) _)
      (by decide)
  have hwarnings : Part ["<strong>Warnings:</strong> "] ["<pre><code>"]
      (fun r : Report => "<strong>Warnings:</strong> " ++ toString r.warnings.length ++ "</p>") _ :=
    .between "<strong>Warnings:</strong> " (c := '<') (fun r => number_notMem (by decide) _)
      (by decide)
  have hquery : Part ["<pre><code>"] follow
      (fun r : Report => "<pre><code>" ++ escape r.query ++ "</code></pre>") Report.query :=
    .content "<pre><code>" Report.query (by decide)
  refine (((Part.fixed _).shorten (t := "") List.nil_prefix).cons (htitle.cons (hkind.cons
    (hstatus.cons ((herrors.append hwarnings).cons hquery.singleton))))).reveals fun r₁ r₂ h => ?_
  simp only [Prod.mk.injEq] at h ⊢
  exact ⟨statusName_inj h.2.2.2.1, isParameterized_of_kindName h.2.2.1, h.2.2.2.2.2⟩

theorem part_item {stop : String} : Part ["<li>"] ["<li>", stop] item id :=
  .content "<li>" id (by decide)

theorem part_context {follow : List String} (hf : ∀ f ∈ follow, Clash contextStart f) :
    Part (contextStart :: follow) follow (fun r => String.join (contextPart r))
      (fun r => if r.hasContext then some r.contextLines else none) := by
  have hlines : Part [contextStart] follow (fun lines : List String =>
      String.join ([contextStart] ++ lines.map item ++ ["</ul></details>"])) _ :=
    part_item.listing (by decide)
  have hwrite (r : Report) : String.join (contextPart r) =
      (if r.hasContext then some r.contextLines else none).elim "" fun lines =>
        String.join ([contextStart] ++ lines.map item ++ ["</ul></details>"]) := by
    rw [contextPart, contextStart]
    split
    · rw [Option.elim_some]
    · rw [String.join_nil, Option.elim_none]
  simp only [hwrite]
  refine ((hlines.option hf).comap fun r : Report =>
    if r.hasContext then some r.contextLines else none).reveals fun r₁ r₂ h => ?_
  simpa using h

theorem part_finding (title : String) {color : String} {follow : List String}
    (hf : ∀ f ∈ follow, Clash (findingStart title) f)
    (hc : Clash ("<li style='color: " ++ color ++ ";'>") "</ul>") :
    Part (findingStart title :: follow) follow
      (fun fs => String.join (findingPart title color fs)) (List.map Finding.message) :=
  (Part.content ("<li style='color: " ++ color ++ ";'>") Finding.message
    (by decide)).optionalListing hc hf

theorem part_info {follow : List String} (hf : ∀ f ∈ follow, Clash infoStart f) :
    Part (infoStart :: follow) follow (fun fs => String.join (infoPart fs))
      (List.map Finding.message) := by
  have hitem : Part ["<li>"] ["<li>", "</ul></details>"] (fun f : Finding => item f.message) _ :=
    part_item.comap Finding.message
  exact hitem.optionalListing (by decide) hf

theorem part_example (title : String) {follow : List String}
    (hf : ∀ f ∈ follow, Clash (exampleStart title) f) :
    Part (exampleStart title :: follow) follow (fun t? => String.join (examplePart title t?))
      (Option.getD · "") := by
  have htext : Part [exampleStart title] follow
      (fun text => exampleStart title ++ escape text ++ "</code></pre>") id :=
    .content (exampleStart title) id (by decide)
  have hwrite (t? : Option String) : String.join (examplePart title t?) =
      (if t?.getD "" = "" then none else some (t?.getD "")).elim "" fun text =>
        exampleStart title ++ escape text ++ "</code></pre>" := by
    cases t? with
    | none => rfl
    | some text => by_cases h : text = "" <;> simp [examplePart, h, exampleStart]
  simp only [hwrite]
  refine ((htext.option hf).comap fun t? : Option String =>
    if t?.getD "" = "" then none else some (t?.getD "")).reveals fun s? t? h => ?_
  split at h <;> split at h <;> simp_all

/-- What a suggestion shows: an example that is absent looks like an empty one. -/
def shown (s : Suggestion) : Suggestion where
  exampleQuery := some (s.exampleQuery.getD "")
  exampleCode := some (s.exampleCode.getD "")
  explanation := s.explanation

theorem part_suggestion {follow : List String} (hf : ∀ f ∈ follow, Clash suggestionStart f) :
    Part (suggestionStart :: follow) follow (fun s? => String.join (suggestionPart s?))
      (Option.map shown) := by
  have hstart : Part [suggestionStart]
      [exampleStart "SQL", exampleStart "Python Code Example", explanationStart]
      (fun _ : Suggestion => String.join [suggestionStart,
        "<div style='background: #e8f5e9; padding: 15px; border-left: 4px solid #4caf50;'>"]) _ :=
    (Part.fixed _).cons (Part.fixed _).singleton
  have hquery : Part [exampleStart "SQL", exampleStart "Python Code Example", explanationStart]
      [exampleStart "Python Code Example", explanationStart]
      (fun s : Suggestion => String.join (examplePart "SQL" s.exampleQuery)) _ :=
    (part_example "SQL" (by decide)).comap Suggestion.exampleQuery
  have hcode : Part [exampleStart "Python Code Example", explanationStart] [explanationStart]
      (fun s : Suggestion => String.join (examplePart "Python Code Example" s.exampleCode)) _ :=
    (part_example "Python Code Example" (by decide)).comap Suggestion.exampleCode
  have hwhy : Part [explanationStart] follow (fun s : Suggestion =>
      String.join [explanationStart ++ escape s.explanation ++ "</p>", "</div></details>"]) _ :=
    (Part.content explanationStart Suggestion.explanation (by decide)).cons
      (Part.fixed _).singleton
  have hparts := ((hstart.join_append hquery).join_append hcode).join_append hwhy
  have hsome : Part [suggestionStart] follow
      (fun s => String.join (suggestionPart (some s))) shown := by
    refine hparts.reveals fun s t h => ?_
    simp only [Prod.mk.injEq] at h
    simp only [shown, h]
  have hwrite : (fun s? => String.join (suggestionPart s?)) = fun s? : Option Suggestion =>
      s?.elim "" fun s => String.join (suggestionPart (some s)) := by
    funext s?
    cases s? with
    | none => exact String.join_nil
    | some s => rw [Option.elim_some]
  rw [hwrite]
  exact hsome.option hf

/-- All that the markup of a report shows. -/
theorem part_html (follow : List String) : Part [""] follow Report.html fun r =>
    ((r.status, r.isParameterized, r.query),
      (if r.hasContext then some r.contextLines else none), r.errors.map Finding.message,
      r.warnings.map Finding.message, r.infos.map Finding.message, r.suggestion.map shown) := by
  have hcontext : Part [contextStart, findingStart "Errors", findingStart "Warnings", infoStart,
      suggestionStart, "</div>"] _ _ _ := part_context (by decide)
  have herrors : Part [findingStart "Errors", findingStart "Warnings", infoStart,
      suggestionStart, "</div>"] _
      (fun r : Report => String.join (findingPart "Errors" "#d32f2f" r.errors)) _ :=
    (part_finding "Errors" (by decide) (by decide +kernel)).comap Report.errors
  have hwarnings : Part [findingStart "Warnings", infoStart, suggestionStart, "</div>"] _
      (fun r : Report => String.join (findingPart "Warnings" "#f57c00" r.warnings)) _ :=
    (part_finding "Warnings" (by decide) (by decide +kernel)).comap Report.warnings
  have hinfos : Part [infoStart, suggestionStart, "</div>"] _
      (fun r : Report => String.join (infoPart r.infos)) _ :=
    (part_info (by decide)).comap Report.infos
  have hsuggestion : Part [suggestionStart, "</div>"] _
      (fun r : Report => String.join (suggestionPart r.suggestion)) _ :=
    (part_suggestion (by decide)).comap Report.suggestion
  have hend : Part ["</div>"] follow (fun _ : Report => String.join ["</div>"]) _ :=
    (Part.fixed "</div>").singleton
  refine (((((((part_heading _).join_append hcontext).join_append herrors).join_append
    hwarnings).join_append hinfos).join_append hsuggestion).join_append hend).reveals
    fun r₁ r₂ h => ?_
  simp only [Prod.mk.injEq] at h ⊢
  obtain ⟨⟨⟨⟨⟨⟨hheading, hcontext⟩, herrors⟩, hwarnings⟩, hinfos⟩, hsuggestion⟩, -⟩ := h
  exact ⟨hheading, hcontext, herrors, hwarnings, hinfos, hsuggestion⟩

/-! ## Reports that look the same -/

theorem optionalListing_congr (start stop : String) (write : String → String)
    {fs gs : List Finding} (h : fs.map Finding.message = gs.map Finding.message) :
    (if fs.isEmpty then [] else [start] ++ fs.map (fun f => write f.message) ++ [stop]) =
      if gs.isEmpty then [] else [start] ++ gs.map (fun f => write f.message) ++ [stop] := by
  have hmap (fs : List Finding) :
      fs.map (fun f => write f.message) = (fs.map Finding.message).map write := by
    rw [List.map_map]
    rfl
  have hempty : fs.isEmpty = gs.isEmpty := by
    rw [← List.isEmpty_map (f := Finding.message), h, List.isEmpty_map]
  rw [hmap, hmap, h, hempty]

theorem findingPart_congr (title color : String) {fs gs : List Finding}
    (h : fs.map Finding.message = gs.map Finding.message) :
    findingPart title color fs = findingPart title color gs :=
  optionalListing_congr _ _ (fun m => "<li style='color: " ++ color ++ ";'>" ++ escape m ++ "</li>")
    h

theorem infoPart_congr {fs gs : List Finding}
    (h : fs.map Finding.message = gs.map Finding.message) : infoPart fs = infoPart gs :=
  optionalListing_congr _ _ item h

theorem examplePart_congr (title : String) {s? t? : Option String} (h : s?.getD "" = t?.getD "") :
    examplePart title s? = examplePart title t? := by
  have hsome (t? : Option String) :
      examplePart title t? = examplePart title (some (t?.getD "")) := by
    cases t? <;> rfl
  rw [hsome, h, ← hsome]

theorem suggestionPart_congr {s? t? : Option Suggestion} (h : s?.map shown = t?.map shown) :
    suggestionPart s? = suggestionPart t? := by
  cases s? with
  | none =>
    cases t? with
    | none => rfl
    | some t => cases h
  | some s =>
    cases t? with
    | none => cases h
    | some t =>
      simp only [Option.map_some, Option.some.injEq, shown, Suggestion.mk.injEq] at h
      obtain ⟨hquery, hcode, hwhy⟩ := h
      rw [suggestionPart, suggestionPart, examplePart_congr "SQL" hquery,
        examplePart_congr "Python Code Example" hcode, hwhy]

end Html

/-- Two reports have the same markup if and only if they have the same status and kind of query, the
same query, the same messages of each severity, the same lines on a context, if there is one, and
the same suggestion, if there is one. An example that is absent from a suggestion and one that is
empty look the same. -/
theorem html_eq_iff {r₁ r₂ : Report} : r₁.html = r₂.html ↔
    r₁.status = r₂.status ∧ r₁.isParameterized = r₂.isParameterized ∧ r₁.query = r₂.query ∧
    r₁.errors.map Finding.message = r₂.errors.map Finding.message ∧
    r₁.warnings.map Finding.message = r₂.warnings.map Finding.message ∧
    r₁.infos.map Finding.message = r₂.infos.map Finding.message ∧
    r₁.hasContext = r₂.hasContext ∧
    (r₁.hasContext = true → r₁.contextLines = r₂.contextLines) ∧
    r₁.suggestion.map Html.shown = r₂.suggestion.map Html.shown := by
  constructor
  · intro h
    obtain ⟨hsee, -⟩ := (Html.part_html [""]).legible (a := r₁) (b := r₂)
      (Html.beginsWith_empty []) (Html.beginsWith_empty []) (by rw [h])
    simp only [Prod.mk.injEq] at hsee
    obtain ⟨⟨hstatus, hkind, hquery⟩, hcontext, herrors, hwarnings, hinfos, hsuggestion⟩ := hsee
    refine ⟨hstatus, hkind, hquery, herrors, hwarnings, hinfos, ?_, fun hc => ?_, hsuggestion⟩
    · cases h₁ : r₁.hasContext <;> cases h₂ : r₂.hasContext <;> simp [h₁, h₂] at hcontext ⊢
    · rw [if_pos hc] at hcontext
      split at hcontext
      · exact Option.some.inj hcontext
      · cases hcontext
  · rintro ⟨hstatus, hkind, hquery, herrors, hwarnings, hinfos, hcontext, hlines, hsuggestion⟩
    have hheading : Html.heading r₁ = Html.heading r₂ := by
      have he := congrArg List.length herrors
      have hw := congrArg List.length hwarnings
      rw [List.length_map, List.length_map] at he hw
      rw [Html.heading, Html.heading, Report.kindName, Report.kindName, hstatus, hkind, hquery, he,
        hw]
    have hpart : Html.contextPart r₁ = Html.contextPart r₂ := by
      rw [Html.contextPart, Html.contextPart, ← hcontext]
      split
      · next hc => rw [hlines hc]
      · rfl
    rw [Report.html, Report.html, Html.pieces, Html.pieces, hheading, hpart,
      Html.findingPart_congr _ _ herrors, Html.findingPart_congr _ _ hwarnings,
      Html.infoPart_congr hinfos, Html.suggestionPart_congr hsuggestion]

end SqlAudit
