import SqlAudit.Proofs.Audit.Codes
import SqlAudit.Proofs.Catalog.Idioms
import SqlAudit.Proofs.Pattern.Unique

/-!
# Insert statements

An insert statement with lists of fields and values, as a text: `Structure.Insert.Spells` puts it
together from its parts, without patterns. Main statements:

* `Structure.reads_insertStatement`: the pattern reads the texts that are spelled so, and its groups
  are the parts;
* `Structure.uniqueBefore_insertStatement`: it reads them in one way only;
* `Structure.insert?_eq_some_iff`: the parts that are checked are those of the first such statement;
* `first_insert_checked`: where the statement is found, that no other reading is possible there,
  and when its lists are reported as unequal.
-/

namespace SqlAudit

/-! ## Sequences of parts -/

namespace Pattern

section Sequence

variable {p q : Pattern} {M : List Char → Prop} {before : Option Char} {text : List Char}
  {groups : List (List Char)} {after : List Char}

theorem reads_seq_of_accepts (hq : q.Accepts M) : (p ++ q).Reads before text groups after ↔
    ∃ u v, text = u ++ v ∧ M v ∧ p.Reads before u groups (v ++ after) := by
  rw [reads_seq]
  constructor
  · rintro ⟨u, g, v, g', rfl, rfl, hu, hv⟩
    obtain ⟨hM, rfl⟩ := (hq ..).1 hv
    rw [List.append_nil]
    exact ⟨u, v, rfl, hM, hu⟩
  · rintro ⟨u, v, rfl, hv, hu⟩
    exact ⟨u, groups, v, [], rfl, (List.append_nil _).symm, hu, (hq ..).2 ⟨hv, rfl⟩⟩

theorem reads_seq_group_of_accepts (hq : q.Accepts M) :
    (p ++ group q).Reads before text groups after ↔ ∃ u v g, text = u ++ v ∧ groups = g ++ [v] ∧
      M v ∧ p.Reads before u g (v ++ after) := by
  rw [reads_seq]
  constructor
  · rintro ⟨u, g, v, _, rfl, rfl, hu, g', rfl, hv⟩
    obtain ⟨hM, rfl⟩ := (hq ..).1 hv
    exact ⟨u, v, g, rfl, rfl, hM, hu⟩
  · rintro ⟨u, v, g, rfl, rfl, hv, hu⟩
    exact ⟨u, g, v, [v], rfl, rfl, hu, [], rfl, (hq ..).2 ⟨hv, rfl⟩⟩

end Sequence

theorem Accepts.leads {q : Pattern} {M G F : List Char → Prop} (hq : q.Accepts M)
    (h : ∀ t s, M t → G s → F (t ++ s)) : q.Leads G F := by
  intro place r hr hg
  obtain ⟨hs, -, hreads⟩ := mem_readings_iff.1 hr
  rw [hs]
  exact h _ _ ((hq ..).1 hreads).1 hg

theorem leads_sign {c : Char} {F : List Char → Prop} (h : ∀ s, F (c :: s))
    (G : List Char → Prop) : (sign c).Leads G F :=
  (accepts_sign c).leads fun t s ht _ => by
    rw [ht]
    exact h s

/-- A text that starts with a word character does not go on with blank characters. -/
theorem ends_blank_of_word {t : List Char} (hne : t ≠ []) (ht : ∀ c ∈ t, Text.isWord c = true)
    (s : List Char) : Ends .blank (t ++ s) := by
  obtain ⟨c, u, rfl⟩ := List.exists_cons_of_ne_nil hne
  have hc : Text.isBlank c = false := by
    cases hb : Text.isBlank c with
    | false => rfl
    | true => exact absurd (ht c List.mem_cons_self) (by simp [Text.isWord_of_isBlank hb])
  exact hc

/-- A text that starts with a word of letters does not go on with blank characters. -/
theorem leads_keyword {word : String} (hne : word.toList ≠ [])
    (hw : Text.lettersOnly word = true) (G : List Char → Prop) :
    (keyword word).Leads G (Ends .blank) := by
  refine (accepts_keyword word).leads fun t s ht _ => ?_
  apply ends_blank_of_word _ (Text.isWord_of_anyCase hw ht)
  rintro rfl
  exact hne (List.map_eq_nil_iff.1 ht.symm)

end Pattern

/-! ## Statements with lists of fields and values -/

namespace Structure

open Pattern Statement

namespace Insert

/-- The text is `INSERT INTO table (fields) VALUES (values)`, with keywords in any case and these
parts. The table is a name, and the two lists have something in them but no closing parenthesis. -/
def Spells (i : Insert) (text : List Char) : Prop :=
  ∃ insert gap₁ into gap₂ gap₃ gap₄ values gap₅,
    text = insert ++ gap₁ ++ into ++ gap₂ ++ i.table ++ gap₃ ++ ['('] ++ i.fields ++ [')'] ++ gap₄ ++
      values ++ gap₅ ++ ['('] ++ i.values ++ [')'] ∧
    Text.AnyCase "INSERT" insert ∧ gap₁ ≠ [] ∧ Text.Blank gap₁ ∧
    Text.AnyCase "INTO" into ∧ gap₂ ≠ [] ∧ Text.Blank gap₂ ∧
    i.table ≠ [] ∧ (∀ c ∈ i.table, Text.isWord c = true) ∧ Text.Blank gap₃ ∧
    i.fields ≠ [] ∧ ')' ∉ i.fields ∧ Text.Blank gap₄ ∧
    Text.AnyCase "VALUES" values ∧ Text.Blank gap₅ ∧ i.values ≠ [] ∧ ')' ∉ i.values

/-- From an offset on, the query reads as `text`, which is such a statement. -/
def StandsAt (i : Insert) (sql : List Char) (offset : Nat) (text : List Char) : Prop :=
  text <+: sql.drop offset ∧ i.Spells text

/-- No such statement starts before the offset, and this one does there. -/
def IsFirst (i : Insert) (sql : List Char) (offset : Nat) (text : List Char) : Prop :=
  i.StandsAt sql offset text ∧
    ∀ n < offset, ∀ (j : Insert) (text' : List Char), ¬ j.StandsAt sql n text'

end Insert

theorem accepts_list : (run1 (.except ')')).Accepts fun t => t ≠ [] ∧ ')' ∉ t := by
  refine (accepts_run1 _).congr fun t => and_congr_right fun _ => ?_
  simp only [CharClass.has, bne_iff_ne]
  grind

/-- What a pattern and a list between parentheses behind it read. -/
theorem reads_seq_list {p : Pattern} {before : Option Char} {text : List Char}
    {groups : List (List Char)} {after : List Char} :
    (p ++ sign '(' ++ group (run1 (.except ')')) ++ sign ')').Reads before text groups after ↔
      ∃ u list g, text = u ++ ['('] ++ list ++ [')'] ∧ groups = g ++ [list] ∧ list ≠ [] ∧
        ')' ∉ list ∧ p.Reads before u g (['('] ++ (list ++ ([')'] ++ after))) := by
  simp only [reads_seq_of_accepts (accepts_sign _), reads_seq_group_of_accepts accepts_list]
  constructor
  · rintro ⟨_, _, rfl, rfl, _, list, g, rfl, rfl, ⟨hne, hlist⟩, u, _, rfl, rfl, hu⟩
    exact ⟨u, list, g, rfl, rfl, hne, hlist, hu⟩
  · rintro ⟨u, list, g, rfl, rfl, hne, hlist, hu⟩
    exact ⟨_, _, rfl, rfl, _, list, g, rfl, rfl, ⟨hne, hlist⟩, u, _, rfl, rfl, hu⟩

/-- What the pattern reads up to the table. -/
theorem reads_insertTarget {before : Option Char} {text : List Char} {groups : List (List Char)}
    {after : List Char} :
    (keyword "INSERT" ++ run1 .blank ++ keyword "INTO" ++ run1 .blank ++ group (run1 .word)).Reads
        before text groups after ↔
      ∃ insert gap₁ into gap₂ table, text = insert ++ gap₁ ++ into ++ gap₂ ++ table ∧
        Text.AnyCase "INSERT" insert ∧ gap₁ ≠ [] ∧ Text.Blank gap₁ ∧
        Text.AnyCase "INTO" into ∧ gap₂ ≠ [] ∧ Text.Blank gap₂ ∧
        table ≠ [] ∧ (∀ c ∈ table, Text.isWord c = true) ∧ groups = [table] := by
  simp only [reads_seq_of_accepts (accepts_keyword _), reads_seq_of_accepts (accepts_run1 _),
    reads_seq_group_of_accepts (accepts_run1 _), reads_keyword]
  constructor
  · rintro ⟨_, table, _, rfl, rfl, ⟨hne, htable⟩, _, gap₂, rfl, ⟨hg₂, h₂⟩, _, into, rfl, hinto,
      insert, gap₁, rfl, ⟨hg₁, h₁⟩, hinsert, rfl⟩
    exact ⟨insert, gap₁, into, gap₂, table, rfl, hinsert, hg₁, h₁, hinto, hg₂, h₂, hne, htable, rfl⟩
  · rintro ⟨insert, gap₁, into, gap₂, table, rfl, hinsert, hg₁, h₁, hinto, hg₂, h₂, hne, htable, rfl⟩
    exact ⟨_, table, _, rfl, rfl, ⟨hne, htable⟩, _, gap₂, rfl, ⟨hg₂, h₂⟩, _, into, rfl, hinto,
      insert, gap₁, rfl, ⟨hg₁, h₁⟩, hinsert, rfl⟩

/-- The pattern reads the texts that are insert statements, and its groups are their parts. -/
theorem reads_insertStatement {before : Option Char} {text : List Char}
    {groups : List (List Char)} {after : List Char} :
    Catalog.insertStatement.Reads before text groups after ↔
      ∃ i : Insert, groups = [i.table, i.fields, i.values] ∧ i.Spells text := by
  -- The parts behind the table come off from the right, each with what it has to be like.
  simp only [Catalog.insertStatement, reads_seq_list, reads_seq_of_accepts (accepts_keyword _),
    reads_seq_of_accepts Catalog.accepts_blank, reads_insertTarget]
  constructor
  · rintro ⟨_, list₂, _, rfl, rfl, hne₂, hlist₂, _, gap₅, rfl, h₅, _, values, rfl, hvalues, _, gap₄,
      rfl, h₄, _, list₁, _, rfl, rfl, hne₁, hlist₁, _, gap₃, rfl, h₃, insert, gap₁, into, gap₂, table,
      rfl, hinsert, hg₁, h₁, hinto, hg₂, h₂, hne, htable, rfl⟩
    exact ⟨⟨table, list₁, list₂⟩, rfl, insert, gap₁, into, gap₂, gap₃, gap₄, values, gap₅, rfl,
      hinsert, hg₁, h₁, hinto, hg₂, h₂, hne, htable, h₃, hne₁, hlist₁, h₄, hvalues, h₅, hne₂, hlist₂⟩
  · rintro ⟨⟨table, list₁, list₂⟩, rfl, insert, gap₁, into, gap₂, gap₃, gap₄, values, gap₅, rfl,
      hinsert, hg₁, h₁, hinto, hg₂, h₂, hne, htable, h₃, hne₁, hlist₁, h₄, hvalues, h₅, hne₂, hlist₂⟩
    exact ⟨_, list₂, _, rfl, rfl, hne₂, hlist₂, _, gap₅, rfl, h₅, _, values, rfl, hvalues, _, gap₄,
      rfl, h₄, _, list₁, _, rfl, rfl, hne₁, hlist₁, _, gap₃, rfl, h₃, insert, gap₁, into, gap₂, table,
      rfl, hinsert, hg₁, h₁, hinto, hg₂, h₂, hne, htable, rfl⟩

/-- The text starts with an opening parenthesis. -/
def Opens (s : List Char) : Prop :=
  s.head? = some '('

theorem uniqueBefore_gap : (run .blank).UniqueBefore Opens :=
  (uniqueBefore_run .blank).mono fun s hs => by rw [Ends, hs]; rfl

theorem leads_gap : (run .blank).Leads Opens (Ends .word) := by
  refine Catalog.accepts_blank.leads fun t s ht hs => ?_
  cases t with
  | nil => rw [List.nil_append, Ends, hs]; rfl
  | cons c t => exact Text.isWord_of_isBlank (ht c List.mem_cons_self)

/-- An insert statement is read in one way only: each of its parts ends where the next one begins,
since that does not begin with a character of the part. -/
theorem uniqueBefore_insertStatement : Catalog.insertStatement.UniqueBefore fun _ => True := by
  have hinsert := uniqueBefore_keyword (fun _ => True) "INSERT"
  have hinto := (hinsert.seq (uniqueBefore_run1 .blank) (leads_anything _ _)).seq
    (uniqueBefore_keyword (fun _ => True) "INTO") (leads_keyword (by decide) (by decide) _)
  -- Blank characters or a parenthesis end the table.
  have htable := (hinto.seq (uniqueBefore_run1 .blank) (leads_anything _ _)).seq
    (uniqueBefore_run1 .word).group
    ((accepts_run1 .word).leads fun t s ht _ => ends_blank_of_word ht.1 ht.2 s).group
  have hopen := (htable.seq uniqueBefore_gap leads_gap).seq
    (uniqueBefore_sign (fun _ => True) '(') (leads_sign (fun _ => rfl) _)
  have hfields := (hopen.seq (uniqueBefore_run1 (.except ')')).group (leads_anything _ _)).seq
    (uniqueBefore_sign (fun _ => True) ')') (leads_sign (fun _ => rfl) _)
  have hvalues := (hfields.seq (uniqueBefore_run .blank) (leads_anything _ _)).seq
    (uniqueBefore_keyword (fun _ => True) "VALUES") (leads_keyword (by decide) (by decide) _)
  have hopen' := (hvalues.seq uniqueBefore_gap (leads_anything _ _)).seq
    (uniqueBefore_sign (fun _ => True) '(') (leads_sign (fun _ => rfl) _)
  exact (hopen'.seq (uniqueBefore_run1 (.except ')')).group (leads_anything _ _)).seq
    (uniqueBefore_sign (fun _ => True) ')') (leads_sign (fun _ => rfl) _)

/-! ## The first statement -/

theorem Insert.Spells.ne_nil {i : Insert} {text : List Char} (h : i.Spells text) : text ≠ [] := by
  obtain ⟨insert, gap₁, into, gap₂, gap₃, gap₄, values, gap₅, rfl, -⟩ := h
  exact List.append_ne_nil_of_right_ne_nil _ (List.cons_ne_nil _ _)

theorem standsAt_iff {i : Insert} {sql : List Char} {offset : Nat} {text : List Char} :
    i.StandsAt sql offset text ↔
      Catalog.insertStatement.ReadsAt sql offset text [i.table, i.fields, i.values] := by
  constructor
  · rintro ⟨⟨after, hs⟩, hspells⟩
    refine ⟨?_, after, hs.symm, reads_insertStatement.2 ⟨i, rfl, hspells⟩⟩
    -- Behind the end of the query there is no text to be read.
    by_contra hlt
    rw [List.drop_of_length_le (by omega), List.append_eq_nil_iff] at hs
    exact hspells.ne_nil hs.1
  · rintro ⟨-, after, hs, hreads⟩
    obtain ⟨⟨table, fields, values⟩, hgroups, hspells⟩ := reads_insertStatement.1 hreads
    simp only [List.cons.injEq, and_true] at hgroups
    obtain ⟨rfl, rfl, rfl⟩ := hgroups
    exact ⟨⟨after, hs.symm⟩, hspells⟩

theorem exists_standsAt {sql : List Char} {offset : Nat} {text : List Char}
    {groups : List (List Char)} (h : Catalog.insertStatement.ReadsAt sql offset text groups) :
    ∃ i : Insert, groups = [i.table, i.fields, i.values] ∧ i.StandsAt sql offset text := by
  obtain ⟨i, rfl, -⟩ := reads_insertStatement.1 h.2.choose_spec.2
  exact ⟨i, rfl, standsAt_iff.2 h⟩

/-- At an offset, there is at most one insert statement. -/
theorem standsAt_unique {i j : Insert} {sql : List Char} {offset : Nat} {text text' : List Char}
    (h : i.StandsAt sql offset text) (h' : j.StandsAt sql offset text') : text = text' ∧ i = j := by
  obtain ⟨htext, hgroups⟩ := readsAt_unique uniqueBefore_insertStatement (standsAt_iff.1 h)
    (standsAt_iff.1 h')
  obtain ⟨table, fields, values⟩ := i
  obtain ⟨table', fields', values'⟩ := j
  simp only [List.cons.injEq, and_true] at hgroups
  obtain ⟨rfl, rfl, rfl⟩ := hgroups
  exact ⟨htext, rfl⟩

/-- The pattern finds the first insert statement of a query. -/
theorem find?_insertStatement_eq_some_iff {sql : List Char} {o : Occurrence} :
    Catalog.insertStatement.find? sql = some o ↔
      ∃ i : Insert, o.groups = [i.table, i.fields, i.values] ∧ i.IsFirst sql o.start o.text := by
  rw [find?_eq_some_iff uniqueBefore_insertStatement]
  constructor
  · rintro ⟨hreads, hleast⟩
    obtain ⟨i, hgroups, hstands⟩ := exists_standsAt hreads
    exact ⟨i, hgroups, hstands, fun n hn j text' hj => hleast n hn _ _ (standsAt_iff.1 hj)⟩
  · rintro ⟨i, hgroups, hstands, hleast⟩
    rw [hgroups]
    refine ⟨standsAt_iff.1 hstands, fun n hn text groups hreads => ?_⟩
    obtain ⟨j, -, hj⟩ := exists_standsAt hreads
    exact hleast n hn j text hj

/-- The parts that are checked are those of the first insert statement. -/
theorem insert?_eq_some_iff {sql : List Char} {i : Insert} :
    insert? sql = some i ↔ ∃ offset text, i.IsFirst sql offset text := by
  obtain ⟨table, fields, values⟩ := i
  rw [insert?]
  constructor
  · intro h
    cases ho : Catalog.insertStatement.find? sql with
    | none => simp [ho] at h
    | some o =>
      obtain ⟨i, hgroups, hfirst⟩ := find?_insertStatement_eq_some_iff.1 ho
      simp only [ho, Option.map_some, hgroups, Option.some.injEq, Insert.mk.injEq] at h
      obtain ⟨rfl, rfl, rfl⟩ := h
      exact ⟨o.start, o.text, hfirst⟩
  · rintro ⟨offset, text, hfirst⟩
    have ho : Catalog.insertStatement.find? sql = some ⟨offset, text, [table, fields, values]⟩ :=
      find?_insertStatement_eq_some_iff.2 ⟨_, rfl, hfirst⟩
    simp only [ho, Option.map_some]

/-! ## Lists that differ -/

/-- How many values an insert statement has: placeholders if it is parameterized, and else items
between commas. -/
def Insert.valueCount (parameterized : Bool) (i : Insert) : Nat :=
  if parameterized then i.values.count '?' + Text.nameCount ':' i.values
  else i.values.count ',' + 1

/-- The fault of an insert statement whose lists differ in length. -/
def mismatch (parameterized : Bool) (fields values : Nat) : Fault :=
  if parameterized then .insertPlaceholders fields values else .insertValues fields values

theorem insertFaults_eq (parameterized : Bool) (i : Insert) : insertFaults parameterized i =
    if i.fields.count ',' + 1 = i.valueCount parameterized then []
    else [mismatch parameterized (i.fields.count ',' + 1) (i.valueCount parameterized)] := by
  rw [insertFaults, placeholderCount_eq, itemCount, itemCount]
  cases parameterized <;> rfl

theorem kind?_of_mem_parenthesisFaults {sql : List Char} {f : Fault}
    (h : f ∈ parenthesisFaults sql) : f.code.kind? = none := by
  obtain rfl : f = .unbalancedParentheses (sql.count '(') (sql.count ')') := by
    grind [parenthesisFaults]
  rfl

theorem kind?_of_mem_quoteFaults {sql : List Char} {f : Fault} (h : f ∈ quoteFaults sql) :
    f.code.kind? = none := by
  obtain ⟨quote, -, h⟩ := List.mem_flatMap.1 h
  obtain rfl : f = .unpairedQuotes quote (sql.count quote.sign) := by grind
  cases quote <;> rfl

/-- A fault with a code of some kind of statement is one that the kind calls for. -/
theorem mem_kindFaults_of_kind? {parameterized : Bool} {sql : List Char} {f : Fault} {k : Kind}
    (h : f ∈ faults parameterized sql) (hcode : f.code.kind? = some k) :
    kind sql = k ∧ f ∈ kindFaults parameterized sql := by
  refine ⟨(code_of_mem_faults h).2 k hcode, ?_⟩
  rw [faults, List.mem_append, List.mem_append] at h
  rcases h with (h | h) | h
  · cases (kind?_of_mem_parenthesisFaults h).symm.trans hcode
  · cases parameterized with
    | true => exact absurd h List.not_mem_nil
    | false => cases (kind?_of_mem_quoteFaults h).symm.trans hcode
  · exact h

/-- The faults with a code of insert statements are those of the lists of the first one. -/
theorem mem_faults_insert_iff {parameterized : Bool} {sql : List Char} {f : Fault} :
    f ∈ faults parameterized sql ∧ f.code.kind? = some .insert ↔ kind sql = .insert ∧
      ∃ i, insert? sql = some i ∧ f ∈ insertFaults parameterized i := by
  constructor
  · rintro ⟨hf, hcode⟩
    obtain ⟨hkind, hf⟩ := mem_kindFaults_of_kind? hf hcode
    rw [kindFaults, hkind] at hf
    cases hi : insert? sql with
    | none => simp [hi] at hf
    | some i => exact ⟨hkind, i, rfl, by simpa [hi] using hf⟩
  · rintro ⟨hkind, i, hi, hf⟩
    have hmem : f ∈ kindFaults parameterized sql := by
      rw [kindFaults, hkind, hi]
      exact hf
    refine ⟨List.mem_append_right _ hmem, ?_⟩
    rw [code_of_mem_insertFaults hf]
    cases parameterized <;> rfl

end Structure

/-- The codes of insert statements are those of lists that differ. -/
theorem Code.kind?_eq_insert_iff {c : Code} : c.kind? = some .insert ↔
    c ∈ [Code.insertPlaceholderCountMismatch, .insertValueCountMismatch] := by
  cases c <;> decide

open Structure in
/-- The insert statement of a query. The pattern finds the statement at the least offset from which
the query reads as one, and its groups are the parts of that statement. At no offset can the query
be read as two different statements. If the first token of the query is `INSERT`, the check of its
structure reports lists that differ if and only if there is such a statement and its list of fields
has another number of items than its list of values has items or, if the query is parameterized,
placeholders; it then reports both numbers. -/
theorem first_insert_checked (sql : List Char) :
    (∀ o, Catalog.insertStatement.find? sql = some o ↔
      ∃ i : Insert, o.groups = [i.table, i.fields, i.values] ∧ i.IsFirst sql o.start o.text) ∧
    (∀ (offset : Nat) (i j : Insert) (text text' : List Char), i.StandsAt sql offset text →
      j.StandsAt sql offset text' → text = text' ∧ i = j) ∧
    (Text.upper (Text.firstToken sql) = "INSERT".toList → ∀ r : Report, ∃ added,
      (r.checkStructure sql).errors = r.errors ++ added ∧
      ∀ e, (e ∈ added ∧ ∃ code ∈ [Code.insertPlaceholderCountMismatch, .insertValueCountMismatch],
          e.code = some code.name) ↔
        ∃ (i : Insert) (offset : Nat) (text : List Char), i.IsFirst sql offset text ∧
          i.fields.count ',' + 1 ≠ i.valueCount r.isParameterized ∧
          e = (mismatch r.isParameterized (i.fields.count ',' + 1)
            (i.valueCount r.isParameterized)).finding) := by
  refine ⟨fun o => find?_insertStatement_eq_some_iff,
    fun offset i j text text' h h' => standsAt_unique h h', fun htoken r => ?_⟩
  have hkind : Statement.kind sql = .insert := (Statement.kind_eq_iff rfl).2 htoken
  refine ⟨(faults r.isParameterized sql).map Fault.finding, rfl, fun e => ?_⟩
  constructor
  · rintro ⟨he, code, hcode, hname⟩
    obtain ⟨f, hf, rfl⟩ := List.mem_map.1 he
    obtain rfl : f.code = code := Code.name_inj.1 (Option.some.inj hname)
    obtain ⟨-, i, hi, hmem⟩ := mem_faults_insert_iff.1 ⟨hf, Code.kind?_eq_insert_iff.2 hcode⟩
    obtain ⟨offset, text, hfirst⟩ := insert?_eq_some_iff.1 hi
    rw [insertFaults_eq] at hmem
    split at hmem
    · exact absurd hmem List.not_mem_nil
    · next hne => exact ⟨i, offset, text, hfirst, hne, by rw [List.mem_singleton.1 hmem]⟩
  · rintro ⟨i, offset, text, hfirst, hne, rfl⟩
    have hmem : mismatch r.isParameterized (i.fields.count ',' + 1)
        (i.valueCount r.isParameterized) ∈ insertFaults r.isParameterized i := by
      rw [insertFaults_eq, if_neg hne]
      exact List.mem_singleton_self _
    obtain ⟨hf, hcode⟩ := mem_faults_insert_iff.2
      ⟨hkind, i, insert?_eq_some_iff.2 ⟨offset, text, hfirst⟩, hmem⟩
    exact ⟨List.mem_map_of_mem hf, _, Code.kind?_eq_insert_iff.1 hcode, rfl⟩

open Structure in
/-- A table without a name makes the search go on, to an insert statement further behind. Its two
fields and one placeholder are reported. -/
theorem late_insert_checked :
    let sql := "INSERT INTO (a) VALUES (b); insert into logs (level, user) VALUES (?)".toList
    let r := Audit.draft ⟨2024, 1, 2, 3, 4, 5, 0⟩ (.parameterized (String.ofList sql) .empty) false
      none
    (∃ (i : Insert) (text : List Char), i.IsFirst sql 28 text ∧
      ∀ j text', Insert.StandsAt j sql 28 text' → i = j) ∧
    (Fault.insertPlaceholders 2 1).finding ∈ (r.checkStructure sql).errors := by
  intro sql r
  obtain ⟨hfound, hunique, hchecked⟩ := first_insert_checked sql
  let i : Insert := ⟨"logs".toList, "level, user".toList, "?".toList⟩
  let text := "insert into logs (level, user) VALUES (?)".toList
  have hfirst : i.IsFirst sql 28 text := by
    obtain ⟨⟨table, fields, values⟩, hgroups, hfirst⟩ :=
      (hfound ⟨28, text, [i.table, i.fields, i.values]⟩).1 (by decide)
    simp only [List.cons.injEq, and_true] at hgroups
    obtain ⟨rfl, rfl, rfl⟩ := hgroups
    exact hfirst
  refine ⟨⟨i, text, hfirst, fun j text' hj => (hunique 28 i j text text' hfirst.1 hj).2⟩, ?_⟩
  obtain ⟨added, herrors, hadded⟩ := hchecked (by decide) r
  rw [herrors]
  exact List.mem_append_right _ ((hadded _).2 ⟨i, 28, text, hfirst, by decide, by decide⟩).1

end SqlAudit
