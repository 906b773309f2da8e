import SqlAudit.Proofs.Text.Case
import SqlAudit.Query

/-!
# Input that fits

Which values an input takes, told from the values and not by reading them. `Value.isTruthValue`,
`Value.isBindings` and `Value.isContext` are what truth values, parameters and contexts look like;
`Submission.hasStrayText` and `Submission.hasStrayParams` what keeps a mapping from being a query.
Main statements:

* `Field.isOk_bool`, `Field.isOk_bindings`, `Field.isOk_context`: a field is read if and only if its
  value looks so;
* `Submission.toQuery_cases`: a submission is a query, with the text that it shows unread, or it is
  refused for one of two reasons.
-/

namespace SqlAudit

/-! ## What fits -/

namespace Value

/-- Whether a value is a text. -/
def isText : Value → Bool
  | .text _ => true
  | _ => false

/-- Whether a value is a single one. -/
def isScalar : Value → Bool
  | .scalar _ => true
  | _ => false

/-- Whether a value stands for a truth value: one as such, a number that is zero or one, or a word
for it in any case. -/
def isTruthValue : Value → Bool
  | .bool _ => true
  | .int n => n == 0 || n == 1
  | .float x => x.toInt? == some 0 || x.toInt? == some 1
  | .text s => Field.boolWords.any fun w => w.1.toList == s.toList.map Char.toLower
  | _ => false

end Value

/-- Whether a scalar may be the key of a parameter: a text, or a number that is an integer; a
floating-point number must be one of 64 bits. -/
def Scalar.isKey : Scalar → Bool
  | .null => false
  | .float x => x.toInt64?.isSome
  | _ => true

namespace Value

/-- Whether a value stands for parameters: null, a list of scalars, or a mapping from keys to
scalars. -/
def isBindings : Value → Bool
  | .null => true
  | .list vs => vs.all isScalar
  | .object es => es.all fun e => e.1.isKey && e.2.isScalar
  | _ => false

/-- Whether a value stands for a context: null, or a mapping from texts. -/
def isContext : Value → Bool
  | .null => true
  | .object es => es.all fun e => isText (.scalar e.1)
  | _ => false

end Value

/-! ## Readings that succeed -/

namespace Checked

variable {α β : Type}

@[simp] theorem isOk_map (f : α → β) (x : Checked α) :
    Except.isOk (Except.map f x) = Except.isOk x := by
  cases x <;> rfl

@[simp] theorem isOk_under (step : PathStep) (x : Checked α) :
    Except.isOk (under step x) = Except.isOk x := by
  cases x <;> rfl

@[simp] theorem isOk_zip (x : Checked α) (y : Checked β) :
    Except.isOk (zip x y) = (Except.isOk x && Except.isOk y) := by
  cases x <;> cases y <;> rfl

/-- All readings of a list succeed if and only if each of them does. -/
@[simp] theorem isOk_all (rs : List (Checked α)) :
    Except.isOk (Checked.all rs) = rs.all Except.isOk := by
  induction rs with
  | nil => rfl
  | cons r rs ih =>
    have hz := isOk_zip r (Checked.all rs)
    rw [List.all_cons, ← ih, ← hz, Checked.all]
    cases r.zip (Checked.all rs) <;> rfl

theorem map_eq_ok_iff {f : α → β} {x : Checked α} {b : β} :
    Except.map f x = .ok b ↔ ∃ a, x = .ok a ∧ f a = b := by
  cases x <;> simp [Except.map]

theorem under_eq_ok_iff {step : PathStep} {x : Checked α} {a : α} :
    under step x = .ok a ↔ x = .ok a := by
  cases x <;> simp [under]

theorem zip_eq_ok_iff {x : Checked α} {y : Checked β} {p : α × β} :
    zip x y = .ok p ↔ x = .ok p.1 ∧ y = .ok p.2 := by
  cases x <;> cases y <;> simp [zip, Prod.ext_iff]

theorem all_cons_eq_ok_iff {r : Checked α} {rs : List (Checked α)} {xs : List α} :
    Checked.all (r :: rs) = .ok xs ↔
      ∃ a as, r = .ok a ∧ Checked.all rs = .ok as ∧ xs = a :: as := by
  rw [Checked.all]
  cases r <;> cases Checked.all rs <;> simp [zip, eq_comm]

theorem exists_of_isOk {x : Checked α} (h : Except.isOk x = true) : ∃ a, x = .ok a := by
  cases x with
  | ok a => exact ⟨a, rfl⟩
  | error es => cases h

theorem exists_of_not_isOk {x : Checked α} (h : Except.isOk x = false) : ∃ es, x = .error es := by
  cases x with
  | ok a => cases h
  | error es => exact ⟨es, rfl⟩

end Checked

namespace Field

theorem isOk_text (v : Value) : Except.isOk (text v) = v.isText := by
  cases v with
  | scalar s => cases s <;> rfl
  | list vs => rfl
  | object es => rfl

theorem text_eq_ok_iff {v : Value} {s : String} : text v = .ok s ↔ v = .text s := by
  cases v with
  | scalar k => cases k <;> simp [text, Checked.fail, Value.text]
  | list vs => simp [text, Checked.fail, Value.text]
  | object es => simp [text, Checked.fail, Value.text]

theorem isOk_scalar (v : Value) : Except.isOk (scalar v) = v.isScalar := by
  cases v <;> rfl

theorem isOk_boolOfInt (v : Value) (n : Int) :
    Except.isOk (boolOfInt v n) = (n == 0 || n == 1) := by
  rw [boolOfInt]
  by_cases h₀ : n = 0
  · simp [h₀, Except.isOk, Except.toBool]
  · by_cases h₁ : n = 1 <;> simp [h₀, h₁, Checked.fail, Except.isOk, Except.toBool]

theorem isOk_bool_float (x : Binary64) :
    Except.isOk (bool (.float x)) = (x.toInt? == some 0 || x.toInt? == some 1) := by
  have hread : bool (.float x) =
      x.toInt64?.elim (Checked.fail (.float x) .notBool) (boolOfInt (.float x)) := by
    simp only [bool, Value.float]
    cases x.toInt64? <;> rfl
  rw [hread, Binary64.toInt64?]
  cases x.toInt? with
  | none => rfl
  | some n =>
    by_cases hn : -0x8000000000000000 < n ∧ n < 0x8000000000000000
    · simp [Option.filter, hn, isOk_boolOfInt]
    · have h₀ : n ≠ 0 := by omega
      have h₁ : n ≠ 1 := by omega
      simp [Option.filter, hn, h₀, h₁, Checked.fail, Except.isOk, Except.toBool]

/-- No word for a truth value has halves of pairs, in whatever case it is written. -/
theorem any_isHalf_of_boolWord {s : List Char} {w : String × Bool} (hw : w ∈ boolWords)
    (h : w.1.toList = s.map Char.toLower) : s.any Text.isHalf = false := by
  have hwords : (boolWords.all fun w => !w.1.toList.any Text.isHalf) = true := by decide
  have hlower : (s.map Char.toLower).any Text.isHalf = s.any Text.isHalf := by
    simp only [List.any_map, Function.comp_def, Text.isHalf_toLower]
  have hno := List.all_eq_true.1 hwords w hw
  rw [h, hlower, Bool.not_eq_true'] at hno
  exact hno

theorem isOk_bool_text (s : String) : Except.isOk (bool (.text s)) =
    boolWords.any fun w => w.1.toList == s.toList.map Char.toLower := by
  have hword (w : String × Bool) : (String.ofList (s.toList.map Char.toLower) == w.1) =
      (w.1.toList == s.toList.map Char.toLower) := by
    rw [Bool.eq_iff_iff, beq_iff_eq, beq_iff_eq, ← String.toList_inj, String.toList_ofList, eq_comm]
  have hlookup : (boolWords.lookup (String.ofList (s.toList.map Char.toLower))).isSome =
      boolWords.any fun w => w.1.toList == s.toList.map Char.toLower := by
    rw [Bool.eq_iff_iff, List.lookup_isSome_iff, List.any_eq_true]
    simp only [hword]
  simp only [bool, Value.text]
  split
  · next hhalf =>
    have hnone : (boolWords.any fun w => w.1.toList == s.toList.map Char.toLower) = false := by
      rw [List.any_eq_false]
      intro w hw he
      rw [any_isHalf_of_boolWord hw (eq_of_beq he)] at hhalf
      exact Bool.noConfusion hhalf
    rw [hnone]
    rfl
  · rw [← hlookup]
    cases boolWords.lookup (String.ofList (s.toList.map Char.toLower)) <;> rfl

/-- A truth value is read from the values that stand for one. -/
theorem isOk_bool (v : Value) : Except.isOk (bool v) = v.isTruthValue := by
  cases v with
  | scalar s =>
    cases s with
    | null => rfl
    | bool b => rfl
    | int n => exact isOk_boolOfInt (.int n) n
    | float x => exact isOk_bool_float x
    | text s => exact isOk_bool_text s
  | list vs => rfl
  | object es => rfl

theorem isOk_key (k : Scalar) : Except.isOk (key k) = k.isKey := by
  cases k with
  | float x =>
    simp only [key, Scalar.isKey]
    cases x.toInt64? <;> rfl
  | _ => rfl

theorem isOk_entry (e : Scalar × Value) : Except.isOk (entry e) = (e.1.isKey && e.2.isScalar) := by
  simp only [entry, Checked.isOk_under, Checked.isOk_zip, isOk_key, isOk_scalar]

theorem isOk_scalars (vs : List Value) : Except.isOk (scalars vs) = vs.all Value.isScalar := by
  have hfst : vs.zipIdx.map Prod.fst = vs := List.zipIdx_map_fst 0 vs
  calc Except.isOk (scalars vs) = vs.zipIdx.all fun v => v.1.isScalar := by
        simp only [scalars, items, Checked.isOk_all, List.all_map, Function.comp_def,
          Checked.isOk_under, isOk_scalar]
    _ = (vs.zipIdx.map Prod.fst).all Value.isScalar := by rw [List.all_map]; rfl
    _ = vs.all Value.isScalar := by rw [hfst]

/-- Parameters are read from the values that stand for them. -/
theorem isOk_bindings (v : Value) : Except.isOk (bindings v) = v.isBindings := by
  cases v with
  | scalar s => cases s <;> rfl
  | list vs => exact (Checked.isOk_map _ _).trans (isOk_scalars vs)
  | object es =>
    simp only [bindings, params, Checked.isOk_map, Checked.isOk_all, List.all_map,
      Function.comp_def, isOk_entry, Value.isBindings]

theorem isOk_contextName (e : Scalar × Value) :
    Except.isOk (contextName e) = Value.isText (.scalar e.1) := by
  obtain ⟨k, v⟩ := e
  cases k <;> rfl

/-- A context is read from the values that stand for one. -/
theorem isOk_context (v : Value) : Except.isOk (context v) = v.isContext := by
  cases v with
  | scalar s => cases s <;> rfl
  | list vs => rfl
  | object es =>
    simp only [context, Checked.isOk_map, Checked.isOk_all, List.all_map, Function.comp_def,
      isOk_contextName, Value.isContext]

end Field

/-! ## Submissions -/

namespace Submission

/-- Whether a submission can be a query by its type: a query itself, a text or a mapping. -/
def isSupported : Submission → Bool
  | .query _ => true
  | .value (.text _) => true
  | .value (.object _) => true
  | .value _ => false

/-- What a mapping gives as its text: the entry `sql` or, if there is none, the entry `query`. -/
def textSource (es : Value.Entries) : Option Value :=
  (Value.lookup? "sql" es).or (Value.lookup? "query" es)

/-- Whether a submission is a mapping and gives as its text what counts as true and is no text. -/
def hasStrayText : Submission → Bool
  | .value (.object es) => (textSource es).any fun v => v.isTruthy && !v.isText
  | _ => false

/-- Whether a submission is a mapping and gives as its parameters what does not stand for any. -/
def hasStrayParams : Submission → Bool
  | .value (.object es) => (Value.lookup? "params" es).any fun v => !v.isBindings
  | _ => false

theorem isText_textEntry (es : Value.Entries) :
    (textEntry es).isText = !(textSource es).any fun v => v.isTruthy && !v.isText := by
  have hsource : (Value.lookup? "sql" es).getD ((Value.lookup? "query" es).getD (.text "")) =
      (textSource es).getD (.text "") := by
    rw [textSource]
    cases Value.lookup? "sql" es <;> rfl
  simp only [textEntry, hsource]
  cases textSource es with
  | none => rfl
  | some v => cases hv : v.isTruthy <;> simp [hv, Value.isText]

/-- The text of a submission is a text, unless it is a stray one. -/
theorem isText_text (s : Submission) : s.text.isText = !s.hasStrayText := by
  cases s with
  | query q => rfl
  | value v =>
    cases v with
    | scalar s => cases s <;> rfl
    | list vs => rfl
    | object es => exact isText_textEntry es

/-- The text of a mapping is read if it is one, and its parameters if they stand for some. -/
theorem isOk_readParameterized (t : Value) (es : Value.Entries) :
    let params := (Value.lookup? "params" es).toList.map fun p => (Scalar.text "params", p)
    Except.isOk (Query.readParameterized ((.text "text", t) :: params)) =
      (t.isText && !(Value.lookup? "params" es).any fun v => !v.isBindings) := by
  intro params
  have htext : Value.lookup? "text" ((.text "text", t) :: params) = some t := rfl
  have hparams : Value.lookup? "params" ((.text "text", t) :: params) =
      Value.lookup? "params" es := by
    simp only [params]
    cases Value.lookup? "params" es <;> rfl
  simp only [Query.readParameterized, Field.member, htext, hparams, Checked.isOk_map,
    Checked.isOk_zip, Checked.isOk_under, Field.required, Field.isOk_text]
  cases Value.lookup? "params" es with
  | none => rfl
  | some v => simp only [Field.orElse, Field.isOk_bindings, Option.any_some, Bool.not_not]

/-- A query that is read has the text that it is read from. -/
theorem text_of_readParameterized {t : Value} {es : Value.Entries} {q : Query}
    (h : Query.readParameterized ((.text "text", t) :: es) = .ok q) : t = .text q.text := by
  have htext : Value.lookup? "text" ((.text "text", t) :: es) = some t := rfl
  rw [Query.readParameterized, Field.member, htext, Field.required] at h
  obtain ⟨⟨s, p⟩, hsp, rfl⟩ := Checked.map_eq_ok_iff.1 h
  exact Field.text_eq_ok_iff.1 (Checked.under_eq_ok_iff.1 (Checked.zip_eq_ok_iff.1 hsp).1)

/-- A submission that is no query is refused for its type or for what is in it; any other is the
query with the text that it shows unread. -/
theorem toQuery_cases (s : Submission) :
    (s.isSupported = false ∧ ∃ name, s.toQuery = .error (.unsupported name)) ∨
    (s.isSupported = true ∧ (s.hasStrayText || s.hasStrayParams) = true ∧
      ∃ es, s.toQuery = .error (.invalid es)) ∨
    (s.isSupported = true ∧ (s.hasStrayText || s.hasStrayParams) = false ∧
      ∃ q, s.toQuery = .ok q ∧ s.text = .text q.text) := by
  cases s with
  | query q => exact .inr (.inr ⟨rfl, rfl, q, rfl, rfl⟩)
  | value v =>
    cases v with
    | scalar s =>
      cases s with
      | text s => exact .inr (.inr ⟨rfl, rfl, .raw s, rfl, rfl⟩)
      | _ => exact .inl ⟨rfl, _, rfl⟩
    | list vs => exact .inl ⟨rfl, _, rfl⟩
    | object es =>
      refine .inr ?_
      have hok := isOk_readParameterized (textEntry es) es
      rw [isText_textEntry, ← Bool.not_or] at hok
      cases hstray : hasStrayText (.value (.object es)) || hasStrayParams (.value (.object es)) with
      | true =>
        rw [hasStrayText, hasStrayParams] at hstray
        rw [hstray] at hok
        obtain ⟨errors, he⟩ := Checked.exists_of_not_isOk hok
        exact .inl ⟨rfl, rfl, errors, by rw [toQuery, he]; rfl⟩
      | false =>
        rw [hasStrayText, hasStrayParams] at hstray
        rw [hstray] at hok
        obtain ⟨q, hq⟩ := Checked.exists_of_isOk hok
        exact .inr ⟨rfl, rfl, q, by rw [toQuery, hq]; rfl, text_of_readParameterized hq⟩

end Submission

end SqlAudit
