import SqlAudit.Value.Literal

/-!
# Rejected input

What is wrong with an input, and where: an input of several fields is read field by field, and all
errors are reported, in the order of the fields. `Checked` is the result of such a reading;
`Checked.zip` and `Checked.all` join readings without losing errors.
-/

namespace SqlAudit

/-- One step of the way to a part of an input. -/
inductive PathStep where
  | name (s : String)
  | index (n : Int)
deriving DecidableEq, Repr

/-- The step to the value of a key. Integers and truth values of 64 bits are indices. -/
def PathStep.ofKey : Scalar → PathStep
  | .text s => .name (String.ofList (Text.lossy s.toList))
  | .bool b => .index (if b then 1 else 0)
  | .int n =>
    if -0x8000000000000000 ≤ n ∧ n < 0x8000000000000000 then .index n else .name (toString n)
  | k => .name k.display

/-- Why a part of an input does not fit. -/
inductive Reason where
  | missing
  | notText
  | notUnicode
  | notBool
  | unreadableBool
  | notInt
  | fractional
  | hugeInt
  | notFinite
  | notNumber
  | notList
  | notMapping
  | notObject
  /-- A mapping or one of the library's records of this name is expected. -/
  | notRecord (name : String)
  | notTime
  | unknownStatus
  | unknownSeverity
  | noTag
  | unknownTag (tag : String)
  | malformedJson
deriving DecidableEq, Repr

namespace Reason

/-- The stable name of a reason. -/
def code : Reason → String
  | .missing => "missing"
  | .notText => "string_type"
  | .notUnicode => "string_unicode"
  | .notBool => "bool_type"
  | .unreadableBool => "bool_parsing"
  | .notInt => "int_type"
  | .fractional => "int_from_float"
  | .hugeInt => "int_parsing_size"
  | .notFinite => "finite_number"
  | .notNumber => "float_type"
  | .notList => "list_type"
  | .notMapping => "dict_type"
  | .notObject => "model_attributes_type"
  | .notRecord _ => "model_type"
  | .notTime => "datetime_type"
  | .unknownStatus | .unknownSeverity => "enum"
  | .noTag => "union_tag_not_found"
  | .unknownTag _ => "union_tag_invalid"
  | .malformedJson => "json_invalid"

/-- A reason in words. -/
def message : Reason → String
  | .missing => "Field required"
  | .notText => "Input should be a valid string"
  | .notUnicode => "Input should be a valid string, unable to parse raw data as a unicode string"
  | .notBool => "Input should be a valid boolean"
  | .unreadableBool => "Input should be a valid boolean, unable to interpret input"
  | .notInt => "Input should be a valid integer"
  | .fractional => "Input should be a valid integer, got a number with a fractional part"
  | .hugeInt => "Unable to parse input string as an integer, exceeded maximum size"
  | .notFinite => "Input should be a finite number"
  | .notNumber => "Input should be a valid number"
  | .notList => "Input should be a valid list"
  | .notMapping => "Input should be a valid dictionary"
  | .notObject => "Input should be a valid dictionary or object to extract fields from"
  | .notRecord name => "Input should be a valid dictionary or instance of " ++ name
  | .notTime => "Input should be a valid datetime"
  | .unknownStatus => "Input should be 'pending', 'success', 'error' or 'bypassed'"
  | .unknownSeverity => "Input should be 'error', 'warning' or 'info'"
  | .noTag => "Unable to extract tag using discriminator 'kind'"
  | .unknownTag tag => "Input tag '" ++ tag ++
      "' found using 'kind' does not match any of the expected tags: 'raw', 'parameterized'"
  | .malformedJson => "JSON decode error"

end Reason

/-- A part of an input that does not fit. -/
structure FieldError where
  path : List PathStep
  reason : Reason
  /-- The part that does not fit; if a part is missing, what it is missing from. -/
  input : Value

/-- Why a call is refused. -/
inductive Rejection where
  /-- The query is of a type that is none of a query. -/
  | unsupported (typeName : String)
  /-- Parts of the input do not fit. -/
  | invalid (errors : List FieldError)

/-- A rejection in words; parts that do not fit have words of their own. -/
def Rejection.message? : Rejection → Option String
  | .unsupported typeName => some ("Unsupported query type: " ++ typeName)
  | .invalid _ => none

/-- The result of reading an input: a value, or all errors. -/
abbrev Checked (α : Type) := Except (List FieldError) α

namespace Checked

/-- Fails since an input itself does not fit. -/
def fail {α : Type} (input : Value) (reason : Reason) : Checked α :=
  .error [⟨[], reason, input⟩]

/-- A reading of the part of an input behind a step. -/
def under {α : Type} (step : PathStep) : Checked α → Checked α
  | .ok a => .ok a
  | .error es => .error (es.map fun e => { e with path := step :: e.path })

/-- Two readings, with the errors of both. -/
def zip {α β : Type} : Checked α → Checked β → Checked (α × β)
  | .ok a, .ok b => .ok (a, b)
  | .ok _, .error es => .error es
  | .error es, .ok _ => .error es
  | .error es, .error es' => .error (es ++ es')

/-- All readings of a list, with the errors of all. -/
def all {α : Type} : List (Checked α) → Checked (List α)
  | [] => .ok []
  | r :: rs => match r.zip (all rs) with
    | .ok (a, as) => .ok (a :: as)
    | .error es => .error es

/-- A reading as the outcome of a call. -/
def toCall {α : Type} : Checked α → Except Rejection α
  | .ok a => .ok a
  | .error es => .error (.invalid es)

end Checked

end SqlAudit
