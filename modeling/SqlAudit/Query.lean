import SqlAudit.Input.Field

/-!
# Queries

A query is a raw text, or a text with bound parameters. Callers submit queries as such, as plain
texts or as mappings; `Submission.toQuery` makes a query of each of them, and `Submission.text`
gives its text without checking it.
-/

namespace SqlAudit

/-- A query. -/
inductive Query where
  | raw (text : String)
  | parameterized (text : String) (params : Params)
deriving DecidableEq

namespace Query

/-- The text of a query. -/
def text : Query → String
  | .raw t => t
  | .parameterized t _ => t

/-- The parameters of a query, if it has any to give. -/
def params : Query → Option Params
  | .raw _ => none
  | .parameterized _ p => some p

/-- Whether a query is parameterized. -/
def isParameterized : Query → Bool
  | .raw _ => false
  | .parameterized .. => true

/-- Reads a raw query from its entry `text`. -/
def readRaw (es : Value.Entries) : Checked Query :=
  (Field.member es "text" (Field.required (.object es) Field.text)).map .raw

/-- Reads a parameterized query from its entries `text` and `params`. -/
def readParameterized (es : Value.Entries) : Checked Query :=
  ((Field.member es "text" (Field.required (.object es) Field.text)).zip
    (Field.member es "params" (Field.orElse .empty Field.bindings))).map
    fun q => .parameterized q.1 q.2

/-- Reads a query from a mapping whose entry `kind` tells which it is. -/
def readTagged : Value → Checked Query
  | .object es => match Value.lookup? "kind" es with
    | none => .fail (.object es) .noTag
    | some (.text "raw") => Checked.under (.name "raw") (readRaw es)
    | some (.text "parameterized") => Checked.under (.name "parameterized") (readParameterized es)
    | some tag =>
      .fail (.object es) (.unknownTag (String.ofList (Text.lossy tag.display.toList)))
  | v => .fail v .notObject

end Query

/-- What a caller submits: a query, or a value that stands for one. -/
inductive Submission where
  | query (q : Query)
  | value (v : Value)

namespace Submission

/-- The text entry of a mapping: `sql`, or else `query`; empty if that is absent or counts as
false. -/
def textEntry (es : Value.Entries) : Value :=
  let v := (Value.lookup? "sql" es).getD ((Value.lookup? "query" es).getD (.text ""))
  if v.isTruthy then v else .text ""

/-- The text of a submission, as far as it has one. -/
def text : Submission → Value
  | .query q => .text q.text
  | .value (.object es) => textEntry es
  | .value (.text s) => .text s
  | .value _ => .text ""

/-- The query of a submission. A text is a raw query, a mapping a parameterized one. -/
def toQuery : Submission → Except Rejection Query
  | .query q => .ok q
  | .value (.text s) => .ok (.raw s)
  | .value (.object es) =>
    let params := (Value.lookup? "params" es).toList.map fun p => (Scalar.text "params", p)
    (Query.readParameterized ((.text "text", textEntry es) :: params)).toCall
  | .value v => .error (.unsupported v.typeName)

end Submission

end SqlAudit
