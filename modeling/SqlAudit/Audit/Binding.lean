import SqlAudit.Finding.Remarks
import SqlAudit.Statement

/-!
# Bindings of a query

Checks of a parameterized query against its bound values: as many placeholders as values, one style
of placeholders, values free of comment marks and keywords, and no values or host variables in the
text itself. Remarks show bound values, and checking ends at a value that cannot be written.
-/

namespace SqlAudit.Binding

open Statement

/-- The faults of the number and the styles of placeholders. -/
def countFaults (params : Params) (sql : List Char) : List Fault :=
  (if placeholderCount sql = params.size then []
    else [.placeholderCount (placeholderCount sql) params.size]) ++
  (if 0 < positionalCount sql ∧ 0 < namedCount sql then [.mixedPlaceholders] else [])

/-- The faults of the bindings of a query. -/
def faults (params : Params) (sql : List Char) : List Fault :=
  countFaults params sql ++
  (if Catalog.superglobalAccess.occursIn sql then [.superglobalAccess] else []) ++
  (if Catalog.hostVariable.occursIn sql || Catalog.interpolation.occursIn sql then [.hostVariable]
    else [])

/-- Whether a basic Latin text occurs in another in any case. -/
def mentions (needle : String) (s : List Char) : Bool :=
  Text.contains (Text.lower needle.toList) (Text.lower s)

/-- The cautions about a text bound to a key. -/
def textCautions (key : Key) (s : List Char) : List Caution :=
  (Catalog.suspiciousTexts.filter fun t => mentions t s).map (.suspiciousParameter · key) ++
    (Catalog.keywords.filter fun t => mentions t s).map (.keywordInParameter · key)

/-- The cautions about one bound value; only texts give rise to any. -/
def valueCautions : Key × Scalar → List Caution
  | (key, .text s) => textCautions key s.toList
  | _ => []

/-- The cautions about the bindings of a query. -/
def cautions (params : Params) (sql : List Char) : List Caution :=
  params.entries.flatMap valueCautions ++
    (if (literals sql).isEmpty then [] else [.hardcodedLiteral])

/-- A bound value for display: the start of a text, and any other value as it is. -/
def shown : Scalar → String
  | .text s => String.ofList (preview 50 false s.toList)
  | v => v.literal

/-- The note on one bound value. -/
def valueNote (e : Key × Scalar) : Note :=
  .parameter e.1 e.2.typeName (shown e.2)

/-- The notes on placeholders, and the heading of those on bound values. -/
def countNotes (params : Params) (sql : List Char) : List Note :=
  [.positionalPlaceholders (positionalCount sql), .namedPlaceholders (namedCount sql)] ++
    (if 0 < namedCount sql then [.placeholderNames (namedPlaceholders sql)] else []) ++
    (if placeholderCount sql = params.size then
      [.perfectMatch (placeholderCount sql) params.size] else []) ++
    (if params.entries.isEmpty then [] else [.parameterHeading])

/-- The notes on the bindings of a query. -/
def notes (params : Params) (sql : List Char) : List Note :=
  countNotes params sql ++ params.entries.map valueNote ++
    (if (literals sql).isEmpty then []
      else [.hardcodedValues ((literals sql).map (preview 30 true))])

/-- All that the bindings of a query give rise to. -/
def remarks (params : Params) (sql : List Char) : Remarks :=
  ⟨faults params sql, cautions params sql, notes params sql⟩

/-! ## Bound values that cannot be written -/

/-- What keeps the remarks on one bound value from being written. Its note shows its key and its
value, of a text only the start; its cautions show its key. -/
def failure? (verbose : Bool) (e : Key × Scalar) : Option WriteError :=
  if verbose then Params.entryUnwritable? e
  else if (valueCautions e).isEmpty then none else e.1.unwritable?

/-- What the bindings of a query give rise to before the first bound value whose remarks cannot be
written. -/
def remarksBefore (verbose : Bool) (params : Params) (sql : List Char) : Remarks :=
  let kept := params.entries.takeWhile fun e => (failure? verbose e).isNone
  ⟨countFaults params sql, kept.flatMap valueCautions,
    countNotes params sql ++ kept.map valueNote⟩

end SqlAudit.Binding
