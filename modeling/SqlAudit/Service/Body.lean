import SqlAudit.Audit.Run
import SqlAudit.Settings

/-!
# Bodies of requests

What a request for an audit says in its body, and how that is read from a value. A body that does
not fit is refused with all that is wrong with it.
-/

namespace SqlAudit

/-- The parameters that a request binds. -/
inductive RequestParams where
  | positional (values : List Scalar)
  | named (entries : List (String × Scalar))
deriving DecidableEq

/-- Bound parameters of a query. -/
def RequestParams.toParams : RequestParams → Params
  | .positional vs => .ofList vs
  | .named es => .ofEntries (es.map fun e => (.name e.1, e.2))

/-- The same parameters as a value. -/
def RequestParams.toValue : RequestParams → Value
  | .positional vs => .list (vs.map .scalar)
  | .named es => .record (es.map fun e => (e.1, .scalar e.2))

/-- A request for an audit. -/
structure AuditRequest where
  sql : String
  params : Option RequestParams
  enabled : Bool
  verbose : Option Bool
  notify : Bool
deriving DecidableEq

namespace AuditRequest

/-- How the reading of parameters as a list is called in paths. -/
def asList : PathStep := .name "list[nullable[union[bool,int,float,str]]]"

/-- How the reading of parameters as an object is called in paths. -/
def asObject : PathStep := .name "dict[str,nullable[union[bool,int,float,str]]]"

/-- The errors of a reading. -/
def errorsOf {α : Type} : Checked α → List FieldError
  | .ok _ => []
  | .error es => es

/-- One parameter under a name. -/
def entry (e : Scalar × Value) : Checked (String × Scalar) :=
  Checked.under (.ofKey e.1) ((Field.scalar e.2).map fun v => (e.1.display, v))

/-- Parameters as a list. -/
def positional : Value → Checked RequestParams
  | .list vs => (Field.scalars vs).map .positional
  | v => .fail v .notList

/-- Parameters as an object. -/
def named : Value → Checked RequestParams
  | .object es => (Checked.all (es.map entry)).map .named
  | v => .fail v .notMapping

/-- Parameters: null for none, a list or an object. -/
def readParams (v : Value) : Checked (Option RequestParams) :=
  match v, positional v, named v with
  | .null, _, _ => .ok none
  | _, .ok p, _ => .ok (some p)
  | _, _, .ok p => .ok (some p)
  | _, p, q => .error (errorsOf (Checked.under asList p) ++ errorsOf (Checked.under asObject q))

/-- A truth value, or null for none. -/
def readVerbose : Value → Checked (Option Bool)
  | .null => .ok none
  | v => (Field.bool v).map some

/-- Reads a request for an audit from the value of a body. -/
def read : Value → Checked AuditRequest
  | .object es =>
    let sql := Field.member es "sql" (Field.required (.object es) Field.text)
    let params := Field.member es "params" (Field.orElse none readParams)
    let enabled := Field.member es "enabled" (Field.orElse true Field.bool)
    let verbose := Field.member es "verbose" (Field.orElse none readVerbose)
    let notify := Field.member es "notify" (Field.orElse false Field.bool)
    (sql.zip (params.zip (enabled.zip (verbose.zip notify)))).map
      fun (sql, params, enabled, verbose, notify) => ⟨sql, params, enabled, verbose, notify⟩
  | v => .fail v .notObject

/-- The query of a request: raw unless it binds parameters. -/
def query (a : AuditRequest) : Query :=
  match a.params with
  | none => .raw a.sql
  | some p => .parameterized a.sql p.toParams

/-- The options of a request: auditing is on if both the request and the settings say so. -/
def options (a : AuditRequest) (s : Settings) (context : Context) : Options where
  enabled := if a.enabled then s.enabled else .bool false
  verbose := match a.verbose with
    | none => s.verbose
    | some b => .bool b
  context := .record context

end AuditRequest

end SqlAudit
