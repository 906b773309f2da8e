import SqlAudit.Caller

/-!
# Requests

The endpoints of the service, and the requests that reach them. A path may end in one line feed that
does not count.
-/

namespace SqlAudit

/-- What can be asked of the service. -/
inductive Endpoint where
  | root
  | version
  | report
  | plain
  | html
deriving DecidableEq, Repr

namespace Endpoint

/-- The path of an endpoint. -/
def path : Endpoint → String
  | .root => "/"
  | .version => "/version"
  | .report => "/validate"
  | .plain => "/validate/text"
  | .html => "/validate/html"

/-- The method of an endpoint. -/
def method : Endpoint → String
  | .root | .version => "GET"
  | .report | .plain | .html => "POST"

/-- The name that a context gives to an endpoint. -/
def functionName : Endpoint → String
  | .root => "root"
  | .version => "get_version"
  | .report => "validate_query"
  | .plain => "validate_query_text"
  | .html => "validate_query_html"

/-- All endpoints. -/
def all : List Endpoint :=
  [.root, .version, .report, .plain, .html]

end Endpoint

/-- Where a path leads. -/
inductive Destination where
  | endpoint (e : Endpoint)
  /-- One of the pages that describe the service. -/
  | page
deriving DecidableEq, Repr

namespace Destination

/-- The paths of the pages that describe the service. -/
def pages : List String :=
  ["/openapi.json", "/docs", "/docs/oauth2-redirect", "/redoc"]

/-- Whether a path is another one, but for one line feed at its end. -/
def leadsTo (path : List Char) (place : String) : Bool :=
  path == place.toList || path == place.toList ++ ['\n']

/-- Where a path leads, if anywhere. -/
def ofPath? (path : List Char) : Option Destination :=
  match Endpoint.all.find? fun e => leadsTo path e.path with
  | some e => some (.endpoint e)
  | none => if pages.any (leadsTo path) then some .page else none

/-- A path with the slashes at its end removed, or with one added if it has none. -/
def toggleSlash (path : List Char) : List Char :=
  if path.getLast? == some '/' then (path.reverse.dropWhile (· == '/')).reverse else path ++ ['/']

/-- Whether a path leads nowhere but would with the slashes at its end removed, or with one added.
The root is not tried. -/
def isNear (path : List Char) : Bool :=
  path != ['/'] && (ofPath? (toggleSlash path)).isSome

end Destination

/-- A request. -/
structure Request where
  method : String
  /-- The scheme and the host. -/
  origin : String
  /-- The path, perhaps with a query string. -/
  target : String
  /-- The address of the client, if known. -/
  client : Option String
  body : List Char

namespace Request

/-- The path of a request. -/
def path (r : Request) : List Char :=
  r.target.toList.takeWhile (· != '?')

/-- What follows the question mark of a request. -/
def queryString (r : Request) : List Char :=
  (r.target.toList.dropWhile (· != '?')).tail

/-- The full address of a request. -/
def url (r : Request) : String :=
  r.origin ++ String.ofList
    (r.path ++ if r.queryString.isEmpty then [] else '?' :: r.queryString)

/-- Where a request to an endpoint comes from. -/
def context (r : Request) (e : Endpoint) : Context :=
  .ofRequest r.url r.method r.client (some e.functionName)

end Request

end SqlAudit
