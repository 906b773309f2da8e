import SqlAudit.Report
import SqlAudit.Text.Search

/-!
# Callers

The context of an audit: the place in the host application that asked for it, found on the call
stack, or the request that did.
-/

namespace SqlAudit

/-! ## Paths -/

namespace Path

/-- The parts of a path between its slashes. -/
def parts : List Char → List (List Char)
  | [] => [[]]
  | '/' :: cs => [] :: parts cs
  | c :: cs => match parts cs with
    | p :: ps => (c :: p) :: ps
    | [] => [[c]]

/-- Goes one part further, from the parts so far in reverse. Empty parts and single dots stay;
two dots go back, unless there is nothing to go back from but the start of a relative path. -/
def step (rooted : Bool) (done : List (List Char)) (part : List Char) : List (List Char) :=
  if part = [] ∨ part = ['.'] then done
  else if part = ['.', '.'] then
    match done with
    | [] => if rooted then [] else [part]
    | last :: rest => if last = ['.', '.'] then part :: done else rest
  else part :: done

/-- Parts with slashes between them. -/
def joined : List (List Char) → List Char
  | [] => []
  | [p] => p
  | p :: ps => p ++ '/' :: joined ps

/-- The slashes at the start of a normal path: none, one, or exactly two. -/
def rootSlashes : List Char → List Char
  | '/' :: '/' :: '/' :: _ => ['/']
  | '/' :: '/' :: _ => ['/', '/']
  | '/' :: _ => ['/']
  | _ => []

/-- A path without empty parts and dots. -/
def normal (path : List Char) : List Char :=
  let root := rootSlashes path
  let path := root ++ joined ((parts path).foldl (step (!root.isEmpty)) []).reverse
  if path.isEmpty then ['.'] else path

/-- A path, seen from a directory unless it starts at the root. -/
def resolve (directory path : List Char) : List Char :=
  if path.head? == some '/' then path
  else if directory.isEmpty || Text.endsWith '/' directory then directory ++ path
  else directory ++ '/' :: path

/-- The normal form of a path seen from a directory. -/
def absolute (directory path : List Char) : List Char :=
  normal (resolve directory path)

/-- A path with the text of the directory at its start replaced by a dot. -/
def relative (directory path : List Char) : List Char :=
  if !directory.isEmpty && directory.isPrefixOf path then '.' :: path.drop directory.length
  else path

end Path

/-! ## Call stacks -/

/-- One call on a call stack: the file, the line and the function that are running. -/
structure Frame where
  file : String
  line : Int
  function : String
deriving DecidableEq, Repr

namespace Frame

/-- Whether a call is made by code whose path starts with a text. -/
def isWithin (f : Frame) (directory packageRoot : String) : Bool :=
  packageRoot.toList.isPrefixOf (Path.absolute directory.toList f.file.toList)

/-- The call that asked for an audit: the innermost one from outside, or else the outermost one.
The first call of the stack is the one that asks. -/
def caller? (stack : List Frame) (directory packageRoot : String) : Option Frame :=
  match stack.tail.find? fun f => !f.isWithin directory packageRoot with
  | some f => some f
  | none => stack.tail.getLast?

end Frame

/-- The context of an audit that a script asked for. -/
def Context.ofStack (stack : List Frame) (directory packageRoot : String) (arguments : List String) :
    Context :=
  let caller := (Frame.caller? stack directory packageRoot).getD ⟨"unknown", 0, "unknown"⟩
  let script := arguments.head?.filter (· ≠ "")
  [("file", .text caller.file), ("line", .int caller.line), ("function", .text caller.function),
    ("url", .null), ("method", .text "CLI"),
    ("script_name", (script.map Value.text).getD .null)] ++
    if caller.file = "unknown" then []
    else [("file_relative",
      .text (String.ofList (Path.relative directory.toList caller.file.toList)))]

/-- The context of an audit that a request asked for. -/
def Context.ofRequest (url method : String) (client endpoint : Option String) : Context :=
  [("file", .text "unknown"), ("line", .int 0), ("function", .text (endpoint.getD "unknown")),
    ("url", .text url), ("method", .text method), ("client", (client.map Value.text).getD .null),
    ("script_name", .null)]

end SqlAudit
