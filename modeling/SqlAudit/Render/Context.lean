import SqlAudit.Report

/-!
# Where a query comes from, in words

The lines that both renderings of a report show about its context, and what keeps them from being
written.
-/

namespace SqlAudit.Context

/-- What a context says under a name. -/
def get? (c : Context) (name : String) : Option Value :=
  c.lookup name

/-- What a context says under a name, or a default in words. -/
def display (c : Context) (name default : String) : String :=
  ((c.get? name).map Value.display).getD default

/-- What a context says under a name, if that counts as true. -/
def truthy? (c : Context) (name : String) : Option Value :=
  (c.get? name).filter Value.isTruthy

/-- The file: relative to the working directory if known so. -/
def file (c : Context) : String :=
  match c.truthy? "file_relative" with
  | some v => v.display
  | none => c.display "file" "unknown"

/-- The lines on the origin of the call: a request, or a script. -/
def originLines (c : Context) : List String :=
  match c.truthy? "url" with
  | some url => ["URL: " ++ url.display, "Method: " ++ c.display "method" "GET"]
  | none => ["CLI Script: " ++ ((c.truthy? "script_name").map Value.display).getD "N/A"]

/-- All lines on a context. -/
def lines (c : Context) : List String :=
  ["File: " ++ c.file, "Line: " ++ c.display "line" "0",
    "Function: " ++ c.display "function" "unknown" ++ "()"] ++ c.originLines

/-- The values that the lines on a context show, in order. -/
def shownValues (c : Context) : List Value :=
  ((c.truthy? "file_relative").or (c.get? "file")).toList ++ (c.get? "line").toList ++
    (c.get? "function").toList ++
    match c.truthy? "url" with
    | some url => url :: (c.get? "method").toList
    | none => (c.truthy? "script_name").toList

/-- What keeps the lines on a context from being written if there is room to nest `room` times. -/
def failure? (room : Nat) (c : Context) : Option WriteError :=
  c.shownValues.findSome? (Value.unwritable? room)

end SqlAudit.Context
