import SqlAudit.Number.Numeral
import SqlAudit.Value.Basic

/-!
# Values that cannot be written

Writing a value as text can fail: an integer of more than `Numeral.digitLimit` digits is not
written, and neither is a value that is nested deeper than there is room for on the stack.
`unwritable?` finds what keeps a value from being written. What is written otherwise is its
`literal`, or its `display`.
-/

namespace SqlAudit

/-- What keeps a value from being written. -/
inductive WriteError where
  /-- It has an integer of too many digits. -/
  | digits
  /-- It is nested too deeply. -/
  | depth
deriving DecidableEq, Repr

/-- What keeps a value from being written, in words. -/
def WriteError.message : WriteError → String
  | .digits => s!"Exceeds the limit ({Numeral.digitLimit} digits) for integer string conversion; " ++
      "use sys.set_int_max_str_digits() to increase the limit"
  | .depth => "maximum recursion depth exceeded while getting the repr of an object"

/-- What is written, unless something keeps it from being written. -/
def writtenUnless {α : Type} (failure? : Option WriteError) (written : α) : Except WriteError α :=
  match failure? with
  | some e => .error e
  | none => .ok written

@[simp] theorem writtenUnless_eq_ok_iff {α : Type} {failure? : Option WriteError} {written a : α} :
    writtenUnless failure? written = .ok a ↔ failure? = none ∧ written = a := by
  cases failure? <;> simp [writtenUnless]

@[simp] theorem writtenUnless_eq_error_iff {α : Type} {failure? : Option WriteError} {written : α}
    {e : WriteError} : writtenUnless failure? written = .error e ↔ failure? = some e := by
  cases failure? <;> simp [writtenUnless]

/-- What keeps a scalar from being written: an integer may have too many digits. -/
def Scalar.unwritable? : Scalar → Option WriteError
  | .int n => if n.natAbs < Numeral.digitBound then none else some .digits
  | _ => none

namespace Value

mutual

/-- What keeps a value from being written if lists and mappings may be nested `room` times. -/
def unwritable? : (room : Nat) → Value → Option WriteError
  | _, .scalar s => s.unwritable?
  | 0, .list _ | 0, .object _ => some .depth
  | room + 1, .list vs => itemsUnwritable? room vs
  | room + 1, .object es => entriesUnwritable? room es

/-- What keeps the items of a list from being written. -/
def itemsUnwritable? : (room : Nat) → List Value → Option WriteError
  | _, [] => none
  | room, v :: vs => (unwritable? room v).or (itemsUnwritable? room vs)

/-- What keeps the entries of a mapping from being written. -/
def entriesUnwritable? : (room : Nat) → Entries → Option WriteError
  | _, [] => none
  | room, (k, v) :: es => (k.unwritable?.or (unwritable? room v)).or (entriesUnwritable? room es)

end

end Value

end SqlAudit
