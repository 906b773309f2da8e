import SqlAudit.Finding.Caution
import SqlAudit.Finding.Fault
import SqlAudit.Finding.Note

/-!
# Remarks

What one check finds: causes of errors, of warnings and of information, each in order.
-/

namespace SqlAudit

/-- What a check finds, by severity. -/
structure Remarks where
  faults : List Fault
  cautions : List Caution
  notes : List Note
deriving DecidableEq, Repr

end SqlAudit
