import SqlAudit.Value.Literal

/-!
# Values as documents

What becomes of a value in a document: keys turn into names, numbers that are not finite turn into
null, and nesting has a limit. Also what keeps a document from being written: numbers that are not
finite where they stay, and texts that cannot be encoded.
-/

namespace SqlAudit

/-- A scalar as the name of a member. Null and numbers that are not finite have one name, and halves
of pairs are lost. -/
def Scalar.memberName : Scalar → String
  | .bool b => if b then "true" else "false"
  | .float x => if x.isFinite then x.text else "None"
  | .text s => String.ofList (Text.lossy s.toList)
  | s => s.display

/-- Whether a scalar is no floating-point number but a finite one. -/
def Scalar.isFinite : Scalar → Bool
  | .float x => x.isFinite
  | _ => true

/-- A scalar, or null in place of a number that is not finite. -/
def Scalar.orNull (s : Scalar) : Scalar :=
  if s.isFinite then s else .null

namespace Value

mutual

/-- A value as a part of a document: mappings have names for keys, and numbers that are not finite
are null. -/
def named : Value → Value
  | .scalar s => .scalar s.orNull
  | .list vs => .list (namedItems vs)
  | .object es => mapping (namedEntries es)

/-- The items of a list as parts of a document. -/
def namedItems : List Value → List Value
  | [] => []
  | v :: vs => named v :: namedItems vs

/-- The entries of a mapping as parts of a document. -/
def namedEntries : Entries → Entries
  | [] => []
  | (k, v) :: es => (.text k.memberName, named v) :: namedEntries es

end

mutual

/-- A value with another scalar in the place of each; keys stay as they are. -/
def mapScalars (f : Scalar → Scalar) : Value → Value
  | .scalar s => .scalar (f s)
  | .list vs => .list (mapItems f vs)
  | .object es => .object (mapEntries f es)

/-- The items of a list with other scalars. -/
def mapItems (f : Scalar → Scalar) : List Value → List Value
  | [] => []
  | v :: vs => mapScalars f v :: mapItems f vs

/-- The entries of a mapping with other scalars in their values. -/
def mapEntries (f : Scalar → Scalar) : Entries → Entries
  | [] => []
  | (k, v) :: es => (k, mapScalars f v) :: mapEntries f es

end

mutual

/-- How deeply a value is nested; a scalar counts as one. -/
def depth : Value → Nat
  | .scalar _ => 1
  | .list vs => itemsDepth vs + 1
  | .object es => entriesDepth es + 1

/-- How deeply the items of a list are nested. -/
def itemsDepth : List Value → Nat
  | [] => 0
  | v :: vs => max (depth v) (itemsDepth vs)

/-- How deeply the values of a mapping are nested. -/
def entriesDepth : Entries → Nat
  | [] => 0
  | (_, v) :: es => max (depth v) (entriesDepth es)

end

/-- How deeply a part of a document may be nested. -/
def depthLimit : Nat := 255

mutual

/-- Whether every floating-point number in a value is finite. -/
def isFinite : Value → Bool
  | .scalar s => s.isFinite
  | .list vs => areFinite vs
  | .object es => entriesFinite es

/-- Whether every floating-point number in a list is finite. -/
def areFinite : List Value → Bool
  | [] => true
  | v :: vs => isFinite v && areFinite vs

/-- Whether every floating-point number in a mapping is finite. -/
def entriesFinite : Entries → Bool
  | [] => true
  | (k, v) :: es => k.isFinite && isFinite v && entriesFinite es

end

mutual

/-- The first text of a value that cannot be encoded. Names of members are encoded in any case. -/
def unencodable? : Value → Option Text.Unencodable
  | .scalar (.text s) => Text.unencodable? s.toList
  | .scalar _ => none
  | .list vs => itemsUnencodable? vs
  | .object es => entriesUnencodable? es

/-- The first text of a list that cannot be encoded. -/
def itemsUnencodable? : List Value → Option Text.Unencodable
  | [] => none
  | v :: vs => (unencodable? v).or (itemsUnencodable? vs)

/-- The first text among the values of a mapping that cannot be encoded. -/
def entriesUnencodable? : Entries → Option Text.Unencodable
  | [] => none
  | (_, v) :: es => (unencodable? v).or (entriesUnencodable? es)

end

/-- Whether a key names a member that is kept back: its name starts with the sign of internal
state. -/
def isInternal : Scalar → Bool
  | .text s => "_sa".toList.isPrefixOf s.toList
  | _ => false

mutual

/-- A value without the members that are kept back. -/
def shown : Value → Value
  | .scalar s => .scalar s
  | .list vs => .list (shownItems vs)
  | .object es => .object (shownEntries es)

/-- The items of a list without the members that are kept back. -/
def shownItems : List Value → List Value
  | [] => []
  | v :: vs => shown v :: shownItems vs

/-- The entries of a mapping that are not kept back. -/
def shownEntries : Entries → Entries
  | [] => []
  | (k, v) :: es => if isInternal k then shownEntries es else (k, shown v) :: shownEntries es

end

end Value

end SqlAudit
