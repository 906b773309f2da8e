import SqlAudit.Pattern.Search
import SqlAudit.Proofs.Text.Case

/-!
# Patterns and the case of letters

A pattern that asks for no letter in one case only reads the small form of a text as it reads the
text itself. `Pattern.ignoresCase` tells such patterns. Main statements:

* `readings_uncased`: the readings of such a pattern in a small form are the small forms of its
  readings;
* `find?_uncased`, `occursIn_uncased`, `occurrences_uncased`: it is found where it was.
-/

namespace SqlAudit

/-! ## Readings -/

/-- Whether a class has both cases of a letter if it has one. -/
def CharClass.ignoresCase : CharClass → Bool
  | .exactly c => !c.isAlpha
  | .except c => !c.isAlpha
  | _ => true

theorem CharClass.has_toLower {k : CharClass} (hk : k.ignoresCase = true) (c : Char) :
    k.has c.toLower = k.has c := by
  cases k with
  | exactly d => exact Text.toLower_beq ((Bool.not_eq_true' _).mp hk) c
  | caseless d => rw [has, has, Text.fold_toLower]
  | latin => rw [has, has, Text.fold_toLower]
  | quote => rw [has, has, Text.toLower_beq (by decide), Text.toLower_beq (by decide)]
  | blank => exact Text.isBlank_toLower c
  | word => exact Text.isWord_toLower c
  | except d => exact congrArg (!·) (Text.toLower_beq ((Bool.not_eq_true' _).mp hk) c)

/-- A place in the small form of a text. -/
def Place.uncased (p : Place) : Place :=
  ⟨p.before.map Char.toLower, Text.uncased p.ahead⟩

/-- A reading of the small form of a text. -/
def Reading.uncased (r : Reading) : Reading :=
  ⟨Text.uncased r.text, r.groups.map Text.uncased, r.next.uncased⟩

/-- An occurrence in the small form of a text. -/
def Occurrence.uncased (o : Occurrence) : Occurrence :=
  ⟨o.start, Text.uncased o.text, o.groups.map Text.uncased⟩

theorem Place.isBoundary_uncased (p : Place) : p.uncased.isBoundary = p.isBoundary := by
  rw [isBoundary, isBoundary, uncased, Text.uncased, List.head?_map, Option.any_map, Option.any_map]
  simp only [Text.isWord_toLower]

namespace Pattern

/-- Whether a pattern asks for no letter in one case only. -/
def ignoresCase : Pattern → Bool
  | .one k | .run k => k.ignoresCase
  | .seq p q | .alt p q => p.ignoresCase && q.ignoresCase
  | .group p => p.ignoresCase
  | .empty | .boundary => true

theorem runReadings_uncased {k : CharClass} (hk : k.ignoresCase = true) (before : Option Char)
    (s : List Char) : runReadings k (before.map Char.toLower) (Text.uncased s) =
      (runReadings k before s).map Reading.uncased := by
  induction s generalizing before with
  | nil => rfl
  | cons c s ih =>
    rw [Text.uncased_cons, runReadings, runReadings, CharClass.has_toLower hk]
    split
    · have ih := ih (some c)
      rw [Option.map_some] at ih
      rw [ih, List.map_append, List.map_map, List.map_map]
      rfl
    · rfl

/-- A pattern that ignores case reads the small form of a text as it reads the text. -/
theorem readings_uncased {p : Pattern} (hp : p.ignoresCase = true) (place : Place) :
    p.readings place.uncased = (p.readings place).map Reading.uncased := by
  induction p generalizing place with
  | empty => rfl
  | one k =>
    obtain ⟨before, _ | ⟨c, s⟩⟩ := place
    · rfl
    · simp only [Place.uncased, Text.uncased_cons, readings, CharClass.has_toLower hp]
      split <;> rfl
  | run k => exact runReadings_uncased hp _ _
  | seq p q ihp ihq =>
    obtain ⟨hp, hq⟩ := Bool.and_eq_true_iff.1 hp
    have hstep (r : Reading) : (q.readings r.uncased.next).map r.uncased.andThen =
        ((q.readings r.next).map r.andThen).map Reading.uncased := by
      have hthen (s : Reading) : r.uncased.andThen s.uncased = (r.andThen s).uncased := by
        simp [Reading.andThen, Reading.uncased]
      rw [Reading.uncased, ihq hq, List.map_map, List.map_map]
      exact List.map_congr_left fun s _ => hthen s
    rw [readings, readings, ihp hp, List.flatMap_map, List.map_flatMap]
    simp only [hstep]
  | alt p q ihp ihq =>
    obtain ⟨hp, hq⟩ := Bool.and_eq_true_iff.1 hp
    rw [readings, readings, ihp hp, ihq hq, List.map_append]
  | boundary =>
    rw [readings, readings, Place.isBoundary_uncased]
    split <;> rfl
  | group p ih =>
    rw [readings, readings, ih hp, List.map_map, List.map_map]
    rfl

theorem first?_uncased {p : Pattern} (hp : p.ignoresCase = true) (place : Place) :
    p.first? place.uncased = (p.first? place).map Reading.uncased := by
  rw [first?_eq_head?, first?_eq_head?, readings_uncased hp, List.head?_map]

/-! ## Searches -/

theorem findFrom_uncased {p : Pattern} (hp : p.ignoresCase = true) (start : Nat)
    (before : Option Char) (s : List Char) :
    p.findFrom start (before.map Char.toLower) (Text.uncased s) =
      (p.findFrom start before s).map Occurrence.uncased := by
  induction s generalizing start before with
  | nil =>
    have hfirst : p.first? ⟨before.map Char.toLower, []⟩ = (p.first? ⟨before, []⟩).map .uncased :=
      first?_uncased hp ⟨before, []⟩
    rw [Text.uncased_nil, findFrom, findFrom, hfirst, Option.map_map, Option.map_map]
    rfl
  | cons c s ih =>
    have hfirst : p.first? ⟨before.map Char.toLower, c.toLower :: Text.uncased s⟩ =
        (p.first? ⟨before, c :: s⟩).map .uncased := first?_uncased hp ⟨before, c :: s⟩
    rw [Text.uncased_cons, findFrom, findFrom, hfirst]
    cases p.first? ⟨before, c :: s⟩ with
    | none => exact ih (start + 1) (some c)
    | some r => rfl

theorem find?_uncased {p : Pattern} (hp : p.ignoresCase = true) (s : List Char) :
    p.find? (Text.uncased s) = (p.find? s).map Occurrence.uncased :=
  findFrom_uncased hp 0 none s

theorem occursIn_uncased {p : Pattern} (hp : p.ignoresCase = true) (s : List Char) :
    p.occursIn (Text.uncased s) = p.occursIn s := by
  rw [occursIn, occursIn, find?_uncased hp, Option.isSome_map]

theorem occurrencesFrom_uncased {p : Pattern} (hp : p.ignoresCase = true) (start skip : Nat)
    (before : Option Char) (s : List Char) :
    p.occurrencesFrom start skip (before.map Char.toLower) (Text.uncased s) =
      (p.occurrencesFrom start skip before s).map Occurrence.uncased := by
  induction s generalizing start skip before with
  | nil => rfl
  | cons c s ih =>
    cases skip with
    | succ skip => exact ih (start + 1) skip (some c)
    | zero =>
      have hfirst : p.first? ⟨before.map Char.toLower, c.toLower :: Text.uncased s⟩ =
          (p.first? ⟨before, c :: s⟩).map .uncased := first?_uncased hp ⟨before, c :: s⟩
      rw [Text.uncased_cons, occurrencesFrom, occurrencesFrom, hfirst]
      cases p.first? ⟨before, c :: s⟩ with
      | none => exact ih (start + 1) 0 (some c)
      | some r =>
        have ih := ih (start + 1) (r.text.length - 1) (some c)
        simp only [Option.map_some, Reading.uncased, Text.length_uncased, List.map_cons] at ih ⊢
        rw [ih]
        rfl

theorem occurrences_uncased {p : Pattern} (hp : p.ignoresCase = true) (s : List Char) :
    p.occurrences (Text.uncased s) = (p.occurrences s).map Occurrence.uncased :=
  occurrencesFrom_uncased hp 0 0 none s

end Pattern

end SqlAudit
