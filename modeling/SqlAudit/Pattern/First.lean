import SqlAudit.Pattern.Basic

/-!
# The first reading

The match of a pattern is the first of its readings. `first?` finds it by backtracking, without
listing the others: what follows a part of the pattern is a continuation, which is tried on one
reading of the part after another. Main statement: that is the head of the list of readings.
-/

namespace SqlAudit.Pattern

/-- The first reading of a run, from the longest on, that `accept` takes. -/
def firstRun {β : Type} (k : CharClass) (before : Option Char) :
    List Char → (accept : Reading → Option β) → Option β
  | [], accept => accept (.nothing ⟨before, []⟩)
  | c :: cs, accept =>
    if k.has c then
      match firstRun k (some c) cs fun r => accept (r.cons c) with
      | some b => some b
      | none => accept (.nothing ⟨before, c :: cs⟩)
    else accept (.nothing ⟨before, c :: cs⟩)

/-- The first reading of a pattern at a place, in the order of preference, that `accept` takes. -/
def firstThat {β : Type} : Pattern → Place → (accept : Reading → Option β) → Option β
  | .empty, place, accept => accept (.nothing place)
  | .one k, ⟨_, c :: cs⟩, accept => if k.has c then accept ⟨[c], [], ⟨some c, cs⟩⟩ else none
  | .one _, ⟨_, []⟩, _ => none
  | .run k, place, accept => firstRun k place.before place.ahead accept
  | .seq p q, place, accept =>
    p.firstThat place fun r => q.firstThat r.next fun s => accept (r.andThen s)
  | .alt p q, place, accept =>
    match p.firstThat place accept with
    | some b => some b
    | none => q.firstThat place accept
  | .boundary, place, accept => if place.isBoundary then accept (.nothing place) else none
  | .group p, place, accept => p.firstThat place fun r => accept r.grouped

/-- The match of a pattern at a place. -/
def first? (p : Pattern) (place : Place) : Option Reading :=
  p.firstThat place some

theorem firstRun_eq_findSome? {β : Type} (k : CharClass) (before : Option Char) (s : List Char)
    (accept : Reading → Option β) :
    firstRun k before s accept = (runReadings k before s).findSome? accept := by
  induction s generalizing before accept with
  | nil => simp [firstRun, runReadings]
  | cons c cs ih =>
    unfold firstRun runReadings
    by_cases h : k.has c
    · simp only [h, if_true, ih, List.findSome?_append, List.findSome?_map, List.findSome?_singleton,
        Function.comp_def]
      cases (runReadings k (some c) cs).findSome? fun r => accept (r.cons c) <;> rfl
    · simp [h]

theorem findSome?_flatMap {α β γ : Type} (l : List α) (g : α → List β) (f : β → Option γ) :
    (l.flatMap g).findSome? f = l.findSome? fun a => (g a).findSome? f := by
  induction l with
  | nil => rfl
  | cons a l ih =>
    rw [List.flatMap_cons, List.findSome?_append, ih, List.findSome?_cons]
    cases (g a).findSome? f <;> rfl

/-- Backtracking takes the first of all readings that `accept` takes. -/
theorem firstThat_eq_findSome? {β : Type} (p : Pattern) (place : Place)
    (accept : Reading → Option β) :
    p.firstThat place accept = (p.readings place).findSome? accept := by
  induction p generalizing β place with
  | empty => simp [firstThat, readings]
  | one k =>
    obtain ⟨before, _ | ⟨c, cs⟩⟩ := place
    · rfl
    · by_cases h : k.has c <;> simp [firstThat, readings, h]
  | run k => exact firstRun_eq_findSome? ..
  | seq p q ihp ihq =>
    simp only [firstThat, readings, ihp, ihq, findSome?_flatMap, List.findSome?_map,
      Function.comp_def]
  | alt p q ihp ihq =>
    simp only [firstThat, readings, ihp, ihq, List.findSome?_append]
    cases (p.readings place).findSome? accept <;> rfl
  | boundary => by_cases h : place.isBoundary <;> simp [firstThat, readings, h]
  | group p ih => simp only [firstThat, readings, ih, List.findSome?_map, Function.comp_def]

/-- The match of a pattern is the first of its readings. -/
theorem first?_eq_head? (p : Pattern) (place : Place) :
    p.first? place = (p.readings place).head? := by
  rw [first?, firstThat_eq_findSome?]
  cases p.readings place <;> rfl

end SqlAudit.Pattern
