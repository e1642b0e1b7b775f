import PhotoPublish.Albums.CheckList

/-!
# Drains of a check list

A drain gives the albums of a check list one by one, the longest first, and takes each off the list as it
gives it. Any number of drains may be under way over one list, and albums may be offered between their
steps. A drain that finds the list empty is finished: it gives nothing any more, even if albums are added
later. A `Draining` is a check list with the drains that are finished; `Draining.perform` is one step of
whoever uses the list.
-/

set_option autoImplicit false

namespace PhotoPublish

/-- A check list, and the numbers of the drains that are finished. -/
structure Draining where
  list : CheckList := []
  finished : List Nat := []
deriving DecidableEq, Repr

namespace Draining

/-- One use of the list. -/
inductive Action where
  | add (album : Text)
  | note (photoPath : Text)
  /-- One step of the drain with a number. -/
  | next (drain : Nat)
deriving DecidableEq, Repr

/-- What came of a use. -/
inductive Outcome where
  /-- An album was offered, and whether it got in. -/
  | offered (album : Text) (admitted : Bool)
  /-- The photo lies outside albums. -/
  | outside
  | yielded (album : Text)
  /-- The drain is finished. -/
  | finished
deriving DecidableEq, Repr

/-- Offers an album to the list. -/
def offer (album : Text) (state : Draining) : Outcome × Draining :=
  let (list, admitted) := state.list.add album
  (.offered album admitted, { state with list := list })

/-- What comes of a use, and the list after it. -/
def perform (state : Draining) : Action → Outcome × Draining
  | .add album => offer album state
  | .note photoPath =>
    match CheckList.albumOf? photoPath with
    | some album => offer album state
    | none => (.outside, state)
  | .next drain =>
    if drain ∈ state.finished then (.finished, state)
    else match state.list.takeFirst? with
      | some (first, rest) => (.yielded first, { state with list := rest })
      | none => (.finished, { state with finished := drain :: state.finished })

/-- The list after uses, one after the other. -/
def after (state : Draining) : List Action → Draining
  | [] => state
  | action :: later => (state.perform action).2.after later

/-- What comes of uses, one after the other. -/
def outcomes (state : Draining) : List Action → List Outcome
  | [] => []
  | action :: later => (state.perform action).1 :: (state.perform action).2.outcomes later

namespace Outcome

/-- The album that a drain gave. -/
def yielded? : Outcome → Option Text
  | yielded album => some album
  | _ => none

/-- The album that got in. -/
def admitted? : Outcome → Option Text
  | offered album true => some album
  | _ => none

end Outcome

/-- The albums that drains gave, in order. -/
def yields (outcomes : List Outcome) : List Text :=
  outcomes.filterMap Outcome.yielded?

/-- The albums that got in, in order. -/
def admissions (outcomes : List Outcome) : List Text :=
  outcomes.filterMap Outcome.admitted?

end Draining

end PhotoPublish
