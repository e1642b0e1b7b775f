import PhotoPublish.Number.Reading

/-!
# Progress

A `ProgressScope` shows how far a batch is: the portion that is done, and whether it is finished.
-/

set_option autoImplicit false

namespace PhotoPublish

/-- The progress of a batch. -/
structure ProgressScope where
  title : Value := .null
  portion : Binary64 := .finite 0
  finished : Bool := false

instance : Inhabited ProgressScope :=
  ⟨{}⟩

namespace ProgressScope

/-- A number of any type as a double. -/
def toReal : Value → Except Failure Binary64
  | .bool b => .ok (Binary64.ofInt (if b then 1 else 0))
  | .whole n =>
    match Binary64.ofInt? n with
    | some x => .ok x
    | none => .error .wholeTooLarge
  | .real x => .ok x
  | _ => .error .wrongType

/-- A number of any type, or the text or bytes of one, as a double. -/
def readReal : Value → Except Failure Binary64
  | .text text => Binary64.read text
  | .bytes b => Binary64.readBytes b
  | value => toReal value

/-- The portion that is done; of nothing, all is done. -/
def portionOf (done total : Value) : Except Failure Binary64 :=
  if total.isSet then do
    let done ← readReal done
    let total ← toReal total
    return done.div total
  else .ok (Binary64.ofInt 1)

/-- The scope after a report. -/
def report (scope : ProgressScope) (done total : Value) : Except Failure ProgressScope := do
  return { scope with portion := ← portionOf done total }

/-- The scope at its end. -/
def finish (scope : ProgressScope) : ProgressScope :=
  { scope with finished := true }

/-- A scope of its own is never cancelled. -/
def isCancelled (_ : ProgressScope) : Bool :=
  false

end ProgressScope

end PhotoPublish
