import PhotoPublish.Value

/-!
# The order of keys

Keys of one sort are ordered: numbers by value, texts and bytes by their first difference, dates and
moments by time. `Value.sortKeys?` sorts keys; keys of different sorts have no order.
-/

set_option autoImplicit false

namespace PhotoPublish.Value

/-- What keys are compared by. -/
inductive SortKey where
  /-- A number in units of 2⁻¹⁰⁷⁴; the first part is not zero for an infinite one. -/
  | number (infinite units : Int)
  | letters (codes : List Nat)
  | bytes (codes : List Nat)
  | day (number : Int)
  | localMoment (microseconds : Int)
  | moment (microseconds : Int)
deriving DecidableEq

/-- What a key is compared by; some keys cannot be. -/
def sortKey? : Value → Option SortKey
  | bool b => some (.number 0 (if b then Binary64.one else 0))
  | whole n => some (.number 0 (n * Binary64.one))
  | real (.infinite negative) => some (.number (if negative then -1 else 1) 0)
  | real x => some (.number 0 (x.units?.getD 0))
  | text t => some (.letters (t.map Char.toNat))
  | Value.bytes b => some (.bytes (b.map UInt8.toNat))
  | date d => some (.day d.dayNumber)
  | Value.moment t =>
    some (if t.offset.isSome then .moment t.microsecondCount else .localMoment t.microsecondCount)
  | null | list _ | map _ | enclosing _ => none

namespace SortKey

/-- Whether a list of numbers comes before another or is the same. -/
def codesLe : List Nat → List Nat → Bool
  | [], _ => true
  | _ :: _, [] => false
  | a :: as, b :: bs => if a = b then codesLe as bs else a < b

/-- Whether a key does not come after another; keys of different sorts have no order. -/
def le? : SortKey → SortKey → Option Bool
  | number i a, number j b => some (if i = j then a ≤ b else i < j)
  | letters a, letters b => some (codesLe a b)
  | bytes a, bytes b => some (codesLe a b)
  | day a, day b => some (a ≤ b)
  | localMoment a, localMoment b => some (a ≤ b)
  | moment a, moment b => some (a ≤ b)
  | _, _ => none

end SortKey

/-- Whether a key does not come after another. -/
def le? (a b : Value) : Option Bool := do
  SortKey.le? (← a.sortKey?) (← b.sortKey?)

/-- The sorted keys; a single key needs no order. -/
def sortKeys? (keys : List Value) : Option (List Value) :=
  match keys with
  | [] | [_] => some keys
  | first :: rest =>
    if (first :: rest).all fun key => (first.le? key).isSome then
      some (keys.mergeSort fun a b => (a.le? b).getD true)
    else none

end PhotoPublish.Value
