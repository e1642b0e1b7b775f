/-!
# Sets of code points

`CodeRanges` is a set of code points given by closed ranges in ascending order, as the tables of a
character property are. `find?` halves the table until it meets the range that holds the code point.
-/

set_option autoImplicit false

namespace PhotoPublish.Text

/-- Closed ranges of code points, ascending and disjoint. -/
structure CodeRanges where
  ranges : Array (Nat × Nat)

namespace CodeRanges

/-- Halves the rows from `low` up to, but not including, `high`; `fuel` bounds the halvings. -/
def search (rows : Array (Nat × Nat)) (code : Nat) : Nat → Nat → Nat → Option (Nat × Nat)
  | 0, _, _ => none
  | fuel + 1, low, high =>
    if high ≤ low then none
    else
      let middle := (low + high) / 2
      match rows[middle]? with
      | none => none
      | some (first, last) =>
        if code < first then search rows code fuel low middle
        else if last < code then search rows code fuel (middle + 1) high
        else some (first, last)

/-- The range that holds the code point. Each halving drops a row, so the rows bound them. -/
def find? (set : CodeRanges) (code : Nat) : Option (Nat × Nat) :=
  search set.ranges code (set.ranges.size + 1) 0 set.ranges.size

/-- Whether the code point lies in one of the ranges. -/
def contains (set : CodeRanges) (code : Nat) : Bool :=
  (set.find? code).isSome

end CodeRanges

end PhotoPublish.Text
