/-!
# Sets of Code Points

Unicode properties as lists of boundaries.

A property is written down as the ascending list of the code points where it
changes: it holds from the first boundary up to the second, from the third up
to the fourth, and so on.

## Main definitions

* `holdsAt`: Whether a property given by its boundaries holds at a point.
-/

namespace LineChat

namespace Text

/-- Whether the property that changes at each of the `bounds` holds at `c`; it
    does not hold before the first. -/
def holdsAt (c : Nat) : List Nat → Bool
  | [] => false
  | b :: bounds => if c < b then false else !holdsAt c bounds

end Text

end LineChat
