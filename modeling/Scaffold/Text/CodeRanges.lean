/-!
# Sets of code points

Properties of characters are given as tables of code point ranges, both ends included.
-/

set_option autoImplicit false

namespace Scaffold.Text

abbrev CodeRanges := Array (Nat × Nat)

namespace CodeRanges

def contains (ranges : CodeRanges) (code : Nat) : Bool :=
  ranges.any fun (first, last) => first ≤ code && code ≤ last

end CodeRanges

end Scaffold.Text
