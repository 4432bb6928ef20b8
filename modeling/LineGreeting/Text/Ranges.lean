/-! # Ranges of code points

A property of characters is given by the ranges of code points that have it,
each by its first and its last.
-/

namespace LineGreeting.Text

/-- Whether some range holds a code point. -/
def covers (ranges : List (Nat × Nat)) (code : Nat) : Bool :=
  ranges.any fun range => range.1 ≤ code && code ≤ range.2

end LineGreeting.Text
