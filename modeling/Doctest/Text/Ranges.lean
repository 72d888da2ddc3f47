/-
# Sets of characters as ranges of code points

A property of characters is tabled as the increasing list of the ranges, ends included, of the
code points that have it.
-/

import Doctest.Text.Basic

namespace Doctest
namespace Text

/-- Whether the code point `n` lies in one of the ranges, which are in increasing order. -/
def inRanges (n : Nat) : List (Nat × Nat) → Bool
  | [] => false
  | (lo, hi) :: rs => if n < lo then false else n ≤ hi || inRanges n rs

/-- A range that contains the code point decides the question. -/
theorem inRanges_cons_of_mem {n lo hi : Nat} {rs : List (Nat × Nat)} (h : lo ≤ n) (h' : n ≤ hi) :
    inRanges n ((lo, hi) :: rs) = true := by
  simp [inRanges, Nat.not_lt.2 h, h']

end Text
end Doctest
