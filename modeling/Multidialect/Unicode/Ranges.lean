/-! # Sets of code points as ranges

A property of characters that a standard defines by enumeration is kept as a list of closed ranges
in increasing order; `Ranges.contains` stops at the first range that starts beyond the code point,
so a question about an early character is answered by the first few ranges.

* `contains_cons`: what one range adds.
-/

namespace Multidialect.Unicode

/-- Closed ranges of code points, disjoint and increasing. -/
abbrev Ranges := List (Nat × Nat)

namespace Ranges

/-- Whether a code point lies in one of the ranges. -/
def contains : Ranges → Nat → Bool
  | [], _ => false
  | (lo, hi) :: rest, n => if n < lo then false else n ≤ hi || contains rest n

theorem contains_nil (n : Nat) : contains [] n = false := rfl

theorem contains_cons (lo hi : Nat) (rest : Ranges) (n : Nat) :
    contains ((lo, hi) :: rest) n = (decide (lo ≤ n) && (decide (n ≤ hi) || contains rest n)) := by
  by_cases h : n < lo
  · have hlo : ¬ lo ≤ n := by omega
    simp [contains, h, hlo]
  · have hlo : lo ≤ n := by omega
    simp [contains, h, hlo]

end Ranges

end Multidialect.Unicode
