/-!
# Sets of code points

A property of characters is given as a list of inclusive ranges of code points. The tables built on
it cover what lies outside ASCII, so membership is decided by one pass over the list.
-/

namespace MacroExpansion

/-- A set of code points as inclusive ranges. -/
abbrev CodeRanges := List (Nat × Nat)

namespace CodeRanges

/-- Does a range of the list hold the character? -/
def has (ranges : CodeRanges) (c : Char) : Bool :=
  ranges.any fun range => range.1 ≤ c.toNat && c.toNat ≤ range.2

theorem has_iff (ranges : CodeRanges) (c : Char) :
    ranges.has c = true ↔ ∃ range ∈ ranges, range.1 ≤ c.toNat ∧ c.toNat ≤ range.2 := by
  simp [has]

end CodeRanges

end MacroExpansion
