/-!
# Places in the source text

A position counts lines from one and columns from zero, columns in characters. A span is a pair of
positions, the second one exclusive. Tokens that an expansion makes up have no place of their own
and carry `Span.callSite`.
-/

namespace MacroExpansion

/-- A place between two characters of the source text. -/
structure Position where
  line : Nat
  column : Nat
deriving DecidableEq, Repr, Inhabited

namespace Position

/-- Where every source text begins. -/
def origin : Position := ⟨1, 0⟩

/-- The place after one more character. Only a line feed ends a line. -/
def advance (p : Position) (c : Char) : Position :=
  if c = '\n' then ⟨p.line + 1, 0⟩ else ⟨p.line, p.column + 1⟩

/-- The place after a run of characters. -/
def advanceBy (p : Position) (cs : List Char) : Position :=
  cs.foldl advance p

end Position

/-- A stretch of source text, its end exclusive. -/
structure Span where
  start : Position
  stop : Position
deriving DecidableEq, Repr, Inhabited

namespace Span

/-- The place of the invocation as a whole, and of everything an expansion makes up. -/
def callSite : Span := ⟨.origin, .origin⟩

/-- From the beginning of one stretch to the end of another. What an expansion makes up cannot be
joined with source text; then the first stretch stands for both. -/
def through (a b : Span) : Span :=
  if a = callSite ∨ b = callSite then a else ⟨a.start, b.stop⟩

@[simp] theorem through_self (a : Span) : a.through a = a := by
  unfold through
  split <;> rfl

/-- The first character of a stretch, which for a group is its opening delimiter. An empty stretch
has none and is returned as it is. -/
def first (a : Span) : Span :=
  if a.start = a.stop then a else ⟨a.start, ⟨a.start.line, a.start.column + 1⟩⟩

/-- The last character of a stretch that does not end with a line feed, which for a group is its
closing delimiter. An empty stretch has none and is returned as it is. -/
def last (a : Span) : Span :=
  if a.start = a.stop then a else ⟨⟨a.stop.line, a.stop.column - 1⟩, a.stop⟩

end Span

end MacroExpansion
