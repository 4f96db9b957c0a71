import MacroExpansion.Text.Ranges

/-!
# Blank characters

The characters that separate tokens and mean nothing else: the Unicode property `White_Space`
together with the two direction marks.
-/

namespace MacroExpansion

namespace Blank

/-- Every non-ASCII blank. -/
def ranges : CodeRanges := [
  (0x85, 0x85), (0xA0, 0xA0), (0x1680, 0x1680), (0x2000, 0x200A), (0x200E, 0x200F),
  (0x2028, 0x2029), (0x202F, 0x202F), (0x205F, 0x205F), (0x3000, 0x3000)]

/-- Does the character only separate? -/
def isBlank (c : Char) : Bool :=
  if c.toNat < 128 then c == ' ' || (9 ≤ c.toNat && c.toNat ≤ 13) else ranges.has c

end Blank

end MacroExpansion
