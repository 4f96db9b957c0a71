import MacroExpansion.Decimal.Layout

/-!
# Colors

A color as running code holds it: three channels in a color space.
-/

namespace MacroExpansion

/-- What the channels of a color mean. -/
inductive ColorSpace where
  | srgb
  /-- The same primaries with a linear transfer function. -/
  | srgbLinear
  | displayP3
deriving DecidableEq, Repr, Inhabited

namespace ColorSpace

/-- The name of a color space in code. -/
def name : ColorSpace → String
  | srgb => "Srgb"
  | srgbLinear => "SrgbLinear"
  | displayP3 => "DisplayP3"

/-- The name of a color space for a reader. -/
def title : ColorSpace → String
  | srgb => "sRGB"
  | srgbLinear => "linear sRGB"
  | displayP3 => "Display P3"

/-- Every color space. -/
def all : List ColorSpace := [srgb, srgbLinear, displayP3]

/-- The color space with the given name in code. -/
def ofName? (name : String) : Option ColorSpace := all.find? fun space => space.name == name

end ColorSpace

/-- A color in a color space. -/
structure Color where
  space : ColorSpace
  red : Binary64
  green : Binary64
  blue : Binary64
deriving Repr, Inhabited

namespace Color

/-- A color for a reader. -/
def title (color : Color) : String :=
  color.space.title ++ "(" ++ Layout.display.text color.red ++ ", " ++
    Layout.display.text color.green ++ ", " ++ Layout.display.text color.blue ++ ")"

/-- A color for a programmer, part by part. -/
def debug (color : Color) : String :=
  "Color \x7b color_space: " ++ color.space.name ++ ", red: " ++ Layout.debug.text color.red ++
    ", green: " ++ Layout.debug.text color.green ++ ", blue: " ++ Layout.debug.text color.blue ++
    " \x7d"

/-- Are space and channels the same, the channels as numbers? -/
def equals (a b : Color) : Bool :=
  a.space == b.space && a.red.equals b.red && a.green.equals b.green && a.blue.equals b.blue

end Color

end MacroExpansion
