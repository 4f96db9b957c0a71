import MacroExpansion.Expand.Basic

/-!
# Expanding colors

One argument is the color literal; of two or more the first is the color space and the second the
literal. A literal of the right form becomes a call of the constructor. Anything else is reported,
and nothing is produced.
-/

namespace MacroExpansion

namespace Expr

/-- The integer literal that an expression is, seen through invisible groups and attributes: its
text and its place. -/
def integerLiteral? : Expr → Option (String × Span)
  | attributed _ inner => inner.integerLiteral?
  | hidden inner _ => inner.integerLiteral?
  | literal (.literal text span) => if Literal.isInteger text then some (text, span) else none
  | _ => none

end Expr

namespace Color

/-- The space and the literal among the arguments, if there is an argument. -/
def chooseArguments : List Argument → Option (Option Expr × Expr)
  | [] => none
  | [literal] => some (none, literal.expr)
  | space :: literal :: _ => some (some space.expr, literal.expr)

/-- A call of the constructor. -/
def construct (module : Path) (space : Option Expr) (rgb : Rgb) (place : Span) : Expr :=
  let comma := Tokens.symbol ","
  let channel (value : Binary64) : Expr := .literal (.literal (Channel.literal value) place)
  .call (.path (Runtime.newColor module))
    [.mk (space.getD (.path (Runtime.defaultSpace module))) comma, .mk (channel rgb.red) comma,
      .mk (channel rgb.green) comma, .mk (channel rgb.blue) []]
    .callSite

/-- Report a fault and produce nothing. -/
def refuse (fault : ColorFault) (span : Span) : Expand (Option Expr) := do
  Expand.report fault span
  return none

/-- The call that a literal stands for, once it is known which argument is the literal. -/
def expandLiteral (module : Path) (space : Option Expr) (expr : Expr) : Expand (Option Expr) :=
  match expr.integerLiteral? with
  | none => refuse .requiresIntegerLiteral expr.span
  | some (text, place) =>
    match Rgb.ofLiteral? text with
    | none => refuse (.malformedHexadecimal text) place
    | some rgb => do
      Expand.note (.validated rgb)
      return some (construct module space rgb place)

/-- Expand a color. -/
def expand (module : Path) (invocation : Invocation) : Expand (Option Expr) := do
  Expand.note (.color invocation.size)
  match chooseArguments invocation.arguments with
  | none => refuse .requiresArgument (← get).site
  | some (space, expr) =>
    if 2 < invocation.size then Expand.note (.ignoring (invocation.size - 2))
    expandLiteral module space expr

end Color

end MacroExpansion
