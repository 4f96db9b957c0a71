import MacroExpansion.Grammar.Rules

/-!
# Invocations

The arguments of a macro call: expressions divided by commas, each with an optional label, and a
block behind an arrow.

```text
invocation := (argument ("," argument)* ","?)? ("=>" block)?
argument   := (name ":")? expression
```

Every token of the input belongs to one part of the invocation, and `Invocation.tokens` puts the
parts together again.
-/

namespace MacroExpansion

/-- The label of an argument with its colon. -/
structure Label where
  name : Ident
  colon : Tokens
deriving Repr, Inhabited

namespace Label

/-- The tokens of a label. -/
def tokens (label : Label) : Tokens := label.name.token :: label.colon

/-- The text of a label, a raw one with its mark. -/
def text (label : Label) : String := label.name.text

end Label

/-- An argument with its optional label. -/
structure Argument where
  label : Option Label
  expr : Expr
deriving Inhabited

namespace Argument

/-- The tokens of an argument. -/
def tokens (argument : Argument) : Tokens :=
  (argument.label.map Label.tokens).getD [] ++ argument.expr.tokens

/-- The stretch from its first to its last token, its label included. -/
def span (argument : Argument) : Span := Tokens.extent argument.tokens

/-- Is the argument labelled with this text? -/
def isLabelled (text : String) (argument : Argument) : Bool :=
  argument.label.any fun label => label.text == text

/-- Does a label begin here? A path such as `a::b` has none. -/
def seesLabel (tokens : Tokens) : Bool :=
  tokens.seesName && tokens.second.sees ":" && !tokens.second.sees "::"

open TokenReader in
/-- Read an argument. -/
def read (g : Grammar) : TokenReader Argument := do
  if seesLabel (← ahead) then
    let label ← ident
    let colon ← operator ":"
    return ⟨some ⟨label, colon⟩, ← g.expr true⟩
  else return ⟨none, ← g.expr true⟩

end Argument

/-- The block behind the arguments, with the arrow in front of it. -/
structure Trailing where
  arrow : Tokens
  block : Block
deriving Inhabited

namespace Trailing

/-- The tokens of the block and its arrow. -/
def tokens (trailing : Trailing) : Tokens := trailing.arrow ++ trailing.block.tokens

end Trailing

/-- The arguments of a macro call. -/
structure Invocation where
  /-- Each argument with the comma behind it. Only the last may have none. -/
  items : List (Argument × Tokens)
  trailing : Option Trailing
deriving Inhabited

namespace Invocation

/-- The arguments in the order they were written. -/
def arguments (invocation : Invocation) : List Argument := invocation.items.map (·.1)

/-- The number of arguments. -/
def size (invocation : Invocation) : Nat := invocation.items.length

/-- Is there no argument? A block behind the arguments does not count. -/
def isEmpty (invocation : Invocation) : Bool := invocation.items.isEmpty

/-- Does a comma follow the last argument? -/
def hasTrailingComma (invocation : Invocation) : Bool :=
  invocation.items.getLast?.any fun item => !item.2.isEmpty

/-- The tokens of an invocation. -/
def tokens (invocation : Invocation) : Tokens :=
  invocation.items.flatMap (fun item => item.1.tokens ++ item.2) ++
    (invocation.trailing.map Trailing.tokens).getD []

@[simp] theorem length_arguments (invocation : Invocation) :
    invocation.arguments.length = invocation.size := by
  simp [arguments, size]

open TokenReader

/-- Read arguments with their commas, at most the given number. The list ends at an arrow, at the
end, or after an argument without a comma. -/
def readItems (g : Grammar) : Nat → TokenReader (List (Argument × Tokens))
  | 0 => pure []
  | bound + 1 => do
    let here ← ahead
    if here.isEmpty || here.sees "=>" then pure []
    else
      let argument ← Argument.read g
      if (← ahead).sees "," then
        let comma ← operator ","
        return (argument, comma) :: (← readItems g bound)
      else return [(argument, [])]

/-- Read the block behind an arrow, if there is one. -/
def readTrailing (g : Grammar) : TokenReader (Option Trailing) := do
  if (← ahead).sees "=>" then
    let arrow ← operator "=>"
    return some ⟨arrow, ← g.block⟩
  else pure none

/-- Read an invocation up to the end of the input. -/
def read (g : Grammar) : TokenReader Invocation := do
  let items ← readItems g ((← ahead).size + 1)
  let trailing ← readTrailing g
  if ← atEnd then return ⟨items, trailing⟩ else failWith .strayInput

/-- Read the tokens of an invocation. -/
def ofTokens (tokens : Tokens) : Except SyntaxError Invocation :=
  TokenReader.run (read (Grammar.ofInput tokens)) tokens

end Invocation

end MacroExpansion
