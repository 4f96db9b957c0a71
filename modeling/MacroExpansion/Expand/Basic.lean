import MacroExpansion.Context
import MacroExpansion.Invocation

/-!
# Expanding

An expander works in a context and may fail. A failure stops the expansion and leaves no part of it;
what happened in the context before it stays. Reporting a diagnostic is no failure.
-/

namespace MacroExpansion

/-- How an invocation misuses a macro. -/
inductive Misuse where
  /-- A second body argument. -/
  | repeatedBody
  /-- A body argument and a block behind the arguments. -/
  | twoBodies
  /-- No body at all. -/
  | noBody
  /-- A body closure with parameters. -/
  | bodyParameters
  /-- A body that is neither a closure nor a block. -/
  | wrongBody
  /-- A value that is no plain name. -/
  | notAName
  /-- An argument where none is taken. -/
  | unexpectedArgument
deriving DecidableEq, Repr

namespace Misuse

/-- The wording of a misuse. -/
def message : Misuse → String
  | repeatedBody => "unwrap! accepts a single `body` argument"
  | twoBodies => "unwrap! accepts either a `body` argument or a trailing block, not both"
  | noBody => "unwrap! requires a `body` argument or a trailing block"
  | bodyParameters => "unwrap! body closures take no arguments"
  | wrongBody =>
    "unwrap! body must be a closure `|| \x7b .. \x7d` or a block `\x7b .. \x7d`"
  | notAName => "unwrap! arguments must be plain identifiers"
  | unexpectedArgument => "unique_name! takes no arguments"

end Misuse

/-- Why there is no expansion. -/
inductive Failure where
  /-- Code cannot be read: the arguments, or what is put together from them. -/
  | unreadable (error : SyntaxError)
  /-- The arguments can be read and make no sense. -/
  | misuse (reason : Misuse) (span : Span)
deriving DecidableEq, Repr

namespace Failure

/-- The wording of a failure. -/
def message : Failure → String
  | unreadable error => error.message
  | misuse reason _ => reason.message

/-- Where a failure is reported. -/
def span : Failure → Span
  | unreadable error => error.span
  | misuse _ span => span

end Failure

/-- A computation that works in a context and may fail. What it did to the context stays. -/
abbrev Expand := ExceptT Failure (StateM Context)

namespace Expand

variable {α : Type}

/-- Note what happened. -/
def note (event : Trace.Event) : Expand Unit := modify (·.note event)

/-- Report a diagnostic. -/
def report (fault : ColorFault) (span : Span) : Expand Unit := modify (·.report ⟨fault, span⟩)

/-- Ask for a name. -/
def allocate (hint : String) : Expand String := modifyGet (·.allocate hint)

/-- Fail because of a misuse. -/
def fail (misuse : Misuse) (span : Span) : Expand α := throw (.misuse misuse span)

/-- Go on with a result, or fail the way it does. -/
def ofExcept (result : Except Failure α) : Expand α := ExceptT.mk (pure result)

/-- Run in a context: the result, and the context after it. -/
def runIn (computation : Expand α) (context : Context) : Except Failure α × Context :=
  computation.run.run context

end Expand

/-- What a macro call is replaced by. -/
inductive Expansion where
  | expr (value : Expr)
  | statements (list : List Stmt)
  /-- Nothing; diagnostics say why. -/
  | empty
deriving Inhabited

namespace Expansion

/-- The tokens of a replacement. -/
def tokens : Expansion → Tokens
  | expr value => value.tokens
  | statements list => list.flatMap Stmt.tokens
  | empty => []

/-- Is there no replacement? An empty list of statements is one. -/
def isEmpty : Expansion → Bool
  | empty => true
  | _ => false

end Expansion

/-! Paths that generated code uses. -/

namespace Runtime

/-- The constructor of colors. -/
def newColor (module : Path) : Path := module.extend ["Color", "new"]

/-- The color space of a color without an explicit one. -/
def defaultSpace (module : Path) : Path := module.extend ["ColorSpace", "Srgb"]

/-- The report of a value that could not be unwrapped. -/
def report (module : Path) : Path := module.extend ["report_failed_unwrapping"]

/-- The constructor of values that are there. -/
def some : Path := .absolute ["core", "option", "Option", "Some"]

/-- The macro for the current file. -/
def file : Path := .absolute ["core", "file"]

/-- The macro for the current line. -/
def line : Path := .absolute ["core", "line"]

/-- The macro that makes compilation fail with a message. -/
def compileError : Path := .absolute ["core", "compile_error"]

end Runtime

/-- A made-up macro call. -/
def callMacro (path : Path) (delimiter : Delimiter) (arguments : Tokens) : Tokens :=
  path.tokens ++ Tokens.symbol "!" ++ [.enclosed delimiter arguments]

namespace Location

/-- An expression for the file of a location. -/
def fileTokens : Location → Tokens
  | fixed file _ => [.string file]
  | deferred _ => callMacro Runtime.file .parenthesis []

/-- An expression for the line of a location. -/
def lineTokens : Location → Tokens
  | fixed _ line => [.number line]
  | deferred _ => callMacro Runtime.line .parenthesis []

end Location

end MacroExpansion
