import MacroExpansion.Source.Span

/-!
# Diagnostics

What an expansion reports about its arguments. Reporting does not stop an expansion; whoever reports
goes on to produce nothing.
-/

namespace MacroExpansion

/-- What is wrong with the arguments of a color. -/
inductive ColorFault where
  /-- There is no argument. -/
  | requiresArgument
  /-- The argument is no integer literal. -/
  | requiresIntegerLiteral
  /-- The literal is not of the right form; its text is kept. -/
  | malformedHexadecimal (text : String)
deriving DecidableEq, Repr, Inhabited

namespace ColorFault

/-- The wording of a diagnostic. -/
def message : ColorFault → String
  | requiresArgument => "color! requires a hexadecimal integer literal argument"
  | requiresIntegerLiteral => "color! requires an integer literal"
  | malformedHexadecimal text => "Invalid hexadecimal representation of RGB color: " ++ text

/-- The name of a fault. -/
def name : ColorFault → String
  | requiresArgument => "RequiresArgument"
  | requiresIntegerLiteral => "RequiresIntegerLiteral"
  | malformedHexadecimal _ => "MalformedHexadecimalRepresentation"

end ColorFault

/-- A diagnostic and its place. -/
structure Diagnostic where
  fault : ColorFault
  span : Span
deriving DecidableEq, Repr, Inhabited

namespace Diagnostic

/-- The wording of a diagnostic. -/
def message (diagnostic : Diagnostic) : String := diagnostic.fault.message

end Diagnostic

end MacroExpansion
