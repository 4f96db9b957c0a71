/-!
# The macros

The three macros that can be expanded, the names they are called by, and what a call stands for.
-/

namespace MacroExpansion

/-- What a macro call stands for. -/
inductive Role where
  /-- An expression. -/
  | expression
  /-- A sequence of statements. -/
  | declaration
deriving DecidableEq, Repr, Inhabited

namespace Role

/-- The name of a role. -/
def name : Role → String
  | expression => "Expression"
  | declaration => "Declaration"

end Role

/-- A macro that can be expanded. -/
inductive Builtin where
  /-- A color from a hexadecimal literal, and optionally its space. -/
  | color
  /-- Optional values that are unwrapped in front of a body. -/
  | unwrap
  /-- A binding whose name occurs nowhere else. -/
  | uniqueName
deriving DecidableEq, Repr, Inhabited

namespace Builtin

/-- Every macro, in the order of the catalogue. -/
def all : List Builtin := [color, unwrap, uniqueName]

/-- The name a macro is called by. -/
def name : Builtin → String
  | color => "color"
  | unwrap => "unwrap"
  | uniqueName => "unique_name"

/-- The name of a macro for a programmer. -/
def debug : Builtin → String
  | color => "Color"
  | unwrap => "Unwrap"
  | uniqueName => "UniqueName"

/-- The macro called by a name. -/
def ofName? (name : String) : Option Builtin := all.find? fun kind => kind.name == name

/-- What a call of the macro stands for. -/
def role : Builtin → Role
  | color => .expression
  | unwrap => .declaration
  | uniqueName => .declaration

end Builtin

end MacroExpansion
