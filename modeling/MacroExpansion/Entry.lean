import MacroExpansion.Expand.Render
import MacroExpansion.Manifest
import MacroExpansion.Text.Name

/-!
# Macro calls of a package

A macro call in the code of a package is expanded in a context of its own. Where generated code
finds the runtime is read off the manifest of the package; without a manifest, or without a mention
of the runtime in it, the runtime has its usual name.
-/

namespace MacroExpansion

namespace Entry

/-- The package that holds the runtime. -/
def runtimePackage : String := "freestanding"

/-- The strategy of a build, which may have the feature that calls bodies as closures. -/
def strategy (closures : Bool) : Strategy := if closures then .closure else .inline

/-- Where the code of a macro call stands. -/
structure Environment where
  /-- The text of the manifest, if there is one. -/
  manifest : Option String := none
  /-- Is the code an integration test? -/
  integrationTest : Bool := false

/-- Why a name cannot lead a path. -/
inductive PathFault where
  /-- It is no name. -/
  | notName (fault : NameFault)
  /-- The language reserves it. -/
  | reserved (error : SyntaxError)
deriving DecidableEq, Repr

namespace PathFault

/-- The wording of a fault. -/
def message : PathFault → String
  | notName fault => fault.message
  | reserved error => error.message

end PathFault

/-- The path that leads to a package with the given name. -/
def pathTo (name : String) : Except PathFault Path :=
  match NameFault.ofText? name with
  | some fault => .error (.notName fault)
  | none => (Path.ofTokens (Tokens.symbol "::" ++ [.word name])).mapError .reserved

/-- How code in an environment sees the runtime. Nothing is known without a readable manifest. -/
def runtime? (environment : Environment) : Option Seen :=
  (environment.manifest.bind Manifest.ofText?).bind fun manifest =>
    manifest.see? environment.integrationTest runtimePackage

/-- The options for code in an environment. -/
def options (environment : Environment) (strategy : Strategy) : Except PathFault Options :=
  match runtime? environment with
  | some (.named name) => (pathTo name).map fun module => ⟨strategy, module⟩
  | _ => .ok { strategy := strategy }

/-- Expand a macro call in the code of a package. -/
def render (kind : Builtin) (environment : Environment) (strategy : Strategy) (tokens : Tokens) :
    Except PathFault (Tokens × Context) :=
  (options environment strategy).map fun options => kind.render options tokens {}

end Entry

end MacroExpansion
