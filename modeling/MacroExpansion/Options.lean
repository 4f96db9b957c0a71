import MacroExpansion.Grammar.Rules

/-!
# Options

How a body is emitted and where generated code finds the runtime. An option is given as a text, a
key and, behind the first equals sign, a value.
-/

namespace MacroExpansion

/-- How the body of an unwrapping is emitted behind its guards. -/
inductive Strategy where
  /-- Statement by statement, so that jumps in it leave the surrounding function. -/
  | inline
  /-- As a closure that is called at once, so that `return` only ends the body. -/
  | closure
deriving DecidableEq, Repr, Inhabited

namespace Strategy

/-- The name of a strategy as a value of its option. -/
def name : Strategy → String
  | inline => "inline"
  | closure => "closure"

/-- The name of a strategy for a programmer. -/
def debug : Strategy → String
  | inline => "Inline"
  | closure => "Closure"

/-- The strategy with the given name. -/
def ofName? (name : String) : Option Strategy :=
  [inline, closure].find? fun strategy => strategy.name == name

end Strategy

/-- Why an option was refused. -/
inductive OptionError where
  /-- No option has this key; the whole text is kept. -/
  | unsupportedOption (option : String)
  /-- The option has no such value. -/
  | unsupportedValue (key value : String)
deriving DecidableEq, Repr

namespace OptionError

/-- The wording of a refusal. -/
def message : OptionError → String
  | unsupportedOption option => "Unsupported option `" ++ option ++ "`"
  | unsupportedValue key value =>
    "Unsupported value `" ++ value ++ "` for option `" ++ key ++ "`"

end OptionError

/-- What is fixed before anything is expanded. -/
structure Options where
  strategy : Strategy := .inline
  /-- The path of the runtime. -/
  module : Path := .absolute ["freestanding"]
deriving Inhabited

namespace Options

/-- The key of the strategy. -/
def strategyKey : String := "unwrap-strategy"

/-- Cut a text at its first equals sign: what is before it, and what is behind it if there is
one. -/
def split (text : List Char) : List Char × Option (List Char) :=
  match text.dropWhile (· ≠ '=') with
  | [] => (text, none)
  | _ :: value => (text.takeWhile (· ≠ '='), some value)

/-- Take over one option. -/
def set (options : Options) (option : String) : Except OptionError Options :=
  let (key, value) := split option.toList
  if String.ofList key = strategyKey then
    match value with
    | none => .ok { options with strategy := .inline }
    | some value =>
      match Strategy.ofName? (String.ofList value) with
      | some strategy => .ok { options with strategy := strategy }
      | none => .error (.unsupportedValue strategyKey (String.ofList value))
  else .error (.unsupportedOption option)

/-- Take over an option if it is accepted; a refused one changes nothing. -/
def setOrKeep (options : Options) (option : String) : Options :=
  match options.set option with
  | .ok options => options
  | .error _ => options

/-- Take over options in a row. Each step gives the options after it and why it was refused. -/
def setAll (options : Options) : List String → List (Options × Option OptionError)
  | [] => []
  | option :: rest =>
    match options.set option with
    | .ok options => (options, none) :: setAll options rest
    | .error error => (options, some error) :: setAll options rest

end Options

end MacroExpansion
