import MacroExpansion.Catalogue
import MacroExpansion.Color.Literal
import MacroExpansion.Options

/-!
# Traces

What happened, in order. Entering a step of an expansion opens a span; what the step found out is an
event. `Event.record` is the form in which a subscriber sees them.
-/

namespace MacroExpansion

namespace Trace

/-- Something that happened. -/
inductive Event where
  /-- An invocation of the macro is being expanded. -/
  | expanding (kind : Builtin)
  /-- A color with this many arguments is being expanded. -/
  | color (arguments : Nat)
  /-- Arguments behind the literal are passed over. -/
  | ignoring (count : Nat)
  /-- The literal is a color. -/
  | validated (channels : Rgb)
  /-- An unwrapping with this many arguments is being expanded. -/
  | unwrap (arguments : Nat) (strategy : Strategy)
  /-- All guards are there. -/
  | guards (count : Nat)
  /-- A unique name is being expanded. -/
  | uniqueName
  /-- A name was handed out. -/
  | allocated (name : String)
  /-- A diagnostic was reported. -/
  | reported (message : String)
  /-- Running code could not unwrap a value. -/
  | failedUnwrapping (message file : String) (line : Nat)
deriving DecidableEq, Repr

/-- How important an event is. -/
inductive Level where
  | trace
  | info
  | error
deriving DecidableEq, Repr

namespace Level

/-- The name of a level. -/
def name : Level → String
  | trace => "TRACE"
  | info => "INFO"
  | error => "ERROR"

end Level

/-- An event as a subscriber sees it. Only spans have a name. -/
structure Record where
  span : Option String
  level : Level
  target : String
  fields : List (String × String)
deriving DecidableEq, Repr

/-- A natural number as a field. -/
def count (n : Nat) : String := Layout.numeral n

/-- The part of the engine that reports. -/
def engine (part : String) : String := "freestanding_expand::" ++ part

/-- The span of a step. -/
def step (part : String) (fields : List (String × String)) : Record :=
  ⟨some "expand", .info, engine part, fields⟩

/-- An event of a step. -/
def detail (part : String) (fields : List (String × String)) : Record :=
  ⟨none, .trace, engine part, fields⟩

namespace Event

/-- An event as a subscriber sees it. -/
def record : Event → Record
  | expanding kind => step "registry" [("kind", kind.debug)]
  | color arguments => step "color" [("arguments", count arguments)]
  | ignoring ignored =>
    detail "color" [("ignored", count ignored), ("message", "ignoring trailing arguments")]
  | validated channels =>
    detail "color" [("channels", channels.debug), ("message", "validated")]
  | unwrap arguments strategy =>
    step "unwrap" [("arguments", count arguments), ("strategy", strategy.debug)]
  | guards number => detail "unwrap" [("guards", count number)]
  | uniqueName => step "unique_name" []
  | allocated name => detail "unique_name" [("message", "allocated"), ("name", name)]
  | reported message =>
    detail "context" [("diagnostic", message), ("message", "report")]
  | failedUnwrapping message file line =>
    ⟨none, .error, "freestanding::report",
      [("file", file), ("line", count line), ("message", message)]⟩

end Event

end Trace

/-- What generated code calls when a value cannot be unwrapped: one event with the message and the
place of the invocation. -/
def reportFailedUnwrapping (message file : String) (line : Nat) : List Trace.Event :=
  [.failedUnwrapping message file line]

end MacroExpansion
