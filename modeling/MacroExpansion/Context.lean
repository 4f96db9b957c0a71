import MacroExpansion.Diagnostic
import MacroExpansion.Trace

/-!
# The context of an expansion

A context collects diagnostics, hands out unique names and keeps the trace. Several expansions may
share one. Diagnostics stay pending until they are taken; the number of names handed out never goes
down, so no name is handed out twice.
-/

namespace MacroExpansion

/-- The place of an invocation as generated code sees it. -/
inductive Location where
  /-- Already known. -/
  | fixed (file : String) (line : Nat)
  /-- For the compiler to find out. -/
  | deferred (span : Span)
deriving DecidableEq, Repr

/-- What expansions share. -/
structure Context where
  /-- The invocation as a whole. -/
  site : Span := .callSite
  /-- The file and the line that every location resolves to, if they are known. -/
  place : Option (String × Nat) := none
  /-- Diagnostics reported and not yet taken, oldest first. -/
  pending : List Diagnostic := []
  /-- How many names have been asked for. -/
  names : Nat := 0
  /-- What has happened, oldest first. -/
  trace : List Trace.Event := []
deriving Repr, Inhabited

namespace Context

/-- Note what happened. -/
def note (context : Context) (event : Trace.Event) : Context :=
  { context with trace := context.trace ++ [event] }

/-- Report a diagnostic. -/
def report (context : Context) (diagnostic : Diagnostic) : Context :=
  { context with
    pending := context.pending ++ [diagnostic]
    trace := context.trace ++ [.reported diagnostic.message] }

/-- Is a diagnostic pending? -/
def hasDiagnostics (context : Context) : Bool := !context.pending.isEmpty

/-- Take the pending diagnostics. -/
def take (context : Context) : List Diagnostic × Context :=
  (context.pending, { context with pending := [] })

/-- Where the invocation is. -/
def location (context : Context) : Location :=
  match context.place with
  | some (file, line) => .fixed file line
  | none => .deferred context.site

/-- The name that the allocation with the given number gives to a hint. -/
def uniqueName (hint : String) (number : Nat) : String :=
  "__" ++ hint ++ "_" ++ Layout.numeral number

/-- Ask for a name. The request counts even if the name turns out to be none. -/
def allocate (context : Context) (hint : String) : String × Context :=
  (uniqueName hint context.names, { context with names := context.names + 1 })

@[simp] theorem pending_note (context : Context) (event : Trace.Event) :
    (context.note event).pending = context.pending := rfl

@[simp] theorem names_note (context : Context) (event : Trace.Event) :
    (context.note event).names = context.names := rfl

@[simp] theorem place_note (context : Context) (event : Trace.Event) :
    (context.note event).place = context.place := rfl

@[simp] theorem pending_report (context : Context) (diagnostic : Diagnostic) :
    (context.report diagnostic).pending = context.pending ++ [diagnostic] := rfl

@[simp] theorem names_report (context : Context) (diagnostic : Diagnostic) :
    (context.report diagnostic).names = context.names := rfl

@[simp] theorem pending_allocate (context : Context) (hint : String) :
    (context.allocate hint).2.pending = context.pending := rfl

@[simp] theorem names_allocate (context : Context) (hint : String) :
    (context.allocate hint).2.names = context.names + 1 := rfl

@[simp] theorem hasDiagnostics_take (context : Context) :
    context.take.2.hasDiagnostics = false := rfl

end Context

end MacroExpansion
