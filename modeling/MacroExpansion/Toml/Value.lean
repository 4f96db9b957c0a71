/-!
# Configuration values

The values of a configuration text. A table remembers how it came about, because that decides what
may still be added to it. Entries keep the order in which they were defined.
-/

namespace MacroExpansion

namespace Toml

/-- How a table came about. -/
inductive Origin where
  /-- By a header of its own. -/
  | explicit
  /-- On the way of another table's header. -/
  | implied
  /-- By a key with dots. -/
  | dotted
deriving DecidableEq, Repr

/-- A value, a table, or a row of tables under one key. -/
inductive Value where
  | string (text : String)
  | integer (value : Int)
  | float (text : String)
  | boolean (value : Bool)
  | dateTime (text : String)
  | array (elements : List Value)
  /-- A table written as a value, or made by a key with dots inside one. -/
  | inlineTable (dotted : Bool) (entries : List (String × Value))
  | table (origin : Origin) (entries : List (String × Value))
  | tables (rows : List (List (String × Value)))
deriving Repr, Inhabited

/-- The entries of a table in the order of their definition. -/
abbrev Entries := List (String × Value)

namespace Entries

/-- The value under a key. -/
def find? (entries : Entries) (key : String) : Option Value :=
  (List.find? (fun entry => entry.1 == key) entries).map (·.2)

/-- Replace the value under a key where it stands. -/
def replace (entries : Entries) (key : String) (value : Value) : Entries :=
  entries.map fun entry => if entry.1 == key then (key, value) else entry

/-- Remove a key. -/
def remove (entries : Entries) (key : String) : Entries :=
  entries.filter fun entry => entry.1 != key

/-- Define a key that is not there yet. -/
def define? (entries : Entries) (key : String) (value : Value) : Option Entries :=
  if (find? entries key).isSome then none else some (entries ++ [(key, value)])

/-- Define a key under a path of keys with dots. The tables on the way are made where they are
missing. A table with a header takes no more keys this way, nor does a value. -/
def put? (key : String) (value : Value) : List String → Entries → Option Entries
  | [], entries => define? entries key value
  | step :: path, entries =>
    match find? entries step with
    | none => (put? key value path []).map fun inner => entries ++ [(step, .table .dotted inner)]
    | some (.table origin inner) =>
      if origin = .explicit || (path.isEmpty && origin = .implied) then none
      else
        (put? key value path inner).map fun inner => replace entries step (.table origin inner)
    | some (.tables rows) =>
      if path.isEmpty then none
      else
        (put? key value path (rows.getLast?.getD [])).map fun row =>
          replace entries step (.tables (rows.dropLast ++ [row]))
    | some _ => none

/-- Define a key under a path of keys with dots inside an inline table. -/
def putInline? (key : String) (value : Value) : List String → Entries → Option Entries
  | [], entries => define? entries key value
  | step :: path, entries =>
    match find? entries step with
    | none =>
      (putInline? key value path []).map fun inner => entries ++ [(step, .inlineTable true inner)]
    | some (.inlineTable true inner) =>
      (putInline? key value path inner).map fun inner =>
        replace entries step (.inlineTable true inner)
    | some _ => none

/-- Change the table at a path. The tables on the way are made where they are missing, and of a row
of tables the last one is taken. -/
def update? (change : Entries → Option Entries) : List String → Entries → Option Entries
  | [], entries => change entries
  | step :: path, entries =>
    match find? entries step with
    | none => (update? change path []).map fun inner => entries ++ [(step, .table .implied inner)]
    | some (.table origin inner) =>
      (update? change path inner).map fun inner => replace entries step (.table origin inner)
    | some (.tables rows) =>
      (update? change path (rows.getLast?.getD [])).map fun row =>
        replace entries step (.tables (rows.dropLast ++ [row]))
    | some _ => none

end Entries

/-- A key with its path, and the value it is given. -/
structure Assignment where
  path : List String
  key : String
  value : Value

namespace Entries

/-- Make assignments in order. -/
def assign? (entries : Entries) (assignments : List Assignment) : Option Entries :=
  assignments.foldlM (fun entries a => put? a.key a.value a.path entries) entries

end Entries

/-- A header and the assignments below it. -/
structure Section where
  path : List String
  key : String
  /-- Is it a further row of tables? -/
  row : Bool
  assignments : List Assignment

namespace Section

/-- Define a table by its header. One that was only implied so far is made explicit and moves to
the end. -/
def defineTable (header : Section) (parent : Entries) : Option Entries :=
  match parent.find? header.key with
  | none =>
    (Entries.assign? [] header.assignments).map fun entries =>
      parent ++ [(header.key, .table .explicit entries)]
  | some (.table .implied entries) =>
    (Entries.assign? entries header.assignments).map fun entries =>
      parent.remove header.key ++ [(header.key, .table .explicit entries)]
  | some _ => none

/-- Add a row to a row of tables. -/
def defineRow (header : Section) (parent : Entries) : Option Entries :=
  (Entries.assign? [] header.assignments).bind fun entries =>
    match parent.find? header.key with
    | none => some (parent ++ [(header.key, .tables [entries])])
    | some (.tables rows) => some (parent.replace header.key (.tables (rows ++ [entries])))
    | some _ => none

/-- Add a section to a document. -/
def addTo? (header : Section) (document : Entries) : Option Entries :=
  Entries.update? (if header.row then header.defineRow else header.defineTable) header.path
    document

end Section

namespace Value

/-- The text of a string. -/
def string? : Value → Option String
  | string text => some text
  | _ => none

/-- The entries of a table that is not written as a value. -/
def table? : Value → Option Entries
  | table _ entries => some entries
  | _ => none

/-- The value under a key, in a table of either kind. -/
def get? (key : String) : Value → Option Value
  | table _ entries => Entries.find? entries key
  | inlineTable _ entries => Entries.find? entries key
  | _ => none

end Value

end Toml

end MacroExpansion
