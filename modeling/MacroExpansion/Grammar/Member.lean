import MacroExpansion.Grammar.Record

/-!
# Members of traits, implementations and external blocks

Constants, variables, types under another name, macro calls and functions inside a group of items,
and the traits, implementations and external blocks that hold them.
-/

namespace MacroExpansion

namespace Grammar

open TokenReader

/-- A constant behind its keyword. One with parameters or conditions is kept as written, and so is
one without a value where it must have one. -/
def constRest (g : Grammar) (needsValue : Bool) : TokenReader Draft := do
  let constant ← anyWord
  let (_, generic) ← generics? g
  let colon ← operator ":"
  let type ← g.type true
  let value ← ifAhead (·.sees "=") do return (← operator "=") ++ (← g.value)
  let (_, conditional) ← whereClause? g
  let semicolon ← operator ";"
  return ⟨constant :: colon ++ type ++ value ++ semicolon,
    generic || conditional || (needsValue && value.isEmpty)⟩

/-- A constant. -/
def constItem (g : Grammar) : TokenReader Draft := do
  let access ← visibility
  let defaultness ← keyword? "default"
  let head ← keyword "const"
  let here ← ahead
  if here.seesName || here.seesWord "_" then
    let rest ← constRest g true
    return { rest with tokens := access ++ defaultness ++ head ++ rest.tokens }
  else expectedOneOf ["identifier", "`_`"]

/-- A static variable. One without a type or without a value is kept as written. -/
def staticItem (g : Grammar) : TokenReader Draft := do
  let access ← visibility
  let head ← keyword "static"
  let change ← keyword? "mut"
  let global ← name
  let type ← ifAhead (!·.sees "=") do return (← operator ":") ++ (← g.type true)
  let start := access ++ head ++ change ++ global :: type
  if !type.isEmpty && (← ahead).sees ";" then return ⟨start ++ (← operator ";"), true⟩
  else
    let equals ← operator "="
    let value ← g.value
    return ⟨start ++ equals ++ value ++ (← operator ";"), type.isEmpty⟩

/-- Where the conditions of a type under another name may stand. -/
inductive WherePlace where
  | beforeValue
  | behindValue
  | either
deriving DecidableEq, Repr

/-- A type under another name, as all its kinds are read. -/
structure TypeAlias where
  head : Tokens
  /-- Is there a colon? -/
  isBounded : Bool
  /-- The bounds with their colon. -/
  bounds : Tokens
  early : Tokens
  /-- The type with its equals sign. -/
  value : Tokens
  late : Tokens
  semicolon : Tokens

namespace TypeAlias

/-- The tokens of a type under another name. -/
def tokens (type : TypeAlias) : Tokens :=
  type.head ++ type.bounds ++ type.early ++ type.value ++ type.late ++ type.semicolon

/-- The type as it is handed on where it needs a value and has no bounds. -/
def defined (type : TypeAlias) : Draft :=
  ⟨type.tokens, type.isBounded || type.value.isEmpty⟩

end TypeAlias

/-- Read a type under another name behind its visibility. -/
def typeAlias (g : Grammar) (room : WherePlace) : TokenReader TypeAlias := do
  let head ← keyword "type"
  let type ← name
  let generic ← generics g
  let isBounded := (← ahead).sees ":"
  let bounds ← boundsBehindColon (separated "+"
    (fun here => here.seesWord "where" || here.sees "=" || here.sees ";") g.bound)
  let (early, found) ← if room = .behindValue then pure ([], false) else whereClause? g
  let value ← ifAhead (·.sees "=") do return (← operator "=") ++ (← g.type true)
  let late ← if room = .beforeValue || found then pure [] else whereClause g
  return ⟨head ++ type :: generic, isBounded, bounds, early, value, late, ← operator ";"⟩

/-- A type under another name as an item. -/
def typeItem (g : Grammar) : TokenReader Draft := do
  let access ← visibility
  let type := (← typeAlias g .beforeValue).defined
  return { type with tokens := access ++ type.tokens }

/-- Attributes about a group of items and the items in it, each read with `item`. -/
def itemGroup (g : Grammar) (item : TokenReader Tokens) : TokenReader Tokens :=
  grouped .brace do
    return (← innerAttributes g) ++ (← repeatWhile (fun tokens => !tokens.isEmpty) item)

/-- A macro call behind its name and its mark. -/
def macroRest (start : Tokens) : TokenReader Tokens := do
  let body ← anyGroup
  let semicolon ← if body.isBrace then pure [] else operator ";"
  return start ++ body :: semicolon

/-- A macro call in place of an item of a trait, an implementation or an external block. -/
def innerMacro : TokenReader Tokens := do
  let path ← plainPath
  let bang ← operator "!"
  macroRest (path.tokens ++ bang)

/-- The words and marks a macro call may begin with, as an error lists them. -/
def macroForms : List String := ["identifier", "`self`", "`super`", "`crate`", "`::`"]

/-- May a macro call begin here? -/
def seesMacro (tokens : Tokens) : Bool :=
  tokens.seesName || tokens.seesWords ["self", "super", "crate"] || tokens.sees "::"

/-- A constant or a function of a trait behind the word `const`, which is still ahead. -/
def traitConst (g : Grammar) : TokenReader Draft := do
  let next := (← ahead).second
  if next.seesName || next.seesWord "_" then
    let head ← keyword "const"
    let rest ← constRest g false
    return { rest with tokens := head ++ rest.tokens }
  else if next.seesWords ["async", "unsafe", "extern", "fn"] then return ⟨← traitFunction g, false⟩
  else
    let _ ← keyword "const"
    expectedOneOf ["identifier", "`_`", "`async`", "`unsafe`", "`extern`", "`fn`"]

/-- An item of a trait. One that says who may use it or that it is a default is kept as written. -/
def traitItem (g : Grammar) : TokenReader Draft := do
  let access ← visibility
  let defaultness ← keyword? "default"
  let marked := !access.isEmpty || !defaultness.isEmpty
  let here ← ahead
  let draft ←
    if seesSignature false here then
      let function ← traitFunction g
      pure ⟨function, false⟩
    else if here.seesWord "const" then traitConst g
    else if here.seesWord "type" then
      let type ← typeAlias g .behindValue
      pure ⟨type.tokens, false⟩
    else if !marked && seesMacro here then
      let call ← innerMacro
      pure ⟨call, false⟩
    else expectedOneOf (["`fn`", "`const`", "`type`"] ++ if marked then [] else macroForms)
  return { draft with isLoose := draft.isLoose || marked }

/-- Does an item begin with the word `default`, and not with a macro of that name? -/
def seesDefault (tokens : Tokens) : Bool :=
  tokens.seesWord "default" && !tokens.second.sees "!"

/-- What follows the visibility of an item, which is not taken. -/
def behindVisibility : TokenReader (Bool × Tokens) := do
  match ← succeeds visibility with
  | some (access, rest) => return (!access.isEmpty, rest)
  | none =>
    let _ ← visibility
    return (false, ← ahead)

/-- An item of an implementation. -/
def implItem (g : Grammar) : TokenReader Draft := do
  let (isMarked, behind) ← behindVisibility
  let isDefault := seesDefault behind
  let here := if isDefault then behind.second else behind
  if seesSignature false here then functionItem g
  else if here.seesWord "const" then constItem g
  else if here.seesWord "type" then
    let access ← visibility
    let defaultness ← keyword? "default"
    let type := (← typeAlias g .behindValue).defined
    return { type with tokens := access ++ defaultness ++ type.tokens }
  else if !isMarked && !isDefault && seesMacro here then return ⟨← innerMacro, false⟩
  else
    let _ ← visibility
    let _ ← if isDefault then keyword "default" else pure []
    expectedOneOf ((if isDefault then [] else ["`default`"]) ++ ["`fn`", "`const`", "`type`"] ++
      if isMarked || isDefault then [] else macroForms)

/-- What an implementation is of: a trait for a type, or a type alone. Without a trait that a path
names the implementation is kept as written. -/
def implHead (g : Grammar) : TokenReader Draft := do
  let start ← ahead
  let negative ← ifAhead (fun here => here.sees "!" && !here.second.seesGroup .brace)
    (operator "!")
  let first ← g.typeCode true true
  if (← ahead).seesWord "for" then
    let link ← keyword "for"
    let type ← g.type true
    match first.path? with
    | some path => return ⟨negative ++ path.tokens ++ link ++ type, !path.qualifier.isEmpty⟩
    | none => return ⟨[], true⟩
  else if negative.isEmpty then return ⟨first.tokens, false⟩
  else return ⟨← taken start, false⟩

/-- An implementation. One that says who may use it, or that is constant, is kept as written. -/
def implementation (g : Grammar) : TokenReader Draft := do
  let access ← visibility
  let defaultness ← keyword? "default"
  let safety ← keyword? "unsafe"
  let head ← keyword "impl"
  let generic ← ifAhead (·.seesParameters) (generics g)
  let constant ← ifAhead
    (fun here => here.seesWord "const" || (here.sees "?" && here.second.seesWord "const")) do
    return (← operator? "?") ++ (← keyword "const")
  let target ← implHead g
  let conditions ← whereClause g
  let items ← itemGroup g (withAttributes g (implItem g))
  return ⟨defaultness ++ safety ++ head ++ generic ++ target.tokens ++ conditions ++ items,
    !access.isEmpty || !constant.isEmpty || target.isLoose⟩

/-- A trait behind its parameters. -/
def traitRest (g : Grammar) (start : Tokens) : TokenReader Tokens := do
  let bounds ← boundsBehindColon (separated "+"
    (fun here => here.seesWord "where" || here.seesGroup .brace) g.bound)
  let conditions ← whereClause g
  return start ++ bounds ++ conditions ++ (← itemGroup g (withAttributes g (traitItem g)))

/-- Another name for a sum of traits, behind its parameters. -/
def traitAlias (g : Grammar) (start : Tokens) : TokenReader Tokens := do
  let equals ← operator "="
  let bounds ← separated "+" (fun here => here.seesWord "where" || here.sees ";") g.bound
  let conditions ← whereClause g
  return start ++ equals ++ bounds ++ conditions ++ (← operator ";")

/-- A trait, or another name for a sum of traits if it has no modifiers. -/
def traitDefinition (g : Grammar) : TokenReader Tokens := do
  let access ← visibility
  let safety ← keyword? "unsafe"
  let automatic ← keyword? "auto"
  let head ← keyword "trait"
  let trait ← name
  let generic ← generics g
  let start := access ++ safety ++ automatic ++ head ++ trait :: generic
  let here ← ahead
  if !safety.isEmpty || !automatic.isEmpty || here.seesGroup .brace || here.sees ":" ||
      here.seesWord "where" then
    traitRest g start
  else if here.sees "=" then traitAlias g start
  else expectedOneOf ["curly braces", "`:`", "`where`", "`=`"]

/-- A function declared in an external block. One with a body, or marked as safe, is kept as
written. -/
def foreignFunction (g : Grammar) : TokenReader Draft := do
  let access ← visibility
  let (head, isSafe) ← signature g true
  if (← ahead).seesGroup .brace then return ⟨access ++ head ++ (← bodyTokens g), true⟩
  else return ⟨access ++ head ++ (← operator ";"), isSafe⟩

/-- A variable declared in an external block. One with a value or a mark of safety is kept as
written. -/
def foreignStatic (g : Grammar) : TokenReader Draft := do
  let access ← visibility
  let safety ← if (← ahead).seesWord "safe" then keyword "safe" else keyword? "unsafe"
  let head ← keyword "static"
  let change ← keyword? "mut"
  let global ← name
  let colon ← operator ":"
  let type ← g.type true
  let value ← ifAhead (·.sees "=") do return (← operator "=") ++ (← g.value)
  return ⟨access ++ head ++ change ++ global :: colon ++ type ++ (← operator ";"),
    !safety.isEmpty || !value.isEmpty⟩

/-- A declaration in an external block. -/
def foreignItem (g : Grammar) : TokenReader Draft := do
  let (isMarked, here) ← behindVisibility
  if seesSignature true here then foreignFunction g
  else if here.seesWord "static" ||
      (here.seesWords ["unsafe", "safe"] && here.second.seesWord "static") then
    foreignStatic g
  else if here.seesWord "type" then
    let access ← visibility
    let type ← typeAlias g .either
    return ⟨access ++ type.tokens, type.isBounded || !type.value.isEmpty⟩
  else if !isMarked && seesMacro here then return ⟨← innerMacro, false⟩
  else
    let _ ← visibility
    expectedOneOf (["`fn`", "`static`", "`type`"] ++ if isMarked then [] else macroForms)

end Grammar

end MacroExpansion
