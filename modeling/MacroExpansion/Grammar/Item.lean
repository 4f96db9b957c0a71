import MacroExpansion.Grammar.Member

/-!
# Items

Imports, modules and what else may stand in a body beside statements. Items are recognised and
handed on as tokens.
-/

namespace MacroExpansion

namespace Grammar

open TokenReader

/-- The choices of an import, and whether one of them begins at the root. -/
def useChoices (g : Grammar) (root : Bool) : TokenReader (Tokens × Bool) := do
  go ((← ahead).size + 1)
where
  /-- Read at most the given number of choices. -/
  go : Nat → TokenReader (Tokens × Bool)
    | 0 => pure ([], false)
    | bound + 1 => do
      if ← atEnd then pure ([], false)
      else
        let leading ← ifAhead (fun here => root && here.sees "::") (operator "::")
        let (tree, rooted) ← g.useTree (root && leading.isEmpty)
        let found := rooted || !leading.isEmpty
        if ← atEnd then return (leading ++ tree, found)
        else
          let comma ← operator ","
          let (more, later) ← go bound
          return (leading ++ tree ++ comma ++ more, found || later)

/-- What is imported: a path that ends with a name, everything, or a choice. -/
def useTreeRule (g : Grammar) (root : Bool) : TokenReader (Tokens × Bool) := do
  let here ← ahead
  if here.seesName || here.seesWords ["self", "super", "crate", "try"] then
    let step ← anyWord
    let here ← ahead
    if here.sees "::" then
      let separator ← operator "::"
      let (tree, _) ← g.useTree false
      return (step :: separator ++ tree, false)
    else if here.seesWord "as" then
      let link ← keyword "as"
      let here ← ahead
      if here.seesName || here.seesWord "_" then return (step :: link ++ [← anyWord], false)
      else expected "identifier or underscore"
    else return ([step], false)
  else if here.sees "*" then return (← operator "*", false)
  else if here.seesGroup .brace then
    let ((choices, rooted), span) ← group .brace (useChoices g root)
    return ([.group .brace choices span], rooted)
  else
    expectedOneOf ["identifier", "`self`", "`super`", "`crate`", "`try`", "`*`", "curly braces"]

/-- An import. One with a choice that begins at the root is kept as written. -/
def useItem (g : Grammar) : TokenReader Draft := do
  let access ← visibility
  let head ← keyword "use"
  let leading ← operator? "::"
  let (tree, rooted) ← g.useTree leading.isEmpty
  return ⟨access ++ head ++ leading ++ tree ++ (← operator ";"), rooted⟩

/-- A module, with its content or elsewhere. -/
def modItem (g : Grammar) : TokenReader Tokens := do
  let access ← visibility
  let safety ← keyword? "unsafe"
  let head ← keyword "mod"
  let module ← if (← ahead).seesWord "try" then anyWord else name
  let start := access ++ safety ++ head ++ [module]
  let here ← ahead
  if here.sees ";" then return start ++ (← operator ";")
  else if here.seesGroup .brace then return start ++ (← itemGroup g g.item)
  else expectedOneOf ["`;`", "curly braces"]

/-- A macro call in place of an item. It may name what it defines. -/
def macroItem : TokenReader Tokens := do
  let path ← plainPath
  let bang ← operator "!"
  let defined ← ifAhead (fun here => here.seesName || here.seesWord "try") do
    return [← anyWord]
  macroRest (path.tokens ++ bang ++ defined)

/-- An external crate. -/
def crateItem : TokenReader Tokens := do
  let access ← visibility
  let head ← keyword "extern"
  let crate ← keyword "crate"
  let library ← if (← ahead).seesWord "self" then anyWord else name
  let rename ← ifAhead (·.seesWord "as") do
    let link ← keyword "as"
    return link ++ [← if (← ahead).seesWord "_" then anyWord else name]
  return access ++ head ++ crate ++ library :: rename ++ (← operator ";")

/-- An external block. Nothing may be said of who may use it. -/
def foreignBlock (g : Grammar) : TokenReader Tokens := do
  let safety ← keyword? "unsafe"
  let calling ← if (← ahead).seesWord "extern" then convention else keyword "extern"
  return safety ++ calling ++ (← itemGroup g (withAttributes g (foreignItem g)))

/-- An item that begins with `extern` behind its visibility. -/
def externItem (g : Grammar) (behind : Tokens) : TokenReader Tokens := do
  let next := behind.second
  if next.seesWord "crate" then crateItem
  else if next.seesGroup .brace || (next.seesString && next.second.seesGroup .brace) then
    foreignBlock g
  else
    let _ ← visibility
    let _ ← keyword "extern"
    if next.seesString then
      let _ ← literal
      expected "curly braces"
    else expectedOneOf ["`crate`", "curly braces", "string literal"]

/-- A macro defined in place, which is kept as written. -/
def macroDefinition : TokenReader Draft := do
  let _ ← visibility
  let _ ← keyword "macro"
  let _ ← name
  let here ← ahead
  if here.seesGroup .parenthesis then
    let _ ← group .parenthesis everything
    let _ ← group .brace everything
    return ⟨[], true⟩
  else if here.seesGroup .brace then
    let _ ← group .brace everything
    return ⟨[], true⟩
  else expectedOneOf ["parentheses", "curly braces"]

/-- The words an item may begin with, as an error lists them. -/
def itemForms : List String :=
  ["`fn`", "`extern`", "`use`", "`static`", "`const`", "`unsafe`", "`mod`", "`type`", "`struct`",
    "`enum`", "`union`", "`trait`", "`auto`", "`impl`", "`default`", "`macro`"]

/-- An item that is handed on in its own form. -/
def settled (item : TokenReader Tokens) : TokenReader Draft := do
  return ⟨← item, false⟩

/-- An item that begins with `unsafe` behind its visibility and is no function. -/
def unsafeItem (g : Grammar) (behind : Tokens) : TokenReader Draft := do
  let next := behind.second
  if next.seesWord "trait" || (next.seesWord "auto" && next.second.seesWord "trait") then
    settled (traitDefinition g)
  else if next.seesWord "impl" then implementation g
  else if next.seesWord "extern" then settled (foreignBlock g)
  else if next.seesWord "mod" then settled (modItem g)
  else
    let _ ← visibility
    let _ ← keyword "unsafe"
    expectedOneOf (["`trait`"] ++ (if next.seesWord "auto" then [] else ["`auto`"]) ++
      ["`impl`", "`extern`", "`mod`"])

/-- The forms that an error does not list because their first word is there. -/
def isForm (behind : Tokens) (form : String) : Bool :=
  ["union", "auto", "default"].any fun word =>
    behind.seesWord word && form == "`" ++ word ++ "`"

/-- An item behind its attributes. -/
def itemRest (g : Grammar) : TokenReader Draft := do
  let (isMarked, here) ← behindVisibility
  if seesSignature false here then functionItem g
  else if here.seesWord "extern" then settled (externItem g here)
  else if here.seesWord "use" then useItem g
  else if here.seesWord "static" then staticItem g
  else if here.seesWord "const" then constItem g
  else if here.seesWord "unsafe" then unsafeItem g here
  else if here.seesWord "mod" then settled (modItem g)
  else if here.seesWord "type" then typeItem g
  else if here.seesWord "struct" then settled (structItem g)
  else if here.seesWord "enum" then settled (enumItem g)
  else if here.seesWord "union" && here.second.seesName then settled (unionItem g)
  else if here.seesWord "trait" then settled (traitDefinition g)
  else if here.seesWord "auto" && here.second.seesWord "trait" then settled (traitDefinition g)
  else if here.seesWord "impl" || seesDefault here then implementation g
  else if here.seesWord "macro" then macroDefinition
  else if !isMarked && seesMacro here then settled macroItem
  else
    let _ ← visibility
    expectedOneOf ((itemForms.filter fun form => !isForm here form) ++
      if isMarked then [] else macroForms)

/-- An item with its attributes. -/
def itemRule (g : Grammar) : TokenReader Tokens := withAttributes g (itemRest g)

end Grammar

end MacroExpansion
