import MacroExpansion.Text.Identifier
import MacroExpansion.Text.Quoted

/-!
# Names made from text

A text becomes a name only if it is an identifier. Otherwise the fault says what it is instead.
-/

namespace MacroExpansion

/-- Why a text cannot become a name. -/
inductive NameFault where
  /-- It has no character. -/
  | empty
  /-- It consists of digits. -/
  | number
  /-- It is no identifier for another reason. -/
  | notIdentifier (text : String)
deriving DecidableEq, Repr

namespace NameFault

/-- The wording of a fault. -/
def message : NameFault → String
  | empty => "Ident is not allowed to be empty; use Option<Ident>"
  | number => "Ident cannot be a number; use Literal instead"
  | notIdentifier text => Quoted.quote .shown text ++ " is not a valid Ident"

/-- What keeps a text from becoming a name, if anything does. -/
def ofText? (text : String) : Option NameFault :=
  if Identifier.isIdentifier text.toList then none
  else if text.toList.isEmpty then some empty
  else if text.toList.all Char.isDigit then some number
  else some (notIdentifier text)

/-- Exactly the identifiers become names. -/
theorem ofText?_eq_none_iff (text : String) :
    ofText? text = none ↔ Identifier.isIdentifier text.toList = true := by
  unfold ofText?
  split
  · simp_all
  · split
    · simp_all
    · split <;> simp_all

end NameFault

end MacroExpansion
