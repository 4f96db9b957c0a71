import MacroExpansion.Token.Basic

/-!
# What is wrong with the code

A syntax error names a cause and the place where reading could not go on. The wording of every cause
is in `SyntaxError.message`.
-/

namespace MacroExpansion

/-- Why code could not be read. -/
inductive SyntaxCause where
  /-- Something else was expected here. -/
  | missing (what : String)
  /-- Something was expected, and the code ended. -/
  | missingAtEnd (what : String)
  /-- A name was expected, and a reserved word was found. -/
  | reserved (word : String)
  /-- A group whose content was complete goes on. -/
  | leftover (group : Delimiter)
  /-- A statement in front of another one lacks its semicolon. -/
  | unterminated
  /-- A comparison of a comparison. -/
  | chainedComparison
  /-- The invocation goes on after its last part. -/
  | strayInput
  /-- An attribute in front of a range without a start. -/
  | attributeOnRange
  /-- A cast may not be followed by what follows it here. -/
  | afterCast (what : String)
  /-- A labelled loop as the value of a `break` needs parentheses. -/
  | bareLabel
  /-- The position of a member may not have a suffix. -/
  | suffixedMember
  /-- The position of a member has no room in 32 bits. -/
  | largeMember
  /-- The position of a member has a sign. -/
  | signedMember
  /-- An attribute inside an attribute. -/
  | nestedAttribute
  /-- A range without a start or an end inside a slice pattern. -/
  | openRange
  /-- A type of objects is given by lifetimes only. -/
  | objectWithoutTrait
  /-- A type behind `impl` is given by no trait. -/
  | implWithoutTrait
  /-- A bound that may not be made here. -/
  | misplacedBound (what : String)
  /-- A bound that binds lifetimes and is taken back. -/
  | binderWithModifier
  /-- Generic parameters behind `where`. -/
  | whereParameters
  /-- A method has two receivers. -/
  | secondReceiver
  /-- The receiver of a method is not its first parameter. -/
  | lateReceiver
deriving DecidableEq, Repr

/-- A cause and its place. -/
structure SyntaxError where
  cause : SyntaxCause
  span : Span
deriving DecidableEq, Repr

namespace SyntaxError

/-- The wording of an error. -/
def message (error : SyntaxError) : String :=
  match error.cause with
  | .missing what => "expected " ++ what
  | .missingAtEnd what => "unexpected end of input, expected " ++ what
  | .reserved word => "expected identifier, found keyword `" ++ word ++ "`"
  | .leftover .parenthesis => "unexpected token, expected `)`"
  | .leftover .brace => "unexpected token, expected `\x7d`"
  | .leftover .bracket => "unexpected token, expected `]`"
  | .leftover .invisible => "unexpected token"
  | .unterminated => "unexpected token, expected `;`"
  | .chainedComparison => "comparison operators cannot be chained"
  | .strayInput => "unexpected input, expected `,` or `=>`"
  | .attributeOnRange =>
    "attributes are not allowed on range expressions starting with `..`"
  | .afterCast what => "casts cannot be followed by " ++ what
  | .bareLabel => "parentheses required"
  | .suffixedMember => "expected unsuffixed integer"
  | .largeMember => "number too large to fit in target type"
  | .signedMember => "invalid digit found in string"
  | .nestedAttribute => "unexpected attribute inside of attribute"
  | .openRange => "range pattern is not allowed unparenthesized inside slice pattern"
  | .objectWithoutTrait => "at least one trait is required for an object type"
  | .implWithoutTrait => "at least one trait must be specified"
  | .misplacedBound what => what ++ " is not allowed here"
  | .binderWithModifier =>
    "`for<...>` binder not allowed with `?` trait polarity modifier"
  | .whereParameters => "generic parameters on `where` clauses are reserved for future use"
  | .secondReceiver => "unexpected second method receiver"
  | .lateReceiver => "unexpected method receiver"

end SyntaxError

end MacroExpansion
