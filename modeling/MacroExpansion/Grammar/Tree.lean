import MacroExpansion.Grammar.Precedence

/-!
# Expressions and statements

The tree keeps apart what an expansion looks at: attributes, literals, paths, invisible groups,
closures, blocks with their statements, macro calls, and the operands of operators. Parts that are
only handed on, such as types, patterns and items, stay lists of tokens.

The questions about an expression that rules and the printer ask, such as whether it ends a
statement or with what it ends, are answered by recursion on the tree.
-/

namespace MacroExpansion

/-- One step of a path, with the separator in front of it. -/
structure PathSegment where
  separator : Tokens
  name : Ident
  arguments : Tokens
deriving Repr, Inhabited

namespace PathSegment

/-- The tokens of one step. -/
def tokens (segment : PathSegment) : Tokens :=
  segment.separator ++ segment.name.token :: segment.arguments

/-- Are the arguments those of a function, in parentheses? -/
def isCall (segment : PathSegment) : Bool :=
  match segment.arguments with
  | .group .. :: _ => true
  | _ => false

/-- A made-up step behind a separator. -/
def step (text : String) : PathSegment := ⟨Tokens.symbol "::", .made text, []⟩

end PathSegment

/-- A path, possibly relative to a type in angle brackets. A separator in front of the first step
makes it absolute. -/
structure Path where
  qualifier : Tokens
  segments : List PathSegment
deriving Repr, Inhabited

namespace Path

/-- The tokens of a path. -/
def tokens (path : Path) : Tokens :=
  path.qualifier ++ path.segments.flatMap PathSegment.tokens

/-- The name that a path consists of, if it is no more than that. -/
def name? (path : Path) : Option Ident :=
  match path.qualifier, path.segments with
  | [], [⟨[], name, []⟩] => some name
  | _, _ => none

/-- Is the path free of arguments and of a type it is relative to? -/
def isPlain (path : Path) : Bool :=
  path.qualifier.isEmpty && path.segments.all (·.arguments.isEmpty)

/-- Is the path a single step that is not absolute and takes no function's arguments? -/
def isLocal (path : Path) : Bool :=
  match path.qualifier, path.segments with
  | [], [segment] => segment.separator.isEmpty && !segment.isCall
  | _, _ => false

/-- The arguments of the last step. -/
def lastArguments (path : Path) : Tokens :=
  (path.segments.getLast?.map (·.arguments)).getD []

/-- The path with other arguments for its last step. -/
def withArguments (path : Path) (arguments : Tokens) : Path :=
  match path.segments.getLast? with
  | some last =>
    { path with
      segments := path.segments.dropLast ++ [{ last with arguments := arguments }] }
  | none => path

/-- The made-up absolute path with the given steps. -/
def absolute (steps : List String) : Path := ⟨[], steps.map PathSegment.step⟩

/-- The path that goes on with the given steps. -/
def extend (path : Path) (steps : List String) : Path :=
  { path with segments := path.segments ++ steps.map PathSegment.step }

@[simp] theorem tokens_extend (path : Path) (steps : List String) :
    (path.extend steps).tokens =
      path.tokens ++ (steps.map PathSegment.step).flatMap PathSegment.tokens := by
  simp [extend, tokens]

end Path

/-- What a rule needs to know about a type. -/
inductive TypeForm where
  | path (path : Path)
  /-- An invisible group, and the path that is all it holds. -/
  | hidden (path : Option Path)
  /-- A sum of bounds without a keyword, of a single bound or not. -/
  | object (isSingle : Bool)
  /-- A type in parentheses. -/
  | enclosed
  | other
deriving Repr, Inhabited

/-- A type as it was read. -/
structure TypeCode where
  tokens : Tokens
  form : TypeForm
  /-- Does it end with a path that generic arguments could be added to? -/
  endsBare : Bool
deriving Repr, Inhabited

namespace TypeCode

/-- A type that ends with no path. -/
def closed (tokens : Tokens) : TypeCode := ⟨tokens, .other, false⟩

/-- The path that a type consists of, seen through invisible groups. -/
def path? (type : TypeCode) : Option Path :=
  match type.form with
  | .path path => some path
  | .hidden path => path
  | _ => none

end TypeCode

/-- A macro call with its argument tokens untouched. -/
structure MacroCall where
  path : Path
  bang : Tokens
  body : Token
deriving Repr, Inhabited

namespace MacroCall

/-- The tokens of a call. -/
def tokens (call : MacroCall) : Tokens := call.path.tokens ++ call.bang ++ [call.body]

/-- Are the arguments in braces? -/
def isBraced (call : MacroCall) : Bool := call.body.isBrace

end MacroCall

/-- A `let` statement. The parts behind the pattern may be missing. -/
structure Binding where
  attributes : Tokens
  keyword : Tokens
  pattern : Tokens
  /-- The type with its colon. -/
  type : Tokens
  /-- The value with its equals sign. -/
  value : Tokens
  /-- The block for a value that does not match, with its keyword. -/
  otherwise : Tokens
  semicolon : Tokens
deriving Repr, Inhabited

namespace Binding

/-- The tokens of a `let` statement. -/
def tokens (binding : Binding) : Tokens :=
  binding.attributes ++ binding.keyword ++ binding.pattern ++ binding.type ++ binding.value ++
    binding.otherwise ++ binding.semicolon

end Binding

mutual

/-- An expression. -/
inductive Expr where
  /-- An expression with attributes in front. -/
  | attributed (attributes : Tokens) (inner : Expr)
  | literal (token : Token)
  | path (path : Path)
  /-- An expression in an invisible group. -/
  | hidden (inner : Expr) (span : Span)
  /-- A closure: what stands before its bars, the parameters between them, the return type with its
  arrow, and the body. -/
  | closure (head opening parameters closing output : Tokens) (body : Expr)
  /-- A block, its label with the colon, and the attributes at its start. -/
  | block (label attributes : Tokens) (statements : List Stmt) (span : Span)
  /-- Branches, loops and marked blocks, behind a label: what else ends a statement by its closing
  brace. -/
  | control (label tokens : Tokens)
  | macroCall (call : MacroCall)
  /-- An operator, a reference or a dereference in front of its operand. -/
  | unary (operator : Tokens) (operand : Expr)
  /-- A binary operator or an assignment. -/
  | binary (left : Expr) (operator : Operator) (right : Expr)
  | cast (operand : Expr) (keyword : Tokens) (type : TypeCode)
  | range (start : Option Expr) (operator : Tokens) (stop : Option Expr)
  | call (function : Expr) (arguments : List Element) (span : Span)
  | index (base : Expr) (position : Token)
  /-- A field, a method call, an `await` or a question mark behind an expression. -/
  | select (base : Expr) (suffix : Tokens)
  /-- `return`, `break` and the like, with the label they name and the value they carry. -/
  | jump (keyword label : Tokens) (value : Option Expr)
  /-- A `let` that is a condition: everything up to the equals sign, and the value. -/
  | condition (head : Tokens) (value : Expr)
  /-- An expression that nothing takes apart. -/
  | atom (tokens : Tokens)
  /-- An expression that is kept the way it was written, its attributes included. -/
  | untouched (tokens : Tokens)

/-- An argument and the separator behind it. -/
inductive Element where
  | mk (value : Expr) (separator : Tokens)

/-- A statement. -/
inductive Stmt where
  | expr (value : Expr) (semicolon : Tokens)
  | macroCall (attributes : Tokens) (call : MacroCall) (semicolon : Tokens)
  | binding (binding : Binding)
  | item (tokens : Tokens)
  /-- A semicolon alone. -/
  | empty (semicolon : Tokens)

end

instance : Inhabited Expr := ⟨.atom []⟩

instance : Inhabited Stmt := ⟨.empty []⟩

/-- Statements in braces. -/
structure Block where
  statements : List Stmt
  span : Span
deriving Inhabited

namespace Expr

/-- Is it a branch, a loop or a block, which needs no comma as the body of a match arm? -/
def isControl : Expr → Bool
  | attributed _ inner => inner.isControl
  | block .. => true
  | control .. => true
  | _ => false

/-- Does the expression end a statement without a semicolon? -/
def isBlockLike : Expr → Bool
  | attributed _ inner => inner.isBlockLike
  | block .. => true
  | control .. => true
  | macroCall macroUse => macroUse.isBraced
  | _ => false

/-- Is it a `let` condition? -/
def isCondition : Expr → Bool
  | attributed _ inner => inner.isCondition
  | condition .. => true
  | _ => false

/-- Is it a range? -/
def isRange : Expr → Bool
  | attributed _ inner => inner.isRange
  | range .. => true
  | _ => false

/-- Is it a comparison? -/
def isComparison : Expr → Bool
  | binary _ operator _ => operator.rank == .compare
  | _ => false

/-- Does it end a statement even inside invisible groups? -/
def endsEarly : Expr → Bool
  | attributed _ inner => inner.endsEarly
  | hidden inner _ => inner.endsEarly
  | block .. => true
  | control .. => true
  | _ => false

/-- Does the expression end with a brace of its own? An invisible group hides it. -/
def endsWithBrace : Expr → Bool
  | attributed _ inner => inner.endsWithBrace
  | closure _ _ _ _ _ body => body.endsWithBrace
  | block .. => true
  | control .. => true
  | macroCall macroUse => macroUse.isBraced
  | unary _ operand => operand.endsWithBrace
  | binary _ _ right => right.endsWithBrace
  | cast _ _ type => type.tokens.endsWithBrace
  | range _ _ (some stop) => stop.endsWithBrace
  | jump _ _ (some value) => value.endsWithBrace
  | condition _ value => value.endsWithBrace
  | atom tokens => tokens.endsWithBrace
  | untouched tokens => tokens.endsWithBrace
  | _ => false

/-- Does the expression begin with the label of a loop or a block? -/
def beginsWithLabel : Expr → Bool
  | attributed _ inner => inner.beginsWithLabel
  | block label _ _ _ => !label.isEmpty
  | control label _ => !label.isEmpty
  | binary left _ _ => left.beginsWithLabel
  | cast operand _ _ => operand.beginsWithLabel
  | range (some start) _ _ => start.beginsWithLabel
  | call function _ _ => function.beginsWithLabel
  | index base _ => base.beginsWithLabel
  | select base _ => base.beginsWithLabel
  | _ => false

/-- Would the keyword, with no label behind it, take the label that the value begins with? -/
def takesLabel (keyword label : Tokens) (value : Expr) : Bool :=
  keyword.any (fun token => token.isWord "break") && label.isEmpty && value.beginsWithLabel

/-- Does an expression that reaches as far as it can end with something closed, so that what
follows could not belong to it anyway? -/
def isSealed : Expr → Bool
  | attributed _ inner => inner.isSealed
  | closure _ _ _ _ output body => !output.isEmpty || body.isSealed
  | unary _ operand => operand.isSealed
  | binary _ _ right => right.isSealed
  | range _ _ (some stop) => stop.isSealed
  | jump keyword label (some value) => takesLabel keyword label value || value.isSealed
  | condition _ value => value.isSealed
  | _ => false

/-- Is it a cast to a type that ends with a bare path? -/
def isBareCast : Expr → Bool
  | cast _ _ type => type.endsBare
  | _ => false

/-- How tight the parts of an expression hold together. -/
def precedence : Expr → Precedence
  | attributed _ inner => inner.precedence
  | closure _ _ _ _ output _ => if output.isEmpty then .jump else .whole
  | unary .. => .sign
  | binary _ operator _ => operator.rank
  | cast .. => .cast
  | range .. => .range
  | jump _ _ (some _) => .jump
  | condition .. => .condition
  | _ => .whole

end Expr

end MacroExpansion
