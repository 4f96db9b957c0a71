import MacroExpansion.Proofs.Reading.Forward

/-!
# The rules of the grammar move forward

Each rule is a function of the readers it takes from the other rules, and it moves forward if they
do. So one more level of nesting keeps `MovesForward`, and the grammar of every depth has it.

A rule that is used by one other rule only is opened together with it.
-/

namespace MacroExpansion

namespace Grammar

open TokenReader

/-- Every reader of the grammar moves forward. -/
class MovesForward (g : Grammar) : Prop where
  expr (structs : Bool) : Forward (g.expr structs)
  unary (structs : Bool) : Forward (g.unary structs)
  operand (structs : Bool) (precedence : Precedence) : Forward (g.operand structs precedence)
  leading : Forward g.leading
  statements : Forward g.statements
  typeCode (plus generic : Bool) : Forward (g.typeCode plus generic)
  bound : Forward g.bound
  pattern : Forward g.pattern
  single : Forward g.single
  item : Forward g.item
  useTree (root : Bool) : Forward (g.useTree root)

attribute [instance] MovesForward.expr MovesForward.unary MovesForward.operand
  MovesForward.leading MovesForward.statements MovesForward.typeCode MovesForward.bound
  MovesForward.pattern MovesForward.single MovesForward.item MovesForward.useTree

-- A rule has many parts, and the search takes a step for each of them.
set_option synthInstance.maxSize 512

variable (g : Grammar) [MovesForward g]

instance (plus : Bool) : Forward (g.type plus) := by unfold Grammar.type; infer_instance

instance : Forward g.value := by unfold Grammar.value; infer_instance

/-! ### Attributes and bodies -/

instance (separator : Tokens) (bound : Nat) : Forward (plainSteps separator bound) := by
  induction bound generalizing separator with
  | zero => unfold plainSteps; infer_instance
  | succ bound ih => unfold plainSteps; infer_instance

instance : Forward plainPath := by unfold plainPath; infer_instance

instance : Forward (attributeContent g) := by
  unfold attributeContent attributeName
  refine .bind fun path => .bind fun here => .ite ?_
  split
  · refine .bind fun equals => .bind fun value => ?_
    split <;> infer_instance
  · infer_instance

instance : Forward (outerAttribute g) := by unfold outerAttribute; infer_instance

instance : Forward (outerAttributes g) := by unfold outerAttributes; infer_instance

instance : Forward (innerAttributes g) := by unfold innerAttributes; infer_instance

instance : Forward (exprAttributes g) := by unfold exprAttributes; infer_instance

instance : Forward (block g) := by unfold block; infer_instance

instance : Forward (blockTokens g) := by unfold blockTokens; infer_instance

instance : Forward (attributedBlock g) := by unfold attributedBlock; infer_instance

instance : Forward (bodyTokens g) := by unfold bodyTokens; infer_instance

/-! ### Generic arguments and parameters -/

instance : Forward (constArgument g) := by unfold constArgument; infer_instance

instance (stop : Tokens → Bool) : Forward (boundsUntil g stop) := by
  unfold boundsUntil; infer_instance

instance : Forward (genericArgument g) := by
  unfold genericArgument constraint
  refine .bind fun here => .ite <| .ite <| .bind fun type => ?_
  split <;> infer_instance

instance (item : TokenReader AngleItem) [Forward item] (bound : Nat) :
    Forward (angleItems.go item bound) := by
  induction bound with
  | zero => unfold angleItems.go; infer_instance
  | succ bound ih => unfold angleItems.go; infer_instance

instance (item : TokenReader AngleItem) [Forward item] : Forward (angleItems item) := by
  unfold angleItems; infer_instance

instance : Forward (genericArguments g) := by
  unfold genericArguments angleArguments; infer_instance

instance (stop : Tokens → Bool) : Forward (lifetimeBounds stop) := by
  unfold lifetimeBounds; infer_instance

instance (bounds : TokenReader Tokens) [Forward bounds] : Forward (boundsBehindColon bounds) := by
  unfold boundsBehindColon; infer_instance

instance : Forward lifetimeParameter := by unfold lifetimeParameter; infer_instance

instance : Forward (typeParameter g) := by unfold typeParameter; infer_instance

instance : Forward (constParameter g) := by unfold constParameter; infer_instance

instance : Forward (boundParameter g) := by unfold boundParameter; infer_instance

instance : Forward (binder g) := by unfold binder; infer_instance

instance : Forward (generics? g) := by unfold generics? genericParameter; infer_instance

instance : Forward (generics g) := by unfold generics; infer_instance

instance : Forward (whereClause? g) := by unfold whereClause? wherePredicate; infer_instance

instance : Forward (whereClause g) := by unfold whereClause; infer_instance

/-! ### Paths -/

instance (inType : Bool) (separator : Tokens) : Forward (pathSegment g inType separator) := by
  unfold pathSegment; infer_instance

instance (inType : Bool) (bound : Nat) : Forward (pathRest.go g inType bound) := by
  induction bound with
  | zero => unfold pathRest.go; infer_instance
  | succ bound ih => unfold pathRest.go; infer_instance

instance (inType : Bool) : Forward (pathRest g inType) := by unfold pathRest; infer_instance

instance (inType : Bool) : Forward (simplePath g inType) := by unfold simplePath; infer_instance

instance (inType : Bool) (bound : Nat) : Forward (relativeSteps.go g inType bound) := by
  induction bound with
  | zero => unfold relativeSteps.go; infer_instance
  | succ bound ih => unfold relativeSteps.go; infer_instance

instance (inType : Bool) : Forward (relativeSteps g inType) := by
  unfold relativeSteps; infer_instance

instance (inType : Bool) : Forward (anyPath g inType) := by unfold anyPath; infer_instance

instance (plus : Bool) : Forward (arrowType g plus) := by unfold arrowType; infer_instance

instance (plus : Bool) : Forward (returnType g plus) := by unfold returnType; infer_instance

instance (path : Path) : Forward (pathCall g path) := by
  unfold pathCall functionArguments; infer_instance

/-! ### Types -/

instance (consts : Bool) : Forward (traitBound g consts) := by
  unfold traitBound constMark; infer_instance

instance (bound : Nat) : Forward (captures bound) := by
  induction bound with
  | zero => unfold captures; infer_instance
  | succ bound ih => unfold captures captured; infer_instance

instance (captures consts : Bool) : Forward (anyBound g captures consts) := by
  unfold anyBound captureBound; infer_instance

instance : Forward (boundRule g) := by unfold boundRule; infer_instance

instance (more : Tokens → Bool) (bound : TokenReader Bound) [Forward bound] (sum : BoundSum)
    (count : Nat) : Forward (sumWhile.go more bound sum count) := by
  induction count generalizing sum with
  | zero => unfold sumWhile.go; infer_instance
  | succ count ih => unfold sumWhile.go; infer_instance

instance (more : Tokens → Bool) (bound : TokenReader Bound) [Forward bound] (sum : BoundSum) :
    Forward (sumWhile more bound sum) := by
  unfold sumWhile; infer_instance

instance (plus : Bool) (bound : TokenReader Bound) [Forward bound] :
    Forward (boundSum plus bound) := by
  unfold boundSum; infer_instance

instance (start : Span) (plus : Bool) : Forward (objectBounds g start plus) := by
  unfold objectBounds; infer_instance

instance : Forward (lifetimeObject g) := by unfold lifetimeObject; infer_instance

instance : Forward nameWithColon := by unfold nameWithColon; infer_instance

instance (first : Bool) : Forward (bareParameter g first) := by unfold bareParameter; infer_instance

instance (first : Bool) (bound : Nat) : Forward (bareParameters.go g first bound) := by
  induction bound generalizing first with
  | zero => unfold bareParameters.go; infer_instance
  | succ bound ih => unfold bareParameters.go; infer_instance

instance : Forward (bareParameters g) := by unfold bareParameters; infer_instance

instance : Forward convention := by unfold convention; infer_instance

instance : Forward (functionType g) := by unfold functionType; infer_instance

instance (path : Path) (output : Option TypeCode) (bound : Nat) :
    Forward (pathCalls.go g path output bound) := by
  induction bound generalizing path output with
  | zero => unfold pathCalls.go; infer_instance
  | succ bound ih => unfold pathCalls.go; infer_instance

instance (path : Path) : Forward (pathCalls g path) := by unfold pathCalls; infer_instance

instance (lifetimes : Tokens) (plus : Bool) : Forward (pathType g lifetimes plus) := by
  unfold pathType; infer_instance

instance (generic : Bool) : Forward (hiddenType g generic) := by
  unfold hiddenType
  refine .bind fun inner => .bind fun here => ?_
  split
  · split <;> infer_instance
  · split
    · split <;> infer_instance
    · infer_instance

instance : Forward (parenthesised g) := by unfold parenthesised tupleRest; infer_instance

instance (plus : Bool) : Forward (parenthesisType g plus) := by
  unfold parenthesisType
  refine .bind fun content => ?_
  dsimp only
  split <;> infer_instance

instance (plus : Bool) : Forward (boundType g plus) := by unfold boundType; infer_instance

instance (plus generic : Bool) : Forward (typeRule g plus generic) := by
  unfold typeRule dynType arrayType pointerType referenceType implType
  infer_instance

/-! ### Patterns -/

instance : Forward (rangeEnd g) := by unfold rangeEnd constBlock; infer_instance

instance (start : Tokens) : Forward (rangeFrom g start) := by
  unfold rangeFrom rangeLimits; infer_instance

instance (isSigned : Bool) (text : List Char) (place span : Span) :
    Forward (position isSigned text place span) := by
  unfold position
  split
  · split <;> infer_instance
  · infer_instance

instance : Forward signedNumber := by
  unfold signedNumber
  refine .bind fun number => ?_
  dsimp only
  split <;> infer_instance

instance : Forward member := by unfold member; infer_instance

instance : Forward (fieldPattern g) := by unfold fieldPattern; infer_instance

instance (bound : Nat) : Forward (fieldPatterns.go g bound) := by
  induction bound with
  | zero => unfold fieldPatterns.go; infer_instance
  | succ bound ih => unfold fieldPatterns.go; infer_instance

instance : Forward (fieldPatterns g) := by unfold fieldPatterns; infer_instance

instance : Forward (patternList g) := by unfold patternList; infer_instance

instance : Forward (slicePattern g) := by
  unfold slicePattern
  refine .bind fun pattern => ?_
  split <;> infer_instance

instance : Forward (singleRule g) := by
  unfold singleRule pathPattern boxPattern literalPattern namePattern referencePattern openPattern
  infer_instance

instance : Forward (patternRule g) := by unfold patternRule; infer_instance

/-! ### Operators -/

instance : Forward exprLimits := by unfold exprLimits; infer_instance

instance (structs : Bool) (limits : Tokens) : Forward (rangeStop g structs limits) := by
  unfold rangeStop; infer_instance

instance (operand : Expr) : Forward (castTo g operand) := by
  unfold castTo
  refine .bind fun head => .bind fun type => .bind fun here => ?_
  split <;> infer_instance

instance (structs : Bool) (base : Precedence) (left : Expr) :
    Forward (extend g structs base left) := by
  unfold extend
  refine .bind fun here => .ite ?_
  split <;> infer_instance

instance (structs : Bool) (base : Precedence) (left : Expr) (bound : Nat) :
    Forward (climb.go g structs base left bound) := by
  induction bound generalizing left with
  | zero => unfold climb.go; infer_instance
  | succ bound ih =>
      unfold climb.go
      refine .bind fun left => ?_
      split <;> infer_instance

instance (structs : Bool) (base : Precedence) (left : Expr) :
    Forward (climb g structs base left) := by
  unfold climb; infer_instance

instance (structs : Bool) (precedence : Precedence) (right : Expr) (bound : Nat) :
    Forward (operandRule.go g structs precedence right bound) := by
  induction bound generalizing right with
  | zero => unfold operandRule.go; infer_instance
  | succ bound ih =>
      unfold operandRule.go
      refine .bind fun here => ?_
      dsimp only
      split
      · refine .bind fun right => ?_
        split <;> infer_instance
      · infer_instance

instance (structs : Bool) (precedence : Precedence) :
    Forward (operandRule g structs precedence) := by
  unfold operandRule; infer_instance

instance (structs : Bool) : Forward (exprRule g structs) := by unfold exprRule; infer_instance

/-! ### What follows an expression directly -/

instance (bound : Nat) : Forward (elements.go g bound) := by
  induction bound with
  | zero => unfold elements.go; infer_instance
  | succ bound ih => unfold elements.go; infer_instance

instance : Forward (elements g) := by unfold elements; infer_instance

instance : Forward (elementTokens g) := by unfold elementTokens; infer_instance

instance (span : Span) (start : Nat) (parts : List (List Char)) :
    Forward (positions span start parts) := by
  induction parts generalizing start with
  | nil => unfold positions; infer_instance
  | cons part rest ih => unfold positions; infer_instance

instance (dots : Tokens) : Forward (selection g dots) := by unfold selection; infer_instance

instance (base : Expr) : Forward (follow g base) := by unfold follow dotted; infer_instance

instance (base : Expr) (bound : Nat) : Forward (trail.go g base bound) := by
  induction bound generalizing base with
  | zero => unfold trail.go; infer_instance
  | succ bound ih =>
      unfold trail.go
      refine .bind fun base => ?_
      split <;> infer_instance

instance (base : Expr) : Forward (trail g base) := by unfold trail; infer_instance

/-! ### Atoms -/

instance (label : Tokens) : Forward (blockExpr g label) := by unfold blockExpr; infer_instance

instance (bound : Nat) : Forward (branch g bound) := by
  induction bound with
  | zero => unfold branch; infer_instance
  | succ bound ih => unfold branch; infer_instance

instance : Forward (matchArms g) := by unfold matchArms arm; infer_instance

instance : Forward (whileLoop g) := by unfold whileLoop; infer_instance

instance : Forward (forLoop g) := by unfold forLoop; infer_instance

instance (word : String) : Forward (markedBlock g word) := by unfold markedBlock; infer_instance

instance : Forward (control? g) := by unfold control?; infer_instance

instance : Forward (labelled g) := by unfold labelled; infer_instance

instance (structs : Bool) (path : Path) : Forward (named g structs path) := by
  unfold named structContent fieldValue; infer_instance

instance (structs : Bool) : Forward (hiddenExpr g structs) := by
  unfold hiddenExpr
  refine .bind fun inner => ?_
  dsimp only
  split
  · refine .bind fun more => .bind fun whole => ?_
    split <;> infer_instance
  · infer_instance

instance : Forward (closureParameter g) := by unfold closureParameter; infer_instance

instance (structs : Bool) : Forward (closure g structs) := by unfold closure; infer_instance

instance (word : String) : Forward (jump g word) := by unfold jump; infer_instance

instance (structs : Bool) : Forward (jump? g structs) := by
  unfold jump? breakJump bareLabel continueJump; infer_instance

instance : Forward (untouched? g) := by unfold untouched?; infer_instance

instance (structs : Bool) : Forward (letCondition g structs) := by
  unfold letCondition; infer_instance

instance : Forward (arrayContent g) := by unfold arrayContent; infer_instance

instance : Forward (asyncBlock g) := by unfold asyncBlock; infer_instance

instance (structs : Bool) : Forward (atomRule g structs) := by
  unfold atomRule
  refine .bind fun here => .ite <| .ite <| .ite <| .ite <| .bind fun untouched => ?_
  split
  · infer_instance
  · refine .ite <| .ite <| .bind fun jump => ?_
    split
    · infer_instance
    · refine .ite <| .ite <| .bind fun control => ?_
      split <;> infer_instance

instance (structs : Bool) (start attributes : Tokens) :
    Forward (attributedAtom g structs start attributes) := by
  unfold attributedAtom
  refine .bind fun atom => .bind fun expr => ?_
  split <;> infer_instance

instance : Forward referenceModifiers := by unfold referenceModifiers; infer_instance

instance (structs : Bool) : Forward (unaryRule g structs) := by
  unfold unaryRule
  refine .bind fun start => .bind fun attributes => .bind fun here => .ite <| .ite ?_
  split <;> infer_instance

instance : Forward (leadingPart g) := by
  unfold leadingPart
  refine .bind fun here => .ite <| .bind fun found => ?_
  split <;> infer_instance

instance : Forward (leadingRule g) := by unfold leadingRule; infer_instance

/-! ### Functions -/

instance (item : TokenReader Draft) [Forward item] : Forward (withAttributes g item) := by
  unfold withAttributes; infer_instance

instance : Forward visibility := by unfold visibility; infer_instance

instance : Forward (receiver g) := by unfold receiver; infer_instance

instance : Forward (parameter g) := by unfold parameter; infer_instance

instance (before : Option Bool) (bound : Nat) : Forward (parameters.go g before bound) := by
  induction bound generalizing before with
  | zero => unfold parameters.go; infer_instance
  | succ bound ih =>
      unfold parameters.go parameters.rest behindDots
      refine .bind fun done => .ite <| .bind fun attributes => .bind fun parameter => ?_
      split <;> infer_instance

instance : Forward (parameters g) := by unfold parameters; infer_instance

instance (allowsSafe : Bool) : Forward (signature g allowsSafe) := by
  unfold signature; infer_instance

instance : Forward (functionItem g) := by unfold functionItem; infer_instance

instance : Forward (traitFunction g) := by unfold traitFunction; infer_instance

/-! ### Structures, enumerations and unions -/

instance (depth : Nat) : Forward (namedFieldsWithin g depth) := by
  induction depth with
  | zero => unfold namedFieldsWithin; infer_instance
  | succ depth ih => unfold namedFieldsWithin namedField; infer_instance

instance : Forward (namedFields g) := by unfold namedFields; infer_instance

instance : Forward (positionalFields g) := by
  unfold positionalFields positionalField; infer_instance

instance : Forward (structItem g) := by unfold structItem positionalEnd; infer_instance

instance : Forward (variant g) := by unfold variant; infer_instance

instance : Forward (enumItem g) := by unfold enumItem; infer_instance

instance : Forward (unionItem g) := by unfold unionItem; infer_instance

/-! ### Members -/

instance (needsValue : Bool) : Forward (constRest g needsValue) := by
  unfold constRest; infer_instance

instance : Forward (constItem g) := by unfold constItem; infer_instance

instance : Forward (staticItem g) := by unfold staticItem; infer_instance

instance (room : WherePlace) : Forward (typeAlias g room) := by unfold typeAlias; infer_instance

instance : Forward (typeItem g) := by unfold typeItem; infer_instance

instance (item : TokenReader Tokens) [Forward item] : Forward (itemGroup g item) := by
  unfold itemGroup; infer_instance

instance (start : Tokens) : Forward (macroRest start) := by unfold macroRest; infer_instance

instance : Forward innerMacro := by unfold innerMacro; infer_instance

instance : Forward (traitConst g) := by unfold traitConst; infer_instance

instance : Forward (traitItem g) := by unfold traitItem; infer_instance

instance : Forward behindVisibility := by
  unfold behindVisibility
  refine .bind fun found => ?_
  split <;> infer_instance

instance : Forward (implItem g) := by unfold implItem; infer_instance

instance : Forward (implHead g) := by
  unfold implHead
  refine .bind fun start => .bind fun negative => .bind fun first => .bind fun here => ?_
  split
  · refine .bind fun link => .bind fun type => ?_
    split <;> infer_instance
  · infer_instance

instance : Forward (implementation g) := by unfold implementation; infer_instance

instance : Forward (traitDefinition g) := by
  unfold traitDefinition traitRest traitAlias; infer_instance

instance : Forward (foreignItem g) := by
  unfold foreignItem foreignFunction foreignStatic; infer_instance

/-! ### Items -/

instance (root : Bool) (bound : Nat) : Forward (useChoices.go g root bound) := by
  induction bound with
  | zero => unfold useChoices.go; infer_instance
  | succ bound ih => unfold useChoices.go; infer_instance

instance (root : Bool) : Forward (useChoices g root) := by unfold useChoices; infer_instance

instance (root : Bool) : Forward (useTreeRule g root) := by unfold useTreeRule; infer_instance

instance : Forward (useItem g) := by unfold useItem; infer_instance

instance : Forward (modItem g) := by unfold modItem; infer_instance

instance : Forward macroItem := by unfold macroItem; infer_instance

instance : Forward (foreignBlock g) := by unfold foreignBlock; infer_instance

instance (behind : Tokens) : Forward (externItem g behind) := by
  unfold externItem crateItem; infer_instance

instance : Forward macroDefinition := by unfold macroDefinition; infer_instance

instance (item : TokenReader Tokens) [Forward item] : Forward (settled item) := by
  unfold settled; infer_instance

instance (behind : Tokens) : Forward (unsafeItem g behind) := by unfold unsafeItem; infer_instance

instance : Forward (itemRest g) := by unfold itemRest; infer_instance

instance : Forward (itemRule g) := by unfold itemRule; infer_instance

/-! ### Statements -/

instance (attributes : Tokens) : Forward (binding g attributes) := by
  unfold binding bindingValue; infer_instance

instance (attributes : Tokens) : Forward (exprStatement g attributes) := by
  unfold exprStatement; infer_instance

instance (start attributes : Tokens) : Forward (itemStatement g start attributes) := by
  unfold itemStatement; infer_instance

/-- Looking at the start of a statement takes nothing, and what is behind the name of a macro is
behind the start. -/
theorem opening_eq_ok {input after : Input} {found : Opening}
    (read : opening input = .ok (found, after)) :
    after = input ∧ ∀ path rest, found = .macroCall path rest →
      rest.visible <:+ input.rest.visible := by
  unfold opening at read
  obtain ⟨path?, between, looked, further⟩ := bind_eq_ok_iff.mp read
  obtain ⟨rfl, behind⟩ := succeeds_eq_ok looked
  split at further
  · obtain ⟨rfl, rfl⟩ := pure_eq_ok_iff.mp further
    exact ⟨rfl, nofun⟩
  · rename_i path rest
    obtain ⟨done, path, rfl⟩ := behind _ _ rfl
    have suffix := (Forward.leads path).rest
    dsimp only at further
    split at further
    · split at further
      · obtain ⟨rfl, rfl⟩ := pure_eq_ok_iff.mp further
        exact ⟨rfl, nofun⟩
      · split at further
        · obtain ⟨rfl, rfl⟩ := pure_eq_ok_iff.mp further
          refine ⟨rfl, ?_⟩
          intro path rest same
          cases same
          exact suffix
        · obtain ⟨rfl, rfl⟩ := pure_eq_ok_iff.mp further
          exact ⟨rfl, nofun⟩
    · obtain ⟨rfl, rfl⟩ := pure_eq_ok_iff.mp further
      exact ⟨rfl, nofun⟩

instance : Forward (statement g) := by
  unfold statement
  refine .bind fun start => .bind fun attributes => ⟨fun read => ?_⟩
  obtain ⟨found, between, looked, further⟩ := bind_eq_ok_iff.mp read
  obtain ⟨rfl, behind⟩ := opening_eq_ok looked
  split at further
  · rename_i path rest
    obtain ⟨_, resumed, moved, further⟩ := bind_eq_ok_iff.mp further
    cases moved
    exact (Input.Leads.of_suffix (behind path rest rfl)).trans (Forward.leads further)
  · exact Forward.leads further
  · exact Forward.leads further

instance (bound : Nat) : Forward (statementsRule.go g bound) := by
  induction bound with
  | zero => unfold statementsRule.go; infer_instance
  | succ bound ih => unfold statementsRule.go; infer_instance

instance : Forward (statementsRule g) := by unfold statementsRule; infer_instance

/-! ### The grammar as a whole -/

instance : MovesForward nothing where
  expr _ := inferInstanceAs (Forward (expected _))
  unary _ := inferInstanceAs (Forward (expected _))
  operand _ _ := inferInstanceAs (Forward (expected _))
  leading := inferInstanceAs (Forward (expected _))
  statements := inferInstanceAs (Forward (expected _))
  typeCode _ _ := inferInstanceAs (Forward (expected _))
  bound := inferInstanceAs (Forward (expected _))
  pattern := inferInstanceAs (Forward (expected _))
  single := inferInstanceAs (Forward (expected _))
  item := inferInstanceAs (Forward (expected _))
  useTree _ := inferInstanceAs (Forward (expected _))

/-- One more level of nesting keeps it. -/
instance : MovesForward (deepen g) where
  expr structs := inferInstanceAs (Forward (exprRule g structs))
  unary structs := inferInstanceAs (Forward (unaryRule g structs))
  operand structs precedence := inferInstanceAs (Forward (operandRule g structs precedence))
  leading := inferInstanceAs (Forward (leadingRule g))
  statements := inferInstanceAs (Forward (statementsRule g))
  typeCode plus generic := inferInstanceAs (Forward (typeRule g plus generic))
  bound := inferInstanceAs (Forward (boundRule g))
  pattern := inferInstanceAs (Forward (patternRule g))
  single := inferInstanceAs (Forward (singleRule g))
  item := inferInstanceAs (Forward (itemRule g))
  useTree root := inferInstanceAs (Forward (useTreeRule g root))

instance (depth : Nat) : MovesForward (ofDepth depth) := by
  induction depth with
  | zero => exact inferInstanceAs (MovesForward nothing)
  | succ depth ih => exact inferInstanceAs (MovesForward (deepen (ofDepth depth)))

instance (tokens : Tokens) : MovesForward (ofInput tokens) := by unfold ofInput; infer_instance

end Grammar

end MacroExpansion
