import MacroExpansion.Proofs.Reading.Follows

/-!
# Types and patterns in front of a mark

The rules for types, for patterns and for what they are made of read the same with a comma or an
arrow behind their tokens, and whatever they read they also read with the readers of a grammar that
nests deeper. `Grammar.Grows` and `Grammar.GrowsBefore` say so of the readers that a rule takes from
the grammar, and each instance says so of a rule.

What stands in a group sees nothing of what is behind the group, so that there only the grammar
changes. What stands in angle brackets does see it; it is followed as long as the bracket that
closes them is left.
-/

namespace MacroExpansion

namespace Grammar

open TokenReader

/-- The second grammar reads whatever the first one does. -/
class Grows (g g' : Grammar) : Prop where
  expr (structs : Bool) : Follows true [] (g.expr structs) (g'.expr structs)
  unary (structs : Bool) : Follows true [] (g.unary structs) (g'.unary structs)
  operand (structs : Bool) (precedence : Precedence) :
    Follows true [] (g.operand structs precedence) (g'.operand structs precedence)
  leading : Follows true [] g.leading g'.leading
  statements : Follows true [] g.statements g'.statements
  typeCode (plus generic : Bool) :
    Follows true [] (g.typeCode plus generic) (g'.typeCode plus generic)
  bound : Follows true [] g.bound g'.bound
  pattern : Follows true [] g.pattern g'.pattern
  single : Follows true [] g.single g'.single
  item : Follows true [] g.item g'.item
  useTree (root : Bool) : Follows true [] (g.useTree root) (g'.useTree root)

attribute [instance] Grows.expr Grows.unary Grows.operand Grows.leading Grows.statements
  Grows.typeCode Grows.bound Grows.pattern Grows.single Grows.item Grows.useTree

/-- The second grammar reads what the first one does with more tokens behind, as far as expressions
and their parts go. -/
class GrowsBefore (tail : Tokens) (g g' : Grammar) : Prop where
  expr (structs : Bool) : Follows true tail (g.expr structs) (g'.expr structs)
  unary (structs : Bool) : Follows true tail (g.unary structs) (g'.unary structs)
  operand (structs : Bool) (precedence : Precedence) :
    Follows true tail (g.operand structs precedence) (g'.operand structs precedence)
  typeCode (plus generic : Bool) :
    Follows true tail (g.typeCode plus generic) (g'.typeCode plus generic)
  bound : Follows true tail g.bound g'.bound
  pattern : Follows true tail g.pattern g'.pattern
  single : Follows true tail g.single g'.single

attribute [instance] GrowsBefore.expr GrowsBefore.unary GrowsBefore.operand GrowsBefore.typeCode
  GrowsBefore.bound GrowsBefore.pattern GrowsBefore.single

instance (g g' : Grammar) [Grows g g'] : GrowsBefore [] g g' where
  expr _ := inferInstance
  unary _ := inferInstance
  operand _ _ := inferInstance
  typeCode _ _ := inferInstance
  bound := inferInstance
  pattern := inferInstance
  single := inferInstance

-- As for the rules that move forward, the search takes a step for each part of a rule.
set_option synthInstance.maxSize 1024

variable {tail : Tokens} {g g' : Grammar} [MovesForward g] [Grows g g'] [GrowsBefore tail g g']

instance (plus : Bool) : Follows true tail (g.type plus) (g'.type plus) := by
  unfold Grammar.type; infer_instance

instance : Follows true tail g.value g'.value := by unfold Grammar.value; infer_instance

/-! ### Attributes and bodies -/

instance : Follows true [] (attributeContent g) (attributeContent g') := by
  unfold attributeContent attributeName
  refine .bind fun path => .bind fun here => .ite ?_
  split
  · refine .bind fun equals => .bind fun value => ?_
    split <;> infer_instance
  · infer_instance

instance : Follows true tail (outerAttribute g) (outerAttribute g') := by
  unfold outerAttribute; infer_instance

instance : Follows true tail (outerAttributes g) (outerAttributes g') := by
  have mark : Takes (operator "#") := takes_operator (by decide)
  have takes : Takes (outerAttribute g) := by unfold outerAttribute; infer_instance
  unfold outerAttributes
  exact .repeatWhile fun front apart => apart.sees (by decide)

instance : Follows true tail (exprAttributes g) (exprAttributes g') := by
  have mark : Takes (operator "#") := takes_operator (by decide)
  have takes : Takes (outerAttribute g) := by unfold outerAttribute; infer_instance
  unfold exprAttributes
  refine .repeatWhile fun front apart => ?_
  rw [apart.seesInvisible, apart.sees (by decide)]

instance : Follows true [] (innerAttributes g) (innerAttributes g') := by
  unfold innerAttributes; infer_instance

instance : Follows true tail (block g) (block g') := by unfold block; infer_instance

instance : Follows true tail (blockTokens g) (blockTokens g') := by
  unfold blockTokens; infer_instance

instance : Follows true tail (attributedBlock g) (attributedBlock g') := by
  unfold attributedBlock; infer_instance

instance : Follows true tail (bodyTokens g) (bodyTokens g') := by unfold bodyTokens; infer_instance

/-! ### Generic arguments and parameters -/

instance : Follows true tail (constArgument g) (constArgument g') := by
  unfold constArgument
  refine .ahead fun front apart => ?_
  rw [apart.seesSignedLiteral, apart.seesName, apart.seesGroup]
  infer_instance

omit [Grows g g'] in
/-- The sum may be ended by what is behind, but not where it leaves a token. -/
theorem follows_boundsUntil {stop : Tokens → Bool}
    (same : ∀ front : Tokens, front.Apart tail → front.expose ≠ [] →
      stop (front ++ tail) = stop front) :
    Follows false tail (boundsUntil g stop) (boundsUntil g' stop) := by
  have plus : Takes (operator "+") := takes_operator (by decide)
  unfold boundsUntil
  refine .separatedBy (fun front apart inside => ?_) fun front apart => ?_
  · exact same front apart (inside.resolve_left Bool.false_ne_true)
  · rw [apart.sees (by decide)]

theorem follows_lifetimeBounds {stop : Tokens → Bool}
    (same : ∀ front : Tokens, front.Apart tail → front.expose ≠ [] →
      stop (front ++ tail) = stop front) :
    Follows false tail (lifetimeBounds stop) (lifetimeBounds stop) := by
  have plus : Takes (operator "+") := takes_operator (by decide)
  unfold lifetimeBounds
  refine .separatedBy (fun front apart inside => ?_) fun front apart => ?_
  · exact same front apart (inside.resolve_left Bool.false_ne_true)
  · rw [apart.sees (by decide)]

instance : Follows false tail (constraint g) (constraint g') := by
  have bounds : Follows false tail
      (boundsUntil g fun tokens => tokens.sees "," || tokens.sees ">")
      (boundsUntil g' fun tokens => tokens.sees "," || tokens.sees ">") :=
    follows_boundsUntil fun front apart some => by
      rw [apart.sees_of_seen some (by decide), apart.sees_of_seen some (by decide)]
  unfold constraint
  refine .ahead_inside fun front apart some => ?_
  rw [apart.sees_of_seen some (by decide), apart.sees_of_seen some (by decide)]
  split
  · refine .bind fun equals => .ahead fun front apart => ?_
    rw [seesConstant_append apart]
    infer_instance
  · infer_instance

instance : Follows false tail (genericArgument g) (genericArgument g') := by
  unfold genericArgument
  refine .ahead fun front apart => ?_
  rw [behindLifetime_append apart (fun next => !next.sees "+")
    (by rw [apart.second.sees (by decide)]), seesConstant_append apart]
  split
  · infer_instance
  · split
    · infer_instance
    · refine .bind fun type => ?_
      split <;> infer_instance

instance (item item' : TokenReader AngleItem) [Follows false tail item item'] :
    Follows false tail (angleItems item) (angleItems item') := by
  have comma : Takes (operator ",") := takes_operator (by decide)
  unfold angleItems
  refine .loop fun bound bound' ih => ?_
  unfold angleItems.go
  refine .ahead fun front apart => ?_
  rw [apart.sees (by decide)]
  refine .ite (Follows.within _) (.bind (Follows.within _) fun first => ?_)
  refine .ahead fun front apart => ?_
  rw [apart.sees (by decide)]
  refine .ite (Follows.within _) (.bind_takes fun mark => ?_)
  exact .bind ih fun rest => Follows.within _

instance : Follows true tail (angleArguments g) (angleArguments g') := by
  have closing : Takes (operator ">") := takes_operator (by decide)
  unfold angleArguments
  exact .bind fun opening => .bind_takes fun arguments => inferInstance

instance : Follows true tail (genericArguments g) (genericArguments g') := by
  have separator : Follows true tail (operator? "::") (operator? "::") := .operator? (by decide)
  unfold genericArguments
  infer_instance

omit [MovesForward g] [Grows g g'] [GrowsBefore tail g g'] in
instance (full : Bool) (bounds bounds' : TokenReader Tokens) [Follows full tail bounds bounds'] :
    Follows full tail (boundsBehindColon bounds) (boundsBehindColon bounds') := by
  unfold boundsBehindColon
  exact .ifAhead fun front apart => apart.sees (by decide)

instance : Follows false tail lifetimeParameter lifetimeParameter := by
  have bounds : Follows false tail
      (lifetimeBounds fun here => here.isEmpty || here.sees "," || here.sees ">")
      (lifetimeBounds fun here => here.isEmpty || here.sees "," || here.sees ">") :=
    follows_lifetimeBounds fun front apart some => by
      rw [apart.isEmpty_of_seen some, apart.sees_of_seen some (by decide),
        apart.sees_of_seen some (by decide)]
  unfold lifetimeParameter
  infer_instance

instance : Follows false tail (typeParameter g) (typeParameter g') := by
  have bounds : Follows false tail
      (boundsUntil g fun here => here.seesAny [",", ">", "="])
      (boundsUntil g' fun here => here.seesAny [",", ">", "="]) :=
    follows_boundsUntil fun front apart some => apart.seesAny_of_seen some (by decide)
  have default : Follows false tail
      (ifAhead (·.sees "=") do return (← operator "=") ++ (← g.type true))
      (ifAhead (·.sees "=") do return (← operator "=") ++ (← g'.type true)) :=
    .ifAhead_inside fun front apart some => apart.sees_of_seen some (by decide)
  unfold typeParameter
  infer_instance

instance : Follows false tail (constParameter g) (constParameter g') := by
  have default : Follows false tail
      (ifAhead (·.sees "=") do return (← operator "=") ++ (← constArgument g))
      (ifAhead (·.sees "=") do return (← operator "=") ++ (← constArgument g')) :=
    .ifAhead_inside fun front apart some => apart.sees_of_seen some (by decide)
  unfold constParameter
  infer_instance

instance : Follows false tail (boundParameter g) (boundParameter g') := by
  unfold boundParameter
  refine .bind fun attributes => .ahead fun front apart => ?_
  rw [apart.seesName, apart.seesLifetime, apart.seesWord]
  infer_instance

instance : Follows true tail (binder g) (binder g') := by
  have closing : Takes (operator ">") := takes_operator (by decide)
  have comma : Takes (operator ",") := takes_operator (by decide)
  have parameters : Follows false tail (separated "," (·.sees ">") (boundParameter g))
      (separated "," (·.sees ">") (boundParameter g')) := by
    unfold separated
    exact .separatedBy (fun front apart _ => apart.sees (by decide))
      fun front apart => apart.sees (by decide)
  unfold binder ifAhead
  refine .ahead fun front apart => ?_
  simp only [apart.seesWord]
  split
  · exact .bind fun head => .bind fun opening => .bind_takes fun parameters => inferInstance
  · infer_instance

/-! ### Paths -/

instance (inType : Bool) (separator : Tokens) :
    Follows true tail (pathSegment g inType separator) (pathSegment g' inType separator) := by
  unfold pathSegment
  refine .ahead fun front apart => ?_
  rw [apart.seesWords, apart.seesWord]
  split
  · infer_instance
  · split
    all_goals
      refine .bind fun step => .ahead fun front apart => ?_
      rw [behindSeparator_append apart (·.sees "<") (apart.third.sees (by decide))]
      simp (disch := decide) only [apart.sees]
      infer_instance

instance (inType : Bool) : Follows true tail (pathRest g inType) (pathRest g' inType) := by
  have separator : Takes (operator "::") := takes_operator (by decide)
  unfold pathRest
  refine .loopUpTo (fun bound bound' ih => ?_) fun bound' => ?_
  · unfold pathRest.go
    refine .ahead fun front apart => ?_
    rw [pathGoesOn_append apart]
    refine .ite (.bind_takes fun separator => ?_) (Follows.within _)
    exact .bind (Follows.within _) fun segment => .bind ih fun rest => Follows.within _
  · intro input room value after read apart
    obtain ⟨rfl, rfl⟩ := pure_eq_ok_iff.mp read
    have none : input.rest.expose = [] := by
      rw [Tokens.expose_eq_nil_iff]
      exact List.length_eq_zero_iff.mp (by omega)
    refine ⟨List.suffix_rfl, fun _ => ?_⟩
    cases bound' with
    | zero => rfl
    | succ bound' =>
        have done : pathGoesOn input.rest = false := by
          simp [pathGoesOn, Tokens.sees, Tokens.seesChars, none]
        rw [pathRest.go, bind_of_ok (ahead_eq _), Input.rest_followedBy, pathGoesOn_append apart,
          done]
        rfl

instance (inType : Bool) : Follows true tail (simplePath g inType) (simplePath g' inType) := by
  have separator : Follows true tail (operator? "::") (operator? "::") := .operator? (by decide)
  unfold simplePath
  infer_instance

instance (inType : Bool) :
    Follows true tail (relativeSteps g inType) (relativeSteps g' inType) := by
  have separator : Takes (operator "::") := takes_operator (by decide)
  unfold relativeSteps
  refine .loop fun bound bound' ih => ?_
  unfold relativeSteps.go
  refine .bind_takes fun separator => .bind (Follows.within _) fun segment => ?_
  refine .ahead fun front apart => ?_
  rw [apart.sees (by decide)]
  exact .ite (.bind ih fun rest => Follows.within _) (Follows.within _)

instance (inType : Bool) : Follows true tail (anyPath g inType) (anyPath g' inType) := by
  have trait : Follows true tail
      (ifAhead (·.seesWord "as") do return (← keyword "as") ++ (← simplePath g true).tokens)
      (ifAhead (·.seesWord "as") do return (← keyword "as") ++ (← simplePath g' true).tokens) :=
    .ifAhead fun front apart => apart.seesWord _
  unfold anyPath
  refine .ahead fun front apart => ?_
  rw [apart.sees (by decide)]
  infer_instance

instance (plus : Bool) : Follows true tail (arrowType g plus) (arrowType g' plus) := by
  unfold arrowType
  refine .ahead fun front apart => ?_
  rw [apart.sees (by decide)]
  infer_instance

instance (plus : Bool) : Follows true tail (returnType g plus) (returnType g' plus) := by
  unfold returnType; infer_instance

instance (path : Path) : Follows true tail (pathCall g path) (pathCall g' path) := by
  have separator : Follows true tail (operator? "::") (operator? "::") := .operator? (by decide)
  unfold pathCall functionArguments
  infer_instance

/-! ### Types -/

instance (consts : Bool) : Follows true tail (constMark consts) (constMark consts) := by
  unfold constMark
  refine .ahead fun front apart => ?_
  rw [apart.seesGroup, apart.seesWord]
  infer_instance

instance (consts : Bool) : Follows true tail (traitBound g consts) (traitBound g' consts) := by
  have modifier : Follows true tail (operator? "?") (operator? "?") := .operator? (by decide)
  unfold traitBound
  refine .bind fun early => .bind fun mark => .bind fun modifier => ?_
  dsimp only
  split
  all_goals
    refine .bind fun late => .bind fun path => .ahead fun front apart => ?_
    rw [seesCall_append apart]
    infer_instance

instance : Follows true tail captured captured := by
  unfold captured
  refine .ahead fun front apart => ?_
  rw [apart.seesLifetime, apart.seesName, apart.seesWord]
  infer_instance

instance : Follows true tail captureBound captureBound := by
  have comma : Takes (operator ",") := takes_operator (by decide)
  have closing : Takes (operator ">") := takes_operator (by decide)
  have items : Follows false tail (do captures ((← ahead).size + 1))
      (do captures ((← ahead).size + 1)) := by
    refine .loop fun bound bound' ih => ?_
    unfold captures
    refine .ahead fun front apart => ?_
    rw [apart.sees (by decide)]
    refine .ite (Follows.within _) (.bind (Follows.within _) fun first => ?_)
    refine .ahead_inside fun front apart inside => ?_
    have some := inside.resolve_left Bool.false_ne_true
    rw [apart.sees_of_seen some (by decide), apart.sees_of_seen some (by decide)]
    refine .ite (.bind_takes fun mark => ?_) (Follows.within _)
    exact .bind ih fun rest => Follows.within _
  unfold captureBound
  refine .bind fun head => .bind fun opening => ?_
  rw [← bind_assoc]
  exact .bind_takes fun items => inferInstance

instance (captures consts : Bool) :
    Follows true tail (anyBound g captures consts) (anyBound g' captures consts) := by
  unfold anyBound
  refine .ahead fun front apart => ?_
  rw [apart.seesLifetime, apart.seesWord, apart.seesGroup]
  dsimp only
  infer_instance

instance : Follows true tail (boundRule g) (boundRule g') := by unfold boundRule; infer_instance

omit [MovesForward g] [Grows g g'] [GrowsBefore tail g g'] in
theorem follows_sumWhile {more : Tokens → Bool} {bound bound' : TokenReader Bound}
    [Follows true tail bound bound'] (sum : BoundSum)
    (same : ∀ front : Tokens, front.Apart tail → more (front ++ tail) = more front) :
    Follows true tail (sumWhile more bound sum) (sumWhile more bound' sum) := by
  have plus : Takes (operator "+") := takes_operator (by decide)
  unfold sumWhile
  refine .loopFrom (fun count count' ih sum => ?_) sum
  unfold sumWhile.go
  refine .ahead fun front apart => ?_
  rw [apart.sees (by decide)]
  refine .ite (.bind_takes fun plus => .ahead fun front apart => ?_) (Follows.within _)
  rw [same front apart]
  exact .ite (.bind (Follows.within _) fun next => ih _) (Follows.within _)

omit [MovesForward g] [Grows g g'] [GrowsBefore tail g g'] in
instance (plus : Bool) (bound bound' : TokenReader Bound) [Follows true tail bound bound'] :
    Follows true tail (boundSum plus bound) (boundSum plus bound') := by
  have sum (sum : BoundSum) :
      Follows true tail (sumWhile (fun here => seesBound here || here.seesGroup .bracket) bound sum)
        (sumWhile (fun here => seesBound here || here.seesGroup .bracket) bound' sum) :=
    follows_sumWhile sum fun front apart => by rw [seesBound_append apart, apart.seesGroup]
  unfold boundSum
  infer_instance

/-- The start of a type of objects is told only in an error. -/
instance (start start' : Span) (plus : Bool) :
    Follows true tail (objectBounds g start plus) (objectBounds g' start' plus) := by
  unfold objectBounds; infer_instance

instance : Follows true tail (lifetimeObject g) (lifetimeObject g') where
  follows input := by
    unfold lifetimeObject
    intro value after read apart
    obtain ⟨span, between, placed, read⟩ := bind_eq_ok_iff.mp read
    cases placed
    have placed : place (input.followedBy tail) =
        .ok ((input.followedBy tail).place, input.followedBy tail) := rfl
    rw [bind_of_ok placed]
    exact Follows.follows _ _ _ read apart

instance (plus : Bool) : Follows true tail (dynType g plus) (dynType g' plus) := by
  have star : Follows true tail (operator? "*") (operator? "*") := .operator? (by decide)
  unfold dynType
  exact .ahead fun front apart => inferInstance

instance (plus : Bool) : Follows true tail (implType g plus) (implType g' plus) := by
  unfold implType; infer_instance

instance (first : Bool) : Follows true [] (bareParameter g first) (bareParameter g' first) := by
  unfold bareParameter; infer_instance

instance (first : Bool) (bound : Nat) :
    Follows true [] (bareParameters.go g first bound) (bareParameters.go g' first bound) := by
  induction bound generalizing first with
  | zero => unfold bareParameters.go; infer_instance
  | succ bound ih => unfold bareParameters.go; infer_instance

instance : Follows true [] (bareParameters g) (bareParameters g') := by
  unfold bareParameters; infer_instance

instance : Follows true tail convention convention := by
  have name : Follows true tail (ifAhead (·.seesString) do return [← literal])
      (ifAhead (·.seesString) do return [← literal]) :=
    .ifAhead fun front apart => apart.seesString
  unfold convention
  exact .ifAhead fun front apart => apart.seesWord _

instance : Follows true tail (functionType g) (functionType g') := by
  unfold functionType; infer_instance

instance (path : Path) : Follows true tail (pathCalls g path) (pathCalls g' path) := by
  have takes (path : Path) : Takes (pathCall g path) := by
    unfold pathCall functionArguments; infer_instance
  have step (bound bound' : Nat)
      (ih : ∀ state : Path × Option TypeCode, FollowsWithin bound true tail
        (pathCalls.go g state.1 state.2 bound) (pathCalls.go g' state.1 state.2 bound'))
      (state : Path × Option TypeCode) : FollowsWithin (bound + 1) true tail
        (pathCalls.go g state.1 state.2 (bound + 1))
        (pathCalls.go g' state.1 state.2 (bound' + 1)) := by
    unfold pathCalls.go
    refine .ahead fun front apart => ?_
    rw [seesCall_append apart]
    refine .ite (.bind_takes fun found => ?_) (Follows.within _)
    exact .ite (.bind (Follows.within _) fun more => ih (_, _))
      (.bind (Follows.within _) fun more => ih (_, _))
  unfold pathCalls
  exact .loopFrom step (path, none)

instance (lifetimes : Tokens) (plus : Bool) :
    Follows true tail (pathType g lifetimes plus) (pathType g' lifetimes plus) := by
  have more (sum : BoundSum) :
      Follows true tail (sumWhile seesBound (anyBound g false false) sum)
        (sumWhile seesBound (anyBound g' false false) sum) :=
    follows_sumWhile sum fun front apart => seesBound_append apart
  unfold pathType
  refine .bind fun path => .bind fun found => ?_
  dsimp only
  refine .ahead fun front apart => ?_
  simp (disch := decide) only [apart.sees]
  infer_instance

instance : Follows true tail (pointerType g) (pointerType g') := by
  unfold pointerType
  refine .bind fun star => .ahead fun front apart => ?_
  rw [apart.seesWord, apart.seesWord]
  infer_instance

instance : Follows true tail (referenceType g) (referenceType g') := by
  unfold referenceType; infer_instance

instance (generic : Bool) : Follows true tail (hiddenType g generic) (hiddenType g' generic) := by
  unfold hiddenType
  refine .bind fun inner => ?_
  dsimp only
  refine .ahead fun front apart => ?_
  rw [behindSeparator_append apart (fun next => next.word?.isSome) (by rw [apart.third.word?]),
    behindSeparator_append apart (·.sees "<") (apart.third.sees (by decide)),
    apart.sees (by decide)]
  split
  · split <;> infer_instance
  · split
    · split <;> infer_instance
    · infer_instance

instance : Follows true [] (parenthesised g) (parenthesised g') := by
  unfold parenthesised tupleRest ifAhead; infer_instance

instance (plus : Bool) : Follows true tail (parenthesisType g plus) (parenthesisType g' plus) := by
  have sum (sum : BoundSum) :
      Follows true tail (sumWhile (fun _ => true) (anyBound g false false) sum)
        (sumWhile (fun _ => true) (anyBound g' false false) sum) :=
    follows_sumWhile sum fun front apart => rfl
  unfold parenthesisType
  refine .bind fun content => ?_
  dsimp only
  split
  · infer_instance
  · infer_instance
  · refine .ahead fun front apart => ?_
    rw [apart.sees (by decide)]
    infer_instance

instance (plus : Bool) : Follows true tail (boundType g plus) (boundType g' plus) := by
  unfold boundType
  refine .bind fun lifetimes => .ahead fun front apart => ?_
  simp only [apart.seesWords, apart.seesName]
  infer_instance

instance : Follows true [] (arrayType g) (arrayType g') := by
  unfold arrayType ifAhead; infer_instance

instance (plus generic : Bool) :
    Follows true tail (typeRule g plus generic) (typeRule g' plus generic) := by
  unfold typeRule
  refine .ahead fun front apart => ?_
  simp only [apart.seesInvisible, apart.seesWord, apart.seesGroup, apart.seesWords,
    seesPath_append apart, apart.seesLifetime]
  rw [apart.sees (by decide), apart.sees (by decide), apart.sees (by decide)]
  infer_instance

/-! ### Patterns -/

instance : Follows true tail rangeLimits rangeLimits := by
  unfold rangeLimits
  refine .ahead fun front apart => ?_
  simp (disch := decide) only [apart.sees]
  infer_instance

instance : Follows true tail (constBlock g) (constBlock g') := by
  unfold constBlock; infer_instance

/-- A range is open at the end of the tokens as well as at a mark. Where only empty invisible groups
are left, it fails. -/
instance : Follows true tail (rangeEnd g) (rangeEnd g') := by
  unfold rangeEnd
  refine .ahead fun front apart => ?_
  rw [apart.seesSignedLiteral, seesPath_append apart, apart.seesWord]
  by_cases same : rangeIsOpen (front ++ tail) = rangeIsOpen front
  · rw [same]
    infer_instance
  · obtain ⟨none, closed⟩ := rangeIsOpen_append apart same
    have literal : front.seesSignedLiteral = false := by
      simp [Tokens.seesSignedLiteral, Tokens.seesLiteral, Tokens.sees, Tokens.seesChars, none]
    have path : seesPath front = false := by
      simp [seesPath, Tokens.seesName, Tokens.seesWords, Tokens.seesWord, Tokens.word?, Tokens.sees,
        Tokens.seesChars, none]
    have constant : front.seesWord "const" = false := by
      simp [Tokens.seesWord, Tokens.word?, none]
    simp only [closed, literal, path, constant, Bool.false_eq_true, if_false]
    infer_instance

instance (start : Tokens) : Follows true tail (rangeFrom g start) (rangeFrom g' start) := by
  unfold rangeFrom; infer_instance

instance : Follows true tail (literalPattern g) (literalPattern g') := by
  unfold literalPattern
  refine .bind fun start => .ahead fun front apart => ?_
  rw [apart.sees (by decide)]
  infer_instance

instance : Follows true tail (openPattern g) (openPattern g') := by
  unfold openPattern; infer_instance

instance (isSigned : Bool) (text : List Char) (place span : Span) :
    Follows true tail (position isSigned text place span) (position isSigned text place span) := by
  unfold position
  split
  · split <;> infer_instance
  · infer_instance

instance : Follows true tail signedNumber signedNumber := by
  unfold signedNumber
  refine .bind fun number => ?_
  dsimp only
  split <;> infer_instance

instance : Follows true tail member member := by
  unfold member
  refine .ahead fun front apart => ?_
  rw [behindMinus_append apart (·.seesInteger) apart.second.seesInteger, apart.seesName,
    apart.seesInteger]
  infer_instance

instance : Follows true [] (fieldPattern g) (fieldPattern g') := by
  unfold fieldPattern; infer_instance

instance (bound : Nat) :
    Follows true [] (fieldPatterns.go g bound) (fieldPatterns.go g' bound) := by
  induction bound with
  | zero => unfold fieldPatterns.go; infer_instance
  | succ bound ih => unfold fieldPatterns.go; infer_instance

instance : Follows true [] (fieldPatterns g) (fieldPatterns g') := by
  unfold fieldPatterns; infer_instance

instance : Follows true [] (patternList g) (patternList g') := by
  unfold patternList; infer_instance

instance : Follows true [] (slicePattern g) (slicePattern g') := by
  unfold slicePattern
  refine .bind fun pattern => ?_
  split <;> infer_instance

instance : Follows true tail (pathPattern g) (pathPattern g') := by
  unfold pathPattern
  refine .bind fun path => .ahead fun front apart => ?_
  rw [apart.seesGroup, apart.seesGroup, apart.sees (by decide), apart.sees (by decide),
    apart.sees (by decide)]
  infer_instance

instance : Follows true tail (namePattern g) (namePattern g') := by
  have inner : Follows true tail
      (ifAhead (·.sees "@") do return (← operator "@") ++ (← g.single).tokens)
      (ifAhead (·.sees "@") do return (← operator "@") ++ (← g'.single).tokens) :=
    .ifAhead fun front apart => apart.sees (by decide)
  unfold namePattern
  refine .bind fun reference => .bind fun access => .ahead fun front apart => ?_
  rw [apart.seesWord]
  infer_instance

instance : Follows true tail (referencePattern g) (referencePattern g') := by
  unfold referencePattern; infer_instance

instance : Follows true tail (boxPattern g) (boxPattern g') := by
  unfold boxPattern; infer_instance

instance : Follows true tail (singleRule g) (singleRule g') := by
  unfold singleRule
  refine .ahead fun front apart => ?_
  simp only [seesPathPattern_append apart, apart.seesWord, apart.seesLiteral, apart.seesName,
    apart.seesWords, apart.seesGroup]
  rw [apart.sees (by decide), apart.sees (by decide), apart.sees (by decide),
    apart.sees (by decide)]
  infer_instance

instance : Follows true tail (patternRule g) (patternRule g') := by
  have bar : Takes (operator "|") := takes_operator (by decide)
  have leading : Follows true tail (operator? "|") (operator? "|") := .operator? (by decide)
  have more : Follows true tail
      (repeatWhile seesAlternative do return (← operator "|") ++ (← g.single).tokens)
      (repeatWhile seesAlternative do return (← operator "|") ++ (← g'.single).tokens) :=
    .repeatWhile fun front apart => seesAlternative_append apart
  unfold patternRule
  infer_instance

end Grammar

end MacroExpansion
