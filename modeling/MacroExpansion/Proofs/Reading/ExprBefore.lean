import MacroExpansion.Proofs.Reading.TypeBefore

/-!
# Expressions in front of a mark

An expression is read the same with a comma or an arrow behind its tokens. Neither goes on an
operator, an open range, a jump without a value or a path, and a range stops in front of it as at
the end of the tokens.

Only the binder of a closure, such as `for<'a>`, is told from a loop by what is behind its first
parameter. Where that is the end of the tokens a loop is looked for, and there are not enough tokens
left for one.
-/

namespace MacroExpansion

namespace Grammar

open TokenReader

-- As for the rules that move forward, the search takes a step for each part of a rule.
set_option synthInstance.maxSize 1024

variable {tail : Tokens} {g g' : Grammar} [MovesForward g] [Grows g g'] [GrowsBefore tail g g']

/-! ### Operators -/

instance : Follows true tail exprLimits exprLimits := by
  unfold exprLimits
  refine .ahead fun front apart => ?_
  rw [apart.sees (by decide), apart.sees (by decide)]
  infer_instance

/-- A range stops at the end of the tokens as well as at a mark. Where only empty invisible groups
are left, it finds no end. -/
instance [TakesToken g] (structs : Bool) (limits : Tokens) :
    Follows true tail (rangeStop g structs limits) (rangeStop g' structs limits) where
  follows input := by
    unfold rangeStop
    refine .ahead fun apart => ?_
    by_cases same : rangeStops structs (input.rest ++ tail) = rangeStops structs input.rest
    · rw [same]
      exact Follows.follows input
    · obtain ⟨none, goesOn⟩ := rangeStops_append apart same
      rw [goesOn, Bool.and_false, if_neg Bool.false_ne_true]
      intro value after read _
      have fewer := Takes.takes read
      rw [Tokens.expose_eq_nil_iff.mp none] at fewer
      exact absurd fewer (Nat.not_lt_zero _)

instance (operand : Expr) : Follows true tail (castTo g operand) (castTo g' operand) := by
  unfold castTo
  refine .bind fun head => .bind fun type => .ahead fun front apart => ?_
  rw [afterCast?_append apart]
  split <;> infer_instance

instance [TakesToken g] (structs : Bool) (base : Precedence) (left : Expr) :
    Follows true tail (extend g structs base left) (extend g' structs base left) := by
  unfold extend
  refine .ahead fun front apart => ?_
  rw [binaryOperator?_append apart, seesAssign_append apart, apart.sees (by decide),
    apart.seesWord]
  split
  · infer_instance
  · split <;> infer_instance

instance [TakesToken g] (structs : Bool) (base : Precedence) (left : Expr) :
    Follows true tail (climb g structs base left) (climb g' structs base left) := by
  unfold climb
  refine .loopFrom (fun bound bound' ih left => ?_) left
  unfold climb.go
  exact .bind_option (fun left => ih left) (Follows.within _)

instance [TakesToken g] (structs : Bool) (precedence : Precedence) :
    Follows true tail (operandRule g structs precedence)
      (operandRule g' structs precedence) := by
  unfold operandRule
  refine .bind fun first => .loopFrom (fun bound bound' ih right => ?_) first
  unfold operandRule.go
  refine .ahead fun front apart => ?_
  rw [nextPrecedence_append apart]
  refine .ite (.bind_option (fun right => ?_) (Follows.within _)) (Follows.within _)
  exact .bind (Follows.within _) fun right => ih right

instance [TakesToken g] (structs : Bool) :
    Follows true tail (exprRule g structs) (exprRule g' structs) := by
  unfold exprRule; infer_instance

/-! ### What follows an expression directly -/

instance (bound : Nat) : Follows true [] (elements.go g bound) (elements.go g' bound) := by
  induction bound with
  | zero => unfold elements.go; infer_instance
  | succ bound ih => unfold elements.go; infer_instance

instance : Follows true [] (elements g) (elements g') := by unfold elements; infer_instance

instance : Follows true [] (elementTokens g) (elementTokens g') := by
  unfold elementTokens; infer_instance

instance (span : Span) (start : Nat) (parts : List (List Char)) :
    Follows true tail (positions span start parts) (positions span start parts) := by
  induction parts generalizing start with
  | nil => unfold positions; infer_instance
  | cons part rest ih => unfold positions; infer_instance

instance (dots : Tokens) : Follows true tail (selection g dots) (selection g' dots) := by
  have generic : Follows true tail (ifAhead (·.sees "::") (genericArguments g))
      (ifAhead (·.sees "::") (genericArguments g')) :=
    .ifAhead fun front apart => apart.sees (by decide)
  unfold selection
  refine .ahead fun front apart => ?_
  rw [apart.seesWord, apart.seesName]
  split
  · infer_instance
  · split
    · refine .bind fun field => .bind fun generic => .ahead fun front apart => ?_
      rw [apart.seesGroup]
      infer_instance
    · infer_instance

instance : Follows true tail (dotted g) (dotted g') := by
  unfold dotted
  refine .bind fun dot => .ahead fun front apart => ?_
  rw [behindMinus_append apart (·.seesFloat) apart.second.seesFloat, apart.seesFloat]
  infer_instance

instance (base : Expr) : Follows true tail (follow g base) (follow g' base) := by
  unfold follow
  refine .ahead fun front apart => ?_
  rw [apart.seesGroup, apart.seesGroup, apart.seesDot, apart.sees (by decide)]
  infer_instance

instance (base : Expr) : Follows true tail (trail g base) (trail g' base) := by
  unfold trail
  refine .loopFrom (fun bound bound' ih base => ?_) base
  unfold trail.go
  exact .bind_option (fun base => ih base) (Follows.within _)

/-! ### Atoms -/

instance (label : Tokens) : Follows true tail (blockExpr g label) (blockExpr g' label) := by
  unfold blockExpr; infer_instance

omit [MovesForward g] in
/-- A branch makes a round for each `if`, so that there are enough of them for its tokens. -/
theorem followsAt_branch {bound bound' : Nat} (le : bound ≤ bound') {input : Input}
    (room : input.rest.visible.length ≤ bound) (seen : input.rest.seesWord "if" = true) :
    FollowsAt input true tail (branch g bound) (branch g' bound') := by
  induction bound generalizing bound' input with
  | zero =>
      have none : input.rest.expose = [] :=
        Tokens.expose_eq_nil_iff.mpr (List.length_eq_zero_iff.mp (by omega))
      simp [Tokens.seesWord, Tokens.word?, none] at seen
  | succ bound ih =>
      obtain ⟨bound', rfl⟩ := Nat.exists_eq_succ_of_ne_zero (n := bound') (by omega)
      unfold branch
      refine .bind (Follows.follows _) fun head one taken _ => ?_
      refine .bind (Follows.follows _) fun condition two _ toTwo => ?_
      refine .bind (Follows.follows _) fun yes three _ toThree => .ahead fun apart => ?_
      rw [apart.seesWord]
      refine .ite (fun _ => ?_) fun _ => Follows.follows _
      refine .bind (Follows.follows _) fun otherwise four _ toFour => .ahead fun apart => ?_
      rw [apart.seesWord, apart.seesGroup]
      refine .ite (fun again => ?_) fun _ => Follows.follows _
      refine .bind (ih (by omega) ?_ again) fun more five _ _ => Follows.follows _
      have fewer := Takes.takes taken
      have rest := ((toFour.trans toThree).trans toTwo).length_le
      omega

instance : Follows true [] (arm g) (arm g') := by
  unfold arm ifAhead; infer_instance

instance : Follows true tail (matchArms g) (matchArms g') := by
  unfold matchArms; infer_instance

instance : Follows true tail (whileLoop g) (whileLoop g') := by unfold whileLoop; infer_instance

instance : Follows true tail (forLoop g) (forLoop g') := by unfold forLoop; infer_instance

instance (word : String) : Follows true tail (markedBlock g word) (markedBlock g' word) := by
  unfold markedBlock; infer_instance

instance : Follows true tail (labelled g) (labelled g') := by
  unfold labelled
  refine .bind fun life => .bind fun colon => ?_
  dsimp only
  refine .ahead fun front apart => ?_
  simp only [apart.seesWord, apart.seesGroup]
  infer_instance

instance : Follows true [] (structContent g) (structContent g') := by
  unfold structContent fieldValue ifAhead; infer_instance

instance (structs : Bool) (path : Path) :
    Follows true tail (named g structs path) (named g' structs path) := by
  unfold named
  refine .ahead fun front apart => ?_
  rw [apart.sees (by decide), apart.sees (by decide), apart.seesGroup]
  infer_instance

instance (structs : Bool) : Follows true tail (hiddenExpr g structs) (hiddenExpr g' structs) := by
  unfold hiddenExpr
  refine .bind fun inner => ?_
  dsimp only
  split
  · refine .bind fun more => .bind fun whole => ?_
    split <;> infer_instance
  · infer_instance

instance : Follows true tail (closureParameter g) (closureParameter g') := by
  have type : Follows true tail
      (ifAhead (·.sees ":") do return (← operator ":") ++ (← g.type true))
      (ifAhead (·.sees ":") do return (← operator ":") ++ (← g'.type true)) :=
    .ifAhead fun front apart => apart.sees (by decide)
  unfold closureParameter
  infer_instance

instance (structs : Bool) : Follows true tail (closure g structs) (closure g' structs) := by
  have comma : Takes (operator ",") := takes_operator (by decide)
  have parameters : Follows true tail (separated "," (·.sees "|") (closureParameter g))
      (separated "," (·.sees "|") (closureParameter g')) := by
    unfold separated
    exact .separatedBy (fun front apart _ => apart.sees (by decide))
      fun front apart => apart.sees (by decide)
  unfold closure
  refine .bind fun lifetimes => .bind fun constant => .bind fun still => .bind fun deferred =>
    .bind fun capture => ?_
  dsimp only
  refine .bind fun opening => .bind fun parameters => .bind fun closing =>
    .ahead fun front apart => ?_
  rw [apart.sees (by decide)]
  infer_instance

instance (word : String) : Follows true tail (jump g word) (jump g' word) := by
  unfold jump
  refine .bind fun head => .ahead fun front apart => ?_
  rw [seesExpr_append apart]
  infer_instance

instance : Fails (bareLabel g) where
  fails {input after value} read := by
    unfold bareLabel at read
    obtain ⟨start, one, looked, read⟩ := bind_eq_ok_iff.mp read
    obtain ⟨expr, two, value, read⟩ := bind_eq_ok_iff.mp read
    obtain ⟨whole, three, written, read⟩ := bind_eq_ok_iff.mp read
    exact absurd read Fails.fails

instance (structs : Bool) : Follows true tail (breakJump g structs) (breakJump g' structs) := by
  unfold breakJump
  refine .bind fun head => .ahead fun front apart => ?_
  rw [behindLifetime_append apart (·.sees ":") (apart.second.sees (by decide))]
  split
  · infer_instance
  · refine .bind fun label => .ahead fun front apart => ?_
    rw [seesExpr_append apart, apart.seesGroup]
    infer_instance

instance : Follows true tail continueJump continueJump := by
  unfold continueJump; infer_instance

instance : Follows true tail (untouched? g) (untouched? g') := by
  unfold untouched?
  refine .ahead fun front apart => ?_
  rw [behindWord_append apart _ (·.sees "#") (apart.second.sees (by decide)), apart.seesWord]
  infer_instance

instance [TakesToken g] (structs : Bool) :
    Follows true tail (letCondition g structs) (letCondition g' structs) := by
  unfold letCondition; infer_instance

instance : Follows true [] (arrayContent g) (arrayContent g') := by
  unfold arrayContent; infer_instance

instance : Follows true tail (asyncBlock g) (asyncBlock g') := by
  unfold asyncBlock; infer_instance

instance (structs : Bool) : Follows true tail (jump? g structs) (jump? g' structs) := by
  unfold jump?
  refine .ahead fun front apart => ?_
  simp only [apart.seesWord]
  infer_instance

instance : Follows true tail referenceModifiers referenceModifiers := by
  unfold referenceModifiers
  refine .ahead fun front apart => ?_
  rw [behindWord_append apart _ (fun next => next.seesWord "mut" || next.seesWord "const")
    (by rw [apart.second.seesWord, apart.second.seesWord])]
  split
  · refine .bind fun raw => .ahead fun front apart => ?_
    rw [apart.seesWord]
    infer_instance
  · infer_instance

/-- Where the binder of a closure lacks what follows its first parameter, there is no loop
either. -/
theorem forLoop_fails [TakesToken g] {input after : Input} {value : Tokens}
    (apart : input.rest.Apart tail)
    (other : seesBinder (input.rest ++ tail) ≠ seesBinder input.rest) :
    forLoop g input ≠ .ok (value, after) := by
  obtain ⟨-, -, spacing, span, rest, behind, short⟩ := seesBinder_append apart other
  intro read
  unfold forLoop at read
  obtain ⟨head, one, toOne, further⟩ := bind_eq_ok_iff.mp read
  obtain ⟨pattern, two, toTwo, further⟩ := bind_eq_ok_iff.mp further
  obtain ⟨link, three, toThree, further⟩ := bind_eq_ok_iff.mp further
  obtain ⟨values, four, toFour, further⟩ := bind_eq_ok_iff.mp further
  obtain ⟨body, five, toFive, -⟩ := bind_eq_ok_iff.mp further
  obtain ⟨place, left, front, -, rfl⟩ := keyword_eq_ok toOne
  obtain ⟨place', left', front', -, rfl⟩ := keyword_eq_ok toThree
  have second : input.rest.second = left := by simp [Tokens.second, front]
  rw [second] at behind
  -- What is left of three tokens after the pattern has to hold `in`, the values and the body.
  have takesValues := Takes.takes toFour
  have takesBody := Takes.takes toFive
  have suffix := (Forward.leads toTwo).rest
  have all : two.rest.visible = left.visible := by
    refine suffix.eq_of_length_le ?_
    have three : two.rest.visible.length = left'.visible.length + 1 := by
      rw [Tokens.visible_of_expose front', List.length_cons]
    rw [behind, List.length_cons, three]
    dsimp only at takesValues
    omega
  rw [behind, Tokens.visible_of_expose front'] at all
  cases all

instance [TakesToken g] : Follows true tail (control? g) (control? g') where
  follows input := by
    unfold control?
    refine .ahead fun apart => ?_
    rw [behindWord_append apart "try" (·.seesGroup .brace) (apart.second.seesGroup _),
      behindWord_append apart "const" (·.seesGroup .brace) (apart.second.seesGroup _)]
    simp only [apart.seesWord, apart.seesGroup]
    refine .ite (fun seen => ?_) fun _ => .ite (fun _ => Follows.follows _) fun _ => ?_
    · refine .bind (followsAt_branch ?_ input.rest.length_visible_le seen)
        fun tokens between _ _ => Follows.follows _
      rw [Tokens.size_append]
      exact Nat.le_add_right _ _
    · by_cases same : seesBinder (input.rest ++ tail) = seesBinder input.rest
      · rw [same]
        exact Follows.follows _
      · obtain ⟨word, closed, -⟩ := seesBinder_append apart same
        rw [if_pos (by rw [word, closed]; rfl)]
        intro value after read _
        obtain ⟨tokens, between, read, -⟩ := bind_eq_ok_iff.mp read
        exact absurd read (forLoop_fails apart same)

/-- Where `for` begins no closure it begins a loop. -/
theorem atomRule_fails [TakesToken g] {structs : Bool} {input after : Input} {value : Expr}
    (apart : input.rest.Apart tail) (shown : ¬input.rest.seesInvisible = true)
    (told : seesBinder (input.rest ++ tail) ≠ seesBinder input.rest) :
    atomRule g structs input ≠ .ok (value, after) := by
  obtain ⟨seen, closed, -⟩ := seesBinder_append apart told
  have word : input.rest.word? = some "for" := by simpa [Tokens.seesWord] using seen
  obtain ⟨span, rest, front⟩ := Tokens.front_of_word? word
  have literal : input.rest.seesLiteral = false := by simp [Tokens.seesLiteral, front]
  have async : seesAsyncBlock input.rest = false := by
    simp [seesAsyncBlock, Tokens.seesWord, word]
  have closure : seesClosure input.rest = false := by
    simp [seesClosure, closed, Tokens.sees, Tokens.seesChars, front, Tokens.seesWord, word]
  have other (text : String) (ne : "for" ≠ text) : input.rest.seesWord text = false := by
    simpa [Tokens.seesWord, word] using ne
  have untouched : untouched? g input = .ok (none, input) := by
    rw [untouched?, bind_of_ok (ahead_eq _), other _ (by decide), other _ (by decide)]
    rfl
  have path : seesExprPath input.rest = false := by
    have reserved : Identifier.isName "for" = false := by decide
    simp [seesExprPath, seesPath, Tokens.seesName, reserved, Tokens.sees, Tokens.seesChars, front,
      Tokens.seesWords, Tokens.seesWord, word]
  have group (delimiter : Delimiter) : input.rest.seesGroup delimiter = false := by
    simp [Tokens.seesGroup, front]
  have jump : jump? g structs input = .ok (none, input) := by
    rw [jump?, bind_of_ok (ahead_eq _), other _ (by decide), other _ (by decide),
      other _ (by decide), other _ (by decide)]
    rfl
  intro read
  unfold atomRule at read
  simp only [bind_of_ok (ahead_eq _), shown, literal, async, closure, bind_of_ok untouched, path,
    group, bind_of_ok jump, other "let" (by decide), Bool.false_eq_true, if_false] at read
  obtain ⟨found, between, read, -⟩ := bind_eq_ok_iff.mp read
  rw [control?, bind_of_ok (ahead_eq _), other _ (by decide), other _ (by decide), seen, closed]
    at read
  obtain ⟨loop, after, read, -⟩ := bind_eq_ok_iff.mp read
  exact forLoop_fails apart told read

instance [TakesToken g] (structs : Bool) :
    Follows true tail (atomRule g structs) (atomRule g' structs) where
  follows input := by
    by_cases same : seesBinder (input.rest ++ tail) = seesBinder input.rest
    · unfold atomRule
      refine .ahead fun apart => ?_
      rw [apart.seesInvisible, apart.seesLiteral, seesAsyncBlock_append apart,
        seesClosure_append apart same, seesExprPath_append apart, apart.sees (by decide),
        apart.seesLifetime]
      simp only [apart.seesGroup, apart.seesWord]
      suffices follows : Follows true tail _ _ from follows.follows input
      refine .ite <| .ite <| .ite <| .ite <| .bind_option (fun found => inferInstance) ?_
      refine .ite <| .ite <| .bind_option (fun found => inferInstance) ?_
      refine .ite <| .ite <| .bind_option (fun found => inferInstance) ?_
      infer_instance
    · by_cases shown : input.rest.seesInvisible = true
      · unfold atomRule
        refine .ahead fun apart => ?_
        rw [apart.seesInvisible, if_pos shown, if_pos shown]
        exact Follows.follows _
      · exact fun value after read apart => absurd read (atomRule_fails apart shown same)

variable [TakesToken g]

instance (structs : Bool) (start attributes : Tokens) :
    Follows true tail (attributedAtom g structs start attributes)
      (attributedAtom g' structs (start ++ tail) attributes) := by
  unfold attributedAtom
  refine .bind fun atom => .bind fun expr => ?_
  split <;> infer_instance

instance (structs : Bool) : Follows true tail (unaryRule g structs) (unaryRule g' structs) := by
  unfold unaryRule
  refine .ahead fun start _ => .bind fun attributes => .ahead fun front apart => ?_
  have signs : ["*", "!", "-"].find? (front ++ tail).sees = ["*", "!", "-"].find? front.sees := by
    simp (disch := decide) only [List.find?, apart.sees]
  rw [apart.seesInvisible, apart.sees (by decide), signs]
  refine .ite <| .ite ?_
  split <;> infer_instance

instance : Follows true [] (leadingPart g) (leadingPart g') := by
  unfold leadingPart
  refine .bind fun here => .ite <| .bind_option (fun expr => inferInstance) ?_
  infer_instance

instance : Follows true [] (leadingRule g) (leadingRule g') := by
  unfold leadingRule; infer_instance

end Grammar

end MacroExpansion
