import MacroExpansion.Proofs.Reading.ExprBefore
import MacroExpansion.Proofs.Reading.Receiver

/-!
# Deeper grammars

A grammar that nests deeper reads whatever one that nests less deep reads, and reads it as the same.
So it does not matter how deep the grammar for some tokens nests, once it reads them.

What is left for this are items and statements. They are no part of an expression except inside a
block, so there is nothing to say of what is behind them.
-/

namespace MacroExpansion

namespace Grammar

open TokenReader

-- As for the rules that move forward, the search takes a step for each part of a rule.
set_option synthInstance.maxSize 1024

variable {g g' : Grammar} [MovesForward g] [Grows g g'] [LooksAtFront g] [LooksAtFront g']

/-! ### Functions -/

instance (item item' : TokenReader Draft) [Follows true [] item item'] :
    Follows true [] (withAttributes g item) (withAttributes g' item') := by
  unfold withAttributes; infer_instance

instance (stop : Tokens → Bool) : Follows true [] (boundsUntil g stop) (boundsUntil g' stop) := by
  unfold boundsUntil; infer_instance

instance : Follows true [] (typeParameter g) (typeParameter g') := by
  unfold typeParameter ifAhead; infer_instance

instance : Follows true [] (constParameter g) (constParameter g') := by
  unfold constParameter ifAhead; infer_instance

instance (item item' : TokenReader AngleItem) [Follows true [] item item'] (bound : Nat) :
    Follows true [] (angleItems.go item bound) (angleItems.go item' bound) := by
  induction bound with
  | zero => unfold angleItems.go; infer_instance
  | succ bound ih => unfold angleItems.go; infer_instance

instance (item item' : TokenReader AngleItem) [Follows true [] item item'] :
    Follows true [] (angleItems item) (angleItems item') := by
  unfold angleItems; infer_instance

instance : Follows true [] (genericParameter g) (genericParameter g') := by
  unfold genericParameter; infer_instance

instance : Follows true [] (generics? g) (generics? g') := by unfold generics?; infer_instance

instance : Follows true [] (generics g) (generics g') := by unfold generics; infer_instance

instance : Follows true [] (wherePredicate g) (wherePredicate g') := by
  unfold wherePredicate; infer_instance

instance : Follows true [] (whereClause? g) (whereClause? g') := by
  unfold whereClause?; infer_instance

instance : Follows true [] (whereClause g) (whereClause g') := by
  unfold whereClause; infer_instance

instance : Follows true [] (receiver g) (receiver g') := by unfold receiver ifAhead; infer_instance

instance : Follows true [] (parameter g) (parameter g') where
  follows input := by
    by_cases lost : ∃ error found, receiver g input = .error error ∧ receiver g' input = .ok found
    · obtain ⟨error, ⟨found, done⟩, missed, there⟩ := lost
      exact fun value after read _ => absurd read (parameter_fails missed there)
    · have tried : FollowsAt input true [] (TokenReader.succeeds (receiver g))
          (TokenReader.succeeds (receiver g')) :=
        .succeeds (Follows.follows input) fun error missed value after there =>
          lost ⟨error, _, missed, there⟩
      unfold parameter
      refine .ahead fun _ => ?_
      rw [List.append_nil]
      refine .ite (fun _ => Follows.follows _) fun _ => ?_
      exact .bind tried fun found between _ _ => Follows.follows _

instance (before : Option Bool) (bound : Nat) :
    Follows true [] (parameters.go g before bound) (parameters.go g' before bound) := by
  induction bound generalizing before with
  | zero => unfold parameters.go; infer_instance
  | succ bound ih =>
      unfold parameters.go parameters.rest behindDots
      refine .bind fun done => .ite <| .bind fun attributes => .bind fun parameter => ?_
      split <;> infer_instance

instance : Follows true [] (parameters g) (parameters g') := by unfold parameters; infer_instance

instance (allowsSafe : Bool) :
    Follows true [] (signature g allowsSafe) (signature g' allowsSafe) := by
  unfold signature; infer_instance

instance : Follows true [] (functionItem g) (functionItem g') := by
  unfold functionItem; infer_instance

instance : Follows true [] (traitFunction g) (traitFunction g') := by
  unfold traitFunction; infer_instance

/-! ### Structures, enumerations and unions -/

instance (depth : Nat) :
    Follows true [] (namedFieldsWithin g depth) (namedFieldsWithin g' depth) := by
  induction depth with
  | zero => unfold namedFieldsWithin; infer_instance
  | succ depth ih => unfold namedFieldsWithin namedField; infer_instance

instance : Follows true [] (namedFields g) (namedFields g') := by unfold namedFields; infer_instance

instance : Follows true [] (positionalFields g) (positionalFields g') := by
  unfold positionalFields positionalField; infer_instance

instance : Follows true [] (structItem g) (structItem g') := by
  unfold structItem positionalEnd; infer_instance

instance : Follows true [] (variant g) (variant g') := by unfold variant ifAhead; infer_instance

instance : Follows true [] (enumItem g) (enumItem g') := by unfold enumItem; infer_instance

instance : Follows true [] (unionItem g) (unionItem g') := by unfold unionItem; infer_instance

/-! ### Members -/

instance (needsValue : Bool) :
    Follows true [] (constRest g needsValue) (constRest g' needsValue) := by
  unfold constRest ifAhead; infer_instance

instance : Follows true [] (constItem g) (constItem g') := by unfold constItem; infer_instance

instance : Follows true [] (staticItem g) (staticItem g') := by
  unfold staticItem ifAhead; infer_instance

instance (room : WherePlace) : Follows true [] (typeAlias g room) (typeAlias g' room) := by
  unfold typeAlias ifAhead; infer_instance

instance : Follows true [] (typeItem g) (typeItem g') := by unfold typeItem; infer_instance

instance (item item' : TokenReader Tokens) [Follows true [] item item'] :
    Follows true [] (itemGroup g item) (itemGroup g' item') := by
  unfold itemGroup; infer_instance

instance : Follows true [] (traitConst g) (traitConst g') := by unfold traitConst; infer_instance

instance : Follows true [] (traitItem g) (traitItem g') := by unfold traitItem; infer_instance

instance : Follows true [] (implItem g) (implItem g') := by unfold implItem; infer_instance

instance : Follows true [] (implHead g) (implHead g') := by
  unfold implHead
  refine .bind fun start => .bind fun negative => .bind fun first => .bind fun here => ?_
  split
  · refine .bind fun link => .bind fun type => ?_
    split <;> infer_instance
  · infer_instance

instance : Follows true [] (implementation g) (implementation g') := by
  unfold implementation ifAhead; infer_instance

instance : Follows true [] (traitDefinition g) (traitDefinition g') := by
  unfold traitDefinition traitRest traitAlias; infer_instance

instance : Follows true [] (foreignItem g) (foreignItem g') := by
  unfold foreignItem foreignFunction foreignStatic ifAhead; infer_instance

/-! ### Items -/

instance (root : Bool) (bound : Nat) :
    Follows true [] (useChoices.go g root bound) (useChoices.go g' root bound) := by
  induction bound with
  | zero => unfold useChoices.go; infer_instance
  | succ bound ih => unfold useChoices.go; infer_instance

instance (root : Bool) : Follows true [] (useChoices g root) (useChoices g' root) := by
  unfold useChoices; infer_instance

instance (root : Bool) : Follows true [] (useTreeRule g root) (useTreeRule g' root) := by
  unfold useTreeRule; infer_instance

instance : Follows true [] (useItem g) (useItem g') := by unfold useItem; infer_instance

instance : Follows true [] (modItem g) (modItem g') := by unfold modItem; infer_instance

instance : Follows true [] (foreignBlock g) (foreignBlock g') := by
  unfold foreignBlock; infer_instance

instance (behind : Tokens) : Follows true [] (externItem g behind) (externItem g' behind) := by
  unfold externItem crateItem; infer_instance

instance (item item' : TokenReader Tokens) [Follows true [] item item'] :
    Follows true [] (settled item) (settled item') := by
  unfold settled; infer_instance

instance (behind : Tokens) : Follows true [] (unsafeItem g behind) (unsafeItem g' behind) := by
  unfold unsafeItem; infer_instance

instance : Follows true [] (itemRest g) (itemRest g') := by unfold itemRest; infer_instance

instance : Follows true [] (itemRule g) (itemRule g') := by unfold itemRule; infer_instance

/-! ### Statements -/

instance (attributes : Tokens) :
    Follows true [] (binding g attributes) (binding g' attributes) := by
  unfold binding bindingValue ifAhead; infer_instance

instance (attributes : Tokens) :
    Follows true [] (exprStatement g attributes) (exprStatement g' attributes) := by
  unfold exprStatement; infer_instance

instance (start attributes : Tokens) :
    Follows true [] (itemStatement g start attributes) (itemStatement g' start attributes) := by
  unfold itemStatement; infer_instance

instance : Forward opening where
  leads read := by
    obtain ⟨rfl, -⟩ := opening_eq_ok read
    exact .refl _

instance : Follows true [] (statement g) (statement g') := by
  unfold statement
  refine .bind fun start => .bind fun attributes => ⟨fun input => ?_⟩
  refine .bind (Follows.follows input) fun found between looked _ => ?_
  obtain ⟨rfl, behind⟩ := opening_eq_ok looked
  cases found with
  | macroCall path rest =>
      intro value after read _
      obtain ⟨_, resumed, moved, further⟩ := bind_eq_ok_iff.mp read
      cases moved
      refine ⟨(Forward.leads further).rest.trans (behind path rest rfl), fun _ => ?_⟩
      simpa using read
  | definition => exact Follows.follows _
  | other => exact Follows.follows _

instance (bound : Nat) :
    Follows true [] (statementsRule.go g bound) (statementsRule.go g' bound) := by
  induction bound with
  | zero => unfold statementsRule.go; infer_instance
  | succ bound ih => unfold statementsRule.go; infer_instance

instance : Follows true [] (statementsRule g) (statementsRule g') := by
  unfold statementsRule; infer_instance

/-! ### The grammar as a whole -/

instance (g : Grammar) : Grows nothing g where
  expr _ := inferInstanceAs (Follows true [] (expected _) _)
  unary _ := inferInstanceAs (Follows true [] (expected _) _)
  operand _ _ := inferInstanceAs (Follows true [] (expected _) _)
  leading := inferInstanceAs (Follows true [] (expected _) _)
  statements := inferInstanceAs (Follows true [] (expected _) _)
  typeCode _ _ := inferInstanceAs (Follows true [] (expected _) _)
  bound := inferInstanceAs (Follows true [] (expected _) _)
  pattern := inferInstanceAs (Follows true [] (expected _) _)
  single := inferInstanceAs (Follows true [] (expected _) _)
  item := inferInstanceAs (Follows true [] (expected _) _)
  useTree _ := inferInstanceAs (Follows true [] (expected _) _)

instance (tail : Tokens) (g : Grammar) : GrowsBefore tail nothing g where
  expr _ := inferInstanceAs (Follows true tail (expected _) _)
  unary _ := inferInstanceAs (Follows true tail (expected _) _)
  operand _ _ := inferInstanceAs (Follows true tail (expected _) _)
  typeCode _ _ := inferInstanceAs (Follows true tail (expected _) _)
  bound := inferInstanceAs (Follows true tail (expected _) _)
  pattern := inferInstanceAs (Follows true tail (expected _) _)
  single := inferInstanceAs (Follows true tail (expected _) _)

variable [TakesToken g]

/-- One more level of nesting on both sides keeps it. -/
instance : Grows (deepen g) (deepen g') where
  expr structs := inferInstanceAs (Follows true [] (exprRule g structs) (exprRule g' structs))
  unary structs := inferInstanceAs (Follows true [] (unaryRule g structs) (unaryRule g' structs))
  operand structs precedence :=
    inferInstanceAs (Follows true [] (operandRule g structs precedence)
      (operandRule g' structs precedence))
  leading := inferInstanceAs (Follows true [] (leadingRule g) (leadingRule g'))
  statements := inferInstanceAs (Follows true [] (statementsRule g) (statementsRule g'))
  typeCode plus generic :=
    inferInstanceAs (Follows true [] (typeRule g plus generic) (typeRule g' plus generic))
  bound := inferInstanceAs (Follows true [] (boundRule g) (boundRule g'))
  pattern := inferInstanceAs (Follows true [] (patternRule g) (patternRule g'))
  single := inferInstanceAs (Follows true [] (singleRule g) (singleRule g'))
  item := inferInstanceAs (Follows true [] (itemRule g) (itemRule g'))
  useTree root := inferInstanceAs (Follows true [] (useTreeRule g root) (useTreeRule g' root))

omit [LooksAtFront g] [LooksAtFront g'] in
instance (tail : Tokens) [GrowsBefore tail g g'] : GrowsBefore tail (deepen g) (deepen g') where
  expr structs := inferInstanceAs (Follows true tail (exprRule g structs) (exprRule g' structs))
  unary structs := inferInstanceAs (Follows true tail (unaryRule g structs) (unaryRule g' structs))
  operand structs precedence :=
    inferInstanceAs (Follows true tail (operandRule g structs precedence)
      (operandRule g' structs precedence))
  typeCode plus generic :=
    inferInstanceAs (Follows true tail (typeRule g plus generic) (typeRule g' plus generic))
  bound := inferInstanceAs (Follows true tail (boundRule g) (boundRule g'))
  pattern := inferInstanceAs (Follows true tail (patternRule g) (patternRule g'))
  single := inferInstanceAs (Follows true tail (singleRule g) (singleRule g'))

/-- A grammar that nests deeper reads whatever one that nests less deep does. -/
theorem grows_ofDepth {depth deeper : Nat} (le : depth ≤ deeper) :
    Grows (ofDepth depth) (ofDepth deeper) := by
  induction depth generalizing deeper with
  | zero => exact inferInstanceAs (Grows nothing _)
  | succ depth ih =>
      obtain ⟨deeper, rfl⟩ := Nat.exists_eq_succ_of_ne_zero (n := deeper) (by omega)
      have := ih (show depth ≤ deeper by omega)
      exact inferInstanceAs (Grows (deepen _) (deepen _))

/-- It reads an expression the same in front of a comma or an arrow. -/
theorem growsBefore_ofDepth (tail : Tokens) {depth deeper : Nat} (le : depth ≤ deeper) :
    GrowsBefore tail (ofDepth depth) (ofDepth deeper) := by
  induction depth generalizing deeper with
  | zero => exact inferInstanceAs (GrowsBefore tail nothing _)
  | succ depth ih =>
      obtain ⟨deeper, rfl⟩ := Nat.exists_eq_succ_of_ne_zero (n := deeper) (by omega)
      have := ih (show depth ≤ deeper by omega)
      have := grows_ofDepth (show depth ≤ deeper by omega)
      exact inferInstanceAs (GrowsBefore tail (deepen _) (deepen _))

end Grammar

end MacroExpansion
