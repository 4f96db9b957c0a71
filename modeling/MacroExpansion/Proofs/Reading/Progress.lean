import MacroExpansion.Proofs.Reading.Rules

/-!
# Expressions take a token

An expression is never read from nothing: whatever form it has, its reader takes a token. Some
readers of a form look whether it begins here, and take nothing if it does not; of these `TakesSome`
says that what they find takes a token.
-/

namespace MacroExpansion

namespace TokenReader

variable {α β : Type}

/-- The reader takes a token if it finds something. -/
class TakesSome (reader : TokenReader (Option α)) : Prop where
  takes {input after : Input} {value : α} (read : reader input = .ok (some value, after)) :
    after.rest.visible.length < input.rest.visible.length

instance : TakesSome (pure none : TokenReader (Option α)) where
  takes read := by
    obtain ⟨none, -⟩ := pure_eq_ok_iff.mp read
    cases none

instance (reader : TokenReader (Option α)) [Takes reader] : TakesSome reader where
  takes read := Takes.takes read

/-- A reader or another one, if it is known of the other. -/
theorem TakesSome.ite {condition : Prop} [Decidable condition] {yes no : TokenReader (Option α)}
    [TakesSome yes] (takes : TakesSome no) : TakesSome (if condition then yes else no) := by
  split <;> infer_instance

instance (condition : Prop) [Decidable condition] (yes no : TokenReader (Option α))
    [TakesSome yes] [takes : TakesSome no] : TakesSome (if condition then yes else no) := .ite takes

/-- It is enough that what follows takes a token if it finds something. -/
theorem TakesSome.bind {first : TokenReader α} {next : α → TokenReader (Option β)}
    [Forward first] (takes : ∀ value, TakesSome (next value)) : TakesSome (first >>= next) where
  takes read := length_lt_of_bind read fun found _ => (takes found).takes

instance (first : TokenReader α) (next : α → TokenReader (Option β)) [Forward first]
    [takes : ∀ value, TakesSome (next value)] : TakesSome (first >>= next) := .bind takes

/-- A form if it begins here, and another one if not. -/
theorem Takes.bind_option {first : TokenReader (Option α)} {next : Option α → TokenReader β}
    [Forward first] [TakesSome first] (found : ∀ value, Forward (next (some value)))
    (missing : Takes (next none)) : Takes (first >>= next) where
  takes read := by
    obtain ⟨value?, between, one, two⟩ := bind_eq_ok_iff.mp read
    cases value? with
    | none => exact Nat.lt_of_lt_of_le (missing.takes two) (Forward.leads one).rest.length_le
    | some value =>
        exact Nat.lt_of_le_of_lt ((found value).leads two).rest.length_le (TakesSome.takes one)

end TokenReader

namespace Grammar

open TokenReader

/-- Expressions take a token. -/
class TakesToken (g : Grammar) : Prop where
  expr (structs : Bool) : Takes (g.expr structs)
  unary (structs : Bool) : Takes (g.unary structs)
  operand (structs : Bool) (precedence : Precedence) : Takes (g.operand structs precedence)

attribute [instance] TakesToken.expr TakesToken.unary TakesToken.operand

-- As for the rules that move forward, the search takes a step for each part of a rule.
set_option synthInstance.maxSize 512

variable (g : Grammar) [MovesForward g]

instance : Takes (block g) := by unfold block; infer_instance

instance : Takes (blockTokens g) := by unfold blockTokens; infer_instance

instance : Takes (attributedBlock g) := by unfold attributedBlock; infer_instance

instance : Takes (bodyTokens g) := by unfold bodyTokens; infer_instance

/-- There is a token where a word is seen. -/
theorem size_ne_zero_of_seesWord {word : String} {tokens : Tokens}
    (seen : tokens.seesWord word = true) : tokens.size ≠ 0 := by
  cases tokens with
  | nil => simp [Tokens.seesWord, Tokens.word?] at seen
  | cons token rest => cases token <;> simp [Tokens.size, Token.size]

/-! ### Paths -/

instance (inType : Bool) (separator : Tokens) : Takes (pathSegment g inType separator) := by
  unfold pathSegment; infer_instance

instance (inType : Bool) : Takes (anyPath g inType) := by
  have open_ : Takes (operator "<") := takes_operator (by decide)
  unfold anyPath simplePath
  infer_instance

/-! ### What an expression grows by -/

instance : Takes exprLimits := by
  have inclusive : Takes (operator "..=") := takes_operator (by decide)
  have exclusive : Takes (operator "..") := takes_operator (by decide)
  unfold exprLimits
  infer_instance

instance (operand : Expr) : Takes (castTo g operand) := by
  unfold castTo
  refine .followed fun head => .bind fun type => .bind fun here => ?_
  split <;> infer_instance

instance (structs : Bool) (base : Precedence) (left : Expr) :
    TakesSome (extend g structs base left) := by
  have equals : Takes (operator "=") := takes_operator (by decide)
  unfold extend
  refine .bind fun here => .ite ?_
  split
  · rename_i text precedence found
    have some : ∀ entry ∈ binaryOperators, entry.1.toList ≠ [] := by decide
    have sign : Takes (operator text) := takes_operator (some _ (List.mem_of_find?_eq_some found))
    infer_instance
  · infer_instance

instance (base : Expr) : TakesSome (follow g base) := by
  have dot : Takes (operator ".") := takes_operator (by decide)
  have mark : Takes (operator "?") := takes_operator (by decide)
  have takes : Takes (dotted g) := by unfold dotted; infer_instance
  unfold follow
  infer_instance

/-! ### Atoms -/

instance (label : Tokens) : Takes (blockExpr g label) := by unfold blockExpr; infer_instance

instance (bound : Nat) : Takes (branch g (bound + 1)) := by unfold branch; infer_instance

instance : TakesSome (control? g) where
  takes {input after value} read := by
    unfold control? at read
    obtain ⟨here, between, looked, further⟩ := bind_eq_ok_iff.mp read
    cases looked
    split at further
    · rename_i branches
      -- The word in front makes room for one round of the branch.
      obtain ⟨size, room⟩ : ∃ size, input.rest.size = size + 1 :=
        Nat.exists_eq_succ_of_ne_zero (size_ne_zero_of_seesWord branches)
      rw [room] at further
      exact TakesSome.takes further
    · unfold whileLoop forLoop markedBlock matchArms at further
      exact TakesSome.takes further

instance (structs : Bool) : TakesSome (jump? g structs) := by
  unfold jump? breakJump bareLabel continueJump jump; infer_instance

instance : TakesSome (untouched? g) := by unfold untouched? asWritten; infer_instance

instance (structs : Bool) : Takes (letCondition g structs) := by
  unfold letCondition; infer_instance

variable [TakesToken g]

instance (structs : Bool) : Takes (hiddenExpr g structs) := by
  unfold hiddenExpr
  refine .followed fun inner => ?_
  dsimp only
  split
  · refine .bind fun more => .bind fun whole => ?_
    split <;> infer_instance
  · infer_instance

instance (structs : Bool) : Takes (closure g structs) := by
  have bar : Takes (operator "|") := takes_operator (by decide)
  unfold closure closureParameter; infer_instance

instance (structs : Bool) : Takes (atomRule g structs) := by
  unfold atomRule asyncBlock labelled
  refine .bind fun here => .ite <| .ite <| .ite <| .ite <| .bind_option (fun found => ?_) ?_
  · infer_instance
  · refine .ite <| .ite <| .bind_option (fun found => ?_) ?_
    · infer_instance
    · refine .ite <| .ite <| .bind_option (fun found => ?_) ?_
      · infer_instance
      · infer_instance

/-! ### Expressions -/

instance (structs : Bool) (start attributes : Tokens) :
    Takes (attributedAtom g structs start attributes) := by
  unfold attributedAtom
  refine .followed fun atom => .bind fun expr => ?_
  split <;> infer_instance

instance (structs : Bool) : Takes (unaryRule g structs) := by
  have reference : Takes (operator "&") := takes_operator (by decide)
  unfold unaryRule
  refine .bind fun start => .bind fun attributes => .bind fun here => .ite <| .ite ?_
  split
  · rename_i sign found
    have takes : Takes (operator sign) := by
      have among := List.mem_of_find?_eq_some found
      simp only [List.mem_cons, List.not_mem_nil, or_false] at among
      obtain rfl | rfl | rfl := among <;> exact takes_operator (by decide)
    infer_instance
  · infer_instance

instance (structs : Bool) : Takes (exprRule g structs) := by unfold exprRule; infer_instance

instance (structs : Bool) (precedence : Precedence) :
    Takes (operandRule g structs precedence) := by
  unfold operandRule; infer_instance

/-- One more level of nesting keeps it. -/
instance : TakesToken (deepen g) where
  expr structs := inferInstanceAs (Takes (exprRule g structs))
  unary structs := inferInstanceAs (Takes (unaryRule g structs))
  operand structs precedence := inferInstanceAs (Takes (operandRule g structs precedence))

instance : TakesToken nothing where
  expr _ := inferInstanceAs (Takes (expected _))
  unary _ := inferInstanceAs (Takes (expected _))
  operand _ _ := inferInstanceAs (Takes (expected _))

instance (depth : Nat) : TakesToken (ofDepth depth) := by
  induction depth with
  | zero => exact inferInstanceAs (TakesToken nothing)
  | succ depth ih => exact inferInstanceAs (TakesToken (deepen (ofDepth depth)))

instance (tokens : Tokens) : TakesToken (ofInput tokens) := by unfold ofInput; infer_instance

end Grammar

end MacroExpansion
