import MacroExpansion.Invocation
import MacroExpansion.Proofs.Reading.Gives
import MacroExpansion.Proofs.Reading.Progress

/-!
# What is read is printed

No expression, statement or item that is read vanishes in print: each of them prints a token. For an
expression `Expr.Shown` names the part that does, form by form, and asks the same of the statements
of a block, since a block may be emitted without its braces.

Two kinds of code are kept the way they were written, and print what was taken of the input. They
print a token because their readers take one.
-/

namespace MacroExpansion

open Tokens TokenReader

namespace Path

/-- The path prints a token. -/
def Shown (path : Path) : Prop := Present path.tokens

instance (qualifier : Tokens) (segments : List PathSegment) [Present qualifier] :
    Present (Path.tokens ⟨qualifier, segments⟩) := by unfold Path.tokens; infer_instance

instance (qualifier : Tokens) (segment : PathSegment) (segments : List PathSegment) :
    Present (Path.tokens ⟨qualifier, segment :: segments⟩) := by
  unfold Path.tokens PathSegment.tokens
  rw [List.flatMap_cons]
  infer_instance

end Path

namespace Stmt

/-- The statement prints a token. -/
def Shown (statement : Stmt) : Prop := Present statement.tokens

/-- Every statement prints a token. -/
def AllShown (statements : List Stmt) : Prop := ∀ statement ∈ statements, statement.Shown

theorem allShown_cons {first : Stmt} {rest : List Stmt} (shown : first.Shown)
    (others : AllShown rest) : AllShown (first :: rest) :=
  List.forall_mem_cons.mpr ⟨shown, others⟩

end Stmt

/-- The expression prints a token, and so do the statements of a block that it is or that it holds
as the body of a closure. -/
class inductive Expr.Shown : Expr → Prop
  | attributed (attributes : Tokens) (inner : Expr) (shown : Shown inner) :
      Shown (.attributed attributes inner)
  | literal (token : Token) : Shown (.literal token)
  | path (path : Path) [Present path.tokens] : Shown (.path path)
  | hidden (inner : Expr) (span : Span) (shown : Shown inner) : Shown (.hidden inner span)
  | closure (head opening parameters closing output : Tokens) (body : Expr)
      (shown : Shown body) : Shown (.closure head opening parameters closing output body)
  | block (label attributes : Tokens) (statements : List Stmt) (span : Span)
      (all : Stmt.AllShown statements) : Shown (.block label attributes statements span)
  | control (label tokens : Tokens) [Present tokens] : Shown (.control label tokens)
  | macroCall (call : MacroCall) : Shown (.macroCall call)
  | unary (operator : Tokens) (operand : Expr) [Present operator] : Shown (.unary operator operand)
  | binary (left : Expr) (operator : Operator) (right : Expr) [Present operator.tokens] :
      Shown (.binary left operator right)
  | cast (operand : Expr) (keyword : Tokens) (type : TypeCode) [Present keyword] :
      Shown (.cast operand keyword type)
  | range (start : Option Expr) (operator : Tokens) (stop : Option Expr) [Present operator] :
      Shown (.range start operator stop)
  | call (function : Expr) (arguments : List Element) (span : Span) :
      Shown (.call function arguments span)
  | index (base : Expr) (position : Token) : Shown (.index base position)
  | select (base : Expr) (suffix : Tokens) [Present suffix] : Shown (.select base suffix)
  | jump (keyword label : Tokens) (value : Option Expr) [Present keyword] :
      Shown (.jump keyword label value)
  | condition (head : Tokens) (value : Expr) [Present head] : Shown (.condition head value)
  | atom (tokens : Tokens) [Present tokens] : Shown (.atom tokens)
  | untouched (tokens : Tokens) [Present tokens] : Shown (.untouched tokens)

attribute [instance] Expr.Shown.literal Expr.Shown.path Expr.Shown.control Expr.Shown.macroCall
  Expr.Shown.unary Expr.Shown.binary Expr.Shown.cast Expr.Shown.range Expr.Shown.call
  Expr.Shown.index Expr.Shown.select Expr.Shown.jump Expr.Shown.condition Expr.Shown.atom
  Expr.Shown.untouched

namespace Expr

theorem Shown.present_print {expr : Expr} (shown : expr.Shown) (setting : Setting) :
    Present (expr.print setting) := by
  induction shown generalizing setting with
  | attributed attributes inner shown ih =>
      have printed := ih (setting.within inner.isRange)
      rw [Expr.print]
      infer_instance
  | closure head opening parameters closing output body shown ih =>
      have printed := ih setting.atEnd
      rw [Expr.print]
      infer_instance
  | macroCall call =>
      rw [Expr.print, MacroCall.tokens]
      infer_instance
  | _ =>
      rw [Expr.print.eq_def]
      infer_instance

instance (attributes : Tokens) (expr : Expr) [shown : expr.Shown] :
    (expr.withAttributes attributes).Shown := by
  unfold withAttributes
  split
  · exact shown
  · split
    · cases shown with
      | attributed _ _ shown => exact .attributed _ _ shown
    · exact shown
    · exact .attributed _ _ shown

instance (expr : Expr) [shown : expr.Shown] : Gives Shown (pure expr) := .pure shown

end Expr

namespace Stmt

theorem shown_expr {value : Expr} (shown : value.Shown) (semicolon : Tokens) :
    Shown (.expr value semicolon) := by
  have printed := shown.present_print
    (Setting.statement.within (Place.statement.needsParentheses value))
  unfold Shown Stmt.tokens Stmt.print
  infer_instance

theorem shown_macroCall (attributes : Tokens) (call : MacroCall) (semicolon : Tokens) :
    Shown (.macroCall attributes call semicolon) := by
  unfold Shown Stmt.tokens Stmt.print MacroCall.tokens
  infer_instance

theorem shown_binding {attributes keyword pattern type value otherwise semicolon : Tokens}
    [Present keyword] :
    Shown (.binding ⟨attributes, keyword, pattern, type, value, otherwise, semicolon⟩) := by
  unfold Shown Stmt.tokens Stmt.print Binding.tokens
  infer_instance

end Stmt

namespace Grammar

-- As for the rules that move forward, the search takes a step for each part of a rule.
set_option synthInstance.maxSize 512

variable (g : Grammar)

/-! ### Items -/

/-- The item has a token, unless it is kept as it was written. -/
def Draft.Shown (draft : Draft) : Prop := draft.isLoose = false → Present draft.tokens

instance (tokens : Tokens) (isLoose : Bool) [Present tokens] :
    Gives Draft.Shown (pure ⟨tokens, isLoose⟩) := .pure fun _ => inferInstance

instance (tokens : Tokens) : Gives Draft.Shown (pure ⟨tokens, true⟩) := .pure nofun

/-- The type under another name prints a token. -/
def TypeAlias.Shown (type : TypeAlias) : Prop := Present type.tokens

instance (head bounds early value late semicolon : Tokens) (isBounded : Bool) [Present head] :
    Gives TypeAlias.Shown (pure ⟨head, isBounded, bounds, early, value, late, semicolon⟩) := by
  refine .pure ?_
  unfold TypeAlias.Shown TypeAlias.tokens
  infer_instance

instance : Gives Present (blockTokens g) := by unfold blockTokens Block.tokens; infer_instance

instance : Gives Present (bodyTokens g) := by unfold bodyTokens; infer_instance

instance (item : TokenReader Tokens) : Gives Present (itemGroup g item) := by
  unfold itemGroup; infer_instance

instance : Gives Draft.Shown (functionItem g) := by unfold functionItem; infer_instance

instance : Gives Present (structItem g) := by unfold structItem; infer_instance

instance : Gives Present (enumItem g) := by unfold enumItem; infer_instance

instance : Gives Present (unionItem g) := by unfold unionItem; infer_instance

instance : Gives Draft.Shown (constItem g) := by unfold constItem; infer_instance

instance : Gives Draft.Shown (staticItem g) := by unfold staticItem; infer_instance

instance (room : WherePlace) : Gives TypeAlias.Shown (typeAlias g room) := by
  unfold typeAlias; infer_instance

instance : Gives Draft.Shown (typeItem g) := by
  have renamed : Gives TypeAlias.Shown (typeAlias g .beforeValue) := inferInstance
  unfold typeItem TypeAlias.defined
  refine .bind fun access => renamed.found fun type shown => ?_
  have present : Present type.tokens := shown
  infer_instance

instance : Gives Draft.Shown (implementation g) := by unfold implementation; infer_instance

instance : Gives Present (traitDefinition g) := by
  unfold traitDefinition traitRest traitAlias; infer_instance

instance : Gives Draft.Shown (useItem g) := by unfold useItem; infer_instance

instance : Gives Present (modItem g) := by unfold modItem; infer_instance

instance : Gives Present macroItem := by unfold macroItem macroRest; infer_instance

instance : Gives Present (foreignBlock g) := by unfold foreignBlock; infer_instance

instance (behind : Tokens) : Gives Present (externItem g behind) := by
  unfold externItem crateItem; infer_instance

instance : Gives Draft.Shown macroDefinition := by unfold macroDefinition; infer_instance

instance (item : TokenReader Tokens) [Gives Present item] : Gives Draft.Shown (settled item) := by
  unfold settled; infer_instance

instance (behind : Tokens) : Gives Draft.Shown (unsafeItem g behind) := by
  unfold unsafeItem; infer_instance

instance : Gives Draft.Shown (itemRest g) := by unfold itemRest; infer_instance

section Progress

variable [MovesForward g]

instance : Takes (functionItem g) := by unfold functionItem signature; infer_instance

instance : Takes (structItem g) := by unfold structItem positionalEnd; infer_instance

instance : Takes (enumItem g) := by unfold enumItem; infer_instance

instance : Takes (unionItem g) := by unfold unionItem; infer_instance

instance : Takes (constItem g) := by unfold constItem; infer_instance

instance : Takes (staticItem g) := by unfold staticItem; infer_instance

instance : Takes (typeItem g) := by unfold typeItem typeAlias; infer_instance

instance : Takes (implementation g) := by unfold implementation; infer_instance

instance : Takes (traitDefinition g) := by
  unfold traitDefinition traitRest traitAlias; infer_instance

instance : Takes (useItem g) := by unfold useItem; infer_instance

instance : Takes (modItem g) := by unfold modItem; infer_instance

instance : Takes macroItem := by
  have bang : Takes (operator "!") := takes_operator (by decide)
  unfold macroItem; infer_instance

instance : Takes (foreignBlock g) := by unfold foreignBlock itemGroup; infer_instance

instance (behind : Tokens) : Takes (externItem g behind) := by
  unfold externItem crateItem; infer_instance

instance : Takes macroDefinition := by unfold macroDefinition; infer_instance

instance (item : TokenReader Tokens) [Takes item] : Takes (settled item) := by
  unfold settled; infer_instance

instance (behind : Tokens) : Takes (unsafeItem g behind) := by unfold unsafeItem; infer_instance

instance : Takes (itemRest g) := by unfold itemRest; infer_instance

/-- An item as a statement, wherever its attributes began. -/
theorem shown_itemStatement {start attributes : Tokens} {input after : Input} {statement : Stmt}
    (behind : input.rest.visible.length ≤ start.visible.length)
    (read : itemStatement g start attributes input = .ok (statement, after)) :
    statement.Shown := by
  unfold itemStatement at read
  obtain ⟨draft, between, one, further⟩ := bind_eq_ok_iff.mp read
  have shown : draft.Shown := Gives.holds one
  have took := Takes.takes one
  split at further
  · obtain ⟨tokens, _, kept, same⟩ := bind_eq_ok_iff.mp further
    obtain ⟨rfl, -⟩ := pure_eq_ok_iff.mp same
    exact present_taken (Nat.lt_of_lt_of_le took behind) kept
  · rename_i settled
    obtain ⟨rfl, -⟩ := pure_eq_ok_iff.mp further
    have present := shown (by simpa using settled)
    exact inferInstanceAs (Present (attributes ++ draft.tokens))

end Progress

/-! ### What an expression grows by -/

instance : Gives Present exprLimits := by
  have inclusive : Gives Present (operator "..=") := present_operator (by decide)
  have exclusive : Gives Present (operator "..") := present_operator (by decide)
  unfold exprLimits; infer_instance

instance (operand : Expr) : Gives Expr.Shown (castTo g operand) := by
  unfold castTo
  refine .behind fun token rest => .bind fun type => .bind fun here => ?_
  split <;> infer_instance

instance (structs : Bool) (base : Precedence) (left : Expr) :
    Gives (Found Expr.Shown) (extend g structs base left) := by
  have equals : Gives Present (operator "=") := present_operator (by decide)
  unfold extend
  refine .bind fun here => .ite inferInstance ?_
  split
  · rename_i text precedence found
    have some : ∀ entry ∈ binaryOperators, entry.1.toList ≠ [] := by decide
    have sign : Gives Present (operator text) :=
      present_operator (some _ (List.mem_of_find?_eq_some found))
    infer_instance
  · infer_instance

instance (structs : Bool) (base : Precedence) (left : Expr) [shown : left.Shown] (bound : Nat) :
    Gives Expr.Shown (climb.go g structs base left bound) := by
  induction bound generalizing left with
  | zero => unfold climb.go; infer_instance
  | succ bound ih =>
      unfold climb.go
      exact .option (fun left (_ : left.Shown) => ih left) (.pure shown)

instance (structs : Bool) (base : Precedence) (left : Expr) [left.Shown] :
    Gives Expr.Shown (climb g structs base left) := by
  unfold climb; infer_instance

instance (dots : Tokens) : Gives Present (selection g dots) := by unfold selection; infer_instance

instance : Gives Present (dotted g) := by
  have dot : Gives Present (operator ".") := present_operator (by decide)
  unfold dotted; infer_instance

instance (base : Expr) : Gives (Found Expr.Shown) (follow g base) := by
  have mark : Gives Present (operator "?") := present_operator (by decide)
  unfold follow; infer_instance

instance (base : Expr) [shown : base.Shown] (bound : Nat) :
    Gives Expr.Shown (trail.go g base bound) := by
  induction bound generalizing base with
  | zero => unfold trail.go; infer_instance
  | succ bound ih =>
      unfold trail.go
      exact .option (fun base (_ : base.Shown) => ih base) (.pure shown)

instance (base : Expr) [base.Shown] : Gives Expr.Shown (trail g base) := by
  unfold trail; infer_instance

/-! ### Atoms -/

instance (qualifier : Tokens) (segments : List PathSegment)
    [present : Present (Path.tokens ⟨qualifier, segments⟩)] :
    Gives Path.Shown (pure ⟨qualifier, segments⟩) := .pure present

instance (inType : Bool) : Gives Path.Shown (anyPath g inType) := by
  have opening : Gives Present (operator "<") := present_operator (by decide)
  unfold anyPath simplePath; infer_instance

theorem shown_named (structs : Bool) {path : Path} (shown : path.Shown) :
    Gives Expr.Shown (named g structs path) := by
  have present : Present path.tokens := shown
  unfold named; infer_instance

instance (bound : Nat) : Gives Present (branch g (bound + 1)) := by unfold branch; infer_instance

instance : Gives Present (matchArms g) := by unfold matchArms; infer_instance

instance : Gives Present (whileLoop g) := by unfold whileLoop; infer_instance

instance : Gives Present (forLoop g) := by unfold forLoop; infer_instance

instance (word : String) : Gives Present (markedBlock g word) := by
  unfold markedBlock; infer_instance

instance (structs : Bool) : Gives (Found Expr.Shown) (jump? g structs) := by
  unfold jump? breakJump bareLabel continueJump jump; infer_instance

instance [MovesForward g] : Gives (Found Expr.Shown) (untouched? g) := by
  unfold untouched?; infer_instance

instance (structs : Bool) : Gives Expr.Shown (letCondition g structs) := by
  unfold letCondition; infer_instance

/-- Every expression and every statement that the grammar reads prints a token. -/
class Shows (g : Grammar) : Prop where
  expr (structs : Bool) : Gives Expr.Shown (g.expr structs)
  unary (structs : Bool) : Gives Expr.Shown (g.unary structs)
  leading : Gives Expr.Shown g.leading
  statements : Gives Stmt.AllShown g.statements

attribute [instance] Shows.expr Shows.unary Shows.leading Shows.statements

variable [Shows g]

theorem shown_block : Gives (fun block => Stmt.AllShown block.statements) (block g) := by
  have content : Gives Stmt.AllShown g.statements := inferInstance
  unfold block
  exact (content.group .brace).found fun found all => .pure all

instance (label : Tokens) : Gives Expr.Shown (blockExpr g label) := by
  have statements : Gives Stmt.AllShown g.statements := inferInstance
  have content : Gives (fun found => Stmt.AllShown found.2) (do
      let attributes ← innerAttributes g
      return (attributes, ← g.statements)) :=
    .bind fun attributes => statements.found fun statements all => .pure all
  unfold blockExpr attributedBlock
  exact (content.group .brace).found fun found all => .pure (.block _ _ _ _ all)

instance : Gives (Found Expr.Shown) (control? g) where
  holds {input after found} read := by
    unfold control? at read
    obtain ⟨here, _, looked, further⟩ := bind_eq_ok_iff.mp read
    cases looked
    split at further
    · rename_i branches
      -- The word in front makes room for one round of the branch.
      obtain ⟨size, room⟩ : ∃ size, input.rest.size = size + 1 :=
        Nat.exists_eq_succ_of_ne_zero (size_ne_zero_of_seesWord branches)
      rw [room] at further
      exact Gives.holds further
    · exact Gives.holds further

instance : Gives Expr.Shown (labelled g) := by unfold labelled; infer_instance

instance (structs : Bool) : Gives Expr.Shown (hiddenExpr g structs) := by
  have content : Gives Expr.Shown (g.expr true) := inferInstance
  unfold hiddenExpr
  refine content.invisible.found fun found shown => ?_
  obtain ⟨inner, span⟩ := found
  dsimp only at shown ⊢
  split
  · cases shown with
    | path path =>
        refine .bind fun more => (shown_named g structs ?_).found fun whole shown => ?_
        · unfold Path.Shown Path.tokens at *
          rw [List.flatMap_append, ← List.append_assoc]
          infer_instance
        · split
          · exact .ite (.pure (.hidden _ _ shown)) (.pure shown)
          · exact .pure shown
  · exact .pure (.hidden _ _ shown)

instance (structs : Bool) : Gives Expr.Shown (closure g structs) := by
  have expr : Gives Expr.Shown (g.expr structs) := inferInstance
  unfold closure
  refine .bind fun lifetimes => .bind fun constant => .bind fun still => .bind fun deferred =>
    .bind fun capture => .bind fun opening => .bind fun parameters => .bind fun closing =>
    .bind fun here => .ite (.bind fun output => ?_) ?_
  · exact (shown_block g).found fun body all => .pure (.closure _ _ _ _ _ _ (.block _ _ _ _ all))
  · exact expr.found fun body shown => .pure (.closure _ _ _ _ _ _ shown)

instance [MovesForward g] (structs : Bool) : Gives Expr.Shown (atomRule g structs) := by
  have path : Gives Path.Shown (anyPath g false) := inferInstance
  unfold atomRule asyncBlock
  refine .bind fun here => .ite inferInstance <| .ite inferInstance <| .ite inferInstance <|
    .ite inferInstance <| .option (fun expr shown => .pure shown) ?_
  refine .ite (path.found fun path shown => shown_named g structs shown) <|
    .ite inferInstance <| .option (fun expr shown => .pure shown) ?_
  refine .ite inferInstance <| .ite inferInstance <| .option (fun expr shown => .pure shown) ?_
  infer_instance

/-! ### Expressions -/

instance (structs : Bool) : Gives Expr.Shown (exprRule g structs) := by
  have unary : Gives Expr.Shown (g.unary structs) := inferInstance
  unfold exprRule
  exact unary.found fun first shown => inferInstance

instance : Gives Expr.Shown (leadingPart g) := by
  have atom : Gives Expr.Shown (hiddenExpr g true) := inferInstance
  unfold leadingPart
  refine .bind fun here => .ite (atom.found fun atom shown => inferInstance) ?_
  exact .option (fun expr shown => .pure shown) inferInstance

instance : Gives Expr.Shown (leadingRule g) := by
  have part : Gives Expr.Shown (leadingPart g) := inferInstance
  unfold leadingRule
  refine .bind fun attributes => part.found fun first shown => .ite inferInstance ?_
  have grown : Gives Expr.Shown (trail g first) := inferInstance
  exact .bind fun here => .ite (grown.found fun whole shown => inferInstance) inferInstance

/-! ### Statements -/

theorem shown_attributeLeftmost (attributes : Tokens) {expr : Expr} (shown : expr.Shown) :
    (attributeLeftmost attributes expr).Shown := by
  unfold attributeLeftmost
  split
  · cases shown
    infer_instance
  · cases shown
    infer_instance
  · infer_instance

theorem shown_statementOf (semicolon : Tokens) {expr : Expr} (shown : expr.Shown) :
    (statementOf semicolon expr).Shown := by
  unfold statementOf
  split
  · split
    · exact Stmt.shown_macroCall _ _ _
    · exact Stmt.shown_expr shown semicolon
  · split
    · exact Stmt.shown_macroCall _ _ _
    · exact Stmt.shown_expr shown semicolon
  · exact Stmt.shown_expr shown semicolon

instance (attributes : Tokens) : Gives Stmt.Shown (binding g attributes) := by
  unfold binding
  exact .behind fun token rest => .bind fun pattern => .bind fun type => .bind fun value =>
    .bind fun otherwise => .bind fun semicolon => .pure Stmt.shown_binding

instance (attributes : Tokens) : Gives Stmt.Shown (exprStatement g attributes) := by
  have leading : Gives Expr.Shown g.leading := inferInstance
  unfold exprStatement
  refine leading.found fun expr shown => .bind fun semicolon => .pure ?_
  exact shown_statementOf semicolon (shown_attributeLeftmost attributes shown)

variable [MovesForward g]

instance : Gives Stmt.Shown (statement g) where
  holds {input after statement} read := by
    unfold Grammar.statement at read
    obtain ⟨start, _, looked, attributed⟩ := bind_eq_ok_iff.mp read
    cases looked
    obtain ⟨attributes, between, one, opened⟩ := bind_eq_ok_iff.mp attributed
    have behind := (Forward.leads one).rest.length_le
    obtain ⟨found, _, looked, further⟩ := bind_eq_ok_iff.mp opened
    obtain ⟨rfl, -⟩ := opening_eq_ok looked
    cases found with
    | macroCall path rest =>
        have call (bang : Tokens) (body : Token) (semicolon : Tokens) : Gives Stmt.Shown
            (pure (.macroCall attributes ⟨path, bang, body⟩ semicolon)) :=
          .pure (Stmt.shown_macroCall _ _ _)
        exact Gives.holds further
    | definition => exact shown_itemStatement g behind further
    | other =>
        obtain ⟨here, _, looked, further⟩ := bind_eq_ok_iff.mp further
        cases looked
        split at further
        · exact Gives.holds further
        · split at further
          · exact shown_itemStatement g behind further
          · exact Gives.holds further

instance (bound : Nat) : Gives Stmt.AllShown (statementsRule.go g bound) := by
  have mark : Gives Present (operator ";") := present_operator (by decide)
  have one : Gives Stmt.Shown (statement g) := inferInstance
  induction bound with
  | zero =>
      unfold statementsRule.go
      exact .pure (List.forall_mem_nil _)
  | succ bound ih =>
      unfold statementsRule.go
      refine .bind fun done => .ite (.pure (List.forall_mem_nil _)) <| .bind fun here => .ite ?_ ?_
      · exact mark.found fun semicolon shown => ih.found fun rest all =>
          .pure (Stmt.allShown_cons shown all)
      · refine one.found fun next shown => .bind fun done => .ite inferInstance ?_
        exact ih.found fun rest all => .pure (Stmt.allShown_cons shown all)

instance : Gives Stmt.AllShown (statementsRule g) := by unfold statementsRule; infer_instance

/-! ### The grammar as a whole -/

variable [TakesToken g]

/-- An atom, wherever its attributes began. -/
theorem shown_attributedAtom {structs : Bool} {start attributes : Tokens} {input after : Input}
    {expr : Expr} (behind : input.rest.visible.length ≤ start.visible.length)
    (read : attributedAtom g structs start attributes input = .ok (expr, after)) : expr.Shown := by
  unfold attributedAtom at read
  obtain ⟨atom, between, one, trailed⟩ := bind_eq_ok_iff.mp read
  obtain ⟨whole, done, two, further⟩ := bind_eq_ok_iff.mp trailed
  have shown : atom.Shown := Gives.holds one
  have shown : whole.Shown := Gives.holds two
  split at further
  · obtain ⟨tokens, _, kept, same⟩ := bind_eq_ok_iff.mp further
    obtain ⟨rfl, -⟩ := pure_eq_ok_iff.mp same
    have took := Nat.lt_of_le_of_lt (Forward.leads two).rest.length_le (Takes.takes one)
    have present := present_taken (Nat.lt_of_lt_of_le took behind) kept
    infer_instance
  · exact Gives.holds further
  · exact Gives.holds further

instance (structs : Bool) : Gives Expr.Shown (unaryRule g structs) where
  holds {input after expr} read := by
    have reference : Gives Present (operator "&") := present_operator (by decide)
    unfold unaryRule at read
    obtain ⟨start, _, looked, attributed⟩ := bind_eq_ok_iff.mp read
    cases looked
    obtain ⟨attributes, between, one, opened⟩ := bind_eq_ok_iff.mp attributed
    have behind := (Forward.leads one).rest.length_le
    obtain ⟨here, _, looked, further⟩ := bind_eq_ok_iff.mp opened
    cases looked
    split at further
    · exact shown_attributedAtom g behind further
    · split at further
      · exact Gives.holds further
      · cases found : ["*", "!", "-"].find? between.rest.sees with
        | some sign =>
            have mark : Gives Present (operator sign) := by
              have among := List.mem_of_find?_eq_some found
              simp only [List.mem_cons, List.not_mem_nil, or_false] at among
              obtain rfl | rfl | rfl := among <;> exact present_operator (by decide)
            rw [found] at further
            exact Gives.holds further
        | none =>
            rw [found] at further
            exact shown_attributedAtom g behind further

instance : Shows nothing where
  expr _ := inferInstanceAs (Gives _ (expected _))
  unary _ := inferInstanceAs (Gives _ (expected _))
  leading := inferInstanceAs (Gives _ (expected _))
  statements := inferInstanceAs (Gives _ (expected _))

/-- One more level of nesting keeps it. -/
instance : Shows (deepen g) where
  expr structs := inferInstanceAs (Gives _ (exprRule g structs))
  unary structs := inferInstanceAs (Gives _ (unaryRule g structs))
  leading := inferInstanceAs (Gives _ (leadingRule g))
  statements := inferInstanceAs (Gives _ (statementsRule g))

instance (depth : Nat) : Shows (ofDepth depth) := by
  induction depth with
  | zero => exact inferInstanceAs (Shows nothing)
  | succ depth ih => exact inferInstanceAs (Shows (deepen (ofDepth depth)))

instance (tokens : Tokens) : Shows (ofInput tokens) := by unfold ofInput; infer_instance

end Grammar

/-- A statement that is read on its own prints a token. -/
theorem Stmt.shown_of_read {tokens : Tokens} {statement : Stmt}
    (read : Stmt.ofTokens tokens = .ok statement) : statement.Shown := by
  have one : Gives Stmt.Shown (Grammar.statement (Grammar.ofInput tokens)) := inferInstance
  exact (one.found fun statement shown => .ite inferInstance (.pure shown)).of_run read

/-- The expressions of an invocation print a token, and so do the statements of the block behind
the arguments. -/
structure Invocation.Shown (invocation : Invocation) : Prop where
  arguments : ∀ argument ∈ invocation.arguments, argument.expr.Shown
  trailing : ∀ trailing, invocation.trailing = some trailing →
    Stmt.AllShown trailing.block.statements

namespace Invocation

section Parts

variable {g : Grammar} {P : Expr → Prop} {Q : Block → Prop}

theorem gives_argument (expr : Gives P (g.expr true)) :
    Gives (fun argument => P argument.expr) (Argument.read g) := by
  unfold Argument.read
  refine .bind fun here => .ite (.bind fun label => .bind fun colon => ?_) ?_
  · exact expr.found fun expr own => .pure own
  · exact expr.found fun expr own => .pure own

theorem gives_readItems (expr : Gives P (g.expr true)) (bound : Nat) :
    Gives (fun items => ∀ item ∈ items, P item.1.expr) (readItems g bound) := by
  induction bound with
  | zero =>
      unfold readItems
      exact .pure (List.forall_mem_nil _)
  | succ bound ih =>
      unfold readItems
      refine .bind fun here => .ite (.pure (List.forall_mem_nil _)) ?_
      refine (gives_argument expr).found fun argument own => .bind fun here => .ite ?_ ?_
      · exact .bind fun comma => ih.found fun items all =>
          .pure (List.forall_mem_cons.mpr ⟨own, all⟩)
      · exact .pure (List.forall_mem_singleton.mpr own)

theorem gives_readTrailing (block : Gives Q (Grammar.block g)) :
    Gives (Found fun trailing => Q trailing.block) (readTrailing g) := by
  unfold readTrailing
  refine .bind fun here => .ite (.bind fun arrow => ?_) inferInstance
  exact block.found fun block own => .pure fun trailing same => Option.some.inj same ▸ own

/-- What every expression and every block has when it is read, the parts of an invocation have. -/
theorem parts_of_read {tokens : Tokens} {invocation : Invocation}
    (expr : Gives P ((Grammar.ofInput tokens).expr true))
    (block : Gives Q (Grammar.ofInput tokens).block)
    (read : ofTokens tokens = .ok invocation) :
    (∀ argument ∈ invocation.arguments, P argument.expr) ∧
      ∀ trailing, invocation.trailing = some trailing → Q trailing.block := by
  have whole : Gives (fun invocation : Invocation =>
      (∀ argument ∈ invocation.arguments, P argument.expr) ∧
        ∀ trailing, invocation.trailing = some trailing → Q trailing.block)
      (Invocation.read (.ofInput tokens)) := by
    refine .bind fun here => (gives_readItems expr _).found fun items own => ?_
    refine (gives_readTrailing block).found fun trailing all => .bind fun done =>
      .ite (.pure ⟨fun argument among => ?_, all⟩) inferInstance
    obtain ⟨item, member, rfl⟩ := List.mem_map.mp among
    exact own item member
  exact whole.of_run read

end Parts

/-- What is read as an invocation prints a token for each part. -/
theorem shown_of_read {tokens : Tokens} {invocation : Invocation}
    (read : ofTokens tokens = .ok invocation) : invocation.Shown := by
  have expr : Gives Expr.Shown ((Grammar.ofInput tokens).expr true) := inferInstance
  obtain ⟨arguments, trailing⟩ := parts_of_read expr (Grammar.shown_block _) read
  exact ⟨arguments, trailing⟩

end Invocation

end MacroExpansion
