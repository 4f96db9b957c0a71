import MacroExpansion.Proofs.Reading.Shown

/-!
# The statements that code holds

A body may be emitted statement by statement, so what matters about it is what its statements are.
`Expr.held` are the statements of the block that code is, seen through attributes, invisible groups
and the bars of a closure. A property that every statement has when it is read, all held statements
have: they are read one by one, and no rule changes them afterwards.

The one property of this kind that an emission relies on is `Stmt.CallBraced`: a macro call that
makes a statement without a semicolon has its arguments in braces.
-/

namespace MacroExpansion

open Tokens TokenReader

namespace Expr

/-- The statements of the block that code is, or that it is a closure around. -/
def held : Expr → List Stmt
  | attributed _ inner => inner.held
  | hidden inner _ => inner.held
  | closure _ _ _ _ _ body => body.held
  | block _ _ statements _ => statements
  | _ => []

/-- All statements that the code holds have the property. -/
class Holds (P : Stmt → Prop) (expr : Expr) : Prop where
  all : ∀ statement ∈ expr.held, P statement

variable {P : Stmt → Prop}

section Empty

/-! Code that is no block holds nothing. -/

instance (token : Token) : Holds P (.literal token) := ⟨List.forall_mem_nil _⟩

instance (path : Path) : Holds P (.path path) := ⟨List.forall_mem_nil _⟩

instance (label tokens : Tokens) : Holds P (.control label tokens) := ⟨List.forall_mem_nil _⟩

instance (call : MacroCall) : Holds P (.macroCall call) := ⟨List.forall_mem_nil _⟩

instance (operator : Tokens) (operand : Expr) : Holds P (.unary operator operand) :=
  ⟨List.forall_mem_nil _⟩

instance (left : Expr) (operator : Operator) (right : Expr) :
    Holds P (.binary left operator right) := ⟨List.forall_mem_nil _⟩

instance (operand : Expr) (keyword : Tokens) (type : TypeCode) :
    Holds P (.cast operand keyword type) := ⟨List.forall_mem_nil _⟩

instance (start : Option Expr) (operator : Tokens) (stop : Option Expr) :
    Holds P (.range start operator stop) := ⟨List.forall_mem_nil _⟩

instance (function : Expr) (arguments : List Element) (span : Span) :
    Holds P (.call function arguments span) := ⟨List.forall_mem_nil _⟩

instance (base : Expr) (position : Token) : Holds P (.index base position) :=
  ⟨List.forall_mem_nil _⟩

instance (base : Expr) (suffix : Tokens) : Holds P (.select base suffix) :=
  ⟨List.forall_mem_nil _⟩

instance (keyword label : Tokens) (value : Option Expr) : Holds P (.jump keyword label value) :=
  ⟨List.forall_mem_nil _⟩

instance (head : Tokens) (value : Expr) : Holds P (.condition head value) :=
  ⟨List.forall_mem_nil _⟩

instance (tokens : Tokens) : Holds P (.atom tokens) := ⟨List.forall_mem_nil _⟩

instance (tokens : Tokens) : Holds P (.untouched tokens) := ⟨List.forall_mem_nil _⟩

end Empty

theorem held_withAttributes (attributes : Tokens) (expr : Expr) :
    (expr.withAttributes attributes).held = expr.held := by
  unfold withAttributes
  split
  · rfl
  · split <;> rfl

instance (attributes : Tokens) (expr : Expr) [own : expr.Holds P] :
    (expr.withAttributes attributes).Holds P where
  all := by
    rw [held_withAttributes]
    exact own.all

instance (expr : Expr) [own : expr.Holds P] : Gives (Holds P) (pure expr) := .pure own

end Expr

namespace Grammar

set_option synthInstance.maxSize 512

variable {P : Stmt → Prop} (g : Grammar)

/-! ### What an expression grows by -/

instance (operand : Expr) : Gives (Expr.Holds P) (castTo g operand) := by
  unfold castTo
  refine .bind fun keyword => .bind fun type => .bind fun here => ?_
  split <;> infer_instance

instance (structs : Bool) (base : Precedence) (left : Expr) :
    Gives (Found (Expr.Holds P)) (extend g structs base left) := by
  unfold extend
  refine .bind fun here => .ite inferInstance ?_
  split <;> infer_instance

instance (structs : Bool) (base : Precedence) (left : Expr) [own : left.Holds P] (bound : Nat) :
    Gives (Expr.Holds P) (climb.go g structs base left bound) := by
  induction bound generalizing left with
  | zero => unfold climb.go; infer_instance
  | succ bound ih =>
      unfold climb.go
      exact .option (fun left (_ : left.Holds P) => ih left) (.pure own)

instance (structs : Bool) (base : Precedence) (left : Expr) [left.Holds P] :
    Gives (Expr.Holds P) (climb g structs base left) := by
  unfold climb; infer_instance

instance (base : Expr) : Gives (Found (Expr.Holds P)) (follow g base) := by
  unfold follow; infer_instance

instance (base : Expr) [own : base.Holds P] (bound : Nat) :
    Gives (Expr.Holds P) (trail.go g base bound) := by
  induction bound generalizing base with
  | zero => unfold trail.go; infer_instance
  | succ bound ih =>
      unfold trail.go
      exact .option (fun base (_ : base.Holds P) => ih base) (.pure own)

instance (base : Expr) [base.Holds P] : Gives (Expr.Holds P) (trail g base) := by
  unfold trail; infer_instance

/-! ### Atoms -/

instance (structs : Bool) (path : Path) : Gives (Expr.Holds P) (named g structs path) := by
  unfold named; infer_instance

instance (structs : Bool) : Gives (Found (Expr.Holds P)) (jump? g structs) := by
  unfold jump? breakJump bareLabel continueJump jump; infer_instance

instance : Gives (Found (Expr.Holds P)) (untouched? g) := by
  unfold untouched?; infer_instance

instance (structs : Bool) : Gives (Expr.Holds P) (letCondition g structs) := by
  unfold letCondition; infer_instance

/-- The grammar reads only code whose statements all have the property. -/
class Keeps (P : Stmt → Prop) (g : Grammar) : Prop where
  expr (structs : Bool) : Gives (Expr.Holds P) (g.expr structs)
  unary (structs : Bool) : Gives (Expr.Holds P) (g.unary structs)
  leading : Gives (Expr.Holds P) g.leading
  statements : Gives (fun list => ∀ statement ∈ list, P statement) g.statements

attribute [instance] Keeps.expr Keeps.unary Keeps.leading

variable [Keeps P g]

theorem holds_block : Gives (fun block => ∀ statement ∈ block.statements, P statement)
    (block g) := by
  have content : Gives (fun list => ∀ statement ∈ list, P statement) g.statements :=
    Keeps.statements
  unfold block
  exact (content.group .brace).found fun found all => .pure all

instance (label : Tokens) : Gives (Expr.Holds P) (blockExpr g label) := by
  have statements : Gives (fun list => ∀ statement ∈ list, P statement) g.statements :=
    Keeps.statements
  have content : Gives (fun found => ∀ statement ∈ found.2, P statement) (do
      let attributes ← innerAttributes g
      return (attributes, ← g.statements)) :=
    .bind fun attributes => statements.found fun statements all => .pure all
  unfold blockExpr attributedBlock
  exact (content.group .brace).found fun found all => .pure ⟨all⟩

instance : Gives (Found (Expr.Holds P)) (control? g) := by unfold control?; infer_instance

instance : Gives (Expr.Holds P) (labelled g) := by unfold labelled; infer_instance

instance (structs : Bool) : Gives (Expr.Holds P) (hiddenExpr g structs) := by
  have content : Gives (Expr.Holds P) (g.expr true) := inferInstance
  unfold hiddenExpr
  refine content.invisible.found fun found own => ?_
  obtain ⟨inner, span⟩ := found
  dsimp only at own ⊢
  split
  · refine .bind fun more => Gives.found inferInstance fun whole (own : whole.Holds P) => ?_
    split
    · exact .ite (.pure ⟨own.all⟩) (.pure own)
    · exact .pure own
  · exact .pure ⟨own.all⟩

instance (structs : Bool) : Gives (Expr.Holds P) (closure g structs) := by
  have expr : Gives (Expr.Holds P) (g.expr structs) := inferInstance
  unfold closure
  refine .bind fun lifetimes => .bind fun constant => .bind fun still => .bind fun deferred =>
    .bind fun capture => .bind fun opening => .bind fun parameters => .bind fun closing =>
    .bind fun here => .ite (.bind fun output => ?_) ?_
  · exact (holds_block g).found fun body all => .pure ⟨all⟩
  · exact expr.found fun body own => .pure ⟨own.all⟩

instance (structs : Bool) : Gives (Expr.Holds P) (atomRule g structs) := by
  unfold atomRule asyncBlock
  refine .bind fun here => .ite inferInstance <| .ite inferInstance <| .ite inferInstance <|
    .ite inferInstance <| .option (fun expr own => .pure own) ?_
  refine .ite inferInstance <| .ite inferInstance <| .option (fun expr own => .pure own) ?_
  refine .ite inferInstance <| .ite inferInstance <| .option (fun expr own => .pure own) ?_
  infer_instance

/-! ### Expressions -/

instance (structs : Bool) (start attributes : Tokens) :
    Gives (Expr.Holds P) (attributedAtom g structs start attributes) := by
  have atom : Gives (Expr.Holds P) (atomRule g structs) := inferInstance
  unfold attributedAtom
  refine atom.found fun atom own => ?_
  have whole : Gives (Expr.Holds P) (trail g atom) := inferInstance
  refine whole.found fun whole own => ?_
  split <;> infer_instance

instance (structs : Bool) : Gives (Expr.Holds P) (unaryRule g structs) := by
  unfold unaryRule
  refine .bind fun start => .bind fun attributes => .bind fun here => .ite inferInstance <|
    .ite inferInstance ?_
  split <;> infer_instance

instance (structs : Bool) : Gives (Expr.Holds P) (exprRule g structs) := by
  have unary : Gives (Expr.Holds P) (g.unary structs) := inferInstance
  unfold exprRule
  exact unary.found fun first own => inferInstance

instance : Gives (Expr.Holds P) (leadingPart g) := by
  have atom : Gives (Expr.Holds P) (hiddenExpr g true) := inferInstance
  unfold leadingPart
  refine .bind fun here => .ite (atom.found fun atom own => inferInstance) ?_
  exact .option (fun expr own => .pure own) inferInstance

instance : Gives (Expr.Holds P) (leadingRule g) := by
  have part : Gives (Expr.Holds P) (leadingPart g) := inferInstance
  unfold leadingRule
  refine .bind fun attributes => part.found fun first own => .ite inferInstance ?_
  have grown : Gives (Expr.Holds P) (trail g first) := inferInstance
  exact .bind fun here => .ite (grown.found fun whole own => inferInstance) inferInstance

/-! ### Statements, and the grammar as a whole -/

end Grammar

/-- Every statement has the property when it is read. -/
class Stmt.Ensured (P : Stmt → Prop) : Prop where
  read (g : Grammar) : Gives P (Grammar.statement g)
  empty (semicolon : Tokens) : P (.empty semicolon)

namespace Grammar

variable {P : Stmt → Prop} [Stmt.Ensured P] (g : Grammar)

theorem holds_statements (bound : Nat) :
    Gives (fun list => ∀ statement ∈ list, P statement) (statementsRule.go g bound) := by
  have one : Gives P (statement g) := Stmt.Ensured.read g
  induction bound with
  | zero =>
      unfold statementsRule.go
      exact .pure (List.forall_mem_nil _)
  | succ bound ih =>
      unfold statementsRule.go
      refine .bind fun done => .ite (.pure (List.forall_mem_nil _)) <| .bind fun here => .ite ?_ ?_
      · exact .bind fun semicolon => ih.found fun rest all =>
          .pure (List.forall_mem_cons.mpr ⟨Stmt.Ensured.empty semicolon, all⟩)
      · refine one.found fun next own => .bind fun done => .ite inferInstance ?_
        exact ih.found fun rest all => .pure (List.forall_mem_cons.mpr ⟨own, all⟩)

instance : Keeps P nothing where
  expr _ := inferInstanceAs (Gives _ (expected _))
  unary _ := inferInstanceAs (Gives _ (expected _))
  leading := inferInstanceAs (Gives _ (expected _))
  statements := inferInstanceAs (Gives _ (expected _))

/-- One more level of nesting keeps it. -/
instance [Keeps P g] : Keeps P (deepen g) where
  expr structs := inferInstanceAs (Gives _ (exprRule g structs))
  unary structs := inferInstanceAs (Gives _ (unaryRule g structs))
  leading := inferInstanceAs (Gives _ (leadingRule g))
  statements := by
    change Gives _ (statementsRule g)
    unfold statementsRule
    exact .bind fun here => holds_statements g _

instance (depth : Nat) : Keeps P (ofDepth depth) := by
  induction depth with
  | zero => exact inferInstanceAs (Keeps P nothing)
  | succ depth ih => exact inferInstanceAs (Keeps P (deepen (ofDepth depth)))

instance (tokens : Tokens) : Keeps P (ofInput tokens) := by unfold ofInput; infer_instance

end Grammar

/-- All statements that the parts of an invocation hold have the property. -/
theorem Invocation.holds_of_read {P : Stmt → Prop} [Stmt.Ensured P] {tokens : Tokens}
    {invocation : Invocation} (read : ofTokens tokens = .ok invocation) :
    (∀ argument ∈ invocation.arguments, argument.expr.Holds P) ∧
      ∀ trailing, invocation.trailing = some trailing →
        ∀ statement ∈ trailing.block.statements, P statement := by
  have expr : Gives (Expr.Holds P) ((Grammar.ofInput tokens).expr true) := inferInstance
  exact parts_of_read expr (Grammar.holds_block _) read

/-! ### Macro calls as statements -/

/-- If the statement is a macro call without a semicolon, its arguments are in braces. -/
def Stmt.CallBraced (statement : Stmt) : Prop :=
  ∀ attributes call, statement = .macroCall attributes call [] → call.isBraced = true

namespace Grammar

variable (g : Grammar)

theorem callBraced_statementOf (semicolon : Tokens) (expr : Expr) :
    (statementOf semicolon expr).CallBraced := by
  intro attributes call same
  unfold statementOf at same
  split at same
  · split at same
    · rename_i braced
      cases same
      simpa using braced
    · cases same
  · split at same
    · rename_i braced
      cases same
      simpa using braced
    · cases same
  · cases same

/-- The start of a statement is a macro call of its own only in front of braces. -/
theorem seesGroup_of_opening {input after : Input} {path : Path} {rest : Tokens}
    (read : opening input = .ok (.macroCall path rest, after)) :
    rest.second.seesGroup .brace = true := by
  unfold opening at read
  obtain ⟨path?, between, -, further⟩ := bind_eq_ok_iff.mp read
  split at further
  · exact nomatch (pure_eq_ok_iff.mp further).1
  · dsimp only at further
    split at further
    · split at further
      · exact nomatch (pure_eq_ok_iff.mp further).1
      · split at further
        · rename_i braces
          cases (pure_eq_ok_iff.mp further).1
          exact (Bool.and_eq_true_iff.mp braces).1
        · exact nomatch (pure_eq_ok_iff.mp further).1
    · exact nomatch (pure_eq_ok_iff.mp further).1

/-- The group that is read behind the mark of a macro call is the one that was seen there. -/
theorem isBrace_of_anyGroup {input between after : Input} {bang : Tokens} {body : Token}
    (seen : input.rest.second.seesGroup .brace = true)
    (mark : operator "!" input = .ok (bang, between))
    (read : anyGroup between = .ok (body, after)) : body.isBrace = true := by
  obtain ⟨spacing, span, rest, front, -, rfl⟩ :=
    (operator_single_iff (c := '!') (by decide)).mp mark
  have behind : input.rest.second = rest := by simp [Tokens.second, front]
  rw [behind] at seen
  unfold anyGroup at read
  split at read
  · exact absurd read Fails.fails
  · rename_i delimiter inner place more hidden next
    cases read
    dsimp only at next
    rw [next] at seen
    cases delimiter with
    | brace => rfl
    | parenthesis => cases seen
    | bracket => cases seen
    | invisible => exact (hidden rfl).elim
  · exact absurd read Fails.fails

instance (attributes : Tokens) : Gives Stmt.CallBraced (binding g attributes) := by
  unfold binding
  refine .bind fun head => .bind fun pattern => .bind fun type => .bind fun value =>
    .bind fun otherwise => .bind fun semicolon => .pure nofun

instance (start attributes : Tokens) :
    Gives Stmt.CallBraced (itemStatement g start attributes) := by
  unfold itemStatement
  exact .bind fun draft => .ite (.bind fun tokens => .pure nofun) (.pure nofun)

instance (attributes : Tokens) : Gives Stmt.CallBraced (exprStatement g attributes) := by
  unfold exprStatement
  exact .bind fun expr => .bind fun semicolon => .pure (callBraced_statementOf semicolon _)

end Grammar

open Grammar in
instance : Stmt.Ensured Stmt.CallBraced where
  read g := ⟨by
    intro input after found read
    unfold Grammar.statement at read
    obtain ⟨start, _, -, attributed⟩ := bind_eq_ok_iff.mp read
    obtain ⟨attributes, between, -, opened⟩ := bind_eq_ok_iff.mp attributed
    obtain ⟨form, _, looked, further⟩ := bind_eq_ok_iff.mp opened
    cases form with
    | macroCall path rest =>
        obtain ⟨_, here, resumed, marked⟩ := bind_eq_ok_iff.mp further
        obtain ⟨bang, behind, mark, rest⟩ := bind_eq_ok_iff.mp marked
        obtain ⟨body, _, group, closed⟩ := bind_eq_ok_iff.mp rest
        obtain ⟨semicolon, _, -, made⟩ := bind_eq_ok_iff.mp closed
        obtain ⟨rfl, -⟩ := pure_eq_ok_iff.mp made
        cases resumed
        intro attributes call same
        cases same
        exact isBrace_of_anyGroup (seesGroup_of_opening looked) mark group
    | definition =>
        have item : Gives Stmt.CallBraced (itemStatement g start attributes) := inferInstance
        exact item.holds further
    | other =>
        have plain : Gives Stmt.CallBraced (do
            let here ← ahead
            if here.seesWord "let" && !here.seesInvisible then binding g attributes
            else if seesItem here then itemStatement g start attributes
            else exprStatement g attributes) :=
          .bind fun here => .ite inferInstance (.ite inferInstance inferInstance)
        exact plain.holds further⟩
  empty semicolon := nofun

end MacroExpansion
