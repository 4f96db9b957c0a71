import MacroExpansion.Proofs.Reading.PlainCall

/-!
# Reading a guard

A guard is put together from made-up tokens, a name, the path of the runtime and a location, and its
tokens are read as the one statement that it is. The reading goes from the inside out: the report
with its arguments, the block of the guard, and then pattern and value, which are the name. The name
may be a reserved word that is a step of a path; then its pattern is a path.
-/

namespace MacroExpansion

open TokenReader
open Identifier (IsStep)

/-! ### What a guard does if there is no value -/

namespace Location

/-- The expression for the file of a location. -/
def fileExpr : Location → Expr
  | fixed file _ => .literal (.string file)
  | deferred _ => .macroCall ⟨Runtime.file, Tokens.symbol "!", .enclosed .parenthesis []⟩

/-- The expression for the line of a location. -/
def lineExpr : Location → Expr
  | fixed _ line => .literal (.number line)
  | deferred _ => .macroCall ⟨Runtime.line, Tokens.symbol "!", .enclosed .parenthesis []⟩

theorem tokens_fileExpr (location : Location) : location.fileExpr.tokens = location.fileTokens := by
  cases location <;> rfl

theorem tokens_lineExpr (location : Location) : location.lineExpr.tokens = location.lineTokens := by
  cases location <;> rfl

open Grammar

theorem read_fileExpr (g : Grammar) (location : Location) :
    (deepen (deepen g)).expr true (within location.fileExpr.tokens) =
      .ok (location.fileExpr, within []) := by
  cases location <;> rfl

theorem read_lineExpr (g : Grammar) (location : Location) :
    (deepen (deepen g)).expr true (within location.lineExpr.tokens) =
      .ok (location.lineExpr, within []) := by
  cases location <;> rfl

end Location

namespace Unwrap

open Grammar

/-- The mark of what is there in debug builds only. -/
def debugOnly : Tokens :=
  Tokens.symbol "#" ++
    [.enclosed .bracket [.word "cfg", .enclosed .parenthesis [.word "debug_assertions"]]]

/-- What a report is given. -/
def reported (location : Location) (name : Ident) : List Expr :=
  [.literal (.string (missingMessage name)), location.fileExpr, location.lineExpr]

/-- The report of a missing value. -/
def reportCall (module : Path) (location : Location) (name : Ident) : Expr :=
  .callPath (Runtime.report module) (reported location name)

/-- The statements of a guard if there is no value. -/
def escapeStatements (module : Path) (location : Location) (name : Ident) : List Stmt :=
  [.expr (.attributed debugOnly (reportCall module location name)) semicolon,
    .expr (.jump [.word "return"] [] none) semicolon]

/-- What a guard does if there is no value, as a report and a return. -/
theorem escape_eq (module : Path) (location : Location) (name : Ident) :
    escape module location name =
      debugOnly ++ ((reportCall module location name).tokens ++
        (semicolon ++ ([.word "return"] ++ semicolon))) := by
  have file := location.tokens_fileExpr
  have line := location.tokens_lineExpr
  simp only [Expr.tokens] at file line
  rw [reportCall, Expr.tokens_callPath]
  simp [escape, debugOnly, reported, Element.listed, Element.printAll, Expr.print, file, line]

theorem tokens_escapeStatements (module : Path) (location : Location) (name : Ident) :
    (escapeStatements module location name).flatMap Stmt.tokens = escape module location name := by
  rw [escape_eq, reportCall, Expr.tokens_callPath]
  have unnested : Place.statement.needsParentheses
      (.attributed debugOnly (.callPath (Runtime.report module) (reported location name))) =
      false := rfl
  have call : (Expr.callPath (Runtime.report module) (reported location name)).isRange = false :=
    rfl
  have leave : Stmt.print (.expr (.jump [.word "return"] [] none) semicolon) =
      [.word "return"] ++ semicolon := rfl
  simp only [escapeStatements, reportCall, List.flatMap_cons, List.flatMap_nil, Stmt.tokens, leave]
  simp only [Stmt.print, Expr.print, unnested, call, Expr.print_callPath, Setting.wrap_false,
    List.append_nil, List.append_assoc]

/-! ### The parts of a guard -/

/-- The mark is taken, and no other is behind it. -/
theorem outerAttributes_debugOnly (g : Grammar) {tokens : Tokens} (opens : tokens.OpensPath)
    (group : Delimiter) (close : Span) :
    outerAttributes g ⟨debugOnly ++ tokens, group, close, none⟩ =
      .ok (debugOnly, ⟨tokens, group, close, none⟩) := by
  have mark : outerAttribute g ⟨debugOnly ++ tokens, group, close, none⟩ =
      .ok (debugOnly, ⟨tokens, group, close, none⟩) := rfl
  have next : tokens.sees "#" = false := opens.sees "#" rfl (by decide)
  have others (bound : Nat) : repeatWhile.go (·.sees "#") (outerAttribute g) bound
      ⟨tokens, group, close, none⟩ = .ok ([], ⟨tokens, group, close, none⟩) := by
    cases bound with
    | zero => rfl
    | succ bound =>
        rw [repeatWhile.go, bind_of_ok (ahead_eq _)]
        simp only [next, Bool.false_eq_true, if_false]
        rfl
  have first : Tokens.sees "#" (debugOnly ++ tokens) = true := rfl
  rw [outerAttributes, repeatWhile, bind_of_ok (ahead_eq _), repeatWhile.go,
    bind_of_ok (ahead_eq _)]
  simp only [first, if_true]
  rw [bind_of_ok mark, bind_of_ok (others _)]
  rfl

/-- The pattern of a guard is read back. -/
theorem singleRule_some {name : Ident} (g : Grammar) (step : IsStep name.text) (behind : Tokens)
    (group : Delimiter) (close : Span) :
    singleRule (deepen (deepen g))
        ⟨Runtime.some.tokens ++ .enclosed .parenthesis [name.token] :: behind, group, close,
          none⟩ =
      .ok (.plain (Runtime.some.tokens ++ [.enclosed .parenthesis [name.token]]),
        ⟨behind, group, close, none⟩) := by
  have plain : Runtime.some.Plain := Path.plain_absolute (by decide)
  have seen : seesPathPattern (Runtime.some.tokens ++
      .enclosed .parenthesis [name.token] :: behind) = true := rfl
  have behindPath : pathPattern (deepen (deepen g))
      ⟨Runtime.some.tokens ++ .enclosed .parenthesis [name.token] :: behind, group, close, none⟩ =
      (do return .plain (Runtime.some.tokens ++
        (← grouped .parenthesis (patternList (deepen (deepen g))))) : TokenReader Pattern)
        ⟨.enclosed .parenthesis [name.token] :: behind, group, close, none⟩ := by
    rw [pathPattern, bind_of_ok (anyPath_of_plain _ plain rfl)]
    rfl
  rw [singleRule, bind_of_ok (ahead_eq _), if_pos seen, behindPath, grouped,
    bind_of_ok (bind_of_ok (group_of_ok rfl (patternList_of_step g step)))]
  rfl

/-- The value of a guard is read as the name it is, up to `else`. -/
theorem expr_before_else {name : Ident} (g : Grammar) (step : IsStep name.text) (rest : Tokens)
    (group : Delimiter) (close : Span) :
    (deepen (deepen g)).expr true ⟨name.token :: .word "else" :: rest, group, close, none⟩ =
      .ok (.path ⟨[], [⟨[], name, []⟩]⟩, ⟨.word "else" :: rest, group, close, none⟩) := by
  have plain := Path.plain_ofIdent step
  have alone : atomRule g true ⟨name.token :: .word "else" :: rest, group, close, none⟩ =
      .ok (.path ⟨[], [⟨[], name, []⟩]⟩, ⟨.word "else" :: rest, group, close, none⟩) :=
    (atomRule_of_plain g plain rfl rfl true).trans rfl
  have first : (deepen g).unary true ⟨name.token :: .word "else" :: rest, group, close, none⟩ =
      .ok (.path ⟨[], [⟨[], name, []⟩]⟩, ⟨.word "else" :: rest, group, close, none⟩) := by
    refine (unaryRule_of_plain g plain (.word "else" :: rest) true).trans ?_
    rw [attributedAtom]
    exact (bind_of_ok alone).trans rfl
  change exprRule (deepen g) true _ = _
  rw [exprRule, bind_of_ok first]
  rfl

/-- It comes with the sign in front of it, and a branch is still to come. -/
theorem bindingValue_name {name : Ident} (g : Grammar) (step : IsStep name.text) (rest : Tokens) :
    bindingValue (deepen (deepen g))
        (.ofTokens (Tokens.symbol "=" ++ name.token :: .word "else" :: rest)) =
      .ok ((Tokens.symbol "=" ++ [name.token], true), .ofTokens (.word "else" :: rest)) := by
  have seen : Tokens.sees "=" (Input.ofTokens (Tokens.symbol "=" ++ name.token :: .word "else" ::
      rest)).rest = true := rfl
  have equals : operator "="
      (.ofTokens (Tokens.symbol "=" ++ name.token :: .word "else" :: rest)) =
      .ok (Tokens.symbol "=", .ofTokens (name.token :: .word "else" :: rest)) := rfl
  have read : (deepen (deepen g)).expr true (.ofTokens (name.token :: .word "else" :: rest)) =
      .ok (.path ⟨[], [⟨[], name, []⟩]⟩, .ofTokens (.word "else" :: rest)) :=
    expr_before_else g step rest .invisible .callSite
  rw [bindingValue, bind_of_ok (ahead_eq _), if_pos seen, bind_of_ok equals, bind_of_ok read]
  rfl

/-! ### Guards -/

variable {module : Path} (plain : module.Plain) (location : Location) (name : Ident)

include plain

/-- The first statement is the report, marked as it is. -/
theorem statement_report (depth : Nat) (rest : Tokens) (group : Delimiter) (close : Span) :
    statement (ofDepth (depth + 4))
        ⟨debugOnly ++ ((reportCall module location name).tokens ++ (semicolon ++ rest)), group,
          close, none⟩ =
      .ok (.expr (.attributed debugOnly (reportCall module location name)) semicolon,
        ⟨rest, group, close, none⟩) := by
  have path : (Runtime.report module).Plain := plain.extend (by decide)
  have several : 1 < (Runtime.report module).segments.length := by
    cases plain <;> simp [Runtime.report, Path.extend]
  have reads : List.Forall₂ (fun value again =>
      (ofDepth (depth + 2)).expr true (within value.tokens) = .ok (again, within []))
      (reported location name) (reported location name) :=
    .cons rfl (.cons (location.read_fileExpr _) (.cons (location.read_lineExpr _) .nil))
  have opens := Expr.opensPath_callPath path (reported location name) (semicolon ++ rest)
  have item := seesItem_callPath path (reported location name) (semicolon ++ rest) several
  have bound := opens.seesWord "let" (by decide)
  have call : (ofDepth (depth + 4)).leading
      ⟨(reportCall module location name).tokens ++ (semicolon ++ rest), group, close, none⟩ =
      .ok (reportCall module location name, ⟨semicolon ++ rest, group, close, none⟩) :=
    leading_callPath path rest group close reads
  rw [reportCall] at call ⊢
  rw [statement, bind_of_ok (ahead_eq _),
    bind_of_ok (outerAttributes_debugOnly _ opens group close),
    bind_of_ok (opening_callPath path _ _ group close)]
  dsimp only
  rw [bind_of_ok (ahead_eq _)]
  simp only [item, bound, Bool.false_and, Bool.false_eq_true, if_false]
  rw [exprStatement, bind_of_ok call]
  rfl

/-- The statements of a guard are read back. -/
theorem statements_escape (depth : Nat) (close : Span) :
    (ofDepth (depth + 5)).statements ⟨escape module location name, .brace, close, none⟩ =
      .ok (escapeStatements module location name, ⟨[], .brace, close, none⟩) := by
  have room : ∃ bound, Tokens.size (escape module location name) = bound + 2 := by
    have mark : Tokens.size debugOnly = 5 := rfl
    rw [escape_eq, Tokens.size_append, mark]
    exact ⟨_, Nat.add_comm 5 _⟩
  obtain ⟨bound, size⟩ := room
  have report := statement_report plain location name depth ([.word "return"] ++ semicolon) .brace
    close
  rw [← escape_eq] at report
  have some : atEnd ⟨escape module location name, .brace, close, none⟩ =
      .ok (false, ⟨escape module location name, .brace, close, none⟩) := rfl
  have filled : Tokens.sees ";" (escape module location name) = false := rfl
  have leave : statementsRule.go (ofDepth (depth + 4)) (bound + 2)
      ⟨[.word "return"] ++ semicolon, .brace, close, none⟩ =
      .ok ([.expr (.jump [.word "return"] [] none) semicolon], ⟨[], .brace, close, none⟩) := rfl
  change statementsRule (ofDepth (depth + 4)) _ = _
  rw [statementsRule, bind_of_ok (ahead_eq _)]
  simp only [size]
  rw [statementsRule.go, bind_of_ok some, if_neg Bool.false_ne_true, bind_of_ok (ahead_eq _)]
  simp only [filled, Bool.false_eq_true, if_false]
  have closed : Stmt.needsSemicolon
      (.expr (.attributed debugOnly (reportCall module location name)) semicolon) = false := rfl
  rw [bind_of_ok report, bind_of_ok rfl]
  simp only [closed, Bool.and_false, Bool.false_eq_true, if_false]
  rw [bind_of_ok leave]
  rfl

/-- The block of a guard is read back. -/
theorem blockTokens_escape (depth : Nat) (rest : Tokens) (group : Delimiter) (close : Span) :
    blockTokens (ofDepth (depth + 5))
        ⟨.enclosed .brace (escape module location name) :: rest, group, close, none⟩ =
      .ok ([.enclosed .brace (escape module location name)], ⟨rest, group, close, none⟩) := by
  have content := statements_escape plain location name depth .callSite
  rw [blockTokens, block, bind_of_ok (bind_of_ok (group_of_ok rfl content))]
  change Except.ok (Block.tokens ⟨escapeStatements module location name, .callSite⟩, _) = _
  rw [Block.tokens, tokens_escapeStatements]
  rfl

/-- A guard is read as a binding, itself. -/
theorem binding_guard (value : Expr) (step : IsStep name.text) (depth : Nat) :
    binding (ofDepth (depth + 5)) [] (.ofTokens (guard module location value name).tokens) =
      .ok (guard module location value name, .ofTokens []) := by
  let escaped : Tokens := .enclosed .brace (escape module location name) :: semicolon
  let valued : Tokens := Tokens.symbol "=" ++ name.token :: .word "else" :: escaped
  have split : (guard module location value name).tokens =
      .ident "let" value.span :: (Runtime.some.tokens ++
        .enclosed .parenthesis [name.token] :: valued) := by
    simp [guard, Stmt.tokens, Stmt.print, Binding.tokens, valued, escaped]
  have head : keyword "let" (.ofTokens (guard module location value name).tokens) =
      .ok ([.ident "let" value.span], .ofTokens (Runtime.some.tokens ++
        .enclosed .parenthesis [name.token] :: valued)) := by
    rw [split]
    rfl
  have pattern : (ofDepth (depth + 5)).single
      (.ofTokens (Runtime.some.tokens ++ .enclosed .parenthesis [name.token] :: valued)) =
      .ok (.plain (Runtime.some.tokens ++ [.enclosed .parenthesis [name.token]]),
        .ofTokens valued) :=
    singleRule_some (ofDepth (depth + 2)) step valued .invisible .callSite
  have untyped (part : TokenReader Tokens) :
      ifAhead (·.sees ":") part (.ofTokens valued) = .ok ([], .ofTokens valued) := rfl
  have given : bindingValue (ofDepth (depth + 5)) (.ofTokens valued) =
      .ok ((Tokens.symbol "=" ++ [name.token], true), .ofTokens (.word "else" :: escaped)) :=
    bindingValue_name (ofDepth (depth + 3)) step escaped
  have otherwise := blockTokens_escape plain location name depth semicolon .invisible .callSite
  have branch : keyword "else" (.ofTokens (.word "else" :: escaped)) =
      .ok ([.word "else"], .ofTokens escaped) := rfl
  rw [binding, bind_of_ok head, bind_of_ok pattern, bind_of_ok (untyped _), bind_of_ok given]
  simp only []
  rw [bind_of_ok ((ifAhead_of_true rfl).trans ((bind_of_ok branch).trans (bind_of_ok otherwise)))]
  rfl

/-- A guard is read as one statement, itself. -/
theorem ofTokens_guard (value : Expr) (step : IsStep name.text) :
    Stmt.ofTokens (guard module location value name).tokens =
      .ok (guard module location value name) := by
  have chosen (g : Grammar) : statement g (.ofTokens (guard module location value name).tokens) =
      binding g [] (.ofTokens (guard module location value name).tokens) := rfl
  have read := binding_guard plain location name value step
    (8 * Tokens.size (guard module location value name).tokens + 3)
  rw [Stmt.ofTokens, TokenReader.run, ofInput, bind_of_ok ((chosen _).trans read)]
  rfl

end Unwrap

end MacroExpansion
