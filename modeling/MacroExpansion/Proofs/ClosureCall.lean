import MacroExpansion.Expand.Unwrap
import MacroExpansion.Proofs.Reading.Forward

/-!
# Reading the call of a closure

A body that is called as a closure goes through tokens: it is printed, enclosed, followed by an
empty pair of parentheses and a semicolon, and read as a statement. This module follows the rules of
the grammar through that reading. All of it is fixed but the content of the parentheses, so the
outcome is known as soon as the content reads as an expression.

`Expr.ReadsBack` is what the reading relies on: what an expression prints is read as one expression,
and that one prints the same. The two need not be equal, since printing may put parentheses around a
part. Under it the call of a body is always read, as `Body.called`.
-/

namespace MacroExpansion

namespace TokenReader

variable {α : Type}

/-- Reading a group whose content is read to its end or not: what is left of it is remembered. -/
theorem group_of_ok {delimiter : Delimiter} {content : TokenReader α} {input done : Input}
    {inner rest : Tokens} {span : Span} {value : α}
    (front : input.rest.expose = .group delimiter inner span :: rest)
    (read : content ⟨inner, delimiter, span.last, input.leftover⟩ = .ok (value, done)) :
    group delimiter content input =
      .ok ((value, span), { input with
        rest := rest
        leftover := done.leftover <|> done.rest.leftover? delimiter }) := by
  have inside : (do return (← content, span) : TokenReader (α × Span))
      ⟨inner, delimiter, span.last, input.leftover⟩ = .ok ((value, span), done) := by
    rw [bind_of_ok read]
    rfl
  rw [group, front]
  simp only [if_true, TokenReader.inside, inside]

end TokenReader

namespace Expr

/-- Every grammar that is deep enough for the tokens of the expression reads them, in whatever group
they stand, as one expression that prints the same. -/
def ReadsBack (expr : Expr) : Prop :=
  ∀ depth, 8 * Tokens.size expr.tokens + 8 ≤ depth → ∀ group close,
    ∃ again, (Grammar.ofDepth depth).expr true ⟨expr.tokens, group, close, none⟩ =
        .ok (again, ⟨[], group, close, none⟩) ∧
      again.tokens = expr.tokens

end Expr

namespace Grammar

open TokenReader

/-- The inside of a pair of made-up parentheses. -/
def within (inner : Tokens) : Input := ⟨inner, .parenthesis, .callSite, none⟩

/-- The tokens of a made-up call with the given content in its first parentheses. -/
def calling (inner : Tokens) : Tokens :=
  [.enclosed .parenthesis inner, .enclosed .parenthesis []] ++ Tokens.symbol ";"

/-- What is left when only the semicolon is still to be read. -/
def atSemicolon : Input := ⟨Tokens.symbol ";", .invisible, .callSite, none⟩

/-- The expression that a made-up call reads as. -/
def enclosedCall (inner : Tokens) : Expr :=
  .call (.atom [.enclosed .parenthesis inner]) [] .callSite

theorem expr_nil (g : Grammar) (group : Delimiter) (close : Span) :
    (deepen (deepen (deepen g))).expr true ⟨[], group, close, none⟩ =
      .error ⟨.missingAtEnd "an expression", close⟩ := rfl

theorem elements_single {g : Grammar} {token : Token} {rest : Tokens} {value : Expr}
    (read : g.expr true (within (token :: rest)) = .ok (value, within [])) :
    elements g (within (token :: rest)) = .ok ([.mk value []], within []) := by
  rw [elements, bind_of_ok rfl, elements.go, bind_of_ok rfl, if_neg (by simp [within]),
    bind_of_ok read]
  rfl

theorem elementTokens_single {g : Grammar} {token : Token} {rest : Tokens} {value : Expr}
    (read : g.expr true (within (token :: rest)) = .ok (value, within [])) :
    elementTokens g (within (token :: rest)) = .ok (value.tokens, within []) := by
  rw [elementTokens, bind_of_ok (elements_single read)]
  simp only [Element.printAll, List.append_nil]
  rfl

/-- The first parentheses of a call, once it is known what is in them. -/
theorem atomRule_calling {g : Grammar} {inner printed : Tokens}
    (content : elementTokens g (within inner) = .ok (printed, within [])) :
    atomRule g true (.ofTokens (calling inner)) =
      .ok (.atom [.enclosed .parenthesis printed],
        ⟨.enclosed .parenthesis [] :: Tokens.symbol ";", .invisible, .callSite, none⟩) := by
  have chosen : atomRule g true (.ofTokens (calling inner)) =
      (do return .atom (← grouped .parenthesis (elementTokens g)) : TokenReader Expr)
        (.ofTokens (calling inner)) := rfl
  rw [chosen, bind_of_ok (by rw [grouped, bind_of_ok (group_of_ok rfl content)]; rfl)]
  rfl

/-- The second parentheses of a call. -/
theorem trail_calling (g : Grammar) (function : Expr) :
    trail g function ⟨.enclosed .parenthesis [] :: Tokens.symbol ";", .invisible, .callSite, none⟩ =
      .ok (.call function [] .callSite, atSemicolon) := rfl

theorem unaryRule_calling {g : Grammar} {inner printed : Tokens}
    (content : elementTokens g (within inner) = .ok (printed, within [])) :
    unaryRule g true (.ofTokens (calling inner)) = .ok (enclosedCall printed, atSemicolon) := by
  have chosen : unaryRule g true (.ofTokens (calling inner)) =
      attributedAtom g true (calling inner) [] (.ofTokens (calling inner)) := rfl
  rw [chosen, attributedAtom, bind_of_ok (atomRule_calling content), bind_of_ok (trail_calling g _)]
  rfl

/-- No operator stands in front of the semicolon. -/
theorem climb_atSemicolon (g : Grammar) (inner : Tokens) :
    climb g true .jump (enclosedCall inner) atSemicolon = .ok (enclosedCall inner, atSemicolon) :=
  rfl

theorem leading_calling {g : Grammar} {inner printed : Tokens}
    (content : elementTokens g (within inner) = .ok (printed, within [])) :
    (deepen (deepen g)).leading (.ofTokens (calling inner)) =
      .ok (enclosedCall printed, atSemicolon) := by
  have bare : exprAttributes (deepen g) (.ofTokens (calling inner)) =
      .ok ([], .ofTokens (calling inner)) := rfl
  have first : leadingPart (deepen g) (.ofTokens (calling inner)) =
      .ok (enclosedCall printed, atSemicolon) := unaryRule_calling content
  change leadingRule (deepen g) (.ofTokens (calling inner)) = _
  rw [leadingRule, bind_of_ok bare, bind_of_ok first]
  exact climb_atSemicolon _ _

/-- A made-up call is read as one statement. -/
theorem statement_calling {g : Grammar} {inner printed : Tokens}
    (content : elementTokens g (within inner) = .ok (printed, within [])) :
    statement (deepen (deepen g)) (.ofTokens (calling inner)) =
      .ok (.expr (enclosedCall printed) (Tokens.symbol ";"), .ofTokens []) := by
  have chosen : statement (deepen (deepen g)) (.ofTokens (calling inner)) =
      exprStatement (deepen (deepen g)) [] (.ofTokens (calling inner)) := rfl
  rw [chosen, exprStatement, bind_of_ok (leading_calling content)]
  rfl

/-- A block behind bars of its own is read as a closure without parameters. -/
theorem unaryRule_bars {g : Grammar} {inner : Tokens} {span : Span} {body : Expr}
    (read : g.expr true (within [.group .brace inner span]) = .ok (body, within [])) :
    unaryRule g true (within (Tokens.symbol "||" ++ [.group .brace inner span])) =
      .ok (.closure [] (Tokens.symbol "|") [] (Tokens.symbol "|") [] body, within []) := by
  have chosen : unaryRule g true (within (Tokens.symbol "||" ++ [.group .brace inner span])) =
      attributedAtom g true (Tokens.symbol "||" ++ [.group .brace inner span]) []
        (within (Tokens.symbol "||" ++ [.group .brace inner span])) := rfl
  have opened : atomRule g true (within (Tokens.symbol "||" ++ [.group .brace inner span])) =
      (do return .closure [] (Tokens.symbol "|") [] (Tokens.symbol "|") [] (← g.expr true) :
        TokenReader Expr) (within [.group .brace inner span]) := rfl
  rw [chosen, attributedAtom, bind_of_ok (opened.trans (bind_of_ok read))]
  rfl

theorem expr_bars {g : Grammar} {inner : Tokens} {span : Span} {body : Expr}
    (read : g.expr true (within [.group .brace inner span]) = .ok (body, within [])) :
    (deepen (deepen g)).expr true (within (Tokens.symbol "||" ++ [.group .brace inner span])) =
      .ok (.closure [] (Tokens.symbol "|") [] (Tokens.symbol "|") [] body, within []) := by
  have first : (deepen g).unary true
      (within (Tokens.symbol "||" ++ [.group .brace inner span])) = _ := unaryRule_bars read
  change exprRule (deepen g) true _ = _
  rw [exprRule, bind_of_ok first]
  rfl

/-- The grammar for a call leaves its content a grammar that is deep enough. -/
theorem ofInput_calling (inner : Tokens) :
    ofInput (calling inner) = deepen (deepen (ofDepth (8 * Tokens.size inner + 30))) := by
  have size : Tokens.size (calling inner) = Tokens.size inner + 3 := by
    simp [calling, Tokens.size, Token.enclosed, Token.size, Tokens.symbol, Tokens.symbol.go]
  rw [ofInput, size]
  exact congrArg ofDepth (by omega : 8 * (Tokens.size inner + 3) + 8 = _ + 1 + 1)

end Grammar

namespace Stmt

open Grammar in
theorem ofTokens_calling {inner printed : Tokens}
    (content : elementTokens (ofDepth (8 * Tokens.size inner + 30)) (within inner) =
      .ok (printed, within [])) :
    ofTokens (calling inner) = .ok (.expr (enclosedCall printed) (Tokens.symbol ";")) := by
  rw [ofTokens, TokenReader.run, ofInput_calling,
    TokenReader.bind_of_ok (statement_calling content)]
  rfl

end Stmt

namespace Unwrap

namespace Body

open Grammar

/-- The code that a body is printed from. -/
def source : Body → Expr
  | closure whole _ => whole
  | block content => .block [] [] content.statements content.span

/-- The closure that a body is called as. -/
def calledTokens : Body → Tokens
  | closure whole _ => whole.tokens
  | block content => Tokens.symbol "|" ++ Tokens.symbol "|" ++ content.tokens

/-- The call of a body as a closure. -/
def called (body : Body) : Stmt := terminate (enclosedCall body.calledTokens)

theorem call_closure {whole inner : Expr} (readable : whole.ReadsBack) :
    (closure whole inner).call = .ok (closure whole inner).called := by
  obtain ⟨again, read, same⟩ :=
    readable (8 * Tokens.size whole.tokens + 30) (by omega) .parenthesis .callSite
  have content : elementTokens (ofDepth (8 * Tokens.size whole.tokens + 30))
      (within whole.tokens) = .ok (whole.tokens, within []) := by
    cases printed : whole.tokens with
    | nil =>
        rw [printed] at read
        exact nomatch (expr_nil _ _ _).symm.trans read
    | cons token rest =>
        rw [printed] at read same
        rw [elementTokens_single read, same]
  exact congrArg (Except.mapError Failure.unreadable) (Stmt.ofTokens_calling content)

/-- A block prints as the expression it is. -/
theorem source_block_tokens (content : Block) :
    (source (block content)).tokens = content.tokens := by
  simp [source, Expr.tokens, Expr.print, Block.tokens]

theorem call_block {content : Block} (readable : (source (block content)).ReadsBack) :
    (block content).call = .ok (block content).called := by
  have deep : 8 * Tokens.size (Tokens.symbol "||" ++ content.tokens) + 30 =
      8 * Tokens.size content.tokens + 44 + 1 + 1 := by
    have bars : Tokens.size (Tokens.symbol "||") = 2 := rfl
    rw [Tokens.size_append, bars]
    omega
  obtain ⟨again, read, same⟩ :=
    readable (8 * Tokens.size content.tokens + 44) (by rw [source_block_tokens]; omega)
      .parenthesis .callSite
  rw [source_block_tokens] at read same
  have behind : (ofDepth (8 * Tokens.size (Tokens.symbol "||" ++ content.tokens) + 30)).expr true
      (within (Tokens.symbol "||" ++ content.tokens)) =
        .ok (.closure [] (Tokens.symbol "|") [] (Tokens.symbol "|") [] again, within []) := by
    rw [deep]
    exact expr_bars read
  have printed : (Expr.closure [] (Tokens.symbol "|") [] (Tokens.symbol "|") [] again).tokens =
      Tokens.symbol "|" ++ Tokens.symbol "|" ++ content.tokens := by
    rw [← same]
    simp [Expr.tokens, Expr.print, Setting.atEnd, Setting.alone]
  have inside := elementTokens_single behind
  rw [printed] at inside
  exact congrArg (Except.mapError Failure.unreadable) (Stmt.ofTokens_calling inside)

/-- A body that reads back can be called as a closure, and the call is known. -/
theorem call_eq_called {body : Body} (readable : body.source.ReadsBack) :
    body.call = .ok body.called := by
  cases body with
  | closure whole inner => exact call_closure readable
  | block content => exact call_block readable

end Body

end Unwrap

end MacroExpansion
