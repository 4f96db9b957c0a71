import MacroExpansion.Proofs.Color.HexLiteral
import MacroExpansion.Proofs.Outcome

/-!
# What a color expands to

The expansion of a color is a function of its first two expressions. `Color.Means` says which one,
rule by rule: what is reported, and at which place, or which call of the constructor comes out. The
form of the literal and the bytes in it are those of the text as it was written.

Labels, further arguments and the block behind the arguments have no part in it, and of the context
only the place of the invocation is looked at.
-/

namespace MacroExpansion

namespace Expr

/-- The expression is an integer literal with this text at this place. Attributes in front of it and
invisible groups around it make no difference. -/
inductive IsInteger : Expr → String → Span → Prop where
  | literal {text : String} {place : Span} (integer : Literal.isInteger text = true) :
      IsInteger (.literal (.literal text place)) text place
  | hidden {inner : Expr} {span : Span} {text : String} {place : Span}
      (integer : IsInteger inner text place) : IsInteger (.hidden inner span) text place
  | attributed {attributes : Tokens} {inner : Expr} {text : String} {place : Span}
      (integer : IsInteger inner text place) :
      IsInteger (.attributed attributes inner) text place

theorem integerLiteral?_eq_some_iff {expr : Expr} {text : String} {place : Span} :
    expr.integerLiteral? = some (text, place) ↔ IsInteger expr text place := by
  constructor
  · intro found
    fun_induction integerLiteral? expr with
    | case1 attributes inner ih => exact .attributed (ih found)
    | case2 inner span ih => exact .hidden (ih found)
    | case3 own span integer =>
        cases found
        exact .literal integer
    | case4 => cases found
    | case5 => cases found
  · intro integer
    induction integer with
    | literal integer => simp [integerLiteral?, integer]
    | hidden _ ih => simpa [integerLiteral?] using ih
    | attributed _ ih => simpa [integerLiteral?] using ih

end Expr

namespace Color

/-- Which of the expressions is the literal, and which one is the space if there is one. -/
inductive Chosen : List Expr → Option Expr → Expr → Prop where
  | alone (literal : Expr) : Chosen [literal] none literal
  | behindSpace (space literal : Expr) (ignored : List Expr) :
      Chosen (space :: literal :: ignored) (some space) literal

/-- The literal of the channel with the given byte. -/
def channelOf (byte : Nat) (place : Span) : Expr :=
  .literal (.literal (Channel.literal (Channel.ofByte byte)) place)

/-- The call of the constructor with a space and three bytes. -/
def callOf (module : Path) (space : Option Expr) (red green blue : Nat) (place : Span) : Expr :=
  .call (.path (module.extend ["Color", "new"]))
    [.mk (space.getD (.path (module.extend ["ColorSpace", "Srgb"]))) (Tokens.symbol ","),
      .mk (channelOf red place) (Tokens.symbol ","),
      .mk (channelOf green place) (Tokens.symbol ","),
      .mk (channelOf blue place) []]
    .callSite

/-- What a color with the given expressions comes to: its replacement, and what is reported. -/
inductive Means (module : Path) (site : Span) :
    List Expr → Option Expr → List Diagnostic → Prop where
  | noArgument : Means module site [] none [⟨.requiresArgument, site⟩]
  | notInteger {exprs : List Expr} {space : Option Expr} {literal : Expr}
      (chosen : Chosen exprs space literal)
      (other : ∀ text place, ¬ literal.IsInteger text place) :
      Means module site exprs none [⟨.requiresIntegerLiteral, literal.span⟩]
  | malformed {exprs : List Expr} {space : Option Expr} {literal : Expr} {text : String}
      {place : Span} (chosen : Chosen exprs space literal) (integer : literal.IsInteger text place)
      (form : ¬ Rgb.SixDigits text) :
      Means module site exprs none [⟨.malformedHexadecimal text, place⟩]
  | color {exprs : List Expr} {space : Option Expr} {literal : Expr} {text : String}
      {place : Span} {red green blue : Nat} (chosen : Chosen exprs space literal)
      (integer : literal.IsInteger text place) (writes : Rgb.Writes text red green blue) :
      Means module site exprs (some (callOf module space red green blue place)) []

/-- The tokens of a call: the constructor of the module, and four arguments in parentheses. -/
theorem tokens_callOf (module : Path) (space : Option Expr) (red green blue : Nat) (place : Span) :
    (callOf module space red green blue place).tokens =
      module.tokens ++ Tokens.symbol "::" ++ [.word "Color"] ++ Tokens.symbol "::" ++
        [.word "new", .enclosed .parenthesis
          ((space.getD (.path (module.extend ["ColorSpace", "Srgb"]))).tokens ++
            Tokens.symbol "," ++ (channelOf red place).tokens ++
            Tokens.symbol "," ++ (channelOf green place).tokens ++
            Tokens.symbol "," ++ (channelOf blue place).tokens)] := by
  have bare : (Setting.alone.beforeOperator false).encloses (·.isBelow .whole)
      (.path (module.extend ["Color", "new"])) = false := by
    simp [Setting.encloses, Setting.beforeOperator, Setting.alone, Place.beforeOperator,
      Place.needsParentheses, Expr.isSealed]
  simp [callOf, Expr.tokens, Expr.print, bare, Element.printAll, channelOf,
    Token.enclosed, PathSegment.step, PathSegment.tokens, Ident.made, Ident.token, Token.word]

theorem chosen_of_chooseArguments {arguments : List Argument} {space : Option Expr}
    {literal : Expr} (found : chooseArguments arguments = some (space, literal)) :
    Chosen (arguments.map (·.expr)) space literal := by
  match arguments with
  | [] => cases found
  | [only] =>
      cases found
      exact .alone only.expr
  | first :: second :: rest =>
      cases found
      exact .behindSpace first.expr second.expr (rest.map (·.expr))

theorem eq_nil_of_chooseArguments {arguments : List Argument}
    (none : chooseArguments arguments = none) : arguments = [] := by
  match arguments with
  | [] => rfl
  | [_] => cases none
  | _ :: _ :: _ => cases none

/-- Only the first two expressions count. -/
theorem chooseArguments_congr {arguments others : List Argument}
    (same : (arguments.map (·.expr)).take 2 = (others.map (·.expr)).take 2) :
    chooseArguments arguments = chooseArguments others := by
  match arguments, others with
  | [], [] => rfl
  | [], _ :: _ => simp at same
  | _ :: _, [] => simp at same
  | [a], [b] => simpa [chooseArguments] using same
  | [_], _ :: _ :: _ => simp at same
  | _ :: _ :: _, [_] => simp at same
  | a :: b :: _, c :: d :: _ => simpa [chooseArguments] using same

/-- What the expander decides is what the rules say. -/
theorem means_outcome (module : Path) (site : Span) (invocation : Invocation) :
    Means module site (invocation.arguments.map (·.expr)) (outcome module site invocation).1
      (outcome module site invocation).2.reports := by
  unfold outcome verdict
  cases chosen : chooseArguments invocation.arguments with
  | none =>
      rw [eq_nil_of_chooseArguments chosen]
      exact .noArgument
  | some found =>
      obtain ⟨space, literal⟩ := found
      have choice := chosen_of_chooseArguments chosen
      dsimp only
      cases integer : literal.integerLiteral? with
      | none =>
          refine .notInteger choice fun text place is => ?_
          exact nomatch integer.symm.trans (Expr.integerLiteral?_eq_some_iff.mpr is)
      | some found =>
          obtain ⟨text, place⟩ := found
          have is := Expr.integerLiteral?_eq_some_iff.mp integer
          dsimp only
          cases read : Rgb.ofLiteral? text with
          | none => exact .malformed choice is (Rgb.ofLiteral?_eq_none_iff.mp read)
          | some rgb =>
              obtain ⟨red, green, blue, writes, rfl⟩ := Rgb.ofLiteral?_eq_some_iff.mp read
              exact .color choice is writes

/-- The literal at fault, the replacement and the reports are the same if the first two expressions
are. -/
theorem outcome_congr {invocation other : Invocation} (module : Path) (site : Span)
    (same : (invocation.arguments.map (·.expr)).take 2 =
      (other.arguments.map (·.expr)).take 2) :
    (outcome module site invocation).1 = (outcome module site other).1 ∧
    (outcome module site invocation).2.reports = (outcome module site other).2.reports := by
  have verdicts : verdict module site invocation = verdict module site other := by
    rw [verdict, verdict, chooseArguments_congr same]
  unfold outcome
  rw [verdicts]
  cases verdict module site other with
  | error diagnostic => exact ⟨rfl, rfl⟩
  | ok found => exact ⟨rfl, rfl⟩

theorem names_outcome (module : Path) (site : Span) (invocation : Invocation) :
    (outcome module site invocation).2.names = 0 := by
  unfold outcome
  split <;> rfl

/-- A color never fails. Its replacement and what it reports are those that the rules give to its
expressions, and a call that the rules give is printed with four arguments. An invocation with the
same first two expressions comes to the same in every context at that place. -/
theorem expand_follows_rules (options : Options) (invocation : Invocation) (context : Context) :
    ∃ result reports,
      Means options.module context.site (invocation.arguments.map (·.expr)) result reports ∧
      ((expand options.module invocation).runIn context).1 = .ok result ∧
      ((expand options.module invocation).runIn context).2.pending = context.pending ++ reports ∧
      ((expand options.module invocation).runIn context).2.names = context.names ∧
      ((Builtin.color.expand options invocation).runIn context).1 =
        .ok (result.elim .empty .expr) ∧
      ((Builtin.color.expand options invocation).runIn context).2.pending =
        context.pending ++ reports ∧
      (∀ space red green blue place,
        (callOf options.module space red green blue place).tokens =
          options.module.tokens ++ Tokens.symbol "::" ++ [.word "Color"] ++ Tokens.symbol "::" ++
            [.word "new", .enclosed .parenthesis
              ((space.getD (.path (options.module.extend ["ColorSpace", "Srgb"]))).tokens ++
                Tokens.symbol "," ++ (channelOf red place).tokens ++
                Tokens.symbol "," ++ (channelOf green place).tokens ++
                Tokens.symbol "," ++ (channelOf blue place).tokens)]) ∧
      ∀ (other : Invocation) (elsewhere : Context),
        (invocation.arguments.map (·.expr)).take 2 = (other.arguments.map (·.expr)).take 2 →
        context.site = elsewhere.site →
        ((expand options.module other).runIn elsewhere).1 = .ok result ∧
        ((expand options.module other).runIn elsewhere).2.pending =
          elsewhere.pending ++ reports := by
  refine ⟨_, _, means_outcome options.module context.site invocation, ?_⟩
  rw [Builtin.runIn_expand, runIn_expand]
  refine ⟨rfl, rfl, ?_, rfl, rfl, tokens_callOf options.module, ?_⟩
  · rw [Context.names_apply, names_outcome]
    rfl
  · intro other elsewhere same site
    obtain ⟨result, reports⟩ := outcome_congr options.module elsewhere.site same
    rw [runIn_expand, site, result, reports]
    exact ⟨rfl, rfl⟩

end Color

end MacroExpansion
