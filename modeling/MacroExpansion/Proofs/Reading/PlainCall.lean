import MacroExpansion.Proofs.Reading.Depth
import MacroExpansion.Proofs.Reading.PlainPath
import Mathlib.Data.List.Forall2

/-!
# Calls of plain paths

Generated calls name a function by a plain path and give it expressions with commas between them. If
every argument can be read alone, the call is read as the call it is: a comma ends whatever
expression is in front of it.
-/

namespace MacroExpansion

open TokenReader

/-! ### Arguments in a row -/

namespace Element

/-- Arguments with commas between them. -/
def listed : List Expr → List Element
  | [] => []
  | [value] => [.mk value []]
  | value :: next :: rest => .mk value (Tokens.symbol ",") :: listed (next :: rest)

end Element

namespace Grammar

/-- An expression is read in front of a comma as it is alone. -/
theorem expr_before_comma {depth : Nat} {tokens : Tokens} {value : Expr}
    (read : (ofDepth depth).expr true (within tokens) = .ok (value, within []))
    (rest : Tokens) :
    (ofDepth depth).expr true (within (tokens ++ (Tokens.symbol "," ++ rest))) =
      .ok (value, within (Tokens.symbol "," ++ rest)) := by
  have apart : tokens.Apart (Tokens.symbol "," ++ rest) :=
    .mark (.comma .alone .callSite rest) (.inl rfl)
  have grows := growsBefore_ofDepth (Tokens.symbol "," ++ rest) (Nat.le_refl depth)
  exact ((grows.expr true).follows _ _ _ read apart).2 (.inl rfl)

/-- An argument is read first where tokens are left. -/
theorem elements_go_of_read {g : Grammar} {inner rest : Tokens} {value : Expr} (bound : Nat)
    (some : inner ≠ []) (read : g.expr true (within inner) = .ok (value, within rest)) :
    elements.go g (bound + 1) (within inner) =
      (do
        if ← atEnd then return [.mk value []]
        else
          let comma ← operator ","
          return .mk value comma :: (← elements.go g bound) : TokenReader (List Element))
        (within rest) := by
  have filled : inner.isEmpty = false := by simpa using some
  have goesOn : atEnd (within inner) = .ok (false, within inner) := by
    rw [atEnd, within, filled]
  rw [elements.go, bind_of_ok goesOn, if_neg Bool.false_ne_true, bind_of_ok read]

/-- Arguments that are read alone are read in a row. -/
theorem elements_go_listed {depth : Nat} {values found : List Expr}
    (reads : List.Forall₂ (fun value again =>
      (ofDepth depth).expr true (within value.tokens) = .ok (again, within [])) values found)
    {bound : Nat} (room : values.length ≤ bound) :
    elements.go (ofDepth depth) bound (within (Element.printAll (Element.listed values))) =
      .ok (Element.listed found, within []) := by
  induction reads generalizing bound with
  | nil => cases bound <;> rfl
  | @cons value again values found read reads ih =>
      obtain ⟨bound, rfl⟩ := Nat.exists_eq_succ_of_ne_zero (n := bound) (by
        rw [List.length_cons] at room
        omega)
      have some : value.tokens ≠ [] := by
        intro none
        rw [none] at read
        exact expose_ne_nil_of_read (ofDepth depth) read rfl
      cases reads with
      | nil =>
          have printed : Element.printAll (Element.listed [value]) = value.tokens := by
            simp [Element.listed, Element.printAll, Expr.tokens]
          rw [printed, elements_go_of_read bound some read]
          rfl
      | @cons next other values found second reads =>
          have printed : Element.printAll (Element.listed (value :: next :: values)) =
              value.tokens ++ (Tokens.symbol "," ++
                Element.printAll (Element.listed (next :: values))) := by
            simp [Element.listed, Element.printAll, Expr.tokens]
          have comma (rest : Tokens) : operator "," (within (Tokens.symbol "," ++ rest)) =
              .ok (Tokens.symbol ",", within rest) := rfl
          have goesOn (rest : Tokens) : atEnd (within (Tokens.symbol "," ++ rest)) =
              .ok (false, within (Tokens.symbol "," ++ rest)) := rfl
          rw [printed, elements_go_of_read bound (List.append_ne_nil_of_left_ne_nil some _)
            (expr_before_comma read _), bind_of_ok (goesOn _), if_neg Bool.false_ne_true,
            bind_of_ok (comma _), bind_of_ok (ih (Nat.le_of_succ_le_succ room))]
          rfl

theorem length_listed_le (values : List Expr) :
    values.length ≤ Tokens.size (Element.printAll (Element.listed values)) + 1 := by
  match values with
  | [] => exact Nat.zero_le _
  | [_] => exact Nat.le_add_left _ _
  | value :: next :: rest =>
      have others := length_listed_le (next :: rest)
      have comma : Tokens.size (Tokens.symbol ",") = 1 := rfl
      rw [Element.listed, Element.printAll, Tokens.size_append, Tokens.size_append, comma]
      simp only [List.length_cons] at others ⊢
      omega

theorem elements_listed {depth : Nat} {values found : List Expr}
    (reads : List.Forall₂ (fun value again =>
      (ofDepth depth).expr true (within value.tokens) = .ok (again, within [])) values found) :
    elements (ofDepth depth) (within (Element.printAll (Element.listed values))) =
      .ok (Element.listed found, within []) := by
  rw [elements, bind_of_ok (ahead_eq _)]
  exact elements_go_listed reads (length_listed_le values)

/-- A path in front of parentheses names what is called. -/
theorem named_of_parentheses (g : Grammar) (path : Path) (inner behind : Tokens)
    (group : Delimiter) (close : Span) :
    named g true path ⟨.enclosed .parenthesis inner :: behind, group, close, none⟩ =
      .ok (.path path, ⟨.enclosed .parenthesis inner :: behind, group, close, none⟩) := by
  have silent : Tokens.sees "!" (.enclosed .parenthesis inner :: behind) = false := rfl
  have round : Tokens.seesGroup .brace (.enclosed .parenthesis inner :: behind) = false := rfl
  rw [named, bind_of_ok (ahead_eq _)]
  simp only [silent, round, Bool.and_false, Bool.false_and, Bool.false_eq_true, if_false]
  rfl

variable {depth : Nat} {path : Path} (plain : path.Plain) {values found : List Expr}
  (reads : List.Forall₂ (fun value again =>
    (ofDepth depth).expr true (within value.tokens) = .ok (again, within [])) values found)
  {behind : Tokens} {group : Delimiter} {close : Span}
  (stops : ∀ base, follow (ofDepth depth) base ⟨behind, group, close, none⟩ =
    .ok (none, ⟨behind, group, close, none⟩))

include reads stops in
theorem trail_call (base : Expr) :
    trail (ofDepth depth) base
        ⟨.enclosed .parenthesis (Element.printAll (Element.listed values)) :: behind, group, close,
          none⟩ =
      .ok (.call base (Element.listed found) .callSite, ⟨behind, group, close, none⟩) := by
  have first : follow (ofDepth depth) base
      ⟨.enclosed .parenthesis (Element.printAll (Element.listed values)) :: behind, group, close,
        none⟩ =
      .ok (some (.call base (Element.listed found) .callSite), ⟨behind, group, close, none⟩) := by
    have chosen : follow (ofDepth depth) base
        ⟨.enclosed .parenthesis (Element.printAll (Element.listed values)) :: behind, group, close,
          none⟩ =
        (do
          let arguments ← TokenReader.group .parenthesis (elements (ofDepth depth))
          return some (.call base arguments.1 arguments.2) : TokenReader (Option Expr))
          ⟨.enclosed .parenthesis (Element.printAll (Element.listed values)) :: behind, group,
            close, none⟩ := rfl
    rw [chosen, bind_of_ok (group_of_ok rfl (elements_listed reads))]
    rfl
  have size : Tokens.size
      (.enclosed .parenthesis (Element.printAll (Element.listed values)) :: behind) =
        Tokens.size (Element.printAll (Element.listed values)) + Tokens.size behind + 1 := by
    simp [Tokens.size, Token.enclosed, Token.size]
    omega
  rw [trail, bind_of_ok (ahead_eq _), trail.go, bind_of_ok first]
  simp only [size]
  rw [trail.go, bind_of_ok (stops _)]
  rfl

include plain reads stops in
/-- A call of what a plain path names. -/
theorem unaryRule_call :
    unaryRule (ofDepth depth) true
        ⟨path.tokens ++ .enclosed .parenthesis (Element.printAll (Element.listed values)) ::
          behind, group, close, none⟩ =
      .ok (.call (.path path) (Element.listed found) .callSite,
        ⟨behind, group, close, none⟩) := by
  rw [unaryRule_of_plain _ plain, attributedAtom,
    bind_of_ok ((atomRule_of_plain _ plain rfl rfl true).trans (named_of_parentheses ..)),
    bind_of_ok (trail_call reads stops _)]
  rfl

end Grammar

namespace Expr

open Grammar

/-- The tokens of the first expression are read as the second one in a pair of parentheses. -/
def ReadsAs (expr again : Expr) : Prop :=
  (ofInput expr.tokens).expr true (within expr.tokens) = .ok (again, within [])

theorem readsAs_of_plain {path : Path} (plain : path.Plain) : ReadsAs (.path path) (.path path) :=
  ofInput_expr_of_plain plain .parenthesis .callSite

theorem readsAs_literal (text : String) (place : Span) :
    ReadsAs (.literal (.literal text place)) (.literal (.literal text place)) := rfl

theorem ofTokens_of_plain {path : Path} (plain : path.Plain) :
    ofTokens path.tokens = .ok (.path path) := by
  rw [ofTokens, run, Input.ofTokens, ofInput_expr_of_plain plain]
  rfl

/-- A grammar that nests deeper reads them too. -/
theorem ReadsAs.deeper {expr again : Expr} (reads : expr.ReadsAs again) {depth : Nat}
    (room : 8 * Tokens.size expr.tokens + 8 ≤ depth) :
    (ofDepth depth).expr true (within expr.tokens) = .ok (again, within []) := by
  have further := (((grows_ofDepth room).expr true).follows _ _ _ reads .nothing).2 (.inl rfl)
  rwa [Input.followedBy_nil, Input.followedBy_nil] at further

theorem size_le_listed (value : Expr) (values : List Expr) :
    Tokens.size value.tokens ≤ Tokens.size (Element.printAll (Element.listed (value :: values))) ∧
      Tokens.size (Element.printAll (Element.listed values)) ≤
        Tokens.size (Element.printAll (Element.listed (value :: values))) := by
  cases values with
  | nil => simp [Element.listed, Element.printAll, Expr.tokens, Tokens.size]
  | cons next values =>
      rw [Element.listed, Element.printAll, Tokens.size_append, Tokens.size_append, Expr.tokens]
      omega

theorem reads_listed {depth : Nat} {values found : List Expr}
    (reads : List.Forall₂ ReadsAs values found)
    (room : 8 * Tokens.size (Element.printAll (Element.listed values)) + 8 ≤ depth) :
    List.Forall₂ (fun value again =>
      (ofDepth depth).expr true (within value.tokens) = .ok (again, within [])) values found := by
  induction reads with
  | nil => exact .nil
  | @cons value again values found read reads ih =>
      obtain ⟨first, others⟩ := size_le_listed value values
      exact .cons (read.deeper (by omega)) (ih (by omega))

/-- The call of what a path names. -/
def callPath (path : Path) (values : List Expr) : Expr :=
  .call (.path path) (Element.listed values) .callSite

theorem print_callPath (setting : Setting) (path : Path) (values : List Expr) :
    (callPath path values).print setting =
      path.tokens ++ [.enclosed .parenthesis (Element.printAll (Element.listed values))] := by
  have bare : (setting.beforeOperator false).encloses (·.isBelow .whole) (.path path) = false := by
    cases h : setting.place <;>
      simp [Setting.encloses, Setting.beforeOperator, h, Place.beforeOperator,
        Place.needsParentheses, Expr.isSealed, Expr.isBlockLike, Expr.isCondition]
  simp [callPath, Expr.print, bare, Token.enclosed]

theorem tokens_callPath (path : Path) (values : List Expr) :
    (callPath path values).tokens =
      path.tokens ++ [.enclosed .parenthesis (Element.printAll (Element.listed values))] :=
  print_callPath .alone path values

theorem tokens_callPath_append (path : Path) (values : List Expr) (behind : Tokens) :
    (callPath path values).tokens ++ behind =
      path.tokens ++ .enclosed .parenthesis (Element.printAll (Element.listed values)) ::
        behind := by
  rw [tokens_callPath, List.append_assoc, List.singleton_append]

theorem opensPath_callPath {path : Path} (plain : path.Plain) (values : List Expr)
    (behind : Tokens) : Tokens.OpensPath ((callPath path values).tokens ++ behind) := by
  rw [tokens_callPath_append]
  exact plain.opensPath _

/-- A call of what a plain path names is read as the call of it with what its arguments read as. -/
theorem ofTokens_callPath {path : Path} (plain : path.Plain) {values found : List Expr}
    (reads : List.Forall₂ ReadsAs values found) :
    ofTokens (callPath path values).tokens = .ok (callPath path found) := by
  have room : 8 * Tokens.size (Element.printAll (Element.listed values)) + 8 ≤
      8 * Tokens.size (callPath path values).tokens + 6 := by
    have group : Tokens.size [.enclosed .parenthesis (Element.printAll (Element.listed values))] =
        Tokens.size (Element.printAll (Element.listed values)) + 1 := by
      simp [Tokens.size, Token.enclosed, Token.size]
    rw [tokens_callPath, Tokens.size_append, group]
    omega
  have ends : Tokens.Ends [] := .inl rfl
  have first : (deepen (ofDepth (8 * Tokens.size (callPath path values).tokens + 6))).unary true
      (.ofTokens (callPath path values).tokens) = .ok (callPath path found, .ofTokens []) := by
    rw [tokens_callPath] at room ⊢
    exact unaryRule_call plain (reads_listed reads room) (follow_of_ends _ ends)
  have whole : (ofInput (callPath path values).tokens).expr true
      (.ofTokens (callPath path values).tokens) = .ok (callPath path found, .ofTokens []) := by
    change exprRule (deepen (ofDepth (8 * Tokens.size (callPath path values).tokens + 6))) true _ =
      _
    rw [exprRule, bind_of_ok first]
    exact climb_of_ends _ ends true .jump _
  rw [ofTokens, run, whole]
  rfl

end Expr

/-! ### Calls at the start of a statement -/

namespace Grammar

variable {path : Path} (plain : path.Plain) (values : List Expr) (rest : Tokens)
  (group : Delimiter) (close : Span)

include plain

/-- A call is no macro call, and no item if its path has several steps. -/
theorem opening_callPath :
    opening ⟨(Expr.callPath path values).tokens ++ rest, group, close, none⟩ =
      .ok (.other, ⟨(Expr.callPath path values).tokens ++ rest, group, close, none⟩) := by
  rw [Expr.tokens_callPath_append]
  exact opening_of_plain plain rfl rfl

theorem seesItem_callPath (several : 1 < path.segments.length) :
    seesItem ((Expr.callPath path values).tokens ++ rest) = false := by
  rw [Expr.tokens_callPath_append]
  exact seesItem_of_plain plain several _

variable {values} {depth : Nat} {found : List Expr}
  (reads : List.Forall₂ (fun value again =>
    (ofDepth depth).expr true (within value.tokens) = .ok (again, within [])) values found)

include reads

/-- At the start of a statement, a call ends at the semicolon behind it. -/
theorem leading_callPath :
    (ofDepth (depth + 2)).leading
        ⟨(Expr.callPath path values).tokens ++ (Tokens.symbol ";" ++ rest), group, close, none⟩ =
      .ok (.callPath path found, ⟨Tokens.symbol ";" ++ rest, group, close, none⟩) := by
  have opens := Expr.opensPath_callPath plain values (Tokens.symbol ";" ++ rest)
  have stops (base : Expr) : follow (ofDepth depth) base
      ⟨Tokens.symbol ";" ++ rest, group, close, none⟩ =
        .ok (none, ⟨Tokens.symbol ";" ++ rest, group, close, none⟩) := rfl
  have call : unaryRule (ofDepth depth) true
      ⟨(Expr.callPath path values).tokens ++ (Tokens.symbol ";" ++ rest), group, close, none⟩ =
      .ok (.callPath path found, ⟨Tokens.symbol ";" ++ rest, group, close, none⟩) := by
    rw [Expr.tokens_callPath_append]
    exact unaryRule_call plain reads stops
  have part : leadingPart (ofDepth (depth + 1))
      ⟨(Expr.callPath path values).tokens ++ (Tokens.symbol ";" ++ rest), group, close, none⟩ =
      .ok (.callPath path found, ⟨Tokens.symbol ";" ++ rest, group, close, none⟩) := by
    rw [leadingPart, bind_of_ok (ahead_eq _)]
    simp only [opens.seesInvisible, Bool.false_eq_true, if_false]
    rw [bind_of_ok (control?_of_opensPath _ opens)]
    simp only [opens.seesLifetime, Bool.false_eq_true, if_false]
    exact call
  have bare : exprAttributes (ofDepth (depth + 1))
      ⟨(Expr.callPath path values).tokens ++ (Tokens.symbol ";" ++ rest), group, close, none⟩ =
      .ok ([], ⟨(Expr.callPath path values).tokens ++ (Tokens.symbol ";" ++ rest), group, close,
        none⟩) := exprAttributes_of_none _ (.inr (opens.sees "#" rfl (by decide)))
  change leadingRule (ofDepth (depth + 1)) _ = _
  rw [leadingRule, bind_of_ok bare, bind_of_ok part]
  rfl

end Grammar

end MacroExpansion
