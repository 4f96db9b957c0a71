import MacroExpansion.Expand.Unwrap
import MacroExpansion.Token.Printer

/-!
# The code of a guard

A guard is a tree of made-up tokens. Here it is given as the text that it prints, with the name, the
path of the runtime and the place of the invocation put into it. The path must end visibly, so that
what follows it stands apart: a path of plain steps does.
-/

namespace MacroExpansion

namespace Tokens

@[simp] theorem render_singleton (token : Token) : render [token] = token.render := by
  simp [render]

theorem render_parentheses (inner : Tokens) :
    render [.enclosed .parenthesis inner] = "(" ++ inner.render ++ ")" := by
  rw [render_singleton, Token.enclosed, Token.render]
  rfl

theorem render_braces {inner : Tokens} (some : inner ≠ []) :
    render [.enclosed .brace inner] = "\x7b " ++ inner.render ++ " \x7d" := by
  have filled : inner.isEmpty = false := by simpa using some
  rw [render_singleton, Token.enclosed, Token.render, filled]
  rfl

/-- Do the tokens end with something that a space may follow? -/
def EndsLoose (tokens : Tokens) : Prop :=
  ∃ front last, tokens = front ++ [last] ∧ last.isJoint = false

theorem EndsLoose.singleton {token : Token} (loose : token.isJoint = false) :
    EndsLoose [token] := ⟨[], token, rfl, loose⟩

theorem EndsLoose.append {back : Tokens} (h : back.EndsLoose) (front : Tokens) :
    EndsLoose (front ++ back) := by
  obtain ⟨init, last, rfl, loose⟩ := h
  exact ⟨front ++ init, last, (List.append_assoc ..).symm, loose⟩

theorem EndsLoose.ne_nil {tokens : Tokens} (h : tokens.EndsLoose) : tokens ≠ [] := by
  obtain ⟨init, last, rfl, -⟩ := h
  exact List.append_ne_nil_of_right_ne_nil _ (List.cons_ne_nil _ _)

/-- Parts are printed one after the other, with a space between them if the first ends loose. -/
theorem render_append {front back : Tokens} (h : front.EndsLoose) (more : back ≠ []) :
    render (front ++ back) = render front ++ " " ++ render back := by
  obtain ⟨init, last, rfl, loose⟩ := h
  induction init with
  | nil =>
      cases back with
      | nil => exact absurd rfl more
      | cons next back => simp [render, loose]
  | cons token init ih =>
      rw [List.cons_append, List.cons_append, render, render, ih]
      simp [String.append_assoc]

end Tokens

namespace Path

/-- The path consists of names, at least one, and nothing else. -/
structure OfNames (path : Path) : Prop where
  plain : path.isPlain = true
  segments : path.segments ≠ []

/-- A path of names ends with a name. -/
theorem OfNames.endsLoose {path : Path} (h : path.OfNames) : path.tokens.EndsLoose := by
  obtain none | ⟨front, last, split⟩ := List.eq_nil_or_concat path.segments
  · exact absurd none h.segments
  · have plain := h.plain
    simp only [isPlain, split, List.concat_eq_append, List.all_append, List.all_cons, List.all_nil,
      Bool.and_true, Bool.and_eq_true, List.isEmpty_iff] at plain
    refine ⟨path.qualifier ++ front.flatMap PathSegment.tokens ++ last.separator,
      last.name.token, ?_, rfl⟩
    simp [tokens, split, PathSegment.tokens, plain.2.2]

end Path

namespace Location

/-- The code for the file of a location. -/
def fileText : Location → String
  | fixed file _ => Quoted.quote .literal file
  | deferred _ => ":: core :: file ! ()"

/-- The code for the line of a location. -/
def lineText : Location → String
  | fixed _ line => Layout.numeral line
  | deferred _ => ":: core :: line ! ()"

theorem render_fileTokens (location : Location) :
    location.fileTokens.render = location.fileText := by
  cases location with
  | fixed file line => rw [fileTokens, Tokens.render_singleton, Token.string, Token.render, fileText]
  | deferred span => rfl

theorem render_lineTokens (location : Location) :
    location.lineTokens.render = location.lineText := by
  cases location with
  | fixed file line =>
      rw [lineTokens, Tokens.render_singleton, Token.number, Token.render, lineText, Layout.numeral]
  | deferred span => rfl

theorem endsLoose_fileTokens (location : Location) : location.fileTokens.EndsLoose := by
  cases location with
  | fixed file line => exact .singleton rfl
  | deferred span => exact (Tokens.EndsLoose.singleton rfl).append _

theorem endsLoose_lineTokens (location : Location) : location.lineTokens.EndsLoose := by
  cases location with
  | fixed file line => exact .singleton rfl
  | deferred span => exact (Tokens.EndsLoose.singleton rfl).append _

end Location

namespace Unwrap

/-- The arguments of a report. -/
def reportText (location : Location) (name : String) : String :=
  Quoted.quote .literal ("Unexpected None value: " ++ name) ++ " , " ++ location.fileText ++
    " , " ++ location.lineText

/-- The code of a guard. -/
def guardText (module : Path) (location : Location) (name : String) : String :=
  "let :: core :: option :: Option :: Some (" ++ name ++ ") = " ++ name ++
    " else \x7b # [cfg (debug_assertions)] " ++ module.tokens.render ++
    " :: report_failed_unwrapping (" ++ reportText location name ++ ") ; return ; \x7d ;"

theorem render_reportArguments (location : Location) (name : Ident) :
    Tokens.render ([.string (missingMessage name)] ++ Tokens.symbol "," ++ location.fileTokens ++
      Tokens.symbol "," ++ location.lineTokens) = reportText location name.text := by
  have comma : Tokens.EndsLoose (Tokens.symbol ",") := .singleton rfl
  have message : Tokens.EndsLoose [.string (missingMessage name)] := .singleton rfl
  have file := location.endsLoose_fileTokens
  have commaText : Tokens.render (Tokens.symbol ",") = "," := rfl
  rw [Tokens.render_append (comma.append _) location.endsLoose_lineTokens.ne_nil,
    Tokens.render_append (file.append _) comma.ne_nil,
    Tokens.render_append (comma.append _) file.ne_nil,
    Tokens.render_append message comma.ne_nil,
    location.render_fileTokens, location.render_lineTokens, commaText, Tokens.render_singleton]
  change Quoted.quote .literal (missingMessage name) ++ " " ++ "," ++ " " ++ location.fileText ++
    " " ++ "," ++ " " ++ location.lineText =
      Quoted.quote .literal (missingMessage name) ++ " , " ++ location.fileText ++ " , " ++
        location.lineText
  simp only [String.append_assoc]
  rfl

theorem render_escape {module : Path} (named : module.OfNames) (location : Location)
    (name : Ident) :
    (escape module location name).render =
      "# [cfg (debug_assertions)] " ++ module.tokens.render ++
        " :: report_failed_unwrapping (" ++ reportText location name.text ++ ") ; return ;" := by
  have cfg : Tokens.EndsLoose (Tokens.symbol "#" ++
      [.enclosed .bracket [.word "cfg", .enclosed .parenthesis [.word "debug_assertions"]]]) :=
    (Tokens.EndsLoose.singleton rfl).append _
  have step : Tokens.EndsLoose (Tokens.symbol "::" ++ [.word "report_failed_unwrapping"]) :=
    (Tokens.EndsLoose.singleton rfl).append _
  have report : (Runtime.report module).tokens =
      module.tokens ++ (Tokens.symbol "::" ++ [.word "report_failed_unwrapping"]) := by
    rw [Runtime.report, Path.tokens_extend]
    rfl
  have parentheses (inner : Tokens) : Tokens.EndsLoose [.enclosed .parenthesis inner] :=
    .singleton rfl
  have closed : Tokens.EndsLoose semicolon := .singleton rfl
  have left : Tokens.EndsLoose [.word "return"] := .singleton rfl
  rw [escape, report, Tokens.render_append (left.append _) closed.ne_nil,
    Tokens.render_append (closed.append _) left.ne_nil,
    Tokens.render_append ((parentheses _).append _) closed.ne_nil,
    Tokens.render_append ((step.append _).append _) (parentheses _).ne_nil,
    Tokens.render_append cfg (step.append _).ne_nil,
    Tokens.render_append named.endsLoose step.ne_nil,
    Tokens.render_parentheses, render_reportArguments]
  simp only [String.append_assoc]
  rfl

/-- A guard prints as its code. -/
theorem render_guard {module : Path} (named : module.OfNames) (location : Location) (value : Expr)
    (name : Ident) :
    (guard module location value name).tokens.render = guardText module location name.text := by
  have parts : (guard module location value name).tokens =
      [.ident "let" value.span] ++ Runtime.some.tokens ++ [.enclosed .parenthesis [name.token]] ++
        Tokens.symbol "=" ++ [name.token] ++ [.word "else"] ++
        [.enclosed .brace (escape module location name)] ++ semicolon := by
    simp [guard, Stmt.tokens, Stmt.print, Binding.tokens]
  have word (token : Token) (loose : token.isJoint = false) : Tokens.EndsLoose [token] :=
    .singleton loose
  have constructor : Tokens.EndsLoose Runtime.some.tokens :=
    ⟨Runtime.some.tokens.dropLast, .word "Some", rfl, rfl⟩
  have equals : Tokens.EndsLoose (Tokens.symbol "=") := .singleton rfl
  have closed : Tokens.EndsLoose semicolon := .singleton rfl
  have leaves : escape module location name ≠ [] := by
    rw [escape]
    exact (closed.append _).ne_nil
  rw [parts, Tokens.render_append ((word _ rfl).append _) closed.ne_nil,
    Tokens.render_append ((word (.word "else") rfl).append _) (word _ rfl).ne_nil,
    Tokens.render_append ((word name.token rfl).append _) (word _ rfl).ne_nil,
    Tokens.render_append (equals.append _) (word _ rfl).ne_nil,
    Tokens.render_append ((word _ rfl).append _) equals.ne_nil,
    Tokens.render_append (constructor.append _) (word _ rfl).ne_nil,
    Tokens.render_append (word _ rfl) constructor.ne_nil,
    Tokens.render_parentheses, Tokens.render_braces leaves, render_escape named,
    Tokens.render_singleton name.token]
  change _ = "let :: core :: option :: Option :: Some (" ++ name.text ++ ") = " ++ name.text ++
    " else \x7b # [cfg (debug_assertions)] " ++ module.tokens.render ++
    " :: report_failed_unwrapping (" ++ reportText location name.text ++ ") ; return ; \x7d ;"
  simp only [String.append_assoc]
  rfl

end Unwrap

end MacroExpansion
