import MacroExpansion.Proofs.Color.Reference
import MacroExpansion.Proofs.Render
import MacroExpansion.Proofs.Unwrap.Reference

/-!
# Generated code finds the runtime through the configured path only

A `Template` is code with holes for the path of the runtime. What is printed for a call is such a
template with the path put into its holes, and the template depends on everything but the path: a
color has a hole in front of its constructor, and another one in front of the default space, an
unwrapping has a hole in each of its guards, and nothing else has any. In particular the path has no
part in whether a call is accepted, and the code that was handed in stays as it is, whatever words
it uses.
-/

namespace MacroExpansion

/-- A part of generated code. -/
inductive Piece where
  | token (token : Token)
  /-- A hole for the path of the runtime. -/
  | module
  | group (delimiter : Delimiter) (inner : List Piece) (span : Span)

/-- Code with holes for the path of the runtime. -/
abbrev Template := List Piece

mutual

/-- The code of a part with the path put into its holes. -/
def Piece.fill (module : Tokens) : Piece → Tokens
  | .token token => [token]
  | .module => module
  | .group delimiter inner span => [.group delimiter (Template.fill module inner) span]

/-- The code of a template with the path put into its holes. -/
def Template.fill (module : Tokens) : Template → Tokens
  | [] => []
  | piece :: rest => piece.fill module ++ Template.fill module rest

end

mutual

/-- The number of holes in a part. -/
def Piece.holes : Piece → Nat
  | .token _ => 0
  | .module => 1
  | .group _ inner _ => Template.holes inner

/-- The number of holes in a template. -/
def Template.holes : Template → Nat
  | [] => 0
  | piece :: rest => piece.holes + Template.holes rest

end

namespace Template

/-- Code without a hole. -/
def solid (tokens : Tokens) : Template := tokens.map .token

variable (module : Tokens) (rest : Template)

@[simp] theorem fill_nil : fill module [] = [] := by rw [fill]

@[simp] theorem fill_token (token : Token) :
    fill module (.token token :: rest) = token :: fill module rest := by
  rw [fill, Piece.fill]
  rfl

@[simp] theorem fill_module : fill module (.module :: rest) = module ++ fill module rest := by
  rw [fill, Piece.fill]

@[simp] theorem fill_group (delimiter : Delimiter) (inner : Template) (span : Span) :
    fill module (.group delimiter inner span :: rest) =
      .group delimiter (fill module inner) span :: fill module rest := by
  rw [fill, Piece.fill]
  rfl

@[simp] theorem holes_nil : holes [] = 0 := by rw [holes]

@[simp] theorem holes_token (token : Token) : holes (.token token :: rest) = holes rest := by
  rw [holes, Piece.holes, Nat.zero_add]

@[simp] theorem holes_module : holes (.module :: rest) = 1 + holes rest := by
  rw [holes, Piece.holes]

@[simp] theorem holes_group (delimiter : Delimiter) (inner : Template) (span : Span) :
    holes (.group delimiter inner span :: rest) = holes inner + holes rest := by
  rw [holes, Piece.holes]

@[simp] theorem fill_append (front : Template) :
    fill module (front ++ rest) = fill module front ++ fill module rest := by
  induction front with
  | nil => simp
  | cons piece front ih => simp [fill, ih]

@[simp] theorem holes_append (front : Template) :
    holes (front ++ rest) = holes front + holes rest := by
  induction front with
  | nil => simp
  | cons piece front ih => simp [holes, ih, Nat.add_assoc]

@[simp] theorem fill_solid (tokens : Tokens) : (solid tokens).fill module = tokens := by
  induction tokens with
  | nil => exact fill_nil module
  | cons token tokens ih => exact (fill_token module _ token).trans (congrArg _ ih)

@[simp] theorem holes_solid (tokens : Tokens) : (solid tokens).holes = 0 := by
  induction tokens with
  | nil => exact holes_nil
  | cons token tokens ih => exact (holes_token _ token).trans ih

end Template

namespace Color

open Template

/-- The space of a color: the expression as it was written, or the default of the runtime. -/
def spaceTemplate : Option Expr → Template
  | some space => solid space.tokens
  | none => [.module] ++
      solid (Tokens.symbol "::" ++ [.word "ColorSpace"] ++ Tokens.symbol "::" ++ [.word "Srgb"])

/-- The call of the constructor. -/
def template (space : Option Expr) (red green blue : Nat) (place : Span) : Template :=
  [.module] ++
    solid (Tokens.symbol "::" ++ [.word "Color"] ++ Tokens.symbol "::" ++ [.word "new"]) ++
    [.group .parenthesis
      (spaceTemplate space ++
        solid (Tokens.symbol "," ++ (channelOf red place).tokens ++
          Tokens.symbol "," ++ (channelOf green place).tokens ++
          Tokens.symbol "," ++ (channelOf blue place).tokens))
      .callSite]

theorem fill_spaceTemplate (module : Path) (space : Option Expr) :
    (spaceTemplate space).fill module.tokens =
      (space.getD (.path (module.extend ["ColorSpace", "Srgb"]))).tokens := by
  cases space with
  | some space => simp [spaceTemplate]
  | none =>
      have printed : (Expr.path (module.extend ["ColorSpace", "Srgb"])).tokens =
          (module.extend ["ColorSpace", "Srgb"]).tokens := by
        rw [Expr.tokens, Expr.print]
      simp [spaceTemplate, printed, PathSegment.step, PathSegment.tokens, Ident.made, Ident.token,
        Token.word]

theorem fill_template (module : Path) (space : Option Expr) (red green blue : Nat) (place : Span) :
    (template space red green blue place).fill module.tokens =
      (callOf module space red green blue place).tokens := by
  rw [tokens_callOf]
  simp [template, fill_spaceTemplate, Token.enclosed]

/-- The space, the channels and the place of the literal, found without a look at the runtime. -/
def appraise (site : Span) (invocation : Invocation) :
    Except Diagnostic (Option Expr × Rgb × Span) :=
  match chooseArguments invocation.arguments with
  | none => .error ⟨.requiresArgument, site⟩
  | some (space, expr) =>
    match expr.integerLiteral? with
    | none => .error ⟨.requiresIntegerLiteral, expr.span⟩
    | some (text, place) =>
      match Rgb.ofLiteral? text with
      | none => .error ⟨.malformedHexadecimal text, place⟩
      | some rgb => .ok (space, rgb, place)

/-- The path of the runtime comes in only when the literal is known to be a color. -/
theorem verdict_eq (module : Path) (site : Span) (invocation : Invocation) :
    verdict module site invocation =
      (appraise site invocation).map fun found =>
        (found.2.1, construct module found.1 found.2.1 found.2.2) := by
  rw [verdict, appraise]
  cases chooseArguments invocation.arguments with
  | none => rfl
  | some chosen =>
      dsimp only
      cases chosen.2.integerLiteral? with
      | none => rfl
      | some found =>
          dsimp only
          cases Rgb.ofLiteral? found.1 <;> rfl

theorem appraise_eq_ok {site place : Span} {invocation : Invocation} {space : Option Expr}
    {rgb : Rgb} (success : appraise site invocation = .ok (space, rgb, place)) :
    ∃ literal text red green blue,
      Chosen (invocation.arguments.map (·.expr)) space literal ∧ literal.IsInteger text place ∧
        Rgb.Writes text red green blue ∧ rgb = Rgb.ofBytes red green blue := by
  unfold appraise at success
  split at success
  · cases success
  · rename_i chosen
    split at success
    · cases success
    · rename_i integer
      split at success
      · cases success
      · rename_i read
        cases success
        obtain ⟨red, green, blue, writes, rfl⟩ := Rgb.ofLiteral?_eq_some_iff.mp read
        exact ⟨_, _, red, green, blue, chosen_of_chooseArguments chosen,
          Expr.integerLiteral?_eq_some_iff.mp integer, writes, rfl⟩

end Color

namespace Unwrap

open Template

/-- The guard of a value. The runtime is called in the block for a value that is missing. -/
def guardTemplate (location : Location) (value : Expr) (name : Ident) : Template :=
  solid ([.ident "let" value.span] ++ Runtime.some.tokens ++ [.enclosed .parenthesis [name.token]] ++
      Tokens.symbol "=" ++ [name.token, .word "else"]) ++
    [.group .brace
      (solid (Tokens.symbol "#" ++ [.enclosed .bracket
          [.word "cfg", .enclosed .parenthesis [.word "debug_assertions"]]]) ++
        [.module] ++
        solid (Tokens.symbol "::" ++ [.word "report_failed_unwrapping"] ++
          [.enclosed .parenthesis ([.string (missingMessage name)] ++ Tokens.symbol "," ++
            location.fileTokens ++ Tokens.symbol "," ++ location.lineTokens)] ++
          Tokens.symbol ";" ++ [.word "return"] ++ Tokens.symbol ";"))
      .callSite] ++
    solid (Tokens.symbol ";")

theorem fill_guardTemplate (module : Path) (location : Location) (value : Expr) (name : Ident) :
    (guardTemplate location value name).fill module.tokens =
      (guard module location value name).tokens := by
  simp [guardTemplate, guard, Stmt.tokens, Stmt.print, Binding.tokens, escape, Runtime.report,
    semicolon, Token.enclosed, PathSegment.step, PathSegment.tokens, Ident.made, Ident.token,
    Token.word]

theorem holes_guardTemplate (location : Location) (value : Expr) (name : Ident) :
    (guardTemplate location value name).holes = 1 := by
  simp [guardTemplate]

/-- The guards of values. -/
def guardTemplates (location : Location) (values : List Expr) (names : List Ident) : Template :=
  (List.zipWith (guardTemplate location) values names).flatten

theorem fill_guardTemplates (module : Path) (location : Location) {values : List Expr}
    {names : List Ident} (all : List.Forall₂ Names values names) :
    (guardTemplates location values names).fill module.tokens =
      (List.zipWith (guard module location) values names).flatMap Stmt.tokens := by
  induction all with
  | nil => exact fill_nil _
  | cons named all ih =>
      rw [guardTemplates, List.zipWith_cons_cons, List.flatten_cons, fill_append,
        fill_guardTemplate, List.zipWith_cons_cons, List.flatMap_cons, ← ih]
      rfl

theorem holes_guardTemplates (location : Location) {values : List Expr} {names : List Ident}
    (all : List.Forall₂ Names values names) :
    (guardTemplates location values names).holes = values.length := by
  induction all with
  | nil => exact holes_nil
  | cons named all ih =>
      rw [guardTemplates, List.zipWith_cons_cons, List.flatten_cons, holes_append,
        holes_guardTemplate, List.length_cons, Nat.add_comm, ← ih]
      rfl

/-- The names of the values and the body, found without a look at the runtime. -/
def found (site : Span) (invocation : Invocation) : Except Failure (List Ident × Body) := do
  let body ← body site invocation
  return (← (values invocation.arguments).mapM bindingName, body)

/-- The path of the runtime comes in only when names and body are known. -/
theorem parts_eq (module : Path) (site : Span) (location : Location) (invocation : Invocation) :
    parts module site location invocation =
      (found site invocation).map fun pair =>
        (List.zipWith (guard module location) (values invocation.arguments) pair.1, pair.2) := by
  rw [parts, found, guards_eq_map]
  cases body site invocation with
  | error failure => rfl
  | ok body => cases (values invocation.arguments).mapM bindingName <;> rfl

theorem found_eq_ok {site : Span} {invocation : Invocation} {names : List Ident} {body : Body}
    (success : found site invocation = .ok (names, body)) :
    List.Forall₂ Names (values invocation.arguments) names ∧ HasBody invocation body := by
  obtain ⟨own, is, further⟩ := Except.bind_eq_ok_iff.mp success
  obtain ⟨others, named, done⟩ := Except.bind_eq_ok_iff.mp further
  cases done
  exact ⟨mapM_bindingName_eq_ok_iff.mp named, (body_eq_ok_iff.mp is).2⟩

end Unwrap

namespace Builtin

open Template

/-- The template of a call that is accepted, and the number of its holes. -/
inductive Lays (strategy : Strategy) (invocation : Invocation) (location : Location)
    (number : Nat) : Builtin → Template → Nat → Prop where
  /-- A color with a space: only the constructor belongs to the runtime. -/
  | spaced {space literal : Expr} {text : String} {place : Span} {red green blue : Nat}
      (chosen : Color.Chosen (invocation.arguments.map (·.expr)) (some space) literal)
      (integer : literal.IsInteger text place) (writes : Rgb.Writes text red green blue) :
      Lays strategy invocation location number .color
        (Color.template (some space) red green blue place) 1
  /-- A color without one: so does the default space. -/
  | color {literal : Expr} {text : String} {place : Span} {red green blue : Nat}
      (chosen : Color.Chosen (invocation.arguments.map (·.expr)) none literal)
      (integer : literal.IsInteger text place) (writes : Rgb.Writes text red green blue) :
      Lays strategy invocation location number .color
        (Color.template none red green blue place) 2
  /-- A hole in every guard, and none in the body. -/
  | unwrap {names : List Ident} {body : Unwrap.Body} {emitted : List Stmt}
      (all : List.Forall₂ Unwrap.Names (Unwrap.values invocation.arguments) names)
      (has : Unwrap.HasBody invocation body) (emits : body.emit strategy = .ok emitted) :
      Lays strategy invocation location number .unwrap
        (Unwrap.guardTemplates location (Unwrap.values invocation.arguments) names ++
          solid (emitted.flatMap Stmt.tokens))
        (Unwrap.values invocation.arguments).length
  | uniqueName :
      Lays strategy invocation location number .uniqueName
        (solid (UniqueName.placeholder (Context.uniqueName UniqueName.hint number)).tokens) 0

/-- The messages of everything that is wrong with a call. -/
def faults (diagnostics : List Diagnostic) (result : Except Failure Expansion) : List String :=
  diagnostics.map Diagnostic.message ++
    match result with
    | .ok _ => []
    | .error failure => [failure.message]

/-- A call is accepted in a context if nothing is wrong with it. -/
def Accepted (kind : Builtin) (options : Options) (tokens : Tokens) (context : Context) : Prop :=
  (∃ expansion, ((kind.expandTokens options tokens).runIn context).1 = .ok expansion) ∧
    ((kind.expandTokens options tokens).runIn context).2.pending = []

theorem accepted_iff {kind : Builtin} {options : Options} {tokens : Tokens} {context : Context} :
    kind.Accepted options tokens context ↔
      faults ((kind.expandTokens options tokens).runIn context).2.pending
        ((kind.expandTokens options tokens).runIn context).1 = [] := by
  unfold Accepted
  cases ((kind.expandTokens options tokens).runIn context).1 with
  | error failure => simp [faults]
  | ok expansion => simp [faults]

/-- If something is wrong, only compile errors are printed. -/
theorem Printed.eq_errors {role : Role} {diagnostics : List Diagnostic}
    {result : Except Failure Expansion} {output : Tokens}
    (printed : Printed role diagnostics result output) (wrong : faults diagnostics result ≠ []) :
    output = (faults diagnostics result).flatMap role.errorCode := by
  cases printed with
  | expansion expansion none => simp [faults, none] at wrong
  | suppressed expansion some => simp [faults, List.flatMap_map]
  | failure failure => simp [faults, List.flatMap_map]

section Outcome

variable (strategy : Strategy) (invocation : Invocation) (site : Span) (location : Location)
  (number : Nat)

/-- What an invocation comes to with every path of the runtime: always an expansion, and always from
the same template, or always the same failure or report. -/
inductive Settled (kind : Builtin) : Prop where
  | accepted {template : Template}
      (lays : Lays strategy invocation location number kind template template.holes)
      (fills : ∀ module, ∃ expansion,
        (kind.outcome ⟨strategy, module⟩ invocation site location number).1 = .ok expansion ∧
        (kind.outcome ⟨strategy, module⟩ invocation site location number).2.reports = [] ∧
        expansion.tokens = template.fill module.tokens)
  | reported (diagnostic : Diagnostic)
      (same : ∀ module,
        (kind.outcome ⟨strategy, module⟩ invocation site location number).1 = .ok .empty ∧
        (kind.outcome ⟨strategy, module⟩ invocation site location number).2.reports = [diagnostic])
  | failed (failure : Failure)
      (same : ∀ module,
        (kind.outcome ⟨strategy, module⟩ invocation site location number).1 = .error failure ∧
        (kind.outcome ⟨strategy, module⟩ invocation site location number).2.reports = [])

theorem settled_color : Settled strategy invocation site location number color := by
  cases found : Color.appraise site invocation with
  | error diagnostic =>
      refine .reported diagnostic fun module => ?_
      rw [outcome, Color.outcome, Color.verdict_eq, found]
      exact ⟨rfl, rfl⟩
  | ok triple =>
      obtain ⟨space, rgb, place⟩ := triple
      obtain ⟨literal, text, red, green, blue, chosen, integer, writes, rfl⟩ :=
        Color.appraise_eq_ok found
      have lays : Lays strategy invocation location number color
          (Color.template space red green blue place)
          (Color.template space red green blue place).holes := by
        cases space with
        | none =>
            have two : (Color.template none red green blue place).holes = 2 := by
              simp [Color.template, Color.spaceTemplate]
            rw [two]
            exact .color chosen integer writes
        | some space =>
            have one : (Color.template (some space) red green blue place).holes = 1 := by
              simp [Color.template, Color.spaceTemplate]
            rw [one]
            exact .spaced chosen integer writes
      refine .accepted lays fun module => ?_
      rw [outcome, Color.outcome, Color.verdict_eq, found]
      exact ⟨_, rfl, rfl, (Color.fill_template module space red green blue place).symm⟩

theorem settled_unwrap : Settled strategy invocation site location number unwrap := by
  cases found : Unwrap.found site invocation with
  | error failure =>
      refine .failed failure fun module => ?_
      rw [outcome, Unwrap.outcome, Unwrap.parts_eq, found]
      exact ⟨rfl, rfl⟩
  | ok pair =>
      obtain ⟨names, body⟩ := pair
      obtain ⟨all, has⟩ := Unwrap.found_eq_ok found
      cases emits : body.emit strategy with
      | error failure =>
          refine .failed failure fun module => ?_
          rw [outcome, Unwrap.outcome, Unwrap.parts_eq, found]
          dsimp only [Except.map]
          rw [emits]
          exact ⟨rfl, rfl⟩
      | ok emitted =>
          have count : (Unwrap.guardTemplates location (Unwrap.values invocation.arguments) names ++
              solid (emitted.flatMap Stmt.tokens)).holes =
                (Unwrap.values invocation.arguments).length := by
            simp [Unwrap.holes_guardTemplates location all]
          have lays : Lays strategy invocation location number unwrap _ _ :=
            .unwrap all has emits
          rw [← count] at lays
          refine .accepted lays fun module => ?_
          rw [outcome, Unwrap.outcome, Unwrap.parts_eq, found]
          dsimp only [Except.map]
          rw [emits]
          refine ⟨_, rfl, rfl, ?_⟩
          rw [fill_append, fill_solid, Unwrap.fill_guardTemplates module location all]
          exact List.flatMap_append

theorem settled_uniqueName : Settled strategy invocation site location number uniqueName := by
  cases excess : UniqueName.excess? invocation with
  | some span =>
      refine .failed (.misuse .unexpectedArgument span) fun module => ?_
      rw [outcome, UniqueName.outcome, excess]
      exact ⟨rfl, rfl⟩
  | none =>
      have lays : Lays strategy invocation location number uniqueName _ _ := .uniqueName
      rw [← holes_solid] at lays
      refine .accepted lays fun module => ?_
      rw [outcome, UniqueName.outcome, excess]
      refine ⟨_, rfl, rfl, ?_⟩
      rw [fill_solid]
      exact List.append_nil _

theorem settled (kind : Builtin) : Settled strategy invocation site location number kind := by
  cases kind with
  | color => exact settled_color strategy invocation site location number
  | unwrap => exact settled_unwrap strategy invocation site location number
  | uniqueName => exact settled_uniqueName strategy invocation site location number

end Outcome

/-- The template of what is printed for a call. The path of the runtime has no part in whether the
call is accepted; if it is not, there are only errors. -/
inductive Prints (kind : Builtin) (strategy : Strategy) (tokens : Tokens) (context : Context) :
    Template → Prop where
  | accepted {template : Template} {invocation : Invocation}
      (every : ∀ module : Path, kind.Accepted ⟨strategy, module⟩ tokens context)
      (read : Invocation.ofTokens tokens = .ok invocation)
      (lays : Lays strategy invocation context.location context.names kind template
        template.holes) :
      Prints kind strategy tokens context template
  | refused {messages : List String}
      (none : ∀ module : Path, ¬ kind.Accepted ⟨strategy, module⟩ tokens context)
      (wrong : messages ≠ []) :
      Prints kind strategy tokens context (solid (messages.flatMap kind.role.errorCode))

section Render

variable {kind : Builtin} {strategy : Strategy} {tokens : Tokens} {context : Context}

/-- If the same is wrong with every path of the runtime, the same errors are printed. -/
theorem exists_template_of_faults (messages : List String) (wrong : messages ≠ [])
    (same : ∀ module : Path,
      faults ((kind.expandTokens ⟨strategy, module⟩ tokens).runIn context).2.pending
        ((kind.expandTokens ⟨strategy, module⟩ tokens).runIn context).1 = messages) :
    ∃ template,
      (∀ module : Path,
        (kind.render ⟨strategy, module⟩ tokens context).1 = template.fill module.tokens) ∧
      Prints kind strategy tokens context template := by
  refine ⟨_, fun module => ?_, .refused (fun module accepted => ?_) wrong⟩
  · have printed := printed_render kind ⟨strategy, module⟩ tokens context
    rw [fill_solid, printed.eq_errors (by rw [same module]; exact wrong), same module]
  · exact wrong ((same module).symm.trans (accepted_iff.mp accepted))

/-- If every path of the runtime fills the same template and nothing is pending, that is printed. -/
theorem exists_template_of_fills {invocation : Invocation} {template : Template}
    (read : Invocation.ofTokens tokens = .ok invocation)
    (lays : Lays strategy invocation context.location context.names kind template template.holes)
    (fills : ∀ module, ∃ expansion,
      ((kind.expandTokens ⟨strategy, module⟩ tokens).runIn context).1 = .ok expansion ∧
      ((kind.expandTokens ⟨strategy, module⟩ tokens).runIn context).2.pending = [] ∧
      expansion.tokens = template.fill module.tokens) :
    ∃ template,
      (∀ module : Path,
        (kind.render ⟨strategy, module⟩ tokens context).1 = template.fill module.tokens) ∧
      Prints kind strategy tokens context template := by
  refine ⟨template, fun module => ?_, .accepted (fun module => ?_) read lays⟩
  · obtain ⟨expansion, result, pending, filled⟩ := fills module
    have printed := printed_render kind ⟨strategy, module⟩ tokens context
    rw [result, pending] at printed
    exact (printed.unique (.expansion expansion rfl)).trans filled
  · obtain ⟨expansion, result, pending, -⟩ := fills module
    exact ⟨⟨expansion, result⟩, pending⟩

end Render

/-- What is printed for a call is a template with the path of the runtime in its holes. The template
does not depend on the path, and neither does it whether the call is accepted. -/
theorem runtime_only_through_path (kind : Builtin) (strategy : Strategy) (tokens : Tokens)
    (context : Context) :
    Options.module {} = .absolute ["freestanding"] ∧
    ∃ template : Template,
      (∀ module : Path,
        (kind.render ⟨strategy, module⟩ tokens context).1 = template.fill module.tokens) ∧
      Prints kind strategy tokens context template := by
  refine ⟨rfl, ?_⟩
  cases read : Invocation.ofTokens tokens with
  | error error =>
      refine exists_template_of_faults (faults context.pending (.error (.unreadable error))) ?_ ?_
      · simp [faults]
      · intro module
        rw [expandTokens, read]
        rfl
  | ok invocation =>
      have ran (module : Path) := runIn_expandTokens_of_read read kind ⟨strategy, module⟩ context
      obtain ⟨lays, fills⟩ | ⟨diagnostic, same⟩ | ⟨failure, same⟩ :=
        settled strategy invocation context.site context.location context.names kind
      · by_cases quiet : context.pending = []
        · refine exists_template_of_fills read lays fun module => ?_
          obtain ⟨expansion, result, reports, filled⟩ := fills module
          rw [ran, Context.pending_apply, quiet, reports]
          exact ⟨expansion, result, rfl, filled⟩
        · -- The expansion is suppressed by what was pending before.
          refine exists_template_of_faults (faults context.pending (.ok .empty)) ?_ ?_
          · simpa [faults] using quiet
          · intro module
            obtain ⟨expansion, result, reports, -⟩ := fills module
            rw [ran, Context.pending_apply, reports, result, List.append_nil]
            rfl
      · refine exists_template_of_faults (faults (context.pending ++ [diagnostic]) (.ok .empty)) ?_ ?_
        · simp [faults]
        · intro module
          obtain ⟨result, reports⟩ := same module
          rw [ran, Context.pending_apply, reports, result]
      · refine exists_template_of_faults (faults context.pending (.error failure)) ?_ ?_
        · simp [faults]
        · intro module
          obtain ⟨result, reports⟩ := same module
          rw [ran, Context.pending_apply, reports, result, List.append_nil]

end Builtin

end MacroExpansion
