import MacroExpansion.Entry
import MacroExpansion.Proofs.Invocation.Grammar
import MacroExpansion.Token.Printer
import Mathlib.Logic.Function.Basic

/-!
# Where macro calls find the runtime

A macro call is rendered in a fresh context under the name that its package gives the runtime. The
name is looked up before the arguments are looked at, so a name that cannot lead a path makes every
call of the package fail in the same way.

The look-up goes through a table from packages to how they are seen. The table is filled entry by
entry, and a later entry replaces an earlier one, so the last mention of the runtime decides and the
entries for other packages do not matter. What can matter is the order of the mentions: targets are
gone through in the order in which the manifest first names them, so an entry for another package
may bring a target forward.
-/

namespace MacroExpansion

/-! ### Names that lead a path -/

namespace Grammar

open TokenReader

theorem seesWord_word (word name : String) :
    Tokens.seesWord word [.word name] = true ↔ name = word := by
  simp [Tokens.seesWord, Tokens.word?, Token.word]

theorem seesWords_word (words : List String) (name : String) :
    Tokens.seesWords words [.word name] = true ↔ name ∈ words := by
  simp only [Tokens.seesWords, List.any_eq_true, seesWord_word, exists_eq_right']

/-- A word alone is a step of a path if it may be one. -/
theorem pathSegment_word (g : Grammar) (separator : Tokens) (name : String) :
    pathSegment g true separator (.ofTokens [.word name]) =
      if name ∈ placeWords ∨ name = "Self" ∨ Identifier.isName name = true then
        .ok (⟨separator, .made name, []⟩, .ofTokens [])
      else .error ⟨.reserved name, .callSite⟩ := by
  have seen : (Input.ofTokens [.word name]).rest = [.word name] := rfl
  unfold pathSegment
  rw [bind_of_ok (rfl : ahead (.ofTokens [.word name]) = .ok (_, _)), seen]
  by_cases place : name ∈ placeWords
  · rw [if_pos ((seesWords_word _ _).mpr place), if_pos (.inl place)]
    rfl
  · rw [if_neg (mt (seesWords_word _ _).mp place)]
    dsimp only
    by_cases self : name = "Self"
    · rw [if_pos ((seesWord_word _ _).mpr self), if_pos (.inr (.inl self))]
      rfl
    · rw [if_neg (mt (seesWord_word _ _).mp self)]
      by_cases free : Identifier.isName name = true
      · have taken : ident (.ofTokens [.word name]) = .ok (.made name, .ofTokens []) := by
          simp [ident, Input.ofTokens, Token.word, free, Ident.made]
        rw [bind_of_ok taken, if_pos (.inr (.inr free))]
        rfl
      · have refused : ident (.ofTokens [.word name]) = .error ⟨.reserved name, .callSite⟩ := by
          simp [ident, Input.ofTokens, Token.word, free, Input.place, Token.front, Token.span]
        rw [bind_of_error refused, if_neg (by simp [place, self, free])]

end Grammar

open Grammar TokenReader in
theorem Path.ofTokens_step (name : String) :
    Path.ofTokens (Tokens.symbol "::" ++ [.word name]) =
      if name ∈ placeWords ∨ name = "Self" ∨ Identifier.isName name = true then
        .ok (.absolute [name])
      else .error ⟨.reserved name, .callSite⟩ := by
  have separator : operator? "::" (.ofTokens (Tokens.symbol "::" ++ [.word name])) =
      .ok (Tokens.symbol "::", .ofTokens [.word name]) := rfl
  have step := pathSegment_word (ofInput (Tokens.symbol "::" ++ [.word name]))
    (Tokens.symbol "::") name
  rw [ofTokens, run, simplePath, bind_of_ok separator]
  split at step
  · rename_i taken
    rw [bind_of_ok step, if_pos taken]
    rfl
  · rename_i refused
    rw [bind_of_error step, if_neg refused]

namespace Entry

/-- The name can be the first step of a path: it is an identifier, and either the language does not
reserve it or it is one of the words that are steps nevertheless. -/
def LeadsPath (name : String) : Prop :=
  Identifier.isIdentifier name.toList = true ∧
    (name ∈ ["super", "self", "crate", "try", "Self"] ∨ Identifier.isName name = true)

theorem leadsPath_iff {name : String} :
    LeadsPath name ↔ NameFault.ofText? name = none ∧
      (name ∈ Grammar.placeWords ∨ name = "Self" ∨ Identifier.isName name = true) := by
  rw [LeadsPath, NameFault.ofText?_eq_none_iff]
  refine and_congr_right fun _ => ?_
  simp only [Grammar.placeWords, List.mem_cons, List.not_mem_nil, or_false, or_assoc]

theorem pathTo_of_leadsPath {name : String} (leads : LeadsPath name) :
    pathTo name = .ok (.absolute [name]) := by
  obtain ⟨identifier, step⟩ := leadsPath_iff.mp leads
  rw [pathTo, identifier]
  dsimp only
  rw [Path.ofTokens_step, if_pos step]
  rfl

theorem pathTo_of_not_leadsPath {name : String} (misleads : ¬ LeadsPath name) :
    ∃ fault, pathTo name = .error fault := by
  rw [pathTo]
  cases found : NameFault.ofText? name with
  | some fault => exact ⟨_, rfl⟩
  | none =>
      have reserved := fun step => misleads (leadsPath_iff.mpr ⟨found, step⟩)
      dsimp only
      rw [Path.ofTokens_step, if_neg reserved]
      exact ⟨_, rfl⟩

end Entry

/-! ### The last mention decides -/

namespace Manifest

/-- The entries for a package. -/
def mentions (name : String) (entries : List Dependency) : List Dependency :=
  entries.filter fun entry => entry.package == name

theorem mentions_cons (name : String) (entry : Dependency) (rest : List Dependency) :
    mentions name (entry :: rest) =
      if entry.package = name then entry :: mentions name rest else mentions name rest := by
  simp [mentions, List.filter_cons]

theorem mentions_append (name : String) (first second : List Dependency) :
    mentions name (first ++ second) = mentions name first ++ mentions name second :=
  List.filter_append first second

/-- Enter a dependency of the package into a table of how packages are seen. -/
def enter (package : Option String) (table : String → Option Seen) (entry : Dependency) :
    String → Option Seen :=
  if package = some entry.package then table
  else Function.update table entry.package (some (.named (codeName entry.key)))

/-- The table before any dependency is entered: the package itself. -/
def start (package : Option String) (integrationTest : Bool) (name : String) : Option Seen :=
  if package = some name then some (self integrationTest name) else none

/-- How code of the package sees other packages, entered one by one. -/
def table (manifest : Manifest) (integrationTest : Bool) : String → Option Seen :=
  manifest.dependencies.foldl (enter manifest.package) (start manifest.package integrationTest)

/-- An entry replaces what the table says about its package, unless that is the package itself. -/
theorem enter_apply (package : Option String) (table : String → Option Seen) (entry : Dependency)
    (name : String) :
    enter package table entry name =
      if entry.package = name ∧ package ≠ some name then some (.named (codeName entry.key))
      else table name := by
  unfold enter
  by_cases same : entry.package = name
  · subst same
    by_cases own : package = some entry.package
    · rw [if_pos own, if_neg fun both => both.2 own]
    · rw [if_neg own, if_pos ⟨rfl, own⟩, Function.update_self]
  · have kept : ¬ (entry.package = name ∧ package ≠ some name) := fun both => same both.1
    rw [if_neg kept]
    split
    · rfl
    · exact Function.update_of_ne (Ne.symm same) _ _

/-- Entries in a row leave what the last of them says, or else what the table said before. -/
theorem foldl_enter_apply {package : Option String} {name : String} (other : package ≠ some name)
    (entries : List Dependency) (table : String → Option Seen) :
    entries.foldl (enter package) table name =
      ((mentions name entries).getLast?.map fun entry => Seen.named (codeName entry.key)).or
        (table name) := by
  -- The first entry only changes the table that the others start from.
  induction entries generalizing table with
  | nil => rfl
  | cons entry rest ih =>
      rw [List.foldl_cons, ih, enter_apply, mentions_cons]
      by_cases same : entry.package = name
      · rw [if_pos ⟨same, other⟩, if_pos same, List.getLast?_cons]
        cases (mentions name rest).getLast? <;> rfl
      · rw [if_neg fun both => same both.1, if_neg same]

theorem foldl_enter_self {package : Option String} {name : String} (own : package = some name)
    (entries : List Dependency) (table : String → Option Seen) :
    entries.foldl (enter package) table name = table name := by
  induction entries generalizing table with
  | nil => rfl
  | cons entry rest ih => rw [List.foldl_cons, ih, enter_apply, if_neg fun both => both.2 own]

theorem see?_eq_last {manifest : Manifest} {name : String} (other : manifest.package ≠ some name)
    (integrationTest : Bool) :
    manifest.see? integrationTest name =
      (mentions name manifest.dependencies).getLast?.map fun entry =>
        .named (codeName entry.key) := by
  rw [see?, if_neg other, ← List.head?_filter, List.filter_reverse, List.head?_reverse, mentions]

/-- How a package is seen is what the table says. -/
theorem see?_eq_table (manifest : Manifest) (integrationTest : Bool) (name : String) :
    manifest.see? integrationTest name = manifest.table integrationTest name := by
  rw [table]
  by_cases own : manifest.package = some name
  · rw [foldl_enter_self own, see?, if_pos own, start, if_pos own]
  · rw [foldl_enter_apply own, see?_eq_last own, start, if_neg own, Option.or_none]

/-- Manifests that mention a package in the same way show it in the same way. -/
theorem see?_congr {first second : Manifest} {name : String}
    (itself : first.package = some name ↔ second.package = some name)
    (same : mentions name first.dependencies = mentions name second.dependencies)
    (integrationTest : Bool) :
    first.see? integrationTest name = second.see? integrationTest name := by
  by_cases own : first.package = some name
  · rw [see?, see?, if_pos own, if_pos (itself.mp own)]
  · rw [see?_eq_last own, see?_eq_last (mt itself.mpr own), same]

/-! ### Mentions, table by table -/

/-- The dependencies in one table of a manifest. -/
def listed (entries : Toml.Entries) (key : String) : List Dependency :=
  ((section? entries key).getD []).map dependency

/-- The targets that mention a package, in the order in which they are looked at, each with its
mentions. -/
def targetMentions (name : String) (entries : Toml.Entries) : List (String × List Dependency) :=
  (((section? entries "target").getD []).map fun target =>
    (target.1, mentions name ((target.2.table?.map dependenciesOf).getD []))).filter fun target =>
      !target.2.isEmpty

/-- Two documents mention a package in the same way: each of their tables of dependencies does, and
the targets that mention it are the same and in the same order. Other entries may be there or not,
in any order. -/
structure SameMentions (name : String) (first second : Toml.Value) : Prop where
  itself : (ofValue first).package = some name ↔ (ofValue second).package = some name
  tables : ∀ key ∈ ["dependencies", "dev-dependencies"],
    mentions name (listed (first.table?.getD []) key) =
      mentions name (listed (second.table?.getD []) key)
  targets : targetMentions name (first.table?.getD []) =
    targetMentions name (second.table?.getD [])

theorem mentions_dependenciesOf (name : String) (entries : Toml.Entries) :
    mentions name (dependenciesOf entries) =
      ["dependencies", "dev-dependencies"].flatMap fun key => mentions name (listed entries key) :=
  List.filter_flatMap

theorem mentions_targetDependencies (name : String) (entries : Toml.Entries) :
    mentions name (targetDependencies entries) = (targetMentions name entries).flatMap (·.2) := by
  unfold targetDependencies targetMentions
  induction (section? entries "target").getD [] with
  | nil => rfl
  | cons target rest ih =>
      rw [List.flatMap_cons, mentions_append, ih, List.map_cons, List.filter_cons]
      split
      · rfl
      · rename_i empty
        simpa using empty

theorem mentions_ofValue {name : String} {first second : Toml.Value}
    (same : SameMentions name first second) :
    mentions name (ofValue first).dependencies = mentions name (ofValue second).dependencies := by
  have code := same.tables "dependencies" (by simp)
  have tests := same.tables "dev-dependencies" (by simp)
  simp only [ofValue, mentions_append, mentions_dependenciesOf, mentions_targetDependencies,
    same.targets, List.flatMap_cons, List.flatMap_nil, code, tests]

end Manifest

/-! ### Calls under the name of the runtime -/

namespace Entry

/-- Code in the environment reaches the runtime by this path: under the name by which it sees the
runtime, or, where it sees none or is the runtime itself, under the usual one. -/
inductive Resolves (environment : Environment) : Path → Prop where
  | named {name : String} (seen : runtime? environment = some (.named name))
      (leads : LeadsPath name) : Resolves environment (.absolute [name])
  | usual (unnamed : ∀ name, runtime? environment ≠ some (.named name)) :
      Resolves environment (.absolute ["freestanding"])

/-- Code in the environment sees the runtime by a name that cannot lead a path. -/
def Misnamed (environment : Environment) : Prop :=
  ∃ name, runtime? environment = some (.named name) ∧ ¬ LeadsPath name

theorem resolves_or_misnamed (environment : Environment) :
    (∃ module, Resolves environment module) ∨ Misnamed environment := by
  by_cases named : ∃ name, runtime? environment = some (.named name)
  · obtain ⟨name, seen⟩ := named
    by_cases leads : LeadsPath name
    · exact .inl ⟨_, .named seen leads⟩
    · exact .inr ⟨name, seen, leads⟩
  · exact .inl ⟨_, .usual (not_exists.mp named)⟩

theorem options_of_resolves {environment : Environment} {module : Path}
    (resolves : Resolves environment module) (strategy : Strategy) :
    options environment strategy = .ok ⟨strategy, module⟩ := by
  unfold options
  cases resolves with
  | named seen leads =>
      rw [seen]
      dsimp only
      rw [pathTo_of_leadsPath leads]
      rfl
  | usual unnamed =>
      split
      · rename_i name seen
        exact absurd seen (unnamed name)
      · rfl

theorem options_of_misnamed {environment : Environment} (misnamed : Misnamed environment) :
    ∃ fault, ∀ strategy, options environment strategy = .error fault := by
  obtain ⟨name, seen, misleads⟩ := misnamed
  obtain ⟨fault, failed⟩ := pathTo_of_not_leadsPath misleads
  refine ⟨fault, fun strategy => ?_⟩
  rw [options, seen]
  dsimp only
  rw [failed]
  rfl

theorem render_of_resolves {environment : Environment} {module : Path}
    (resolves : Resolves environment module) (kind : Builtin) (strategy : Strategy)
    (tokens : Tokens) :
    render kind environment strategy tokens = .ok (kind.render ⟨strategy, module⟩ tokens {}) := by
  rw [render, options_of_resolves resolves]
  rfl

theorem render_of_misnamed {environment : Environment} (misnamed : Misnamed environment) :
    ∃ fault, ∀ kind strategy tokens, render kind environment strategy tokens = .error fault := by
  obtain ⟨fault, failed⟩ := options_of_misnamed misnamed
  refine ⟨fault, fun kind strategy tokens => ?_⟩
  rw [render, failed]
  rfl

theorem fails_iff_misnamed {environment : Environment} (kind : Builtin) (strategy : Strategy)
    (tokens : Tokens) :
    (∃ fault, render kind environment strategy tokens = .error fault) ↔ Misnamed environment := by
  constructor
  · rintro ⟨fault, failed⟩
    obtain ⟨module, resolves⟩ | misnamed := resolves_or_misnamed environment
    · rw [render_of_resolves resolves] at failed
      cases failed
    · exact misnamed
  · intro misnamed
    obtain ⟨fault, alike⟩ := render_of_misnamed misnamed
    exact ⟨fault, alike kind strategy tokens⟩

theorem runtime?_of_read {environment : Environment} {text : String} {document : Toml.Value}
    (given : environment.manifest = some text) (read : Toml.ofText? text = some document) :
    runtime? environment =
      (Manifest.ofValue document).see? environment.integrationTest runtimePackage := by
  rw [runtime?, given, Option.bind_some, Manifest.ofText?, read]
  rfl

/-- A macro call of a package is the macro rendered in a fresh context, with the strategy of the
build and under the name that the package has for the runtime. It fails exactly if this name cannot
lead a path, and then all calls fail alike. The name is what the table says that the manifest fills;
unless the package is the runtime, the last mention of the runtime decides, and two documents that
mention the runtime in the same way, table by table, give the same outcome. -/
theorem render_under_resolved_name (kind : Builtin) (environment : Environment) (closures : Bool)
    (tokens : Tokens) :
    ((∃ module, Resolves environment module) ∨ Misnamed environment) ∧
    (∀ module, Resolves environment module →
      render kind environment (strategy closures) tokens =
        .ok (kind.render ⟨if closures then .closure else .inline, module⟩ tokens
          { place := none, pending := [], names := 0 })) ∧
    ((∃ fault, render kind environment (strategy closures) tokens = .error fault) ↔
      Misnamed environment) ∧
    (∀ fault, render kind environment (strategy closures) tokens = .error fault →
      ∀ other feature input, render other environment (strategy feature) input = .error fault) ∧
    ∀ text document, environment.manifest = some text → Toml.ofText? text = some document →
      runtime? environment =
        (Manifest.ofValue document).table environment.integrationTest runtimePackage ∧
      ((Manifest.ofValue document).package ≠ some runtimePackage →
        runtime? environment =
          (Manifest.mentions runtimePackage (Manifest.ofValue document).dependencies).getLast?.map
            fun entry => .named (Manifest.codeName entry.key)) ∧
      ∀ other edited, Toml.ofText? other = some edited →
        Manifest.SameMentions runtimePackage document edited →
        render kind { environment with manifest := some other } (strategy closures) tokens =
          render kind environment (strategy closures) tokens := by
  refine ⟨resolves_or_misnamed environment, ?_, ?_, ?_, ?_⟩
  · intro module resolves
    exact render_of_resolves resolves kind (strategy closures) tokens
  · exact fails_iff_misnamed kind (strategy closures) tokens
  · intro fault failed other feature input
    have misnamed := (fails_iff_misnamed kind (strategy closures) tokens).mp ⟨fault, failed⟩
    obtain ⟨always, alike⟩ := render_of_misnamed misnamed
    have same : fault = always := Except.error.inj (failed.symm.trans (alike _ _ _))
    rw [same]
    exact alike other (strategy feature) input
  · intro text document given read
    rw [runtime?_of_read given read]
    refine ⟨Manifest.see?_eq_table _ _ _, fun other => Manifest.see?_eq_last other _, ?_⟩
    intro other edited readOther same
    have seen : runtime? { environment with manifest := some other } = runtime? environment := by
      rw [runtime?_of_read rfl readOther, runtime?_of_read given read]
      exact (Manifest.see?_congr same.itself (Manifest.mentions_ofValue same) _).symm
    rw [render, render, options, options, seen]

/-- A manifest that renames the runtime. -/
def renamedRuntime : String := "[dependencies]\nfs-core = \x7b package = \"freestanding\" \x7d\n"

/-- The calls of a package that renames the runtime use its name for it. -/
theorem render_under_resolved_name_renamedRuntime :
    render .uniqueName ⟨some renamedRuntime, false⟩ (strategy true) [] =
      .ok (Builtin.uniqueName.render ⟨.closure, .absolute ["fs_core"]⟩ [] {}) := by
  have seen : runtime? ⟨some renamedRuntime, false⟩ = some (.named "fs_core") := by decide +kernel
  have leads : LeadsPath "fs_core" := ⟨by decide, .inr (by decide)⟩
  exact (render_under_resolved_name .uniqueName ⟨some renamedRuntime, false⟩ true []).2.1 _
    (.named seen leads)

/-- A manifest with two targets that have a name each for the runtime. -/
def twoTargets : String :=
  "target.a.dependencies.x = \x7b package = \"freestanding\" \x7d\n" ++
    "target.b.dependencies.y = \x7b package = \"freestanding\" \x7d\n"

/-- An entry for another package, for the second target. -/
def unrelatedEntry : String := "target.b.dependencies.foo = \"1\"\n"

/-- In front of the others, the unrelated entry makes the second target the first, so that the name
for the runtime changes. -/
theorem unrelated_entry_changes_name :
    Manifest.ofText? twoTargets =
      some ⟨none, [⟨"x", "freestanding"⟩, ⟨"y", "freestanding"⟩]⟩ ∧
    Manifest.ofText? (unrelatedEntry ++ twoTargets) =
      some ⟨none, [⟨"foo", "foo"⟩, ⟨"y", "freestanding"⟩, ⟨"x", "freestanding"⟩]⟩ ∧
    ∃ output changed,
      render .color ⟨some twoTargets, false⟩ .inline [.literal "0xFFEEAA" .callSite] = .ok output ∧
      render .color ⟨some (unrelatedEntry ++ twoTargets), false⟩ .inline
        [.literal "0xFFEEAA" .callSite] = .ok changed ∧
      Tokens.render output.1 =
        ":: y :: Color :: new (:: y :: ColorSpace :: Srgb , 1.0 , 0.93 , 0.67)" ∧
      Tokens.render changed.1 =
        ":: x :: Color :: new (:: x :: ColorSpace :: Srgb , 1.0 , 0.93 , 0.67)" := by
  have plain : Manifest.ofText? twoTargets =
      some ⟨none, [⟨"x", "freestanding"⟩, ⟨"y", "freestanding"⟩]⟩ := by decide +kernel
  have longer : Manifest.ofText? (unrelatedEntry ++ twoTargets) =
      some ⟨none, [⟨"foo", "foo"⟩, ⟨"y", "freestanding"⟩, ⟨"x", "freestanding"⟩]⟩ := by
    decide +kernel
  have seen : runtime? ⟨some twoTargets, false⟩ = some (.named "y") := by
    rw [runtime?, Option.bind_some, plain]
    decide
  have seenNow : runtime? ⟨some (unrelatedEntry ++ twoTargets), false⟩ = some (.named "x") := by
    rw [runtime?, Option.bind_some, longer]
    decide
  exact ⟨plain, longer, _, _,
    render_of_resolves (.named seen ⟨by decide, .inr (by decide)⟩) _ _ _,
    render_of_resolves (.named seenNow ⟨by decide, .inr (by decide)⟩) _ _ _,
    by decide +kernel, by decide +kernel⟩

end Entry

end MacroExpansion
