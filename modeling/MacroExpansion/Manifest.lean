import MacroExpansion.Toml.Reader

/-!
# Manifests

The manifest of a package names the package and what it depends on. A dependency may be renamed: its
key is the name that code uses, and its package is what it really is. From this follows the name
under which code of the package sees another package.
-/

namespace MacroExpansion

/-- How code of a package sees a package. -/
inductive Seen where
  /-- It is the package that the code belongs to. -/
  | itself
  /-- Under this name. -/
  | named (name : String)
deriving DecidableEq, Repr

/-- A dependency: the name it is given, and what package it is. -/
structure Dependency where
  key : String
  package : String
deriving DecidableEq, Repr

/-- What a manifest says about packages. -/
structure Manifest where
  /-- The name of the package, if it has one. -/
  package : Option String
  /-- The dependencies in the order in which they are looked at. -/
  dependencies : List Dependency
deriving DecidableEq, Repr

namespace Manifest

/-- The name of a package as code writes it. -/
def codeName (name : String) : String :=
  String.ofList (name.toList.map fun c => if c = '-' then '_' else c)

/-- The dependency that an entry stands for. -/
def dependency (entry : String × Toml.Value) : Dependency :=
  ⟨entry.1, ((entry.2.get? "package").bind Toml.Value.string?).getD entry.1⟩

/-- The entries of a table that does not stand behind an equals sign. -/
def section? (entries : Toml.Entries) (key : String) : Option Toml.Entries :=
  (entries.find? key).bind Toml.Value.table?

/-- The dependencies of a package, or of a package for one target: those for its code in front of
those for its tests. -/
def dependenciesOf (entries : Toml.Entries) : List Dependency :=
  ["dependencies", "dev-dependencies"].flatMap fun key =>
    ((section? entries key).getD []).map dependency

/-- The dependencies for single targets. -/
def targetDependencies (entries : Toml.Entries) : List Dependency :=
  ((section? entries "target").getD []).flatMap fun target =>
    (target.2.table?.map dependenciesOf).getD []

/-- What a configuration says about packages. -/
def ofValue (value : Toml.Value) : Manifest :=
  let entries := value.table?.getD []
  { package := ((value.get? "package").bind (Toml.Value.get? "name")).bind Toml.Value.string?
    dependencies := dependenciesOf entries ++ targetDependencies entries }

/-- Read a manifest. -/
def ofText? (text : String) : Option Manifest := (Toml.ofText? text).map ofValue

/-- How the code of the package sees the package itself. Its integration tests see it as users
do. -/
def self (integrationTest : Bool) (name : String) : Seen :=
  if integrationTest then .named (codeName name) else .itself

/-- How code of the package sees the package with the given name, if at all. Of several dependencies
on one package the last counts, and a dependency on the package itself counts for nothing. -/
def see? (manifest : Manifest) (integrationTest : Bool) (name : String) : Option Seen :=
  if manifest.package = some name then some (self integrationTest name)
  else
    (manifest.dependencies.reverse.find? fun entry => entry.package == name).map fun entry =>
      .named (codeName entry.key)

end Manifest

end MacroExpansion
