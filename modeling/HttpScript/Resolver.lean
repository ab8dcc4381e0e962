import HttpScript.Environment
import HttpScript.Generator
import HttpScript.Template

/-!
# Resolver

Placeholders are looked up in the variables of the request, of the file, and of the selected
environment, in this order; names that begin with `$` are generators. A template is resolved in
one pass, and what has no value stays as it was written.

    bindings r     overrides > environment > $shared > base, with no two names equal ignoring case
-/

namespace HttpScript

/-- The environments, the selected one, and the variables below and above them. -/
structure Resolver where
  environments : Environments
  environment : String
  base : Record String
  overrides : Record String
  deriving DecidableEq, Repr

/-- What became of an attempt to load environments from a file. -/
inductive LoadOutcome where
  | loaded (path : String) (names : List String)
  | failed (message : String)
  deriving DecidableEq, Repr

namespace Resolver

/-- A resolver without environments. -/
def start (environment : String) (base : Record String) : Resolver := ⟨[], environment, base, []⟩

/-! ## Changing -/

/-- Selects an environment; the empty name selects the default one. -/
def setEnvironment (r : Resolver) (name : String) : Resolver :=
  { r with environment := if name.isEmpty then Environments.defaultName else name }

/-- Sets a variable above every environment. -/
def setVariable (r : Resolver) (name value : String) : Resolver :=
  { r with overrides := r.overrides.set name value }

/-- Takes over an environment document given as decoded JSON. -/
def loadDocument (r : Resolver) (v : Json Binary64) : Except Problem Resolver :=
  match Environments.ofJson Environments.memorySource v with
  | .ok d => .ok { r with environments := d }
  | .error e => .error e

/-- Loads the environment document in a file. When that fails no environment is left. -/
def loadFile (r : Resolver) (tree : FileTree) (base : Path) (name : String) :
    Resolver × LoadOutcome :=
  match Environments.load tree base name with
  | .ok d => ({ r with environments := d }, .loaded name d.selectable)
  | .error e => ({ r with environments := [] }, .failed e.message)

/-! ## Looking up -/

def bindings (r : Resolver) : Record String :=
  let selected := r.environments.select r.environment
  let filled := r.base.foldl (fun vars e => Record.setIfAbsent vars e.1 e.2) selected
  r.overrides.foldl (fun vars e => Record.set vars e.1 e.2) filled

def lookup (ambient : Ambient) (own file env : Record String) (name : String) :
    Option String :=
  if name.toList.head? == some Generator.sigil then Generator.resolve? ambient name
  else (own.find? name).or ((file.find? name).or (env.find? name))

def resolve (r : Resolver) (ambient : Ambient) (own file : Record String) (s : String) :
    String :=
  Template.replace s (lookup ambient own file r.bindings)

end Resolver

end HttpScript
