import HttpScript.Environment

/-!
# Configuration

A config file sets the environment, its document, defaults for requests and variables. It is looked
for in a folder and then in the folders above, and its settings are merged with the built-in ones
and those of the command line.

    find?            the nearest folder wins; reqchain.jsonc goes before reqchain.json
    Settings.merge   command line > config file > built-in
-/

namespace HttpScript

/-- Defaults for every request. -/
structure Defaults where
  timeoutMs : Option Binary64
  followRedirects : Option Bool
  maxRedirects : Option Binary64
  headers : Option (Record String)
  deriving DecidableEq, Repr

/-- The content of a config file. -/
structure Config where
  environment : Option String
  environmentFile : Option String
  defaults : Option Defaults
  bindings : Option (Record String)
  deriving DecidableEq, Repr

/-! ## Shape -/

open Schema in
def Defaults.ofJson (v : Json Binary64) : Checked Defaults := do
  let r ← object v
  let timeoutMs ← optional (integer (Binary64.lt 0) .notPositive) r "timeoutMs"
  let followRedirects ← optional bool r "followRedirects"
  let maxRedirects ← optional (integer (Binary64.le 0) .negative) r "maxRedirects"
  let headers ← optional (record text) r "headers"
  onlyNames ["timeoutMs", "followRedirects", "maxRedirects", "headers"] r
  pure { timeoutMs, followRedirects, maxRedirects, headers }

namespace Config

def empty : Config := ⟨none, none, none, none⟩

open Schema in
/-- Checks the whole config, its parts in order and unknown names last. -/
def check (v : Json Binary64) : Checked Config := do
  let r ← object v
  let environment ← optional nonemptyText r "environment"
  let environmentFile ← optional nonemptyText r "environmentFile"
  let defaults ← optional Defaults.ofJson r "defaults"
  let bindings ← optional (record text) r "variables"
  onlyNames ["environment", "environmentFile", "defaults", "variables"] r
  pure { environment, environmentFile, defaults, bindings }

def ofJson (source : String) (v : Json Binary64) : Except Problem Config :=
  match check v with
  | .ok c => .ok c
  | .error m => .error (.config source
      ((if m.path.isEmpty then "" else m.place ++ ": ") ++ m.cause.message))

def parse (source content : String) : Except Problem Config :=
  match Jsonc.parse? content with
  | none => .error (.config source Jsonc.syntaxMessage)
  | some v => ofJson source v

/-! ## Loading -/

/-- The two forms of config file. -/
inductive FileFormat where
  | jsonc
  | json
  deriving DecidableEq, Repr

def FileFormat.ofName (name : String) : FileFormat :=
  if Text.endsWith ".jsonc" name then jsonc else json

/-- A config and the file it came from, if it came from one. -/
structure Loaded where
  config : Config
  source : Option (Path × FileFormat)

def loadAt (tree : FileTree) (p : Path) (format : FileFormat) : Except LoadError Loaded :=
  match tree.read p with
  | .error cause => .error (.unreadable cause)
  | .ok content => match parse p.text content with
    | .error problem => .error (.refused problem)
    | .ok c => .ok ⟨c, some (p, format)⟩

/-- The names to look for in each folder, preferred ones first. -/
def candidates (name : Option String) : List (String × FileFormat) :=
  match name with
  | some n =>
    if n.isEmpty then defaultCandidates else [(n, .ofName n)]
  | none => defaultCandidates
where
  /-- The names that are looked for when none is given. -/
  defaultCandidates : List (String × FileFormat) :=
    [("reqchain.jsonc", .jsonc), ("reqchain.json", .json)]

/-- The first candidate that a folder holds. -/
def inFolder? (tree : FileTree) (names : List (String × FileFormat)) (folder : Path) :
    Option (Path × FileFormat) :=
  (names.find? fun c => tree.holdsNamed folder c.1).map fun c => (folder.join c.1, c.2)

/-- The folders to search: up to `stop` if it is among them, else all. -/
def searched (stop : Option Path) : List Path → List Path
  | [] => []
  | p :: r => if stop == some p then [p] else p :: searched stop r

def find? (tree : FileTree) (start : Path) (name : Option String) (stop : Option Path) :
    Option (Path × FileFormat) :=
  (searched stop start.chain).findSome? (inFolder? tree (candidates name))

/-- Loads the config file at a path; a missing file sets nothing. -/
def loadFile (tree : FileTree) (p : Path) : Except LoadError Loaded :=
  if tree.holds p then loadAt tree p (.ofName p.text) else .ok ⟨empty, none⟩

/-- Loads the config file nearest to a folder; none sets nothing. -/
def discover (tree : FileTree) (start : Path) (name : Option String) (stop : Option Path) :
    Except LoadError Loaded :=
  match find? tree start name stop with
  | some (p, format) => loadAt tree p format
  | none => .ok ⟨empty, none⟩

/-- Loads the config file nearest to the folder that a text names from the working folder. The
search ends at the folder that another text names; an empty one names none. -/
def discoverFrom (tree : FileTree) (working : Path) (start : String) (name stop : Option String) :
    Except LoadError Loaded :=
  discover tree (working.resolve start) name ((stop.filter (!·.isEmpty)).map working.resolve)

end Config

/-! ## Settings -/

/-- Values of the command line, each above the config file. -/
structure Overrides where
  timeoutMs : Option Binary64
  followRedirects : Option Bool
  maxRedirects : Option Binary64
  environment : Option String
  environmentFile : Option String
  deriving DecidableEq, Repr

/-- Everything a run needs to know, with all layers merged. -/
structure Settings where
  timeoutMs : Binary64
  followRedirects : Bool
  maxRedirects : Binary64
  headerDefaults : Record String
  environment : String
  environmentFile : Path
  bindings : Record String
  deriving DecidableEq, Repr

namespace Settings

/-- Time limit of a request when none is set, in milliseconds. -/
def defaultTimeout : Binary64 := 30000

/-- Number of redirects that are followed when none is set. -/
def defaultMaxRedirects : Binary64 := 10

/-- Merges built-in values, a config and the command line. The environment document is read from
the working folder when the command line names it, else from `folder`. -/
def merge (config : Config) (overrides : Overrides) (working folder : Path) : Settings :=
  let defaults := config.defaults.getD ⟨none, none, none, none⟩
  { timeoutMs := (overrides.timeoutMs.or defaults.timeoutMs).getD defaultTimeout
    followRedirects := (overrides.followRedirects.or defaults.followRedirects).getD true
    maxRedirects := (overrides.maxRedirects.or defaults.maxRedirects).getD defaultMaxRedirects
    headerDefaults := defaults.headers.getD []
    environment :=
      (overrides.environment.or config.environment).getD Environments.defaultName
    environmentFile := match overrides.environmentFile.filter (!·.isEmpty) with
      | some name => working.resolve name
      | none => folder.resolve (config.environmentFile.getD Environments.defaultFile)
    bindings := config.bindings.getD [] }

end Settings

end HttpScript
