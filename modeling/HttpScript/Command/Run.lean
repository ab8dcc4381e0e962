import HttpScript.Command
import HttpScript.Config

/-!
# Running

The `run` command executes requests of a document and prints their results. Settings come from the
command line, a config file and built-in values; the environment document is read once, before the
first request.

    bindings ["a=1", "b=2=3"] = [("a", "1"), ("b", "2=3")]
    run      exit code 0 just when every executed request succeeded
-/

namespace HttpScript.Command

/-- What the command line asks for. -/
structure RunOptions where
  file : String
  name : Option String
  line : Option Binary64
  all : Bool
  environment : Option String
  environmentFile : Option String
  bindings : List String
  timeoutMs : Option Binary64
  maxRedirects : Option Binary64
  workspace : Option String
  verbose : Bool
  json : Bool
  deriving DecidableEq, Repr

namespace Run

/-! ## Variables -/

/-- Name and value on both sides of the first equals sign. The name must not be empty. -/
def setting? (s : String) : Option (String × String) :=
  match Text.cutAt? (· == '=') s.toList with
  | some (c :: name, value) => some (String.ofList (c :: name), String.ofList value)
  | _ => none

/-- The variables that the command line sets. -/
def bindings (vars : List String) : Record String :=
  (vars.filterMap setting?).foldl (fun r e => r.assign e.1 e.2) []

/-- A warning for everything that sets no variable. -/
def warnings (vars : List String) : List Message :=
  (vars.filter fun s => (setting? s).isNone).map fun s =>
    ⟨.warning, "Warning: Invalid variable format \"" ++ s ++ "\", expected key=value"⟩

/-! ## Settings -/

/-- The settings that the command line puts above the config file. A maximum of zero redirects
turns them off. -/
def overrides (o : RunOptions) : Overrides :=
  { timeoutMs := o.timeoutMs
    followRedirects := if o.maxRedirects.any Binary64.isZero then some false else none
    maxRedirects := o.maxRedirects
    environment := o.environment
    environmentFile := o.environmentFile }

/-- The nearest folder that holds a repository, other than the root. -/
def repositoryRoot? (tree : FileTree) (folder : Path) : Option Path :=
  folder.chain.find? fun p => !p.names.isEmpty && tree.holds (p.join ".git")

/-- The folder at which the search for a config file ends: the one named, else the root of the
repository. -/
def workspaceRoot? (w : Workspace) (named : Option String) (folder : Path) : Option Path :=
  match named.filter (!·.isEmpty) with
  | some name => some (w.path name)
  | none => repositoryRoot? w.tree folder

def loadEvent : LoadOutcome → Event
  | .loaded path names => .environmentLoaded path names
  | .failed message => .error "environment" message

/-- What a run starts with, and what has been printed by then. -/
structure Preparation where
  settings : Settings
  resolver : Resolver
  messages : List Message

/-- Merges the settings for documents of a folder, loads the environments and sets the variables of
the command line. -/
def prepare (w : Workspace) (o : RunOptions) (folder : Path) : Except LoadError Preparation :=
  match Config.discover w.tree folder none (workspaceRoot? w o.workspace folder) with
  | .error e => .error e
  | .ok loaded =>
    let source := loaded.source.map (·.1)
    let settings := Settings.merge loaded.config (overrides o) w.working
      ((source.map Path.parent).getD folder)
    let (resolver, outcome) := (Resolver.start settings.environment settings.bindings).loadFile
      w.tree w.working settings.environmentFile.text
    let found := source.toList.map fun p => Message.error ("Config: " ++ p.text)
    .ok {
      settings
      resolver := (bindings o.bindings).foldl (fun r e => r.setVariable e.1 e.2) resolver
      messages :=
        (if o.verbose then found ++ [.error (Report.eventLine (loadEvent outcome))] else []) ++
          warnings o.bindings }

/-! ## Selection -/

/-- The requests to execute, or the problem that there are none. -/
def select (o : RunOptions) (d : Document) : Except Problem (List Request) :=
  if o.all then .ok d.requests
  else match o.name, o.line with
    | some name, _ => match d.requestNamed? name with
      | some r => .ok [r]
      | none => .error (.requestNotFound ("name \"" ++ name ++ "\""))
    | none, some line => match d.requestAt? line with
      | some r => .ok [r]
      | none => .error (.requestNotFound ("a span containing line " ++ line.text))
    | none, none => match d.requests with
      | r :: _ => .ok [r]
      | [] => .error (.requestNotFound "index 0")

/-! ## Printing -/

/-- What is printed while a request is executed. -/
def progress (index : Nat) (r : Request) (e : Execution) : List Message :=
  .error (Report.requestLine index r) :: e.events.map fun event => .error (Report.eventLine event)

/-- Results as JSON: a list when all requests were asked for, else the only one. -/
def jsonText (all : Bool) (results : List ExecutionResult) : String :=
  match all, results with
  | false, r :: _ => (Report.ofResult r).indented
  | _, rs => (Json.list (rs.map Report.ofResult)).indented

/-- Several results, each under a heading and with an empty line in front of all but the first. -/
def chapters : (first : Bool) → List ExecutionResult → List Message
  | _, [] => []
  | first, r :: rest =>
    (if first then [] else [.output ""]) ++
      .output ("### " ++ Report.summary r) :: .output (Report.resultText r) :: chapters false rest

def resultMessages (o : RunOptions) (results : List ExecutionResult) : List Message :=
  if o.json then [.output (jsonText o.all results)]
  else match results with
    | [r] =>
      (if o.verbose then [.error (Report.summary r)] else []) ++ [.output (Report.resultText r)]
    | rs => chapters true rs

/-! ## Running -/

def executorSettings (s : Settings) : ExecutorSettings :=
  ⟨⟨s.timeoutMs, s.followRedirects, s.maxRedirects⟩, s.headerDefaults⟩

/-- Executes requests and prints their results. `signal` is the caller's signal: whether it has
been aborted, if there is one. -/
def runRequests (s : Surroundings) (signal : Option Bool) (o : RunOptions) (p : Preparation)
    (d : Document) (requests : List Request) : Except Stop Outcome :=
  let executions := Execution.executeAll s (executorSettings p.settings) signal.isSome false
    d.fileVariables ⟨.start, p.resolver, 0, 0, signal.getD false⟩ requests
  let steps := (requests.zip executions).zipIdx.flatMap fun ((r, e), i) => progress i r e
  match Execution.report executions with
  | .error fault => .error (.broken fault)
  | .ok results => .ok {
      exitCode := if results.all (·.success) then 0 else 1
      messages := p.messages ++ (if o.verbose then steps else []) ++ resultMessages o results
      calls := executions.flatMap fun e => Dispatch.calls e.trace }

def runDocument (s : Surroundings) (signal : Option Bool) (o : RunOptions) (p : Preparation)
    (d : Document) : Except Stop Outcome :=
  if d.requests.isEmpty then .ok (.refused p.messages ["No valid requests found in file"])
  else match select o d with
    | .error problem =>
      .ok (.refused p.messages (problem.message :: "Available requests:" :: requestLines d))
    | .ok requests => runRequests s signal o p d requests

/-- Runs requests of a document. A folder cannot be read as one. -/
def run (w : Workspace) (s : Surroundings) (signal : Option Bool) (o : RunOptions) :
    Except Stop Outcome :=
  let path := w.path o.file
  if !w.tree.holds path then .ok (.notFound path)
  else match prepare w o path.parent with
    | .error e => .ok (.refused [] [e.message])
    | .ok p => match w.tree.read path with
      | .error e => .error (.unreadable e)
      | .ok content => runDocument s signal o p (.parse content)

end Run

end HttpScript.Command
