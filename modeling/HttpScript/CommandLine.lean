import HttpScript.Command.Arguments
import HttpScript.Command.Listing
import HttpScript.Command.Run

/-!
# Command line

    list <file> [--json]
    run <file> [options]

The first word is the command and the second one the file. Every other word and every option that
the command does not have is refused, and so are options that exclude each other.
-/

namespace HttpScript.CommandLine

open Command

def version : String := "0.1.0"

/-! ## Options -/

def commonForms : List OptionForm := [⟨.flag, ["help"]⟩, ⟨.flag, ["version"]⟩]

/-- The options of `list`. -/
def listForms : List OptionForm := [⟨.text, ["file"]⟩, ⟨.flag, ["json"]⟩] ++ commonForms

/-- The options of `run`. -/
def runForms : List OptionForm :=
  [⟨.text, ["file"]⟩, ⟨.text, ["name", "n"]⟩, ⟨.number, ["line", "l"]⟩, ⟨.flag, ["all", "a"]⟩,
    ⟨.text, ["env", "e"]⟩, ⟨.text, ["env-file", "envFile"]⟩, ⟨.texts, ["var", "v"]⟩,
    ⟨.number, ["timeout", "t"]⟩, ⟨.number, ["max-redirects", "maxRedirects"]⟩,
    ⟨.text, ["workspace", "w"]⟩, ⟨.flag, ["verbose"]⟩, ⟨.flag, ["json"]⟩] ++ commonForms

def exclusions : List (String × List String) := [("name", ["line", "all"]), ("line", ["all"])]

/-! ## Invocations -/

/-- What a command line asks for. `nothing` is asked for when all words stand behind a double
dash. -/
inductive Invocation where
  | help
  | version
  | nothing
  | list (options : ListOptions)
  | run (options : RunOptions)
  deriving DecidableEq, Repr

/-- A command line that asks for something, or why it is refused. -/
abbrev Parsed := Except String Invocation

/-- The commands. -/
inductive CommandName where
  | list
  | run
  deriving DecidableEq, Repr

namespace CommandName

def ofWord? (word : String) : Option CommandName :=
  if word == "list" then some list else if word == "run" then some run else none

def forms : CommandName → List OptionForm
  | list => listForms
  | run => runForms

/-- The pairs of options that exclude each other. -/
def excluded : CommandName → List (String × List String)
  | list => []
  | run => exclusions

end CommandName

/-! ## Checks -/

/-- Whether help is asked for, by an option or by the last word. -/
def asksHelp (a : Arguments) : Bool := a.isSet "help" || a.words.getLast? == some "help"

def refuseUnknown (unknown : List String) : Except String Unit :=
  let shown := unknown.map fun s => if Text.isBlankText s then "\"" ++ s ++ "\"" else s
  match shown with
  | [] => .ok ()
  | [one] => .error ("Unknown argument: " ++ one)
  | more => .error ("Unknown arguments: " ++ ", ".intercalate more)

/-- The first pair of options that were both given and exclude each other. -/
def conflict? (excluded : List (String × List String)) (a : Arguments) : Option (String × String) :=
  (a.values.names.filter a.gives).findSome? fun name =>
    (((excluded.lookup name).getD []).find? a.gives).map (name, ·)

def refuseConflict (excluded : List (String × List String)) (a : Arguments) : Except String Unit :=
  match conflict? excluded a with
  | some (one, other) =>
    .error ("Arguments " ++ one ++ " and " ++ other ++ " are mutually exclusive")
  | none => .ok ()

/-! ## Reading -/

/-- The options of `list` that arguments give. -/
def listOptions (file : String) (a : Arguments) : ListOptions := ⟨file, a.isSet "json"⟩

/-- The options of `run` that arguments give. -/
def runOptions (file : String) (a : Arguments) : RunOptions :=
  { file
    name := a.text? "name"
    line := a.number? "line"
    all := a.isSet "all"
    environment := a.text? "env"
    environmentFile := a.text? "envFile"
    bindings := a.texts "var"
    timeoutMs := a.number? "timeout"
    maxRedirects := a.number? "maxRedirects"
    workspace := a.text? "workspace"
    verbose := a.isSet "verbose"
    json := a.isSet "json" }

def CommandName.invocation (command : CommandName) (file : String) (a : Arguments) : Invocation :=
  match command with
  | .list => .list (listOptions file a)
  | .run => .run (runOptions file a)

/-- Reads the arguments of a command, which come with its name. -/
def parseCommand (command : CommandName) (args : List String) : Parsed :=
  let a := Arguments.read command.forms args
  if asksHelp a then .ok .help
  else if a.isSet "version" then .ok .version
  else match a.words.drop 1 with
    | [] => .error "Not enough non-option arguments: got 0, need at least 1"
    | file :: extra => do
      refuseUnknown (Arguments.unknownNames command.forms a ++ extra)
      refuseConflict command.excluded a
      pure (command.invocation (if Arguments.endsValues file then "" else file) a)

/-- Reads arguments that do not begin with a command. -/
def parseOther (a : Arguments) : Parsed := do
  if asksHelp a then return .help
  if a.isSet "version" then return .version
  if a.words.isEmpty && a.behind.isEmpty then .error "You need to specify a command"
  refuseUnknown (Arguments.unknownNames commonForms a ++
    a.words.filter fun s => (CommandName.ofWord? s).isNone)
  pure .nothing

/-- Reads a command line. The command is the first word that is left when the options of the
program itself are read. -/
def parse (args : List String) : Parsed :=
  let a := Arguments.read commonForms args
  match a.words.head?.bind CommandName.ofWord? with
  | some command => parseCommand command args
  | none => parseOther a

/-! ## Running -/

/-- What is printed when help is asked for. -/
def usage : String := "\n".intercalate [
  "reqchain <command> [options]",
  "",
  "Commands:",
  "  reqchain list <file>  List the requests in a .http file",
  "  reqchain run <file>   Execute requests from a .http file"]

def run (w : Workspace) (s : Surroundings) (args : List String) : Except Stop Outcome :=
  match parse args with
  | .error reason => .ok (.refused [] [reason])
  | .ok .help => .ok ⟨0, [.output usage], []⟩
  | .ok .version => .ok ⟨0, [.output version], []⟩
  | .ok .nothing => .ok ⟨0, [], []⟩
  | .ok (.list o) => Listing.run w o
  | .ok (.run o) => Run.run w s none o

end HttpScript.CommandLine
