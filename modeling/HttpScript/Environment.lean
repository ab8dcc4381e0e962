import HttpScript.Jsonc
import HttpScript.Problem
import HttpScript.Schema

/-!
# Environments

An environment document maps the names of environments to their variables. The entries of the
section `$shared` count for every environment, below its own.

    select d n     the variables of environment n, with no two names equal ignoring case
-/

namespace HttpScript

/-- Environment name to variables. -/
abbrev Environments := Record (Record String)

namespace Environments

/-- The section that counts for every environment. -/
def sharedName : String := "$shared"

/-- The environment that is selected when none is named. -/
def defaultName : String := "dev"

/-- Name of the environment document when none is given. -/
def defaultFile : String := "http-client.env.json"

/-- Source of a document that comes from no file. -/
def memorySource : String := "<memory>"

/-! ## Reading -/

def textEntries (entries : Record (Json Binary64)) : Record String :=
  entries.foldl (fun r e => match e.2 with
    | .text s => r.assign e.1 s.text
    | _ => r) []

/-- The document that decoded JSON denotes: an object of objects. Entries that are not texts are
left out. -/
def ofJson (source : String) (v : Json Binary64) : Except Problem Environments :=
  match Schema.record Schema.object v with
  | .error m => .error (.environment source
      (m.cause.message ++ if m.path.isEmpty then "" else " at " ++ m.place))
  | .ok sections => .ok (sections.map fun e => (e.1, textEntries e.2))

def parse (source content : String) : Except Problem Environments :=
  match Jsonc.parse? content with
  | none => .error (.environment source Jsonc.syntaxMessage)
  | some v => ofJson source v

/-- Reads the document in the named file. A missing file is an empty document. -/
def load (tree : FileTree) (base : Path) (name : String) : Except LoadError Environments :=
  match tree.readNamed base name with
  | .ok content => (parse name content).mapError .refused
  | .error .missing => .ok []
  | .error cause => .error (.unreadable cause)

/-! ## Selecting -/

/-- The variables of one environment. Its own entries are written in order, ignoring case; shared
entries fill in what it does not name. -/
def select (d : Environments) (name : String) : Record String :=
  let own := ((d.get? name).getD []).foldl (fun r e => Record.set r e.1 e.2) []
  ((d.get? sharedName).getD []).foldl (fun r e => Record.setIfAbsent r e.1 e.2) own

/-- The names that can be selected. -/
def selectable (d : Environments) : List String := d.names.filter (· != sharedName)

end Environments

end HttpScript
