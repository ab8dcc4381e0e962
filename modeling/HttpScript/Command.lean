import HttpScript.FileTree
import HttpScript.Report

/-!
# Commands

What the two commands of the program have in common: the files they see, the messages they print
and the outcome they end with.
-/

namespace HttpScript.Command

/-! ## Messages -/

/-- Where a message goes. -/
inductive Channel where
  | output
  | error
  | warning
  deriving DecidableEq, Repr

/-- A printed message. -/
structure Message where
  channel : Channel
  text : String
  deriving DecidableEq, Repr

/-- A message of the result proper. -/
def Message.output (text : String) : Message := ⟨.output, text⟩

/-- A message beside the result. -/
def Message.error (text : String) : Message := ⟨.error, text⟩

/-! ## Outcomes -/

/-- How a command ended: its exit code, what it printed and the calls it made, in order. -/
structure Outcome where
  exitCode : Nat
  messages : List Message
  calls : List SentRequest
  deriving DecidableEq, Repr

/-- An outcome that says why nothing was done, after earlier messages. -/
def Outcome.refused (earlier : List Message) (reasons : List String) : Outcome :=
  ⟨1, earlier ++ reasons.map .error, []⟩

/-- What a command may be stopped by before it has an outcome. -/
inductive Stop where
  | unreadable (cause : ReadError)
  | broken (fault : Fault)

def Stop.message : Stop → String
  | unreadable cause => cause.message
  | broken fault => fault.message

/-! ## Files -/

/-- The files that a command sees, and the folder it works in. -/
structure Workspace where
  tree : FileTree
  working : Path

def Workspace.path (w : Workspace) (file : String) : Path := w.working.resolve file

def Outcome.notFound (p : Path) : Outcome := .refused [] ["File not found: " ++ p.text]

def requestLines (d : Document) : List String :=
  d.requests.zipIdx.map fun (r, i) => Report.requestLine i r

end HttpScript.Command
