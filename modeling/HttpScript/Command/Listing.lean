import HttpScript.Command

/-!
# Listing

The `list` command shows the requests of a document, or the whole document as JSON.
-/

namespace HttpScript.Command

/-- What the command line asks for. -/
structure ListOptions where
  file : String
  json : Bool
  deriving DecidableEq, Repr

namespace Listing

def messages (json : Bool) (d : Document) : List Message :=
  if json then [.output (Report.ofDocument d).indented]
  else if d.requests.isEmpty then [.output "No requests found"]
  else (requestLines d).map .output

/-- Lists the requests of a document. A folder cannot be read as one. -/
def run (w : Workspace) (o : ListOptions) : Except Stop Outcome :=
  let path := w.path o.file
  if !w.tree.holds path then .ok (.notFound path)
  else match w.tree.read path with
    | .error e => .error (.unreadable e)
    | .ok content => .ok ⟨0, messages o.json (.parse content), []⟩

end Listing

end HttpScript.Command
