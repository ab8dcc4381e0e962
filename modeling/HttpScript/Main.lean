import HttpScript.CommandLine
import Std.Time.DateTime.Timestamp

/-!
# Program

Runs the command line on the files of the machine. The files that a command may read are looked at
beforehand; the commands themselves are pure. No transport is built in: every call fails as it does
on a machine without a network.
-/

namespace HttpScript.Program

open Command

/-! ## Files -/

/-- What is at a path. -/
def look (p : Path) : IO FileTree := do
  try
    let bytes ← IO.FS.readBinFile p.text
    let text := Charset.utf8From none (bytes.toList.map UInt8.toNat)
    pure ⟨[(p, String.ofList text)], []⟩
  catch
    | .inappropriateType none .. => pure ⟨[], [p]⟩
    | _ => pure ⟨[], []⟩

def lookAll (ps : List Path) : IO FileTree := do
  let trees ← ps.mapM look
  pure ⟨trees.flatMap (·.files), trees.flatMap (·.folders)⟩

def workingFolder : IO Path := do
  pure (Path.root.join (toString (← IO.currentDir)))

/-- The files that an invocation reads, apart from the environment document. -/
def filesOf (working : Path) : CommandLine.Invocation → List Path
  | .list o => [working.resolve o.file]
  | .run o =>
    let path := working.resolve o.file
    let names := ".git" :: (Config.candidates none).map (·.1)
    path :: path.parent.chain.flatMap fun folder => names.map folder.join
  | _ => []

/-- The environment document that an invocation reads. -/
def environmentFile? (w : Workspace) : CommandLine.Invocation → Option Path
  | .run o => match Run.prepare w o (w.path o.file).parent with
    | .ok p => some p.settings.environmentFile
    | .error _ => none
  | _ => none

/-- The files that arguments ask for. -/
def workspaceOf (args : List String) : IO Workspace := do
  let working ← workingFolder
  match CommandLine.parse args with
  | .error _ => pure ⟨⟨[], []⟩, working⟩
  | .ok invocation =>
    let tree ← lookAll (filesOf working invocation)
    let more ← lookAll (environmentFile? ⟨tree, working⟩ invocation).toList
    pure ⟨⟨tree.files ++ more.files, tree.folders ++ more.folders⟩, working⟩

/-! ## Surroundings -/

/-- The process environment, where the machine shows it as a file. -/
def processEnv : IO (Record String) := do
  try
    let bytes ← IO.FS.readBinFile "/proc/self/environ"
    let text := Charset.utf8From none (bytes.toList.map UInt8.toNat)
    let settings := (Text.splitBy (·.toNat == 0) text).map String.ofList
    pure (Record.ofList (settings.filterMap Run.setting?))
  catch _ => pure []

/-- A random identifier of the fourth version. -/
def identifier : IO String := do
  let bytes ← IO.getRandomBytes 16
  let digits := bytes.toList.zipIdx.flatMap fun (b, i) =>
    let b := if i == 6 then b % 16 + 64 else if i == 8 then b % 64 + 128 else b
    Text.natText 16 2 b.toNat
  let part (start count : Nat) : String := String.ofList ((digits.drop start).take count)
  pure ("-".intercalate [part 0 8, part 8 4, part 12 4, part 16 4, part 20 12])

/-- What surrounds the program: its clock, one random draw, and a transport without a network. -/
def surroundings : IO Surroundings := do
  let now := (← Std.Time.Timestamp.now).toMillisecondsSinceUnixEpoch.val
  let draw ← IO.rand 0 (Nat.pow 2 53 - 1)
  let fault : Fault := .error true "TypeError" "fetch failed" none none
  pure {
    ambient := ⟨now, .ofRatio false draw (Nat.pow 2 53), ← identifier, ← processEnv⟩
    stopwatch := fun _ => 0
    transport := .ofScript [.fail false fault] }

/-! ## Running -/

def print (m : Message) : IO Unit :=
  match m.channel with
  | .output => IO.println m.text
  | _ => IO.eprintln m.text

def run (args : List String) : IO UInt32 := do
  match CommandLine.run (← workspaceOf args) (← surroundings) args with
  | .ok outcome =>
    outcome.messages.forM print
    pure (.ofNat outcome.exitCode)
  | .error e =>
    IO.eprintln e.message
    pure 1

end HttpScript.Program

def main (args : List String) : IO UInt32 := HttpScript.Program.run args
