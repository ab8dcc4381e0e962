import HttpScript.Query

/-!
# Paths through trees

A body path is followed through a tree as it stands, so that it leads to what queries have put into
the lists of the tree as well. Objects and what was made like one have members; a number literal and
what is taken for one have none here.

    (Tree.fresh root).navigate? lib ps path = BodyPath.navigate? lib root path
-/

namespace HttpScript.Query

namespace Memory

/-- The members of a value that is an object and no list, as far as the value of each tells whether
the object is taken for a number. -/
def members? (m : Memory) : Value → Option (Record Body Wide)
  | .node _ (.object ms) => some ms
  | .pattern .. => some []
  | v => match m.cell? v with
    | some (.record ms _) => some (ms.map fun e => (↑e.1, m.toBody 1 e.2))
    | _ => none

/-- The member of this name, of an object that is not taken for a number. -/
def member? (m : Memory) (lib : JsonLibrary) (v : Value) (name : Wide) : Option Value :=
  match m.members? v with
  | some ms => if lib.takes ms then none else (m.own? v name).filter (·.isGiven)
  | none => none

def item? (m : Memory) (v : Value) (index : Nat) : Option Value :=
  ((m.items? v).bind (·[index]?)).filter (·.isGiven)

end Memory

namespace Tree

variable (lib : JsonLibrary) (t : Tree) (ps : Patterns) (path : String)

/-- The node that a body path leads to. -/
def navigate? : Option Body :=
  let m := t.memory ps
  ((BodyPath.parse? path).bind
    (BodyPath.follow? (m.member? lib) m.item? (.ofBody [] t.root))).bind m.node?

/-- What a path selects: a query when it begins with `$`, else a body path. -/
def select : Answer :=
  if Text.startsWith "$" path then ask t ps path else ⟨t.navigate? lib ps path, t, ps⟩

end Tree

end HttpScript.Query
