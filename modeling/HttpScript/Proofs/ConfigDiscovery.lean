import HttpScript.Config
import Mathlib.Logic.Function.Iterate

/-!
# The nearest config file

The search for a config file looks into a folder, stops where it was told to, and goes on to the
folder above, up to the root. It ends after at most as many steps as the folder has names, and the
file that it finds is the preferred one of the nearest folder that has any:

    d 0, d 1, …, d n     the folder and those above it, up to the stop or the root     (LastFolder)
    Steps look stop p k r     the search from p goes up k times and ends with r

What the file holds decides the outcome. Where it is refused, no other file is looked at
(`discoverFrom_nearest`).
-/

namespace HttpScript

/-- The folder so many levels above a path. -/
def Path.above (p : Path) (i : Nat) : Path := Path.parent^[i] p

namespace Config

/-! ## The specification -/

/-- The search goes up from `start` to the folder `n` levels above: to the stop if it comes by it,
else to the root. -/
structure LastFolder (start : Path) (stop : Option Path) (n : Nat) : Prop where
  within : n ≤ start.names.length
  before : ∀ i < n, stop ≠ some (start.above i)
  ends : stop = some (start.above n) ∨ start.above n = Path.root

/-- The search, step by step: a look into the folder, then the stop, then the root, then the folder
above. -/
inductive Steps {α : Type} (look : Path → Option α) (stop : Option Path) :
    Path → Nat → Option α → Prop where
  | found {p : Path} {x : α} (here : look p = some x) : Steps look stop p 0 (some x)
  | stopped {p : Path} (nothing : look p = none) (last : stop = some p) : Steps look stop p 0 none
  | top {p : Path} (nothing : look p = none) (more : stop ≠ some p) (root : p.parent = p) :
      Steps look stop p 0 none
  | up {p : Path} {k : Nat} {r : Option α} (nothing : look p = none) (more : stop ≠ some p)
      (below : p.parent ≠ p) (rest : Steps look stop p.parent k r) : Steps look stop p (k + 1) r

/-- The file that is taken in a folder: the one that was named, or else `reqchain.jsonc` before
`reqchain.json`. An empty name is none. -/
inductive Takes (tree : FileTree) (folder : Path) : Option String → String → FileFormat → Prop where
  | named {name : String} (given : name ≠ "") (held : tree.holdsNamed folder name = true) :
      Takes tree folder (some name) name (.ofName name)
  | jsonc {name : Option String} (free : name = none ∨ name = some "")
      (held : tree.holdsNamed folder "reqchain.jsonc" = true) :
      Takes tree folder name "reqchain.jsonc" .jsonc
  | json {name : Option String} (free : name = none ∨ name = some "")
      (first : tree.holdsNamed folder "reqchain.jsonc" = false)
      (held : tree.holdsNamed folder "reqchain.json" = true) :
      Takes tree folder name "reqchain.json" .json

/-- Nothing to take in a folder. -/
def TakesNone (tree : FileTree) (folder : Path) (name : Option String) : Prop :=
  ∀ file format, ¬ Takes tree folder name file format

/-- The outcome of a file: its config, a refusal of what it holds, or that it is a folder. -/
inductive Outcome (tree : FileTree) (p : Path) (format : FileFormat) :
    Except LoadError Loaded → Prop where
  | valid {content : String} {v : Json Binary64} {c : Config} (held : tree.read p = .ok content)
      (json : Jsonc.parse? content = some v) (shaped : check v = .ok c) :
      Outcome tree p format (.ok ⟨c, some (p, format)⟩)
  | invalid {content reason : String} (held : tree.read p = .ok content)
      (other : ∀ v c, Jsonc.parse? content = some v → check v ≠ .ok c) :
      Outcome tree p format (.error (.refused (.config p.text reason)))
  | folder (held : tree.read p = .error .folder) :
      Outcome tree p format (.error (.unreadable .folder))

/-! ## Folders -/

theorem length_parent (p : Path) : p.parent.names.length = p.names.length - 1 :=
  List.length_dropLast

theorem eq_root_of_length (p : Path) (none : p.names.length = 0) : p = Path.root :=
  congrArg Path.mk (List.length_eq_zero_iff.1 none)

/-- Only the root holds itself. -/
theorem parent_eq_self_iff (p : Path) : p.parent = p ↔ p = Path.root := by
  constructor
  · intro same
    have length := length_parent p
    rw [same] at length
    exact eq_root_of_length p (by omega)
  · rintro rfl
    rfl

section Climb

variable {α : Type} (look : Path → Option α) (stop : Option Path)

/-- The search is a search through a list of folders. It ends, and the list is that of the folder
and those above it, up to the last one. -/
theorem exists_lastFolder (depth : Nat) (p : Path) (length : p.names.length = depth) :
    ∃ n, LastFolder p stop n ∧
      searched stop (Path.chainFrom depth p) = (List.range (n + 1)).map p.above ∧
      ∃ k ≤ n, Steps look stop p k ((searched stop (Path.chainFrom depth p)).findSome? look) := by
  induction depth generalizing p with
  | zero =>
    have root := eq_root_of_length p length
    have only : searched stop (Path.chainFrom 0 p) = [p] := by
      rw [Path.chainFrom, searched, searched, ite_self]
    refine ⟨0, ⟨Nat.zero_le _, nofun, .inr root⟩, only, 0, Nat.le_refl _, ?_⟩
    rw [only, List.findSome?_cons]
    cases here : look p with
    | some x => exact .found here
    | none =>
      by_cases last : stop = some p
      · exact .stopped here last
      · exact .top here last ((parent_eq_self_iff p).2 root)
  | succ depth ih =>
    rw [Path.chainFrom, searched]
    by_cases last : stop = some p
    · refine ⟨0, ⟨Nat.zero_le _, nofun, .inl last⟩, ?_, 0, Nat.le_refl _, ?_⟩
      · rw [if_pos (beq_iff_eq.2 last)]
        rfl
      · rw [if_pos (beq_iff_eq.2 last), List.findSome?_cons]
        cases here : look p with
        | some x => exact .found here
        | none => exact .stopped here last
    · have shorter : p.parent.names.length = depth := by
        rw [length_parent, length]
        rfl
      obtain ⟨n, ⟨within, before, ends⟩, folders, k, le, steps⟩ := ih p.parent shorter
      rw [if_neg (mt beq_iff_eq.1 last)]
      refine ⟨n + 1, ⟨by omega, ?before, ends⟩, ?folders, ?steps⟩
      case before =>
        intro i hi
        cases i with
        | zero => exact last
        | succ i => exact before i (by omega)
      case folders =>
        rw [folders, List.range_succ_eq_map (n := n + 1), List.map_cons, List.map_map]
        rfl
      case steps =>
        rw [List.findSome?_cons]
        cases here : look p with
        | some x => exact ⟨0, Nat.zero_le _, .found here⟩
        | none =>
          have below : p.parent ≠ p := by
            rw [Ne, parent_eq_self_iff]
            rintro rfl
            cases length
          exact ⟨k + 1, by omega, .up here last below steps⟩

/-- Of folders in a row, the first in which something is found counts. -/
theorem findSome?_range_eq_some {d : Nat → Path} {n i : Nat} (within : i ≤ n) {x : α}
    (nearer : ∀ j < i, look (d j) = none) (found : look (d i) = some x) :
    ((List.range (n + 1)).map d).findSome? look = some x := by
  have split : n + 1 = i + (n - i + 1) := by omega
  have front : ((List.range i).map d).findSome? look = none := by
    rw [List.findSome?_eq_none_iff]
    intro p hp
    obtain ⟨j, hj, rfl⟩ := List.mem_map.1 hp
    exact nearer j (List.mem_range.1 hj)
  rw [split, List.range_add, List.map_append, List.findSome?_append, front,
    List.range_succ_eq_map, List.map_cons, List.map_cons, List.findSome?_cons, Nat.add_zero, found]
  rfl

theorem findSome?_range_eq_none_iff {d : Nat → Path} {n : Nat} :
    ((List.range (n + 1)).map d).findSome? look = none ↔ ∀ i ≤ n, look (d i) = none := by
  rw [List.findSome?_eq_none_iff]
  simp only [List.forall_mem_map, List.mem_range, Nat.lt_succ_iff]

end Climb

/-! ## Candidates -/

theorem candidates_of_free {name : Option String} (free : name = none ∨ name = some "") :
    candidates name = [("reqchain.jsonc", .jsonc), ("reqchain.json", .json)] := by
  rcases free with rfl | rfl <;> rfl

theorem candidates_of_given {name : String} (given : name ≠ "") :
    candidates (some name) = [(name, .ofName name)] := by
  have other : name.isEmpty = false := by simpa using given
  unfold candidates
  dsimp only
  rw [other, if_neg Bool.false_ne_true]

/-- The look into a folder takes what is to be taken there. -/
theorem inFolder?_of_takes {tree : FileTree} {folder : Path} {name : Option String} {file : String}
    {format : FileFormat} (takes : Takes tree folder name file format) :
    inFolder? tree (candidates name) folder = some (folder.join file, format) := by
  unfold inFolder?
  cases takes with
  | named given held =>
    rw [candidates_of_given given, List.find?_cons, held]
    rfl
  | jsonc free held =>
    rw [candidates_of_free free, List.find?_cons, held]
    rfl
  | json free first held =>
    rw [candidates_of_free free, List.find?_cons, first, List.find?_cons, held]
    rfl

theorem inFolder?_eq_none_iff (tree : FileTree) (folder : Path) (name : Option String) :
    inFolder? tree (candidates name) folder = none ↔ TakesNone tree folder name := by
  constructor
  · intro nothing file format takes
    rw [inFolder?_of_takes takes] at nothing
    cases nothing
  · intro takesNone
    by_cases free : name = none ∨ name = some ""
    · have first : tree.holdsNamed folder "reqchain.jsonc" = false :=
        Bool.eq_false_iff.2 fun held => takesNone _ _ (.jsonc free held)
      have second : tree.holdsNamed folder "reqchain.json" = false :=
        Bool.eq_false_iff.2 fun held => takesNone _ _ (.json free first held)
      unfold inFolder?
      rw [candidates_of_free free, List.find?_cons, first, List.find?_cons, second]
      rfl
    · obtain ⟨unnamed, nonempty⟩ := not_or.1 free
      obtain ⟨file, rfl⟩ := Option.ne_none_iff_exists'.1 unnamed
      have given : file ≠ "" := fun none => nonempty (congrArg some none)
      have missing : tree.holdsNamed folder file = false :=
        Bool.eq_false_iff.2 fun held => takesNone _ _ (.named given held)
      unfold inFolder?
      rw [candidates_of_given given, List.find?_cons, missing]
      rfl

theorem holds_of_holdsNamed {tree : FileTree} {folder : Path} {name : String}
    (held : tree.holdsNamed folder name = true) : tree.holds (folder.join name) = true := by
  unfold FileTree.holdsNamed at held
  split at held
  · unfold FileTree.holds
    rw [held, Bool.or_true]
  · exact held

theorem holds_of_inFolder? {tree : FileTree} {names : List (String × FileFormat)} {folder p : Path}
    {format : FileFormat} (found : inFolder? tree names folder = some (p, format)) :
    tree.holds p = true := by
  obtain ⟨⟨name, _⟩, picked, same⟩ := Option.map_eq_some_iff.1 found
  obtain ⟨rfl, -⟩ := Prod.mk.inj same
  have held := List.find?_some picked
  exact holds_of_holdsNamed held

/-! ## Loading -/

/-- What is there is read, unless it is a folder. -/
theorem read_of_holds {tree : FileTree} {p : Path} (held : tree.holds p = true) :
    (∃ content, tree.read p = .ok content) ∨ tree.read p = .error .folder := by
  unfold FileTree.read
  cases there : tree.content? p with
  | some content => exact .inl ⟨content, rfl⟩
  | none =>
    right
    unfold FileTree.holds at held
    rw [there] at held
    exact if_pos held

theorem outcome_loadAt {tree : FileTree} {p : Path} (held : tree.holds p = true)
    (format : FileFormat) : Outcome tree p format (loadAt tree p format) := by
  unfold loadAt
  rcases read_of_holds held with ⟨content, read⟩ | read
  · rw [read]
    dsimp only
    unfold parse
    cases json : Jsonc.parse? content with
    | none => exact .invalid read fun v c same => by rw [json] at same; cases same
    | some v =>
      dsimp only
      unfold ofJson
      cases shape : check v with
      | ok c => exact .valid read json shape
      | error m =>
        refine .invalid read fun w c same shaped => ?_
        obtain rfl : v = w := Option.some.inj (json.symm.trans same)
        rw [shape] at shaped
        cases shaped
  · rw [read]
    exact .folder read

/-- A config that was loaded from a file has that file for its source. -/
theorem Outcome.source_ne_none {tree : FileTree} {p : Path} {format : FileFormat}
    {r : Except LoadError Loaded} (outcome : Outcome tree p format r) (l : Loaded)
    (loaded : r = .ok l) : l.source ≠ none := by
  subst loaded
  cases outcome with
  | valid _ _ _ => nofun

/-- **The nearest config file counts, and no other.** Of a folder and those above it, up to the stop
if it is one of them and else up to the root, the search takes the first in which there is something
to take. If there is none, the config is empty and has no source; otherwise the outcome is that of
the file taken, also where what it holds is refused. -/
theorem discoverFrom_nearest (tree : FileTree) (working : Path) (start : String)
    (name stop : Option String) :
    let first := working.resolve start
    let last := (stop.filter (!·.isEmpty)).map working.resolve
    let found := discoverFrom tree working start name stop
    ∃ n, LastFolder first last n ∧
      (∃ k ≤ n, Steps (inFolder? tree (candidates name)) last first k
        (find? tree first name last)) ∧
      ((∃ l, found = .ok l ∧ l.source = none) ↔ ∀ i ≤ n, TakesNone tree (first.above i) name) ∧
      ((∀ i ≤ n, TakesNone tree (first.above i) name) → found = .ok ⟨empty, none⟩) ∧
      ∀ i ≤ n, (∀ j < i, TakesNone tree (first.above j) name) → ∀ file format,
        Takes tree (first.above i) name file format →
          Outcome tree ((first.above i).join file) format found := by
  intro first last found
  obtain ⟨n, ends, folders, steps⟩ := exists_lastFolder (inFolder? tree (candidates name)) last
    first.names.length first rfl
  have found_some (p : Path) (format : FileFormat)
      (taken : find? tree first name last = some (p, format)) : found = loadAt tree p format := by
    show discover tree first name last = _
    rw [discover, taken]
  have found_none (left : find? tree first name last = none) : found = .ok ⟨empty, none⟩ := by
    show discover tree first name last = _
    rw [discover, left]
  have find_eq : find? tree first name last =
      ((List.range (n + 1)).map first.above).findSome? (inFolder? tree (candidates name)) :=
    congrArg (List.findSome? _) folders
  have nothing : find? tree first name last = none ↔
      ∀ i ≤ n, TakesNone tree (first.above i) name := by
    rw [find_eq, findSome?_range_eq_none_iff]
    simp only [inFolder?_eq_none_iff]
  refine ⟨n, ends, steps, ⟨?sourceless, ?nothing⟩, ?empty, ?nearest⟩
  case sourceless =>
    rintro ⟨l, loaded, source⟩
    rw [← nothing]
    by_contra something
    obtain ⟨⟨p, format⟩, taken⟩ := Option.ne_none_iff_exists'.1 something
    rw [found_some p format taken] at loaded
    rw [find_eq] at taken
    obtain ⟨folder, -, here⟩ := List.exists_of_findSome?_eq_some taken
    exact (outcome_loadAt (holds_of_inFolder? here) format).source_ne_none l loaded source
  case nothing =>
    intro takesNone
    exact ⟨⟨empty, none⟩, found_none (nothing.2 takesNone), rfl⟩
  case empty =>
    exact fun takesNone => found_none (nothing.2 takesNone)
  case nearest =>
    intro i within nearer file format takes
    have taken : find? tree first name last = some ((first.above i).join file, format) := by
      rw [find_eq]
      exact findSome?_range_eq_some _ within
        (fun j hj => (inFolder?_eq_none_iff tree _ name).2 (nearer j hj)) (inFolder?_of_takes takes)
    rw [found_some _ _ taken]
    exact outcome_loadAt (holds_of_inFolder? (inFolder?_of_takes takes)) format

/-- A file that is no JSON, found one level up from a folder named by a detour, with files of both
names above it and beside it. -/
theorem discoverFrom_nearest_malformed :
    let tree : FileTree :=
      ⟨[(⟨["w", "p", "reqchain.jsonc"]⟩, "["), (⟨["w", "p", "reqchain.json"]⟩, "\x7b\x7d"),
        (⟨["w", "reqchain.jsonc"]⟩, "\x7b\x7d")], [⟨["w", "p", "api"]⟩]⟩
    Takes tree ⟨["w", "p"]⟩ none "reqchain.jsonc" .jsonc ∧
      TakesNone tree ⟨["w", "p", "api"]⟩ none ∧
      ∃ reason, discoverFrom tree ⟨["w", "p"]⟩ "x/.././api" none (some "/w") =
        .error (.refused (.config "/w/p/reqchain.jsonc" reason)) := by
  intro tree
  have takes : Takes tree ⟨["w", "p"]⟩ none "reqchain.jsonc" .jsonc :=
    .jsonc (.inl rfl) (by decide +kernel)
  have takesNone : TakesNone tree ⟨["w", "p", "api"]⟩ none := by
    have first : tree.holdsNamed ⟨["w", "p", "api"]⟩ "reqchain.jsonc" = false := by decide +kernel
    have second : tree.holdsNamed ⟨["w", "p", "api"]⟩ "reqchain.json" = false := by decide +kernel
    intro file format takes
    cases takes with
    | jsonc _ held => rw [first] at held; cases held
    | json _ _ held => rw [second] at held; cases held
  have start : Path.resolve ⟨["w", "p"]⟩ "x/.././api" = ⟨["w", "p", "api"]⟩ := by decide +kernel
  have last : ((some "/w").filter (!·.isEmpty)).map (Path.resolve ⟨["w", "p"]⟩) =
      some ⟨["w"]⟩ := by decide +kernel
  obtain ⟨n, ends, -, -, -, nearest⟩ :=
    discoverFrom_nearest tree ⟨["w", "p"]⟩ "x/.././api" none (some "/w")
  rw [start] at nearest
  rw [start, last] at ends
  have reaches : 1 ≤ n := by
    cases n with
    | zero => exact absurd ends.ends (by decide)
    | succ n => omega
  have outcome := nearest 1 reaches (fun j hj => by
    obtain rfl : j = 0 := by omega
    exact takesNone) _ _ takes
  have content : tree.read (Path.join ⟨["w", "p"]⟩ "reqchain.jsonc") = .ok "[" := by rfl
  have malformed : Jsonc.parse? "[" = none := by rfl
  refine ⟨takes, takesNone, ?_⟩
  generalize discoverFrom tree ⟨["w", "p"]⟩ "x/.././api" none (some "/w") = found at outcome
  cases outcome with
  | valid held json _ =>
    obtain rfl := Except.ok.inj (content.symm.trans held)
    rw [malformed] at json
    cases json
  | @invalid _ reason _ _ => exact ⟨reason, rfl⟩
  | folder held => cases content.symm.trans held

end Config

end HttpScript
