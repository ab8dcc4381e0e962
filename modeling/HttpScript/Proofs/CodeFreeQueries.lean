import HttpScript.Proofs.PathReading
import HttpScript.Proofs.QueryFollow
import HttpScript.Query.Navigation

/-!
# Queries without code

A query whose steps run no code only reads. It leaves the tree and the patterns as they are,
whatever queries before it have done to them, and what it finds in a tree that no query has changed
does not depend on the patterns.

    isCodeFree query → (ask t ps query).tree = t ∧ (ask t ps query).patterns = ps
    isCodeFree query → ask (.fresh root) ps query and ask (.fresh root) ps' query find the same

Both are said at once of two memories that agree on the values that can be met (`Agree`): a memory
and itself on all values, and two memories without changed lists on the values of the body.
-/

namespace HttpScript.Query

/-! ## Steps that run code -/

/-- Whether a step begins like a filter or an expression. -/
def startsCode : List Char → Bool
  | '(' :: _ | '?' :: '(' :: _ => true
  | _ => false

/-- Whether a step runs no code: none of its alternatives begins like code. -/
def Step.isCodeFree : Step → Bool
  | .text s => (Text.splitBy (· == ',') s).all (!startsCode ·)
  | .value _ => false

/-- Whether no step of a query runs code. -/
def isCodeFree (query : String) : Bool := (stepsOf query).all (·.isCodeFree)

theorem startsCode_of_isCodeFree {s : List Char} (free : (Step.text s).isCodeFree = true) :
    startsCode s = false := by
  change (Text.splitBy (· == ',') s).all _ = true at free
  have front (c : Char) (other : (c == ',') = false) (r : List Char) :
      ∃ p ps, Text.splitBy (· == ',') r = p :: ps ∧
        Text.splitBy (· == ',') (c :: r) = (c :: p) :: ps :=
    @Text.splitBy_cons_of_not_sep (· == ',') c other r
  unfold startsCode
  split
  · next r =>
    obtain ⟨p, ps, -, cut⟩ := front '(' rfl r
    rw [cut] at free
    cases free
  · next r =>
    obtain ⟨p, ps, -, inner⟩ := front '(' rfl r
    obtain ⟨q, qs, shape, cut⟩ := front '?' rfl ('(' :: r)
    obtain ⟨rfl, -⟩ := List.cons.inj (inner.symm.trans shape)
    rw [cut] at free
    cases free
  · rfl

/-- The alternatives of a step that runs no code run none either. -/
theorem isCodeFree_of_mem_splitBy {s part : List Char} (free : (Step.text s).isCodeFree = true)
    (mem : part ∈ Text.splitBy (· == ',') s) : (Step.text part).isCodeFree = true := by
  have whole : Text.splitBy (· == ',') part = [part] :=
    Text.splitBy_of_free _ part (Text.not_sep_of_mem_splitBy _ s part mem)
  have plain := List.all_eq_true.1 free part mem
  show (Text.splitBy (· == ',') part).all _ = true
  rw [whole, List.all_cons, plain]
  rfl

/-! ## Computations that read the same in two memories -/

/-- The computation does the same in both memories and leaves them as they are, and what it gives
has a property. -/
def Reads {α : Type} (m m' : Memory) (P : α → Prop) (x : Eval α) : Prop :=
  ∃ r : Option α, x.run.run m = (r, m) ∧ x.run.run m' = (r, m') ∧ ∀ a, r = some a → P a

namespace Reads

variable {α β : Type} {m m' : Memory} {P : α → Prop} {Q : β → Prop}

theorem pure {a : α} (holds : P a) : Reads m m' P (Pure.pure a) :=
  ⟨some a, rfl, rfl, fun _ same => Option.some.inj same ▸ holds⟩

theorem failure : Reads m m' P failure := ⟨none, rfl, rfl, nofun⟩

theorem bind {x : Eval α} {f : α → Eval β} (first : Reads m m' P x)
    (rest : ∀ a, P a → Reads m m' Q (f a)) : Reads m m' Q (x >>= f) := by
  obtain ⟨r, here, there, holds⟩ := first
  unfold Reads
  rw [OptionT.run_bind, Option.elimM, StateT.run_bind, StateT.run_bind, here, there]
  cases r with
  | none => exact ⟨none, rfl, rfl, nofun⟩
  | some a => exact rest a (holds a rfl)

/-- What is read from the memory is the same in both as far as it is used. -/
theorem memory {f : Memory → Eval β} (same : f m' = f m) (rest : Reads m m' Q (f m)) :
    Reads m m' Q (Eval.memory >>= f) := by
  obtain ⟨r, here, there, holds⟩ := rest
  refine ⟨r, here, ?_, holds⟩
  show (f m').run.run m' = _
  rw [same, there]

theorem mapM {f : α → Eval β} {xs : List α} (each : ∀ x ∈ xs, Reads m m' Q (f x)) :
    Reads m m' (fun ys => ∀ y ∈ ys, Q y) (xs.mapM f) := by
  induction xs with
  | nil => exact pure fun y hy => nomatch hy
  | cons x xs ih =>
    rw [List.mapM_cons]
    refine bind (each x List.mem_cons_self) fun y hy => ?_
    refine bind (ih fun x hx => each x (List.mem_cons_of_mem _ hx)) fun ys hys => ?_
    exact pure (List.forall_mem_cons.2 ⟨hy, hys⟩)

end Reads

/-! ## Memories that agree -/

/-- Two memories tell the same about the values with a property, and what they tell has it too. -/
structure Agree (m m' : Memory) (Good : Value → Prop) : Prop where
  undefined : Good .undefined
  null : Good .null
  text : ∀ us, Good (.text us)
  changed : m'.changed.isEmpty = m.changed.isEmpty
  own : ∀ v, Good v → ∀ name, m'.own? v name = m.own? v name
  good_own : ∀ v, Good v → ∀ name x, m.own? v name = some x → Good x
  children : ∀ v, Good v → m'.children v = m.children v
  good_children : ∀ v, Good v → ∀ k x, (k, x) ∈ m.children v → Good k ∧ Good x
  items : ∀ v, Good v → m'.items? v = m.items? v
  good_items : ∀ v, Good v → ∀ xs, m.items? v = some xs → ∀ x ∈ xs, Good x
  number : ∀ d, Good (.number d)
  type : ∀ v, Good v → ∀ type, hasType? m' v type = hasType? m v type
  searched : ∀ v, Good v → isSearched m' v = isSearched m v

/-- What is listed below a value of the body stands under a text or a number. -/
theorem key_fromBody {m : Memory} {v k x : Value}
    (child : (k, x) ∈ m.children v) : k.FromBody := by
  unfold Memory.children at child
  split at child
  · obtain ⟨⟨⟨name, b⟩, i⟩, -, same⟩ := List.mem_map.1 child
    exact (Prod.mk.inj same).1 ▸ trivial
  · rcases List.mem_cons.1 child with same | rest
    · exact (Prod.mk.inj same).1 ▸ trivial
    · exact (Prod.mk.inj (List.mem_singleton.1 rest)).1 ▸ trivial
  · split at child
    · obtain ⟨⟨y, i⟩, -, same⟩ := List.mem_map.1 child
      exact (Prod.mk.inj same).1 ▸ trivial
    · split at child
      · obtain ⟨⟨name, y⟩, -, same⟩ := List.mem_map.1 child
        exact (Prod.mk.inj same).1 ▸ trivial
      · cases child

theorem Agree.self (m : Memory) : Agree m m fun _ => True where
  undefined := trivial
  null := trivial
  text _ := trivial
  changed := rfl
  own _ _ _ := rfl
  good_own _ _ _ _ _ := trivial
  children _ _ := rfl
  good_children _ _ _ _ _ := ⟨trivial, trivial⟩
  items _ _ := rfl
  good_items _ _ _ _ _ _ := trivial
  number _ := trivial
  type _ _ _ := rfl
  searched _ _ := rfl

/-- A value of the body can be told from the body alone, as long as no list of it has changed. -/
theorem Agree.fresh {m m' : Memory} (here : m.changed = []) (there : m'.changed = []) :
    Agree m m' Value.FromBody := by
  have items {v : Value} (body : v.FromBody) : m'.items? v = m.items? v := by
    cases v with
    | made id => exact body.elim
    | node way tree =>
      cases tree with
      | list xs => rw [items?_fresh here, items?_fresh there]
      | _ => rfl
    | _ => rfl
  have type {v : Value} (body : v.FromBody) : m'.typeName v = m.typeName v := by
    cases v with
    | made id => exact body.elim
    | _ => rfl
  have list {v : Value} (body : v.FromBody) : m'.isList v = m.isList v := by
    cases v with
    | made id => exact body.elim
    | node way tree => cases tree <;> rfl
    | _ => rfl
  exact {
    undefined := trivial
    null := trivial
    text := fun _ => trivial
    number := fun _ => trivial
    changed := by rw [here, there]
    own := fun v body name => by
      cases v with
      | made id => exact body.elim
      | pattern code position => exact body.elim
      | node way tree =>
        cases tree with
        | list xs => simp only [Memory.own?, here, there]
        | number n => cases n <;> rfl
        | _ => rfl
      | _ => rfl
    good_own := fun v body name x own => (own?_smaller here body own).1
    children := fun v body => by
      cases v with
      | made id => exact body.elim
      | node way tree =>
        cases tree with
        | list xs => simp only [Memory.children, items?_fresh here, items?_fresh there]
        | number n => cases n <;> rfl
        | _ => rfl
      | _ => rfl
    good_children := fun v body k x child => ⟨key_fromBody child,
      (children_smaller here body child).1⟩
    items := fun v body => items body
    good_items := fun v body xs held x mem => by
      cases v with
      | made id => exact body.elim
      | node way tree =>
        cases tree with
        | list ys =>
          obtain rfl := Option.some.inj ((items?_fresh here way ys).symm.trans held)
          obtain ⟨⟨b, i⟩, -, rfl⟩ := List.mem_map.1 mem
          exact fromBody_ofBody _ b
        | _ => cases held
      | _ => cases held
    type := fun v body type_ => by
      unfold hasType?
      rw [type body, list body]
    searched := fun v body => by
      unfold isSearched
      rw [type body] }

section Follow

variable {m m' : Memory} {Good : Value → Prop}

/-- What was found has the property, and no step that is left runs code. -/
def Found.Sound (Good : Value → Prop) : Found → Prop
  | .value v => Good v
  | .up rest _ => ∀ s ∈ rest, s.isCodeFree = true
  | .nothing => True

def Outcome.Sound (Good : Value → Prop) (o : Outcome) : Prop := ∀ f ∈ o.found, f.Sound Good

theorem reads_current (agree : Agree m m' Good) {v x : Value} (key : Value) (here : Good v)
    (child : Good x) : Reads m m' Good (current v key x) := by
  unfold current
  refine .memory ?same ?_
  case same =>
    simp only [agree.changed, agree.own v here]
  split
  · exact .pure child
  · split
    · split
      · refine .pure ?_
        cases own : m.own? v _ with
        | none => exact agree.undefined
        | some y => exact agree.good_own v here _ y own
      · exact .pure child
    · exact .pure child

theorem lt_of_mem_sliceIndexes {length i : Nat} {slice : Option Int × Option Int × Option Nat}
    (mem : i ∈ sliceIndexes length slice) : i < length := by
  obtain ⟨start, stop, step⟩ := slice
  have below := List.mem_range.1 (List.mem_filter.1 mem).1
  refine below.trans_le ?_
  dsimp only
  split <;> omega

section Branches

variable {next : Next} {p : Place} {rest : List Step}

/-- Steps that are left are followed alike from every place. -/
def Alike (m m' : Memory) (Good : Value → Prop) (next : Next) : Prop :=
  ∀ (ss : List Step) (p : Place) (literal : Bool), (∀ s ∈ ss, s.isCodeFree = true) → Good p.value →
    Good p.key → Reads m m' (Outcome.Sound Good) (next ss p literal)

variable (agree : Agree m m' Good) (alike : Alike m m' Good next)
  (free : ∀ s ∈ rest, s.isCodeFree = true) (value : Good p.value) (key : Good p.key)

include alike value key

theorem reads_settle {found : List Found} (sound : ∀ f ∈ found, f.Sound Good) :
    Reads m m' (Outcome.Sound Good) (settle next p found) := by
  unfold settle
  refine .bind (.mapM (Q := fun fs => ∀ f ∈ fs, f.Sound Good) fun f hf => ?_) fun parts hparts => ?_
  · cases f with
    | value v => exact .pure fun g hg => List.mem_singleton.1 hg ▸ sound _ hf
    | nothing => exact .pure fun g hg => List.mem_singleton.1 hg ▸ trivial
    | up rest path =>
      refine .bind (alike rest _ false (sound _ hf) value key) fun o ho => ?_
      split
      · exact .pure fun g hg => List.mem_singleton.1 hg ▸ trivial
      · exact .pure ho
  · refine .pure fun f hf => ?_
    obtain ⟨fs, hfs, hf⟩ := List.mem_flatten.1 hf
    exact hparts fs hfs f hf

theorem reads_one {branch : Eval Outcome} (reads : Reads m m' (Outcome.Sound Good) branch) :
    Reads m m' (Outcome.Sound Good) (one next p branch) :=
  .bind reads fun _ sound => reads_settle alike value key sound

theorem reads_each {α : Type} {xs : List α} {branch : α → Eval (List Found)}
    (reads : ∀ x ∈ xs, Reads m m' (fun fs => ∀ f ∈ fs, f.Sound Good) (branch x)) :
    Reads m m' (Outcome.Sound Good) (each next p xs branch) := by
  refine .bind (.mapM reads) fun fss hfss => reads_settle alike value key fun f hf => ?_
  obtain ⟨fs, hfs, hf⟩ := List.mem_flatten.1 hf
  exact hfss fs hfs f hf

omit alike value key in
theorem reads_found {branch : Eval Outcome} (reads : Reads m m' (Outcome.Sound Good) branch) :
    Reads m m' (fun fs => ∀ f ∈ fs, f.Sound Good) (do pure (← branch).found) :=
  .bind reads fun _ sound => .pure sound

include agree free

theorem reads_followChildren :
    Reads m m' (Outcome.Sound Good) (followChildren next p rest m) := by
  refine reads_each alike value key fun (k, x) mem => ?_
  obtain ⟨goodKey, good⟩ := agree.good_children _ value k x mem
  exact .bind (reads_current agree k value good) fun y hy =>
    reads_found (alike rest _ true free hy goodKey)

theorem reads_followBelow {step : Step} (first : step.isCodeFree = true) :
    Reads m m' (Outcome.Sound Good) (followBelow next p rest m step) := by
  have all : ∀ s ∈ step :: rest, s.isCodeFree = true := List.forall_mem_cons.2 ⟨first, free⟩
  refine .bind (alike rest p false free value key) fun here hhere => ?_
  refine .bind (.mapM (Q := fun fs => ∀ f ∈ fs, f.Sound Good) fun (k, x) mem => ?_)
    fun below hbelow => reads_settle alike value key fun f hf => ?_
  · obtain ⟨goodKey, good⟩ := agree.good_children _ value k x mem
    refine .bind (reads_current agree k value good) fun y hy => ?_
    refine .memory (by rw [agree.searched y hy]) ?_
    split
    · exact reads_found (alike _ _ false all hy goodKey)
    · exact .pure fun f hf => nomatch hf
  · rcases List.mem_append.1 hf with hf | hf
    · exact hhere f hf
    · obtain ⟨fs, hfs, hf⟩ := List.mem_flatten.1 hf
      exact hbelow fs hfs f hf

theorem reads_followSlice (slice : Option Int × Option Int × Option Nat) :
    Reads m m' (Outcome.Sound Good) (followSlice next p rest m slice) := by
  unfold followSlice
  split
  · next items held =>
    refine reads_each alike value key fun i mem => .memory (by rw [agree.items _ value]) ?_
    have inside := lt_of_mem_sliceIndexes mem
    rw [held, Option.bind_some, List.getElem?_eq_getElem inside]
    have good := agree.good_items _ value items held _ (List.getElem_mem inside)
    exact reads_found (reads_one alike value key (alike rest _ false free good (agree.number _)))
  · exact reads_settle alike value key fun f hf => List.mem_singleton.1 hf ▸ trivial

omit alike key free in
theorem good_own_place {name : Wide} {x : Value} (own : p.own? m name = some x) : Good x := by
  unfold Place.own? at own
  split at own
  · exact agree.good_own _ value name x own
  · cases own

theorem reads_followNames {s : List Char} (first : (Step.text s).isCodeFree = true)
    {own : Option Value} (good : ∀ x, own = some x → Good x) :
    Reads m m' (Outcome.Sound Good) (followNames next p rest m s own) := by
  unfold followNames
  dsimp only
  split
  · next n x escaped =>
    have good : Good x := by
      split at escaped
      · obtain ⟨y, own, same⟩ := Option.map_eq_some_iff.1 escaped
        obtain ⟨-, rfl⟩ := Prod.mk.inj same
        exact good_own_place agree value own
      · cases escaped
    exact reads_one alike value key (alike rest _ true free good (agree.text _))
  · split
    · refine reads_each alike value key fun part mem => ?_
      have part_ := isCodeFree_of_mem_splitBy first mem
      exact reads_found (alike _ p false (List.forall_mem_cons.2 ⟨part_, free⟩) value key)
    · split
      · next x =>
        exact reads_one alike value key (alike rest _ true free (good x rfl) (agree.text _))
      · exact .pure fun f hf => nomatch hf

theorem reads_followText (root : Value) {s : List Char}
    (first : (Step.text s).isCodeFree = true) {own : Option Value}
    (good : ∀ x, own = some x → Good x) :
    Reads m m' (Outcome.Sound Good) (followText next p rest m root s own) := by
  have plain := startsCode_of_isCodeFree first
  unfold followText
  dsimp only
  by_cases all : (String.ofList s == "*") = true
  · rw [if_pos all]
    exact reads_followChildren agree alike free value key
  rw [if_neg all]
  by_cases below : (String.ofList s == "..") = true
  · rw [if_pos below]
    exact reads_followBelow agree alike free value key first
  rw [if_neg below]
  by_cases up : (String.ofList s == "^") = true
  · rw [if_pos up]
    exact .pure fun f hf => List.mem_singleton.1 hf ▸ free
  rw [if_neg up]
  by_cases name : (String.ofList s == "~") = true
  · rw [if_pos name]
    exact .pure fun f hf => List.mem_singleton.1 hf ▸ key
  rw [if_neg name]
  by_cases dollar : (String.ofList s == "$") = true
  · rw [if_pos dollar]
    exact reads_one alike value key (alike rest _ false free value agree.null)
  rw [if_neg dollar]
  split
  · exact reads_followSlice agree alike free value key _
  · split
    · cases plain
    · cases plain
    · unfold followType
      split
      · exact .failure
      · exact .pure fun f hf => List.mem_singleton.1 hf ▸ value
      · exact .pure fun f hf => nomatch hf
    · exact reads_followNames agree alike free value key first good

omit alike key free in
theorem own?_congr (name : Wide) : p.own? m' name = p.own? m name := by
  unfold Place.own?
  rw [agree.own _ value]

omit alike key free in
theorem followText_congr (root : Value) (s : List Char) (own : Option Value) :
    followText next p rest m' root s own = followText next p rest m root s own := by
  simp only [followText, followChildren, followBelow, followSlice, followFilter, followType,
    followNames, agree.children _ value, agree.items _ value, agree.type _ value,
    own?_congr agree value]

end Branches

/-- Steps that run no code do the same in both memories, and leave them as they are. -/
theorem alike_follow (agree : Agree m m' Good) (root : Value) (fuel : Nat) :
    Alike m m' Good (follow root fuel) := by
  induction fuel with
  | zero => exact fun _ _ _ _ _ _ => .failure
  | succ fuel ih =>
    intro ss p literal free value key
    cases ss with
    | nil => exact .pure fun f hf => List.mem_singleton.1 hf ▸ value
    | cons step rest =>
      obtain ⟨first, others⟩ := List.forall_mem_cons.1 free
      cases step with
      | value v => cases first
      | text s =>
        rw [follow]
        refine .memory ?same ?_
        case same =>
          simp only [own?_congr agree value, followText_congr agree value]
        have text {own : Option Value} (good : ∀ x, own = some x → Good x) :=
          reads_followText agree ih others value key root first good
        dsimp only
        split
        · next x found =>
          exact reads_one ih value key
            (ih rest _ false others (good_own_place agree value found) (agree.text _))
        · exact text fun _ absent => absurd absent (Option.some_ne_none _).symm
        · exact text fun x found => good_own_place agree value found

/-- A value that was found first has the property. -/
theorem good_of_first? {o : Outcome} (sound : o.Sound Good) {v : Value}
    (first : o.first? = some v) : Good v := by
  cases o with
  | single f => cases first
  | many fs =>
    obtain ⟨f, mem, found⟩ := List.exists_of_findSome?_eq_some first
    cases f with
    | value w => exact Option.some.inj found ▸ sound _ mem
    | _ => cases found

end Follow

/-! ## Queries -/

section Queries

variable {m m' : Memory} {Good : Value → Prop} {t : Tree} {ps ps' : Patterns} {query : String}

/-- A query that runs no code finds the same with either patterns and leaves tree and patterns as
they are, as far as the two memories agree on what can be met. -/
theorem alike_ask (agree : Agree (t.memory ps) (t.memory ps') Good)
    (value : Good (.ofBody [] t.root))
    (node : ∀ v, Good v → (t.memory ps').node? v = (t.memory ps).node? v)
    (free : isCodeFree query = true) :
    ∃ node, ask t ps query = ⟨node, t, ps⟩ ∧ ask t ps' query = ⟨node, t, ps'⟩ := by
  unfold ask
  dsimp only
  split
  · exact ⟨none, rfl, rfl⟩
  · obtain ⟨r, here, there, sound⟩ := alike_follow agree (.ofBody [] t.root)
      (t.fuel (stepsOf query)) (stepsOf query) (.root (.ofBody [] t.root)) false
      (List.all_eq_true.1 free) value agree.null
    have same : (r.bind (·.first?)).bind (t.memory ps').node? =
        (r.bind (·.first?)).bind (t.memory ps).node? := by
      refine Option.bind_congr fun v hv => node v ?_
      obtain ⟨o, ho, found⟩ := Option.bind_eq_some_iff.1 hv
      exact good_of_first? (sound o ho) found
    refine ⟨(r.bind (·.first?)).bind (t.memory ps).node?, ?_, ?_⟩
    · rw [show (follow _ _ _ _ _).run (t.memory ps) = (r, t.memory ps) from here]
      rfl
    · rw [show (follow _ _ _ _ _).run (t.memory ps') = (r, t.memory ps') from there]
      exact congrArg (Answer.mk · t ps') same

/-- A query that runs no code leaves the tree and the patterns as they are. -/
theorem ask_of_isCodeFree (t : Tree) (ps : Patterns) (free : isCodeFree query = true) :
    ask t ps query = ⟨(ask t ps query).node, t, ps⟩ := by
  obtain ⟨node, here, -⟩ := alike_ask (.self (t.memory ps)) trivial (fun _ _ => rfl) free
  rw [here]

/-- A value that is neither a node nor an object needs no memory to be told. -/
theorem toBody_leaf (m m' : Memory) (fuel : Nat) {v : Value} (body : v.FromBody)
    (leaf : ∀ way tree, v ≠ .node way tree) : m'.toBody fuel v = m.toBody fuel v := by
  cases fuel with
  | zero => rfl
  | succ fuel =>
    cases v with
    | node way tree => exact absurd rfl (leaf way tree)
    | made id => exact body.elim
    | pattern code position => exact body.elim
    | _ => rfl

theorem node?_fresh {m m' : Memory} (here : m.changed = []) (there : m'.changed = []) {v : Value}
    (body : v.FromBody) : m'.node? v = m.node? v := by
  cases v with
  | made id => exact body.elim
  | pattern code position => exact body.elim
  | node way tree =>
    unfold Memory.node?
    dsimp only
    rw [here, there, if_pos List.isEmpty_nil, if_pos List.isEmpty_nil]
  | undefined => rfl
  | number d => rfl
  | _ =>
    unfold Memory.node?
    rw [toBody_leaf m m' 10000 body fun _ _ => nofun]
    rfl

/-- What a query that runs no code finds in a tree that no query has changed does not depend on the
patterns. -/
theorem node_of_isCodeFree (fresh : t.changed = []) (ps ps' : Patterns)
    (free : isCodeFree query = true) : (ask t ps' query).node = (ask t ps query).node := by
  have agree : Agree (t.memory ps) (t.memory ps') Value.FromBody := .fresh fresh fresh
  obtain ⟨node, here, there⟩ := alike_ask agree (fromBody_ofBody [] t.root)
    (fun _ body => node?_fresh fresh fresh body) free
  rw [here, there]

end Queries

end HttpScript.Query
