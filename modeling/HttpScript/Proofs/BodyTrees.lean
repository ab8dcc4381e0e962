import HttpScript.Body
import HttpScript.Proofs.RecordEntries
import Mathlib.Data.List.Induction

/-!
# Trees of bodies

A body is read twice over. Its source tree has every member and every literal as they were spelled;
the tree that is kept has one member of each name. Both ways from the one to the other, the one that
keeps literals and the one that takes doubles, lead each node to a node in the same place, where the
place of a member is that of the last one with its name:

    conv t = some v → t.node? ss = some x → ∃ y, ss.foldlM step? v = some y ∧ conv x = some y
                                                                     (Conversion.node)

Literals are kept unless an object repeats a name with another value (`keepLiterals?_eq_none_iff`).
-/

namespace HttpScript

namespace Record

variable {α : Type}

theorem lookup_map {β κ : Type} [DecidableEq κ] (f : α → β) (es : List (κ × α)) (m : κ) :
    List.lookup m (es.map fun e => (e.1, f e.2)) = (List.lookup m es).map f := by
  induction es with
  | nil => rfl
  | cons e es ih =>
    rw [List.map_cons, List.lookup_cons, List.lookup_cons, ih]
    cases m == e.1 <;> rfl

theorem lastWritten?_map {β κ : Type} [DecidableEq κ] (f : α → β) (es : List (κ × α)) (m : κ) :
    lastWritten? m (es.map fun e => (e.1, f e.2)) = (lastWritten? m es).map f := by
  unfold lastWritten?
  rw [← List.map_reverse, lookup_map]

/-- Strings keep their entries when they become texts of units. -/
theorem lastWritten?_ofString (es : List (String × α)) (m : String) :
    lastWritten? (.ofString m) (es.map fun e => (Wide.ofString e.1, e.2)) =
      lastWritten? m es := by
  induction es with
  | nil => rfl
  | cons e es ih =>
    rw [List.map_cons, lastWritten?_cons, lastWritten?_cons, ih]
    simp only [Wide.ofString_inj]

end Record

/-! ## Induction -/

/-- What holds of a tree if it holds of its items and of the values of its members holds of every
tree. -/
@[elab_as_elim]
theorem Json.inner_induction {ν : Type} {motive : Json ν → Prop} (null : motive .null)
    (bool : ∀ b, motive (.bool b)) (number : ∀ n, motive (.number n)) (text : ∀ s, motive (.text s))
    (list : ∀ xs, (∀ x ∈ xs, motive x) → motive (.list xs))
    (object : ∀ ms, (∀ e ∈ ms, motive e.2) → motive (.object ms)) (t : Json ν) : motive t := by
  match t with
  | .null => exact null
  | .bool b => exact bool b
  | .number n => exact number n
  | .text s => exact text s
  | .list xs =>
    exact list xs fun x mem => inner_induction null bool number text list object x
  | .object ms =>
    exact object ms fun e mem => inner_induction null bool number text list object e.2
termination_by sizeOf t
decreasing_by
  · have := List.sizeOf_lt_of_mem mem
    simp
    omega
  · have := List.sizeOf_lt_of_mem mem
    have : sizeOf e = 1 + sizeOf e.1 + sizeOf e.2 := rfl
    simp
    omega

/-! ## Steps -/

namespace BodyPath

/-- A step through a tree: to the member of a name, or to the item at an index. -/
inductive Step where
  | member (name : Wide)
  | item (index : Nat)
  deriving DecidableEq, Repr

/-- The steps of a segment. -/
def segmentSteps (g : Segment) : List Step :=
  (g.property.map fun name => Step.member name).toList ++ g.indexes.map Step.item

/-- The steps of a path. -/
def steps (p : BodyPath) : List Step := p.flatMap segmentSteps

section Follow

variable {α : Type} (member? : α → Wide → Option α) (item? : α → Nat → Option α)

/-- The node that a step leads to, given the members and the items of nodes. -/
def stepIn? (v : α) : Step → Option α
  | .member name => member? v name
  | .item index => item? v index

theorem followItems?_eq_foldlM (v : α) (is : List Nat) :
    followItems? item? v is = (is.map Step.item).foldlM (stepIn? member? item?) v := by
  induction is generalizing v with
  | nil => rfl
  | cons i is ih =>
    rw [followItems?, List.map_cons, List.foldlM_cons]
    show (item? v i).bind _ = (item? v i).bind _
    congr 1
    funext w
    exact ih w

theorem followSegment?_eq_foldlM (v : α) (g : Segment) :
    followSegment? member? item? v g = (segmentSteps g).foldlM (stepIn? member? item?) v := by
  unfold followSegment? segmentSteps
  cases g.property with
  | none => exact followItems?_eq_foldlM member? item? v g.indexes
  | some name =>
    show (member? v name).bind _ = (member? v name).bind _
    congr 1
    funext w
    exact followItems?_eq_foldlM member? item? w g.indexes

/-- A path is followed step by step. -/
theorem follow?_eq_foldlM (v : α) (p : BodyPath) :
    follow? member? item? v p = (steps p).foldlM (stepIn? member? item?) v := by
  induction p generalizing v with
  | nil => rfl
  | cons g p ih =>
    rw [follow?, steps, List.flatMap_cons, List.foldlM_append, ← followSegment?_eq_foldlM]
    show _ = (followSegment? member? item? v g).bind _
    congr 1
    funext w
    exact ih w

end Follow

/-- The node of a body that a step leads to, where no object is taken for a number. -/
abbrev step? : Body → Step → Option Body := stepIn? (member? .byClass) item?

end BodyPath

namespace Json

open BodyPath (Step step?)
open Record (lastWritten?)

/-- The node of a source tree that a step leads to: of members with one name, the last one. -/
def child? : Json String → Step → Option (Json String)
  | object ms, .member name => lastWritten? name ms
  | list xs, .item index => xs[index]?
  | _, _ => none

/-- The node of a source tree that steps lead to. -/
def node? (t : Json String) (ss : List Step) : Option (Json String) := ss.foldlM child? t

theorem node?_cons (t : Json String) (s : Step) (ss : List Step) :
    t.node? (s :: ss) = (t.child? s).bind (·.node? ss) := List.foldlM_cons

/-! ## Conversions -/

/-- A conversion of source trees that goes node by node. -/
structure Conversion (conv : Json String → Option Body) : Prop where
  list : ∀ xs v, conv (.list xs) = some v → ∃ ys, v = .list ys ∧
    ∀ (i : Nat) x, xs[i]? = some x → ∃ y, ys[i]? = some y ∧ conv x = some y
  object : ∀ ms v, conv (.object ms) = some v → ∃ r, v = .object r ∧
    ∀ k x, lastWritten? k ms = some x → ∃ y, Record.get? r k = some y ∧ conv x = some y

/-- Steps lead to the conversion of the node that they lead to in the source. -/
theorem Conversion.node {conv : Json String → Option Body} (h : Conversion conv) (ss : List Step)
    (t x : Json String) (v : Body) (read : conv t = some v) (reached : t.node? ss = some x) :
    ∃ y, ss.foldlM step? v = some y ∧ conv x = some y := by
  induction ss generalizing t v with
  | nil =>
    obtain rfl : t = x := Option.some.inj reached
    exact ⟨v, rfl, read⟩
  | cons s ss ih =>
    rw [node?_cons] at reached
    obtain ⟨t', first, rest⟩ := Option.bind_eq_some_iff.mp reached
    obtain ⟨v', step, read'⟩ : ∃ v', step? v s = some v' ∧ conv t' = some v' := by
      unfold child? at first
      split at first
      · obtain ⟨r, rfl, members⟩ := h.object _ v read
        exact members _ t' first
      · obtain ⟨ys, rfl, items⟩ := h.list _ v read
        exact items _ t' first
      · cases first
    obtain ⟨y, hy, conv_y⟩ := ih t' v' read' rest
    refine ⟨y, ?_, conv_y⟩
    rw [List.foldlM_cons, step]
    exact hy

/-! ### Doubles -/

theorem toDoublesItems_eq_map (xs : List (Json String)) : toDoublesItems xs = xs.map toDoubles := by
  induction xs with
  | nil => rfl
  | cons x r ih => rw [toDoublesItems, ih, List.map_cons]

theorem toDoublesMembers_eq_map (ms : List (Wide × Json String)) :
    toDoublesMembers ms = ms.map fun e => (e.1, toDoubles e.2) := by
  induction ms with
  | nil => rfl
  | cons e r ih => rw [toDoublesMembers, ih, List.map_cons]

theorem ofDoublesItems_eq_map (xs : List (Json Binary64)) :
    ofDoublesItems xs = xs.map ofDoubles := by
  induction xs with
  | nil => rfl
  | cons x r ih => rw [ofDoublesItems, ih, List.map_cons]

theorem ofDoublesMembers_eq_map (ms : List (Wide × Json Binary64)) :
    ofDoublesMembers ms = ms.map fun e => (e.1, ofDoubles e.2) := by
  induction ms with
  | nil => rfl
  | cons e r ih => rw [ofDoublesMembers, ih, List.map_cons]

theorem conversion_doubles : Conversion fun t => some (ofDoubles (toDoubles t)) where
  list := by
    intro xs v read
    obtain rfl := Option.some.inj read
    refine ⟨xs.map fun x => ofDoubles (toDoubles x), ?_, ?_⟩
    · rw [toDoubles, ofDoubles, toDoublesItems_eq_map, ofDoublesItems_eq_map, List.map_map]
      rfl
    · intro i x hx
      exact ⟨_, by rw [List.getElem?_map, hx]; rfl, rfl⟩
  object := by
    intro ms v read
    obtain rfl := Option.some.inj read
    refine ⟨_, by rw [toDoubles, ofDoubles], ?_⟩
    intro k x hx
    refine ⟨_, ?_, rfl⟩
    have found : Record.get? (Record.ofList (toDoublesMembers ms)) k = some (toDoubles x) := by
      rw [Record.get?_ofList, toDoublesMembers_eq_map, Record.lastWritten?_map, hx]
      rfl
    rw [ofDoublesMembers_eq_map, Record.get?, Record.lookup_map, ← Record.get?, found]
    rfl

/-! ### Literals -/

theorem keepLiteralsItems?_getElem {xs : List (Json String)} {ys : List Body}
    (read : keepLiteralsItems? xs = some ys) (i : Nat) (x : Json String) (hx : xs[i]? = some x) :
    ∃ y, ys[i]? = some y ∧ keepLiterals? x = some y := by
  induction xs generalizing ys i with
  | nil => cases hx
  | cons z r ih =>
    rw [keepLiteralsItems?] at read
    split at read
    · next y hy =>
      obtain ⟨ys, rest, rfl⟩ := Option.map_eq_some_iff.mp read
      cases i with
      | zero =>
        obtain rfl : z = x := Option.some.inj hx
        exact ⟨y, rfl, hy⟩
      | succ i => exact ih rest i hx
    · cases read

theorem put_of_addMember? {r r' : Record Body Wide} {n : Wide} {v : Body}
    (added : addMember? r n v = some r') : r.put n v = r' := by
  unfold addMember? at added
  split at added
  · split at added
    · exact Option.some.inj added
    · cases added
  · exact Option.some.inj added

theorem get?_addMember? {r r' : Record Body Wide} {n : Wide} {v : Body}
    (added : addMember? r n v = some r') (m : Wide) :
    r'.get? m = if n = m then some v else r.get? m := by
  obtain rfl := put_of_addMember? added
  exact Record.get?_put r n v m

/-- An object holds the value of the last member with a name. -/
theorem get?_keepLiteralsMembers? {done r : Record Body Wide} {ms : List (Wide × Json String)}
    (read : keepLiteralsMembers? done ms = some r) (k : Wide) :
    match lastWritten? k ms with
    | some x => ∃ y, r.get? k = some y ∧ keepLiterals? x = some y
    | none => r.get? k = done.get? k := by
  induction ms generalizing done with
  | nil =>
    obtain rfl := Option.some.inj read
    rfl
  | cons e ms ih =>
    rw [keepLiteralsMembers?] at read
    split at read
    · next y hy =>
      split at read
      · next done' added =>
        have later := ih read
        rw [Record.lastWritten?_cons]
        cases hl : lastWritten? k ms with
        | some x => simpa [hl] using later
        | none =>
          simp only [hl, get?_addMember? added k] at later
          by_cases hk : e.1 = k
          · simpa [hk, hy] using later
          · simpa [hk] using later
      · cases read
    · cases read

theorem conversion_keepLiterals? : Conversion keepLiterals? where
  list := by
    intro xs v read
    rw [keepLiterals?] at read
    obtain ⟨ys, items, rfl⟩ := Option.map_eq_some_iff.mp read
    exact ⟨ys, rfl, keepLiteralsItems?_getElem items⟩
  object := by
    intro ms v read
    rw [keepLiterals?] at read
    obtain ⟨r, members, rfl⟩ := Option.map_eq_some_iff.mp read
    refine ⟨r, rfl, fun k x hx => ?_⟩
    have held := get?_keepLiteralsMembers? members k
    rwa [hx] at held

/-! ## Conflicts -/

/-- Whether an object somewhere in a source tree repeats a name with another value. Each value is
compared with that of the member before it that has the name. -/
inductive Conflicts : Json String → Prop where
  | item {xs : List (Json String)} {x : Json String} (mem : x ∈ xs) (inner : Conflicts x) :
      Conflicts (.list xs)
  | member {ms : List (Wide × Json String)} {e : Wide × Json String} (mem : e ∈ ms)
      (inner : Conflicts e.2) : Conflicts (.object ms)
  | repeated {before between after : List (Wide × Json String)} {k : Wide}
      {x y : Json String} {v w : Body} (apart : ∀ e ∈ between, e.1 ≠ k)
      (first : keepLiterals? x = some v) (second : keepLiterals? y = some w)
      (other : sameTree w v = false) :
      Conflicts (.object (before ++ (k, x) :: between ++ (k, y) :: after))

theorem keepLiteralsItems?_eq_none_iff (xs : List (Json String)) :
    keepLiteralsItems? xs = none ↔ ∃ x ∈ xs, keepLiterals? x = none := by
  induction xs with
  | nil => simp [keepLiteralsItems?]
  | cons x r ih =>
    rw [keepLiteralsItems?]
    cases hx : keepLiterals? x with
    | none => simp [hx]
    | some y => simp [hx, ih]

theorem keepLiteralsMembers?_append (done : Record Body Wide) (ms ns : List (Wide × Json String)) :
    keepLiteralsMembers? done (ms ++ ns) =
      (keepLiteralsMembers? done ms).bind (keepLiteralsMembers? · ns) := by
  induction ms generalizing done with
  | nil => rfl
  | cons e ms ih =>
    rw [List.cons_append, keepLiteralsMembers?, keepLiteralsMembers?]
    cases keepLiterals? e.2 with
    | none => rfl
    | some v =>
      dsimp only
      cases addMember? done e.1 v with
      | none => rfl
      | some done' => exact ih done'

theorem keepLiteralsMembers?_cons_eq_none_iff (done : Record Body Wide) (k : Wide) (y : Json String)
    (ms : List (Wide × Json String)) (w : Body) (hw : keepLiterals? y = some w) :
    keepLiteralsMembers? done ((k, y) :: ms) = none ↔
      (∃ v, done.get? k = some v ∧ sameTree w v = false) ∨
      ∃ done', addMember? done k w = some done' ∧ keepLiteralsMembers? done' ms = none := by
  rw [keepLiteralsMembers?, hw]
  unfold addMember?
  cases hk : done.get? k with
  | none => simp
  | some v => cases hs : sameTree w v <;> simp [hs]

/-- The last member of a name, with what stands before and behind it. -/
theorem exists_of_lastWritten? {ms : List (Wide × Json String)} {k : Wide} {x : Json String}
    (h : lastWritten? k ms = some x) :
    ∃ before after, ms = before ++ (k, x) :: after ∧ ∀ e ∈ after, e.1 ≠ k := by
  obtain ⟨after, before, shape, apart⟩ := List.lookup_eq_some_iff.1 h
  refine ⟨before.reverse, after.reverse, ?_, ?_⟩
  · rw [← List.reverse_reverse ms, shape]
    simp
  · intro e he same
    have := apart e (List.mem_reverse.mp he)
    simp [same] at this

theorem lastWritten?_of_apart (before after : List (Wide × Json String)) (k : Wide)
    (x : Json String) (apart : ∀ e ∈ after, e.1 ≠ k) :
    lastWritten? k (before ++ (k, x) :: after) = some x := by
  refine List.lookup_eq_some_iff.2 ⟨after.reverse, before.reverse, by simp, ?_⟩
  intro e he
  rw [bne_iff_ne]
  exact (apart e (List.mem_reverse.mp he)).symm

theorem Conflicts.concat {ms : List (Wide × Json String)} (h : Conflicts (.object ms))
    (e : Wide × Json String) : Conflicts (.object (ms ++ [e])) := by
  cases h with
  | member mem inner => exact .member (List.mem_append_left _ mem) inner
  | repeated apart first second other =>
    rw [List.append_assoc, List.cons_append]
    exact .repeated apart first second other

/-- Where the members of an object cannot be kept, one of them has a conflict inside or is in
conflict with one before it. -/
theorem conflicts_of_members (ms : List (Wide × Json String))
    (inner : ∀ e ∈ ms, keepLiterals? e.2 = none → Conflicts e.2)
    (lost : keepLiteralsMembers? [] ms = none) : Conflicts (.object ms) := by
  induction ms using List.reverseRecOn with
  | nil => cases lost
  | append_singleton ms e ih =>
    have before := ih fun e he => inner e (List.mem_append_left _ he)
    rw [keepLiteralsMembers?_append] at lost
    cases hd : keepLiteralsMembers? [] ms with
    | none => exact (before hd).concat e
    | some done =>
      rw [hd, Option.bind_some] at lost
      cases hw : keepLiterals? e.2 with
      | none =>
        have mem : e ∈ ms ++ [e] := by simp
        exact .member mem (inner e mem hw)
      | some w =>
        rcases (keepLiteralsMembers?_cons_eq_none_iff done e.1 e.2 [] w hw).mp lost with
          ⟨v, hv, other⟩ | ⟨done', -, nil⟩
        · have held := get?_keepLiteralsMembers? hd e.1
          cases hl : lastWritten? e.1 ms with
          | none =>
            simp only [hl, hv] at held
            cases held
          | some x =>
            simp only [hl, hv, Option.some.injEq] at held
            obtain ⟨_, rfl, hx⟩ := held
            obtain ⟨before, after, rfl, apart⟩ := exists_of_lastWritten? hl
            exact .repeated apart hx hw other
        · cases nil

theorem conflicts_of_keepLiterals? (t : Json String) (lost : keepLiterals? t = none) :
    Conflicts t := by
  induction t using inner_induction with
  | list xs ih =>
    rw [keepLiterals?, Option.map_eq_none_iff, keepLiteralsItems?_eq_none_iff] at lost
    obtain ⟨x, hx, inner⟩ := lost
    exact .item hx (ih x hx inner)
  | object ms ih =>
    rw [keepLiterals?, Option.map_eq_none_iff] at lost
    exact conflicts_of_members ms ih lost
  | _ =>
    rw [keepLiterals?] at lost
    cases lost

/-- Literals are kept unless there is a conflict. -/
theorem keepLiterals?_eq_none_iff (t : Json String) : keepLiterals? t = none ↔ Conflicts t := by
  refine ⟨conflicts_of_keepLiterals? t, fun h => ?_⟩
  induction h with
  | item mem inner ih =>
    rw [keepLiterals?, Option.map_eq_none_iff, keepLiteralsItems?_eq_none_iff]
    exact ⟨_, mem, ih⟩
  | @member ms e mem inner ih =>
    rw [keepLiterals?, Option.map_eq_none_iff]
    obtain ⟨before, after, rfl⟩ := List.append_of_mem mem
    rw [keepLiteralsMembers?_append]
    cases keepLiteralsMembers? [] before with
    | none => rfl
    | some done =>
      rw [Option.bind_some, keepLiteralsMembers?, ih]
  | @repeated before between after k x y v w apart first second other =>
    rw [keepLiterals?, Option.map_eq_none_iff, keepLiteralsMembers?_append]
    cases hd : keepLiteralsMembers? [] (before ++ (k, x) :: between) with
    | none => rfl
    | some done =>
      have held := get?_keepLiteralsMembers? hd k
      rw [lastWritten?_of_apart before between k x apart] at held
      obtain ⟨v', found, hv'⟩ := held
      obtain rfl : v = v' := Option.some.inj (first.symm.trans hv')
      exact (keepLiteralsMembers?_cons_eq_none_iff done k y after w second).mpr
        (.inl ⟨v, found, other⟩)

end Json

/-! ## Parts -/

/-- A tree is part of another one. -/
inductive Body.Part (w : Body) : Body → Prop where
  | self : Part w w
  | item {xs : List Body} {x : Body} (mem : x ∈ xs) (inner : Part w x) : Part w (.list xs)
  | member {ms : List (Wide × Body)} {e : Wide × Body} (mem : e ∈ ms) (inner : Part w e.2) :
      Part w (.object ms)

namespace Body

/-! What holds of all objects in a tree holds of those in its items, or of the object that it is and
of those in its members. -/

theorem forall_part_list {P : Record Body Wide → Prop} {xs : List Body} :
    (∀ ms, Part (.object ms) (.list xs) → P ms) ↔ ∀ x ∈ xs, ∀ ms, Part (.object ms) x → P ms := by
  refine ⟨fun all x mem ms part => all ms (.item mem part), fun all ms part => ?_⟩
  cases part with
  | item mem inner => exact all _ mem ms inner

theorem forall_part_object {P : Record Body Wide → Prop} {ms : List (Wide × Body)} :
    (∀ ns, Part (.object ns) (.object ms) → P ns) ↔
      P ms ∧ ∀ e ∈ ms, ∀ ns, Part (.object ns) e.2 → P ns := by
  refine ⟨fun all => ⟨all ms .self, fun e mem ns part => all ns (.member mem part)⟩,
    fun ⟨own, all⟩ ns part => ?_⟩
  cases part with
  | self => exact own
  | member mem inner => exact all _ mem ns inner

/-- No object in the tree has a name twice. -/
def Distinct (v : Body) : Prop := ∀ ms, Part (.object ms) v → Record.Distinct ms

@[simp] theorem distinct_null : Distinct .null := fun _ part => nomatch part

@[simp] theorem distinct_bool (b : Bool) : Distinct (.bool b) := fun _ part => nomatch part

@[simp] theorem distinct_number (n : Numeral) : Distinct (.number n) := fun _ part => nomatch part

@[simp] theorem distinct_text (s : Wide) : Distinct (.text s) := fun _ part => nomatch part

@[simp] theorem distinct_list (xs : List Body) : Distinct (.list xs) ↔ ∀ x ∈ xs, x.Distinct :=
  forall_part_list

@[simp] theorem distinct_object (ms : List (Wide × Body)) :
    Distinct (.object ms) ↔ Record.Distinct ms ∧ ∀ e ∈ ms, e.2.Distinct := forall_part_object

end Body

end HttpScript
