import HttpScript.Proofs.FreshTrees
import Mathlib.Tactic.Linarith

/-!
# Body paths as queries

A query follows the marks of a body path to the node to which the path leads. What stands below the
nodes on the way is searched too where an index is written behind a point, but comes later in the
answer. The query leaves the tree and the patterns as they are.

    navigate? lib t.root p.text = some v → ask t ps (queryText p) = ⟨some v, t, ps⟩  (ask_queryText)
-/

namespace HttpScript.Query

/-! ## Where marks lead -/

/-- The step of a body path that a mark writes. -/
def Mark.step : Mark → BodyPath.Step
  | name n => .member n
  | index i | pointed i => .item i

theorem simple_of_mem_steps {ms : List Mark} (plain : ∀ m ∈ ms, m.Plain) :
    ∀ s ∈ ms.flatMap Mark.steps, Simple s := by
  intro s hs
  obtain ⟨m, hm, hs⟩ := List.mem_flatMap.1 hs
  have word : Simple m.word := .inr (plain m hm).isWord
  cases m with
  | name n => exact List.mem_singleton.1 hs ▸ word
  | index i => exact List.mem_singleton.1 hs ▸ word
  | pointed i =>
    rcases List.mem_cons.1 hs with rfl | hs
    · exact .inl rfl
    · exact List.mem_singleton.1 hs ▸ word

theorem position?_toDigits (i : Nat) :
    Memory.position? (String.ofList (Nat.toDigits 10 i)) = some i := by
  unfold Memory.position?
  dsimp only
  rw [Wide.text_ofString, String.toList_ofList, Text.digitsValue_toDigits]
  exact if_pos (beq_self_eq_true _)

/-- An unchanged list has its length and its items. -/
theorem own?_list {m : Memory} (fresh : m.changed = []) (way : List Nat) (xs : List Body)
    (name : Wide) : m.own? (.node way (.list xs)) name =
      if name == "length" then some (.ofNat xs.length)
      else (Memory.position? name).bind fun i => (xs[i]?).map (.ofBody (i :: way)) := by
  unfold Memory.own?
  rw [fresh]
  rfl

/-- The member that the word of a mark names is the node that its step leads to. -/
theorem own?_of_step? {m : Memory} (fresh : m.changed = []) (way : List Nat) {b w : Body}
    (mark : Mark) (step : BodyPath.step? b mark.step = some w) : ∃ i,
      m.own? (.ofBody way b) (String.ofList mark.word) = some (.ofBody (i :: way) w) := by
  have item {i : Nat} (step : BodyPath.step? b (.item i) = some w) :
      m.own? (.ofBody way b) (String.ofList (Nat.toDigits 10 i)) = some (.ofBody (i :: way) w) := by
    cases b with
    | list xs =>
      have found : xs[i]? = some w := step
      have other : (Wide.ofString (String.ofList (Nat.toDigits 10 i)) == "length") = false := by
        rw [beq_eq_false_iff_ne, Ne, Wide.ofString_inj]
        intro same
        have letter : 'l' ∈ Nat.toDigits 10 i := by
          rw [← String.toList_ofList (l := Nat.toDigits 10 i), same]
          decide
        exact absurd (Nat.isDigit_of_mem_toDigits (by decide) le_rfl letter) (by decide)
      show m.own? (.node way (.list xs)) _ = _
      rw [own?_list fresh, other, if_neg Bool.false_ne_true, position?_toDigits, Option.bind_some,
        found]
      rfl
    | _ => cases step
  cases mark with
  | name n =>
    cases b with
    | object ms =>
      obtain ⟨⟨j, x⟩, found, rfl⟩ := Option.map_eq_some_iff.1
        ((memberAt?_map_snd n 0 ms).trans step)
      refine ⟨j, ?_⟩
      show (Memory.memberAt? (String.ofList n.toList) 0 ms).map _ = _
      rw [String.ofList_toList, found]
      rfl
    | _ => cases step
  | index i => exact ⟨i, item step⟩
  | pointed i => exact ⟨i, item step⟩

theorem truthy_of_step? {b w : Body} {s : BodyPath.Step} (way : List Nat)
    (step : BodyPath.step? b s = some w) : (Value.ofBody way b).truthy = true := by
  cases b with
  | list xs => rfl
  | object ms => rfl
  | _ => cases s <;> cases step

theorem depth_of_step? {b w : Body} {s : BodyPath.Step} (step : BodyPath.step? b s = some w) :
    depth w < depth b := by
  cases b with
  | list xs =>
    cases s with
    | member n => cases step
    | item i =>
      have mem : w ∈ xs := List.mem_of_getElem? step
      exact Nat.lt_succ_of_le (depth_of_mem_items mem)
  | object ms =>
    cases s with
    | member n => exact Nat.lt_succ_of_le (depth_of_mem_members (Record.mem_of_get? step))
    | item i => cases step
  | _ => cases s <;> cases step

/-- No list has a member whose name is two points. -/
theorem own?_points {m : Memory} (fresh : m.changed = []) (way : List Nat) {b w : Body} {i : Nat}
    (step : BodyPath.step? b (.item i) = some w) : m.own? (.ofBody way b) ".." = none := by
  cases b with
  | list xs =>
    have noNumber : Memory.position? ".." = none := by decide
    show m.own? (.node way (.list xs)) ".." = none
    rw [own?_list fresh, if_neg (by decide), noNumber]
    rfl
  | _ => cases step

section Place

variable {m : Memory} {p : Place} {way : List Nat} {b w : Body}

/-- From a place that holds the node, too, the word of a mark leads where its step leads. -/
theorem place_own?_of_step? (fresh : m.changed = []) (here : p.value = .ofBody way b) (mark : Mark)
    (step : BodyPath.step? b mark.step = some w) : ∃ i,
      p.own? m (String.ofList mark.word) = some (.ofBody (i :: way) w) := by
  obtain ⟨i, own⟩ := own?_of_step? fresh way mark step
  refine ⟨i, ?_⟩
  unfold Place.own?
  rw [here, truthy_of_step? way step, if_pos rfl, own]

theorem place_own?_points (fresh : m.changed = []) (here : p.value = .ofBody way b) {i : Nat}
    (step : BodyPath.step? b (.item i) = some w) : p.own? m ".." = none := by
  unfold Place.own?
  rw [here, own?_points fresh way step, ite_self]

end Place

/-- The steps of marks lead to the node to which the body path leads, before anything else. -/
theorem exists_finds_marks {m : Memory} (fresh : m.changed = []) (root : Value) {v : Body}
    (ms : List Mark) (plain : ∀ m ∈ ms, m.Plain) (b : Body) (way : List Nat)
    (walk : (ms.map Mark.step).foldlM BodyPath.step? b = some v) (fuel : Nat) (p : Place)
    (literal : Bool) (here : p.value = .ofBody way b)
    (enough : depth b + (ms.flatMap Mark.steps).length < fuel) :
    ∃ way' vs, Finds m root fuel ((ms.flatMap Mark.steps).map Step.text) p literal
      (.ofBody way' v :: vs) := by
  induction ms generalizing b way fuel p literal with
  | nil =>
    obtain rfl : b = v := Option.some.inj walk
    obtain ⟨fuel, rfl⟩ := Nat.exists_eq_succ_of_ne_zero (Nat.ne_zero_of_lt enough)
    exact ⟨way, [], here ▸ .here fuel p literal⟩
  | cons mark ms ih =>
    have others : ∀ m ∈ ms, m.Plain := fun m hm => plain m (List.mem_cons_of_mem _ hm)
    have word := (plain mark List.mem_cons_self).isWord
    rw [List.map_cons, List.foldlM_cons] at walk
    obtain ⟨w, step, walk⟩ := Option.bind_eq_some_iff.1 walk
    have smaller := depth_of_step? step
    obtain ⟨i, own⟩ := place_own?_of_step? fresh here mark step
    rw [List.flatMap_cons, List.length_append] at enough
    -- the word leads to the member, and the marks that follow lead on from there
    have single (fuel : Nat) (literal : Bool)
        (enough : depth w + (ms.flatMap Mark.steps).length < fuel) :
        ∃ way' vs, Finds m root (fuel + 1)
          (.text mark.word :: (ms.flatMap Mark.steps).map Step.text) p literal
          (.ofBody way' v :: vs) := by
      obtain ⟨way', vs, next⟩ := ih others w (i :: way) walk fuel
        (p.child (.ofString (String.ofList mark.word)) (.ofBody (i :: way) w)) (!literal) rfl enough
      exact ⟨way', vs, .word word own next⟩
    obtain ⟨fuel, rfl⟩ := Nat.exists_eq_succ_of_ne_zero (Nat.ne_zero_of_lt enough)
    cases mark with
    | name n =>
      have one : (Mark.name n).steps.length = 1 := rfl
      exact single fuel literal (by omega)
    | index j =>
      have one : (Mark.index j).steps.length = 1 := rfl
      exact single fuel literal (by omega)
    | pointed j =>
      have two : (Mark.pointed j).steps.length = 2 := rfl
      obtain ⟨fuel, rfl⟩ := Nat.exists_eq_succ_of_ne_zero (n := fuel) (by omega)
      obtain ⟨way', vs, next⟩ := single fuel false (by omega)
      have free : literal = true → p.own? m ".." = none := fun _ =>
        place_own?_points fresh here step
      have simple := simple_of_mem_steps plain
      obtain ⟨ws, all⟩ := Finds.points fresh free next fun k x child _ => by
        rw [here] at child
        obtain ⟨body, below⟩ := children_smaller fresh (fromBody_ofBody way b) child
        have small := rank_ofBody way b
        refine exists_finds fresh root (fuel + 1) ((Mark.pointed j :: ms).flatMap Mark.steps) simple
          (p.child k x) false body ?_
        show x.rank + _ < _
        rw [List.flatMap_cons, List.length_append]
        omega
      exact ⟨way', vs ++ ws, all⟩

/-! ## Paths as queries -/

theorem steps_marks_path (p : BodyPath) (named : ∀ g ∈ p, Named g) :
    (marks p).map Mark.step = BodyPath.steps p := by
  have index (is : List Nat) : (is.map Mark.index).map Mark.step = is.map BodyPath.Step.item :=
    List.map_map
  have later (g : Segment) (named : Named g) :
      (laterMarks g).map Mark.step = BodyPath.segmentSteps g := by
    obtain ⟨property, is⟩ := g
    cases property with
    | some n => exact congrArg (BodyPath.Step.member n :: ·) (index is)
    | none => cases is with
      | nil => exact absurd named.filled (by simp)
      | cons i is => exact congrArg (BodyPath.Step.item i :: ·) (index is)
  cases p with
  | nil => rfl
  | cons g p =>
    have front : (frontMarks g).map Mark.step = BodyPath.segmentSteps g := by
      obtain ⟨property, is⟩ := g
      cases property with
      | some n => exact congrArg (BodyPath.Step.member n :: ·) (index is)
      | none => exact index is
    show (frontMarks g ++ p.flatMap laterMarks).map Mark.step = _
    rw [List.map_append, front, List.map_flatMap]
    exact congrArg (BodyPath.segmentSteps g ++ ·)
      (List.flatMap_congr fun h hh => later h (named h (List.mem_cons_of_mem _ hh)))

theorem Named.plain {g : Segment} (named : Named g) : g.Plain where
  name n same := by
    have ident := named.ident n same
    have word : IsWord n.toList := Mark.Plain.isWord (m := .name n) ident
    refine ⟨word.1, fun c hc => ⟨ne_of_isIdentRest (word.2 c hc) (by decide), ?_⟩⟩
    have opens : c ≠ '[' := ne_of_isIdentRest (word.2 c hc) (by decide)
    have closes : c ≠ ']' := ne_of_isIdentRest (word.2 c hc) (by decide)
    simp [BodyPath.isBracket, opens, closes]
  filled := named.filled

/-- No standard member has a name that begins with `$`. -/
theorem standardMember?_dollar (query : String) (front : query.toList.head? = some '$') :
    Record.standardMember? query = none := by
  have other (t : String) (odd : t.toList.head? ≠ some '$') : query ≠ t := by
    rintro rfl
    exact odd front
  unfold Record.standardMember?
  simp only [beq_iff_eq]
  rw [if_neg (other _ (by decide)), if_neg (other _ (by decide)), if_neg]
  rw [List.contains_eq_mem, decide_eq_true_eq]
  have others : ∀ t ∈ ["toString", "valueOf", "hasOwnProperty", "isPrototypeOf",
      "propertyIsEnumerable", "toLocaleString", "__defineGetter__", "__defineSetter__",
      "__lookupGetter__", "__lookupSetter__"], t.toList.head? ≠ some '$' := by decide
  exact fun mem => others query mem front

/-- Where a body path leads, the query of the same names and indexes finds the same node first, as
long as no list of the tree has changed. -/
theorem ask_queryText (lib : JsonLibrary) (t : Tree) (fresh : t.changed = []) (ps : Patterns)
    (p : BodyPath) (nonempty : p ≠ []) (named : ∀ g ∈ p, Named g) (v : Body)
    (leads : BodyPath.navigate? lib t.root p.text = some v) :
    ask t ps (queryText p) = ⟨some v, t, ps⟩ := by
  have walk : ((marks p).map Mark.step).foldlM BodyPath.step? t.root = some v := by
    unfold BodyPath.navigate? at leads
    rw [BodyPath.parse?_text_of_plain nonempty fun g hg => (named g hg).plain, Option.bind_some,
      BodyPath.follow?_eq_foldlM] at leads
    rw [steps_marks_path p named]
    exact BodyPath.foldlM_step?_of_eq_some leads
  have plain := plain_marks p named
  have filled := marks_ne_nil p nonempty named
  have steps_ := stepsOf_queryText p nonempty named
  have truthy : (Value.ofBody [] t.root).truthy = true := by
    obtain ⟨mark, ms, shape⟩ := List.exists_cons_of_ne_nil filled
    rw [shape, List.map_cons, List.foldlM_cons] at walk
    obtain ⟨w, step, -⟩ := Option.bind_eq_some_iff.1 walk
    exact truthy_of_step? [] step
  have front : (queryText p).toList.head? = some '$' := by
    rw [toList_queryText p nonempty named]
    rfl
  have enough : depth t.root + ((marks p).flatMap Mark.steps).length <
      t.fuel (stepsOf (queryText p)) := by
    have more : depth t.root + 8 ≤
        (depth t.root + 8) * (t.changed.length + t.cells.size + 1) :=
      Nat.le_mul_of_pos_right _ (Nat.succ_pos _)
    unfold Tree.fuel
    rw [steps_, List.length_map]
    nlinarith
  obtain ⟨way, vs, o, gives, found, many⟩ := exists_finds_marks (m := t.memory ps) fresh
    (.ofBody [] t.root) (marks p) plain t.root [] walk _ (.root (.ofBody [] t.root)) false rfl
    enough
  have some_ : ((marks p).flatMap Mark.steps).map Step.text ≠ [] := by
    obtain ⟨mark, ms, shape⟩ := List.exists_cons_of_ne_nil filled
    rw [shape]
    cases mark <;> exact List.cons_ne_nil _ _
  rw [many some_, ← steps_] at gives
  unfold ask
  dsimp only
  rw [truthy, standardMember?_dollar _ front, if_neg (by decide)]
  have ran : (follow (.ofBody [] t.root) (t.fuel (stepsOf (queryText p))) (stepsOf (queryText p))
      (.root (.ofBody [] t.root)) false).run (t.memory ps) =
        (some (.many ((.ofBody way v :: vs).map Found.value)), t.memory ps) := gives
  rw [ran]
  exact congrArg (Answer.mk · t ps) (node?_ofBody fresh way v)

/-- A null that is a member of the name `length`, found in a list behind a point. -/
theorem ask_queryText_null :
    let root : Body := .object [("items", .list [.list [], .object [("length", .null)]])]
    BodyPath.navigate? .byClass root "items.[1].length" = some .null ∧
      ask (.fresh root) [] "$.items.[1].length" = ⟨some .null, .fresh root, []⟩ := by
  intro root
  let p : BodyPath := [⟨some "items", []⟩, ⟨none, [1]⟩, ⟨some "length", []⟩]
  have named : ∀ g ∈ p, Named g := by
    intro g hg
    simp only [p, List.mem_cons, List.not_mem_nil, or_false] at hg
    rcases hg with rfl | rfl | rfl
    · exact ⟨by simp; decide, by simp⟩
    · exact ⟨nofun, by simp⟩
    · exact ⟨by simp; decide, by simp⟩
  have written : p.text = "items.[1].length" := by decide
  have asked : queryText p = "$.items.[1].length" := by decide
  have leads : BodyPath.navigate? .byClass root p.text = some .null := by
    unfold BodyPath.navigate?
    rw [BodyPath.parse?_text_of_plain (by simp [p]) fun g hg => (named g hg).plain]
    rfl
  have found := ask_queryText .byClass (.fresh root) rfl [] p (by simp [p]) named .null leads
  rw [written] at leads
  rw [asked] at found
  exact ⟨leads, found⟩

end HttpScript.Query
