import HttpScript.Proofs.QuerySteps

/-!
# Following simple steps

A step that is a word leads to the member of that name, whether names or other meanings go first.
Two points lead on from the place itself and then from all that is below it. Steps of these two
kinds only read: the memory stays as it is, and every search ends.

    Finds m root fuel ss p literal vs        from p, the steps ss lead to the values vs
    p.value.rank + ss.length < fuel → ∃ vs, Finds m root fuel ss p literal vs     (exists_finds)
-/

namespace HttpScript.Query

/-! ## Computations that only read -/

/-- The computation gives `a` and leaves the memory as it is. -/
def Gives {α : Type} (m : Memory) (x : Eval α) (a : α) : Prop :=
  x.run.run m = (some a, m)

namespace Gives

variable {α β : Type} {m : Memory}

theorem pure (a : α) : Gives m (Pure.pure a) a := rfl

theorem memory : Gives m Eval.memory m := rfl

theorem bind {x : Eval α} {f : α → Eval β} {a : α} {b : β} (first : Gives m x a)
    (rest : Gives m (f a) b) : Gives m (x >>= f) b := by
  unfold Gives at *
  rw [OptionT.run_bind, Option.elimM, StateT.run_bind, first]
  exact rest

theorem mapM {f : α → Eval β} {g : α → β} {xs : List α} (each : ∀ x ∈ xs, Gives m (f x) (g x)) :
    Gives m (xs.mapM f) (xs.map g) := by
  induction xs with
  | nil => exact pure []
  | cons x xs ih =>
    rw [List.mapM_cons]
    exact bind (each x List.mem_cons_self)
      (bind (ih fun x hx => each x (List.mem_cons_of_mem _ hx)) (pure _))

end Gives

/-! ## Words -/

theorem sliceOf?_word {s : List Char} (word : IsWord s) : sliceOf? s = none := by
  have whole : Text.splitBy (· == ':') s = [s] := by
    refine Text.splitBy_of_free _ s fun c hc => ?_
    rw [beq_eq_false_iff_ne]
    exact ne_of_isIdentRest (word.2 c hc) (by decide)
  unfold sliceOf?
  rw [whole]

/-- A step that is a word is the name of a member. -/
theorem followText_word (next : Next) (p : Place) (rest : List Step) (m : Memory) (root : Value)
    {s : List Char} (word : IsWord s) (own : Option Value) :
    followText next p rest m root s own = match own with
      | some x => one next p (next rest (p.child (.ofString (String.ofList s)) x) true)
      | none => pure (.many []) := by
  have other (t : String) (c : Char) (mem : c ∈ t.toList) (odd : Text.isIdentRest c = false) :
      (String.ofList s == t) = false := by
    rw [beq_eq_false_iff_ne]
    rintro rfl
    rw [String.toList_ofList] at mem
    exact ne_of_isIdentRest (word.2 c mem) odd rfl
  obtain ⟨d, w, rfl⟩ := List.exists_cons_of_ne_nil word.1
  have front (c : Char) (odd : Text.isIdentRest c = false) : d ≠ c :=
    ne_of_isIdentRest (word.2 d List.mem_cons_self) odd
  have comma : (d :: w).contains ',' = false := by
    rw [List.contains_eq_mem, decide_eq_false_iff_not]
    intro mem
    exact ne_of_isIdentRest (word.2 ',' mem) (by decide) rfl
  unfold followText
  dsimp only
  rw [other "*" '*' (by decide) (by decide), other ".." '.' (by decide) (by decide),
    other "^" '^' (by decide) (by decide), other "~" '~' (by decide) (by decide),
    other "$" '$' (by decide) (by decide), sliceOf?_word word]
  simp only [Bool.false_eq_true, if_false]
  -- a word begins like no other kind of step
  split
  · exact absurd (List.cons.inj ‹_›).1 (front '?' (by decide))
  · exact absurd (List.cons.inj ‹_›).1 (front '(' (by decide))
  · exact absurd (List.cons.inj ‹_›).1 (front '@' (by decide))
  · unfold followNames
    split
    · exact absurd (List.cons.inj ‹_›).1 (front '\x60' (by decide))
    · dsimp only
      rw [comma]
      exact if_neg Bool.false_ne_true

theorem follow_word (root : Value) (fuel : Nat) {s : List Char} (word : IsWord s)
    (rest : List Step) (p : Place) (literal : Bool) :
    follow root (fuel + 1) (.text s :: rest) p literal = (do
      let m ← Eval.memory
      match p.own? m (String.ofList s) with
      | some x =>
        one (follow root fuel) p
          (follow root fuel rest (p.child (.ofString (String.ofList s)) x) (!literal))
      | none => pure (.many [])) := by
  rw [follow]
  refine bind_congr fun m => ?_
  dsimp only
  cases literal <;> cases p.own? m (String.ofList s)
  case true.some => rfl
  all_goals exact followText_word _ _ _ _ _ word _

/-! ## Finding values -/

/-- The name that stands for all descendants. -/
def points : List Char := ['.', '.']

section Finds

variable {m : Memory} {root : Value} {fuel : Nat} {rest : List Step} {p : Place} {literal : Bool}

theorem settle_values (next : Next) (p : Place)
    (vs : List Value) :
    Gives m (settle next p (vs.map Found.value)) (.many (vs.map Found.value)) := by
  refine .bind (Gives.mapM (g := fun f => [f]) fun f hf => ?_) ?_
  · obtain ⟨v, -, rfl⟩ := List.mem_map.1 hf
    exact .pure _
  · rw [← List.flatMap_def, List.flatMap_singleton']
    exact .pure _

theorem one_values {next : Next} {p : Place} {branch : Eval Outcome} {o : Outcome}
    {vs : List Value} (gives : Gives m branch o) (found : o.found = vs.map Found.value) :
    Gives m (one next p branch) (.many (vs.map Found.value)) := by
  refine .bind gives ?_
  rw [found]
  exact settle_values next p vs

variable (m root) in
/-- From a place, steps lead to the given values. Only at the end of the steps they are no list. -/
def Finds (fuel : Nat) (ss : List Step) (p : Place) (literal : Bool) (vs : List Value) : Prop :=
  ∃ o, Gives m (follow root fuel ss p literal) o ∧ o.found = vs.map Found.value ∧
    (ss ≠ [] → o = .many (vs.map Found.value))

namespace Finds

theorem here (fuel : Nat) (p : Place) (literal : Bool) :
    Finds m root (fuel + 1) [] p literal [p.value] :=
  ⟨.single (.value p.value), .pure _, rfl, fun filled => absurd rfl filled⟩

theorem of_many {ss : List Step} {vs : List Value}
    (gives : Gives m (follow root fuel ss p literal) (.many (vs.map Found.value))) :
    Finds m root fuel ss p literal vs :=
  ⟨_, gives, rfl, fun _ => rfl⟩

/-- A word leads on to the member of that name. -/
theorem word {s : List Char} {x : Value} {vs : List Value} (word : IsWord s)
    (own : p.own? m (String.ofList s) = some x)
    (next : Finds m root fuel rest (p.child (.ofString (String.ofList s)) x) (!literal) vs) :
    Finds m root (fuel + 1) (.text s :: rest) p literal vs := by
  obtain ⟨o, gives, found, -⟩ := next
  refine of_many ?_
  rw [follow_word root fuel word]
  refine .bind .memory ?_
  rw [own]
  exact one_values gives found

/-- A word that names no member leads nowhere. -/
theorem absent {s : List Char} (word : IsWord s) (own : p.own? m (String.ofList s) = none) :
    Finds m root (fuel + 1) (.text s :: rest) p literal [] := by
  refine of_many ?_
  rw [follow_word root fuel word]
  refine .bind .memory ?_
  rw [own]
  exact .pure _

/-- Two points are a name where a name is expected and there is such a member. -/
theorem named {x : Value} {vs : List Value} (own : p.own? m ".." = some x)
    (next : Finds m root fuel rest (p.child (.ofString "..") x) false vs) :
    Finds m root (fuel + 1) (.text points :: rest) p true vs := by
  obtain ⟨o, gives, found, -⟩ := next
  have own : p.own? m (String.ofList Query.points) = some x := own
  refine of_many ?_
  rw [follow]
  refine .bind .memory ?_
  dsimp only
  rw [own]
  exact one_values gives found

/-- Two points lead on from the place itself, and from all that is below it. -/
theorem points (fresh : m.changed = []) (own : literal = true → p.own? m ".." = none)
    {vs : List Value} (here : Finds m root fuel rest p false vs)
    (below : ∀ k x, (k, x) ∈ m.children p.value → isSearched m x = true →
      ∃ ws, Finds m root fuel (.text points :: rest) (p.child k x) false ws) :
    ∃ ws, Finds m root (fuel + 1) (.text points :: rest) p literal (vs ++ ws) := by
  obtain ⟨o, gives, found, -⟩ := here
  have each : ∀ e : Value × Value, ∃ ws : List Value, e ∈ m.children p.value →
      Gives m (do
        let x ← current p.value e.1 e.2
        if isSearched (← Eval.memory) x then
          pure (← follow root fuel (.text Query.points :: rest) (p.child e.1 x) false).found
        else pure []) (ws.map Found.value) := by
    rintro ⟨k, x⟩
    have now : Gives m (current p.value k x) x := by
      refine .bind .memory ?_
      rw [fresh]
      exact .pure x
    by_cases searched : isSearched m x = true ∧ (k, x) ∈ m.children p.value
    · obtain ⟨ws, o, gives, found, -⟩ := below k x searched.2 searched.1
      refine ⟨ws, fun _ => .bind now (.bind .memory ?_)⟩
      rw [if_pos searched.1]
      refine .bind gives ?_
      rw [found]
      exact .pure _
    · refine ⟨[], fun mem => .bind now (.bind .memory ?_)⟩
      rw [if_neg fun yes => searched ⟨yes, mem⟩]
      exact .pure []
  choose ws each using each
  refine ⟨(m.children p.value).flatMap ws, of_many ?_⟩
  rw [follow]
  refine .bind .memory ?_
  have descends : Gives m (do
      let here ← follow root fuel rest p false
      let below ← (m.children p.value).mapM fun e => do
        let x ← current p.value e.1 e.2
        if isSearched (← Eval.memory) x then
          pure (← follow root fuel (.text Query.points :: rest) (p.child e.1 x) false).found
        else pure []
      settle (follow root fuel) p (here.found ++ below.flatten))
        (.many ((vs ++ (m.children p.value).flatMap ws).map Found.value)) := by
    refine .bind gives (.bind (.mapM fun e he => each e he) ?_)
    rw [found, ← List.flatMap_def, ← List.map_flatMap, ← List.map_append]
    exact settle_values _ p _
  cases literal with
  | true =>
    have own : p.own? m (String.ofList Query.points) = none := own rfl
    dsimp only
    rw [own]
    exact descends
  | false => exact descends

end Finds

/-! ## Ends of following

A step leads to a node that is not larger, and the search of descendants to smaller ones. -/

end Finds

/-- How many containers a value holds one inside the other. -/
def Value.rank : Value → Nat
  | .node _ tree => depth tree
  | _ => 0

/-- Whether a value is read from a body. -/
def Value.FromBody : Value → Prop
  | .pattern .. | .made _ => False
  | _ => True

theorem fromBody_ofBody (way : List Nat) (b : Body) : (Value.ofBody way b).FromBody := by
  unfold Value.ofBody
  split <;> trivial

theorem rank_ofBody (way : List Nat) (b : Body) : (Value.ofBody way b).rank ≤ depth b := by
  unfold Value.ofBody
  split
  · exact Nat.zero_le _
  · exact Nat.zero_le _
  · exact Nat.zero_le _
  · exact Nat.zero_le _
  · exact le_rfl

theorem depth_of_mem_items {x : Body} {xs : List Body} (mem : x ∈ xs) :
    depth x ≤ depthItems xs := by
  induction xs with
  | nil => cases mem
  | cons y xs ih =>
    rw [depthItems]
    rcases List.mem_cons.1 mem with rfl | mem
    · exact le_max_left _ _
    · exact (ih mem).trans (le_max_right _ _)

theorem depth_of_mem_members {e : Wide × Body} {ms : List (Wide × Body)} (mem : e ∈ ms) :
    depth e.2 ≤ depthMembers ms := by
  induction ms with
  | nil => cases mem
  | cons y ms ih =>
    obtain ⟨k, v⟩ := y
    rw [depthMembers]
    rcases List.mem_cons.1 mem with rfl | mem
    · exact le_max_left _ _
    · exact (ih mem).trans (le_max_right _ _)

theorem mem_of_memberAt? {name : Wide} {i j : Nat} {ms : List (Wide × Body)} {x : Body}
    (found : Memory.memberAt? name i ms = some (j, x)) : (name, x) ∈ ms := by
  induction ms generalizing i with
  | nil => cases found
  | cons e ms ih =>
    obtain ⟨k, v⟩ := e
    rw [Memory.memberAt?] at found
    split at found
    · next same =>
      obtain ⟨-, rfl⟩ := Prod.mk.inj (Option.some.inj found)
      rw [eq_of_beq same]
      exact List.mem_cons_self
    · exact List.mem_cons_of_mem _ (ih found)

/-- What a value has of its own is read from the body too, and is not larger. -/
theorem own?_smaller {m : Memory} (fresh : m.changed = []) {v x : Value} {name : Wide}
    (body : v.FromBody) (own : m.own? v name = some x) : x.FromBody ∧ x.rank ≤ v.rank := by
  have leaf {y : Value} (same : some y = some x) (given : y.FromBody) (none_ : y.rank = 0) :
      x.FromBody ∧ x.rank ≤ v.rank := by
    obtain rfl := Option.some.inj same
    exact ⟨given, none_ ▸ Nat.zero_le _⟩
  unfold Memory.own? at own
  split at own
  · next way ms =>
    obtain ⟨⟨i, b⟩, found, rfl⟩ := Option.map_eq_some_iff.1 own
    refine ⟨fromBody_ofBody _ b, (rank_ofBody _ b).trans ?_⟩
    have := depth_of_mem_members (mem_of_memberAt? found)
    show depth b ≤ depthMembers ms + 1
    exact this.trans (Nat.le_succ _)
  · next way xs =>
    rw [fresh] at own
    dsimp only [List.lookup] at own
    split at own
    · exact leaf own trivial rfl
    · obtain ⟨i, -, own⟩ := Option.bind_eq_some_iff.1 own
      obtain ⟨b, found, rfl⟩ := Option.map_eq_some_iff.1 own
      refine ⟨fromBody_ofBody _ b, (rank_ofBody _ b).trans ?_⟩
      show depth b ≤ depthItems xs + 1
      exact (depth_of_mem_items (List.mem_of_getElem? found)).trans (Nat.le_succ _)
  · split at own
    · exact leaf own trivial rfl
    · split at own
      · exact leaf own trivial rfl
      · cases own
  · split at own
    · exact leaf own trivial rfl
    · obtain ⟨i, -, own⟩ := Option.bind_eq_some_iff.1 own
      obtain ⟨u, -, rfl⟩ := Option.map_eq_some_iff.1 own
      exact ⟨trivial, Nat.zero_le _⟩
  · exact body.elim
  · exact body.elim
  · cases own

theorem items?_fresh {m : Memory} (fresh : m.changed = []) (way : List Nat) (xs : List Body) :
    m.items? (.node way (.list xs)) = some (Memory.bodyItems way xs) := by
  unfold Memory.items?
  rw [fresh]
  rfl

/-- What is listed below a value is read from the body too, and is smaller. -/
theorem children_smaller {m : Memory} (fresh : m.changed = []) {v k x : Value} (body : v.FromBody)
    (child : (k, x) ∈ m.children v) : x.FromBody ∧ x.rank < v.rank := by
  unfold Memory.children at child
  split at child
  · next way ms =>
    obtain ⟨⟨⟨name, b⟩, i⟩, mem, same⟩ := List.mem_map.1 child
    obtain ⟨-, rfl⟩ := Prod.mk.inj same
    have smaller := depth_of_mem_members (List.fst_mem_of_mem_zipIdx mem)
    exact ⟨fromBody_ofBody _ b, Nat.lt_succ_of_le ((rank_ofBody _ b).trans smaller)⟩
  · rcases List.mem_cons.1 child with same | rest
    · obtain ⟨-, rfl⟩ := Prod.mk.inj same
      exact ⟨trivial, Nat.one_pos⟩
    · obtain ⟨-, rfl⟩ := Prod.mk.inj (List.mem_singleton.1 rest)
      exact ⟨trivial, Nat.one_pos⟩
  · next notObject notLiteral =>
    cases v with
    | node way tree =>
      cases tree with
      | list xs =>
        rw [items?_fresh fresh] at child
        obtain ⟨⟨y, i⟩, mem, shape⟩ := List.mem_map.1 child
        obtain ⟨-, rfl⟩ := Prod.mk.inj shape
        obtain ⟨⟨b, j⟩, item, rfl⟩ := List.mem_map.1 (List.fst_mem_of_mem_zipIdx mem)
        have smaller := depth_of_mem_items (List.fst_mem_of_mem_zipIdx item)
        exact ⟨fromBody_ofBody _ b, Nat.lt_succ_of_le ((rank_ofBody _ b).trans smaller)⟩
      | object ms => exact absurd rfl (notObject way ms)
      | number n => cases n with
        | literal s => exact absurd rfl (notLiteral way s)
        | double d => cases child
      | _ => cases child
    | pattern code position => exact body.elim
    | made id => exact body.elim
    | _ => cases child

/-! ## Every search ends -/

/-- A step that is a word or stands for all descendants. -/
def Simple (s : List Char) : Prop := s = points ∨ IsWord s

/-- Simple steps lead from a value of the body to some values, as long as there is fuel for each
step and each container below. -/
theorem exists_finds {m : Memory} (fresh : m.changed = []) (root : Value) (fuel : Nat)
    (ss : List (List Char)) (simple : ∀ s ∈ ss, Simple s) (p : Place) (literal : Bool)
    (body : p.value.FromBody) (enough : p.value.rank + ss.length < fuel) :
    ∃ vs, Finds m root fuel (ss.map Step.text) p literal vs := by
  induction fuel generalizing ss p literal with
  | zero => exact absurd enough (Nat.not_lt_zero _)
  | succ fuel ih =>
    cases ss with
    | nil => exact ⟨_, .here fuel p literal⟩
    | cons s ss =>
      have others : ∀ s ∈ ss, Simple s := fun s hs => simple s (List.mem_cons_of_mem _ hs)
      rw [List.length_cons] at enough
      have member {name : Wide} {x : Value} (own : p.own? m name = some x) (key : Value)
          (literal : Bool) :
          ∃ vs, Finds m root fuel (ss.map Step.text) (p.child key x) literal vs := by
        have own : m.own? p.value name = some x := by
          unfold Place.own? at own
          split at own
          · exact own
          · cases own
        obtain ⟨body, smaller⟩ := own?_smaller fresh body own
        refine ih ss others (p.child key x) literal body ?_
        show x.rank + ss.length < fuel
        omega
      rcases simple s List.mem_cons_self with rfl | word
      · by_cases free : literal = true → p.own? m ".." = none
        · obtain ⟨vs, here⟩ := ih ss others p false body (by omega)
          obtain ⟨ws, all⟩ := Finds.points fresh free here fun k x child _ => by
            obtain ⟨body, smaller⟩ := children_smaller fresh body child
            refine ih (points :: ss) simple (p.child k x) false body ?_
            show x.rank + (ss.length + 1) < fuel
            omega
          exact ⟨_, all⟩
        · obtain ⟨named, own⟩ := Classical.not_imp.1 free
          subst named
          obtain ⟨x, own⟩ := Option.ne_none_iff_exists'.1 own
          obtain ⟨vs, next⟩ := member own (.ofString "..") false
          exact ⟨vs, .named own next⟩
      · cases own : p.own? m (String.ofList s) with
        | none => exact ⟨[], .absent word own⟩
        | some x =>
          obtain ⟨vs, next⟩ := member own _ (!literal)
          exact ⟨vs, .word word own next⟩

end HttpScript.Query
