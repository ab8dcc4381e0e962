import HttpScript.Proofs.CodeFreeQueries
import HttpScript.Proofs.TakenObjects

/-!
# Trees that no query has changed

As long as no list of a tree has changed, a body path leads to the same node as in the body that was
read, and what a path or a query without code selects does not depend on the patterns.

    t.changed = [] → t.navigate? lib ps path = BodyPath.navigate? lib t.root path
-/

namespace HttpScript.Query

variable {m : Memory} (lib : JsonLibrary)

/-- A node that was read stands for itself. -/
theorem node?_ofBody {m : Memory} (fresh : m.changed = []) (way : List Nat) (b : Body) :
    m.node? (.ofBody way b) = some b := by
  cases b with
  | null => rfl
  | bool b => rfl
  | number n => cases n with
    | double d => rfl
    | literal s =>
      show (if m.changed.isEmpty then _ else _) = _
      rw [fresh]
      rfl
  | text s =>
    show some (Json.text (.ofUnits s.toUnits)) = _
    rw [Wide.ofUnits_toUnits]
  | list xs =>
    show (if m.changed.isEmpty then _ else _) = _
    rw [fresh]
    rfl
  | object ms =>
    show (if m.changed.isEmpty then _ else _) = _
    rw [fresh]
    rfl

/-! ## Members and items -/

theorem memberAt?_map_snd (name : Wide) (i : Nat) (ms : List (Wide × Body)) :
    (Memory.memberAt? name i ms).map (·.2) = Record.get? ms name := by
  induction ms generalizing i with
  | nil => rfl
  | cons e ms ih =>
    obtain ⟨k, v⟩ := e
    rw [Memory.memberAt?, Record.get?, List.lookup_cons]
    by_cases same : k = name
    · subst same
      rw [if_pos (beq_self_eq_true k), beq_self_eq_true]
      rfl
    · rw [if_neg (by simpa using same), beq_eq_false_iff_ne.2 (Ne.symm same)]
      exact ih (i + 1)

theorem isGiven_ofBody (way : List Nat) (b : Body) : (Value.ofBody way b).isGiven = true := by
  cases b with
  | number n => cases n <;> rfl
  | _ => rfl

theorem member?_ofBody (way : List Nat) (b : Body) (name : Wide) : ∃ i,
    m.member? lib (.ofBody way b) name =
      (BodyPath.member? lib b name).map (.ofBody (i :: way)) := by
  cases b with
  | object ms =>
    have same := memberAt?_map_snd name 0 ms
    show ∃ i, (if lib.takes ms then none else ((Memory.memberAt? name 0 ms).map fun e =>
      Value.ofBody (e.1 :: way) e.2).filter _) =
        (if lib.takes ms then none else Record.get? ms name).map _
    rw [← same]
    split
    · exact ⟨0, rfl⟩
    cases Memory.memberAt? name 0 ms with
    | none => exact ⟨0, rfl⟩
    | some found =>
      obtain ⟨i, x⟩ := found
      exact ⟨i, by simp [isGiven_ofBody]⟩
  | number n => cases n <;> exact ⟨0, rfl⟩
  | _ => exact ⟨0, rfl⟩

theorem item?_ofBody (fresh : m.changed = []) (way : List Nat) (b : Body) (i : Nat) :
    m.item? (.ofBody way b) i = (BodyPath.item? b i).map (.ofBody (i :: way)) := by
  cases b with
  | list xs =>
    show ((m.items? (.node way (.list xs))).bind (·[i]?)).filter _ = (xs[i]?).map _
    rw [items?_fresh fresh, Option.bind_some]
    unfold Memory.bodyItems
    rw [List.getElem?_map, List.getElem?_zipIdx]
    cases xs[i]? <;> simp [isGiven_ofBody]
  | number n => cases n <;> rfl
  | _ => rfl

/-! ## Paths -/

open BodyPath (stepIn?)

theorem stepIn?_ofBody (fresh : m.changed = []) (way : List Nat) (b : Body)
    (s : BodyPath.Step) : ∃ i,
    stepIn? (m.member? lib) m.item? (.ofBody way b) s =
      (stepIn? (BodyPath.member? lib) BodyPath.item? b s).map (.ofBody (i :: way)) := by
  cases s with
  | member name => exact member?_ofBody lib way b name
  | item i => exact ⟨i, item?_ofBody fresh way b i⟩

theorem foldlM_stepIn?_ofBody (fresh : m.changed = []) (way : List Nat) (b : Body)
    (ss : List BodyPath.Step) : ∃ way',
      ss.foldlM (stepIn? (m.member? lib) m.item?) (.ofBody way b) =
        (ss.foldlM (stepIn? (BodyPath.member? lib) BodyPath.item?) b).map (.ofBody way') := by
  induction ss generalizing way b with
  | nil => exact ⟨way, rfl⟩
  | cons s ss ih =>
    rw [List.foldlM_cons, List.foldlM_cons]
    obtain ⟨i, step⟩ := stepIn?_ofBody lib fresh way b s
    rw [step]
    cases stepIn? (BodyPath.member? lib) BodyPath.item? b s with
    | none => exact ⟨way, rfl⟩
    | some w => exact ih (i :: way) w

namespace Tree

variable {t : Tree} (fresh : t.changed = [])

include fresh

/-- A body path leads where it leads in the body that was read. -/
theorem navigate?_unchanged (ps : Patterns) (path : String) :
    t.navigate? lib ps path = BodyPath.navigate? lib t.root path := by
  unfold navigate? BodyPath.navigate?
  dsimp only
  rw [Option.bind_assoc]
  refine Option.bind_congr fun p _ => ?_
  rw [BodyPath.follow?_eq_foldlM, BodyPath.follow?_eq_foldlM]
  obtain ⟨way, walk⟩ := foldlM_stepIn?_ofBody (m := t.memory ps) lib fresh [] t.root
    (BodyPath.steps p)
  rw [walk]
  cases (BodyPath.steps p).foldlM (stepIn? (BodyPath.member? lib) BodyPath.item?) t.root with
  | none => rfl
  | some v => exact node?_ofBody fresh way v

/-- What is selected without code does not depend on the patterns. -/
theorem node_select_of_isCodeFree (ps ps' : Patterns) (path : String)
    (free : (!Text.startsWith "$" path || isCodeFree path) = true) :
    (t.select lib ps path).node = (t.select lib ps' path).node := by
  unfold select
  split
  · next query =>
    rw [query, Bool.not_true, Bool.false_or] at free
    exact node_of_isCodeFree fresh ps' ps free
  · rw [navigate?_unchanged lib fresh, navigate?_unchanged lib fresh]

end Tree

end HttpScript.Query
