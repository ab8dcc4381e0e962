import HttpScript.Proofs.BodyTrees

/-!
# Objects taken for numbers

The JSON library may take an object of a body for one of its numbers. Such an object has no members
for a body path, and its text is what the library says; everything else is as it would be without.

    Barred lib v ss → the path of ss leads nowhere                           (foldlM_of_barred)
    ¬ Barred lib v ss → it leads where the steps lead                        (foldlM_of_not_barred)
    v.Untaken lib → written lib v = v                                        (written_of_untaken)
-/

namespace HttpScript

variable {lib : JsonLibrary}

namespace Body

/-- No object of the tree is taken for a number. -/
def Untaken (lib : JsonLibrary) (v : Body) : Prop :=
  ∀ ms, Part (.object ms) v → lib.takes ms = false

/-- Without the member that marks a number no object is taken for one. -/
theorem untaken_of_names {v : Body}
    (unmarked : ∀ ms, Part (.object ms) v → Wide.ofString "isLosslessNumber" ∉ Record.names ms) :
    v.Untaken lib := by
  intro ms part
  rw [Bool.eq_false_iff]
  intro taken
  obtain ⟨e, mem, same⟩ := (Record.has_iff ms _).1 (lib.marked ms taken)
  exact unmarked ms part (List.mem_map.2 ⟨e, mem, same⟩)

@[simp] theorem untaken_null : Untaken lib .null := fun _ part => nomatch part

@[simp] theorem untaken_bool (b : Bool) : Untaken lib (.bool b) := fun _ part => nomatch part

@[simp] theorem untaken_number (n : Numeral) : Untaken lib (.number n) := fun _ part => nomatch part

@[simp] theorem untaken_text (s : Wide) : Untaken lib (.text s) := fun _ part => nomatch part

@[simp] theorem untaken_list (xs : List Body) :
    Untaken lib (.list xs) ↔ ∀ x ∈ xs, x.Untaken lib := forall_part_list

@[simp] theorem untaken_object (ms : List (Wide × Body)) :
    Untaken lib (.object ms) ↔ lib.takes ms = false ∧ ∀ e ∈ ms, e.2.Untaken lib :=
  forall_part_object

/-! ## Texts -/

theorem writtenItems_eq_map (xs : List Body) : writtenItems lib xs = xs.map (written lib) := by
  induction xs with
  | nil => rfl
  | cons x r ih => rw [writtenItems, ih, List.map_cons]

theorem writtenMembers_eq_map (ms : List (Wide × Body)) :
    writtenMembers lib ms = ms.map fun e => (e.1, written lib e.2) := by
  induction ms with
  | nil => rfl
  | cons e r ih => rw [writtenMembers, ih, List.map_cons]

theorem written_of_untaken (v : Body) (untaken : v.Untaken lib) : written lib v = v := by
  induction v using Json.inner_induction with
  | null => rfl
  | bool b => rfl
  | number n => rfl
  | text s => rfl
  | list xs ih =>
    rw [written, writtenItems_eq_map]
    have same := List.map_congr_left (g := id) fun x mem =>
      ih x mem ((untaken_list xs).1 untaken x mem)
    rw [same, List.map_id]
  | object ms ih =>
    obtain ⟨own, inner⟩ := (untaken_object ms).1 untaken
    rw [written, own, if_neg Bool.false_ne_true, writtenMembers_eq_map]
    have same := List.map_congr_left (g := id) fun e mem =>
      congrArg (Prod.mk e.1) (ih e mem (inner e mem))
    rw [same, List.map_id]

/-- The text of a node that is no text and in which nothing is taken for a number. -/
theorem leafText_of_untaken {v : Body} (untaken : v.Untaken lib) (noText : ∀ s, v ≠ .text s)
    (lossless : ∀ d, v ≠ .number (.double d)) :
    v.leafText lib = some (Json.compactNumerals v) := by
  cases v with
  | null => rfl
  | bool b => cases b <;> rfl
  | text s => exact absurd rfl (noText s)
  | number n =>
    cases n with
    | double d => exact absurd rfl (lossless d)
    | literal s =>
      show some s = some (String.ofList (s.toList ++ []))
      rw [List.append_nil, String.ofList_toList]
  | list xs =>
    rw [leafText, written_of_untaken _ untaken]
  | object ms =>
    rw [leafText, untaken ms .self, if_neg Bool.false_ne_true, written_of_untaken _ untaken]

end Body

/-! ## Paths -/

namespace BodyPath

/-- On their way the steps ask an object for a member that is taken for a number. -/
inductive Barred (lib : JsonLibrary) : Body → List Step → Prop where
  | here {ms : List (Wide × Body)} {name : Wide} {ss : List Step}
      (taken : lib.takes ms = true) : Barred lib (.object ms) (.member name :: ss)
  | later {v w : Body} {s : Step} {ss : List Step} (step : step? v s = some w)
      (rest : Barred lib w ss) : Barred lib v (s :: ss)

/-- A step finds what it finds anyway, unless it asks an object that is taken for a number. -/
theorem stepIn?_member? (lib : JsonLibrary) (v : Body) (s : Step) (ss : List Step) :
    stepIn? (member? lib) item? v s = step? v s ∨
      Barred lib v (s :: ss) ∧ stepIn? (member? lib) item? v s = none := by
  cases s with
  | item i => exact .inl rfl
  | member name =>
    cases v with
    | object ms =>
      cases taken : lib.takes ms with
      | false => exact .inl (if_neg (by simp [taken]))
      | true => exact .inr ⟨.here taken, if_pos taken⟩
    | _ => exact .inl rfl

theorem foldlM_of_barred {v : Body} {ss : List Step} (barred : Barred lib v ss) :
    ss.foldlM (stepIn? (member? lib) item?) v = none := by
  induction barred with
  | here taken =>
    rw [List.foldlM_cons]
    exact congrArg (Option.bind · _) (if_pos taken)
  | @later v w s ss step rest ih =>
    rw [List.foldlM_cons]
    rcases stepIn?_member? lib v s ss with same | ⟨-, lost⟩
    · rw [same, step]
      exact ih
    · rw [lost]
      rfl

theorem foldlM_of_not_barred {v : Body} {ss : List Step} (free : ¬ Barred lib v ss) :
    ss.foldlM (stepIn? (member? lib) item?) v = ss.foldlM step? v := by
  induction ss generalizing v with
  | nil => rfl
  | cons s ss ih =>
    rcases stepIn?_member? lib v s ss with same | ⟨barred, -⟩
    · rw [List.foldlM_cons, List.foldlM_cons, same]
      cases step : step? v s with
      | none => rfl
      | some w => exact ih fun barred => free (.later step barred)
    · exact absurd barred free

/-- A node to which a path leads is the one to which its steps lead. -/
theorem foldlM_step?_of_eq_some {v w : Body} {ss : List Step}
    (walk : ss.foldlM (stepIn? (member? lib) item?) v = some w) : ss.foldlM step? v = some w := by
  have free : ¬ Barred lib v ss := by
    intro barred
    rw [foldlM_of_barred barred] at walk
    cases walk
  rw [← foldlM_of_not_barred free, walk]

theorem untaken_of_step? {v w : Body} {s : Step} (untaken : v.Untaken lib)
    (step : step? v s = some w) : w.Untaken lib := by
  cases s with
  | item i =>
    cases v with
    | list xs => exact (Body.untaken_list xs).1 untaken w (List.mem_of_getElem? step)
    | _ => cases step
  | member name =>
    cases v with
    | object ms => exact ((Body.untaken_object ms).1 untaken).2 (name, w) (Record.mem_of_get? step)
    | _ => cases step

/-- Where nothing is taken for a number, no steps are barred. -/
theorem not_barred_of_untaken {v : Body} {ss : List Step} (untaken : v.Untaken lib) :
    ¬ Barred lib v ss := by
  intro barred
  induction barred with
  | here taken =>
    rw [untaken _ .self] at taken
    cases taken
  | later step rest ih => exact ih (untaken_of_step? untaken step)

end BodyPath

end HttpScript
