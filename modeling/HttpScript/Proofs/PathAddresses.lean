import HttpScript.Proofs.PathReading
import HttpScript.Proofs.TakenObjects

/-!
# Addresses in a body

An address says step by step where a node stands: under which name of an object, at which index of
a list. Written as a body path, it leads to that node and to no other. It leads nowhere exactly if a
step meets an object without the name, a list without the index, or a node of another kind.

    navigate? lib root (addressText ss) = some v ↔ Leads root ss v             (navigate?_address)

Texts and numbers have no members and no items, whatever the step is called. Nor has an object that
the library takes for a number, so that there must be none in the body.
-/

namespace HttpScript

namespace BodyPath

/-! ## Following -/

/-- The steps lead from one node to another: by members that objects have and items that lists
have. -/
inductive Leads : Body → List Step → Body → Prop where
  | here (v : Body) : Leads v [] v
  | member {ms : List (Wide × Body)} {name : Wide} {w v : Body} {ss : List Step}
      (mem : (name, w) ∈ ms) (rest : Leads w ss v) : Leads (.object ms) (.member name :: ss) v
  | item {xs : List Body} {i : Nat} {w v : Body} {ss : List Step} (found : xs[i]? = some w)
      (rest : Leads w ss v) : Leads (.list xs) (.item i :: ss) v

/-- The node has nothing to which the step leads. -/
inductive Stuck : Body → Step → Prop where
  | missing {ms : List (Wide × Body)} {name : Wide} (absent : ∀ e ∈ ms, e.1 ≠ name) :
      Stuck (.object ms) (.member name)
  | outside {xs : List Body} {i : Nat} (past : xs.length ≤ i) : Stuck (.list xs) (.item i)
  | notObject {v : Body} {name : Wide} (kind : ∀ ms, v ≠ .object ms) : Stuck v (.member name)
  | notList {v : Body} {i : Nat} (kind : ∀ xs, v ≠ .list xs) : Stuck v (.item i)

theorem step?_eq_none_iff (v : Body) (s : Step) : step? v s = none ↔ Stuck v s := by
  cases s with
  | member name =>
    constructor
    · intro lost
      cases v with
      | object ms =>
        refine .missing fun e he same => ?_
        have absent : Record.get? ms name = none := lost
        rw [← Record.has_eq_false_iff_get?] at absent
        exact Bool.eq_false_iff.1 absent ((Record.has_iff ms name).2 ⟨e, he, same⟩)
      | _ => exact .notObject fun _ => nofun
    · intro stuck
      cases stuck with
      | @missing ms _ absent =>
        show Record.get? ms name = none
        rw [← Record.has_eq_false_iff_get?, Bool.eq_false_iff, Ne, Record.has_iff]
        rintro ⟨e, he, same⟩
        exact absent e he same
      | notObject kind =>
        cases v with
        | object ms => exact absurd rfl (kind ms)
        | _ => rfl
  | item i =>
    constructor
    · intro lost
      cases v with
      | list xs => exact .outside (List.getElem?_eq_none_iff.1 lost)
      | _ => exact .notList fun _ => nofun
    · intro stuck
      cases stuck with
      | outside past => exact List.getElem?_eq_none past
      | notList kind =>
        cases v with
        | list xs => exact absurd rfl (kind xs)
        | _ => rfl

theorem leads_iff (root v : Body) (distinct : root.Distinct) (ss : List Step) :
    ss.foldlM step? root = some v ↔ Leads root ss v := by
  constructor
  · intro walk
    induction ss generalizing root with
    | nil =>
      obtain rfl : root = v := Option.some.inj walk
      exact .here root
    | cons s ss ih =>
      rw [List.foldlM_cons] at walk
      obtain ⟨w, first, rest⟩ := Option.bind_eq_some_iff.1 walk
      cases s with
      | member name =>
        cases root with
        | object ms =>
          have mem : (name, w) ∈ ms := Record.mem_of_get? first
          exact .member mem (ih w (fun ns part => distinct ns (.member mem part)) rest)
        | _ => cases first
      | item i =>
        cases root with
        | list xs =>
          have mem : w ∈ xs := List.mem_of_getElem? first
          exact .item first (ih w (fun ns part => distinct ns (.item mem part)) rest)
        | _ => cases first
  · intro leads
    induction leads with
    | here v => rfl
    | @member ms name w v ss mem rest ih =>
      have held : Record.get? ms name = some w := (distinct ms .self).get?_of_mem mem
      have inner := ih fun ns part => distinct ns (.member mem part)
      rw [List.foldlM_cons]
      exact Option.bind_eq_some_iff.2 ⟨w, held, inner⟩
    | @item xs i w v ss found rest ih =>
      have mem : w ∈ xs := List.mem_of_getElem? found
      have inner := ih fun ns part => distinct ns (.item mem part)
      rw [List.foldlM_cons]
      exact Option.bind_eq_some_iff.2 ⟨w, found, inner⟩

/-- Steps lead nowhere exactly if one of them has nothing to lead to. -/
theorem foldlM_step?_eq_none_iff (root : Body) (ss : List Step) :
    ss.foldlM step? root = none ↔
      ∃ before s after v, ss = before ++ s :: after ∧ before.foldlM step? root = some v ∧
        step? v s = none := by
  constructor
  · intro lost
    induction ss generalizing root with
    | nil => cases lost
    | cons s ss ih =>
      rw [List.foldlM_cons] at lost
      cases first : step? root s with
      | none => exact ⟨[], s, ss, root, rfl, rfl, first⟩
      | some w =>
        rw [first] at lost
        obtain ⟨before, t, after, v, rfl, walked, stuck⟩ := ih w lost
        refine ⟨s :: before, t, after, v, rfl, ?_, stuck⟩
        rw [List.foldlM_cons, first]
        exact walked
  · rintro ⟨before, s, after, v, rfl, walked, stuck⟩
    rw [List.foldlM_append, walked]
    show (s :: after).foldlM step? v = none
    rw [List.foldlM_cons, stuck]
    rfl

/-! ## Addresses as paths -/

/-- A step that can be written: a name is a string that is not empty and has no point and no bracket
in it. -/
def Step.Plain : Step → Prop
  | .member name => .ofString name.text = name ∧ name.text.toList ≠ [] ∧
      ∀ c ∈ name.text.toList, c ≠ '.' ∧ isBracket c = false
  | .item _ => True

/-- A step behind another one: a name after a point, an index in brackets. -/
def stepText : Step → List Char
  | .member name => '.' :: name.text.toList
  | .item index => bracketed (Nat.toDigits 10 index)

/-- Text of an address. A name at its front has no point before it. -/
def addressText : List Step → String
  | .member name :: ss => String.ofList (name.text.toList ++ ss.flatMap stepText)
  | ss => String.ofList (ss.flatMap stepText)

/-- The indexes up to the next name, and the segments from there on. -/
def grouped : List Step → List Nat × BodyPath
  | [] => ([], [])
  | .item i :: ss => (i :: (grouped ss).1, (grouped ss).2)
  | .member name :: ss => ([], ⟨some name.text, (grouped ss).1⟩ :: (grouped ss).2)

/-- The path of an address. -/
def ofSteps (ss : List Step) : BodyPath :=
  match (grouped ss).1 with
  | [] => (grouped ss).2
  | i :: is => ⟨none, i :: is⟩ :: (grouped ss).2

/-- Text of a segment behind a point. -/
def laterText (g : Segment) : List Char := '.' :: segmentText g

theorem text_cons (g : Segment) (p : BodyPath) :
    text (g :: p) = String.ofList (segmentText g ++ p.flatMap laterText) := by
  unfold text
  congr 1
  induction p generalizing g with
  | nil => simp
  | cons h p ih =>
    rw [List.map_cons, List.map_cons, List.intercalate_cons_cons, ← List.map_cons, ih,
      List.append_assoc]
    rfl

theorem flatMap_stepText (ss : List Step) : ss.flatMap stepText =
    ((grouped ss).1.map (Nat.toDigits 10)).flatMap bracketed ++
      (grouped ss).2.flatMap laterText := by
  induction ss with
  | nil => rfl
  | cons s ss ih =>
    rw [List.flatMap_cons, ih]
    cases s with
    | item i => simp [grouped, stepText]
    | member name => simp [grouped, stepText, laterText, segmentText_eq]

/-- An address is written as its path is. -/
theorem text_ofSteps (ss : List Step) (nonempty : ss ≠ []) :
    text (ofSteps ss) = addressText ss := by
  cases ss with
  | nil => exact absurd rfl nonempty
  | cons s ss =>
    cases s with
    | member name =>
      show text (_ :: _) = String.ofList (name.text.toList ++ ss.flatMap stepText)
      rw [text_cons, segmentText_eq, flatMap_stepText, List.append_assoc]
      rfl
    | item i =>
      show text (_ :: _) = String.ofList ((Step.item i :: ss).flatMap stepText)
      rw [text_cons, segmentText_eq, flatMap_stepText]
      rfl

theorem steps_grouped (ss : List Step) (plain : ∀ s ∈ ss, s.Plain) :
    (grouped ss).1.map Step.item ++ steps (grouped ss).2 = ss := by
  induction ss with
  | nil => rfl
  | cons s ss ih =>
    obtain ⟨first, others⟩ := List.forall_mem_cons.1 plain
    cases s with
    | item i => exact congrArg (Step.item i :: ·) (ih others)
    | member name =>
      show Step.member (.ofString name.text) :: ((grouped ss).1.map Step.item ++
        steps (grouped ss).2) = _
      rw [ih others, first.1]

/-- The path of an address has its steps. -/
theorem steps_ofSteps (ss : List Step) (plain : ∀ s ∈ ss, s.Plain) :
    steps (ofSteps ss) = ss := by
  have all := steps_grouped ss plain
  unfold ofSteps
  cases leading : (grouped ss).1 with
  | nil => rwa [leading] at all
  | cons i is => rwa [leading] at all

theorem plain_grouped (ss : List Step) (plain : ∀ s ∈ ss, s.Plain) :
    ∀ g ∈ (grouped ss).2, g.Plain := by
  induction ss with
  | nil => exact nofun
  | cons s ss ih =>
    have rest := ih fun s hs => plain s (List.mem_cons_of_mem _ hs)
    cases s with
    | item i => exact rest
    | member name =>
      refine List.forall_mem_cons.2 ⟨⟨?_, .inl nofun⟩, rest⟩
      intro n hn
      obtain rfl := Option.some.inj hn
      exact (plain _ List.mem_cons_self).2

theorem plain_ofSteps (ss : List Step) (plain : ∀ s ∈ ss, s.Plain) :
    ∀ g ∈ ofSteps ss, g.Plain := by
  have rest := plain_grouped ss plain
  unfold ofSteps
  cases (grouped ss).1 with
  | nil => exact rest
  | cons i is => exact List.forall_mem_cons.2 ⟨⟨nofun, .inr nofun⟩, rest⟩

theorem ofSteps_ne_nil (ss : List Step) (nonempty : ss ≠ []) : ofSteps ss ≠ [] := by
  unfold ofSteps
  cases ss with
  | nil => exact absurd rfl nonempty
  | cons s ss => cases s <;> exact List.cons_ne_nil _ _

/-- The text of an address is followed step by step. -/
theorem navigate?_addressText (lib : JsonLibrary) (root : Body) (untaken : root.Untaken lib)
    (ss : List Step) (nonempty : ss ≠ []) (plain : ∀ s ∈ ss, s.Plain) :
    navigate? lib root (addressText ss) = ss.foldlM step? root := by
  unfold navigate?
  rw [← text_ofSteps ss nonempty,
    parse?_text_of_plain (ofSteps_ne_nil ss nonempty) (plain_ofSteps ss plain), Option.bind_some,
    follow?_eq_foldlM, steps_ofSteps ss plain, foldlM_of_not_barred (not_barred_of_untaken untaken)]

/-- The text of an address leads to the node that the address leads to. It leads nowhere exactly if
the steps come to a node that has nothing to which the next step leads. -/
theorem navigate?_address (lib : JsonLibrary) (root : Body) (distinct : root.Distinct)
    (untaken : root.Untaken lib) (ss : List Step) (nonempty : ss ≠ [])
    (plain : ∀ s ∈ ss, s.Plain) :
    (∀ v, navigate? lib root (addressText ss) = some v ↔ Leads root ss v) ∧
      (navigate? lib root (addressText ss) = none ↔
        ∃ before s after v, ss = before ++ s :: after ∧ Leads root before v ∧ Stuck v s) := by
  rw [navigate?_addressText lib root untaken ss nonempty plain]
  refine ⟨fun v => leads_iff root v distinct ss, ?_⟩
  rw [foldlM_step?_eq_none_iff]
  constructor
  · rintro ⟨before, s, after, v, shape, walked, lost⟩
    exact ⟨before, s, after, v, shape, (leads_iff root v distinct before).1 walked,
      (step?_eq_none_iff v s).1 lost⟩
  · rintro ⟨before, s, after, v, shape, leads, stuck⟩
    exact ⟨before, s, after, v, shape, (leads_iff root v distinct before).2 leads,
      (step?_eq_none_iff v s).2 stuck⟩

/-- A number in an item of a list, and a member that only texts and lists have. The library takes
every object with the member that marks a number for one. -/
theorem navigate?_address_number :
    let root : Body := .object [("items", .list [.object [("id", .number (.literal "7"))]])]
    let lib : JsonLibrary :=
      ⟨(Record.has · "isLosslessNumber"), fun _ => none, fun _ => "", fun _ => id⟩
    navigate? lib root "items[0].id" = some (.number (.literal "7")) ∧
      navigate? lib root "items[0].id.length" = none := by
  intro root lib
  have distinct : root.Distinct := by simp [root, Record.Distinct, Record.names]
  have untaken : root.Untaken lib := by simp [root, lib, Record.has]
  have plain : ∀ s ∈ [Step.member "items", .item 0, .member "id", .member "length"], s.Plain := by
    simp [Step.Plain, isBracket]
  have leads : Leads root [.member "items", .item 0, .member "id"] (.number (.literal "7")) :=
    .member List.mem_cons_self (.item rfl (.member List.mem_cons_self (.here _)))
  have stuck : Stuck (.number (.literal "7")) (.member "length") := by
    refine .notObject fun ms same => ?_
    cases same
  refine ⟨((navigate?_address lib root distinct untaken _ (by simp) fun s hs => plain s ?_).1 _).2
    leads, (navigate?_address lib root distinct untaken _ (by simp) plain).2.2
      ⟨_, _, [], _, rfl, leads, stuck⟩⟩
  exact List.mem_append_left [.member "length"] hs

end BodyPath

end HttpScript
