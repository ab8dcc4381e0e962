import HttpScript.Command.Run
import HttpScript.Proofs.BlockMeaning
import HttpScript.Proofs.NewEntries
import HttpScript.Proofs.RecordMerge
import HttpScript.Proofs.Scan
import HttpScript.Proofs.SessionHistory

/-!
# Variables of the command line

The variables that the command line sets are collected in a record, which tells spellings of a name
apart, and are then set in the order of that record, ignoring case. So the spelling counts whose
first use comes last, with the last value under it.

    ["a=1", "A=2"]           sets a to 2
    ["a=1", "A=2", "a=3"]    sets a to 2, although the last argument has 3

The last argument that sets a name counts where the name is spelled in one way, which is not the
reserved one (`find?_overrides_of_prepare`).
-/

namespace HttpScript

namespace Record

open Text (lower sameIgnoringCase sameIgnoringCase_iff)

variable {α : Type}

/-! ## Spellings -/

/-- The spellings of a name, in the order of their first uses. -/
def spellings (name : String) (es : List (String × α)) : List String :=
  (names (named name es)).eraseDups

/-- The spelling of a name whose first use comes last. -/
def newest? (name : String) (es : List (String × α)) : Option String :=
  (spellings name es).getLast?

/-- The last value under the newest spelling of a name. -/
def newestValue? (name : String) (es : List (String × α)) : Option α :=
  (newest? name es).bind (lastWritten? · es)

theorem names_named (name : String) (r : Record α) :
    names (named name r) = r.names.filter (sameIgnoringCase · name) := by
  unfold names
  rw [List.filter_map]
  rfl

theorem mem_names_named_iff {name key : String} {r : Record α} :
    key ∈ names (named name r) ↔ key ∈ r.names ∧ lower key = lower name := by
  rw [names_named, List.mem_filter, sameIgnoringCase_iff]

theorem mem_spellings_iff {name key : String} {es : List (String × α)} :
    key ∈ spellings name es ↔ key ∈ names es ∧ lower key = lower name := by
  rw [spellings, List.mem_eraseDups, mem_names_named_iff]

theorem names_named_concat (name : String) (es : List (String × α)) (e : String × α) :
    names (named name (es ++ [e])) =
      if lower e.1 = lower name then names (named name es) ++ [e.1]
      else names (named name es) := by
  rw [named_append, names, List.map_append, named_cons]
  split
  · rfl
  · exact List.append_nil _

theorem names_named_put_of_mem {r : Record α} {key : String} (there : key ∈ r.names) (value : α)
    (name : String) : names (named name (r.put key value)) = names (named name r) := by
  have held : r.has key = true := by
    by_contra new
    exact has_eq_false_iff_names.1 (Bool.eq_false_iff.2 new) there
  rw [put, if_pos held, names_named, names_replace, names_named]

/-- A new spelling stands behind the other ones of its name. -/
theorem names_named_put_of_new {r : Record α} {key : String} (new : key ∉ r.names) (value : α)
    (name : String) :
    names (named name (r.put key value)) =
      if lower key = lower name then names (named name r) ++ [key] else names (named name r) := by
  rw [put, has_eq_false_iff_names.2 new, if_neg Bool.false_ne_true, named_insert new]
  have last := names_named_concat name r (key, value)
  rwa [named_append] at last

/-- A record of writes has the spellings of a name in the order of their first uses. -/
theorem names_named_ofList (name : String) (es : List (String × α)) :
    names (named name (ofList es)) = spellings name es := by
  induction es using List.reverseRecOn with
  | nil => rfl
  | append_singleton es e ih =>
    have put : ofList (es ++ [e]) = (ofList es).put e.1 e.2 := List.foldl_append
    have used : lower e.1 = lower name →
        (e.1 ∈ names (named name es) ↔ e.1 ∈ (ofList es).names) := fun same => by
      have held : e.1 ∈ names (named name (ofList es)) ↔ e.1 ∈ names es := by
        rw [ih, mem_spellings_iff, and_iff_left same]
      rw [mem_names_named_iff, and_iff_left same] at held
      rw [mem_names_named_iff, and_iff_left same, held]
    rw [put, spellings, names_named_concat]
    by_cases there : e.1 ∈ (ofList es).names
    · rw [names_named_put_of_mem there, ih]
      split
      · next same => rw [Session.eraseDups_concat, if_pos ((used same).2 there), spellings]
      · rfl
    · rw [names_named_put_of_new there, ih]
      split
      · next same => rw [Session.eraseDups_concat, if_neg (mt (used same).1 there), spellings]
      · rfl

/-- The last entry with a name is the last of its spellings, with the value held under that. -/
theorem lastNamed?_eq_bind_get? {r : Record α} (distinct : r.Distinct) (name : String) :
    lastNamed? name r = (names (named name r)).getLast?.bind r.get? := by
  have last : lastNamed? name r = (named name r).getLast?.map (·.2) := by
    unfold lastNamed? firstNamed? named
    rw [List.getLast?_eq_head?_reverse, ← List.filter_reverse, List.head?_filter]
  rw [last, names, List.getLast?_map]
  cases found : (named name r).getLast? with
  | none => rfl
  | some e =>
    have he := (mem_named_iff.1 (List.mem_of_getLast? found)).1
    exact (distinct.get?_of_mem he).symm

/-- What counts in a record of writes, where it is written ignoring case: the newest spelling. -/
theorem lastNamed?_ofList (name : String) (es : List (String × α)) :
    lastNamed? name (ofList es) = newestValue? name es := by
  rw [lastNamed?_eq_bind_get? (distinct_ofList es), names_named_ofList]
  show (newest? name es).bind _ = (newest? name es).bind _
  exact Option.bind_congr fun key _ => get?_ofList es key

theorem mem_of_mem_ofList {es : List (String × α)} {e : String × α} (he : e ∈ ofList es) :
    e ∈ es :=
  mem_of_lastWritten? ((get?_ofList es e.1).symm.trans ((distinct_ofList es).get?_of_mem he))

theorem lastNamed?_storedFills {name : String} {es : List (String × α)}
    (kept : ∀ e ∈ es, lower e.1 = lower name → e.1 ≠ reservedName) :
    lastNamed? name (storedFills es) = lastNamed? name es := by
  induction es with
  | nil => rfl
  | cons e es ih =>
    have later := ih fun f hf => kept f (List.mem_cons_of_mem e hf)
    unfold storedFills at later ⊢
    rw [List.filter_cons, lastNamed?_cons, ← later]
    split
    · rw [lastNamed?_cons]
    · next reserved =>
      have other : lower e.1 ≠ lower name := fun same =>
        reserved (bne_iff_ne.2 (kept e List.mem_cons_self same))
      rw [if_neg other, Option.or_none]

theorem mem_of_newest? {name key : String} {es : List (String × α)}
    (newest : newest? name es = some key) : ∃ e ∈ es, e.1 = key ∧ lower key = lower name := by
  obtain ⟨held, same⟩ := mem_spellings_iff.1 (List.mem_of_getLast? newest)
  obtain ⟨e, he, rfl⟩ := List.mem_map.1 held
  exact ⟨e, he, rfl, same⟩

theorem newest?_eq_none_iff {name : String} {es : List (String × α)} :
    newest? name es = none ↔ lastNamed? name es = none := by
  rw [lastNamed?_eq_none_iff, newest?, List.getLast?_eq_none_iff, List.eq_nil_iff_forall_not_mem]
  constructor
  · exact fun empty e he same => empty e.1 (mem_spellings_iff.2 ⟨List.mem_map_of_mem he, same⟩)
  · intro absent key there
    obtain ⟨held, same⟩ := mem_spellings_iff.1 there
    obtain ⟨e, he, rfl⟩ := List.mem_map.1 held
    exact absent e he same

theorem lastWritten?_eq_lastNamed? {name key : String} {es : List (String × α)}
    (alike : ∀ e ∈ es, lower e.1 = lower name ↔ e.1 = key) :
    lastWritten? key es = lastNamed? name es := by
  induction es with
  | nil => rfl
  | cons e es ih =>
    rw [lastWritten?_cons, lastNamed?_cons, ih fun f hf => alike f (List.mem_cons_of_mem e hf)]
    simp only [alike e List.mem_cons_self]

/-- Under a name that is spelled in one way, the last value counts. -/
theorem newestValue?_of_spelled_alike {name key : String} {es : List (String × α)}
    (alike : ∀ e ∈ es, lower e.1 = lower name → e.1 = key) :
    newestValue? name es = lastNamed? name es := by
  unfold newestValue?
  cases newest : newest? name es with
  | none => exact (newest?_eq_none_iff.1 newest).symm
  | some k =>
    obtain ⟨e, he, rfl, same⟩ := mem_of_newest? newest
    obtain rfl := alike e he same
    exact lastWritten?_eq_lastNamed? fun f hf => ⟨alike f hf, fun spelled => spelled ▸ same⟩

end Record

/-! ## Arguments -/

/-- A cut is made at the first separator. -/
theorem Text.cutAt?_eq_some_iff {sep : Char → Bool} {s before after : List Char} :
    cutAt? sep s = some (before, after) ↔
      ∃ c, s = before ++ c :: after ∧ sep c = true ∧ ∀ d ∈ before, sep d = false := by
  unfold cutAt?
  constructor
  · intro cut
    split at cut
    · cases cut
    · next c rest left =>
      obtain ⟨whole, stop⟩ := Block.dropWhile_eq_cons left
      obtain ⟨rfl, rfl⟩ := Prod.mk.inj (Option.some.inj cut)
      rw [Bool.not_eq_false'] at stop
      exact ⟨c, whole, stop, fun d hd => Block.eq_false_of_mem_takeWhile_not hd⟩
  · rintro ⟨c, rfl, stop, front⟩
    have kept : ∀ d ∈ before, (!sep d) = true := fun d hd => by rw [front d hd, Bool.not_false]
    have ended : (!sep c) = false := by rw [stop, Bool.not_true]
    obtain ⟨taken, dropped⟩ := takeWhile_dropWhile_of_stop kept c after ended
    rw [taken, dropped]

namespace Command.Run

open Text (lower)
open Record (lastNamed? firstNamed? newestValue? storedFills writeAll)

/-- The argument sets the name, in some spelling, to a value: the text behind its first equals sign.
The part in front of that is not empty. -/
def Sets (arg name value : String) : Prop :=
  ∃ key, key ≠ "" ∧ '=' ∉ key.toList ∧ lower key = lower name ∧ arg = key ++ "=" ++ value

/-- What the last argument that sets the name sets it to, if there is one. -/
def LastSets (vars : List String) (name : String) : Option String → Prop
  | some value => ∃ before arg after, vars = before ++ arg :: after ∧ Sets arg name value ∧
      ∀ later ∈ after, ∀ other, ¬ Sets later name other
  | none => ∀ arg ∈ vars, ∀ value, ¬ Sets arg name value

theorem setting?_eq_some_iff {arg key value : String} :
    setting? arg = some (key, value) ↔
      key ≠ "" ∧ '=' ∉ key.toList ∧ arg = key ++ "=" ++ value := by
  unfold setting?
  constructor
  · intro set
    split at set
    · next c front rest cut =>
      obtain ⟨rfl, rfl⟩ := Prod.mk.inj (Option.some.inj set)
      obtain ⟨d, whole, stop, inner⟩ := Text.cutAt?_eq_some_iff.1 cut
      obtain rfl : d = '=' := beq_iff_eq.1 stop
      refine ⟨fun empty => ?_, fun there => ?_, ?_⟩
      · have chars := congrArg String.toList empty
        rw [String.toList_ofList] at chars
        cases chars
      · rw [String.toList_ofList] at there
        exact Bool.false_ne_true (inner _ there).symm
      · apply String.toList_injective
        rw [whole]
        simp
    · cases set
  · rintro ⟨filled, front, rfl⟩
    cases spelled : key.toList with
    | nil => exact absurd (String.toList_injective spelled) filled
    | cons c r =>
      have cut : Text.cutAt? (· == '=') (key ++ "=" ++ value).toList =
          some (c :: r, value.toList) := by
        refine Text.cutAt?_eq_some_iff.2 ⟨'=', by simp [← spelled], rfl, fun d hd => ?_⟩
        rw [← spelled] at hd
        exact beq_false_of_ne fun same => front (same ▸ hd)
      rw [cut]
      show some (String.ofList (c :: r), String.ofList value.toList) = some (key, value)
      rw [← spelled, String.ofList_toList, String.ofList_toList]

/-- The value that an argument sets a name to. -/
def valueFor? (name arg : String) : Option String :=
  (setting? arg).bind fun e => if lower e.1 = lower name then some e.2 else none

theorem valueFor?_eq_some_iff {name arg value : String} :
    valueFor? name arg = some value ↔ Sets arg name value := by
  unfold valueFor? Sets
  rw [Option.bind_eq_some_iff]
  constructor
  · rintro ⟨⟨key, v⟩, set, named⟩
    obtain ⟨filled, front, whole⟩ := setting?_eq_some_iff.1 set
    split at named
    · next same =>
      obtain rfl := Option.some.inj named
      exact ⟨key, filled, front, same, whole⟩
    · cases named
  · rintro ⟨key, filled, front, same, whole⟩
    exact ⟨(key, value), setting?_eq_some_iff.2 ⟨filled, front, whole⟩, if_pos same⟩

theorem valueFor?_eq_none_iff {name arg : String} :
    valueFor? name arg = none ↔ ∀ value, ¬ Sets arg name value := by
  rw [Option.eq_none_iff_forall_ne_some]
  exact forall_congr' fun value => not_congr valueFor?_eq_some_iff

theorem firstNamed?_settings (name : String) (vars : List String) :
    firstNamed? name (vars.filterMap setting?) = vars.findSome? (valueFor? name) := by
  induction vars with
  | nil => rfl
  | cons arg vars ih =>
    rw [List.findSome?_cons, valueFor?]
    cases set : setting? arg with
    | none => rw [List.filterMap_cons_none set, ih, Option.bind_none]
    | some e =>
      rw [List.filterMap_cons_some set, Record.firstNamed?_cons, ih, Option.bind_some]
      split <;> rfl

/-- The last setting of a name is that of the last argument that sets it. -/
theorem lastSets_iff {vars : List String} {name : String} {value : Option String} :
    LastSets vars name value ↔ lastNamed? name (vars.filterMap setting?) = value := by
  rw [lastNamed?, ← List.filterMap_reverse, firstNamed?_settings]
  unfold LastSets
  cases value with
  | none =>
    rw [List.findSome?_eq_none_iff]
    simp only [List.mem_reverse, valueFor?_eq_none_iff]
  | some value =>
    rw [List.findSome?_eq_some_iff]
    constructor
    · rintro ⟨before, arg, after, rfl, set, last⟩
      refine ⟨after.reverse, arg, before.reverse, by simp, valueFor?_eq_some_iff.2 set, ?_⟩
      exact fun later there => valueFor?_eq_none_iff.2 (last later (List.mem_reverse.1 there))
    · rintro ⟨after, arg, before, whole, set, last⟩
      refine ⟨before.reverse, arg, after.reverse, ?_, valueFor?_eq_some_iff.1 set, ?_⟩
      · rw [← List.reverse_reverse vars, whole]
        simp
      · exact fun later there => valueFor?_eq_none_iff.1 (last later (List.mem_reverse.1 there))

/-! ## What a run starts with -/

/-- The record of the settings, where a later one takes the place of an earlier one in the same
spelling. -/
theorem bindings_eq_ofList (vars : List String) :
    bindings vars = Record.ofList (storedFills (vars.filterMap setting?)) := by
  show Record.addAll [] _ = _
  rw [Record.addAll_eq_addAll_filter List.not_mem_nil, ← Record.merge_eq_addAll]
  · rfl
  · exact fun e he => bne_iff_ne.1 (List.mem_filter.1 he).2

theorem overrides_foldl_setVariable (es : List (String × String)) (r : Resolver) :
    (es.foldl (fun r e => r.setVariable e.1 e.2) r).overrides = r.overrides.writeAll es := by
  induction es generalizing r with
  | nil => rfl
  | cons e es ih => exact ih (r.setVariable e.1 e.2)

theorem overrides_of_prepare {w : Workspace} {o : RunOptions} {folder : Path} {p : Preparation}
    (prepared : prepare w o folder = .ok p) :
    p.resolver.overrides = writeAll [] (bindings o.bindings) := by
  unfold prepare at prepared
  split at prepared
  · cases prepared
  · obtain rfl := Except.ok.inj prepared
    rw [overrides_foldl_setVariable]
    -- no variable is set by loading the environments, whether that succeeds or not
    split <;> rfl

/-- What a run starts with answers for a name with the last value in its newest spelling. -/
theorem find?_writeAll_bindings (vars : List String) (name : String) :
    (writeAll [] (bindings vars)).find? name =
      newestValue? name (storedFills (vars.filterMap setting?)) := by
  have free : ∀ e ∈ bindings vars, e.1 ≠ Record.reservedName := by
    rw [bindings_eq_ofList]
    exact fun e he => bne_iff_ne.1 (List.mem_filter.1 (Record.mem_of_mem_ofList he)).2
  rw [Record.find?_eq_firstNamed? _ (Record.caseUnique_writeAll Record.caseUnique_nil _),
    Record.firstNamed?_writeAll_of_free Record.caseUnique_nil _ free, bindings_eq_ofList,
    Record.lastNamed?_ofList]
  exact Option.or_none

/-- The value that a run starts with for a name is the last one in the newest spelling of the
name. It is the one that the last argument sets the name to just when these agree, and so where the
name is spelled in one way, other than the reserved one. -/
theorem find?_overrides_of_prepare {w : Workspace} {o : RunOptions} {folder : Path}
    {p : Preparation} (prepared : prepare w o folder = .ok p) (name : String) :
    let settings := o.bindings.filterMap setting?
    p.resolver.overrides.find? name = newestValue? name (storedFills settings) ∧
    (LastSets o.bindings name (p.resolver.overrides.find? name) ↔
      newestValue? name (storedFills settings) = lastNamed? name settings) ∧
    ∀ key, key ≠ Record.reservedName →
      (∀ e ∈ settings, lower e.1 = lower name → e.1 = key) →
      LastSets o.bindings name (p.resolver.overrides.find? name) := by
  intro settings
  have answer : p.resolver.overrides.find? name = newestValue? name (storedFills settings) := by
    rw [overrides_of_prepare prepared, find?_writeAll_bindings]
  have agree : LastSets o.bindings name (p.resolver.overrides.find? name) ↔
      newestValue? name (storedFills settings) = lastNamed? name settings := by
    rw [lastSets_iff, answer]
    exact eq_comm
  refine ⟨answer, agree, fun key stored alike => agree.2 ?_⟩
  have all : lastNamed? name (storedFills settings) = lastNamed? name settings :=
    Record.lastNamed?_storedFills fun e he same => alike e he same ▸ stored
  rw [← all]
  exact Record.newestValue?_of_spelled_alike fun e he => alike e (List.mem_of_mem_filter he)

theorem exists_prepare_of_isSome {w : Workspace} {o : RunOptions} {folder : Path}
    (fine : (prepare w o folder).toOption.isSome = true) : ∃ p, prepare w o folder = .ok p := by
  cases prepared : prepare w o folder with
  | ok p => exact ⟨p, rfl⟩
  | error e =>
    rw [prepared] at fine
    cases fine

/-- Two names in several spellings. The newest spelling of the one holds its last value, and the
other one is spelled in one way. -/
theorem find?_overrides_of_prepare_two_names :
    let w : Workspace := ⟨⟨[], []⟩, ⟨["w"]⟩⟩
    let o : RunOptions := ⟨"a.http", none, none, false, none, none,
      ["a=1", "b", "7=x=y", "A=2", "=3", "7=", "a=2"], none, none, none, false, false⟩
    ∃ p, prepare w o ⟨["w"]⟩ = .ok p ∧ p.resolver.overrides.find? "A" = some "2" ∧
      LastSets o.bindings "A" (some "2") ∧ LastSets o.bindings "7" (some "") ∧
      LastSets o.bindings "b" none := by
  intro w o
  obtain ⟨p, prepared⟩ : ∃ p, prepare w o ⟨["w"]⟩ = .ok p :=
    exists_prepare_of_isSome (by decide +kernel)
  obtain ⟨a, a_last, -⟩ := find?_overrides_of_prepare prepared "A"
  obtain ⟨seven, -, seven_last⟩ := find?_overrides_of_prepare prepared "7"
  obtain ⟨b, b_last, -⟩ := find?_overrides_of_prepare prepared "b"
  have a_two : p.resolver.overrides.find? "A" = some "2" := a.trans (by decide +kernel)
  have seven_empty : p.resolver.overrides.find? "7" = some "" := seven.trans (by decide +kernel)
  have b_none : p.resolver.overrides.find? "b" = none := b.trans (by decide +kernel)
  refine ⟨p, prepared, a_two, ?_, ?_, ?_⟩
  · exact a_two ▸ a_last.2 (by decide +kernel)
  · exact seven_empty ▸ seven_last "7" (by decide) (by decide +kernel)
  · exact b_none ▸ b_last.2 (by decide +kernel)

/-- An earlier argument counts where its spelling is newer: the last argument with the name has the
value 3, but the run starts with 2. -/
theorem prepare_newer_spelling :
    let w : Workspace := ⟨⟨[], []⟩, ⟨["w"]⟩⟩
    let o : RunOptions := ⟨"a.http", none, none, false, none, none, ["a=1", "A=2", "a=3"], none,
      none, none, false, false⟩
    ∃ p, prepare w o ⟨["w"]⟩ = .ok p ∧ p.resolver.overrides.find? "a" = some "2" ∧
      LastSets o.bindings "a" (some "3") ∧
      ¬ LastSets o.bindings "a" (p.resolver.overrides.find? "a") := by
  intro w o
  obtain ⟨p, prepared⟩ : ∃ p, prepare w o ⟨["w"]⟩ = .ok p :=
    exists_prepare_of_isSome (by decide +kernel)
  have two : p.resolver.overrides.find? "a" = some "2" := by
    rw [overrides_of_prepare prepared]
    decide +kernel
  refine ⟨p, prepared, two, ?_, ?_⟩
  · rw [lastSets_iff]
    decide +kernel
  · rw [two, lastSets_iff]
    decide +kernel

end Command.Run

end HttpScript
