import HttpScript.Document.Line
import HttpScript.Header
import HttpScript.Proofs.NewEntries
import Mathlib.Data.String.Basic
import Mathlib.Tactic.Tauto

/-!
# Headers of responses

What arrives is collected under the names in lower case, each with all its values in the order of
arrival. Two names are not collected so. A record answers to `constructor` before anything is
written there, and this text is joined to the values; the reserved name is not stored at all.

    (collect hs).get? n = ", ".intercalate (given hs n)      for all other names n of hs

    collect [("Accept", "a"), ("accept", "b")] = [("accept", "a, b")]
-/

namespace HttpScript.Header

open Text (lower asciiLower IsAscii lower_of_isAscii lower_asciiLower)
open Record (Distinct Plain addAll reservedName standardMember? mem_names_assign assign_assign
  assign_reservedName addAll_of_plain addAll_eq_addAll_filter)

/-! ## Names -/

theorem mem_insertName {name n : String} {ns : List String} :
    n ∈ insertName name ns ↔ n = name ∨ n ∈ ns := by
  induction ns with
  | nil => exact Iff.rfl.trans (List.mem_singleton.trans (or_iff_left List.not_mem_nil).symm)
  | cons m ns ih =>
    rw [insertName]
    split
    · next same =>
      rw [beq_iff_eq.1 same, List.mem_cons]
      tauto
    split
    · exact List.mem_cons
    · rw [List.mem_cons, ih, List.mem_cons]
      tauto

theorem pairwise_insertName (name : String) {ns : List String} (ascending : ns.Pairwise (· < ·)) :
    (insertName name ns).Pairwise (· < ·) := by
  induction ns with
  | nil => exact List.pairwise_singleton _ _
  | cons m ns ih =>
    obtain ⟨first, rest⟩ := List.pairwise_cons.1 ascending
    rw [insertName]
    split
    · exact ascending
    next other =>
    split
    · next front =>
      refine List.pairwise_cons.2 ⟨fun n hn => ?_, ascending⟩
      rcases List.mem_cons.1 hn with rfl | hn
      · exact front
      · exact front.trans (first n hn)
    · next behind =>
      refine List.pairwise_cons.2 ⟨fun n hn => ?_, ih rest⟩
      rcases mem_insertName.1 hn with rfl | hn
      · exact lt_of_le_of_ne (not_lt.1 behind) fun same => other (beq_iff_eq.2 same.symm)
      · exact first n hn

variable {hs : List (String × String)}

theorem mem_sortedNames {n : String} : n ∈ sortedNames hs ↔ ∃ h ∈ hs, asciiLower h.1 = n := by
  have onto (ns : List String) : n ∈ hs.foldl (fun ns h => insertName (asciiLower h.1) ns) ns ↔
      (∃ h ∈ hs, asciiLower h.1 = n) ∨ n ∈ ns := by
    induction hs generalizing ns with
    | nil => simp
    | cons h hs ih =>
      rw [List.foldl_cons, ih, mem_insertName, List.exists_mem_cons_iff, or_left_comm, or_assoc,
        eq_comm (a := n)]
  exact (onto []).trans (or_iff_left List.not_mem_nil)

theorem nodup_sortedNames (hs : List (String × String)) : (sortedNames hs).Nodup := by
  have onto (ns : List String) (ascending : ns.Pairwise (· < ·)) :
      (hs.foldl (fun ns h => insertName (asciiLower h.1) ns) ns).Pairwise (· < ·) := by
    induction hs generalizing ns with
    | nil => exact ascending
    | cons h hs ih => exact ih _ (pairwise_insertName _ ascending)
  exact (onto [] List.Pairwise.nil).imp ne_of_lt

/-! ## Values -/

/-- The values under a name in lower case, without the blanks around them. -/
def given (hs : List (String × String)) (name : String) : List String :=
  (hs.filter fun h => lower h.1 == name).map fun h => trimValue h.2

/-- Whether all names are written with the characters that a header name may have. -/
def Valid (hs : List (String × String)) : Prop := ∀ h ∈ hs, h.1.toList.all Line.isTokenChar = true

instance (hs : List (String × String)) : Decidable (Valid hs) :=
  inferInstanceAs (Decidable (∀ h ∈ hs, _))

theorem toNat_of_isTokenChar {c : Char} (token : Line.isTokenChar c = true) : c.toNat < 128 := by
  have others : "!#$%&'*+.^_\x60|~-".toList.all (·.toNat < 128) = true := by decide +kernel
  rcases (Bool.or_eq_true _ _).mp token with letter | other
  · rcases (Bool.or_eq_true _ _).mp letter with letter | digit
    · have := Text.toNat_of_isAlpha letter
      omega
    · have : c.toNat ≤ 57 := (Char.isDigit_iff_toNat.1 digit).2
      omega
  · exact of_decide_eq_true (List.all_eq_true.1 others c (List.contains_iff_mem.1 other))

theorem Valid.isAscii (valid : Valid hs) {h : String × String} (hh : h ∈ hs) : IsAscii h.1 :=
  fun c hc => toNat_of_isTokenChar (List.all_eq_true.1 (valid h hh) c hc)

theorem Valid.values_eq_given (valid : Valid hs) (n : String) : values hs n = given hs n := by
  unfold values given
  rw [← List.filterMap_eq_map, List.filterMap_filter]
  refine List.filterMap_congr fun h hh => ?_
  rw [lower_of_isAscii (valid.isAscii hh)]
  rfl

theorem Valid.mem_sortedNames (valid : Valid hs) {n : String} :
    n ∈ sortedNames hs ↔ ∃ h ∈ hs, lower h.1 = n := by
  rw [Header.mem_sortedNames]
  refine exists_congr fun h => and_congr_right fun hh => ?_
  rw [lower_of_isAscii (valid.isAscii hh)]

theorem Valid.lower_sortedName (valid : Valid hs) {n : String} (hn : n ∈ sortedNames hs) :
    lower n = n := by
  obtain ⟨h, hh, rfl⟩ := Header.mem_sortedNames.1 hn
  exact lower_asciiLower (valid.isAscii hh)

theorem values_ne_nil {n : String} (hn : n ∈ sortedNames hs) : values hs n ≠ [] := by
  obtain ⟨h, hh, same⟩ := mem_sortedNames.1 hn
  have there : trimValue h.2 ∈ values hs n := by
    refine List.mem_filterMap.2 ⟨h, hh, ?_⟩
    rw [same, if_pos (beq_self_eq_true n)]
  exact List.ne_nil_of_mem there

/-! ## Joining -/

/-- The text collected under a name from these values. -/
def joinedWith (name : String) (vs : List String) : String :=
  ", ".intercalate ((standardMember? name).toList ++ vs)

theorem addValue_of_get? {r : Record String} {name old : String} (there : r.get? name = some old)
    (value : String) : addValue r name value = r.assign name (old ++ ", " ++ value) := by
  rw [addValue, Record.textOf?, there]
  rfl

theorem addValue_of_new {r : Record String} {name : String} (new : name ∉ r.names)
    (value : String) : addValue r name value = r.assign name (joinedWith name [value]) := by
  have absent : r.get? name = none :=
    (Record.has_eq_false_iff_get? r name).1 (Record.has_eq_false_iff_names.2 new)
  rw [addValue, Record.textOf?, absent, joinedWith]
  cases standardMember? name with
  | none => simp
  | some text => simp

/-- Further values are joined to the one that is there. -/
theorem foldl_addValue {r : Record String} {name : String} (new : name ∉ r.names)
    (stored : name ≠ reservedName) (first : String) (vs : List String) :
    vs.foldl (fun r v => addValue r name v) (r.assign name first) =
      r.assign name (", ".intercalate (first :: vs)) := by
  induction vs generalizing first with
  | nil => rw [List.foldl_nil, String.intercalate_singleton]
  | cons v vs ih =>
    have there : (r.assign name first).get? name = some first := by
      rw [Record.assign_of_stored stored, Record.get?_put, if_pos rfl]
    rw [List.foldl_cons, addValue_of_get? there, assign_assign new stored, ih,
      String.append_assoc, String.intercalate_cons_append, String.intercalate_cons_append,
      String.intercalate_cons_cons, String.append_assoc]

/-- All values under a new name are one entry. -/
theorem foldl_addValue_of_new {r : Record String} {name : String} (new : name ∉ r.names)
    {vs : List String} (some_value : vs ≠ []) :
    vs.foldl (fun r v => addValue r name v) r = r.assign name (joinedWith name vs) := by
  by_cases reserved : name = reservedName
  · rw [reserved] at new ⊢
    rw [assign_reservedName new]
    clear some_value
    induction vs with
    | nil => rfl
    | cons v vs ih => rw [List.foldl_cons, addValue_of_new new, assign_reservedName new, ih]
  · obtain ⟨v, vs, rfl⟩ := List.exists_cons_of_ne_nil some_value
    rw [List.foldl_cons, addValue_of_new new, foldl_addValue new reserved, joinedWith, joinedWith]
    cases standardMember? name with
    | none => simp
    | some text => simp

/-! ## Collecting -/

/-- Values may be joined before they are collected. -/
theorem joinedWith_intercalate (name : String) {vs : List String} (some_value : vs ≠ []) :
    joinedWith name [", ".intercalate vs] = joinedWith name vs := by
  unfold joinedWith
  cases standardMember? name with
  | none => exact String.intercalate_singleton
  | some text =>
    show ", ".intercalate [text, ", ".intercalate vs] = ", ".intercalate (text :: vs)
    rw [String.intercalate_cons_cons, String.intercalate_singleton,
      String.intercalate_cons_of_ne_nil some_value]

/-- The headers of one name, as they arrive. -/
def arriving (hs : List (String × String)) (name : String) : List (String × String) :=
  if name == "set-cookie" then (values hs name).map (name, ·)
  else (joined? hs name).toList.map (name, ·)

theorem joined?_of_ne_nil {n : String} (some_value : values hs n ≠ []) :
    joined? hs n = some (", ".intercalate (values hs n)) := by
  unfold joined?
  cases found : values hs n with
  | nil => exact absurd found some_value
  | cons v vs => rfl

/-- The headers of one name make one entry, whether or not they arrive as one. -/
theorem foldl_arriving (valid : Valid hs) {n : String} (hn : n ∈ sortedNames hs)
    {r : Record String} (new : n ∉ r.names) :
    (arriving hs n).foldl (fun r h => addValue r (lower h.1) h.2) r =
      r.assign n (joinedWith n (given hs n)) := by
  have some_value := values_ne_nil hn
  have onto (vs : List String) (some_value : vs ≠ []) :
      (vs.map (n, ·)).foldl (fun r h => addValue r (lower h.1) h.2) r =
        r.assign n (joinedWith n vs) := by
    rw [List.foldl_map, ← foldl_addValue_of_new new some_value]
    show vs.foldl (fun r v => addValue r (lower n) v) r = _
    rw [valid.lower_sortedName hn]
  rw [← valid.values_eq_given, arriving]
  split
  · exact onto _ some_value
  · rw [joined?_of_ne_nil some_value, ← joinedWith_intercalate n some_value]
    exact onto _ (List.cons_ne_nil _ _)

theorem collect_eq_addAll (valid : Valid hs) :
    collect hs = addAll [] ((sortedNames hs).map fun n => (n, joinedWith n (given hs n))) := by
  have onto (ns : List String) (distinct : ns.Nodup) (sub : ∀ n ∈ ns, n ∈ sortedNames hs)
      (r : Record String) (new : ∀ n ∈ ns, n ∉ r.names) :
      ns.foldl (fun r n => (arriving hs n).foldl (fun r h => addValue r (lower h.1) h.2) r) r =
        addAll r (ns.map fun n => (n, joinedWith n (given hs n))) := by
    induction ns generalizing r with
    | nil => rfl
    | cons n ns ih =>
      obtain ⟨apart, distinct⟩ := List.nodup_cons.1 distinct
      rw [List.foldl_cons,
        foldl_arriving valid (sub n List.mem_cons_self) (new n List.mem_cons_self)]
      refine ih distinct (fun m hm => sub m (List.mem_cons_of_mem _ hm)) _ fun m hm there => ?_
      rcases mem_names_assign there with rfl | there
      · exact apart hm
      · exact new m (List.mem_cons_of_mem _ hm) there
  unfold collect normalized
  rw [List.foldl_flatMap]
  exact onto _ (nodup_sortedNames hs) (fun _ => id) [] fun _ _ => List.not_mem_nil

/-- The names under which something is stored. -/
def storedNames (hs : List (String × String)) : List String :=
  (sortedNames hs).filter (· != reservedName)

theorem Valid.mem_storedNames (valid : Valid hs) {n : String} :
    n ∈ storedNames hs ↔ n ≠ reservedName ∧ ∃ h ∈ hs, lower h.1 = n := by
  unfold storedNames
  rw [List.mem_filter, bne_iff_ne, valid.mem_sortedNames, and_comm]

/-- There is one entry to each name that is stored. -/
theorem perm_collect (valid : Valid hs) :
    (collect hs).Perm ((storedNames hs).map fun n => (n, joinedWith n (given hs n))) := by
  have kept : Plain ([] ++ (storedNames hs).map fun n => (n, joinedWith n (given hs n))) := by
    constructor
    case distinct =>
      unfold Distinct Record.names
      rw [List.nil_append, List.map_map]
      show ((storedNames hs).map id).Nodup
      rw [List.map_id]
      exact (nodup_sortedNames hs).filter _
    case stored =>
      intro e he
      obtain ⟨n, hn, rfl⟩ := List.mem_map.1 he
      exact bne_iff_ne.1 (List.mem_filter.1 hn).2
  rw [collect_eq_addAll valid, addAll_eq_addAll_filter List.not_mem_nil, List.filter_map]
  exact (addAll_of_plain kept).1

theorem names_collect (valid : Valid hs) : (collect hs).names.Perm (storedNames hs) := by
  have names := (perm_collect valid).map Prod.fst
  rwa [List.map_map, show Prod.fst ∘ (fun n => (n, joinedWith n (given hs n))) = id from rfl,
    List.map_id] at names

theorem distinct_collect (valid : Valid hs) : (collect hs).Distinct :=
  (names_collect valid).nodup_iff.2 ((nodup_sortedNames hs).filter _)

theorem get?_collect (valid : Valid hs) {n : String} (stored : n ∈ storedNames hs) :
    (collect hs).get? n = some (joinedWith n (given hs n)) :=
  (distinct_collect valid).get?_of_mem
    ((perm_collect valid).mem_iff.2 (List.mem_map.2 ⟨n, stored, rfl⟩))

/-- The text that a record answers with before anything is written there. -/
theorem standardMember?_of_lower {n : String} (plain : lower n = n) (stored : n ≠ reservedName)
    (other : n ≠ "constructor") : standardMember? n = none := by
  have mixed : ∀ m ∈ ["toString", "valueOf", "hasOwnProperty", "isPrototypeOf",
      "propertyIsEnumerable", "toLocaleString", "__defineGetter__", "__defineSetter__",
      "__lookupGetter__", "__lookupSetter__"], lower m ≠ m := by decide +kernel
  rw [standardMember?, beq_false_of_ne stored, if_neg Bool.false_ne_true, beq_false_of_ne other,
    if_neg Bool.false_ne_true, if_neg]
  exact fun listed => mixed n (List.contains_iff_mem.1 listed) plain

/-- A text in front of values is not lost by joining. -/
theorem joinedWith_constructor_ne {vs : List String} (some_value : vs ≠ []) :
    joinedWith "constructor" vs ≠ ", ".intercalate vs := by
  have front : standardMember? "constructor" =
      some "function Object() \x7b [native code] \x7d" := by decide +kernel
  have longer : joinedWith "constructor" vs =
      "function Object() \x7b [native code] \x7d" ++ ", " ++ ", ".intercalate vs := by
    rw [joinedWith, front]
    exact String.intercalate_cons_of_ne_nil some_value
  rw [longer]
  intro same
  have lengths := congrArg String.length same
  rw [String.length_append, String.length_append] at lengths
  have : ", ".length = 2 := rfl
  omega

/-- Whether a name is collected without loss: it is there if a header has it, with its values. -/
def CollectedAt (hs : List (String × String)) (r : Record String) (n : String) : Prop :=
  (n ∈ r.names ↔ ∃ h ∈ hs, lower h.1 = n) ∧
    (n ∈ r.names → r.get? n = some (", ".intercalate (given hs n)))

theorem collectedAt_of_ne (valid : Valid hs) {n : String} (stored : n ≠ reservedName)
    (other : n ≠ "constructor") : CollectedAt hs (collect hs) n := by
  unfold CollectedAt
  rw [(names_collect valid).mem_iff]
  refine ⟨valid.mem_storedNames.trans (and_iff_right stored), fun there => ?_⟩
  have sorted : n ∈ sortedNames hs := (List.mem_filter.1 there).1
  rw [get?_collect valid there, joinedWith,
    standardMember?_of_lower (valid.lower_sortedName sorted) stored other]
  rfl

theorem collectedAt_of_absent (valid : Valid hs) {n : String} (absent : ∀ h ∈ hs, lower h.1 ≠ n) :
    CollectedAt hs (collect hs) n := by
  have none : ¬ ∃ h ∈ hs, lower h.1 = n := fun ⟨h, hh, same⟩ => absent h hh same
  have unstored : n ∉ (collect hs).names := fun there =>
    none (valid.mem_storedNames.1 ((names_collect valid).mem_iff.1 there)).2
  exact ⟨iff_of_false unstored none, fun there => absurd there unstored⟩

theorem not_collectedAt_reservedName (valid : Valid hs) {h : String × String} (hh : h ∈ hs)
    (same : lower h.1 = reservedName) : ¬ CollectedAt hs (collect hs) reservedName := by
  intro collected
  have stored := (names_collect valid).mem_iff.1 (collected.1.2 ⟨h, hh, same⟩)
  exact (valid.mem_storedNames.1 stored).1 rfl

theorem not_collectedAt_constructor (valid : Valid hs) {h : String × String} (hh : h ∈ hs)
    (same : lower h.1 = "constructor") : ¬ CollectedAt hs (collect hs) "constructor" := by
  intro collected
  have stored : "constructor" ∈ storedNames hs :=
    valid.mem_storedNames.2 ⟨by decide, h, hh, same⟩
  have value := collected.2 ((names_collect valid).mem_iff.2 stored)
  have some_value : given hs "constructor" ≠ [] :=
    valid.values_eq_given _ ▸ values_ne_nil (List.mem_filter.1 stored).1
  rw [get?_collect valid stored, Option.some_inj] at value
  exact joinedWith_constructor_ne some_value value

/-- Headers are collected without loss, each name once, except under the two names that a record
answers to by itself. There the values are lost or something stands in front of them. -/
theorem collectedAt_collect_iff (valid : Valid hs) :
    (collect hs).Distinct ∧ ∀ n, CollectedAt hs (collect hs) n ↔
      (n = "constructor" ∨ n = reservedName → ∀ h ∈ hs, lower h.1 ≠ n) := by
  refine ⟨distinct_collect valid, fun n => ⟨fun collected hidden h hh same => ?_, fun free => ?_⟩⟩
  · rcases hidden with rfl | rfl
    · exact not_collectedAt_constructor valid hh same collected
    · exact not_collectedAt_reservedName valid hh same collected
  · by_cases hidden : n = "constructor" ∨ n = reservedName
    · exact collectedAt_of_absent valid (free hidden)
    · obtain ⟨other, stored⟩ := not_or.1 hidden
      exact collectedAt_of_ne valid stored other

/-- Cookies and other headers that arrive in several pieces, among them an array index. -/
theorem collectedAt_collect_iff_cookies :
    let hs := [("Set-Cookie", "a=1"), ("Accept", " x "), ("7", "s"), ("set-cookie", "b=2"),
      ("ACCEPT", "y")]
    Valid hs ∧ CollectedAt hs (collect hs) "set-cookie" ∧ CollectedAt hs (collect hs) "accept" ∧
      given hs "set-cookie" = ["a=1", "b=2"] ∧ given hs "accept" = ["x", "y"] := by
  intro hs
  have valid : Valid hs := by decide +kernel
  have collected := (collectedAt_collect_iff valid).2
  have other {n : String} (ne : ¬ (n = "constructor" ∨ n = reservedName)) :
      CollectedAt hs (collect hs) n := (collected n).2 fun hidden => absurd hidden ne
  exact ⟨valid, other (by decide), other (by decide), by decide +kernel, by decide +kernel⟩

/-- Under one of the two names a text that did not arrive is added, and under the other one what
arrived is missing. -/
theorem collect_of_constructor :
    let hs := [("Constructor", "x"), ("__proto__", "y")]
    Valid hs ∧ given hs "constructor" = ["x"] ∧ given hs "__proto__" = ["y"] ∧
      collect hs = [("constructor", "function Object() \x7b [native code] \x7d, x")] := by
  decide +kernel

end HttpScript.Header
