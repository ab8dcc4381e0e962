import HttpScript.Proofs.LetterCase
import HttpScript.Proofs.RecordEntries

/-!
# New entries of records

Entries that are added under new names are all kept, those with one name ignoring case in their
order. The only names that move to another place are array indexes, and these have one spelling.

    (r.addAll es).named n = r.named n ++ named n es        when all names differ   (addAll_of_plain)
-/

namespace HttpScript.Record

open Text (lower sameIgnoringCase sameIgnoringCase_iff)

variable {α : Type}

/-! ## Adding new names -/

/-- The record after adding the entries one after the other. -/
def addAll (r : Record α) (es : List (String × α)) : Record α :=
  es.foldl (fun r e => r.assign e.1 e.2) r

/-- A new name stands behind the names that it equals ignoring case. An array index, which may be
put in front of others, equals none. -/
theorem named_insert {r : Record α} {name : String} (new : name ∉ r.names) (value : α)
    (other : String) :
    named other (r.insert name value) = named other r ++ named other [(name, value)] := by
  induction r with
  | nil => rfl
  | cons e r ih =>
    rw [insert]
    split
    · next front =>
      rw [named_cons other (name, value) (e :: r), named_cons other (name, value) []]
      split
      · next same =>
        have index : index? name ≠ none := by
          intro none
          rw [precedes, Key.text_string, none] at front
          cases front
        have alone : named other (e :: r) = [] := by
          refine List.eq_nil_iff_forall_not_mem.2 fun f hf => new ?_
          obtain ⟨hf, equal⟩ := mem_named_iff.1 hf
          rw [← eq_of_lower_eq_of_index? index (equal.trans same.symm)]
          exact List.mem_map_of_mem hf
        rw [alone]
        rfl
      · exact (List.append_nil _).symm
    · rw [named_cons, named_cons, ih fun hn => new (List.mem_cons_of_mem _ hn)]
      split <;> rfl

theorem has_eq_false_iff_names {r : Record α} {name : String} :
    r.has name = false ↔ name ∉ r.names := by
  rw [Bool.eq_false_iff, Ne, has_iff, names, List.mem_map]

theorem assign_of_stored {name : String} (stored : name ≠ reservedName) (r : Record α) (value : α) :
    r.assign name value = r.put name value := by
  rw [assign, beq_false_of_ne stored, Bool.false_and, if_neg Bool.false_ne_true]

theorem assign_of_new {r : Record α} {name : String} (new : name ∉ r.names)
    (stored : name ≠ reservedName) (value : α) : r.assign name value = r.insert name value := by
  rw [assign_of_stored stored, put, has_eq_false_iff_names.2 new, if_neg Bool.false_ne_true]

/-- The reserved name is not stored anew. -/
theorem assign_reservedName {r : Record α} (absent : reservedName ∉ r.names) (value : α) :
    r.assign reservedName value = r := by
  rw [assign, has_eq_false_iff_names.2 absent, beq_self_eq_true]
  rfl

theorem replace_of_new {r : Record α} {name : String} (new : name ∉ r.names) (value : α) :
    replace name value r = r := by
  unfold replace
  refine (List.map_congr_left fun e he => ?_).trans (List.map_id' r)
  rw [beq_false_of_ne fun same : e.1 = name => new (List.mem_map.2 ⟨e, he, same⟩),
    if_neg Bool.false_ne_true]

theorem replace_insert {r : Record α} {name : String} (new : name ∉ r.names) (a b : α) :
    replace name b (r.insert name a) = r.insert name b := by
  induction r with
  | nil => simp [insert, replace]
  | cons e r ih =>
    have unchanged := replace_of_new new b
    obtain ⟨other, new⟩ := not_or.1 (mt List.mem_cons.2 new)
    rw [insert, insert]
    split
    · rw [replace_cons, if_pos rfl, unchanged]
    · rw [replace_cons, if_neg (Ne.symm other), ih new]

/-- Of two values under a new name the second is kept. -/
theorem assign_assign {r : Record α} {name : String} (new : name ∉ r.names)
    (stored : name ≠ reservedName) (a b : α) :
    (r.assign name a).assign name b = r.assign name b := by
  have there : (r.insert name a).has name = true :=
    (has_iff _ _).2 ⟨_, (perm_insert name a r).mem_iff.2 List.mem_cons_self, rfl⟩
  rw [assign_of_new new stored, assign_of_new new stored, assign_of_stored stored, put, there,
    if_pos rfl, replace_insert new]

/-- No name stands twice in the same spelling, and none is reserved. -/
structure Plain (r : Record α) : Prop where
  distinct : r.Distinct
  stored : ∀ e ∈ r, e.1 ≠ reservedName

instance (r : Record α) : Decidable r.Plain :=
  decidable_of_iff (r.Distinct ∧ ∀ e ∈ r, e.1 ≠ reservedName)
    ⟨fun ⟨distinct, stored⟩ => ⟨distinct, stored⟩, fun ⟨distinct, stored⟩ => ⟨distinct, stored⟩⟩

theorem Plain.of_perm {r s : Record α} (plain : r.Plain) (perm : s.Perm r) : s.Plain :=
  ⟨(perm.map Prod.fst).nodup_iff.2 plain.distinct, fun e he => plain.stored e (perm.mem_iff.1 he)⟩

theorem Plain.of_sublist {r s : Record α} (plain : r.Plain) (sub : s.Sublist r) : s.Plain :=
  ⟨(sub.map Prod.fst).nodup plain.distinct, fun e he => plain.stored e (sub.subset he)⟩

/-- Adding entries under new names keeps all of them, and among those with one name the order. -/
theorem addAll_of_plain {r : Record α} {es : List (String × α)} (plain : Plain (r ++ es)) :
    (r.addAll es).Perm (r ++ es) ∧
      ∀ name, named name (r.addAll es) = named name r ++ named name es := by
  induction es generalizing r with
  | nil =>
    rw [List.append_nil]
    exact ⟨List.Perm.refl _, fun name => (List.append_nil _).symm⟩
  | cons e es ih =>
    have front : (r ++ e :: es).Perm (e :: (r ++ es)) := List.perm_middle
    have new : e.1 ∉ r.names := by
      have apart := (List.nodup_cons.1 (plain.of_perm front.symm).distinct).1
      rw [List.map_append] at apart
      exact fun hn => apart (List.mem_append_left _ hn)
    have stored : e.1 ≠ reservedName := plain.stored e (List.mem_append_right _ List.mem_cons_self)
    have added : (r.insert e.1 e.2 ++ es).Perm (r ++ e :: es) :=
      ((perm_insert e.1 e.2 r).append_right es).trans front.symm
    obtain ⟨perm, order⟩ := ih (plain.of_perm added)
    have first : r.addAll (e :: es) = (r.insert e.1 e.2).addAll es := by
      rw [addAll, List.foldl_cons, assign_of_new new stored]
      rfl
    rw [first]
    refine ⟨perm.trans added, fun name => ?_⟩
    rw [order name, named_insert new e.2 name, List.append_assoc, ← named_append]
    rfl

/-- Entries with the reserved name are lost. -/
theorem addAll_eq_addAll_filter {r : Record α} (absent : reservedName ∉ r.names)
    (es : List (String × α)) : r.addAll es = r.addAll (es.filter fun e => e.1 != reservedName) := by
  induction es generalizing r with
  | nil => rfl
  | cons e es ih =>
    rw [List.filter_cons]
    by_cases reserved : e.1 = reservedName
    · rw [reserved, bne_self_eq_false, if_neg Bool.false_ne_true, ← ih absent]
      show (r.assign e.1 e.2).addAll es = _
      rw [reserved, assign_reservedName absent]
    · rw [bne_iff_ne.2 reserved, if_pos rfl]
      exact ih fun there => (mem_names_assign there).elim (reserved ∘ Eq.symm) absent

theorem merge_eq_addAll {r s : Record α} (stored : ∀ e ∈ s, e.1 ≠ reservedName) :
    r.merge s = r.addAll s := by
  unfold merge addAll
  exact List.foldl_ext _ _ _ fun r e he => (assign_of_stored (stored e he) r e.2).symm

/-- A filter that goes by the name keeps all entries of a name or none. -/
theorem named_filter (keep : String → Bool) (by_name : ∀ a b, lower a = lower b → keep a = keep b)
    (name : String) (r : Record α) :
    named name (r.filter fun e => keep e.1) = if keep name then named name r else [] := by
  induction r with
  | nil => cases keep name <;> rfl
  | cons e r ih =>
    rw [List.filter_cons]
    by_cases same : lower e.1 = lower name
    · rw [by_name e.1 name same]
      cases kept : keep name with
      | true => rw [if_pos rfl, named_cons, if_pos same, ih, kept, if_pos rfl, if_pos rfl,
          named_cons, if_pos same]
      | false => rw [if_neg Bool.false_ne_true, ih, kept]; rfl
    · have skipped : named name (e :: r) = named name r := by rw [named_cons, if_neg same]
      rw [skipped, ← ih]
      split
      · rw [named_cons, if_neg same]
      · rfl

end HttpScript.Record
