import HttpScript.Execution
import HttpScript.Proofs.Placeholder
import HttpScript.Proofs.SessionFrame

/-!
# Values of references in a field

A field is resolved twice: first its references to responses, then its placeholders. The template
cut at the references that the session resolves is

    t = u₀ R₁ u₁ … Rₖ uₖ          (source_cut)
    (s.resolve t).1 = u₀ v₁ u₁ … vₖ uₖ  (resolve_eq_fill)

The second pass reads the values as well. They come through as they are, each between the texts
that `u₀ … uₖ` resolve to on their own, exactly when the placeholders that the second pass replaces
are those of `u₀ … uₖ` (`resolveField_eq_fill_iff`). A stored response with a placeholder in it is
the simplest case in which they are not (`resolveField_reads_stored_text`).
-/

namespace HttpScript

namespace Session

open Text (Piece)

/-! ## Cutting a template at its references -/

/-- A reference that has a value, as it is written, and the template text up to the next one. -/
structure Insertion where
  reference : Reference
  raw : String
  value : String
  after : String

/-- A template cut at the references that a session resolves. -/
structure Cut where
  head : String
  insertions : List Insertion

namespace Cut

/-- Puts template text in front. -/
def prepend (cs : List Char) (c : Cut) : Cut := { c with head := String.ofList cs ++ c.head }

/-- The template that was cut. -/
def source (c : Cut) : String :=
  c.head ++ String.join (c.insertions.map fun i => i.raw ++ i.after)

/-- The values in their places, with the template text around them passed through `f`. -/
def fill (f : String → String) (c : Cut) : String :=
  f c.head ++ String.join (c.insertions.map fun i => i.value ++ f i.after)

/-- The names of the placeholders in the template text around the values. -/
def names (c : Cut) : List String :=
  Template.names c.head ++ c.insertions.flatMap fun i => Template.names i.after

/-- The marks of the template text around the values, every character of which is kept. -/
def marks (lookup : String → Option String) (c : Cut) : List Template.Mark :=
  Template.marks lookup c.head ++ c.insertions.flatMap fun i =>
    i.value.toList.map .kept ++ Template.marks lookup i.after

/-- A pass over the filled template replaces the placeholders that stand in the template text
around the values, each at its place, and no other. -/
def Undisturbed (lookup : String → Option String) (c : Cut) : Prop :=
  Template.marks lookup (c.fill id) = c.marks lookup

instance (lookup : String → Option String) (c : Cut) : Decidable (c.Undisturbed lookup) :=
  inferInstanceAs (Decidable (_ = _))

end Cut

end Session

namespace SessionState

open Text (Piece)
open Session (Cut Reference references)

/-- The references that have a value, with their values, when they are answered one after the
other. -/
def answered (s : SessionState) : List Reference → List (Reference × String)
  | [] => []
  | r :: rs => ((s.answer r).1.map fun v => (r, v)).toList ++ answered (s.answer r).2 rs

/-- The cut of a scanned template. Each reference is answered in the state that the ones before it
leave. -/
def cutPieces (s : SessionState) : List (Piece Reference) → Cut
  | [] => ⟨"", []⟩
  | .text cs :: r => (cutPieces s r).prepend cs
  | .found ref raw :: r =>
    let rest := cutPieces (s.answer ref).2 r
    match (s.answer ref).1 with
    | some v => ⟨"", ⟨ref, String.ofList raw, v, rest.head⟩ :: rest.insertions⟩
    | none => rest.prepend raw

/-- The cut of a template. -/
def cut (s : SessionState) (t : String) : Cut :=
  cutPieces s (Text.scan Session.referenceAt? t.toList)

end SessionState

/-! ## What the parts amount to -/

namespace Session.Cut

open Text (Piece)

theorem toList_fill_prepend (cs : List Char) (c : Cut) :
    ((c.prepend cs).fill id).toList = cs ++ (c.fill id).toList := by
  simp [fill, prepend]

theorem toList_source_prepend (cs : List Char) (c : Cut) :
    (c.prepend cs).source.toList = cs ++ c.source.toList := by
  simp [source, prepend]

end Session.Cut

namespace SessionState

open Text (Piece)
open Session (Cut Reference references)
open Session.Cut (toList_fill_prepend toList_source_prepend)

variable (s : SessionState)

theorem toList_source_cutPieces (ps : List (Piece Reference)) :
    (s.cutPieces ps).source.toList = ps.flatMap Piece.chars := by
  induction ps generalizing s with
  | nil => rfl
  | cons p r ih =>
    rw [List.flatMap_cons]
    cases p with
    | text cs =>
      rw [← ih s]
      exact toList_source_prepend cs _
    | found ref raw =>
      rw [← ih (s.answer ref).2, cutPieces]
      split
      · simp [Cut.source, Piece.chars]
      · exact toList_source_prepend raw _

theorem toList_fill_cutPieces (ps : List (Piece Reference)) :
    ((s.cutPieces ps).fill id).toList =
      (Text.replaceFoundIn (fun (s : SessionState) (r : Reference) =>
        ((s.answer r).1.map String.toList, (s.answer r).2)) s ps).1 := by
  induction ps generalizing s with
  | nil => rfl
  | cons p r ih =>
    cases p with
    | text cs => exact (toList_fill_prepend cs _).trans (congrArg (cs ++ ·) (ih s))
    | found ref raw =>
      rw [cutPieces, Text.replaceFoundIn]
      dsimp only
      rw [← ih (s.answer ref).2]
      cases hv : (s.answer ref).1 with
      | some v => simp [Cut.fill]
      | none => simpa using toList_fill_prepend raw _

/-- Nothing of a template is lost by cutting it. -/
theorem source_cut (t : String) : (s.cut t).source = t := by
  rw [← String.toList_inj, cut, toList_source_cutPieces, Text.chars_scan]

/-- Resolving references puts the values in the places of the cut. -/
theorem resolve_eq_fill (t : String) : (s.resolve t).1 = (s.cut t).fill id := by
  rw [← String.toList_inj, cut, toList_fill_cutPieces, resolve_eq_replaceReferences]
  exact String.toList_ofList

theorem answered_cutPieces (ps : List (Piece Reference)) :
    (s.cutPieces ps).insertions.map (fun i => (i.reference, i.value)) =
      s.answered (ps.filterMap fun
        | .text _ => none
        | .found r _ => some r) := by
  induction ps generalizing s with
  | nil => rfl
  | cons p r ih =>
    cases p with
    | text cs => exact ih s
    | found ref raw =>
      rw [cutPieces, List.filterMap_cons]
      dsimp only
      rw [answered, ← ih (s.answer ref).2]
      cases (s.answer ref).1 <;> rfl

/-- What a cut inserts are the values of the references that were cut out. -/
theorem answered_cut (t : String) :
    (s.cut t).insertions.map (fun i => (i.reference, i.value)) = s.answered (references t) :=
  s.answered_cutPieces _

/-- Without code, all references are answered in one state. -/
theorem answer_of_mem_answered (rs : List Reference) (free : ∀ r ∈ rs, r.isCodeFree = true) :
    ∀ e ∈ s.answered rs, (s.answer e.1).1 = some e.2 := by
  induction rs with
  | nil => exact fun e he => nomatch he
  | cons r rs ih =>
    obtain ⟨first, others⟩ := List.forall_mem_cons.1 free
    intro e he
    rw [answered, s.answer_of_isCodeFree r first] at he
    rcases List.mem_append.1 he with he | he
    · obtain ⟨v, hv, rfl⟩ := Option.map_eq_some_iff.1 (Option.mem_toList.1 he)
      exact hv
    · exact ih others e he

end SessionState

namespace Session

namespace Cut

variable (lookup : String → Option String) (c : Cut)

theorem source_marks : (c.marks lookup).flatMap Template.Mark.source = (c.fill id).toList := by
  rw [marks, List.flatMap_append, Template.source_marks, List.flatMap_assoc, fill,
    String.toList_append, String.toList_join, List.flatMap_map]
  congr 1
  apply List.flatMap_congr
  intro i _
  rw [List.flatMap_append, Template.source_kept, Template.source_marks, String.toList_append]
  rfl

theorem output_marks : (c.marks lookup).flatMap (Template.Mark.output lookup) =
    (c.fill fun u => Template.replace u lookup).toList := by
  rw [marks, List.flatMap_append, ← Template.toList_replace, List.flatMap_assoc, fill,
    String.toList_append, String.toList_join, List.flatMap_map]
  congr 1
  apply List.flatMap_congr
  intro i _
  rw [List.flatMap_append, Template.output_kept, ← Template.toList_replace, String.toList_append]

theorem resolved_of_mem_marks (e : List Char) (h : .resolved e ∈ c.marks lookup) :
    '}' ∉ e ∧ Template.nameOf e ∈ c.names ∧ (lookup (Template.nameOf e)).isSome := by
  rcases List.mem_append.mp h with h | h
  · obtain ⟨he, hn, hv⟩ := Template.resolved_of_mem_marks lookup _ e h
    exact ⟨he, List.mem_append_left _ hn, hv⟩
  · obtain ⟨i, hi, h⟩ := List.mem_flatMap.mp h
    rcases List.mem_append.mp h with h | h
    · simp at h
    · obtain ⟨he, hn, hv⟩ := Template.resolved_of_mem_marks lookup _ e h
      exact ⟨he, List.mem_append_right _ (List.mem_flatMap.mpr ⟨i, hi, hn⟩), hv⟩

/-- An undisturbed pass over the filled template is a pass over the text around the values. -/
theorem replace_fill (h : c.Undisturbed lookup) :
    Template.replace (c.fill id) lookup = c.fill fun u => Template.replace u lookup := by
  rw [← String.toList_inj, Template.toList_replace, h, output_marks]

/-- The result tells whether a pass was undisturbed, when every value that is looked up tells
itself from a placeholder. -/
theorem undisturbed_of_replace_fill
    (tells : ∀ n ∈ Template.names (c.fill id) ++ c.names, ∀ v, lookup n = some v → Template.Tells v)
    (h : Template.replace (c.fill id) lookup = c.fill fun u => Template.replace u lookup) :
    c.Undisturbed lookup := by
  have value : ∀ n ∈ Template.names (c.fill id) ++ c.names, (lookup n).isSome →
      ∃ v, lookup n = some v ∧ Template.Tells v := by
    intro n hn hv
    obtain ⟨v, hv⟩ := Option.isSome_iff_exists.mp hv
    exact ⟨v, hv, tells n hn v hv⟩
  apply Template.marks_unique lookup
  · intro e he
    obtain ⟨hc, hn, hv⟩ := Template.resolved_of_mem_marks lookup _ e he
    exact ⟨hc, value _ (List.mem_append_left _ hn) hv⟩
  · intro e he
    obtain ⟨hc, hn, hv⟩ := c.resolved_of_mem_marks lookup e he
    exact ⟨hc, value _ (List.mem_append_right _ hn) hv⟩
  · rw [Template.source_marks, source_marks]
  · rw [← Template.toList_replace, output_marks, h]

end Cut

end Session

/-! ## Fields -/

namespace Execution

open Session (references)

variable (ambient : Ambient) (resolver : Resolver) (own file : Record String) (s : SessionState)

/-- The values of a field's references come through as they are, between what the text around them
resolves to on its own, exactly when the pass over the placeholders is undisturbed. One direction
holds as it stands; the other needs that values of variables do not begin with a brace, since a
variable whose value is its own placeholder hides that it was replaced. Each value is the answer in
the state that the references before it leave, which is the state before the field as long as no
code is run. -/
theorem resolveField_eq_fill_iff (t : String) :
    let lookup := Resolver.lookup ambient own file resolver.bindings
    let cut := s.cut t
    let verbatim := cut.fill (resolver.resolve ambient own file)
    let field := (resolveField ambient resolver own file s t).1
    cut.source = t ∧
    cut.insertions.map (fun i => (i.reference, i.value)) = s.answered (references t) ∧
    (Session.isCodeFree t = true →
      ∀ i ∈ cut.insertions, (s.answer i.reference).1 = some i.value) ∧
    (cut.Undisturbed lookup → field = verbatim) ∧
    ((∀ n ∈ Template.names (s.resolve t).1 ++ cut.names, ∀ v,
        lookup n = some v → Template.Tells v) → field = verbatim → cut.Undisturbed lookup) := by
  intro lookup cut verbatim field
  have passed : field = Template.replace (cut.fill id) lookup := by
    have second : field = Template.replace (s.resolve t).1 lookup := rfl
    rw [second, SessionState.resolve_eq_fill]
  refine ⟨s.source_cut t, s.answered_cut t, fun free i hi => ?_, fun h => ?_, fun tells h => ?_⟩
  · have inserted : (i.reference, i.value) ∈ s.answered (references t) := by
      rw [← s.answered_cut t]
      exact List.mem_map_of_mem hi
    have plain : ∀ r ∈ references t, r.isCodeFree = true := List.all_eq_true.1 free
    exact s.answer_of_mem_answered (references t) plain (i.reference, i.value) inserted
  · rw [passed]
    exact cut.replace_fill lookup h
  · rw [SessionState.resolve_eq_fill] at tells
    exact cut.undisturbed_of_replace_fill lookup tells (passed.symm.trans h)

/-- A value without a placeholder in it, between a placeholder that has a value and one that has
none. -/
theorem resolveField_eq_fill_iff_plain_value :
    let s := SessionState.start.apply (.store "login" ⟨200, [], "abc", 0⟩)
    (resolveField ⟨0, 0, "", []⟩ (Resolver.start "dev" []) [("x", "1")] [] s
      "{{x}}/{{login.response.body}}/{{y}}").1 = "1/abc/{{y}}" := by
  intro s
  have whole := (resolveField_eq_fill_iff ⟨0, 0, "", []⟩ (Resolver.start "dev" []) [("x", "1")] [] s
    "{{x}}/{{login.response.body}}/{{y}}").2.2.2.1 (by decide +kernel)
  rw [whole]
  decide +kernel

/-- A placeholder in a stored response is replaced: the text that was stored does not occur in the
field at all. -/
theorem resolveField_reads_stored_text :
    let s := SessionState.start.apply (.store "login" ⟨200, [], "{{token}}", 0⟩)
    let resolver := Resolver.start "dev" []
    let field := (resolveField ⟨0, 0, "", []⟩ resolver [("token", "secret")] [] s
      "{{login.response.body}}").1
    (s.answer ⟨"login", .body, none⟩).1 = some "{{token}}" ∧ field = "secret" ∧
      ¬ "{{token}}".toList <:+: field.toList ∧
      field ≠ (s.cut "{{login.response.body}}").fill
        (resolver.resolve ⟨0, 0, "", []⟩ [("token", "secret")] []) := by
  decide +kernel

end Execution

end HttpScript
