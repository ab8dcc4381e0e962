import HttpScript.Proofs.TemplateParts

/-!
# Resolving a template again

A value that is not empty and holds no brace can take no part in a placeholder. As long as all
values are such, a pass over what a pass has left finds the placeholders that had no value, each as
it was written, and nothing else, so that it changes nothing:

    replace (replace t lookup) lookup = replace t lookup                        (replace_replace)
    names (replace t lookup) = the names of t that have no value

The argument is about the seams. A literal text in front of a placeholder may open two braces and
close one, but then a second closing brace would have to follow at once, and neither a value nor a
placeholder begins with one (`quiet_of_seam`). An empty value would let the text behind it do so.
-/

namespace HttpScript.Template

open Text (Piece Laid Quiet flushText replaceFound)

/-- A value that can take no part in a placeholder. -/
structure Inert (v : String) : Prop where
  filled : v ≠ ""
  unopened : '{' ∉ v.toList
  unclosed : '}' ∉ v.toList

/-! ## Seams -/

theorem quiet_of_unopened (v rest : List Char) (unopened : '{' ∉ v) :
    Quiet placeholderAt? v rest := by
  intro w hw filled
  obtain ⟨c, w, rfl⟩ := List.exists_cons_of_ne_nil filled
  refine placeholderAt?_of_not_braces c (w ++ rest) ?_
  have other : c ≠ '{' := by
    rintro rfl
    exact unopened (hw.subset List.mem_cons_self)
  rw [beq_eq_false_iff_ne.2 other, Bool.false_and]

/-- A text with no placeholder in it before a placeholder has none before anything else either that
does not begin with a closing brace. -/
theorem quiet_of_seam {u e rest : List Char} (behind : List Char) (closed : '}' ∉ e)
    (quiet : Quiet placeholderAt? u (bracketed e ++ rest)) (open_ : behind.head? ≠ some '}') :
    Quiet placeholderAt? u behind := by
  intro w hw filled
  have before := quiet w hw filled
  -- what is open before the placeholder would be closed by it
  have not_open : ∀ x : List Char, '}' ∉ x →
      placeholderAt? ('{' :: '{' :: (x ++ '{' :: (e ++ '}' :: '}' :: rest))) ≠ none := by
    intro x hx
    have inner : '}' ∉ x ++ '{' :: e := by simpa using ⟨hx, closed⟩
    have whole := placeholderAt?_braces (x ++ '{' :: e) ('}' :: rest) inner
    rw [List.append_assoc, List.cons_append] at whole
    rw [whole, if_neg (by simp)]
    exact nofun
  obtain ⟨c, w, rfl⟩ := List.exists_cons_of_ne_nil filled
  cases opens : c == '{' && (w ++ behind).head? == some '{' with
  | false => exact placeholderAt?_of_not_braces c _ opens
  | true =>
    obtain ⟨hc, hd⟩ := (Bool.and_eq_true _ _).mp opens
    obtain rfl := eq_of_beq hc
    cases w with
    | nil => exact absurd before (by simpa [bracketed] using not_open [] (by simp))
    | cons d w =>
      obtain rfl : d = '{' := by simpa using hd
      by_cases hw : '}' ∈ w
      · obtain ⟨x, after, rfl, hx⟩ := List.eq_append_cons_of_mem hw
        simp only [List.cons_append, List.append_assoc, placeholderAt?_braces x _ hx] at before ⊢
        cases after with
        | nil => rw [if_pos (.inr open_)]
        | cons => exact before
      · exact absurd before (by simpa [bracketed] using not_open (w ++ ['{']) (by simpa using hw))

/-! ## What a pass leaves -/

variable (lookup : String → Option String)

/-- The characters that come in the place of an expression. -/
def valueChars (e : List Char) : Option (List Char) := (lookup (nameOf e)).map String.toList

/-- The pieces of what a pass leaves: values become part of the text around them. `pending` is the
text collected so far, in reverse. -/
def settled : (pending : List Char) → List (Piece (List Char)) → List (Piece (List Char))
  | pending, [] => flushText pending
  | pending, .text u :: ps => settled (u.reverse ++ pending) ps
  | pending, .found e raw :: ps => match lookup (nameOf e) with
    | some v => settled (v.toList.reverse ++ pending) ps
    | none => flushText pending ++ .found e raw :: settled [] ps

/-- Whether a piece is a placeholder without a value. -/
def isLeft : Piece (List Char) → Bool
  | .text _ => false
  | .found e _ => (lookup (nameOf e)).isNone

variable {lookup}

/-- What a pass leaves of a placeholder and the text behind it does not begin with a closing
brace. -/
theorem head?_replaceFound_ne {e : List Char} (ps : List (Piece (List Char)))
    (inert : ∀ v, lookup (nameOf e) = some v → Inert v) :
    (replaceFound (valueChars lookup) (.found e (bracketed e) :: ps)).head? ≠ some '}' := by
  rw [Text.replaceFound_found, valueChars]
  cases hv : lookup (nameOf e) with
  | none => simp [bracketed]
  | some v =>
    obtain ⟨filled, -, unclosed⟩ := inert v hv
    obtain ⟨c, r, shape⟩ : ∃ c r, v.toList = c :: r :=
      List.exists_cons_of_ne_nil (by simpa using filled)
    rw [Option.map_some, Option.getD_some, shape, List.cons_append, List.head?_cons]
    rintro h
    obtain rfl := Option.some.inj h
    exact unclosed (shape ▸ List.mem_cons_self)

/-- A scan of what a pass leaves finds the placeholders that were left. -/
theorem scanFrom_replaceFound (ps : List (Piece (List Char))) (laid : Laid placeholderAt? ps)
    (inert : ∀ e raw, .found e raw ∈ ps → ∀ v, lookup (nameOf e) = some v → Inert v)
    (pending : List Char) :
    Text.scanFrom placeholderAt? 0 pending (replaceFound (valueChars lookup) ps) =
      settled lookup pending ps := by
  induction laid generalizing pending with
  | nil => rfl
  | @text u ps _ apart quiet rest ih =>
    have later := ih fun e raw h => inert e raw (List.mem_cons_of_mem _ h)
    have calm : Quiet placeholderAt? u (replaceFound (valueChars lookup) ps) := by
      cases rest with
      | nil => exact quiet
      | text => exact absurd rfl (apart _)
      | @found e raw more ps occurs whole _ =>
        obtain ⟨rfl, -, closed⟩ := eq_bracketed occurs whole
        rw [List.flatMap_cons] at quiet
        exact quiet_of_seam _ closed quiet (head?_replaceFound_ne ps
          (inert e _ (List.mem_cons_of_mem _ List.mem_cons_self)))
    rw [Text.replaceFound_text, Text.scanFrom_quiet _ _ _ _ calm, later, settled]
  | @found e raw more ps occurs whole rest ih =>
    have later := ih fun e raw h => inert e raw (List.mem_cons_of_mem _ h)
    rw [Text.replaceFound_found, settled, valueChars]
    cases hv : lookup (nameOf e) with
    | some v =>
      have unopened := (inert e raw List.mem_cons_self v hv).unopened
      dsimp only [Option.map_some, Option.getD_some]
      rw [Text.scanFrom_quiet _ _ _ _ (quiet_of_unopened _ _ unopened), later]
    | none =>
      obtain ⟨rfl, filled, closed⟩ := eq_bracketed occurs whole
      have again (behind : List Char) :
          placeholderAt? (bracketed e ++ behind) = some (e, e.length + 3) :=
        (placeholderAt?_eq_some_iff _ _ _).2 ⟨⟨behind, rfl⟩, closed, filled, rfl⟩
      dsimp only [Option.map_none, Option.getD_none]
      rw [Text.scanFrom_found _ _ _ _ _ _ (again _) (by simp [bracketed]), Text.scan, later]

/-! ## What a second pass finds and leaves -/

/-- A second pass changes nothing. -/
theorem replaceFound_settled (ps : List (Piece (List Char))) (pending : List Char) :
    replaceFound (valueChars lookup) (settled lookup pending ps) =
      pending.reverse ++ replaceFound (valueChars lookup) ps := by
  induction ps generalizing pending with
  | nil => rw [settled, Text.replaceFound_flushText, Text.replaceFound_nil, List.append_nil]
  | cons p ps ih =>
    cases p with
    | text u => rw [settled, ih, List.reverse_append, List.reverse_reverse, List.append_assoc,
        Text.replaceFound_text]
    | found e raw =>
      rw [settled, Text.replaceFound_found, valueChars]
      cases hv : lookup (nameOf e) with
      | some v =>
        dsimp only [Option.map_some, Option.getD_some]
        rw [ih, List.reverse_append, List.reverse_reverse, List.append_assoc]
      | none =>
        dsimp only [Option.map_none, Option.getD_none]
        rw [Text.replaceFound_append, Text.replaceFound_flushText, Text.replaceFound_found, ih,
          valueChars, hv]
        rfl

/-- A second pass finds what was left. `g` looks at placeholders only. -/
theorem filterMap_settled {β : Type} (g : Piece (List Char) → Option β)
    (blind : ∀ u, g (.text u) = none) (ps : List (Piece (List Char))) (pending : List Char) :
    (settled lookup pending ps).filterMap g = (ps.filter (isLeft lookup)).filterMap g := by
  have flushed : ∀ pending, (flushText pending).filterMap g = [] := by
    intro pending
    unfold flushText
    split <;> simp [blind]
  induction ps generalizing pending with
  | nil => exact flushed pending
  | cons p ps ih =>
    cases p with
    | text u => rw [settled, ih, List.filter_cons_of_neg (by simp [isLeft])]
    | found e raw =>
      rw [settled]
      cases hv : lookup (nameOf e) with
      | some v =>
        dsimp only
        rw [ih, List.filter_cons_of_neg (by simp [isLeft, hv])]
      | none =>
        dsimp only
        rw [List.filter_cons_of_pos (by simp [isLeft, hv]), List.filterMap_append, flushed,
          List.nil_append, List.filterMap_cons, List.filterMap_cons, ih]

/-! ## Templates -/

/-- The placeholders of a template, as they stand there. -/
def placeholders (s : String) : List Part := (parts s).filter (!·.isText)

/-- Whether a part is a placeholder that has a value. -/
def Part.hasValue (lookup : String → Option String) : Part → Bool
  | text _ => false
  | placeholder e _ => (lookup (nameOf e.toList)).isSome

/-- The placeholder that a piece is. -/
def placeholder? : Piece (List Char) → Option Part
  | .text _ => none
  | .found e raw => some (.ofPiece (.found e raw))

theorem placeholders_eq (s : String) :
    placeholders s = (pieces s.toList).filterMap placeholder? := by
  rw [placeholders, parts]
  induction pieces s.toList with
  | nil => rfl
  | cons p ps ih =>
    cases p with
    | text u => exact ih
    | found e raw => exact congrArg _ ih

theorem pieces_replace (t : String)
    (inert : ∀ n ∈ names t, ∀ v, lookup n = some v → Inert v) :
    pieces (replace t lookup).toList = settled lookup [] (pieces t.toList) := by
  have laid := ((Text.scan_eq_iff _ fits_placeholderAt? _ _).1 (pieces_eq_scan t.toList).symm).2
  rw [replace, String.toList_ofList, pieces_eq_scan (replaceFound _ _)]
  refine scanFrom_replaceFound _ laid (fun e raw h v => inert _ ?_ v) []
  exact List.mem_filterMap.mpr ⟨_, h, rfl⟩

/-- Resolving a resolved template changes nothing: the placeholders in it are those of the template
that have no value, in order and as they were written. -/
theorem replace_replace (t : String) (inert : ∀ n ∈ names t, ∀ v, lookup n = some v → Inert v) :
    replace (replace t lookup) lookup = replace t lookup ∧
    names (replace t lookup) = (names t).filter (fun n => (lookup n).isNone) ∧
    placeholders (replace t lookup) = (placeholders t).filter (!·.hasValue lookup) := by
  have again := pieces_replace t inert
  refine ⟨?_, ?_, ?_⟩
  · rw [replace, again, ← String.toList_inj, String.toList_ofList]
    exact (replaceFound_settled _ []).trans (by rw [replace, String.toList_ofList]; rfl)
  · rw [names, again, filterMap_settled _ fun _ => rfl, names, List.filter_filterMap,
      List.filterMap_filter]
    refine List.filterMap_congr fun p _ => ?_
    cases p with
    | text u => rfl
    | found e raw => cases hv : lookup (nameOf e) <;> simp [isLeft, hv, Option.filter]
  · rw [placeholders_eq, again, filterMap_settled _ fun _ => rfl, placeholders_eq,
      List.filter_filterMap, List.filterMap_filter]
    refine List.filterMap_congr fun p _ => ?_
    cases p with
    | text u => rfl
    | found e raw =>
      cases hv : lookup (nameOf e) <;>
        simp [isLeft, hv, placeholder?, Part.ofPiece, Part.hasValue, Option.filter]

/-- Braces that look like placeholders stand on both sides of a value, and `y` has none. -/
theorem replace_replace_between_braces :
    let t := "{{}{{x}}}{{ y }}"
    let lookup := fun n => if n = "x" then some "1" else none
    replace t lookup = "{{}1}{{ y }}" ∧
      replace "{{}1}{{ y }}" lookup = "{{}1}{{ y }}" ∧ names "{{}1}{{ y }}" = ["y"] := by
  intro t lookup
  have once : replace t lookup = "{{}1}{{ y }}" := by decide +kernel
  have inert : ∀ n ∈ names t, ∀ v, lookup n = some v → Inert v := by
    intro n _ v hv
    obtain ⟨-, rfl⟩ : n = "x" ∧ "1" = v := by simpa [lookup] using hv
    exact ⟨by decide, by decide, by decide⟩
  obtain ⟨twice, left, -⟩ := replace_replace t inert
  rw [once] at twice left
  refine ⟨once, twice, left.trans ?_⟩
  decide +kernel

end HttpScript.Template
