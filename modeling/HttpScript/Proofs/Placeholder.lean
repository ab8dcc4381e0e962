import HttpScript.Proofs.Scan
import HttpScript.Template

/-!
# What a template pass does to a text

The splitter finds the placeholders that a scan of the text finds.

    pieces s = Text.scan placeholderAt? s                                      (pieces_eq_scan)

A pass over a template leaves each character as it is or takes it away with a placeholder that has
a value. `marks` writes this down, character by character; both the text of the template and the
text that results can be read off the marks.

    (marks lookup s).flatMap Mark.source = s.toList                            (source_marks)
    (replace s lookup).toList = (marks lookup s).flatMap (Mark.output lookup)  (toList_replace)

As long as no value begins with a brace, the resulting text tells which placeholders were replaced
(`marks_unique`).
-/

namespace HttpScript.Template

/-! ## Placeholders -/

/-- The expression of the placeholder at the start of a text, and the number of characters that
the placeholder has after its first. -/
def placeholderAt? : List Char → Option (List Char × Nat)
  | '{' :: '{' :: s =>
    let expression := s.takeWhile (· != '}')
    match s.dropWhile (· != '}') with
    | '}' :: '}' :: _ =>
      if expression.isEmpty then none else some (expression, expression.length + 3)
    | _ => none
  | _ => none

/-- The characters of a placeholder. -/
def bracketed (e : List Char) : List Char := '{' :: '{' :: (e ++ ['}', '}'])

/-- After two opening braces, the first closing brace decides whether they begin a placeholder. -/
theorem placeholderAt?_braces (e after : List Char) (he : '}' ∉ e) :
    placeholderAt? ('{' :: '{' :: (e ++ '}' :: after)) =
      if e = [] ∨ after.head? ≠ some '}' then none else some (e, e.length + 3) := by
  have all : ∀ c ∈ e, (c != '}') = true := by
    intro c hc
    rw [bne_iff_ne]
    rintro rfl
    exact he hc
  obtain ⟨front, back⟩ := Text.takeWhile_dropWhile_of_stop all '}' after (by simp)
  unfold placeholderAt?
  simp only [front, back]
  rcases after with _ | ⟨c, after⟩
  · simp
  · by_cases hc : c = '}'
    · subst hc
      simp
    · simp [hc]

/-- A placeholder stands at the front of a text exactly when the text begins with two opening
braces, one or more characters other than a closing brace, and two closing braces. -/
theorem placeholderAt?_eq_some_iff (s e : List Char) (n : Nat) :
    placeholderAt? s = some (e, n) ↔
      (∃ rest, s = bracketed e ++ rest) ∧ '}' ∉ e ∧ e ≠ [] ∧ n = e.length + 3 := by
  constructor
  · intro h
    unfold placeholderAt? at h
    split at h
    · next r =>
      simp only at h
      split at h
      · next rest hd =>
        split at h
        · cases h
        · next hne =>
          obtain ⟨rfl, rfl⟩ := Prod.mk.inj (Option.some.inj h)
          refine ⟨⟨rest, ?_⟩, ?_, ?_, rfl⟩
          · rw [bracketed, List.cons_append, List.cons_append, List.append_assoc]
            have whole := List.takeWhile_append_dropWhile (p := (· != '}')) (l := r)
            rw [hd] at whole
            exact congrArg (fun r => '{' :: '{' :: r) whole.symm
          · intro hc
            have := List.mem_takeWhile_imp hc
            simp at this
          · intro he
            exact hne (by rw [he]; rfl)
      · cases h
    · cases h
  · rintro ⟨⟨rest, rfl⟩, he, hne, rfl⟩
    have shape : bracketed e ++ rest = '{' :: '{' :: (e ++ '}' :: '}' :: rest) := by
      simp [bracketed]
    rw [shape, placeholderAt?_braces e ('}' :: rest) he, if_neg (by simpa using hne)]

/-! ## The splitter -/

theorem placeholderAt?_eq_none_of_not_mem (s : List Char) (h : '}' ∉ s) :
    placeholderAt? s = none := by
  rw [Option.eq_none_iff_forall_ne_some]
  rintro ⟨e, n⟩ found
  obtain ⟨⟨rest, rfl⟩, -⟩ := (placeholderAt?_eq_some_iff _ _ _).1 found
  exact h (by simp [bracketed])

/-- A placeholder begins with two opening braces. -/
theorem placeholderAt?_of_not_braces (c : Char) (s : List Char)
    (h : (c == '{' && s.head? == some '{') = false) : placeholderAt? (c :: s) = none := by
  rw [Option.eq_none_iff_forall_ne_some]
  rintro ⟨e, n⟩ found
  obtain ⟨⟨rest, shape⟩, -⟩ := (placeholderAt?_eq_some_iff _ _ _).1 found
  obtain ⟨rfl, rfl⟩ := List.cons.inj shape
  cases h

theorem findIdx?_closing_eq_none (e : List Char) (he : '}' ∉ e) :
    e.findIdx? (· == '}') = none := by
  rw [List.findIdx?_eq_none_iff]
  rintro x hx
  rw [beq_eq_false_iff_ne]
  rintro rfl
  exact he hx

/-- Where the first closing brace stands, and what comes right behind it. -/
theorem first_closing (e after : List Char) (he : '}' ∉ e) :
    (e ++ '}' :: after).findIdx? (· == '}') = some e.length ∧
      (e ++ '}' :: after)[e.length + 1]? = after.head? := by
  constructor
  · rw [List.findIdx?_append, findIdx?_closing_eq_none e he, List.findIdx?_cons,
      if_pos (beq_self_eq_true _), Option.map_some, Nat.zero_add, Option.none_or]
  · rw [List.getElem?_append_right (Nat.le_succ _), Nat.succ_sub (Nat.le_refl _), Nat.sub_self,
      List.getElem?_cons_succ, List.head?_eq_getElem?]

/-- The splitter finds the placeholders that a scan finds. -/
theorem piecesFrom_eq_scanFrom (skip : Nat) (pending s : List Char) :
    piecesFrom skip pending s = Text.scanFrom placeholderAt? skip pending s := by
  induction s generalizing skip pending with
  | nil => cases skip <;> rfl
  | cons c s ih =>
    cases skip with
    | succ skip => exact ih skip pending
    | zero =>
      rw [piecesFrom, Text.scanFrom]
      cases opens : c == '{' && s.head? == some '{' with
      | false =>
        rw [placeholderAt?_of_not_braces c s opens, if_neg Bool.false_ne_true]
        exact ih 0 (c :: pending)
      | true =>
        obtain ⟨rfl, inner, rfl⟩ : c = '{' ∧ ∃ inner, s = '{' :: inner := by
          cases s <;> simp_all
        rw [if_pos rfl]
        dsimp only [List.tail_cons]
        by_cases closed : '}' ∈ inner
        · -- the first closing brace decides
          obtain ⟨e, after, rfl, he⟩ := List.eq_append_cons_of_mem closed
          obtain ⟨close, behind⟩ := first_closing e after he
          rw [close, placeholderAt?_braces e after he]
          dsimp only
          rw [behind, List.take_left, ih, ih]
          by_cases near : e = [] ∨ after.head? ≠ some '}'
          · rw [if_pos near, if_pos (by simpa using near)]
          · rw [if_neg near, if_neg (by simpa using near)]
        · -- no placeholder begins here or further on
          have free : '}' ∉ '{' :: '{' :: inner := by simpa using closed
          have quiet : Text.Quiet placeholderAt? ('{' :: inner) [] := fun u hu _ =>
            placeholderAt?_eq_none_of_not_mem _ fun h =>
              free (List.mem_cons_of_mem _ (hu.subset (by simpa using h)))
          rw [findIdx?_closing_eq_none inner closed, placeholderAt?_eq_none_of_not_mem _ free]
          dsimp only
          rw [← List.append_nil ('{' :: inner), Text.scanFrom_quiet _ _ _ _ quiet]
          simp [Text.scanFrom, Text.flushText]

theorem pieces_eq_scan (s : List Char) : pieces s = Text.scan placeholderAt? s :=
  piecesFrom_eq_scanFrom 0 [] s

/-- The pieces of a template that are found are placeholders, written out in full. -/
theorem found_of_mem_pieces (s e raw : List Char)
    (h : .found e raw ∈ Text.scan placeholderAt? s) : raw = bracketed e ∧ '}' ∉ e := by
  obtain ⟨c, r, more, hp, rfl⟩ := Text.found_of_mem_scan _ _ _ _ h
  obtain ⟨⟨rest, hs⟩, he, -, rfl⟩ := (placeholderAt?_eq_some_iff _ _ _).1 hp
  refine ⟨?_, he⟩
  have len : (bracketed e).length = e.length + 4 := by simp [bracketed]
  calc c :: r.take (e.length + 3) = (c :: r).take (e.length + 4) := rfl
    _ = bracketed e := by rw [hs, ← len, List.take_left]

theorem mem_names_of_found {s : String} {e raw : List Char}
    (h : .found e raw ∈ Text.scan placeholderAt? s.toList) : nameOf e ∈ names s := by
  rw [← pieces_eq_scan] at h
  exact List.mem_filterMap.mpr ⟨.found e raw, h, rfl⟩

/-! ## Marks -/

/-- What becomes of a part of a template: a character is kept, or a placeholder has a value. -/
inductive Mark where
  | kept (c : Char)
  | resolved (expression : List Char)
  deriving DecidableEq

namespace Mark

/-- The characters that stand in the template. -/
def source : Mark → List Char
  | kept c => [c]
  | resolved e => bracketed e

/-- The characters that stand in the result. -/
def output (lookup : String → Option String) : Mark → List Char
  | kept c => [c]
  | resolved e => ((lookup (nameOf e)).getD "").toList

end Mark

variable (lookup : String → Option String)

/-- The marks of a piece. -/
def marksOf : Text.Piece (List Char) → List Mark
  | .text cs => cs.map .kept
  | .found e raw => if (lookup (nameOf e)).isSome then [.resolved e] else raw.map .kept

/-- The marks of a template under a lookup. -/
def marks (s : String) : List Mark := (Text.scan placeholderAt? s.toList).flatMap (marksOf lookup)

theorem source_kept (cs : List Char) : (cs.map Mark.kept).flatMap Mark.source = cs := by
  induction cs with
  | nil => rfl
  | cons c r ih => rw [List.map_cons, List.flatMap_cons, ih]; rfl

theorem output_kept (cs : List Char) : (cs.map Mark.kept).flatMap (Mark.output lookup) = cs := by
  induction cs with
  | nil => rfl
  | cons c r ih => rw [List.map_cons, List.flatMap_cons, ih]; rfl

/-- The text of a template can be read off its marks. -/
theorem source_marks (s : String) : (marks lookup s).flatMap Mark.source = s.toList := by
  rw [marks, List.flatMap_assoc]
  conv => rhs; rw [← Text.chars_scan placeholderAt? s.toList]
  apply List.flatMap_congr
  intro piece hp
  cases piece with
  | text cs => exact source_kept cs
  | found e raw =>
    obtain ⟨rfl, -⟩ := found_of_mem_pieces _ _ _ hp
    rw [marksOf]
    split
    · simp [Mark.source, Text.Piece.chars]
    · exact source_kept _

/-- The resolved template can be read off its marks. -/
theorem toList_replace (s : String) :
    (replace s lookup).toList = (marks lookup s).flatMap (Mark.output lookup) := by
  rw [replace, String.toList_ofList, pieces_eq_scan, marks, Text.replaceFound, List.flatMap_assoc]
  apply List.flatMap_congr
  intro piece _
  cases piece with
  | text cs => exact (output_kept lookup cs).symm
  | found e raw =>
    rw [marksOf]
    cases hv : lookup (nameOf e) with
    | none => simpa [hv] using (output_kept lookup raw).symm
    | some v => simp [Mark.output, hv]

/-- Resolved marks come from placeholders, so they hold no closing brace. -/
theorem resolved_of_mem_marks (s : String) (e : List Char) (h : .resolved e ∈ marks lookup s) :
    '}' ∉ e ∧ nameOf e ∈ names s ∧ (lookup (nameOf e)).isSome := by
  obtain ⟨piece, hp, hm⟩ := List.mem_flatMap.mp h
  cases piece with
  | text cs => simp [marksOf] at hm
  | found e' raw =>
    rw [marksOf] at hm
    split at hm
    · next hs =>
      obtain rfl := Mark.resolved.inj (List.mem_singleton.mp hm)
      exact ⟨(found_of_mem_pieces _ _ _ hp).2, mem_names_of_found hp, hs⟩
    · simp at hm

/-! ## Reading the marks back -/

/-- A value that shows where it stands: it does not begin with a brace, so it cannot be taken for
the placeholder that it replaces. -/
def Tells (v : String) : Prop := ∃ c r, v.toList = c :: r ∧ c ≠ '{'

theorem bracketed_append_inj (e e' r r' : List Char) (he : '}' ∉ e) (he' : '}' ∉ e')
    (h : bracketed e ++ r = bracketed e' ++ r') : e = e' ∧ r = r' := by
  have both : ∀ (a b : List Char), '}' ∉ a → '}' ∉ b →
      a ++ '}' :: '}' :: r = b ++ '}' :: '}' :: r' → a = b ∧ r = r' := by
    intro a
    induction a with
    | nil =>
      intro b _ hb h
      cases b with
      | nil => simpa using h
      | cons c b => exact absurd ((List.cons.inj h).1 ▸ List.mem_cons_self) hb
    | cons d a ih =>
      intro b ha hb h
      cases b with
      | nil => exact absurd ((List.cons.inj h).1 ▸ List.mem_cons_self) ha
      | cons c b =>
        obtain ⟨hc, ht⟩ := List.cons.inj h
        obtain ⟨hab, hr⟩ := ih b (fun m => ha (List.mem_cons_of_mem _ m))
          (fun m => hb (List.mem_cons_of_mem _ m)) ht
        exact ⟨by rw [hc, hab], hr⟩
  exact both e e' he he' (by simpa [bracketed] using h)

/-- A pass asks for the names of the placeholders only. -/
theorem replace_congr (s : String) (f g : String → Option String)
    (h : ∀ n ∈ names s, f n = g n) : replace s f = replace s g := by
  unfold replace Text.replaceFound
  congr 1
  apply List.flatMap_congr
  intro p hp
  cases p with
  | text cs => rfl
  | found e raw =>
    have asked : nameOf e ∈ names s := by
      rw [pieces_eq_scan] at hp
      exact mem_names_of_found hp
    show ((f (nameOf e)).map String.toList).getD raw = ((g (nameOf e)).map String.toList).getD raw
    rw [h _ asked]

/-- Two ways to mark one text that give the same result are the same, when every value that
stands in them tells itself from a placeholder. -/
theorem marks_unique (ms ns : List Mark)
    (hm : ∀ e, .resolved e ∈ ms → '}' ∉ e ∧ ∃ v, lookup (nameOf e) = some v ∧ Tells v)
    (hn : ∀ e, .resolved e ∈ ns → '}' ∉ e ∧ ∃ v, lookup (nameOf e) = some v ∧ Tells v)
    (hs : ms.flatMap Mark.source = ns.flatMap Mark.source)
    (ho : ms.flatMap (Mark.output lookup) = ns.flatMap (Mark.output lookup)) : ms = ns := by
  -- a value cannot stand where the other marking keeps the brace of its placeholder
  have clash : ∀ (c : Char) (e a b a' b' : List Char),
      (∃ v, lookup (nameOf e) = some v ∧ Tells v) → c :: a = bracketed e ++ b →
      c :: a' = Mark.output lookup (.resolved e) ++ b' → False := by
    rintro c e a b a' b' ⟨v, hv, d, r, hd, hne⟩ h1 h2
    rw [bracketed, List.cons_append] at h1
    rw [Mark.output, hv, Option.getD_some, hd, List.cons_append] at h2
    exact hne ((List.cons.inj h2).1.symm.trans (List.cons.inj h1).1)
  induction ms generalizing ns with
  | nil =>
    cases ns with
    | nil => rfl
    | cons n ns => cases n <;> simp [Mark.source, bracketed] at hs
  | cons m ms ih =>
    cases ns with
    | nil => cases m <;> simp [Mark.source, bracketed] at hs
    | cons n ns =>
      have hm' := fun e h => hm e (List.mem_cons_of_mem _ h)
      have hn' := fun e h => hn e (List.mem_cons_of_mem _ h)
      rw [List.flatMap_cons, List.flatMap_cons] at hs ho
      cases m with
      | kept c =>
        cases n with
        | kept d =>
          obtain ⟨hc, hs'⟩ := List.cons.inj hs
          rw [hc, ih ns hm' hn' hs' (List.cons.inj ho).2]
        | resolved e => exact (clash c e _ _ _ _ (hn e List.mem_cons_self).2 hs ho).elim
      | resolved e =>
        have he := hm e List.mem_cons_self
        cases n with
        | kept d => exact (clash d e _ _ _ _ he.2 hs.symm ho.symm).elim
        | resolved e' =>
          obtain ⟨rfl, hs'⟩ := bracketed_append_inj e e' _ _ he.1 (hn e' List.mem_cons_self).1 hs
          rw [ih ns hm' hn' hs' (List.append_cancel_left ho)]

end HttpScript.Template
