import HttpScript.Body

/-!
# Written body paths

The grammar of body paths. A path is written as segments between points; a segment is a name without
points and brackets, followed by digits in brackets, where either may be missing but not both:

    items[2].id      [0].name      a.[1][02]

What is written is read back, segment by segment.

    parse? w.text = some w.path                                      (parse?_text)
-/

namespace HttpScript

/-! ## Pieces between separators -/

namespace Text

theorem splitBy_of_free (sep : Char → Bool) (p : List Char) (free : ∀ c ∈ p, sep c = false) :
    splitBy sep p = [p] := by
  induction p with
  | nil => rfl
  | cons c p ih =>
    rw [splitBy, free c List.mem_cons_self, if_neg Bool.false_ne_true,
      ih fun d hd => free d (List.mem_cons_of_mem _ hd)]

theorem splitBy_append_sep (sep : Char → Bool) (p s : List Char) (c : Char)
    (free : ∀ d ∈ p, sep d = false) (ends : sep c = true) :
    splitBy sep (p ++ c :: s) = p :: splitBy sep s := by
  induction p with
  | nil => rw [List.nil_append, splitBy, if_pos ends]
  | cons d p ih =>
    rw [List.cons_append, splitBy, free d List.mem_cons_self, if_neg Bool.false_ne_true,
      ih fun d hd => free d (List.mem_cons_of_mem _ hd)]

/-- Pieces that are joined by a separator are told apart again. -/
theorem splitBy_intercalate (sep : Char → Bool) (c : Char) (ends : sep c = true)
    (ps : List (List Char)) (some_ : ps ≠ []) (free : ∀ p ∈ ps, ∀ d ∈ p, sep d = false) :
    splitBy sep ([c].intercalate ps) = ps := by
  induction ps with
  | nil => exact absurd rfl some_
  | cons p ps ih =>
    have first := free p List.mem_cons_self
    cases ps with
    | nil =>
      rw [List.intercalate_singleton]
      exact splitBy_of_free sep p first
    | cons q ps =>
      have rest := ih (by simp) fun p hp => free p (List.mem_cons_of_mem _ hp)
      rw [List.intercalate_cons_cons, List.append_assoc, List.singleton_append,
        splitBy_append_sep sep p _ c first ends, rest]

end Text

namespace BodyPath

/-! ## The grammar -/

/-- A segment as it is written: its name, and the digits of its indexes. -/
structure WrittenSegment where
  name : List Char
  indexes : List (List Char)
  plain : ∀ c ∈ name, c ≠ '.' ∧ isBracket c = false
  digits : ∀ ds ∈ indexes, ds ≠ [] ∧ ∀ d ∈ ds, d.isDigit = true
  filled : name ≠ [] ∨ indexes ≠ []

/-- Digits in brackets. -/
def bracketed (ds : List Char) : List Char := '[' :: (ds ++ [']'])

namespace WrittenSegment

/-- Text of a written segment. -/
def text (w : WrittenSegment) : List Char := w.name ++ w.indexes.flatMap bracketed

/-- The segment that is written. -/
def segment (w : WrittenSegment) : Segment where
  property := if w.name.isEmpty then none else some (String.ofList w.name)
  indexes := w.indexes.map Text.digitsValue

end WrittenSegment

/-- A path as it is written. -/
structure WrittenPath where
  segments : List WrittenSegment
  nonempty : segments ≠ []

namespace WrittenPath

/-- Text of a written path. -/
def text (w : WrittenPath) : String :=
  String.ofList (['.'].intercalate (w.segments.map WrittenSegment.text))

/-- The path that is written. -/
def path (w : WrittenPath) : BodyPath := w.segments.map WrittenSegment.segment

end WrittenPath

/-! ## Reading back -/

/-- Digits up to a closing bracket are one index. -/
theorem indexesFrom_digits (ds rest read : List Char) (digits : ∀ d ∈ ds, d.isDigit = true)
    (filled : read ≠ [] ∨ ds ≠ []) :
    indexesFrom (some read) (ds ++ ']' :: rest) =
      (indexesFrom none rest).map (Text.digitsValue (read.reverse ++ ds) :: ·) := by
  induction ds generalizing read with
  | nil =>
    have shown : read.isEmpty = false := by
      cases read with
      | nil => simp at filled
      | cons c r => rfl
    have other : ']'.isDigit = false := by decide
    rw [List.nil_append, indexesFrom, other, shown]
    simp
  | cons d ds ih =>
    rw [List.cons_append, indexesFrom, digits d List.mem_cons_self, if_pos rfl,
      ih (d :: read) (fun d hd => digits d (List.mem_cons_of_mem _ hd)) (.inl (by simp))]
    simp

theorem indexesFrom_bracketed (groups : List (List Char))
    (digits : ∀ ds ∈ groups, ds ≠ [] ∧ ∀ d ∈ ds, d.isDigit = true) :
    indexesFrom none (groups.flatMap bracketed) = some (groups.map Text.digitsValue) := by
  induction groups with
  | nil => rfl
  | cons ds groups ih =>
    obtain ⟨filled, all⟩ := digits ds List.mem_cons_self
    have rest := ih fun ds hds => digits ds (List.mem_cons_of_mem _ hds)
    have shape : (ds :: groups).flatMap bracketed =
        '[' :: (ds ++ ']' :: groups.flatMap bracketed) := by simp [bracketed]
    rw [shape, indexesFrom, if_pos (by decide), indexesFrom_digits ds _ [] all (.inr filled), rest]
    rfl

/-- The name of a written segment ends where its indexes begin. -/
theorem WrittenSegment.cut_text (w : WrittenSegment) :
    w.text.takeWhile (!isBracket ·) = w.name ∧
      w.text.dropWhile (!isBracket ·) = w.indexes.flatMap bracketed := by
  have inside : ∀ c ∈ w.name, (!isBracket c) = true := by
    intro c hc
    simp [(w.plain c hc).2]
  have stop : isBracket '[' = true := by decide
  unfold WrittenSegment.text
  rw [List.takeWhile_append_of_pos inside, List.dropWhile_append_of_pos inside]
  cases w.indexes with
  | nil => simp
  | cons ds groups => simp [bracketed, stop]

theorem segment?_text (w : WrittenSegment) : segment? w.text = some w.segment := by
  obtain ⟨front, back⟩ := w.cut_text
  unfold segment?
  simp only [front, back, indexesFrom_bracketed _ w.digits]
  unfold WrittenSegment.segment
  cases hn : w.name with
  | nil =>
    have indexed : w.indexes ≠ [] := w.filled.resolve_left fun h => h hn
    cases hi : w.indexes with
    | nil => exact absurd hi indexed
    | cons ds groups => rfl
  | cons c r => rfl

theorem segments?_text (ws : List WrittenSegment) :
    segments? (ws.map WrittenSegment.text) = some (ws.map WrittenSegment.segment) := by
  induction ws with
  | nil => rfl
  | cons w ws ih =>
    rw [List.map_cons, segments?, segment?_text, ih]
    rfl

/-- A segment has no point in its text. -/
theorem WrittenSegment.not_point (w : WrittenSegment) : ∀ c ∈ w.text, (c == '.') = false := by
  intro c hc
  rw [beq_eq_false_iff_ne]
  rcases List.mem_append.mp hc with hc | hc
  · exact (w.plain c hc).1
  · obtain ⟨ds, hds, hc⟩ := List.mem_flatMap.mp hc
    have among : c = '[' ∨ c ∈ ds ∨ c = ']' := by simpa [bracketed] using hc
    rintro rfl
    rcases among with h | h | h
    · exact absurd h (by decide)
    · exact absurd ((w.digits ds hds).2 _ h) (by decide)
    · exact absurd h (by decide)

/-- A written path is read back. -/
theorem parse?_text (w : WrittenPath) : parse? w.text = some w.path := by
  have pieces : Text.splitBy (· == '.') w.text.toList = w.segments.map WrittenSegment.text := by
    unfold WrittenPath.text
    rw [String.toList_ofList]
    refine Text.splitBy_intercalate _ '.' (by decide) _ (by simpa using w.nonempty) ?_
    intro p hp
    obtain ⟨s, -, rfl⟩ := List.mem_map.mp hp
    exact s.not_point
  unfold parse?
  rw [pieces, segments?_text]
  rfl

theorem WrittenPath.text_ne_nil (w : WrittenPath) : w.text.toList ≠ [] := by
  intro empty
  have read := parse?_text w
  unfold parse? at read
  rw [empty] at read
  cases read

end BodyPath

end HttpScript
