import HttpScript.Proofs.JsoncCleaning

/-!
# The lines of a text with comments

Cleaning deletes characters of comments and commas of the code, and nothing else. No line end is
among them, so what is left stands on the line where it stood.

    Pieces ps s → stripComments s = ps.flatMap left                     (Pieces.strip)
    Pieces ps s → Left ps (clean s)                                     (Pieces.left_clean)

What is left of the pieces is again cut into pieces, and no comment is among them: a slash has
behind it what it had before, or a line end.
-/

namespace HttpScript

namespace Text

/-! ## Lines of a thinned text -/

/-- Lines are not joined and not torn where no separator is deleted. -/
theorem splitBy_sublist {sep : Char → Bool} {r s : List Char} (sub : r.Sublist s)
    (ends : r.filter sep = s.filter sep) :
    List.Forall₂ List.Sublist (splitBy sep r) (splitBy sep s) := by
  induction sub with
  | slnil => exact .cons .slnil .nil
  | @cons r s c sub ih =>
    by_cases separates : sep c = true
    · -- a separator would be missed
      have fewer : (r.filter sep).length ≤ (s.filter sep).length := (sub.filter sep).length_le
      rw [ends, List.filter_cons_of_pos separates, List.length_cons] at fewer
      omega
    · rw [List.filter_cons_of_neg separates] at ends
      obtain ⟨l, ls, cut⟩ := List.exists_cons_of_ne_nil (splitBy_ne_nil sep s)
      have lines := ih ends
      rw [cut, List.forall₂_cons_right_iff] at lines
      obtain ⟨k, ks, line, others, cut'⟩ := lines
      rw [splitBy, if_neg separates, cut, cut']
      exact .cons (line.cons c) others
  | @cons_cons r s c sub ih =>
    by_cases separates : sep c = true
    · rw [List.filter_cons_of_pos separates, List.filter_cons_of_pos separates] at ends
      rw [splitBy, splitBy, if_pos separates, if_pos separates]
      exact .cons .slnil (ih (List.cons.inj ends).2)
    · rw [List.filter_cons_of_neg separates, List.filter_cons_of_neg separates] at ends
      obtain ⟨k, ks, cut'⟩ := List.exists_cons_of_ne_nil (splitBy_ne_nil sep r)
      obtain ⟨l, ls, cut⟩ := List.exists_cons_of_ne_nil (splitBy_ne_nil sep s)
      have lines := ih ends
      rw [splitBy, splitBy, if_neg separates, if_neg separates, cut, cut']
      rw [cut, cut'] at lines
      cases lines with
      | cons line others => exact .cons (line.cons_cons c) others

end Text

namespace Jsonc

open Text (isLineEnd splitBy)

/-! ## What is left of a piece -/

namespace Piece

theorem left_sublist (p : Piece) : p.left.Sublist p.chars := by
  unfold left
  split
  · exact List.filter_sublist
  · exact .refl _

/-- A line end is never deleted with a piece. -/
theorem filter_left (p : Piece) {sep : Char → Bool}
    (ends : ∀ c, sep c = true → isLineEnd c = true) :
    p.left.filter sep = p.chars.filter sep := by
  unfold left
  split
  · rw [List.filter_filter]
    congr 1
    funext c
    cases separates : sep c with
    | false => rfl
    | true => rw [ends c separates]; rfl
  · rfl

/-- Of a comment, nothing is left that a scanner acts on. -/
theorem left_of_isComment {p : Piece} (comment : p.isComment = true) :
    ∀ c ∈ p.left, isLineEnd c = true := by
  intro c hc
  rw [left, if_pos comment] at hc
  exact (List.mem_filter.1 hc).2

theorem left_line {note : List Char} (inside : ∀ c ∈ note, isLineEnd c = false) :
    (line note).left = [] := by
  refine List.filter_eq_nil_iff.2 fun c hc ends => ?_
  rcases List.mem_cons.1 hc with rfl | hc
  · cases ends
  rcases List.mem_cons.1 hc with rfl | hc
  · cases ends
  · rw [inside c hc] at ends
    cases ends

theorem left_quoted_append (inner s : List Char) :
    (quoted inner).left ++ s = '"' :: (inner ++ '"' :: s) := by
  simp [left, isComment, chars]

theorem left_block (note : List Char) : (block note).left = note.filter isLineEnd := by
  show ('/' :: '*' :: (note ++ ['*', '/'])).filter isLineEnd = _
  rw [List.filter_cons_of_neg (by decide), List.filter_cons_of_neg (by decide), List.filter_append]
  exact List.append_nil _

theorem left_openBlock (note : List Char) : (openBlock note).left = note.filter isLineEnd := by
  show ('/' :: '*' :: note).filter isLineEnd = _
  rw [List.filter_cons_of_neg (by decide), List.filter_cons_of_neg (by decide)]

end Piece

/-- What may be left of the pieces: each of them without its comment, and of the code not every
comma. -/
inductive Left : List Piece → List Char → Prop where
  | nil : Left [] []
  | keep (p : Piece) {ps : List Piece} {r : List Char} (rest : Left ps r) :
      Left (p :: ps) (p.left ++ r)
  | comma {ps : List Piece} {r : List Char} (rest : Left ps r) : Left (.code ',' :: ps) r

theorem Left.sublist {ps : List Piece} {r : List Char} (h : Left ps r) :
    r.Sublist (ps.flatMap Piece.chars) := by
  induction h with
  | nil => exact .slnil
  | keep p _ ih => exact p.left_sublist.append ih
  | comma _ ih => exact ih.cons ','

theorem Left.filter {ps : List Piece} {r : List Char} (h : Left ps r) {sep : Char → Bool}
    (ends : ∀ c, sep c = true → isLineEnd c = true) :
    r.filter sep = (ps.flatMap Piece.chars).filter sep := by
  induction h with
  | nil => rfl
  | keep p _ ih =>
    rw [List.filter_append, ih, p.filter_left ends, List.flatMap_cons, List.filter_append]
  | comma _ ih =>
    have other : ¬ sep ',' = true := fun separates => absurd (ends ',' separates) (by decide)
    rw [ih, List.flatMap_cons, List.filter_append]
    show _ = [','].filter sep ++ _
    rw [List.filter_cons_of_neg other]
    rfl

/-! ## The scanners over the pieces -/

/-- A string that the end of the text breaks off stays. -/
theorem KeepsStrings.unclosed {code quoted : List Char → List Char}
    (keeps : KeepsStrings code quoted) (ends : quoted [] = []) (broken : quoted ['\\'] = ['\\'])
    {inner : List Char} (h : Unclosed inner) : quoted inner = inner := by
  induction h with
  | nil => exact ends
  | backslash => exact broken
  | plain inner unescaped _ ih => rw [keeps.inside _ _ inner unescaped, ih]
  | escape _ ih => rw [keeps.escape, ih]

/-- Of a comment that the end of the text breaks off its line ends stay. -/
theorem stripFrom_openBlock {note : List Char} (inside : ¬ ['*', '/'] <:+: note) :
    stripFrom .blockComment note = note.filter isLineEnd := by
  induction note with
  | nil => rfl
  | cons c note ih =>
    have stays := note_stays inside (s := []) (by simp)
    rw [List.append_nil] at stays
    rw [stripFrom_blockComment stays, ih (note_tail inside), List.filter_cons]
    rfl

theorem stripFrom_slash {s : List Char} (next : ∀ d ∈ s.head?, d ≠ '/' ∧ d ≠ '*') :
    stripFrom .code ('/' :: s) = '/' :: stripFrom .code s := by
  rw [stripFrom]
  · exact fun h => absurd h (by decide)
  · rintro r - rfl
    exact (next _ rfl).1 rfl
  · rintro r - rfl
    exact (next _ rfl).2 rfl

/-- Without comments, what is left of the pieces stands in a row. -/
theorem Pieces.strip {ps : List Piece} {s : List Char} (h : Pieces ps s) :
    stripComments s = ps.flatMap Piece.left := by
  have keeps := keepsStrings_strip
  unfold stripComments
  induction h with
  | nil => rfl
  | @code c ps s quote slash _ ih =>
    rw [List.flatMap_cons, ← ih]
    by_cases opens : c = '/'
    · rw [opens, stripFrom_slash (slash opens)]
      rfl
    · rw [stripFrom_code quote opens]
      rfl
  | @quoted inner ps s inside _ ih =>
    rw [keeps.opens, keeps.append_inside inside, ih, List.flatMap_cons, Piece.left_quoted_append]
  | unclosed inside =>
    rw [keeps.opens, keeps.unclosed rfl rfl inside]
    simp [Piece.left, Piece.isComment, Piece.chars]
  | @line note ps s inside ends _ ih =>
    rw [List.flatMap_cons, Piece.left_line inside, ← ih]
    show stripFrom .lineComment (note ++ s) = _
    rw [stripFrom_lineComment_append inside]
    cases s with
    | nil => rfl
    | cons c s =>
      have stops : (c == '\n' || c == '\r') = true := ends c rfl
      rw [stripFrom_lineComment, if_pos stops]
      exact (keeps.plain c s (plain_of_isSpace (isSpace_of_isLineEnd (ends c rfl)))).symm
  | @block note ps s inside _ ih =>
    rw [List.flatMap_cons, Piece.left_block, ← ih]
    exact stripFrom_blockComment_append inside s
  | @openBlock note inside =>
    rw [List.flatMap_cons, Piece.left_openBlock, List.flatMap_nil, List.append_nil]
    exact stripFrom_openBlock inside

/-- Without trailing commas, a comma of the code may be missing. -/
theorem Pieces.left_clean {ps : List Piece} {s : List Char} (h : Pieces ps s) :
    Left ps (clean s) := by
  have keeps := keepsStrings_dropCommas
  have comment {p : Piece} (h : p.isComment = true) {ps : List Piece} {r : List Char}
      (rest : Left ps (dropCommasFrom false r)) :
      Left (p :: ps) (dropCommasFrom false (p.left ++ r)) := by
    have plain : ∀ c ∈ p.left, isPlain c = true := fun c hc =>
      plain_of_isSpace (isSpace_of_isLineEnd (Piece.left_of_isComment h c hc))
    rw [keeps.append_plain plain]
    exact .keep p rest
  unfold clean dropTrailingCommas
  rw [h.strip]
  induction h with
  | nil => exact .nil
  | @code c ps s quote _ _ ih =>
    show Left (.code c :: ps) (dropCommasFrom false (c :: ps.flatMap Piece.left))
    rw [dropCommasFrom_code, beq_false_of_ne quote]
    split
    · next dropped =>
      obtain rfl : c = ',' := by
        rw [Bool.and_eq_true, beq_iff_eq] at dropped
        exact dropped.1
      exact .comma ih
    · exact .keep (.code c) ih
  | @quoted inner ps s inside _ ih =>
    rw [List.flatMap_cons, Piece.left_quoted_append, keeps.opens, keeps.append_inside inside,
      ← Piece.left_quoted_append]
    exact .keep (.quoted inner) ih
  | @unclosed inner inside =>
    have same : dropCommasFrom false ('"' :: inner) = '"' :: inner := by
      rw [keeps.opens, keeps.unclosed rfl rfl inside]
    have kept := Left.keep (.unclosed inner) .nil
    rw [List.flatMap_cons, List.flatMap_nil]
    rw [List.append_nil] at kept ⊢
    exact same ▸ kept
  | line _ _ _ ih => exact comment rfl ih
  | block _ _ ih => exact comment rfl ih
  | openBlock _ => exact comment rfl .nil

/-! ## No comment is left -/

/-- Line ends are code. -/
theorem Pieces.append_lineEnds {w : List Char} (ends : ∀ c ∈ w, isLineEnd c = true)
    {ps : List Piece} {s : List Char} (rest : Pieces ps s) :
    Pieces (w.map .code ++ ps) (w ++ s) := by
  induction w with
  | nil => exact rest
  | cons c w ih =>
    obtain ⟨quote, slash, -⟩ := ne_of_isPlain
      (plain_of_isSpace (isSpace_of_isLineEnd (ends c List.mem_cons_self)))
    exact .code quote (absurd · slash) (ih fun d hd => ends d (List.mem_cons_of_mem c hd))

/-- What a text begins with is what is left of it, if it is no comment. -/
theorem Pieces.head?_left {ps : List Piece} {s : List Char} (h : Pieces ps s)
    (next : ∀ d ∈ s.head?, d ≠ '/' ∧ d ≠ '*') :
    ∀ d ∈ (ps.flatMap Piece.left).head?, d ∈ s.head? := by
  cases h with
  | nil => nofun
  | code _ _ _ => exact fun _ h => h
  | quoted _ _ => exact fun _ h => h
  | unclosed _ => exact fun _ h => h
  | line _ _ _ => exact absurd rfl (next _ rfl).1
  | block _ _ => exact absurd rfl (next _ rfl).1
  | openBlock _ => exact absurd rfl (next _ rfl).1

theorem Pieces.settled {ps : List Piece} {s : List Char} (h : Pieces ps s) :
    Pieces (ps.flatMap Piece.settled) (ps.flatMap Piece.left) := by
  have comment {p : Piece} (h : p.isComment = true) {qs : List Piece} {r : List Char}
      (rest : Pieces qs r) : Pieces (p.settled ++ qs) (p.left ++ r) := by
    have same : p.settled = p.left.map .code := by
      rw [Piece.settled, Piece.left, if_pos h, if_pos h]
    rw [same]
    exact rest.append_lineEnds (Piece.left_of_isComment h)
  induction h with
  | nil => exact .nil
  | code quote slash rest ih =>
    exact .code quote (fun opens d hd => slash opens d (rest.head?_left (slash opens) d hd)) ih
  | @quoted inner ps s inside _ ih =>
    rw [List.flatMap_cons, List.flatMap_cons, Piece.left_quoted_append]
    exact .quoted inside ih
  | @unclosed inner inside =>
    rw [List.flatMap_cons, List.flatMap_cons, List.flatMap_nil, List.flatMap_nil, List.append_nil,
      List.append_nil]
    exact .unclosed inside
  | line _ _ _ ih => exact comment rfl ih
  | block _ _ ih => exact comment rfl ih
  | openBlock _ => exact comment rfl .nil

theorem Piece.isComment_of_mem_settled (p : Piece) : ∀ q ∈ p.settled, q.isComment = false := by
  intro q hq
  cases comment : p.isComment with
  | true =>
    rw [settled, if_pos comment] at hq
    obtain ⟨c, -, rfl⟩ := List.mem_map.1 hq
    rfl
  | false =>
    rw [settled, comment, if_neg Bool.false_ne_true, List.mem_singleton] at hq
    rwa [hq]

/-- In what is left no comment is found. -/
theorem Pieces.isComment_of_strip {s : List Char} {qs : List Piece}
    (h : Pieces qs (stripComments s)) : ∀ q ∈ qs, q.isComment = false := by
  obtain ⟨ps, pieces⟩ := exists_pieces s
  rw [pieces.strip] at h
  rw [h.unique pieces.settled]
  intro q hq
  obtain ⟨p, -, hq⟩ := List.mem_flatMap.1 hq
  exact p.isComment_of_mem_settled q hq

/-- A text in which no comment is found is left as it is. -/
theorem Pieces.strip_eq_self {ps : List Piece} {s : List Char} (h : Pieces ps s)
    (plain : ∀ p ∈ ps, p.isComment = false) : stripComments s = s := by
  have whole : ∀ p ∈ ps, p.left = p.chars := fun p hp => by
    rw [Piece.left, plain p hp, if_neg Bool.false_ne_true]
  rw [h.strip, List.flatMap_congr whole, h.chars_eq]

/-! ## Texts as a whole -/

/-- **Cleaning keeps every line where it was.** A text, well formed or not, is cut into pieces in
one way. Cleaning takes from them all of the comments but their line ends and of the code some
commas, and it takes nothing else. So every line, with a line end at each CR, at each LF or at each
of both, keeps a part of what stood on it. When comments are taken, no comment arises. -/
theorem clean_keeps_lines (content : String) :
    ∃ ps, (∀ qs, Pieces qs content.toList ↔ qs = ps) ∧
      stripComments content.toList = ps.flatMap Piece.left ∧ Left ps (clean content.toList) ∧
      (clean content.toList).Sublist content.toList ∧
      (∀ sep : Char → Bool, (∀ c, sep c = true → isLineEnd c = true) →
        (clean content.toList).filter sep = content.toList.filter sep ∧
          List.Forall₂ List.Sublist (splitBy sep (clean content.toList))
            (splitBy sep content.toList)) ∧
      stripComments (stripComments content.toList) = stripComments content.toList ∧
      ∃ rs, (∀ qs, Pieces qs (stripComments content.toList) ↔ qs = rs) ∧
        ∀ r ∈ rs, r.isComment = false := by
  obtain ⟨ps, pieces⟩ := exists_pieces content.toList
  obtain ⟨rs, settled⟩ := exists_pieces (stripComments content.toList)
  have one {ps : List Piece} {s : List Char} (h : Pieces ps s) (qs : List Piece) :
      Pieces qs s ↔ qs = ps := ⟨fun other => other.unique h, fun same => same ▸ h⟩
  have sub : (clean content.toList).Sublist content.toList :=
    pieces.chars_eq ▸ pieces.left_clean.sublist
  refine ⟨ps, one pieces, pieces.strip, pieces.left_clean, sub, fun sep ends => ?_,
    settled.strip_eq_self settled.isComment_of_strip, rs, one settled, settled.isComment_of_strip⟩
  have kept : (clean content.toList).filter sep = content.toList.filter sep :=
    (pieces.left_clean.filter ends).trans (by rw [pieces.chars_eq])
  exact ⟨kept, Text.splitBy_sublist sub kept⟩

theorem clean_keeps_lines_list :
    (splitBy isLineEnd (clean "[1, /* \" ,\r\n*/2,] //".toList)).map String.ofList =
        ["[1, ", "", "2] "] ∧
      List.Forall₂ List.Sublist (splitBy isLineEnd (clean "[1, /* \" ,\r\n*/2,] //".toList))
        (splitBy isLineEnd "[1, /* \" ,\r\n*/2,] //".toList) := by
  obtain ⟨ps, -, -, -, -, lines, -⟩ := clean_keeps_lines "[1, /* \" ,\r\n*/2,] //"
  exact ⟨by decide +kernel, (lines isLineEnd fun _ ends => ends).2⟩

end Jsonc

end HttpScript
