import HttpScript.Proofs.Lines
import Mathlib.Data.List.TakeWhile

/-!
# The pieces of a text with comments

Every text, well formed or not, is cut into code, strings and comments, and in one way only.

    ∃ ps, Pieces ps s                              (exists_pieces)
    Pieces ps s → Pieces qs s → ps = qs            (Pieces.unique)

A string or a comment that is not closed goes up to the end of the text. A slash of the code has no
slash and no asterisk behind it, or a comment would begin there.
-/

namespace HttpScript.Jsonc

open Text (isLineEnd)

/-! ## Pieces -/

/-- What may stand in a string: a backslash takes the next character with it. -/
inductive Inside : List Char → Prop where
  | nil : Inside []
  | plain {c : Char} {s : List Char} (inner : c ≠ '"') (unescaped : c ≠ '\\') (rest : Inside s) :
      Inside (c :: s)
  | escape {c : Char} {s : List Char} (rest : Inside s) : Inside ('\\' :: c :: s)

/-- What may stand in a string that the end of the text breaks off, perhaps behind a backslash. -/
inductive Unclosed : List Char → Prop where
  | nil : Unclosed []
  | backslash : Unclosed ['\\']
  | plain {c : Char} {s : List Char} (inner : c ≠ '"') (unescaped : c ≠ '\\') (rest : Unclosed s) :
      Unclosed (c :: s)
  | escape {c : Char} {s : List Char} (rest : Unclosed s) : Unclosed ('\\' :: c :: s)

/-- A character of the code, a string or a comment. -/
inductive Piece where
  | code (c : Char)
  | quoted (inner : List Char)
  | unclosed (inner : List Char)
  | line (note : List Char)
  | block (note : List Char)
  | openBlock (note : List Char)
  deriving DecidableEq, Repr

namespace Piece

def isComment : Piece → Bool
  | line _ | block _ | openBlock _ => true
  | _ => false

/-- The characters of a piece. -/
def chars : Piece → List Char
  | code c => [c]
  | quoted inner => '"' :: (inner ++ ['"'])
  | unclosed inner => '"' :: inner
  | line note => '/' :: '/' :: note
  | block note => '/' :: '*' :: (note ++ ['*', '/'])
  | openBlock note => '/' :: '*' :: note

/-- What is left of a piece: of a comment, its line ends. -/
def left (p : Piece) : List Char := if p.isComment then p.chars.filter isLineEnd else p.chars

/-- What is left of a piece, as pieces. -/
def settled (p : Piece) : List Piece :=
  if p.isComment then (p.chars.filter isLineEnd).map code else [p]

end Piece

/-- The text is the pieces in a row. A string goes up to the first quote that no backslash takes,
a comment on one line up to the first line end, any other comment up to the first `*/`, and each of
them to the end of the text if there is none. -/
inductive Pieces : List Piece → List Char → Prop where
  | nil : Pieces [] []
  | code {c : Char} {ps : List Piece} {s : List Char} (quote : c ≠ '"')
      (slash : c = '/' → ∀ d ∈ s.head?, d ≠ '/' ∧ d ≠ '*') (rest : Pieces ps s) :
      Pieces (.code c :: ps) (c :: s)
  | quoted {inner : List Char} {ps : List Piece} {s : List Char} (inside : Inside inner)
      (rest : Pieces ps s) : Pieces (.quoted inner :: ps) ('"' :: (inner ++ '"' :: s))
  | unclosed {inner : List Char} (inside : Unclosed inner) :
      Pieces [.unclosed inner] ('"' :: inner)
  | line {note : List Char} {ps : List Piece} {s : List Char}
      (inside : ∀ c ∈ note, isLineEnd c = false) (ends : ∀ c ∈ s.head?, isLineEnd c = true)
      (rest : Pieces ps s) : Pieces (.line note :: ps) ('/' :: '/' :: (note ++ s))
  | block {note : List Char} {ps : List Piece} {s : List Char} (inside : ¬ ['*', '/'] <:+: note)
      (rest : Pieces ps s) : Pieces (.block note :: ps) ('/' :: '*' :: (note ++ '*' :: '/' :: s))
  | openBlock {note : List Char} (inside : ¬ ['*', '/'] <:+: note) :
      Pieces [.openBlock note] ('/' :: '*' :: note)

theorem Pieces.chars_eq {ps : List Piece} {s : List Char} (h : Pieces ps s) :
    ps.flatMap Piece.chars = s := by
  induction h with
  | nil => rfl
  | code _ _ _ ih => rw [List.flatMap_cons, ih]; rfl
  | quoted _ _ ih => rw [List.flatMap_cons, ih]; simp [Piece.chars]
  | unclosed _ => simp [Piece.chars]
  | line _ _ _ ih => rw [List.flatMap_cons, ih]; simp [Piece.chars]
  | block _ _ ih => rw [List.flatMap_cons, ih]; simp [Piece.chars]
  | openBlock _ => simp [Piece.chars]

/-- Inside a comment, neither the note nor what does not begin with a slash closes it. -/
theorem note_stays {c : Char} {note s : List Char} (inside : ¬ ['*', '/'] <:+: c :: note)
    (behind : ∀ d ∈ s.head?, d ≠ '/') : ∀ r, c = '*' → note ++ s = '/' :: r → False := by
  rintro r rfl closed
  cases note with
  | nil =>
    rw [List.nil_append] at closed
    rw [closed] at behind
    exact behind '/' rfl rfl
  | cons d note =>
    obtain rfl : d = '/' := (List.cons.inj closed).1
    exact inside ⟨[], note, rfl⟩

theorem note_tail {c : Char} {note : List Char} (inside : ¬ ['*', '/'] <:+: c :: note) :
    ¬ ['*', '/'] <:+: note := fun h => inside (h.trans (List.suffix_cons c note).isInfix)

/-! ## Every text has pieces -/

/-- Inside a string, either the quote that ends it comes or the end of the text. -/
theorem exists_inside (s : List Char) :
    (∃ inner rest, Inside inner ∧ s = inner ++ '"' :: rest) ∨ Unclosed s := by
  match s with
  | [] => exact .inr .nil
  | c :: s =>
    by_cases quote : c = '"'
    · exact .inl ⟨[], s, .nil, by rw [quote]; rfl⟩
    by_cases escape : c = '\\'
    · subst escape
      cases s with
      | nil => exact .inr .backslash
      | cons d s =>
        rcases exists_inside s with ⟨inner, rest, inside, rfl⟩ | unclosed
        · exact .inl ⟨'\\' :: d :: inner, rest, .escape inside, rfl⟩
        · exact .inr (.escape unclosed)
    · rcases exists_inside s with ⟨inner, rest, inside, rfl⟩ | unclosed
      · exact .inl ⟨c :: inner, rest, .plain quote escape inside, rfl⟩
      · exact .inr (.plain quote escape unclosed)

/-- Inside a comment over lines, either its end comes or the end of the text. -/
theorem exists_note (s : List Char) :
    (∃ note rest, ¬ ['*', '/'] <:+: note ∧ s = note ++ '*' :: '/' :: rest) ∨
      ¬ ['*', '/'] <:+: s := by
  induction s with
  | nil => exact .inr (by simp)
  | cons c s ih =>
    by_cases closes : ['*', '/'] <+: c :: s
    · obtain ⟨rest, same⟩ := closes
      exact .inl ⟨[], rest, by simp, same.symm⟩
    rcases ih with ⟨note, rest, inside, rfl⟩ | inside
    · refine .inl ⟨c :: note, rest, ?_, rfl⟩
      rw [List.infix_cons_iff, not_or]
      refine ⟨fun starts => closes (starts.trans ?_), inside⟩
      exact List.prefix_append (c :: note) ('*' :: '/' :: rest)
    · right
      rw [List.infix_cons_iff, not_or]
      exact ⟨closes, inside⟩

theorem exists_pieces (s : List Char) : ∃ ps, Pieces ps s := by
  match s with
  | [] => exact ⟨[], .nil⟩
  | c :: s =>
    by_cases quote : c = '"'
    · subst quote
      rcases exists_inside s with ⟨inner, rest, inside, rfl⟩ | unclosed
      · obtain ⟨ps, pieces⟩ := exists_pieces rest
        exact ⟨_, .quoted inside pieces⟩
      · exact ⟨_, .unclosed unclosed⟩
    -- behind a slash, the next character decides
    by_cases opens : c = '/' ∧ (s.head? = some '/' ∨ s.head? = some '*')
    · obtain ⟨rfl, next⟩ := opens
      cases s with
      | nil => simp at next
      | cons d s =>
        rw [List.head?_cons, Option.some.injEq, Option.some.injEq] at next
        rcases next with rfl | rfl
        · have cut : s.takeWhile (!isLineEnd ·) ++ s.dropWhile (!isLineEnd ·) = s :=
            List.takeWhile_append_dropWhile
          have shorter : (s.dropWhile (!isLineEnd ·)).length ≤ s.length :=
            List.length_dropWhile_le _ _
          obtain ⟨ps, pieces⟩ := exists_pieces (s.dropWhile (!isLineEnd ·))
          rw [← cut]
          refine ⟨_, .line (fun c hc => ?_) (fun c hc => ?_) pieces⟩
          · simpa using List.mem_takeWhile_imp hc
          · have stop := List.head?_dropWhile_not (!isLineEnd ·) s
            rw [Option.mem_def.1 hc] at stop
            simpa using stop
        · rcases exists_note s with ⟨note, rest, inside, rfl⟩ | inside
          · obtain ⟨ps, pieces⟩ := exists_pieces rest
            exact ⟨_, .block inside pieces⟩
          · exact ⟨_, .openBlock inside⟩
    · obtain ⟨ps, pieces⟩ := exists_pieces s
      refine ⟨_, .code quote (fun slash d hd => ?_) pieces⟩
      rw [not_and, not_or] at opens
      rw [Option.mem_def] at hd
      obtain ⟨line, block⟩ := opens slash
      exact ⟨fun same => line (same ▸ hd), fun same => block (same ▸ hd)⟩
termination_by s.length

/-! ## No text has other pieces -/

/-- The quote that ends a string is the first one that no backslash takes. -/
theorem Inside.append_inj {a b s t : List Char} (ha : Inside a) (hb : Inside b)
    (same : a ++ '"' :: s = b ++ '"' :: t) : a = b ∧ s = t := by
  induction ha generalizing b with
  | nil =>
    cases hb with
    | nil => exact ⟨rfl, (List.cons.inj same).2⟩
    | plain inner _ _ => exact absurd (List.cons.inj same).1.symm inner
    | escape _ => exact absurd (List.cons.inj same).1 (by decide)
  | plain inner unescaped _ ih =>
    cases hb with
    | nil => exact absurd (List.cons.inj same).1 inner
    | plain _ _ hb =>
      obtain ⟨rfl, rest⟩ := List.cons.inj same
      obtain ⟨rfl, rfl⟩ := ih hb rest
      exact ⟨rfl, rfl⟩
    | escape _ => exact absurd (List.cons.inj same).1 unescaped
  | escape _ ih =>
    cases hb with
    | nil => exact absurd (List.cons.inj same).1 (by decide)
    | plain _ unescaped _ => exact absurd (List.cons.inj same).1.symm unescaped
    | escape hb =>
      obtain ⟨rfl, rest⟩ := List.cons.inj (List.cons.inj same).2
      obtain ⟨rfl, rfl⟩ := ih hb rest
      exact ⟨rfl, rfl⟩

/-- A string that the end of the text breaks off has no quote to end it. -/
theorem Inside.append_ne {a b s : List Char} (ha : Inside a) (hb : Unclosed b) :
    a ++ '"' :: s ≠ b := by
  intro same
  induction ha generalizing b with
  | nil =>
    cases hb with
    | nil => cases same
    | backslash => exact absurd (List.cons.inj same).1 (by decide)
    | plain inner _ _ => exact inner (List.cons.inj same).1.symm
    | escape _ => exact absurd (List.cons.inj same).1 (by decide)
  | plain inner unescaped _ ih =>
    cases hb with
    | nil => cases same
    | backslash => exact unescaped (List.cons.inj same).1
    | plain _ _ hb => exact ih hb (List.cons.inj same).2
    | escape _ => exact unescaped (List.cons.inj same).1
  | escape _ ih =>
    cases hb with
    | nil => cases same
    | backslash => cases (List.cons.inj same).2
    | plain _ unescaped _ => exact unescaped (List.cons.inj same).1.symm
    | escape hb => exact ih hb (List.cons.inj (List.cons.inj same).2).2

/-- The end of a comment over lines is the first one. -/
theorem note_append_inj {a b s t : List Char} (ha : ¬ ['*', '/'] <:+: a) (hb : ¬ ['*', '/'] <:+: b)
    (same : a ++ '*' :: '/' :: s = b ++ '*' :: '/' :: t) : a = b ∧ s = t := by
  -- of two different cuts one would have the end of the other inside
  have shorter {a b s t : List Char} (hb : ¬ ['*', '/'] <:+: b)
      (same : a ++ '*' :: '/' :: s = b ++ '*' :: '/' :: t) : b.length ≤ a.length := by
    by_contra longer
    obtain ⟨c, rfl, tail⟩ | ⟨c, rfl, tail⟩ := List.append_eq_append_iff.1 same
    · match c with
      | [] => simp at longer
      | [d] =>
        obtain ⟨-, tail⟩ := List.cons.inj tail
        exact absurd (List.cons.inj tail).1 (by decide)
      | d :: e :: c =>
        obtain ⟨star, behind⟩ := List.cons.inj tail
        obtain ⟨slash, -⟩ := List.cons.inj behind
        subst star slash
        exact hb ⟨a, c, by simp⟩
    · simp at longer
  have length : a.length = b.length := Nat.le_antisymm (shorter ha same.symm) (shorter hb same)
  obtain ⟨rfl, rest⟩ := List.append_inj same length
  simp only [List.cons.injEq, true_and] at rest
  exact ⟨rfl, rest⟩

theorem line_append_inj {a b s t : List Char} (ha : ∀ c ∈ a, isLineEnd c = false)
    (hb : ∀ c ∈ b, isLineEnd c = false) (hs : ∀ c ∈ s.head?, isLineEnd c = true)
    (ht : ∀ c ∈ t.head?, isLineEnd c = true) (same : a ++ s = b ++ t) : a = b ∧ s = t := by
  have cut {a s : List Char} (ha : ∀ c ∈ a, isLineEnd c = false)
      (hs : ∀ c ∈ s.head?, isLineEnd c = true) : (a ++ s).takeWhile (!isLineEnd ·) = a := by
    rw [List.takeWhile_append_of_pos fun c hc => by simp [ha c hc]]
    cases s with
    | nil => rw [List.takeWhile_nil, List.append_nil]
    | cons c s => rw [List.takeWhile_cons_of_neg (by simp [hs c rfl]), List.append_nil]
  obtain rfl : a = b := by rw [← cut ha hs, same, cut hb ht]
  exact ⟨rfl, List.append_cancel_left same⟩

/-- In a comment over lines that goes up to the end of the text, its own end is nowhere. -/
theorem note_append_ne {a b s : List Char} (hb : ¬ ['*', '/'] <:+: b) :
    a ++ '*' :: '/' :: s ≠ b := by
  rintro rfl
  exact hb ⟨a, s, by simp⟩

/-- A quote begins a string, up to the quote that ends it or to the end of the text. -/
theorem Pieces.of_quote {ps : List Piece} {t : List Char} (h : Pieces ps ('"' :: t)) :
    (∃ inner qs s, Inside inner ∧ Pieces qs s ∧ ps = .quoted inner :: qs ∧ t = inner ++ '"' :: s) ∨
      Unclosed t ∧ ps = [.unclosed t] := by
  cases h with
  | code quote _ _ => exact absurd rfl quote
  | quoted inside rest => exact .inl ⟨_, _, _, inside, rest, rfl, rfl⟩
  | unclosed inside => exact .inr ⟨inside, rfl⟩

/-- Two slashes begin a comment that ends where the line does. -/
theorem Pieces.of_slashes {ps : List Piece} {t : List Char} (h : Pieces ps ('/' :: '/' :: t)) :
    ∃ note qs s, (∀ c ∈ note, isLineEnd c = false) ∧ (∀ c ∈ s.head?, isLineEnd c = true) ∧
      Pieces qs s ∧ ps = .line note :: qs ∧ t = note ++ s := by
  cases h with
  | code _ slash _ => exact absurd rfl (slash rfl _ rfl).1
  | line inside ends rest => exact ⟨_, _, _, inside, ends, rest, rfl, rfl⟩

/-- A slash and an asterisk begin a comment, up to the first `*/` or to the end of the text. -/
theorem Pieces.of_asterisk {ps : List Piece} {t : List Char} (h : Pieces ps ('/' :: '*' :: t)) :
    (∃ note qs s, ¬ ['*', '/'] <:+: note ∧ Pieces qs s ∧ ps = .block note :: qs ∧
        t = note ++ '*' :: '/' :: s) ∨
      ¬ ['*', '/'] <:+: t ∧ ps = [.openBlock t] := by
  cases h with
  | code _ slash _ => exact absurd rfl (slash rfl _ rfl).2
  | block inside rest => exact .inl ⟨_, _, _, inside, rest, rfl, rfl⟩
  | openBlock inside => exact .inr ⟨inside, rfl⟩

/-- A character that begins neither a string nor a comment is one of the code. -/
theorem Pieces.of_code {ps : List Piece} {c : Char} {t : List Char} (h : Pieces ps (c :: t))
    (quote : c ≠ '"') (slash : c = '/' → ∀ d ∈ t.head?, d ≠ '/' ∧ d ≠ '*') :
    ∃ qs, Pieces qs t ∧ ps = .code c :: qs := by
  cases h with
  | code _ _ rest => exact ⟨_, rest, rfl⟩
  | quoted _ _ => exact absurd rfl quote
  | unclosed _ => exact absurd rfl quote
  | line _ _ _ => exact absurd rfl (slash rfl _ rfl).1
  | block _ _ => exact absurd rfl (slash rfl _ rfl).2
  | openBlock _ => exact absurd rfl (slash rfl _ rfl).2

/-- A text is cut into pieces in one way. -/
theorem Pieces.unique {ps qs : List Piece} {s : List Char} (hp : Pieces ps s) (hq : Pieces qs s) :
    ps = qs := by
  induction hp generalizing qs with
  | nil =>
    cases hq
    rfl
  | code quote slash _ ih =>
    obtain ⟨qs, rest, rfl⟩ := hq.of_code quote slash
    rw [ih rest]
  | quoted inside _ ih =>
    obtain ⟨inner, qs, s, inside', rest, rfl, same⟩ | ⟨open_, -⟩ := hq.of_quote
    · obtain ⟨rfl, rfl⟩ := inside.append_inj inside' same
      rw [ih rest]
    · exact absurd rfl (inside.append_ne open_)
  | unclosed open_ =>
    obtain ⟨inner, qs, s, inside, -, -, same⟩ | ⟨-, rfl⟩ := hq.of_quote
    · exact absurd same.symm (inside.append_ne open_)
    · rfl
  | line inside ends _ ih =>
    obtain ⟨note, qs, s, inside', ends', rest, rfl, same⟩ := hq.of_slashes
    obtain ⟨rfl, rfl⟩ := line_append_inj inside inside' ends ends' same
    rw [ih rest]
  | block inside _ ih =>
    obtain ⟨note, qs, s, inside', rest, rfl, same⟩ | ⟨open_, -⟩ := hq.of_asterisk
    · obtain ⟨rfl, rfl⟩ := note_append_inj inside inside' same
      rw [ih rest]
    · exact absurd rfl (note_append_ne open_)
  | openBlock open_ =>
    obtain ⟨note, qs, s, -, -, -, same⟩ | ⟨-, rfl⟩ := hq.of_asterisk
    · exact absurd same.symm (note_append_ne open_)
    · rfl

end HttpScript.Jsonc
