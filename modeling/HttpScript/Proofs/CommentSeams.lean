import HttpScript.Proofs.JsonSeams
import HttpScript.Proofs.JsoncLines

/-!
# Comments between two parts of a text

A block comment is removed, and nothing but its line ends stands in its place. So it is as good as a
space except where it has no line end and stands between two characters of words or numbers: these
are joined, and the text is read as if the comment had never been there.

    1/**/,2  ~  1 ,2            1/**/2  ~  12            1 2  is not read

Where the comment stands, the scanner is in its code: `Region.after` follows it there.
-/

namespace HttpScript.Jsonc

open Text (isLineEnd)
open Json (isSpace Blank Outside wordChars Lexer)

/-! ## Where the scanner stands -/

/-- Where the reader of comments stands behind a text that starts inside the given region. -/
def Region.after : Region → List Char → Region
  | r, [] => r
  | .code, '"' :: s => after .quoted s
  | .code, '/' :: '/' :: s => after .lineComment s
  | .code, '/' :: '*' :: s => after .blockComment s
  | .code, _ :: s => after .code s
  | .quoted, ['\\'] => .quoted
  | .quoted, '\\' :: _ :: s => after .quoted s
  | .quoted, '"' :: s => after .code s
  | .quoted, _ :: s => after .quoted s
  | .lineComment, c :: s =>
    if c == '\n' || c == '\r' then after .code s else after .lineComment s
  | .blockComment, '*' :: '/' :: s => after .code s
  | .blockComment, _ :: s => after .blockComment s

/-- Behind the text the reader stands in the code, and no slash waits there for what comes next. -/
structure Stops (p : List Char) : Prop where
  code : Region.after .code p = .code
  slash : ∀ q, p = q ++ ['/'] → Region.after .code q ≠ .code

namespace Region

theorem after_code {c : Char} {s : List Char} (quote : c ≠ '"')
    (slash : c = '/' → ∀ d ∈ s.head?, d ≠ '/' ∧ d ≠ '*') :
    after .code (c :: s) = after .code s := by
  rw [after]
  · exact fun h => absurd h quote
  · rintro r rfl rfl
    exact (slash rfl _ rfl).1 rfl
  · rintro r rfl rfl
    exact (slash rfl _ rfl).2 rfl

theorem after_quoted {c : Char} (inner : c ≠ '"') (unescaped : c ≠ '\\') (s : List Char) :
    after .quoted (c :: s) = after .quoted s := by
  rw [after]
  · exact fun h _ => unescaped h
  · exact fun _ _ h => absurd h unescaped
  · exact inner

theorem after_inside {inner : List Char} (h : Inside inner) (s : List Char) :
    after .quoted (inner ++ '"' :: s) = after .code s := by
  induction h with
  | nil => rfl
  | plain inner unescaped _ ih => rw [List.cons_append, after_quoted inner unescaped, ih]
  | escape _ ih => exact ih

theorem after_unclosed {inner : List Char} (h : Unclosed inner) :
    after .quoted inner = .quoted := by
  induction h with
  | nil => rfl
  | backslash => rfl
  | plain inner unescaped _ ih => rw [after_quoted inner unescaped, ih]
  | escape _ ih => exact ih

theorem after_lineComment {note : List Char} (inside : ∀ c ∈ note, isLineEnd c = false)
    (s : List Char) : after .lineComment (note ++ s) = after .lineComment s := by
  induction note with
  | nil => rfl
  | cons c note ih =>
    have stays : (c == '\n' || c == '\r') = false := inside c List.mem_cons_self
    rw [List.cons_append, after, stays]
    exact ih fun d hd => inside d (List.mem_cons_of_mem c hd)

theorem after_lineEnd {c : Char} (ends : isLineEnd c = true) (s : List Char) :
    after .lineComment (c :: s) = after .code s := by
  have stops : (c == '\n' || c == '\r') = true := ends
  rw [after, if_pos stops]

/-- A note stays in the comment up to its end or the end of the text. -/
theorem after_note {c : Char} {s : List Char} (inside : ∀ r, c = '*' → s = '/' :: r → False) :
    after .blockComment (c :: s) = after .blockComment s := by
  rw [after]
  exact inside

theorem after_block {note : List Char} (inside : ¬ ['*', '/'] <:+: note) (s : List Char) :
    after .blockComment (note ++ '*' :: '/' :: s) = after .code s := by
  induction note with
  | nil => rfl
  | cons c note ih =>
    have stays := note_stays inside (s := '*' :: '/' :: s) (by simp)
    rw [List.cons_append, after_note stays, ih (note_tail inside)]

theorem after_openBlock {note : List Char} (inside : ¬ ['*', '/'] <:+: note) :
    after .blockComment note = .blockComment := by
  induction note with
  | nil => rfl
  | cons c note ih =>
    have stays := note_stays inside (s := []) (by simp)
    rw [List.append_nil] at stays
    rw [after_note stays, ih (note_tail inside)]

end Region

/-! ## A text in front of which the scanner stands in the code -/

/-- What is behind a part that the reader passes in the code. -/
theorem Stops.of_append {a s : List Char} (h : Stops (a ++ s))
    (passes : ∀ q, (q = s ∨ s = q ++ ['/']) → Region.after .code (a ++ q) = Region.after .code q) :
    Stops s where
  code := (passes s (.inl rfl)).symm.trans h.code
  slash q cut := by
    rw [← passes q (.inr cut)]
    exact h.slash (a ++ q) (by rw [cut, List.append_assoc])

/-- A line end in front leaves no slash waiting. -/
theorem Stops.cons_lineEnd {e : Char} {s : List Char} (ends : isLineEnd e = true) (h : Stops s) :
    Stops (e :: s) := by
  obtain ⟨quote, other, -⟩ := ne_of_isPlain (plain_of_isSpace (isSpace_of_isLineEnd ends))
  have passes (q : List Char) : Region.after .code (e :: q) = Region.after .code q :=
    Region.after_code quote (absurd · other)
  refine ⟨(passes s).trans h.code, fun q cut => ?_⟩
  cases q with
  | nil => exact absurd (List.cons.inj cut).1 other
  | cons d q =>
    obtain ⟨rfl, rest⟩ := List.cons.inj cut
    rw [passes]
    exact h.slash q rest

/-- A character of the code in front is passed, and no slash of its own waits. -/
theorem Stops.of_code {c : Char} {s : List Char} (quote : c ≠ '"')
    (slash : c = '/' → ∀ d ∈ s.head?, d ≠ '/' ∧ d ≠ '*') (h : Stops (c :: s)) :
    Stops s ∧ ∀ r, c = '/' → ∀ d ∈ (s ++ r).head?, d ≠ '/' ∧ d ≠ '*' := by
  constructor
  · refine Stops.of_append (a := [c]) h fun q cut =>
      Region.after_code quote fun opens d hd => slash opens d ?_
    rcases cut with rfl | rfl
    · exact hd
    · exact List.head?_append_of_ne_nil q (List.ne_nil_of_mem (List.mem_of_mem_head? hd)) ▸ hd
  · intro r opens
    cases s with
    | nil =>
      rw [opens] at h
      exact absurd rfl (h.slash [] rfl)
    | cons d s => exact slash opens

/-- A comment on one line in front has its line end. -/
theorem Stops.of_line {note s : List Char} (inside : ∀ c ∈ note, isLineEnd c = false)
    (ends : ∀ c ∈ s.head?, isLineEnd c = true) (h : Stops ('/' :: '/' :: (note ++ s))) :
    s ≠ [] ∧ Stops s := by
  have noted (r : List Char) :
      Region.after .code ('/' :: '/' :: (note ++ r)) = Region.after .lineComment r :=
    Region.after_lineComment inside r
  cases s with
  | nil =>
    have code := h.code
    rw [noted] at code
    cases code
  | cons e s =>
    have lineEnd : isLineEnd e = true := ends e rfl
    have cut (r : List Char) :
        '/' :: '/' :: (note ++ e :: r) = '/' :: '/' :: note ++ [e] ++ r := by simp
    have passes (q : List Char) :
        Region.after .code ('/' :: '/' :: note ++ [e] ++ q) = Region.after .code q := by
      rw [← cut, noted, Region.after_lineEnd lineEnd]
    rw [cut] at h
    exact ⟨List.cons_ne_nil e s, (h.of_append fun q _ => passes q).cons_lineEnd lineEnd⟩

/-- A string or a comment that ends inside the text. -/
inductive Piece.Closed : Piece → Prop where
  | quoted {inner : List Char} (inside : Inside inner) : Closed (.quoted inner)
  | block {note : List Char} (inside : ¬ ['*', '/'] <:+: note) : Closed (.block note)

namespace Piece.Closed

variable {p : Piece}

theorem cons (h : p.Closed) {ps : List Piece} {s : List Char} (rest : Pieces ps s) :
    Pieces (p :: ps) (p.chars ++ s) := by
  cases h with
  | quoted inside => simpa [chars] using Pieces.quoted inside rest
  | block inside => simpa [chars] using Pieces.block inside rest

theorem after (h : p.Closed) (s : List Char) :
    Region.after .code (p.chars ++ s) = Region.after .code s := by
  cases h with
  | @quoted inner inside =>
    rw [← Region.after_inside inside s]
    simp [chars, Region.after]
  | @block note inside =>
    rw [← Region.after_block inside s]
    simp [chars, Region.after]

theorem stops (h : p.Closed) {s : List Char} (whole : Stops (p.chars ++ s)) : Stops s :=
  whole.of_append fun q _ => h.after q

end Piece.Closed

theorem outside_append_lineEnds {w s : List Char} (ends : ∀ c ∈ w, isLineEnd c = true)
    (rest : Outside s) : Outside (w ++ s) := by
  induction w with
  | nil => exact rest
  | cons c w ih =>
    obtain ⟨quote, -, -⟩ := ne_of_isPlain
      (plain_of_isSpace (isSpace_of_isLineEnd (ends c List.mem_cons_self)))
    exact .code quote (ih fun d hd => ends d (List.mem_cons_of_mem c hd))

/-- A text behind which the scanner stands in the code leaves code and closed strings, and it is cut
into pieces as if nothing came behind it. -/
theorem Pieces.stops {ps : List Piece} {p : List Char} (h : Pieces ps p) (stops : Stops p) :
    Outside (ps.flatMap Piece.left) ∧
      ∀ {qs : List Piece} {s : List Char}, Pieces qs s → Pieces (ps ++ qs) (p ++ s) := by
  have comment {p : Piece} (h : p.isComment = true) {ps : List Piece}
      (rest : Outside (ps.flatMap Piece.left)) : Outside ((p :: ps).flatMap Piece.left) :=
    outside_append_lineEnds (Piece.left_of_isComment h) rest
  induction h with
  | nil => exact ⟨.nil, fun h => h⟩
  | code quote slash _ ih =>
    obtain ⟨stops, slash'⟩ := stops.of_code quote slash
    obtain ⟨outside, append⟩ := ih stops
    exact ⟨.code quote outside, fun rest => .code quote (slash' _) (append rest)⟩
  | @quoted inner ps s inside _ ih =>
    have closed : (Piece.quoted inner).Closed := .quoted inside
    have cut : '"' :: (inner ++ '"' :: s) = (Piece.quoted inner).chars ++ s := by simp [Piece.chars]
    rw [cut] at stops ⊢
    obtain ⟨outside, append⟩ := ih (closed.stops stops)
    refine ⟨?_, fun {qs r} rest => ?_⟩
    · rw [List.flatMap_cons, Piece.left_quoted_append]
      exact .quoted inside outside
    · rw [List.append_assoc]
      exact closed.cons (append rest)
  | @unclosed inner inside =>
    have code : Region.after .quoted inner = .code := stops.code
    rw [Region.after_unclosed inside] at code
    cases code
  | @line note ps s inside ends _ ih =>
    obtain ⟨goesOn, stops⟩ := stops.of_line inside ends
    obtain ⟨outside, append⟩ := ih stops
    refine ⟨comment rfl outside, fun {qs r} rest => ?_⟩
    have ends' : ∀ c ∈ (s ++ r).head?, isLineEnd c = true := by
      rwa [List.head?_append_of_ne_nil s goesOn]
    have whole := Pieces.line inside ends' (append rest)
    rwa [← List.append_assoc] at whole
  | @block note ps s inside _ ih =>
    have closed : (Piece.block note).Closed := .block inside
    have cut : '/' :: '*' :: (note ++ '*' :: '/' :: s) = (Piece.block note).chars ++ s := by
      simp [Piece.chars]
    rw [cut] at stops ⊢
    obtain ⟨outside, append⟩ := ih (closed.stops stops)
    refine ⟨comment rfl outside, fun {qs r} rest => ?_⟩
    rw [List.append_assoc]
    exact closed.cons (append rest)
  | @openBlock note inside =>
    have code : Region.after .blockComment note = .code := stops.code
    rw [Region.after_openBlock inside] at code
    cases code

/-- Comments are taken from two such parts apart from each other. -/
theorem Stops.strip_append {p : List Char} (stops : Stops p) (s : List Char) :
    stripComments (p ++ s) = stripComments p ++ stripComments s := by
  obtain ⟨ps, left⟩ := exists_pieces p
  obtain ⟨qs, right⟩ := exists_pieces s
  rw [((left.stops stops).2 right).strip, List.flatMap_append, left.strip, right.strip]

theorem Stops.outside {p : List Char} (stops : Stops p) : Outside (stripComments p) := by
  obtain ⟨ps, pieces⟩ := exists_pieces p
  rw [pieces.strip]
  exact (pieces.stops stops).1

/-! ## Commas in front of a seam -/

/-- What is blank up to the end of the first part is looked through. -/
theorem closesNext_append (s t : List Char) :
    closesNext (s ++ t) = if (Text.trimStart s).isEmpty then closesNext t else closesNext s := by
  unfold closesNext Text.trimStart
  rw [List.dropWhile_append]
  cases s.dropWhile Text.isBlank <;> rfl

/-- From code and closed strings, the same commas are dropped in front of all texts in which the end
of a container is next, and in front of all others. -/
theorem dropCommas_outside {q : List Char} (outside : Outside q) (closes : Bool) :
    ∃ p, Outside p ∧ (closes = false → p.getLast? = q.getLast?) ∧
      ∀ t, closesNext t = closes → dropCommasFrom false (q ++ t) = p ++ dropCommasFrom false t := by
  have keeps := keepsStrings_dropCommas
  induction outside with
  | nil => exact ⟨[], .nil, fun _ => rfl, fun _ _ => rfl⟩
  | @code c q quote _ ih =>
    obtain ⟨p, outside, last, dropped⟩ := ih
    let next : Bool := if (Text.trimStart q).isEmpty then closes else closesNext q
    have seen {t : List Char} (h : closesNext t = closes) : closesNext (q ++ t) = next := by
      rw [closesNext_append, h]
    by_cases drops : (c == ',' && next) = true
    · refine ⟨p, outside, fun open_ => ?_, fun t ht => ?_⟩
      · cases q with
        | nil =>
          rw [Bool.and_eq_true] at drops
          exact absurd (drops.2.symm.trans open_) (by decide)
        | cons d q => exact (last open_).trans List.getLast?_cons_cons.symm
      · rw [List.cons_append, dropCommasFrom_code, seen ht, if_pos drops, dropped t ht]
    · refine ⟨c :: p, .code quote outside, fun open_ => ?_, fun t ht => ?_⟩
      · rw [List.getLast?_cons, List.getLast?_cons, last open_]
      · rw [List.cons_append, dropCommasFrom_code, seen ht, if_neg drops, beq_false_of_ne quote,
          dropped t ht]
        rfl
  | @quoted inner q inside _ ih =>
    obtain ⟨p, outside, last, dropped⟩ := ih
    refine ⟨'"' :: (inner ++ '"' :: p), .quoted inside outside, fun open_ => ?_, fun t ht => ?_⟩
    · have cut (r : List Char) : '"' :: (inner ++ '"' :: r) = '"' :: inner ++ ['"'] ++ r := by simp
      rw [cut p, cut q, List.getLast?_append, last open_, ← List.getLast?_append]
    · rw [List.cons_append, List.append_assoc, keeps.opens]
      show '"' :: dropCommasFrom true (inner ++ '"' :: (q ++ t)) = _
      rw [keeps.append_inside inside, dropped t ht]
      simp

/-! ## A comment and a space -/

/-- Whether the comment joins what stands on its two sides: it has no line end, and it stands
between two characters of words or numbers, other comments aside. -/
def Joins (p note s : String) : Prop :=
  (∀ c ∈ note.toList, isLineEnd c = false) ∧
    (∃ c ∈ (stripComments p.toList).getLast?, c ∈ wordChars) ∧
      ∃ d ∈ (stripComments s.toList).head?, d ∈ wordChars

/-- A character of a word or a number is no end of a container. -/
theorem closesNext_of_head? {s : List Char} {d : Char} (hd : d ∈ s.head?) (word : d ∈ wordChars) :
    closesNext s = false := by
  cases s with
  | nil => cases hd
  | cons c s =>
    obtain rfl : c = d := Option.some.inj hd
    exact closesNext_of_mem (by decide) word s

/-- A character of a word or a number stays in front, and none comes to the front. -/
theorem head?_dropCommas (s : List Char) {d : Char} (word : d ∈ wordChars) :
    d ∈ (dropCommasFrom false s).head? ↔ d ∈ s.head? := by
  induction s with
  | nil => rfl
  | cons c s ih =>
    rw [dropCommasFrom_code]
    split
    · next dropped =>
      rw [Bool.and_eq_true, beq_iff_eq] at dropped
      obtain ⟨rfl, closes⟩ := dropped
      rw [ih]
      constructor
      · intro hd
        exact absurd (closes.symm.trans (closesNext_of_head? hd word)) (by decide)
      · rintro ⟨⟩
        exact absurd word (by decide)
    · rfl

/-- What is left of a text in two parts, with white space or a comment between them. -/
theorem Stops.clean_append {p : List Char} (stops : Stops p) (s : List Char) :
    ∃ q, Outside q ∧
      (closesNext (stripComments s) = false → q.getLast? = (stripComments p).getLast?) ∧
      ∀ g w, Blank w → stripComments (g ++ s) = w ++ stripComments s →
        clean (p ++ (g ++ s)) = q ++ (w ++ clean s) := by
  obtain ⟨q, outside, last, dropped⟩ :=
    dropCommas_outside stops.outside (closesNext (stripComments s))
  refine ⟨q, outside, last, fun g w blank stripped => ?_⟩
  unfold clean dropTrailingCommas
  rw [stops.strip_append, stripped, dropped _ (closesNext_append_blank blank _),
    keepsStrings_dropCommas.append_plain (plain_of_blank blank)]

theorem parse?_eq_read? (s : String) :
    parse? s =
      ((Lexer.start.read? (clean s.toList)).bind Json.ofTokens?).map Json.toDoubles := rfl

/-- **A block comment is removed.** It is as good as a space, and both texts have the same value or
none, except where it joins what stands on its two sides. There the text has the value that it has
without the comment, and with a space it has none. -/
theorem parse?_block_comment (p note s : String) (stops : Stops p.toList)
    (inside : ¬ ['*', '/'] <:+: note.toList) :
    (¬ Joins p note s → parse? (p ++ ("/*" ++ note ++ "*/") ++ s) = parse? (p ++ " " ++ s)) ∧
      (Joins p note s → parse? (p ++ ("/*" ++ note ++ "*/") ++ s) = parse? (p ++ s) ∧
        parse? (p ++ " " ++ s) = none) := by
  obtain ⟨q, outside, last, cleaned⟩ := stops.clean_append s.toList
  let w := note.toList.filter isLineEnd
  have blank : Blank w := fun c hc => isSpace_of_isLineEnd (List.mem_filter.1 hc).2
  have comment : clean (p ++ ("/*" ++ note ++ "*/") ++ s).toList = q ++ (w ++ clean s.toList) := by
    rw [← cleaned ('/' :: '*' :: (note.toList ++ ['*', '/'])) w blank]
    · simp
    · have removed := stripFrom_blockComment_append inside s.toList
      show _ = note.toList.filter isLineEnd ++ stripFrom .code s.toList
      rw [← removed]
      simp [stripComments, stripFrom]
  have space : clean (p ++ " " ++ s).toList = q ++ ' ' :: clean s.toList := by
    rw [← List.singleton_append, ← cleaned [' '] [' '] (.cons rfl .nil) rfl]
    simp
  have nothing : clean (p ++ s).toList = q ++ clean s.toList := by
    have empty := cleaned [] [] .nil rfl
    simpa using empty
  simp only [parse?_eq_read?, comment, space, nothing]
  rcases Json.Lexer.fits_start.read?_append outside with fails | ⟨l, fits, behind⟩
  · simp [fails]
  simp only [behind]
  rw [Option.or_none] at fits
  have head (d : Char) (word : d ∈ wordChars) :
      d ∈ (clean s.toList).head? ↔ d ∈ (stripComments s.toList).head? :=
    head?_dropCommas (stripComments s.toList) word
  constructor
  · intro apart
    by_cases lineEnds : w = []
    · have inner : ∀ c ∈ note.toList, isLineEnd c = false := by
        simpa using List.filter_eq_nil_iff.1 lineEnds
      rw [lineEnds, List.nil_append, fits.read?_space]
      intro c hc word d hd word'
      have hd' := (head d word').1 hd
      have open_ := closesNext_of_head? hd' word'
      exact apart ⟨inner, ⟨c, last open_ ▸ hc, word⟩, d, hd', word'⟩
    · rw [fits.read?_blank blank lineEnds]
  · rintro ⟨inner, ⟨c, hc, left⟩, d, hd, right⟩
    have lineEnds : w = [] := List.filter_eq_nil_iff.2 (by simpa using inner)
    have open_ := closesNext_of_head? hd right
    refine ⟨by rw [lineEnds, List.nil_append], ?_⟩
    rw [fits.ofTokens?_eq_none (last open_ ▸ hc) ((head d right).2 hd) left right]
    rfl

/-- Behind a digit the scanner stands in the code. -/
theorem stops_digit : Stops "1".toList := by
  refine ⟨rfl, fun q cut => ?_⟩
  have last := congrArg List.getLast? cut
  rw [List.getLast?_concat] at last
  exact absurd last (by decide)

theorem parse?_block_comment_digits :
    parse? ("1" ++ ("/*" ++ "\n" ++ "*/") ++ "2") = parse? ("1" ++ " " ++ "2") ∧
      parse? ("1" ++ ("/*" ++ "" ++ "*/") ++ "2") = parse? ("1" ++ "2") ∧
        parse? ("1" ++ " " ++ "2") = none := by
  have lineEnd : ¬ Joins "1" "\n" "2" := fun joins => absurd (joins.1 '\n' (by simp)) (by decide)
  have joins : Joins "1" "" "2" := by
    refine ⟨by simp, ⟨'1', by decide, by decide⟩, '2', by decide, by decide⟩
  exact ⟨(parse?_block_comment "1" "\n" "2" stops_digit (by decide)).1 lineEnd,
    (parse?_block_comment "1" "" "2" stops_digit (by decide)).2 joins⟩

/-- A block comment is not white space: it joins two digits to one number. -/
theorem parse?_block_comment_ne_space :
    ¬ ∀ p note s : String, Stops p.toList → ¬ ['*', '/'] <:+: note.toList →
      parse? (p ++ ("/*" ++ note ++ "*/") ++ s) = parse? (p ++ " " ++ s) := by
  intro spaces
  have joined : Json.tokenize (clean "1/**/2".toList) = some [.number "12"] := by decide +kernel
  have apart : Json.tokenize (clean "1 2".toList) = some [.number "1", .number "2"] := by
    decide +kernel
  have same : parse? "1/**/2" = parse? "1 2" := spaces "1" "" "2" stops_digit (by decide)
  unfold parse? Json.ofChars? at same
  rw [joined, apart] at same
  cases same

end HttpScript.Jsonc
