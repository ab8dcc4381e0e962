import HttpScript.Jsonc
import HttpScript.Proofs.JsonLexemes
import HttpScript.Proofs.JsoncPieces

/-!
# What cleaning leaves of a text with comments

Cleaning passes over the lexemes of a text as they are, turns comments into white space and drops a
comma in front of the end of a container. What is left of JSON with comments is its lexemes with
white space between them, so it is read as the JSON text that was decorated.

    clean s = s                      when s is JSON                          (clean_of_json)
    Jsonc.parse? t = some v          when t decorates a JSON text of value v (parse?_of_decorated)

Both scanners are in step with the strings of the text because the escapes of a string come in pairs
of characters, which is all that they look at. What they have in common is `KeepsStrings`, and
lexemes are passed over by every scanner of that kind.
-/

namespace HttpScript.Jsonc

open Text (isLineEnd)
open Json (isSpace Blank Lexeme Joined Spells Quoted Follows)

/-! ## Decorated texts -/

/-- White space and closed comments, in any order. -/
inductive Filler : List Char → Prop where
  | nil : Filler []
  | space {c : Char} {g : List Char} (space : isSpace c = true) (others : Filler g) :
      Filler (c :: g)
  | line {note : List Char} {stop : Char} {g : List Char} (inner : ∀ c ∈ note, isLineEnd c = false)
      (ends : isLineEnd stop = true) (others : Filler g) :
      Filler ('/' :: '/' :: (note ++ stop :: g))
  | block {note g : List Char} (inner : ¬ ['*', '/'] <:+: note) (others : Filler g) :
      Filler ('/' :: '*' :: (note ++ '*' :: '/' :: g))

/-- What may stand at the end of a text: the last comment on one line may end with the text. -/
inductive LastFiller : List Char → Prop where
  | closed {g : List Char} (closed : Filler g) : LastFiller g
  | line {g note : List Char} (others : Filler g) (inner : ∀ c ∈ note, isLineEnd c = false) :
      LastFiller (g ++ '/' :: '/' :: note)

/-- The text is the lexemes in order, with a gap before each of them and at the end. In front of
the end of a container there may be one more comma, with a gap on either side. -/
inductive Laid (Gap Last : List Char → Prop) : List Lexeme → List Char → Prop where
  | last {g : List Char} (gap : Last g) : Laid Gap Last [] g
  | next {g : List Char} {l : Lexeme} {ls : List Lexeme} {s : List Char} (before : Gap g)
      (others : Laid Gap Last ls s) : Laid Gap Last (l :: ls) (g ++ (l.chars ++ s))
  | comma {g g' : List Char} {l : Lexeme} {ls : List Lexeme} {s : List Char} (before : Gap g)
      (after : Gap g') (closes : l.token.closes = true) (others : Laid Gap Last ls s) :
      Laid Gap Last (l :: ls) (g ++ ',' :: (g' ++ (l.chars ++ s)))

/-- JSON with comments: filler between the lexemes, and commas in front of ends of containers. -/
def Decorated : List Lexeme → List Char → Prop := Laid Filler LastFiller

/-! ## What both scanners keep -/

/-- Whether neither scanner acts on the character. -/
def isPlain (c : Char) : Bool := c != '"' && c != '/' && c != ','

theorem ne_of_isPlain {c : Char} (plain : isPlain c = true) : c ≠ '"' ∧ c ≠ '/' ∧ c ≠ ',' := by
  simp only [isPlain, Bool.and_eq_true, bne_iff_ne] at plain
  exact and_assoc.1 plain

/-- A scanner with one state outside of strings and one inside, which goes from the one to the other
where a string begins and ends. Inside it takes a backslash and the next character together. -/
structure KeepsStrings (code quoted : List Char → List Char) : Prop where
  empty : code [] = []
  plain : ∀ c s, isPlain c = true → code (c :: s) = c :: code s
  opens : ∀ s, code ('"' :: s) = '"' :: quoted s
  closes : ∀ s, quoted ('"' :: s) = '"' :: code s
  escape : ∀ c s, quoted ('\\' :: c :: s) = '\\' :: c :: quoted s
  inside : ∀ c s, c ≠ '"' → c ≠ '\\' → quoted (c :: s) = c :: quoted s

theorem keepsStrings_strip : KeepsStrings (stripFrom .code) (stripFrom .quoted) where
  empty := rfl
  plain c s plain := by
    obtain ⟨quote, slash, -⟩ := ne_of_isPlain plain
    exact stripFrom_code quote slash s
  opens _ := rfl
  closes _ := rfl
  escape _ _ := rfl
  inside _ s inner unescaped := stripFrom_quoted inner unescaped s

theorem keepsStrings_dropCommas : KeepsStrings (dropCommasFrom false) (dropCommasFrom true) where
  empty := rfl
  plain c s plain := by
    obtain ⟨quote, -, comma⟩ := ne_of_isPlain plain
    have stays : (c == ',' && closesNext s) = false := by
      rw [beq_false_of_ne comma]
      rfl
    rw [dropCommasFrom_code, stays, if_neg Bool.false_ne_true, beq_false_of_ne quote]
  opens _ := rfl
  closes _ := rfl
  escape _ _ := rfl
  inside c s inner unescaped := by
    have stays : (c != '"') = true := bne_iff_ne.2 inner
    rw [dropCommasFrom_quoted unescaped, stays]

theorem dropCommasFrom_comma (s : List Char) :
    dropCommasFrom false (',' :: s) =
      if closesNext s then dropCommasFrom false s else ',' :: dropCommasFrom false s := rfl

/-- A hexadecimal digit is nothing that a scanner acts on inside a string. -/
theorem ne_of_hexValue? {c : Char} {v : Nat} (h : Text.hexValue? c = some v) :
    c ≠ '"' ∧ c ≠ '\\' := by
  constructor <;> (rintro rfl; cases h)

/-- What a string of JSON has between its quotes. -/
theorem inside_of_quoted {inner : List Char} {us : List Nat} (h : Quoted inner us) :
    Inside inner := by
  induction h with
  | nil => exact .nil
  | plain inner unescaped _ _ ih => exact .plain inner unescaped ih
  | escape _ _ ih => exact .escape ih
  | unicode ha hb hc hd _ ih =>
    have digit {c : Char} {v : Nat} {s : List Char} (h : Text.hexValue? c = some v)
        (rest : Inside s) : Inside (c :: s) :=
      .plain (ne_of_hexValue? h).1 (ne_of_hexValue? h).2 rest
    exact .escape (digit ha (digit hb (digit hc (digit hd ih))))

theorem plain_of_numberChars : ∀ c ∈ Json.numberChars, isPlain c = true :=
  List.all_eq_true.1 (by decide)

/-- A lexeme is a string, a comma, or nothing that a scanner acts on. -/
theorem spells_cases {cs : List Char} {t : Json.Token} (h : Spells cs t) :
    (∃ inner us, Quoted inner us ∧ cs = '"' :: (inner ++ ['"'])) ∨ (cs = [','] ∧ t = .comma) ∨
      ∀ c ∈ cs, isPlain c = true := by
  cases h with
  | fixed fixed =>
    cases t with
    | comma => exact .inr (.inl ⟨rfl, rfl⟩)
    | number _ => cases fixed
    | text _ => cases fixed
    | _ => exact .inr (.inr (List.all_eq_true.1 (by decide)))
  | @number c cs part last first others _ =>
    right; right
    intro d hd
    apply plain_of_numberChars
    rcases List.mem_cons.1 hd with rfl | hd
    · exact List.mem_append_right _ (Json.mem_numberStarts first)
    · exact Json.mem_numberChars_of_foldlM others d hd
  | text quoted => exact .inl ⟨_, _, quoted, rfl⟩

namespace KeepsStrings

variable {code quoted : List Char → List Char} (keeps : KeepsStrings code quoted)

include keeps

theorem append_plain {cs : List Char} (plain : ∀ c ∈ cs, isPlain c = true) (s : List Char) :
    code (cs ++ s) = cs ++ code s := by
  induction cs with
  | nil => rfl
  | cons c cs ih =>
    rw [List.cons_append, keeps.plain c _ (plain c List.mem_cons_self),
      ih fun d hd => plain d (List.mem_cons_of_mem _ hd)]
    rfl

/-- A string stays, with the quote that ends it. -/
theorem append_inside {inner : List Char} (h : Inside inner) (s : List Char) :
    quoted (inner ++ '"' :: s) = inner ++ '"' :: code s := by
  induction h with
  | nil => exact keeps.closes s
  | plain inner unescaped _ ih =>
    rw [List.cons_append, keeps.inside _ _ inner unescaped, ih]
    rfl
  | escape _ ih =>
    rw [List.cons_append, List.cons_append, keeps.escape, ih]
    rfl

/-- A lexeme stays if it is no comma, and a comma stays where the scanner keeps one. -/
theorem append_lexeme (l : Lexeme) (s : List Char)
    (comma : l.token = .comma → code (',' :: s) = ',' :: code s) :
    code (l.chars ++ s) = l.chars ++ code s := by
  rcases spells_cases l.spelled with ⟨inner, us, h, chars⟩ | ⟨chars, isComma⟩ | plain
  · rw [chars, List.cons_append, List.append_assoc, keeps.opens]
    show '"' :: quoted (inner ++ '"' :: s) = _
    rw [keeps.append_inside (inside_of_quoted h), List.cons_append, List.append_assoc]
    rfl
  · rw [chars]
    exact comma isComma
  · exact keeps.append_plain plain s

end KeepsStrings

/-! ## What is next -/

theorem plain_of_isSpace {c : Char} (space : isSpace c = true) : isPlain c = true := by
  simp only [isSpace, Bool.or_eq_true, beq_iff_eq] at space
  rcases space with ((rfl | rfl) | rfl) | rfl <;> decide

theorem plain_of_blank {w : List Char} (blank : Blank w) : ∀ c ∈ w, isPlain c = true :=
  fun c hc => plain_of_isSpace (blank c hc)

/-- White space is trimmed. -/
theorem isBlank_of_isSpace {c : Char} (space : isSpace c = true) : Text.isBlank c = true := by
  simp only [isSpace, Bool.or_eq_true, beq_iff_eq] at space
  rcases space with ((rfl | rfl) | rfl) | rfl <;> decide

/-- White space is looked through. -/
theorem closesNext_append_blank {w : List Char} (blank : Blank w) (s : List Char) :
    closesNext (w ++ s) = closesNext s := by
  have trimmed : Text.trimStart (w ++ s) = Text.trimStart s :=
    List.dropWhile_append_of_pos fun c hc => isBlank_of_isSpace (blank c hc)
  unfold closesNext
  rw [trimmed]

/-- The first character is seen if it is not blank. -/
theorem closesNext_cons {c : Char} (seen : Text.isBlank c = false)
    (other : (c == '}' || c == ']') = false) (s : List Char) : closesNext (c :: s) = false := by
  unfold closesNext Text.trimStart
  rw [List.dropWhile_cons_of_neg (by rw [seen]; decide)]
  exact other

theorem closesNext_of_mem {cs : List Char}
    (all : cs.all (fun c => !Text.isBlank c && !(c == '}' || c == ']')) = true) {c : Char}
    (hc : c ∈ cs) (s : List Char) : closesNext (c :: s) = false := by
  have shown := List.all_eq_true.1 all c hc
  rw [Bool.and_eq_true, Bool.not_eq_true', Bool.not_eq_true'] at shown
  exact closesNext_cons shown.1 shown.2 s

/-- A lexeme is seen by its first character. -/
theorem closesNext_lexeme (l : Lexeme) (s : List Char) :
    closesNext (l.chars ++ s) = l.token.closes := by
  obtain ⟨_, t, spelled⟩ := l
  cases spelled with
  | fixed fixed => cases t <;> first | rfl | cases fixed
  | number first _ _ => exact closesNext_of_mem (by decide) (Json.mem_numberStarts first) _
  | text _ => rfl

/-- In front of a token that does not end a container, no such end is seen. -/
theorem Laid.closesNext_eq_false {ls : List Lexeme} {t : List Char} (laid : Laid Blank Blank ls t)
    (inside : ∀ u ∈ ls.head?, u.token.closes = false) : closesNext t = false := by
  cases laid with
  | last blank =>
    have none : closesNext (t ++ []) = false := closesNext_append_blank blank []
    rwa [List.append_nil] at none
  | @next w l ls s blank _ =>
    rw [closesNext_append_blank blank, closesNext_lexeme]
    exact inside l rfl
  | comma before _ _ _ =>
    rw [closesNext_append_blank before]
    rfl

/-! ## Comments -/

theorem isSpace_of_isLineEnd {c : Char} (ends : isLineEnd c = true) : isSpace c = true := by
  simp only [isLineEnd, Bool.or_eq_true, beq_iff_eq] at ends
  rcases ends with rfl | rfl <;> decide

/-- Of a comment on one line nothing stays in front of the line end. -/
theorem stripFrom_lineComment_append {note : List Char} (inner : ∀ c ∈ note, isLineEnd c = false)
    (s : List Char) : stripFrom .lineComment (note ++ s) = stripFrom .lineComment s := by
  induction note with
  | nil => rfl
  | cons c note ih =>
    have inside : (c == '\n' || c == '\r') = false := inner c List.mem_cons_self
    rw [List.cons_append, stripFrom_lineComment, inside]
    exact ih fun d hd => inner d (List.mem_cons_of_mem _ hd)

/-- Of a comment that is closed its line ends stay. -/
theorem stripFrom_blockComment_append {note : List Char} (inner : ¬ ['*', '/'] <:+: note)
    (s : List Char) :
    stripFrom .blockComment (note ++ '*' :: '/' :: s) =
      note.filter isLineEnd ++ stripFrom .code s := by
  induction note with
  | nil => rfl
  | cons c note ih =>
    have stays := note_stays inner (s := '*' :: '/' :: s) (by simp)
    rw [List.cons_append, stripFrom_blockComment stays, ih (note_tail inner), List.filter_cons]
    show (if isLineEnd c = true then _ else _) = _
    split <;> rfl

/-- Filler leaves white space behind. -/
theorem Filler.strip {g : List Char} (filler : Filler g) :
    ∃ w, Blank w ∧ ∀ s, stripFrom .code (g ++ s) = w ++ stripFrom .code s := by
  induction filler with
  | nil => exact ⟨[], .nil, fun _ => rfl⟩
  | @space c g space _ ih =>
    obtain ⟨w, blank, strip⟩ := ih
    refine ⟨c :: w, .cons space blank, fun s => ?_⟩
    rw [List.cons_append, keepsStrings_strip.plain c _ (plain_of_isSpace space), strip]
    rfl
  | @line note stop g inner ends _ ih =>
    obtain ⟨w, blank, strip⟩ := ih
    have stops : (stop == '\n' || stop == '\r') = true := ends
    refine ⟨stop :: w, .cons (isSpace_of_isLineEnd ends) blank, fun s => ?_⟩
    simp only [List.cons_append, List.append_assoc]
    show stripFrom .lineComment (note ++ stop :: (g ++ s)) = _
    rw [stripFrom_lineComment_append inner, stripFrom_lineComment, if_pos stops, strip]
  | @block note g inner _ ih =>
    obtain ⟨w, blank, strip⟩ := ih
    have ends : Blank (note.filter isLineEnd) :=
      fun c hc => isSpace_of_isLineEnd (List.mem_filter.1 hc).2
    refine ⟨note.filter isLineEnd ++ w, ends.append blank, fun s => ?_⟩
    simp only [List.cons_append, List.append_assoc]
    show stripFrom .blockComment (note ++ '*' :: '/' :: (g ++ s)) = _
    rw [stripFrom_blockComment_append inner, strip]

theorem LastFiller.strip {g : List Char} (filler : LastFiller g) : Blank (stripFrom .code g) := by
  cases filler with
  | closed closed =>
    obtain ⟨w, blank, strip⟩ := closed.strip
    have left : stripFrom .code (g ++ []) = w ++ [] := strip []
    rw [List.append_nil, List.append_nil] at left
    rwa [left]
  | @line g note others inner =>
    obtain ⟨w, blank, strip⟩ := others.strip
    have dropped : stripFrom .lineComment (note ++ []) = [] :=
      stripFrom_lineComment_append inner []
    have left : stripFrom .code ('/' :: '/' :: note) = [] := by rwa [List.append_nil] at dropped
    rw [strip, left, List.append_nil]
    exact blank

/-! ## Texts as a whole -/

/-- Without its comments, a decorated text has nothing but white space between its lexemes. -/
theorem Decorated.strip {ls : List Lexeme} {t : List Char} (laid : Decorated ls t) :
    Laid Blank Blank ls (stripComments t) := by
  have lexeme (l : Lexeme) (s : List Char) := keepsStrings_strip.append_lexeme l s fun _ => rfl
  unfold stripComments
  induction laid with
  | last gap => exact .last gap.strip
  | @next g l ls s before _ ih =>
    obtain ⟨w, blank, strip⟩ := before.strip
    rw [strip, lexeme]
    exact .next blank ih
  | @comma g g' l ls s before after closes _ ih =>
    obtain ⟨w, blank, strip⟩ := before.strip
    obtain ⟨w', blank', strip'⟩ := after.strip
    have comma (r : List Char) : stripFrom .code (',' :: r) = ',' :: stripFrom .code r := rfl
    rw [strip, comma, strip', lexeme]
    exact .comma blank blank' closes ih

/-- Behind a comma of the text itself no end of a container is seen. -/
theorem Laid.closesNext_of_comma {l : Lexeme} {ls : List Lexeme} {t : List Char}
    (laid : Laid Blank Blank ls t) (chain : ((l :: ls).map (·.token)).IsChain Follows)
    (comma : l.token = .comma) : closesNext t = false := by
  apply laid.closesNext_eq_false
  intro u hu
  cases ls with
  | nil => cases hu
  | cons u' ls =>
    obtain rfl : u' = u := Option.some.inj hu
    have follows : Follows l.token u'.token := (List.isChain_cons_cons.1 chain).1
    exact follows.comma comma

/-- The commas that were added are dropped and all others stay. -/
theorem Laid.joined {ls : List Lexeme} {t : List Char} (laid : Laid Blank Blank ls t)
    (chain : (ls.map (·.token)).IsChain Follows) : Joined ls (dropTrailingCommas t) := by
  have keeps := keepsStrings_dropCommas
  unfold dropTrailingCommas
  induction laid with
  | @last w blank =>
    have all : dropCommasFrom false (w ++ []) = w ++ [] :=
      keeps.append_plain (plain_of_blank blank) []
    rw [List.append_nil] at all
    rw [all]
    exact .last blank
  | @next w l ls s blank others ih =>
    have kept : l.token = .comma →
        dropCommasFrom false (',' :: s) = ',' :: dropCommasFrom false s := by
      intro comma
      rw [dropCommasFrom_comma, others.closesNext_of_comma chain comma, if_neg Bool.false_ne_true]
    rw [keeps.append_plain (plain_of_blank blank), keeps.append_lexeme l s kept]
    exact .next blank (ih chain.tail)
  | @comma w w' l ls s before after closes _ ih =>
    have dropped : closesNext (w' ++ (l.chars ++ s)) = true := by
      rw [closesNext_append_blank after, closesNext_lexeme, closes]
    have kept : l.token = .comma →
        dropCommasFrom false (',' :: s) = ',' :: dropCommasFrom false s := by
      intro comma
      rw [comma] at closes
      cases closes
    rw [keeps.append_plain (plain_of_blank before), dropCommasFrom_comma, if_pos dropped,
      keeps.append_plain (plain_of_blank after), keeps.append_lexeme l s kept, ← List.append_assoc]
    exact .next (before.append after) (ih chain.tail)

theorem laid_of_joined {ls : List Lexeme} {s : List Char} (joined : Joined ls s) :
    Laid Blank Blank ls s := by
  induction joined with
  | last blank => exact .last blank
  | next blank _ ih => exact .next blank ih

/-- A scanner leaves a JSON text as it is if it keeps the commas that no end of a container
follows. -/
theorem KeepsStrings.joined {code quoted : List Char → List Char} (keeps : KeepsStrings code quoted)
    (comma : ∀ s, closesNext s = false → code (',' :: s) = ',' :: code s) {ls : List Lexeme}
    {s : List Char} (joined : Joined ls s) (chain : (ls.map (·.token)).IsChain Follows) :
    code s = s := by
  induction joined with
  | @last w blank =>
    have all : code (w ++ []) = w ++ code [] := keeps.append_plain (plain_of_blank blank) []
    rwa [keeps.empty, List.append_nil] at all
  | @next w l ls s blank others ih =>
    have kept (isComma : l.token = .comma) :=
      comma s ((laid_of_joined others).closesNext_of_comma chain isComma)
    rw [keeps.append_plain (plain_of_blank blank), keeps.append_lexeme l s kept, ih chain.tail]

/-! ## Reading -/

/-- The lexemes of a text, as the tokens of it are read. -/
def Cut (ls : List Lexeme) (s : String) : Prop :=
  Joined ls s.toList ∧ Json.tokenize s.toList = some (ls.map (·.token))

/-- A text that has a value as JSON is cut into the lexemes of a JSON text. -/
theorem exists_cut {s : String} {v : Json Binary64} (valid : Json.parseDoubles? s = some v) :
    ∃ ls, Cut ls s := by
  obtain ⟨ts, _, read, -⟩ := Json.parseDoubles?_eq_some_iff.1 valid
  obtain ⟨ls, joined, tokens⟩ := Json.exists_joined read
  exact ⟨ls, joined, tokens ▸ read⟩

theorem Cut.chain {ls : List Lexeme} {s : String} (cut : Cut ls s) {v : Json Binary64}
    (valid : Json.parseDoubles? s = some v) : (ls.map (·.token)).IsChain Follows := by
  obtain ⟨ts, _, read, built, -⟩ := Json.parseDoubles?_eq_some_iff.1 valid
  obtain rfl : ls.map (·.token) = ts := Option.some.inj (cut.2.symm.trans read)
  exact Json.isChain_follows built

/-- **JSON is left as it is.** Whatever stands in its strings, a JSON text loses nothing as a
comment or as a trailing comma, so it has the value that it has as JSON. -/
theorem clean_of_json (s : String) (v : Json Binary64) (valid : Json.parseDoubles? s = some v) :
    stripComments s.toList = s.toList ∧ dropTrailingCommas s.toList = s.toList ∧
      parse? s = some v := by
  obtain ⟨ls, cut⟩ := exists_cut valid
  have chain := cut.chain valid
  have comments : stripComments s.toList = s.toList :=
    keepsStrings_strip.joined (fun _ _ => rfl) cut.1 chain
  have commas : dropTrailingCommas s.toList = s.toList := by
    refine keepsStrings_dropCommas.joined (fun r stays => ?_) cut.1 chain
    rw [dropCommasFrom_comma, stays, if_neg Bool.false_ne_true]
  have cleaned : clean s.toList = s.toList := by
    unfold clean
    rw [comments, commas]
  refine ⟨comments, commas, ?_⟩
  unfold parse?
  rw [cleaned]
  exact valid

/-- Marks of comments and trailing commas that stand in strings, behind escapes too. -/
def marks : String := "\x7b\"// a\": [\"/* ,]\", \"\\\" ,\x7d\\\\\"]\x7d"

theorem clean_of_json_marks :
    ∃ v, Json.parseDoubles? marks = some v ∧ stripComments marks.toList = marks.toList ∧
      dropTrailingCommas marks.toList = marks.toList ∧ parse? marks = some v := by
  have tokens : Json.tokenize marks.toList =
      some [.openObject, .text "// a", .colon, .openList, .text "/* ,]", .comma,
        .text "\" ,\x7d\\", .closeList, .closeObject] := by decide +kernel
  have valid : Json.parseDoubles? marks =
      some (.object [("// a", .list [.text "/* ,]", .text "\" ,\x7d\\"])]) :=
    Json.parseDoubles?_eq_some_iff.2 ⟨_, _, tokens, rfl, rfl⟩
  exact ⟨_, valid, clean_of_json marks _ valid⟩

/-- **JSON with comments has the value of the JSON text that it decorates.** The text of a value is
cut into lexemes; with filler anywhere between them, and a comma in front of the end of any
container, they still have that value. -/
theorem parse?_of_decorated (s : String) (v : Json Binary64)
    (valid : Json.parseDoubles? s = some v) :
    (∃ ls, Cut ls s) ∧
      ∀ (ls : List Lexeme) (t : String), Cut ls s → Decorated ls t.toList → parse? t = some v := by
  refine ⟨exists_cut valid, fun ls t cut decorated => ?_⟩
  have chain := cut.chain valid
  have joined : Joined ls (clean t.toList) := (Decorated.strip decorated).joined chain
  have read : Json.tokenize (clean t.toList) = Json.tokenize s.toList :=
    (Json.tokenize_joined joined chain).trans cut.2.symm
  have parsed : Json.ofChars? (clean t.toList) = Json.ofChars? s.toList := by
    unfold Json.ofChars?
    rw [read]
  unfold parse?
  rw [parsed]
  exact valid

theorem parse?_of_decorated_list :
    parse? "/* [\" */[ -1 // ]\n, /***/\t] //" =
      some (.list [.number (Binary64.ofLiteral "-1")]) := by
  have tokens : Json.tokenize "[-1]".toList = some [.openList, .number "-1", .closeList] := by
    decide +kernel
  have valid : Json.parseDoubles? "[-1]" = some (.list [.number (Binary64.ofLiteral "-1")]) :=
    Json.parseDoubles?_eq_some_iff.2 ⟨_, _, tokens, rfl, rfl⟩
  let open_ : Lexeme := ⟨_, .openList, .fixed rfl⟩
  let item : Lexeme :=
    ⟨['-', '1'], .number "-1", @Spells.number '-' ['1'] .minus .whole rfl rfl rfl⟩
  let close : Lexeme := ⟨_, .closeList, .fixed rfl⟩
  have joined : Joined [open_, item, close] "[-1]".toList :=
    .next .nil (.next .nil (.next .nil (.last .nil)))
  have decorated : ∃ t, Decorated [open_, item, close] t ∧
      t = "/* [\" */[ -1 // ]\n, /***/\t] //".toList :=
    ⟨_, .next (@Filler.block [' ', '[', '"', ' '] [] (by decide) .nil)
      (.next (.space (c := ' ') rfl .nil)
        (.comma (.space (c := ' ') rfl
            (@Filler.line [' ', ']'] '\n' [] (by simp [isLineEnd]) rfl .nil))
          (.space (c := ' ') rfl (@Filler.block ['*'] ['\t'] (by decide) (.space rfl .nil)))
          rfl (.last (@LastFiller.line [' '] [] (.space rfl .nil) nofun)))),
      by decide +kernel⟩
  obtain ⟨t, laid, same⟩ := decorated
  exact (parse?_of_decorated "[-1]" _ valid).2 _ _ ⟨joined, tokens⟩ (same ▸ laid)

end HttpScript.Jsonc
