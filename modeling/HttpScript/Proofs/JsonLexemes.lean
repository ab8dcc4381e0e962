import HttpScript.Json.Parse
import Mathlib.Data.List.Chain
import Mathlib.Logic.Basic
import Mathlib.Tactic.IntervalCases

/-!
# Lexemes of JSON

A text that reads as tokens is those tokens as they are spelled, with white space before each of
them and at the end. Laid out so, tokens are read back wherever no two of them run together.

    tokenize s = some ts → ∃ ls, Joined ls s ∧ ls.map (·.token) = ts          (exists_joined)
    Joined ls s → tokenize s = some (ls.map (·.token))                        (tokenize_joined)

In a JSON text no two tokens run together, since a number is followed by a comma or by the end of a
container, and a comma is never followed by the end of one (`isChain_follows`).
-/

namespace HttpScript.Json

/-! ## Tokens as they are spelled -/

/-- White space that may stand between tokens. -/
def isSpace (c : Char) : Bool := c == ' ' || c == '\t' || c == '\n' || c == '\r'

/-- Nothing but white space. -/
def Blank (w : List Char) : Prop := ∀ c ∈ w, isSpace c = true

theorem Blank.nil : Blank [] := nofun

theorem Blank.cons {c : Char} {w : List Char} (space : isSpace c = true) (blank : Blank w) :
    Blank (c :: w) := List.forall_mem_cons.2 ⟨space, blank⟩

theorem Blank.append {w x : List Char} (first : Blank w) (second : Blank x) : Blank (w ++ x) :=
  List.forall_mem_append.2 ⟨first, second⟩

/-- Whether the token has one spelling only. -/
def Token.isFixed : Token → Bool
  | .number _ | .text _ => Bool.false
  | _ => Bool.true

def Token.isNumber : Token → Bool
  | .number _ => Bool.true
  | _ => Bool.false

/-- Whether the token ends a container. -/
def Token.closes : Token → Bool
  | .closeList | .closeObject => Bool.true
  | _ => Bool.false

/-- The part of a number in which its first character stands. -/
def NumberPart.first? (c : Char) : Option NumberPart :=
  if c == '-' then some .minus else if c == '0' then some .zero
  else if c.isDigit then some .whole else none

def digits : List Char := ['0', '1', '2', '3', '4', '5', '6', '7', '8', '9']

/-- The characters with which a number may begin. -/
def numberStarts : List Char := '-' :: digits

/-- The characters of numbers. -/
def numberChars : List Char := ['+', '.', 'E', 'e'] ++ numberStarts

theorem mem_digits {c : Char} (digit : c.isDigit = true) : c ∈ digits := by
  obtain ⟨low, high⟩ := Char.isDigit_iff_toNat.1 digit
  have same : c = Char.ofNat c.toNat := (Char.ofNat_toNat c).symm
  rw [same]
  change 48 ≤ c.toNat at low
  change c.toNat ≤ 57 at high
  generalize c.toNat = n at *
  interval_cases n <;> decide

theorem mem_numberStarts {c : Char} {part : NumberPart} (h : NumberPart.first? c = some part) :
    c ∈ numberStarts := by
  unfold NumberPart.first? at h
  rcases ite_eq_iff.1 h with ⟨minus, -⟩ | ⟨-, h⟩
  · rw [eq_of_beq minus]
    exact List.mem_cons_self
  rcases ite_eq_iff.1 h with ⟨zero, -⟩ | ⟨-, h⟩
  · rw [eq_of_beq zero]
    decide
  rcases ite_eq_iff.1 h with ⟨digit, -⟩ | ⟨-, h⟩
  · exact List.mem_cons_of_mem _ (mem_digits digit)
  · cases h

theorem mem_numberChars {c : Char} {part next : NumberPart} (h : part.next? c = some next) :
    c ∈ numberChars := by
  have ofDigit (digit : c.isDigit = true) : c ∈ numberChars :=
    List.mem_append_right _ (List.mem_cons_of_mem _ (mem_digits digit))
  by_contra other
  have digit : c.isDigit = false := Bool.eq_false_iff.2 (mt ofDigit other)
  have signs : c ≠ '+' ∧ c ≠ '.' ∧ c ≠ 'E' ∧ c ≠ 'e' ∧ c ≠ '-' ∧ c ≠ '0' := by
    refine ⟨?_, ?_, ?_, ?_, ?_, ?_⟩ <;> (rintro rfl; exact other (by decide))
  cases part <;>
    simp [NumberPart.next?, NumberPart.next?.afterWhole, digit, signs] at h

theorem mem_numberChars_of_foldlM {cs : List Char} {part last : NumberPart}
    (h : cs.foldlM NumberPart.next? part = some last) : ∀ c ∈ cs, c ∈ numberChars := by
  induction cs generalizing part with
  | nil => exact fun _ hc => absurd hc List.not_mem_nil
  | cons d cs ih =>
    rw [List.foldlM_cons] at h
    obtain ⟨_, next, h⟩ := Option.bind_eq_some_iff.1 h
    intro c hc
    rcases List.mem_cons.1 hc with rfl | hc
    · exact mem_numberChars next
    · exact ih h c hc

/-- What may stand between quotes, and the code points and units that it stands for. -/
inductive Quoted : List Char → List Nat → Prop where
  | nil : Quoted [] []
  | plain {c : Char} {s : List Char} {us : List Nat} (inner : c ≠ '"') (unescaped : c ≠ '\\')
      (printable : 32 ≤ c.toNat) (rest : Quoted s us) : Quoted (c :: s) (c.toNat :: us)
  | escape {c d : Char} {s : List Char} {us : List Nat} (stands : unescape? c = some d)
      (rest : Quoted s us) : Quoted ('\\' :: c :: s) (d.toNat :: us)
  | unicode {a b c d : Char} {w x y z : Nat} {s : List Char} {us : List Nat}
      (ha : Text.hexValue? a = some w) (hb : Text.hexValue? b = some x)
      (hc : Text.hexValue? c = some y) (hd : Text.hexValue? d = some z) (rest : Quoted s us) :
      Quoted ('\\' :: 'u' :: a :: b :: c :: d :: s) ((16 * (16 * (16 * w + x) + y) + z) :: us)

/-- The characters of a token. -/
inductive Spells : List Char → Token → Prop where
  | fixed {t : Token} (fixed : t.isFixed = true) : Spells t.spelling t
  | number {c : Char} {cs : List Char} {part last : NumberPart}
      (first : NumberPart.first? c = some part)
      (others : cs.foldlM NumberPart.next? part = some last) (complete : last.complete = true) :
      Spells (c :: cs) (.number (String.ofList (c :: cs)))
  | text {s : List Char} {us : List Nat} (quoted : Quoted s us) :
      Spells ('"' :: (s ++ ['"'])) (.text (.ofPoints us))

theorem Spells.ne_nil {cs : List Char} {t : Token} (h : Spells cs t) : cs ≠ [] := by
  cases h with
  | fixed fixed => cases t <;> first | exact List.cons_ne_nil _ _ | cases fixed
  | number _ _ _ => exact List.cons_ne_nil _ _
  | text _ => exact List.cons_ne_nil _ _

/-- A token with the characters that spell it. -/
structure Lexeme where
  chars : List Char
  token : Token
  spelled : Spells chars token

/-- The text is the lexemes in order, with white space before each of them and at the end. -/
inductive Joined : List Lexeme → List Char → Prop where
  | last {w : List Char} (blank : Blank w) : Joined [] w
  | next {w : List Char} {l : Lexeme} {ls : List Lexeme} {s : List Char} (blank : Blank w)
      (others : Joined ls s) : Joined (l :: ls) (w ++ (l.chars ++ s))

theorem Joined.space {ls : List Lexeme} {s : List Char} (h : Joined ls s) {c : Char}
    (space : isSpace c = true) : Joined ls (c :: s) := by
  cases h with
  | last blank => exact .last (.cons space blank)
  | next blank others => exact .next (.cons space blank) others

/-! ## Reading from any state -/

namespace Lexer

/-- The tokens after a text that is read from a state on. -/
def read? (l : Lexer) (s : List Char) : Option (List Token) := (s.foldlM step? l).bind finish?

theorem read?_cons (l : Lexer) (c : Char) (s : List Char) :
    l.read? (c :: s) = (step? l c).bind (·.read? s) := by
  unfold read?
  rw [List.foldlM_cons]
  cases step? l c <;> rfl

/-- What a character can do between tokens. -/
theorem begin?_cases {tokens : List Token} {c : Char} {l : Lexer} (h : begin? tokens c = some l) :
    (isSpace c = true ∧ l = ⟨tokens, .between⟩) ∨
    (∃ t : Token, t.isFixed = true ∧ t.spelling = [c] ∧ l = ⟨t :: tokens, .between⟩) ∨
    (∃ (t : Token) (d : Char) (r : List Char), t.isFixed = true ∧ t.spelling = c :: d :: r ∧
      l = ⟨tokens, .word t (d :: r)⟩) ∨
    (∃ part, NumberPart.first? c = some part ∧ l = ⟨tokens, .number part [c]⟩) ∨
    (c = '"' ∧ l = ⟨tokens, .text []⟩) := by
  unfold begin? at h
  rcases ite_eq_iff.1 h with ⟨space, e⟩ | ⟨-, h⟩
  · exact .inl ⟨space, (Option.some.inj e).symm⟩
  right
  -- the six signs
  have sign (t : Token) (hc : (c == t.spelling.head!) = true) (fixed : t.isFixed = true)
      (single : t.spelling = [t.spelling.head!]) (e : some ⟨t :: tokens, .between⟩ = some l) :
      ∃ t : Token, t.isFixed = true ∧ t.spelling = [c] ∧ l = ⟨t :: tokens, .between⟩ :=
    ⟨t, fixed, by rw [eq_of_beq hc, ← single], (Option.some.inj e).symm⟩
  rcases ite_eq_iff.1 h with ⟨hc, e⟩ | ⟨-, h⟩
  · exact Or.inl (sign .openList hc rfl rfl e)
  rcases ite_eq_iff.1 h with ⟨hc, e⟩ | ⟨-, h⟩
  · exact Or.inl (sign .closeList hc rfl rfl e)
  rcases ite_eq_iff.1 h with ⟨hc, e⟩ | ⟨-, h⟩
  · exact Or.inl (sign .openObject hc rfl rfl e)
  rcases ite_eq_iff.1 h with ⟨hc, e⟩ | ⟨-, h⟩
  · exact Or.inl (sign .closeObject hc rfl rfl e)
  rcases ite_eq_iff.1 h with ⟨hc, e⟩ | ⟨-, h⟩
  · exact Or.inl (sign .colon hc rfl rfl e)
  rcases ite_eq_iff.1 h with ⟨hc, e⟩ | ⟨-, h⟩
  · exact Or.inl (sign .comma hc rfl rfl e)
  right
  rcases ite_eq_iff.1 h with ⟨hc, e⟩ | ⟨-, h⟩
  · exact Or.inr (Or.inr ⟨eq_of_beq hc, (Option.some.inj e).symm⟩)
  -- the three words
  rcases ite_eq_iff.1 h with ⟨hc, e⟩ | ⟨-, h⟩
  · exact Or.inl ⟨_, _, _, rfl, by rw [eq_of_beq hc]; rfl, (Option.some.inj e).symm⟩
  rcases ite_eq_iff.1 h with ⟨hc, e⟩ | ⟨-, h⟩
  · exact Or.inl ⟨_, _, _, rfl, by rw [eq_of_beq hc]; rfl, (Option.some.inj e).symm⟩
  rcases ite_eq_iff.1 h with ⟨hc, e⟩ | ⟨-, h⟩
  · exact Or.inl ⟨_, _, _, rfl, by rw [eq_of_beq hc]; rfl, (Option.some.inj e).symm⟩
  -- numbers begin with a sign, with zero or with another digit
  refine Or.inr (Or.inl ?_)
  rcases ite_eq_iff.1 h with ⟨hc, e⟩ | ⟨minus, h⟩
  · obtain rfl : c = '-' := eq_of_beq hc
    exact ⟨.minus, rfl, (Option.some.inj e).symm⟩
  rcases ite_eq_iff.1 h with ⟨hc, e⟩ | ⟨zero, h⟩
  · obtain rfl : c = '0' := eq_of_beq hc
    exact ⟨.zero, rfl, (Option.some.inj e).symm⟩
  rcases ite_eq_iff.1 h with ⟨digit, e⟩ | ⟨-, h⟩
  · refine ⟨.whole, ?_, (Option.some.inj e).symm⟩
    rw [NumberPart.first?, if_neg minus, if_neg zero, if_pos digit]
  · cases h

variable {tokens ts : List Token} {s : List Char}

/-- Inside a word, the rest of the word follows. -/
theorem read?_word {t : Token} {d : Char} {r : List Char}
    (h : read? ⟨tokens, .word t (d :: r)⟩ s = some ts) :
    ∃ rest, s = d :: r ++ rest ∧ read? ⟨t :: tokens, .between⟩ rest = some ts := by
  induction s generalizing d r with
  | nil => cases h
  | cons c s ih =>
    rw [read?_cons] at h
    obtain ⟨l, step, h⟩ := Option.bind_eq_some_iff.1 h
    cases r with
    | nil =>
      obtain ⟨same, e⟩ | ⟨-, e⟩ := ite_eq_iff.1 step
      · obtain rfl := eq_of_beq same
        cases e
        exact ⟨s, rfl, h⟩
      · cases e
    | cons d' r =>
      obtain ⟨same, e⟩ | ⟨-, e⟩ := ite_eq_iff.1 step
      · obtain rfl := eq_of_beq same
        cases e
        obtain ⟨rest, rfl, read⟩ := ih h
        exact ⟨rest, rfl, read⟩
      · cases e

/-- Behind the last character of a number stands what may stand behind the token. -/
theorem read?_number_end (part : NumberPart) (read : List Char) (complete : part.complete = true)
    (ends : ∀ c ∈ s.head?, part.next? c = none) :
    read? ⟨tokens, .number part read⟩ s =
      read? ⟨.number (String.ofList read.reverse) :: tokens, .between⟩ s := by
  cases s with
  | nil =>
    unfold read?
    show Lexer.finish? ⟨tokens, .number part read⟩ = _
    rw [finish?]
    dsimp only
    rw [if_pos complete]
    rfl
  | cons c s =>
    rw [read?_cons, read?_cons, step?, step?]
    dsimp only
    rw [ends c rfl]
    dsimp only
    rw [if_pos complete]

/-- Inside a number, the rest of the number follows. -/
theorem read?_number {part : NumberPart} {read : List Char}
    (h : read? ⟨tokens, .number part read⟩ s = some ts) :
    ∃ cs last rest, s = cs ++ rest ∧ cs.foldlM NumberPart.next? part = some last ∧
      last.complete = true ∧
      read? ⟨.number (String.ofList (read.reverse ++ cs)) :: tokens, .between⟩ rest = some ts := by
  induction s generalizing part read with
  | nil =>
    by_cases complete : part.complete = true
    · rw [read?_number_end part read complete (by simp)] at h
      exact ⟨[], part, [], rfl, rfl, complete, by rw [List.append_nil]; exact h⟩
    · unfold read? at h
      change finish? ⟨tokens, .number part read⟩ = some ts at h
      rw [finish?] at h
      dsimp only at h
      rw [if_neg complete] at h
      cases h
  | cons c s ih =>
    cases next : part.next? c with
    | some part' =>
      have step : step? ⟨tokens, .number part read⟩ c =
          some ⟨tokens, .number part' (c :: read)⟩ := by
        rw [step?]
        dsimp only
        rw [next]
      rw [read?_cons, step] at h
      obtain ⟨cs, last, rest, rfl, others, complete, h⟩ := ih h
      refine ⟨c :: cs, last, rest, rfl, ?_, complete, ?_⟩
      · rw [List.foldlM_cons, next]
        exact others
      · rw [List.reverse_cons, List.append_assoc] at h
        exact h
    | none =>
      by_cases complete : part.complete = true
      · rw [read?_number_end part read complete (by simpa using next)] at h
        exact ⟨[], part, c :: s, rfl, rfl, complete, by rw [List.append_nil]; exact h⟩
      · rw [read?_cons, step?] at h
        dsimp only at h
        rw [next] at h
        dsimp only at h
        rw [if_neg complete] at h
        cases h

/-- Behind `\u` a hexadecimal digit follows. -/
theorem read?_unicode {read : List Nat} {digits value : Nat}
    (h : read? ⟨tokens, .unicode read digits value⟩ s = some ts) :
    ∃ c v rest, s = c :: rest ∧ Text.hexValue? c = some v ∧
      read? (if digits == 3 then ⟨tokens, .text ((16 * value + v) :: read)⟩
        else ⟨tokens, .unicode read (digits + 1) (16 * value + v)⟩) rest = some ts := by
  cases s with
  | nil => cases h
  | cons c s =>
    rw [read?_cons] at h
    obtain ⟨l, step, h⟩ := Option.bind_eq_some_iff.1 h
    obtain ⟨v, hex, rfl⟩ := Option.map_eq_some_iff.1 step
    exact ⟨c, v, s, rfl, hex, h⟩

/-- An escape sequence, without its backslash, stands for one code unit. -/
theorem read?_escape {read : List Nat} (h : read? ⟨tokens, .escape read⟩ s = some ts) :
    ∃ piece u rest, s = piece ++ rest ∧
      (∀ inner us, Quoted inner us → Quoted ('\\' :: (piece ++ inner)) (u :: us)) ∧
      read? ⟨tokens, .text (u :: read)⟩ rest = some ts := by
  cases s with
  | nil => cases h
  | cons e s =>
    rw [read?_cons] at h
    obtain ⟨l, step, h⟩ := Option.bind_eq_some_iff.1 h
    obtain ⟨unicode, step⟩ | ⟨-, step⟩ := ite_eq_iff.1 step
    · obtain rfl := eq_of_beq unicode
      cases step
      obtain ⟨a, w, s, rfl, ha, h⟩ := read?_unicode h
      obtain ⟨b, x, s, rfl, hb, h⟩ := read?_unicode h
      obtain ⟨c, y, s, rfl, hc, h⟩ := read?_unicode h
      obtain ⟨d, z, s, rfl, hd, h⟩ := read?_unicode h
      rw [Nat.mul_zero, Nat.zero_add w] at h
      exact ⟨['u', a, b, c, d], _, s, rfl, fun _ _ => .unicode ha hb hc hd, h⟩
    · obtain ⟨d, stands, rfl⟩ := Option.map_eq_some_iff.1 step
      exact ⟨[e], d.toNat, s, rfl, fun _ _ => .escape stands, h⟩

/-- Inside quotes, what may stand there follows, up to the closing quote. -/
theorem read?_text (s : List Char) {read : List Nat} (h : read? ⟨tokens, .text read⟩ s = some ts) :
    ∃ inner us rest, Quoted inner us ∧ s = inner ++ '"' :: rest ∧
      read? ⟨.text (.ofPoints (us.reverse ++ read).reverse) :: tokens, .between⟩ rest =
        some ts := by
  match s with
  | [] => cases h
  | c :: s =>
    -- what is read first stands in front of the rest
    have more (piece : List Char) {s' : List Char} {u : Nat} (cut : c :: s = piece ++ s')
        (shorter : s'.length ≤ s.length)
        (quoted : ∀ inner us, Quoted inner us → Quoted (piece ++ inner) (u :: us))
        (h : read? ⟨tokens, .text (u :: read)⟩ s' = some ts) :
        ∃ inner us rest, Quoted inner us ∧ c :: s = inner ++ '"' :: rest ∧
          read? ⟨.text (.ofPoints (us.reverse ++ read).reverse) :: tokens, .between⟩
            rest = some ts := by
      obtain ⟨inner, us, rest, hq, rfl, found⟩ := read?_text s' h
      refine ⟨piece ++ inner, u :: us, rest, quoted _ _ hq, by rw [cut, List.append_assoc], ?_⟩
      rw [List.reverse_cons, List.append_assoc]
      exact found
    rw [read?_cons] at h
    obtain ⟨l, step, h⟩ := Option.bind_eq_some_iff.1 h
    obtain ⟨quote, e⟩ | ⟨inner, step⟩ := ite_eq_iff.1 step
    · obtain rfl := eq_of_beq quote
      cases e
      exact ⟨[], [], s, .nil, rfl, h⟩
    obtain ⟨escape, e⟩ | ⟨unescaped, step⟩ := ite_eq_iff.1 step
    · obtain rfl := eq_of_beq escape
      cases e
      obtain ⟨piece, u, rest, rfl, quoted, h⟩ := read?_escape h
      exact more ('\\' :: piece) rfl (by rw [List.length_append]; omega) quoted h
    obtain ⟨-, e⟩ | ⟨printable, e⟩ := ite_eq_iff.1 step
    · cases e
    · cases e
      rw [beq_iff_eq] at inner unescaped
      exact more [c] rfl (Nat.le_refl _)
        (fun _ _ => .plain inner unescaped (Nat.le_of_not_lt printable)) h
termination_by s.length

/-- Between tokens stands white space or a whole token. -/
theorem read?_between {c : Char} (h : read? ⟨tokens, .between⟩ (c :: s) = some ts) :
    (isSpace c = true ∧ read? ⟨tokens, .between⟩ s = some ts) ∨
    ∃ (l : Lexeme) (rest : List Char), c :: s = l.chars ++ rest ∧
      read? ⟨l.token :: tokens, .between⟩ rest = some ts := by
  rw [read?_cons] at h
  obtain ⟨l, step, h⟩ := Option.bind_eq_some_iff.1 h
  rcases begin?_cases step with ⟨space, rfl⟩ | ⟨t, fixed, spelling, rfl⟩ |
    ⟨t, d, r, fixed, spelling, rfl⟩ | ⟨part, first, rfl⟩ | ⟨rfl, rfl⟩
  · exact .inl ⟨space, h⟩
  · exact .inr ⟨⟨[c], t, spelling ▸ .fixed fixed⟩, s, rfl, h⟩
  · obtain ⟨rest, rfl, found⟩ := read?_word h
    exact .inr ⟨⟨c :: d :: r, t, spelling ▸ .fixed fixed⟩, rest, rfl, found⟩
  · obtain ⟨cs, last, rest, rfl, others, complete, found⟩ := read?_number h
    exact .inr ⟨⟨c :: cs, _, .number first others complete⟩, rest, rfl, found⟩
  · obtain ⟨inner, us, rest, quoted, rfl, found⟩ := read?_text s h
    rw [List.append_nil, List.reverse_reverse] at found
    exact .inr ⟨⟨_, _, .text quoted⟩, rest, by simp, found⟩

/-- What is read between tokens is tokens as they are spelled, with white space between them. -/
theorem exists_joined_of_read? (s : List Char) (tokens : List Token)
    (h : read? ⟨tokens, .between⟩ s = some ts) :
    ∃ ls, Joined ls s ∧ tokens.reverse ++ ls.map (·.token) = ts := by
  match s with
  | [] => exact ⟨[], .last .nil, by rw [List.map_nil, List.append_nil]; exact Option.some.inj h⟩
  | c :: s =>
    rcases read?_between h with ⟨space, h⟩ | ⟨l, rest, cut, h⟩
    · obtain ⟨ls, joined, rfl⟩ := exists_joined_of_read? s tokens h
      exact ⟨ls, joined.space space, rfl⟩
    · have shorter : rest.length ≤ s.length := by
        have nonempty := List.length_pos_iff.2 l.spelled.ne_nil
        have whole := congrArg List.length cut
        rw [List.length_cons, List.length_append] at whole
        omega
      obtain ⟨ls, joined, rfl⟩ := exists_joined_of_read? rest (l.token :: tokens) h
      refine ⟨l :: ls, ?_, by simp⟩
      rw [cut]
      exact .next .nil joined
termination_by s.length

/-! ## Reading lexemes back -/

theorem begin?_of_first? {c : Char} {part : NumberPart} (h : NumberPart.first? c = some part) :
    begin? tokens c = some ⟨tokens, .number part [c]⟩ := by
  have start := mem_numberStarts h
  simp only [numberStarts, digits, List.mem_cons, List.not_mem_nil, or_false] at start
  rcases start with rfl | rfl | rfl | rfl | rfl | rfl | rfl | rfl | rfl | rfl | rfl <;>
    (cases h; rfl)

theorem read?_number_append {part last : NumberPart} {read : List Char} (cs rest : List Char)
    (others : cs.foldlM NumberPart.next? part = some last) :
    read? ⟨tokens, .number part read⟩ (cs ++ rest) =
      read? ⟨tokens, .number last (cs.reverse ++ read)⟩ rest := by
  induction cs generalizing part read with
  | nil =>
    cases others
    rfl
  | cons c cs ih =>
    rw [List.foldlM_cons] at others
    obtain ⟨part', next, others⟩ := Option.bind_eq_some_iff.1 others
    have step : step? ⟨tokens, .number part read⟩ c = some ⟨tokens, .number part' (c :: read)⟩ := by
      rw [step?]
      dsimp only
      rw [next]
    rw [List.cons_append, read?_cons, step, List.reverse_cons, List.append_assoc]
    exact ih others

theorem read?_quoted {inner : List Char} {us : List Nat} (quoted : Quoted inner us)
    (read : List Nat) (rest : List Char) :
    read? ⟨tokens, .text read⟩ (inner ++ rest) =
      read? ⟨tokens, .text (us.reverse ++ read)⟩ rest := by
  induction quoted generalizing read with
  | nil => rfl
  | @plain c s us inner unescaped printable _ ih =>
    have step : step? ⟨tokens, .text read⟩ c = some ⟨tokens, .text (c.toNat :: read)⟩ := by
      have printable : ¬c.toNat < 32 := Nat.not_lt.2 printable
      simp [step?, inner, unescaped, printable]
    rw [List.cons_append, read?_cons, step, Option.bind_some, ih, List.reverse_cons,
      List.append_assoc]
    rfl
  | @escape c d s us stands _ ih =>
    have step : step? ⟨tokens, .escape read⟩ c = some ⟨tokens, .text (d.toNat :: read)⟩ := by
      have other : ¬(c == 'u') = true := by
        rintro unicode
        rw [eq_of_beq unicode] at stands
        cases stands
      rw [step?]
      dsimp only
      rw [if_neg other, stands]
      rfl
    rw [List.cons_append, read?_cons, List.cons_append]
    show read? ⟨tokens, .escape read⟩ (c :: (s ++ rest)) = _
    rw [read?_cons, step, Option.bind_some, ih, List.reverse_cons, List.append_assoc]
    rfl
  | @unicode a b c d w x y z s us ha hb hc hd _ ih =>
    show read? ⟨tokens, .unicode read 0 0⟩ (a :: b :: c :: d :: (s ++ rest)) = _
    have digit {e : Char} {v : Nat} (digits value : Nat) (he : Text.hexValue? e = some v) :
        step? ⟨tokens, .unicode read digits value⟩ e = some (if digits == 3 then
          ⟨tokens, .text ((16 * value + v) :: read)⟩
          else ⟨tokens, .unicode read (digits + 1) (16 * value + v)⟩) := by
      rw [step?]
      dsimp only
      rw [he]
      rfl
    rw [read?_cons, digit 0 0 ha, Option.bind_some]
    show read? ⟨tokens, .unicode read 1 _⟩ _ = _
    rw [read?_cons, digit 1 _ hb, Option.bind_some]
    show read? ⟨tokens, .unicode read 2 _⟩ _ = _
    rw [read?_cons, digit 2 _ hc, Option.bind_some]
    show read? ⟨tokens, .unicode read 3 _⟩ _ = _
    rw [read?_cons, digit 3 _ hd, Option.bind_some]
    show read? ⟨tokens, .text _⟩ _ = _
    rw [ih, List.reverse_cons, List.append_assoc, Nat.mul_zero, Nat.zero_add w]
    rfl

/-- A lexeme is read as its token. Behind a number stands a character that is not part of it. -/
theorem read?_lexeme (l : Lexeme) (rest : List Char)
    (apart : l.token.isNumber = true → ∀ c ∈ rest.head?, c ∉ numberChars) :
    read? ⟨tokens, .between⟩ (l.chars ++ rest) = read? ⟨l.token :: tokens, .between⟩ rest := by
  obtain ⟨_, t, spelled⟩ := l
  cases spelled with
  | fixed fixed =>
    cases t with
    | number _ => cases fixed
    | text _ => cases fixed
    | _ => rfl
  | @number c cs part last first others complete =>
    have ends : ∀ d ∈ rest.head?, last.next? d = none := by
      intro d hd
      by_contra continues
      obtain ⟨_, next⟩ := Option.ne_none_iff_exists'.1 continues
      exact apart rfl d hd (mem_numberChars next)
    show read? _ (c :: (cs ++ rest)) = _
    rw [read?_cons, step?]
    dsimp only
    rw [begin?_of_first? first, Option.bind_some, read?_number_append cs rest others,
      read?_number_end _ _ complete ends, List.reverse_append, List.reverse_reverse]
    rfl
  | @text s us quoted =>
    show read? ⟨tokens, .text []⟩ (s ++ ['"'] ++ rest) = _
    rw [List.append_assoc, read?_quoted quoted, List.append_nil]
    show read? ⟨.text (.ofPoints us.reverse.reverse) :: tokens, .between⟩ rest = _
    rw [List.reverse_reverse]

theorem read?_spaces (w rest : List Char) (blank : Blank w) :
    read? ⟨tokens, .between⟩ (w ++ rest) = read? ⟨tokens, .between⟩ rest := by
  induction w with
  | nil => rfl
  | cons c w ih =>
    have step : step? ⟨tokens, .between⟩ c = some ⟨tokens, .between⟩ := by
      have space : isSpace c = true := blank c List.mem_cons_self
      unfold isSpace at space
      rw [step?]
      dsimp only
      rw [begin?, if_pos space]
    rw [List.cons_append, read?_cons, step]
    exact ih fun d hd => blank d (List.mem_cons_of_mem _ hd)

end Lexer

/-- Every text that reads as tokens is these tokens as they are spelled, with white space between
them. -/
theorem exists_joined {s : List Char} {ts : List Token} (h : tokenize s = some ts) :
    ∃ ls, Joined ls s ∧ ls.map (·.token) = ts := by
  obtain ⟨ls, joined, same⟩ := Lexer.exists_joined_of_read? s [] h
  exact ⟨ls, joined, same⟩

/-! ## Tokens of a JSON text -/

/-- What holds of two tokens next to each other in a JSON text. -/
structure Follows (t u : Token) : Prop where
  number : t.isNumber = true → u = .comma ∨ u.closes = true
  comma : t = .comma → u.closes = false

namespace Builder

/-- Behind a finished value comes a comma or the end of the container. -/
theorem close?_cases {done : Json String} {frames : List Frame} {u : Token} {b : Builder}
    (h : close? done frames u = some b) : u = .comma ∨ u.closes = true := by
  unfold close? at h
  split at h
  · exact .inl rfl
  · exact .inr rfl
  · exact .inl rfl
  · exact .inr rfl
  · cases h

theorem closes_of_open? {frames : List Frame} {u : Token} {b : Builder}
    (h : open? frames u = some b) : u.closes = false := by
  cases u <;> first | rfl | cases h

theorem expect_of_number {b b' : Builder} {n : String} (h : step? b (.number n) = some b') :
    ∃ done, b'.expect = .separator done := by
  obtain ⟨expect, frames⟩ := b
  cases expect with
  | separator done => exact absurd (close?_cases h) (by simp [Token.closes])
  | value | firstItem =>
    cases h
    exact ⟨_, rfl⟩
  | _ => cases h

theorem expect_of_comma {b b' : Builder} (h : step? b .comma = some b') :
    b'.expect = .value ∨ ∃ before, b'.expect = .name before := by
  obtain ⟨expect, frames⟩ := b
  cases expect with
  | separator done =>
    change close? done frames .comma = some b' at h
    cases frames with
    | nil => cases h
    | cons frame frames =>
      cases frame with
      | list before =>
        cases h
        exact .inl rfl
      | member before k =>
        cases h
        exact .inr ⟨_, rfl⟩
  | _ => cases h

theorem follows_of_step? {b b' b'' : Builder} {t u : Token} (first : step? b t = some b')
    (second : step? b' u = some b'') : Follows t u := by
  obtain ⟨expect, frames⟩ := b'
  refine ⟨?number, ?comma⟩
  case number =>
    intro isNumber
    cases t with
    | number n =>
      obtain ⟨done, rfl⟩ := expect_of_number first
      exact close?_cases second
    | _ => cases isNumber
  case comma =>
    rintro rfl
    obtain rfl | ⟨before, rfl⟩ := expect_of_comma first
    · exact closes_of_open? second
    · cases u <;> first | rfl | cases second

theorem isChain_of_foldlM {b b' : Builder} {ts : List Token} (h : ts.foldlM step? b = some b') :
    ts.IsChain Follows := by
  induction ts generalizing b with
  | nil => exact .nil
  | cons t ts ih =>
    rw [List.foldlM_cons] at h
    obtain ⟨b₁, first, h⟩ := Option.bind_eq_some_iff.1 h
    cases ts with
    | nil => exact .singleton _
    | cons u ts =>
      have others := ih h
      rw [List.foldlM_cons] at h
      obtain ⟨b₂, second, -⟩ := Option.bind_eq_some_iff.1 h
      exact .cons_cons (follows_of_step? first second) others

end Builder

theorem isChain_follows {ts : List Token} {v : Json String} (h : ofTokens? ts = some v) :
    ts.IsChain Follows := by
  obtain ⟨b, run, -⟩ := Option.bind_eq_some_iff.1 h
  exact Builder.isChain_of_foldlM run

theorem Spells.of_comma {cs : List Char} (h : Spells cs .comma) : cs = [','] := by
  cases h
  rfl

theorem Spells.of_closes {cs : List Char} {t : Token} (h : Spells cs t) (closes : t.closes = true) :
    cs = [']'] ∨ cs = ['}'] := by
  cases h with
  | @fixed t _ => cases t <;> first | exact .inl rfl | exact .inr rfl | cases closes
  | number _ _ _ => cases closes
  | text _ => cases closes

theorem not_mem_numberChars_of_isSpace {c : Char} (space : isSpace c = true) :
    c ∉ numberChars := by
  simp only [isSpace, Bool.or_eq_true, beq_iff_eq] at space
  rcases space with ((rfl | rfl) | rfl) | rfl <;> decide

theorem Joined.head?_cases {ls : List Lexeme} {s : List Char} (h : Joined ls s) {c : Char}
    (hc : c ∈ s.head?) : isSpace c = true ∨ ∃ l ∈ ls.head?, c ∈ l.chars.head? := by
  cases h with
  | last blank => exact .inl (blank c (List.mem_of_mem_head? hc))
  | @next w l ls s blank others =>
    cases w with
    | nil =>
      rw [List.nil_append, List.head?_append_of_ne_nil _ l.spelled.ne_nil] at hc
      exact .inr ⟨l, rfl, hc⟩
    | cons d w =>
      obtain rfl : d = c := Option.some.inj hc
      exact .inl (blank d List.mem_cons_self)

/-- Behind a number stands white space, a comma or the end of a container. -/
theorem Joined.number_ends {l : Lexeme} {ls : List Lexeme} {s : List Char} (h : Joined ls s)
    (chain : ((l :: ls).map (·.token)).IsChain Follows) (number : l.token.isNumber = true) :
    ∀ c ∈ s.head?, c ∉ numberChars := by
  intro c hc
  rcases h.head?_cases hc with space | ⟨u, hu, hc⟩
  · exact not_mem_numberChars_of_isSpace space
  · cases ls with
    | nil => cases hu
    | cons u' ls =>
      obtain rfl : u' = u := Option.some.inj hu
      have follows : Follows l.token u'.token := (List.isChain_cons_cons.1 chain).1
      have spelled := u'.spelled
      rcases follows.number number with comma | closes
      · rw [comma] at spelled
        rw [spelled.of_comma] at hc
        obtain rfl : ',' = c := Option.some.inj hc
        decide
      · rcases spelled.of_closes closes with chars | chars
        · rw [chars] at hc
          obtain rfl : ']' = c := Option.some.inj hc
          decide
        · rw [chars] at hc
          obtain rfl : '}' = c := Option.some.inj hc
          decide

/-- Lexemes that follow each other in a JSON text are read back. -/
theorem Joined.read? {ls : List Lexeme} {s : List Char} (h : Joined ls s)
    (chain : (ls.map (·.token)).IsChain Follows) (tokens : List Token) :
    Lexer.read? ⟨tokens, .between⟩ s = some (tokens.reverse ++ ls.map (·.token)) := by
  induction h generalizing tokens with
  | @last w blank =>
    have none : Lexer.read? ⟨tokens, .between⟩ (w ++ []) = some tokens.reverse :=
      Lexer.read?_spaces w [] blank
    simpa using none
  | @next w l ls s blank others ih =>
    have apart := others.number_ends chain
    rw [Lexer.read?_spaces _ _ blank, Lexer.read?_lexeme l s apart, ih chain.tail]
    simp

theorem tokenize_joined {ls : List Lexeme} {s : List Char} (h : Joined ls s)
    (chain : (ls.map (·.token)).IsChain Follows) :
    tokenize s = some (ls.map (·.token)) := h.read? chain []

/-- The value of a text is that of the tree of its tokens. -/
theorem parseDoubles?_eq_some_iff {s : String} {v : Json Binary64} :
    parseDoubles? s = some v ↔
      ∃ ts tree, tokenize s.toList = some ts ∧ ofTokens? ts = some tree ∧ tree.toDoubles = v := by
  unfold parseDoubles? parse? ofChars?
  constructor
  · intro h
    obtain ⟨tree, parsed, value⟩ := Option.map_eq_some_iff.1 h
    obtain ⟨ts, read, built⟩ := Option.bind_eq_some_iff.1 parsed
    exact ⟨ts, tree, read, built, value⟩
  · rintro ⟨ts, tree, read, built, rfl⟩
    rw [read, Option.bind_some, built]
    rfl

end HttpScript.Json
