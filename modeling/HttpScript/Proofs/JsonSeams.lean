import HttpScript.Proofs.JsoncCleaning

/-!
# Seams of JSON texts

What white space does between two parts of a text that is read as tokens. Outside of strings it
does not matter how much of it there is. Whether there is any matters only between two characters
of words and numbers: without white space the two may belong to one token, and with white space
there are two tokens that no JSON text has next to each other.

    read? l (w ++ s) = read? l (' ' :: s)          white space is white space   (Fits.read?_blank)
    read? l (' ' :: s) = read? l s                 at most one such character   (Fits.read?_space)
    read? l (' ' :: s) = some ts → ofTokens? ts = none       two of them   (Fits.ofTokens?_eq_none)

The reader is known by the last character only, which is what `Lexer.Fits` says.
-/

namespace HttpScript.Json

open Jsonc (Inside inside_of_quoted)

/-- The characters of numbers and of the words `null`, `true` and `false`. -/
def wordChars : List Char := numberChars ++ ['a', 'e', 'f', 'l', 'n', 'r', 's', 't', 'u']

/-- Whether the token is a number or a word. -/
def Token.isScalar : Token → Bool
  | .null | .true | .false | .number _ => Bool.true
  | _ => Bool.false

/-- Code, and strings that are closed. -/
inductive Outside : List Char → Prop where
  | nil : Outside []
  | code {c : Char} {s : List Char} (quote : c ≠ '"') (rest : Outside s) : Outside (c :: s)
  | quoted {inner s : List Char} (inside : Inside inner) (rest : Outside s) :
      Outside ('"' :: (inner ++ '"' :: s))

theorem not_mem_wordChars_of_isSpace {c : Char} (space : isSpace c = true) : c ∉ wordChars := by
  simp only [isSpace, Bool.or_eq_true, beq_iff_eq] at space
  rcases space with ((rfl | rfl) | rfl) | rfl <;> decide

/-- A token that begins like a word or a number is one. -/
theorem Spells.isScalar {cs : List Char} {t : Token} (h : Spells cs t) {c : Char}
    (hc : c ∈ cs.head?) (word : c ∈ wordChars) : t.isScalar = true := by
  cases h with
  | @fixed t fixed =>
    cases t with
    | null | true | false => rfl
    | number _ => rfl
    | text _ => cases fixed
    | _ =>
      cases hc
      exact absurd word (by decide)
  | number _ _ _ => rfl
  | text _ =>
    cases hc
    exact absurd word (by decide)

/-! ## Tokens that no JSON text has next to each other -/

namespace Builder

/-- A word or a number does not come behind a finished value. -/
theorem close?_isScalar {done : Json String} {frames : List Frame} {t : Token} {b : Builder}
    (scalar : t.isScalar = true) (h : close? done frames t = some b) : False := by
  obtain rfl | closes := close?_cases h
  · cases scalar
  · cases t <;> first | (cases closes; done) | cases scalar

theorem expect_of_isScalar {b b' : Builder} {t : Token} (scalar : t.isScalar = true)
    (h : step? b t = some b') : ∃ done, b'.expect = .separator done := by
  obtain ⟨expect, frames⟩ := b
  cases expect with
  | separator done => exact (close?_isScalar scalar h).elim
  | value | firstItem => cases t <;> first | (cases h; exact ⟨_, rfl⟩) | cases scalar
  | _ => cases t <;> first | (cases h; done) | cases scalar

/-- Two words or numbers in a row are not read. -/
theorem foldlM_isScalar {b b' : Builder} {ts us : List Token} {t u : Token}
    (ht : t.isScalar = true) (hu : u.isScalar = true) :
    (ts ++ t :: u :: us).foldlM step? b ≠ some b' := by
  intro run
  rw [List.foldlM_append] at run
  obtain ⟨b₀, -, run⟩ := Option.bind_eq_some_iff.1 run
  rw [List.foldlM_cons] at run
  obtain ⟨b₁, first, run⟩ := Option.bind_eq_some_iff.1 run
  rw [List.foldlM_cons] at run
  obtain ⟨b₂, second, -⟩ := Option.bind_eq_some_iff.1 run
  obtain ⟨expect, frames⟩ := b₁
  obtain ⟨done, rfl⟩ := expect_of_isScalar ht first
  exact close?_isScalar hu second

end Builder

theorem ofTokens?_isScalar {ts us : List Token} {t u : Token} (ht : t.isScalar = true)
    (hu : u.isScalar = true) : ofTokens? (ts ++ t :: u :: us) = none := by
  cases h : ofTokens? (ts ++ t :: u :: us) with
  | none => rfl
  | some v =>
    obtain ⟨b, run, -⟩ := Option.bind_eq_some_iff.1 h
    exact absurd run (Builder.foldlM_isScalar ht hu)

namespace Lexer

/-! ## What the last character tells -/

/-- What is known of a reader outside of strings by the last character. It stands in a word or a
number only behind a character of one, and behind such a character it stands between tokens only if
that was the end of a word or a number. -/
def Fits (last : Option Char) (l : Lexer) : Prop :=
  match l.mode with
  | .between => ∀ c ∈ last, c ∈ wordChars → ∃ t ∈ l.tokens.head?, t.isScalar = true
  | .word t missing =>
    t.isScalar = true ∧ (∀ c ∈ missing, c ∈ wordChars) ∧ ∃ c ∈ last, c ∈ wordChars
  | .number _ _ => ∃ c ∈ last, c ∈ wordChars
  | _ => False

variable {last : Option Char} {tokens ts : List Token} {l l' : Lexer} {s : List Char}

theorem fits_start : start.Fits none := nofun

/-- Between tokens, what is read last says nothing if it is no character of a word or a number. -/
theorem fits_between {c : Char} (other : c ∉ wordChars) : Fits (some c) ⟨tokens, .between⟩ := by
  intro d hd word
  obtain rfl : c = d := Option.some.inj hd
  exact absurd word other

theorem fits_begin? {c : Char} (h : begin? tokens c = some l) (quote : c ≠ '"') :
    l.Fits (some c) := by
  have inside (m : List Char) (all : m.all (wordChars.contains ·) = true) :
      ∀ c ∈ m, c ∈ wordChars :=
    fun c hc => List.contains_iff_mem.1 (List.all_eq_true.1 all c hc)
  rcases begin?_cases h with ⟨space, rfl⟩ | ⟨t, fixed, spelling, rfl⟩ |
    ⟨t, d, r, fixed, spelling, rfl⟩ | ⟨part, first, rfl⟩ | ⟨rfl, rfl⟩
  · exact fits_between (not_mem_wordChars_of_isSpace space)
  · apply fits_between
    cases t with
    | number _ => cases fixed
    | text _ => cases fixed
    | _ => cases spelling <;> decide
  · cases t with
    | number _ => cases fixed
    | text _ => cases fixed
    | _ => cases spelling <;> exact ⟨rfl, inside _ (by decide), _, rfl, by decide⟩
  · have word : c ∈ numberChars := List.mem_append_right _ (mem_numberStarts first)
    exact ⟨c, rfl, List.mem_append_left _ word⟩
  · exact absurd rfl quote

theorem Fits.step? (fits : l.Fits last) {c : Char} (h : step? l c = some l') (quote : c ≠ '"') :
    l'.Fits (some c) := by
  obtain ⟨tokens, mode⟩ := l
  cases mode with
  | between => exact fits_begin? h quote
  | word t missing =>
    obtain ⟨scalar, letters, -⟩ := fits
    match missing with
    | [] => cases h
    | [d] =>
      obtain ⟨-, e⟩ | ⟨-, e⟩ := ite_eq_iff.1 h
      · cases e
        exact fun _ _ _ => ⟨t, rfl, scalar⟩
      · cases e
    | d :: e :: r =>
      obtain ⟨same, e⟩ | ⟨-, e⟩ := ite_eq_iff.1 h
      · cases e
        obtain rfl := eq_of_beq same
        exact ⟨scalar, fun c hc => letters c (List.mem_cons_of_mem _ hc), c, rfl,
          letters c List.mem_cons_self⟩
      · cases e
  | number part read =>
    cases next : part.next? c with
    | some part' =>
      rw [Lexer.step?] at h
      dsimp only at h
      rw [next] at h
      cases h
      exact ⟨c, rfl, List.mem_append_left _ (mem_numberChars next)⟩
    | none =>
      rw [Lexer.step?] at h
      dsimp only at h
      rw [next] at h
      obtain ⟨-, e⟩ | ⟨-, e⟩ := ite_eq_iff.1 h
      · exact fits_begin? e quote
      · cases e
  | text _ => exact fits.elim
  | escape _ => exact fits.elim
  | unicode _ _ _ => exact fits.elim

theorem step?_word_eq_none {t : Token} {missing : List Char} {c : Char} (other : c ∉ missing) :
    Lexer.step? ⟨tokens, .word t missing⟩ c = none := by
  have apart : ∀ d ∈ missing, ¬ (c == d) = true := fun d hd same => other (eq_of_beq same ▸ hd)
  match missing with
  | [] => rfl
  | [d] => exact if_neg (apart d List.mem_cons_self)
  | d :: e :: r => exact if_neg (apart d List.mem_cons_self)

/-- A quote is only read where a string begins. -/
theorem Fits.step?_quote (fits : l.Fits last) (h : Lexer.step? l '"' = some l') :
    ∃ tokens, l' = ⟨tokens, .text []⟩ := by
  obtain ⟨tokens, mode⟩ := l
  cases mode with
  | between =>
    cases h
    exact ⟨_, rfl⟩
  | word t missing =>
    have other : '"' ∉ missing := fun quote => absurd (fits.2.1 _ quote) (by decide)
    rw [step?_word_eq_none other] at h
    cases h
  | number part read =>
    have next : part.next? '"' = none := by cases part <;> rfl
    rw [Lexer.step?] at h
    dsimp only at h
    rw [next] at h
    obtain ⟨-, e⟩ | ⟨-, e⟩ := ite_eq_iff.1 h
    · cases e
      exact ⟨_, rfl⟩
    · cases e
  | text _ => exact fits.elim
  | escape _ => exact fits.elim
  | unicode _ _ _ => exact fits.elim

/-- A string that is closed is read as a token or not at all, whatever stands behind it. -/
theorem read?_inside {inner : List Char} (inside : Inside inner) (tokens : List Token) :
    (∀ s, read? ⟨tokens, .text []⟩ (inner ++ '"' :: s) = none) ∨
      ∃ t, ∀ s, read? ⟨tokens, .text []⟩ (inner ++ '"' :: s) = read? ⟨t :: tokens, .between⟩ s := by
  by_cases quoted : ∃ us, Quoted inner us
  · obtain ⟨us, quoted⟩ := quoted
    exact .inr ⟨_, fun s => read?_quoted quoted [] ('"' :: s)⟩
  · refine .inl fun s => ?_
    cases h : read? ⟨tokens, .text []⟩ (inner ++ '"' :: s) with
    | none => rfl
    | some ts =>
      obtain ⟨inner', us, rest, quoted', cut, -⟩ := read?_text _ h
      obtain ⟨rfl, -⟩ := inside.append_inj (inside_of_quoted quoted') cut
      exact absurd ⟨us, quoted'⟩ quoted

/-- Behind code and closed strings the reader is known by their last character, unless they are not
read at all. -/
theorem Fits.read?_append {p : List Char} (outside : Outside p) (fits : l.Fits last) :
    (∀ s, l.read? (p ++ s) = none) ∨
      ∃ l' : Lexer, l'.Fits (p.getLast?.or last) ∧ ∀ s, l.read? (p ++ s) = l'.read? s := by
  induction outside generalizing l last with
  | nil => exact .inr ⟨l, fits, fun _ => rfl⟩
  | @code c p quote _ ih =>
    have read (s : List Char) : l.read? (c :: p ++ s) = (Lexer.step? l c).bind (·.read? (p ++ s)) :=
      read?_cons l c (p ++ s)
    cases step : Lexer.step? l c with
    | none => exact .inl fun s => by rw [read, step]; rfl
    | some l₁ =>
      simp only [step, Option.bind_some] at read
      rcases ih (fits.step? step quote) with fails | ⟨l', fits', behind⟩
      · exact .inl fun s => (read s).trans (fails s)
      · refine .inr ⟨l', ?_, fun s => (read s).trans (behind s)⟩
        rwa [← List.singleton_append, List.getLast?_append, Option.or_assoc]
  | @quoted inner p inside _ ih =>
    have read (s : List Char) : l.read? ('"' :: (inner ++ '"' :: p) ++ s) =
        (Lexer.step? l '"').bind (·.read? (inner ++ '"' :: (p ++ s))) := by
      rw [List.cons_append, List.append_assoc]
      exact read?_cons l '"' _
    cases step : Lexer.step? l '"' with
    | none => exact .inl fun s => by rw [read, step]; rfl
    | some l₁ =>
      obtain ⟨tokens, rfl⟩ := fits.step?_quote step
      simp only [step, Option.bind_some] at read
      rcases read?_inside inside tokens with fails | ⟨t, token⟩
      · exact .inl fun s => (read s).trans (fails (p ++ s))
      have closed : Fits (some '"') ⟨t :: tokens, .between⟩ := fits_between (by decide)
      rcases ih closed with fails | ⟨l', fits', behind⟩
      · exact .inl fun s => ((read s).trans (token (p ++ s))).trans (fails s)
      · refine .inr ⟨l', ?_, fun s => ((read s).trans (token (p ++ s))).trans (behind s)⟩
        have same : '"' :: (inner ++ '"' :: p) = '"' :: inner ++ ['"'] ++ p := by simp
        rwa [same, List.getLast?_append, List.getLast?_concat, Option.or_assoc]

/-! ## White space at a seam -/

theorem read?_number_broken (part : NumberPart) (read : List Char)
    (broken : ¬ part.complete = true) (ends : ∀ c ∈ s.head?, part.next? c = none) :
    read? ⟨tokens, .number part read⟩ s = none := by
  cases s with
  | nil =>
    show finish? ⟨tokens, .number part read⟩ = none
    rw [finish?]
    exact if_neg broken
  | cons c s =>
    rw [read?_cons, Lexer.step?]
    dsimp only
    rw [ends c rfl]
    dsimp only
    rw [if_neg broken]
    rfl

/-- In front of what belongs to no word and no number, a reader either stands between tokens or is
stuck. -/
theorem Fits.pause (fits : l.Fits last) :
    (∀ s : List Char, (∀ d ∈ s.head?, d ∉ wordChars) → l.read? s = none) ∨
      ∃ tokens, (∀ c ∈ last, c ∈ wordChars → ∃ t ∈ tokens.head?, t.isScalar = true) ∧
        ∀ s : List Char, (∀ d ∈ s.head?, d ∉ wordChars) →
          l.read? s = read? ⟨tokens, .between⟩ s := by
  obtain ⟨tokens, mode⟩ := l
  cases mode with
  | between => exact .inr ⟨tokens, fits, fun _ _ => rfl⟩
  | word t missing =>
    refine .inl fun s ends => ?_
    cases s with
    | nil => rfl
    | cons d s =>
      have other : d ∉ missing := fun hd => ends d rfl (fits.2.1 d hd)
      rw [read?_cons, step?_word_eq_none other]
      rfl
  | number part read =>
    have next {s : List Char} (ends : ∀ d ∈ s.head?, d ∉ wordChars) :
        ∀ d ∈ s.head?, part.next? d = none := by
      intro d hd
      by_contra continues
      obtain ⟨_, next⟩ := Option.ne_none_iff_exists'.1 continues
      exact ends d hd (List.mem_append_left _ (mem_numberChars next))
    by_cases complete : part.complete = true
    · exact .inr ⟨.number (String.ofList read.reverse) :: tokens, fun _ _ _ => ⟨_, rfl, rfl⟩,
        fun s ends => read?_number_end part read complete (next ends)⟩
    · exact .inl fun s ends => read?_number_broken part read complete (next ends)
  | text _ => exact fits.elim
  | escape _ => exact fits.elim
  | unicode _ _ _ => exact fits.elim

theorem head?_blank {w : List Char} (blank : Blank w) (some_ : w ≠ []) (s : List Char) :
    ∀ d ∈ (w ++ s).head?, d ∉ wordChars := by
  intro d hd
  rw [List.head?_append_of_ne_nil _ some_] at hd
  exact not_mem_wordChars_of_isSpace (blank d (List.mem_of_mem_head? hd))

/-- However much white space there is, it is read like one space. -/
theorem Fits.read?_blank (fits : l.Fits last) {w : List Char} (blank : Blank w) (some_ : w ≠ [])
    (s : List Char) : l.read? (w ++ s) = l.read? (' ' :: s) := by
  have space : Blank [' '] := .cons rfl .nil
  have ends := head?_blank blank some_ s
  have ends' := head?_blank space (List.cons_ne_nil _ _) s
  rcases fits.pause with stuck | ⟨tokens, -, between⟩
  · rw [stuck _ ends]
    exact (stuck _ ends').symm
  · rw [between _ ends, read?_spaces w s blank]
    exact ((between _ ends').trans (read?_spaces [' '] s space)).symm

/-- A space between two characters is not missed if one of them is in no word and no number. -/
theorem Fits.read?_space (fits : l.Fits last)
    (apart : ∀ c ∈ last, c ∈ wordChars → ∀ d ∈ s.head?, d ∉ wordChars) :
    l.read? (' ' :: s) = l.read? s := by
  have space : Blank [' '] := .cons rfl .nil
  by_cases word : ∃ c ∈ last, c ∈ wordChars
  · obtain ⟨c, hc, word⟩ := word
    have ends := apart c hc word
    have ends' := head?_blank space (List.cons_ne_nil _ _) s
    rcases fits.pause with stuck | ⟨tokens, -, between⟩
    · rw [stuck s ends]
      exact stuck _ ends'
    · rw [between s ends]
      exact (between _ ends').trans (read?_spaces [' '] s space)
  · -- the reader stands between tokens
    obtain ⟨tokens, mode⟩ := l
    cases mode with
    | between => exact read?_spaces [' '] s space
    | word _ _ => exact absurd fits.2.2 word
    | number _ _ => exact absurd fits word
    | text _ => exact fits.elim
    | escape _ => exact fits.elim
    | unicode _ _ _ => exact fits.elim

/-- With a space between two characters of words and numbers, nothing is left that could be the text
of a tree. -/
theorem Fits.ofTokens?_eq_none (fits : l.Fits last) {c d : Char} (hc : c ∈ last)
    (hd : d ∈ s.head?) (left : c ∈ wordChars) (right : d ∈ wordChars) :
    (l.read? (' ' :: s)).bind ofTokens? = none := by
  have space : Blank [' '] := .cons rfl .nil
  have ends := head?_blank space (List.cons_ne_nil _ _) s
  rcases fits.pause with stuck | ⟨tokens, scalar, between⟩
  · rw [show l.read? (' ' :: s) = none from stuck _ ends]
    rfl
  obtain ⟨t, ht, first⟩ := scalar c hc left
  obtain ⟨tokens, rfl⟩ : ∃ before, tokens = t :: before := by
    cases tokens with
    | nil => cases ht
    | cons u before => exact ⟨before, by rw [Option.some.inj ht]⟩
  have read : l.read? (' ' :: s) = read? ⟨t :: tokens, .between⟩ s :=
    (between _ ends).trans (read?_spaces [' '] s space)
  rw [read]
  cases h : read? ⟨t :: tokens, .between⟩ s with
  | none => rfl
  | some ts =>
    obtain ⟨ls, joined, rfl⟩ := exists_joined_of_read? s (t :: tokens) h
    rcases joined.head?_cases hd with space | ⟨u, hu, head⟩
    · exact absurd right (not_mem_wordChars_of_isSpace space)
    cases ls with
    | nil => cases hu
    | cons u' ls =>
      obtain rfl : u' = u := Option.some.inj hu
      rw [Option.bind_some, List.reverse_cons, List.append_assoc]
      exact ofTokens?_isScalar first (u'.spelled.isScalar head right)

end Lexer

end HttpScript.Json
