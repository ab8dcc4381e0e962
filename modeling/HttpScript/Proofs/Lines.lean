import HttpScript.Document.Line
import HttpScript.Record

/-!
# Laws of lines

Texts joined by a line end have the lines of the one and then those of the other, and the kind of a
line tells what the line is.

    lines (a ++ '\n' :: b) = lines a ++ lines b        when a does not end in CR    (lines_append)
    classify l = blank raw → raw = l ∧ isBlankText l                       (eq_of_classify_blank)

Names of declared variables are identifiers and therefore no array indexes, so that a record keeps
them in the order in which they were declared.
-/

namespace HttpScript

namespace Text

/-- Whether the character ends a line, by itself or with another one. -/
def isLineEnd (c : Char) : Bool := c == '\n' || c == '\r'

theorem toNat_of_isAlpha {c : Char} (h : c.isAlpha = true) :
    (65 ≤ c.toNat ∧ c.toNat ≤ 90) ∨ (97 ≤ c.toNat ∧ c.toNat ≤ 122) := by
  unfold Char.isAlpha Char.isUpper Char.isLower at h
  simp only [ge_iff_le, Bool.or_eq_true, Bool.and_eq_true, decide_eq_true_eq,
    UInt32.le_iff_toNat_le] at h
  exact h

/-! ## Splitting -/

theorem lines_cons_of_isLineEnd {c : Char} {r : List Char} (ends : isLineEnd c = true)
    (apart : c = '\r' → r.head? ≠ some '\n') : lines (c :: r) = [] :: lines r := by
  have not_pair : ∀ s, c = '\r' → r = '\n' :: s → False := by
    rintro s cr rfl
    exact apart cr rfl
  exact (lines.eq_3 c r not_pair).trans (if_pos ends)

theorem lines_cons_of_inside {c : Char} (inside : isLineEnd c = false) {r l : List Char}
    {ls : List (List Char)} (found : lines r = l :: ls) : lines (c :: r) = (c :: l) :: ls := by
  have not_pair : ∀ s, c = '\r' → r = '\n' :: s → False := by
    rintro s rfl
    cases inside
  rw [isLineEnd] at inside
  rw [lines.eq_3 c r not_pair, inside, if_neg Bool.false_ne_true, found]

theorem splitBy_ne_nil (sep : Char → Bool) (s : List Char) : splitBy sep s ≠ [] := by
  cases s with
  | nil => simp [splitBy]
  | cons c s =>
    rw [splitBy]
    split
    · simp
    · split <;> simp

theorem splitBy_cons_of_not_sep {sep : Char → Bool} {c : Char} (other : sep c = false)
    (s : List Char) :
    ∃ p ps, splitBy sep s = p :: ps ∧ splitBy sep (c :: s) = (c :: p) :: ps := by
  obtain ⟨p, ps, shape⟩ := List.exists_cons_of_ne_nil (splitBy_ne_nil sep s)
  refine ⟨p, ps, shape, ?_⟩
  rw [splitBy, other, if_neg Bool.false_ne_true, shape]

theorem lines_ne_nil (s : List Char) : lines s ≠ [] := by
  induction s using lines.induct with
  | case1 => exact List.cons_ne_nil _ _
  | case2 r _ => exact List.cons_ne_nil _ _
  | case3 c r not_pair ends _ =>
    rw [lines.eq_3 c r not_pair, if_pos ends]
    exact List.cons_ne_nil _ _
  | case4 c r not_pair inside empty ih => exact absurd empty ih
  | case5 c r not_pair inside l ls found _ =>
    rw [lines_cons_of_inside (Bool.eq_false_iff.2 inside) found]
    exact List.cons_ne_nil _ _

theorem getLast?_cons_of_eq (d : Char) {r : List Char} {c : Char} (h : r.getLast? = some c) :
    (d :: r).getLast? = some c := by
  rw [List.getLast?_cons, h]
  rfl

/-- A CR is not followed by an LF in front of a text, if it is not in the text. -/
theorem head?_append_ne {r b : List Char} (not_pair : ∀ s, r = '\n' :: s → False)
    (whole : r = [] → b.head? ≠ some '\n') : (r ++ b).head? ≠ some '\n' := by
  cases r with
  | nil => exact whole rfl
  | cons d r =>
    rintro ⟨⟩
    exact not_pair r rfl

/-- A text that begins with a line end, if it is not empty, begins with an empty line. -/
theorem lines_of_ends {b : List Char} (ends : ∀ c, b.head? = some c → isLineEnd c = true) :
    lines b = [] :: (lines b).tail := by
  induction b using lines.induct with
  | case1 => rfl
  | case2 r _ => rfl
  | case3 c r not_pair line_end _ =>
    rw [lines.eq_3 c r not_pair, if_pos line_end, List.tail_cons]
  | case4 c r _ inside _ _ => exact absurd (ends c rfl) inside
  | case5 c r _ inside _ _ _ _ => exact absurd (ends c rfl) inside

/-- A text that a line end follows keeps its lines. A CR at the end of the text would be one line
end together with an LF. -/
theorem lines_append_of_ends (a : List Char) {b : List Char}
    (ends : ∀ c, b.head? = some c → isLineEnd c = true)
    (whole : a.getLast? = some '\r' → b.head? ≠ some '\n') :
    lines (a ++ b) = lines a ++ (lines b).tail := by
  induction a using lines.induct with
  | case1 => exact lines_of_ends ends
  | case2 r ih =>
    show [] :: lines (r ++ b) = [] :: (lines r ++ (lines b).tail)
    rw [ih fun h => whole (getLast?_cons_of_eq _ (getLast?_cons_of_eq _ h))]
  | case3 c r not_pair line_end ih =>
    have apart : c = '\r' → (r ++ b).head? ≠ some '\n' := by
      rintro rfl
      refine head?_append_ne (fun s => not_pair s rfl) ?_
      rintro rfl
      exact whole rfl
    rw [List.cons_append, lines_cons_of_isLineEnd line_end apart, lines.eq_3 c r not_pair,
      if_pos line_end, ih fun h => whole (getLast?_cons_of_eq _ h)]
    rfl
  | case4 c r not_pair inside empty ih => exact absurd empty (lines_ne_nil r)
  | case5 c r not_pair inside l ls found ih =>
    have inside := Bool.eq_false_iff.2 inside
    have rest : lines (r ++ b) = l :: (ls ++ (lines b).tail) := by
      rw [ih fun h => whole (getLast?_cons_of_eq _ h), found]
      rfl
    rw [List.cons_append, lines_cons_of_inside inside rest, lines_cons_of_inside inside found]
    rfl

theorem lines_append (a b : List Char) (whole : a.getLast? ≠ some '\r') :
    lines (a ++ '\n' :: b) = lines a ++ lines b := by
  have ends : ∀ c, ('\n' :: b).head? = some c → isLineEnd c = true := by
    rintro c ⟨⟩
    rfl
  exact lines_append_of_ends a ends fun h => absurd h whole

theorem isLineEnd_eq_false {c : Char} (no_lf : c ≠ '\n') (no_cr : c ≠ '\r') :
    isLineEnd c = false := by
  rw [isLineEnd, beq_false_of_ne no_lf, beq_false_of_ne no_cr]
  rfl

/-- A text without line ends is one line. -/
theorem lines_of_line (s : List Char) (no_lf : '\n' ∉ s) (no_cr : '\r' ∉ s) :
    lines s = [s] := by
  induction s with
  | nil => rfl
  | cons c r ih =>
    obtain ⟨lf, no_lf⟩ := not_or.1 (mt List.mem_cons.2 no_lf)
    obtain ⟨cr, no_cr⟩ := not_or.1 (mt List.mem_cons.2 no_cr)
    exact lines_cons_of_inside (isLineEnd_eq_false (Ne.symm lf) (Ne.symm cr)) (ih no_lf no_cr)

end Text

namespace Line

open Text

/-! ## Kinds -/

theorem classify_of_delimiter (l : String) (marked : "###".toList <+: l.toList) :
    classify l = .delimiter := by
  rw [classify, if_pos (List.isPrefixOf_iff_prefix.2 marked)]

/-- The kinds of line. One that keeps what was written keeps all of it, and a text or request line
is not blank. -/
theorem classify_cases (l : String) :
    classify l = .delimiter ∨ (∃ n, classify l = .name n) ∨
    (∃ n v, declaration? l.toList = some (n, v) ∧
      classify l = .variable (String.ofList n) (String.ofList v)) ∨
    classify l = .comment ∨ (isBlankText l = true ∧ classify l = .blank l) ∨
    (isBlankText l = false ∧ ∃ m u, classify l = .request m u l) ∨
    (isBlankText l = false ∧ classify l = .text l) := by
  unfold classify
  dsimp only
  split
  · exact .inl rfl
  split
  · next n _ => exact .inr (.inl ⟨_, rfl⟩)
  split
  · next n v h => exact .inr (.inr (.inl ⟨n, v, h, rfl⟩))
  split
  · exact .inr (.inr (.inr (.inl rfl)))
  split
  · next h => exact .inr (.inr (.inr (.inr (.inl ⟨h, rfl⟩))))
  · next h =>
    have filled : isBlankText l = false := Bool.eq_false_iff.2 h
    split
    · exact .inr (.inr (.inr (.inr (.inr (.inl ⟨filled, _, _, rfl⟩)))))
    · exact .inr (.inr (.inr (.inr (.inr (.inr ⟨filled, rfl⟩)))))

theorem eq_of_classify_blank (l raw : String) (h : classify l = .blank raw) :
    raw = l ∧ isBlankText l = true := by
  rcases classify_cases l with c | ⟨_, c⟩ | ⟨_, _, _, c⟩ | c | ⟨b, c⟩ | ⟨_, _, _, c⟩ | ⟨_, c⟩ <;>
    rw [c] at h <;> cases h
  exact ⟨rfl, b⟩

theorem eq_of_classify_request (l m u raw : String) (h : classify l = .request m u raw) :
    raw = l ∧ isBlankText l = false := by
  rcases classify_cases l with c | ⟨_, c⟩ | ⟨_, _, _, c⟩ | c | ⟨_, c⟩ | ⟨b, _, _, c⟩ | ⟨_, c⟩ <;>
    rw [c] at h <;> cases h
  exact ⟨rfl, b⟩

theorem eq_of_classify_text (l raw : String) (h : classify l = .text raw) :
    raw = l ∧ isBlankText l = false := by
  rcases classify_cases l with c | ⟨_, c⟩ | ⟨_, _, _, c⟩ | c | ⟨_, c⟩ | ⟨_, _, _, c⟩ | ⟨b, c⟩ <;>
    rw [c] at h <;> cases h
  exact ⟨rfl, b⟩

/-! ## Names of variables -/

theorem isIdent_of_declaration? (s n v : List Char) (h : declaration? s = some (n, v)) :
    isIdent n = true := by
  unfold declaration? at h
  split at h
  · next s =>
    dsimp only at h
    split at h
    · cases h
    · next ident =>
      split at h
      · obtain ⟨w, -, hw⟩ := Option.map_eq_some_iff.1 h
        obtain ⟨rfl, -⟩ := Prod.mk.inj hw
        rwa [Bool.not_eq_true', Bool.not_eq_false] at ident
      · cases h
  · cases h

theorem isDigit_eq_false_of_isIdentStart (c : Char) (h : isIdentStart c = true) :
    c.isDigit = false := by
  rw [Bool.eq_false_iff]
  intro digit
  have range : 48 ≤ c.toNat ∧ c.toNat ≤ 57 := Char.isDigit_iff_toNat.1 digit
  unfold isIdentStart at h
  rcases (Bool.or_eq_true _ _).mp h with letter | underscore
  · have := toNat_of_isAlpha letter
    omega
  · rw [eq_of_beq underscore] at range
    exact absurd range (by decide)

/-- An identifier begins with no digit, so it is no array index. -/
theorem index?_of_isIdent (n : List Char) (h : isIdent n = true) :
    Record.index? (String.ofList n) = none := by
  cases n with
  | nil => cases h
  | cons c r =>
    have start : isIdentStart c = true := ((Bool.and_eq_true _ _).mp h).1
    have nondigit := isDigit_eq_false_of_isIdentStart c start
    have nonzero : c ≠ '0' := by
      rintro rfl
      cases nondigit
    unfold Record.index?
    rw [String.toList_ofList]
    split
    · next eq =>
      obtain ⟨rfl, -⟩ := List.cons.inj eq
      exact absurd rfl nonzero
    · next d s _ eq =>
      obtain ⟨rfl, -⟩ := List.cons.inj eq
      rw [nondigit, Bool.false_and, Bool.false_and, if_neg Bool.false_ne_true]
    · rfl

theorem index?_of_classify_variable (l n v : String) (h : classify l = .variable n v) :
    Record.index? n = none := by
  rcases classify_cases l with c | ⟨_, c⟩ | ⟨_, _, d, c⟩ | c | ⟨_, c⟩ | ⟨_, _, _, c⟩ | ⟨_, c⟩ <;>
    rw [c] at h <;> cases h
  exact index?_of_isIdent _ (isIdent_of_declaration? _ _ _ d)

end Line

end HttpScript
