import HttpScript.Proofs.Placeholder
import Mathlib.Data.List.Chain

/-!
# The parts of a template

The parts of a template are what a search from the left for two opening braces, one or more
characters other than a closing brace, and two closing braces cuts its text into. `IsSplit` says
what this means for a list of parts, and there is only one such list:

    parts s = ps ↔ IsSplit s ps                                                 (parts_eq_iff)

Braces that only look like a placeholder, as in `{{}` and `{{a}b}}`, are literal text.
-/

namespace HttpScript.Template

open Text (Piece Laid Quiet)

/-! ## Occurrences -/

/-- A placeholder with the expression `e` begins at the place `i` of a text. -/
def OccursAt (s : List Char) (i : Nat) (e : List Char) : Prop :=
  e ≠ [] ∧ '}' ∉ e ∧ bracketed e <+: s.drop i

/-- The successive leftmost placeholders of a text from the place `k` on, each with its place. Each
one is the first that begins behind the one before it. -/
inductive Successive (s : List Char) : (k : Nat) → List (Nat × List Char) → Prop where
  | done {k : Nat} (free : ∀ j e, k ≤ j → ¬ OccursAt s j e) : Successive s k []
  | next {k i : Nat} {e : List Char} {others : List (Nat × List Char)} (here : OccursAt s i e)
      (behind : k ≤ i) (first : ∀ j e', k ≤ j → j < i → ¬ OccursAt s j e')
      (rest : Successive s (i + (bracketed e).length) others) : Successive s k ((i, e) :: others)

theorem occursAt_iff (s : List Char) (i : Nat) (e : List Char) :
    OccursAt s i e ↔ placeholderAt? (s.drop i) = some (e, e.length + 3) := by
  rw [placeholderAt?_eq_some_iff]
  constructor
  · rintro ⟨filled, closed, rest, shape⟩
    exact ⟨⟨rest, shape.symm⟩, closed, filled, rfl⟩
  · rintro ⟨⟨rest, shape⟩, closed, filled, -⟩
    exact ⟨filled, closed, rest, shape.symm⟩

theorem not_occursAt_of_none {s : List Char} {i : Nat} (none : placeholderAt? (s.drop i) = none)
    (e : List Char) : ¬ OccursAt s i e := by
  rw [occursAt_iff, none]
  exact nofun

theorem fits_placeholderAt? : Text.Fits placeholderAt? := by
  intro c s e more found
  obtain ⟨⟨rest, shape⟩, -, -, rfl⟩ := (placeholderAt?_eq_some_iff _ _ _).1 found
  have := congrArg List.length shape
  simp only [bracketed, List.cons_append, List.length_cons, List.length_append] at this
  omega

theorem eq_bracketed {raw rest e : List Char} {more : Nat}
    (occurs : placeholderAt? (raw ++ rest) = some (e, more)) (whole : raw.length = more + 1) :
    raw = bracketed e ∧ e ≠ [] ∧ '}' ∉ e := by
  obtain ⟨⟨behind, shape⟩, closed, filled, rfl⟩ := (placeholderAt?_eq_some_iff _ _ _).1 occurs
  refine ⟨List.append_inj_left shape ?_, filled, closed⟩
  rw [whole]
  simp [bracketed]

/-- Places without an occurrence may be passed over. -/
theorem Successive.of_free {s : List Char} {k l : Nat} {placeholders : List (Nat × List Char)}
    (before : k ≤ l) (free : ∀ j e, k ≤ j → j < l → ¬ OccursAt s j e)
    (successive : Successive s l placeholders) : Successive s k placeholders := by
  have earlier : ∀ (i : Nat), (∀ j e, l ≤ j → j < i → ¬ OccursAt s j e) →
      ∀ j e, k ≤ j → j < i → ¬ OccursAt s j e := by
    intro i first j e hk hi
    by_cases h : j < l
    · exact free j e hk h
    · exact first j e (Nat.not_lt.1 h) hi
  cases successive with
  | done none =>
    exact .done fun j e hk => earlier (j + 1) (fun j e hl _ => none j e hl) j e hk j.lt_succ_self
  | next here behind first rest => exact .next here (before.trans behind) (earlier _ first) rest

/-! ## Parts -/

namespace Part

/-- The text of a part as it stands in the template. -/
def source : Part → String
  | text v => v
  | placeholder _ raw => raw

def isText : Part → Bool
  | text _ => true
  | placeholder _ _ => false

/-- The piece of a part. -/
def piece : Part → Piece (List Char)
  | text v => .text v.toList
  | placeholder e raw => .found e.toList raw.toList

theorem ofPiece_piece (p : Part) : ofPiece p.piece = p := by
  cases p <;> simp [piece, ofPiece]

theorem piece_ofPiece (p : Piece (List Char)) : (ofPiece p).piece = p := by
  cases p <;> simp [piece, ofPiece]

theorem chars_piece (p : Part) : p.piece.chars = p.source.toList := by
  cases p <;> rfl

end Part

/-- The text of parts, one behind the other. -/
def source (ps : List Part) : String := String.join (ps.map Part.source)

/-- The placeholders among parts that begin at the place `i`, each with its place. -/
def placed : (i : Nat) → List Part → List (Nat × List Char)
  | _, [] => []
  | i, .text v :: ps => placed (i + v.length) ps
  | i, .placeholder e raw :: ps => (i, e.toList) :: placed (i + raw.length) ps

/-- The parts of a text. -/
structure IsSplit (s : String) (ps : List Part) : Prop where
  joined : source ps = s
  /-- A placeholder is its expression between braces. -/
  braced : ∀ e raw, .placeholder e raw ∈ ps →
    raw = "\x7b\x7b" ++ e ++ "\x7d\x7d" ∧ e ≠ "" ∧ '}' ∉ e.toList
  filled : .text "" ∉ ps
  apart : ps.IsChain fun p q => ¬ (p.isText = true ∧ q.isText = true)
  leftmost : Successive s.toList 0 (placed 0 ps)
  /-- No placeholder begins in a literal text, wherever it may end. -/
  literal : ∀ before v after, ps = before ++ .text v :: after →
    ∀ i < v.length, ∀ e, ¬ OccursAt s.toList ((source before).length + i) e

theorem toList_source (ps : List Part) :
    (source ps).toList = (ps.map Part.piece).flatMap Piece.chars := by
  rw [source, String.toList_join, List.flatMap_map, List.flatMap_map]
  exact List.flatMap_congr fun p _ => p.chars_piece.symm

theorem source_append (ps qs : List Part) : source (ps ++ qs) = source ps ++ source qs := by
  rw [← String.toList_inj, String.toList_append, toList_source, toList_source, toList_source,
    List.map_append, List.flatMap_append]

theorem parts_eq_iff_scan (s : String) (ps : List Part) :
    parts s = ps ↔ Text.scan placeholderAt? s.toList = ps.map Part.piece := by
  rw [parts, pieces_eq_scan]
  constructor
  · rintro rfl
    rw [List.map_map]
    conv_lhs => rw [← List.map_id (Text.scan _ _)]
    exact List.map_congr_left fun p _ => (Part.piece_ofPiece p).symm
  · intro same
    rw [same, List.map_map]
    conv_rhs => rw [← List.map_id ps]
    exact List.map_congr_left fun p _ => p.ofPiece_piece

/-! ## Laid parts are split -/

section Laid

variable {ps : List Part}

theorem braced_of_laid (laid : Laid placeholderAt? (ps.map Part.piece)) (e raw : String)
    (h : .placeholder e raw ∈ ps) :
    raw = "\x7b\x7b" ++ e ++ "\x7d\x7d" ∧ e ≠ "" ∧ '}' ∉ e.toList := by
  obtain ⟨before, after, rfl⟩ := List.append_of_mem h
  rw [List.map_append] at laid
  cases laid.of_append with
  | found occurs whole _ =>
    obtain ⟨shape, filled, closed⟩ := eq_bracketed occurs whole
    refine ⟨?_, by simpa using filled, closed⟩
    rw [← String.toList_inj, shape]
    simp [bracketed]

theorem filled_of_laid (laid : Laid placeholderAt? (ps.map Part.piece)) : .text "" ∉ ps := by
  intro h
  obtain ⟨before, after, rfl⟩ := List.append_of_mem h
  rw [List.map_append] at laid
  cases laid.of_append with
  | text filled _ _ _ => exact filled rfl

theorem apart_of_laid (laid : Laid placeholderAt? (ps.map Part.piece)) :
    ps.IsChain fun p q => ¬ (p.isText = true ∧ q.isText = true) := by
  induction ps with
  | nil => exact .nil
  | cons p ps ih =>
    rw [List.isChain_cons]
    cases p with
    | text v => cases laid with
      | text _ apart _ rest =>
        refine ⟨fun q hq => ?_, ih rest⟩
        rintro ⟨-, text⟩
        cases q with
        | text w => exact apart w.toList (by rw [List.head?_map, hq]; rfl)
        | placeholder _ _ => cases text
    | placeholder e raw => cases laid with
      | found _ _ rest => exact ⟨fun _ _ both => Bool.false_ne_true both.1, ih rest⟩

/-- The rest of a text from a place in a literal part on is no placeholder. -/
theorem none_of_quiet {before u rest : List Char} (quiet : Quiet placeholderAt? u rest) (i : Nat)
    (inside : i < u.length) :
    placeholderAt? ((before ++ (u ++ rest)).drop (before.length + i)) = none := by
  rw [List.drop_length_add_append, List.drop_append_of_le_length (Nat.le_of_lt inside)]
  exact quiet _ (List.drop_suffix i u) (by simpa using inside)

theorem successive_of_laid (laid : Laid placeholderAt? (ps.map Part.piece)) (before : List Char) :
    Successive (before ++ (source ps).toList) before.length (placed before.length ps) := by
  induction ps generalizing before with
  | nil =>
    refine .done fun j e hj => not_occursAt_of_none ?_ e
    rw [List.drop_of_length_le (by simpa [source] using hj)]
    rfl
  | cons p ps ih =>
    have tail := toList_source ps
    rw [toList_source, List.map_cons, List.flatMap_cons, ← tail]
    cases p with
    | text v => cases laid with
      | text _ _ quiet rest =>
        rw [← tail] at quiet
        have later := ih rest (before ++ v.toList)
        rw [List.length_append, String.length_toList, List.append_assoc] at later
        refine later.of_free (Nat.le_add_right _ _) fun j e hj inside => ?_
        obtain ⟨i, rfl⟩ := Nat.exists_eq_add_of_le hj
        refine not_occursAt_of_none (none_of_quiet quiet i ?_) e
        rw [String.length_toList]
        exact Nat.lt_of_add_lt_add_left inside
    | placeholder e raw => cases laid with
      | found occurs whole rest =>
        obtain ⟨shape, filled, closed⟩ := eq_bracketed occurs whole
        have later := ih rest (before ++ raw.toList)
        rw [List.length_append, List.append_assoc] at later
        refine .next ⟨filled, closed, ?_⟩ (Nat.le_refl _) (fun j e' hj inside => by omega) ?_
        · rw [List.drop_left]
          exact ⟨_, by rw [← shape]; rfl⟩
        · rw [← shape]
          rwa [String.length_toList] at later ⊢

theorem isSplit_of_laid (laid : Laid placeholderAt? (ps.map Part.piece)) :
    IsSplit (source ps) ps where
  joined := rfl
  braced := braced_of_laid laid
  filled := filled_of_laid laid
  apart := apart_of_laid laid
  leftmost := successive_of_laid laid []
  literal := by
    rintro before v after rfl i inside e
    rw [List.map_append] at laid
    cases laid.of_append with
    | text _ _ quiet _ =>
      rw [← toList_source] at quiet
      rw [source_append, String.toList_append, toList_source (.text v :: after), List.map_cons,
        List.flatMap_cons, ← toList_source, ← String.length_toList]
      refine not_occursAt_of_none (none_of_quiet quiet i ?_) e
      rwa [String.length_toList]

end Laid

/-! ## Split parts are laid -/

theorem laid_of_isSplit (s : String) (before ps : List Part) (split : IsSplit s (before ++ ps)) :
    Laid placeholderAt? (ps.map Part.piece) := by
  induction ps generalizing before with
  | nil => exact .nil
  | cons p ps ih =>
    have rest := ih (before ++ [p]) (by rwa [List.append_assoc])
    cases p with
    | text v =>
      refine .text ?filled ?apart ?quiet rest
      case filled =>
        intro none
        obtain rfl : v = "" := by simpa using none
        exact split.filled (by simp)
      case apart =>
        intro w hw
        have chain := (List.isChain_append.1 split.apart).2.1
        rw [List.head?_map, Option.map_eq_some_iff] at hw
        obtain ⟨q, hq, text⟩ := hw
        cases q with
        | text w' => exact (List.isChain_cons.1 chain).1 _ hq ⟨rfl, rfl⟩
        | placeholder _ _ => cases text
      case quiet =>
        rintro w ⟨a, shape⟩ filled
        rw [← toList_source]
        by_contra found
        obtain ⟨⟨e, more⟩, found⟩ := Option.ne_none_iff_exists'.1 found
        obtain ⟨⟨behind, front⟩, closed, nonempty, -⟩ := (placeholderAt?_eq_some_iff _ _ _).1 found
        have inside : a.length < v.length := by
          rw [← String.length_toList, ← shape, List.length_append]
          have := List.length_pos_iff.2 filled
          omega
        refine split.literal before v ps rfl a.length inside e ⟨nonempty, closed, behind, ?_⟩
        rw [← split.joined, source_append, String.toList_append, ← String.length_toList,
          List.drop_length_add_append, toList_source (.text v :: ps), List.map_cons,
          List.flatMap_cons, ← toList_source]
        show _ = (v.toList ++ _).drop _
        rw [← shape, List.append_assoc, List.drop_left, front]
    | placeholder e raw =>
      obtain ⟨shape, filled, closed⟩ := split.braced e raw (by simp)
      have braces : raw.toList = bracketed e.toList := by simp [shape, bracketed]
      have occurs : placeholderAt?
          (raw.toList ++ (ps.map Part.piece).flatMap Text.Piece.chars) =
            some (e.toList, e.toList.length + 3) := by
        rw [placeholderAt?_eq_some_iff, braces]
        exact ⟨⟨_, rfl⟩, closed, by simpa using filled, rfl⟩
      exact .found occurs (by rw [braces]; simp [bracketed]) rest

/-- The parts of a text are the texts and placeholders that a search from the left cuts it into. -/
theorem parts_eq_iff (s : String) (ps : List Part) : parts s = ps ↔ IsSplit s ps := by
  rw [parts_eq_iff_scan, Text.scan_eq_iff _ fits_placeholderAt?, ← toList_source, String.toList_inj]
  constructor
  · rintro ⟨rfl, laid⟩
    exact isSplit_of_laid laid
  · intro split
    exact ⟨split.joined, laid_of_isSplit s [] ps split⟩

example : parts "{{a}b}{{x}}{{}}" =
    [.text "{{a}b}", .placeholder "x" "{{x}}", .text "{{}}"] := by decide +kernel

end HttpScript.Template
