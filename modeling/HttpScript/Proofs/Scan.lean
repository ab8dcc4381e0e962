import HttpScript.Text.Scan
import Mathlib.Data.List.Basic
import Mathlib.Data.List.TakeWhile

/-!
# Scans lose nothing

The pieces of a scan, joined in order, are the text that was scanned, and every found piece is an
occurrence of the pattern at the place where it stands.

    (scan pattern s).flatMap Piece.chars = s                                   (chars_scan)
    .found value raw ∈ scan pattern s → raw is what the pattern covers         (found_of_mem_scan)

No occurrence begins in the text between. This tells a scan from any other way to cut the text.

    scan pattern s = ps ↔ ps.flatMap Piece.chars = s ∧ Laid pattern ps         (scan_eq_iff)
-/

namespace HttpScript.Text

theorem takeWhile_dropWhile_of_stop {p : Char → Bool} {xs : List Char} (all : ∀ c ∈ xs, p c = true)
    (c : Char) (rest : List Char) (stop : p c = false) :
    (xs ++ c :: rest).takeWhile p = xs ∧ (xs ++ c :: rest).dropWhile p = c :: rest := by
  constructor
  · rw [List.takeWhile_append_of_pos all]
    simp [stop]
  · rw [List.dropWhile_append_of_pos all]
    simp [stop]

variable {α : Type} (pattern : List Char → Option (α × Nat))

theorem chars_flushText (pending : List Char) :
    (flushText pending : List (Piece α)).flatMap Piece.chars = pending.reverse := by
  unfold flushText
  cases pending with
  | nil => rfl
  | cons c r => simp [Piece.chars]

/-- The pieces cover the text since the last occurrence and all that follows it. -/
theorem chars_scanFrom (skip : Nat) (pending s : List Char) :
    (scanFrom pattern skip pending s).flatMap Piece.chars = pending.reverse ++ s.drop skip := by
  induction s generalizing skip pending with
  | nil => simp [scanFrom, chars_flushText]
  | cons c s ih =>
    cases skip with
    | succ skip => rw [scanFrom, ih, List.drop_succ_cons]
    | zero =>
      rw [scanFrom]
      split
      · next value more _ =>
        rw [List.flatMap_append, chars_flushText, List.flatMap_cons, ih, Piece.chars]
        simp
      · rw [ih]
        simp

/-- The pieces of a scan, joined in order, are the text that was scanned. -/
theorem chars_scan (s : List Char) : (scan pattern s).flatMap Piece.chars = s := by
  unfold scan
  rw [chars_scanFrom]
  rfl

theorem not_mem_flushText (pending : List Char) (value : α) (raw : List Char) :
    Piece.found value raw ∉ (flushText pending : List (Piece α)) := by
  unfold flushText
  split <;> simp

theorem found_of_mem_scanFrom (skip : Nat) (pending s : List Char) (value : α) (raw : List Char)
    (h : .found value raw ∈ scanFrom pattern skip pending s) :
    ∃ c r more, pattern (c :: r) = some (value, more) ∧ raw = c :: r.take more := by
  induction s generalizing skip pending with
  | nil => exact absurd h (not_mem_flushText pending value raw)
  | cons c s ih =>
    cases skip with
    | succ skip => exact ih skip pending h
    | zero =>
      rw [scanFrom] at h
      split at h
      · next value' more hp =>
        rcases List.mem_append.mp h with h | h
        · exact absurd h (not_mem_flushText pending value raw)
        · rcases List.mem_cons.mp h with h | h
          · obtain ⟨rfl, rfl⟩ := Piece.found.inj h
            exact ⟨c, s, more, hp, rfl⟩
          · exact ih more [] h
      · exact ih 0 (c :: pending) h

/-- Every found piece is an occurrence of the pattern. -/
theorem found_of_mem_scan (s : List Char) (value : α) (raw : List Char)
    (h : .found value raw ∈ scan pattern s) :
    ∃ c r more, pattern (c :: r) = some (value, more) ∧ raw = c :: r.take more :=
  found_of_mem_scanFrom pattern 0 [] s value raw h

/-! ## Replacing what was found -/

section Replace

variable (f : α → Option (List Char)) (ps qs : List (Piece α))

@[simp] theorem replaceFound_nil : replaceFound f ([] : List (Piece α)) = [] := rfl

@[simp] theorem replaceFound_text (u : List Char) :
    replaceFound f (.text u :: ps) = u ++ replaceFound f ps := rfl

@[simp] theorem replaceFound_found (value : α) (raw : List Char) :
    replaceFound f (.found value raw :: ps) = (f value).getD raw ++ replaceFound f ps := rfl

theorem replaceFound_append : replaceFound f (ps ++ qs) = replaceFound f ps ++ replaceFound f qs :=
  List.flatMap_append

theorem replaceFound_flushText (pending : List Char) :
    replaceFound f (flushText pending) = pending.reverse := by
  cases pending <;> simp [flushText]

end Replace

/-! ## Replacing with a state -/

section ReplaceIn

variable {σ : Type} (f : σ → α → Option (List Char) × σ) {ps : List (Piece α)}

/-- Where no replacement changes the state, all of them are made in it. -/
theorem replaceFoundIn_of_stays (s : σ)
    (stays : ∀ value raw, .found value raw ∈ ps → (f s value).2 = s) :
    replaceFoundIn f s ps = (replaceFound (fun value => (f s value).1) ps, s) := by
  induction ps with
  | nil => rfl
  | cons p ps ih =>
    have rest := ih fun value raw h => stays value raw (List.mem_cons_of_mem _ h)
    cases p with
    | text cs =>
      rw [replaceFoundIn, rest]
      rfl
    | found value raw =>
      have here := stays value raw List.mem_cons_self
      rw [replaceFoundIn]
      dsimp only
      rw [here, rest]
      rfl

/-- What no replacement breaks holds in the end. -/
theorem replaceFoundIn_invariant (P : σ → Prop)
    (keeps : ∀ value raw, .found value raw ∈ ps → ∀ s, P s → P (f s value).2) (s : σ)
    (start : P s) : P (replaceFoundIn f s ps).2 := by
  induction ps generalizing s with
  | nil => exact start
  | cons p ps ih =>
    have rest := ih fun value raw h => keeps value raw (List.mem_cons_of_mem _ h)
    cases p with
    | text cs => exact rest s start
    | found value raw => exact rest _ (keeps value raw List.mem_cons_self s start)

/-- From states that are related, replacements that agree on related states give the same text and
states that are related again. -/
theorem replaceFoundIn_related (R : σ → σ → Prop)
    (agree : ∀ value raw, .found value raw ∈ ps → ∀ s s', R s s' →
      (f s value).1 = (f s' value).1 ∧ R (f s value).2 (f s' value).2) (s s' : σ) (start : R s s') :
    (replaceFoundIn f s ps).1 = (replaceFoundIn f s' ps).1 ∧
      R (replaceFoundIn f s ps).2 (replaceFoundIn f s' ps).2 := by
  induction ps generalizing s s' with
  | nil => exact ⟨rfl, start⟩
  | cons p ps ih =>
    have rest := ih fun value raw h => agree value raw (List.mem_cons_of_mem _ h)
    cases p with
    | text cs =>
      obtain ⟨same, related⟩ := rest s s' start
      exact ⟨congrArg (cs ++ ·) same, related⟩
    | found value raw =>
      obtain ⟨new, next⟩ := agree value raw List.mem_cons_self s s' start
      obtain ⟨same, related⟩ := rest _ _ next
      refine ⟨?_, related⟩
      rw [replaceFoundIn, replaceFoundIn]
      dsimp only
      rw [new, same]

end ReplaceIn

/-! ## Leftmost occurrences -/

/-- No occurrence begins in `u` when `rest` stands behind it. -/
def Quiet (u rest : List Char) : Prop := ∀ v, v <:+ u → v ≠ [] → pattern (v ++ rest) = none

/-- Pieces that no scan would cut differently: every occurrence stands in a piece of its own, and
none begins in the text between. -/
inductive Laid : List (Piece α) → Prop where
  | nil : Laid []
  | text {u : List Char} {ps : List (Piece α)} (filled : u ≠ [])
      (apart : ∀ v, ps.head? ≠ some (.text v)) (quiet : Quiet pattern u (ps.flatMap Piece.chars))
      (rest : Laid ps) : Laid (.text u :: ps)
  | found {value : α} {raw : List Char} {more : Nat} {ps : List (Piece α)}
      (occurs : pattern (raw ++ ps.flatMap Piece.chars) = some (value, more))
      (whole : raw.length = more + 1) (rest : Laid ps) : Laid (.found value raw :: ps)

variable {pattern} in
theorem Laid.of_append {xs ys : List (Piece α)} (laid : Laid pattern (xs ++ ys)) :
    Laid pattern ys := by
  induction xs with
  | nil => exact laid
  | cons x xs ih => cases laid with
    | text _ _ _ rest => exact ih rest
    | found _ _ rest => exact ih rest

theorem scanFrom_skip (skip : Nat) (pending s : List Char) :
    scanFrom pattern skip pending s = scanFrom pattern 0 pending (s.drop skip) := by
  induction skip generalizing s with
  | zero => rfl
  | succ skip ih =>
    cases s with
    | nil => rfl
    | cons c s => exact ih s

theorem scanFrom_quiet (pending u rest : List Char) (quiet : Quiet pattern u rest) :
    scanFrom pattern 0 pending (u ++ rest) = scanFrom pattern 0 (u.reverse ++ pending) rest := by
  induction u generalizing pending with
  | nil => rfl
  | cons c u ih =>
    have here : pattern (c :: (u ++ rest)) = none := quiet (c :: u) List.suffix_rfl (by simp)
    rw [List.cons_append, scanFrom, here]
    dsimp only
    rw [ih (c :: pending) fun v hv => quiet v (hv.trans (List.suffix_cons c u)),
      List.reverse_cons, List.append_assoc]
    rfl

theorem scanFrom_found (pending raw rest : List Char) (value : α) (more : Nat)
    (occurs : pattern (raw ++ rest) = some (value, more)) (whole : raw.length = more + 1) :
    scanFrom pattern 0 pending (raw ++ rest) =
      flushText pending ++ .found value raw :: scan pattern rest := by
  cases raw with
  | nil => cases whole
  | cons c raw =>
    obtain rfl : raw.length = more := Nat.succ.inj whole
    rw [List.cons_append, scanFrom]
    rw [List.cons_append] at occurs
    rw [occurs]
    dsimp only
    rw [scanFrom_skip, List.take_left, List.drop_left, scan]

theorem flushText_of_ne_nil (u : List Char) (filled : u ≠ []) :
    (flushText u.reverse : List (Piece α)) = [.text u] := by
  rw [flushText, if_neg (by simpa using filled), List.reverse_reverse]

theorem scan_of_laid (ps : List (Piece α)) (laid : Laid pattern ps) :
    scan pattern (ps.flatMap Piece.chars) = ps := by
  induction laid with
  | nil => rfl
  | @text u ps filled apart quiet rest ih =>
    rw [List.flatMap_cons, scan]
    show scanFrom pattern 0 [] (u ++ _) = _
    rw [scanFrom_quiet _ _ _ _ quiet, List.append_nil]
    -- an occurrence or the end of the text follows
    cases rest with
    | nil => exact flushText_of_ne_nil u filled
    | text => exact absurd rfl (apart _)
    | found occurs whole _ =>
      rw [List.flatMap_cons] at ih ⊢
      rw [Piece.chars, scan, scanFrom_found _ _ _ _ _ _ occurs whole] at ih
      rw [Piece.chars, scanFrom_found _ _ _ _ _ _ occurs whole, flushText_of_ne_nil u filled]
      exact congrArg _ ih
  | @found value raw more ps occurs whole rest ih =>
    rw [List.flatMap_cons, scan]
    show scanFrom pattern 0 [] (raw ++ _) = _
    rw [scanFrom_found _ _ _ _ _ _ occurs whole, ih]
    rfl

/-- Text in front of pieces. -/
theorem laid_flushText_append (u : List Char) (ps : List (Piece α))
    (quiet : Quiet pattern u (ps.flatMap Piece.chars)) (apart : ∀ v, ps.head? ≠ some (.text v))
    (laid : Laid pattern ps) : Laid pattern (flushText u.reverse ++ ps) := by
  cases u with
  | nil => exact laid
  | cons c u =>
    rw [flushText_of_ne_nil _ (by simp)]
    exact .text (by simp) apart quiet laid

/-- The occurrences of a pattern are no longer than the text. -/
def Fits : Prop := ∀ c s value more, pattern (c :: s) = some (value, more) → more ≤ s.length

theorem laid_scanFrom (fits : Fits pattern) (u s : List Char) (quiet : Quiet pattern u s) :
    Laid pattern (scanFrom pattern 0 u.reverse s) := by
  induction hn : s.length using Nat.strong_induction_on generalizing u s with
  | _ n ih =>
    cases s with
    | nil =>
      rw [scanFrom, ← List.append_nil (flushText _)]
      exact laid_flushText_append pattern u [] quiet (fun _ => nofun) .nil
    | cons c s =>
      rw [scanFrom]
      cases occurs : pattern (c :: s) with
      | none =>
        dsimp only
        have longer : Quiet pattern (u ++ [c]) s := by
          intro v hv filled
          rcases List.suffix_concat_iff.1 hv with rfl | ⟨w, rfl, hw⟩
          · exact absurd rfl filled
          · rw [List.append_assoc]
            cases w with
            | nil => exact occurs
            | cons d w => exact quiet (d :: w) hw (by simp)
        have := ih s.length (by rw [← hn]; simp) (u ++ [c]) s longer rfl
        rwa [List.reverse_append] at this
      | some hit =>
        obtain ⟨value, more⟩ := hit
        dsimp only
        have raw : (c :: s.take more).length = more + 1 := by
          rw [List.length_cons, List.length_take_of_le (fits _ _ _ _ occurs)]
        have back : (scanFrom pattern more [] s).flatMap Piece.chars = s.drop more :=
          chars_scanFrom pattern more [] s
        have rest : Laid pattern (scanFrom pattern more [] s) := by
          rw [scanFrom_skip]
          refine ih (s.drop more).length ?_ [] _ ?_ rfl
          · rw [← hn, List.length_drop, List.length_cons]
            omega
          · intro v hv filled
            exact absurd (List.suffix_nil.1 hv) filled
        have whole : (c :: s.take more) ++ (scanFrom pattern more [] s).flatMap Piece.chars =
            c :: s := by rw [back, List.cons_append, List.take_append_drop]
        have here : pattern ((c :: s.take more) ++
            (scanFrom pattern more [] s).flatMap Piece.chars) = some (value, more) := by
          rw [whole]
          exact occurs
        refine laid_flushText_append pattern u _ ?_ (fun _ => nofun) (.found here raw rest)
        rw [List.flatMap_cons]
        show Quiet pattern u ((c :: s.take more) ++ _)
        rw [whole]
        exact quiet

/-- A scan cuts a text at the successive leftmost occurrences, and there is no other such cut. -/
theorem scan_eq_iff (fits : Fits pattern) (s : List Char) (ps : List (Piece α)) :
    scan pattern s = ps ↔ ps.flatMap Piece.chars = s ∧ Laid pattern ps := by
  constructor
  · rintro rfl
    refine ⟨chars_scan pattern s, laid_scanFrom pattern fits [] s ?_⟩
    intro v hv filled
    exact absurd (List.suffix_nil.1 hv) filled
  · rintro ⟨rfl, laid⟩
    exact scan_of_laid pattern ps laid

end HttpScript.Text
