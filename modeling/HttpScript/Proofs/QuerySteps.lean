import HttpScript.Proofs.PathAddresses
import HttpScript.Proofs.Scan
import HttpScript.Query

/-!
# Steps of a body path as a query

A body path of identifiers and indexes is also a query, behind `$` and, when it begins with a name,
a point. Cut into steps, the query has those of the path. Only an index that stands behind a point
is looked for among all descendants too, since the empty step between point and bracket means them.

    stepsOf (queryText p) = ((marks p).flatMap Mark.steps).map Step.text       (stepsOf_queryText)
-/

namespace HttpScript.Query

open Text (scan scanFrom replaceFound Piece Quiet flushText)

/-! ## Replacing -/

section Rewrite

variable (pattern : List Char → Option (List Char × Nat))

/-- The text `u` becomes `v` when `rest` stands behind it. -/
def Turns (u v rest : List Char) : Prop := rewrite pattern (u ++ rest) = v ++ rewrite pattern rest

theorem replaceFound_scanFrom {α : Type} (f : α → Option (List Char))
    (pattern : List Char → Option (α × Nat)) (pending s : List Char) :
    replaceFound f (scanFrom pattern 0 pending s) =
      pending.reverse ++ replaceFound f (scan pattern s) := by
  induction s generalizing pending with
  | nil => simp [scan, scanFrom, Text.replaceFound_flushText]
  | cons c s ih =>
    unfold scan
    rw [scanFrom, scanFrom]
    cases pattern (c :: s) with
    | none =>
      dsimp only
      rw [ih (c :: pending), ih [c]]
      simp
    | some hit =>
      dsimp only
      rw [Text.replaceFound_append, Text.replaceFound_append, Text.replaceFound_flushText,
        Text.replaceFound_flushText]
      rfl

variable {pattern}

theorem Turns.append {u v u' v' rest : List Char} (first : Turns pattern u v (u' ++ rest))
    (second : Turns pattern u' v' rest) : Turns pattern (u ++ u') (v ++ v') rest := by
  unfold Turns at *
  rw [List.append_assoc, first, second, List.append_assoc]

/-- Where no occurrence begins, nothing changes. -/
theorem Turns.quiet {u rest : List Char} (quiet : Quiet pattern u rest) :
    Turns pattern u u rest := by
  unfold Turns rewrite scan
  rw [Text.scanFrom_quiet _ _ _ _ quiet, replaceFound_scanFrom]
  simp [scan]

theorem Turns.plain {u rest : List Char}
    (plain : ∀ c ∈ u, ∀ s, pattern (c :: s) = none) : Turns pattern u u rest := by
  refine .quiet fun v suffix filled => ?_
  obtain ⟨c, r, rfl⟩ := List.exists_cons_of_ne_nil filled
  exact plain c (suffix.mem List.mem_cons_self) _

/-- A character at which no occurrence begins stays. -/
theorem Turns.kept {c : Char} {rest : List Char} (other : pattern (c :: rest) = none) :
    Turns pattern [c] [c] rest := by
  refine .quiet fun v suffix filled => ?_
  obtain rfl : v = [c] := (List.suffix_cons_iff.1 suffix).resolve_right fun short =>
    filled (List.suffix_nil.1 short)
  exact other

/-- An occurrence is replaced. -/
theorem Turns.found {raw value rest : List Char} {more : Nat}
    (occurs : pattern (raw ++ rest) = some (value, more)) (whole : raw.length = more + 1) :
    Turns pattern raw value rest := by
  unfold Turns rewrite
  rw [scan, Text.scanFrom_found _ _ _ _ _ _ occurs whole]
  rfl

/-- A text without a character at which occurrences begin stays as it is. -/
theorem rewrite_of_absent (bad : Char → Bool)
    (begins : ∀ v, (∀ c ∈ v, bad c = false) → pattern v = none) {s : List Char}
    (absent : ∀ c ∈ s, bad c = false) : rewrite pattern s = s := by
  have turns : Turns pattern s s [] := by
    refine .quiet fun v suffix _ => ?_
    rw [List.append_nil]
    exact begins v fun c hc => absent c (suffix.mem hc)
  unfold Turns at turns
  rwa [List.append_nil, show rewrite pattern [] = [] from rfl, List.append_nil] at turns

end Rewrite

/-! ## Marks -/

/-- A piece of a path: a name behind a point, an index in brackets, or such an index behind a
point. -/
inductive Mark where
  | name (n : String)
  | index (i : Nat)
  | pointed (i : Nat)

namespace Mark

/-- The name or the digits. -/
def word : Mark → List Char
  | name n => n.toList
  | index i | pointed i => Nat.toDigits 10 i

/-- What stands behind the word. -/
def closing : Mark → List Char
  | name _ => []
  | index _ | pointed _ => [']']

/-- What stands before the word. -/
def opening : Mark → List Char
  | name _ => ['.']
  | index _ => ['[']
  | pointed _ => ['.', '[']

/-- What stands before the word once points and brackets have become boundaries. -/
def boundary : Mark → List Char
  | name _ | index _ => [';']
  | pointed _ => [';', ';']

/-- What stands before the word once empty steps are written out. -/
def spread : Mark → List Char
  | name _ | index _ => [';']
  | pointed _ => [';', '.', '.', ';']

/-- The steps of a mark. -/
def steps (m : Mark) : List (List Char) :=
  match m with
  | name _ | index _ => [m.word]
  | pointed _ => [['.', '.'], m.word]

/-- The word of a mark with what stands before and behind it. -/
def around (front back : Mark → List Char) (m : Mark) : List Char := front m ++ (m.word ++ back m)

/-- The text of a mark. -/
def text (m : Mark) : List Char := m.around opening closing

/-- A name is an identifier. -/
def Plain : Mark → Prop
  | name n => Text.isIdent n.toList = true
  | index _ | pointed _ => True

end Mark

theorem mem_opening (m : Mark) : ∀ c ∈ m.opening, c ∈ ['.', '[', ';'] := by
  cases m <;> simp [Mark.opening]

theorem mem_boundary (m : Mark) : ∀ c ∈ m.boundary, c ∈ ['.', '[', ';'] := by
  cases m <;> simp [Mark.boundary]

theorem mem_spread (m : Mark) : ∀ c ∈ m.spread, c = ';' ∨ c = '.' := by
  cases m <;> simp [Mark.spread]

theorem mem_closing (m : Mark) : ∀ c ∈ m.closing, c = ']' := by
  cases m <;> simp [Mark.closing]

/-- A word: letters, digits and underscores, at least one. -/
def IsWord (s : List Char) : Prop := s ≠ [] ∧ ∀ c ∈ s, Text.isIdentRest c = true

theorem Mark.Plain.isWord {m : Mark} (plain : m.Plain) : IsWord m.word := by
  have digits (i : Nat) : IsWord (Nat.toDigits 10 i) := by
    refine ⟨Nat.toDigits_ne_nil, fun c hc => ?_⟩
    have digit : c.isDigit = true := Nat.isDigit_of_mem_toDigits (by decide) le_rfl hc
    simp [Text.isIdentRest, Char.isAlphanum, digit]
  cases m with
  | name n =>
    refine ⟨?_, Text.isIdentRest_of_isIdent plain⟩
    intro empty
    have ident : Text.isIdent n.toList = true := plain
    rw [show n.toList = [] from empty] at ident
    cases ident
  | index i => exact digits i
  | pointed i => exact digits i

/-- A character of a word is none of the given others. -/
theorem ne_of_isIdentRest {c d : Char} (word : Text.isIdentRest c = true)
    (other : Text.isIdentRest d = false) : c ≠ d := by
  rintro rfl
  rw [word] at other
  cases other

/-! ## Passes

The marks of a path as they stand after each pass: what comes before and behind the words changes,
the words stay. -/

/-- The marks behind `$`, each with what stands before and behind its word. -/
def staged (front back : Mark → List Char) (ms : List Mark) : List Char :=
  '$' :: ms.flatMap (Mark.around front back)

theorem insideBrackets_word {w : List Char} (word : ∀ c ∈ w, Text.isIdentRest c = true)
    (rest : List Char) : insideBrackets (w ++ rest) = insideBrackets rest := by
  have skip : w.find? (fun c => c == '[' || c == ']') = none := by
    rw [List.find?_eq_none]
    intro c hc
    have opens : c ≠ '[' := ne_of_isIdentRest (word c hc) (by decide)
    have closes : c ≠ ']' := ne_of_isIdentRest (word c hc) (by decide)
    simp [opens, closes]
  unfold insideBrackets
  rw [List.find?_append, skip, Option.none_or]

/-- Behind the marks that follow, brackets are opened before they are closed. -/
theorem insideBrackets_marks (ms : List Mark) (plain : ∀ m ∈ ms, m.Plain) :
    insideBrackets (ms.flatMap Mark.text) = false := by
  induction ms with
  | nil => rfl
  | cons m ms ih =>
    have rest := ih fun m hm => plain m (List.mem_cons_of_mem _ hm)
    have word := (plain m List.mem_cons_self).isWord.2
    rw [List.flatMap_cons]
    cases m with
    | name n =>
      show insideBrackets (n.toList ++ [] ++ ms.flatMap Mark.text) = false
      rw [List.append_nil, insideBrackets_word (w := n.toList) word]
      exact rest
    | index i => rfl
    | pointed i => rfl

section Passes

variable {pattern : List Char → Option (List Char × Nat)}
  {front back front' back' : Mark → List Char} {ms : List Mark}

/-- A pass that changes what stands around each word, and nothing else. -/
theorem rewrite_staged (plain : ∀ m ∈ ms, m.Plain) (root : ∀ s, pattern ('$' :: s) = none)
    (turns : ∀ (m : Mark) (rest : List Mark), m.Plain → (∀ m ∈ rest, m.Plain) →
      Turns pattern (m.around front back) (m.around front' back')
        (rest.flatMap (Mark.around front back))) :
    rewrite pattern (staged front back ms) = staged front' back' ms := by
  have inner : rewrite pattern (ms.flatMap (Mark.around front back)) =
      ms.flatMap (Mark.around front' back') := by
    induction ms with
    | nil => rfl
    | cons m ms ih =>
      have others : ∀ m ∈ ms, m.Plain := fun m hm => plain m (List.mem_cons_of_mem _ hm)
      have first := turns m ms (plain m List.mem_cons_self) others
      unfold Turns at first
      rw [List.flatMap_cons, first, ih others, List.flatMap_cons]
  have dollar : Turns pattern ['$'] ['$'] (ms.flatMap (Mark.around front back)) := .kept (root _)
  unfold Turns at dollar
  rw [inner] at dollar
  exact dollar

/-- The characters of marks: those of words, and those that cut steps. -/
theorem of_mem_staged (plain : ∀ m ∈ ms, m.Plain)
    (fronts : ∀ m, ∀ c ∈ front m, c ∈ ['.', '[', ';']) (backs : ∀ m, ∀ c ∈ back m, c = ']')
    {c : Char} (mem : c ∈ staged front back ms) :
    Text.isIdentRest c = true ∨ c ∈ ['$', '.', '[', ';', ']'] := by
  rcases List.mem_cons.1 mem with rfl | mem
  · exact .inr List.mem_cons_self
  · obtain ⟨m, hm, mem⟩ := List.mem_flatMap.1 mem
    rcases List.mem_append.1 mem with mem | mem
    · have := fronts m c mem
      simp only [List.mem_cons] at this ⊢
      tauto
    · rcases List.mem_append.1 mem with mem | mem
      · exact .inl ((plain m hm).isWord.2 c mem)
      · simp [backs m c mem]

/-- Characters that are in no word and cut no steps are absent. -/
theorem absent_of_mem_staged (bad : Char → Bool) (plain : ∀ m ∈ ms, m.Plain)
    (fronts : ∀ m, ∀ c ∈ front m, c ∈ ['.', '[', ';']) (backs : ∀ m, ∀ c ∈ back m, c = ']')
    (words : ∀ c, bad c = true → Text.isIdentRest c = false)
    (marks : ∀ c ∈ ['$', '.', '[', ';', ']'], bad c = false) :
    ∀ c ∈ staged front back ms, bad c = false := by
  intro c hc
  rcases of_mem_staged plain fronts backs hc with word | mark
  · by_contra holds
    rw [Bool.not_eq_false] at holds
    rw [words c holds] at word
    cases word
  · exact marks c mark

/-- A pass for a character that is in no word and cuts no steps does nothing. -/
theorem rewrite_staged_absent (d : Char) (plain : ∀ m ∈ ms, m.Plain)
    (fronts : ∀ m, ∀ c ∈ front m, c ∈ ['.', '[', ';']) (backs : ∀ m, ∀ c ∈ back m, c = ']')
    (word : Text.isIdentRest d = false) (mark : ∀ c ∈ ['$', '.', '[', ';', ']'], (c == d) = false)
    (begins : ∀ v, (∀ c ∈ v, (c == d) = false) → pattern v = none) :
    rewrite pattern (staged front back ms) = staged front back ms := by
  refine rewrite_of_absent (· == d) begins (absent_of_mem_staged _ plain fronts backs ?_ mark)
  intro c same
  rwa [eq_of_beq same]

/-- A word and what stands behind it stay, where no occurrence begins with their characters. -/
theorem turns_word_closing (m : Mark) (words : ∀ c ∈ m.word, ∀ s, pattern (c :: s) = none)
    (closes : ∀ s, pattern (']' :: s) = none) (rest : List Char) :
    Turns pattern (m.word ++ m.closing) (m.word ++ m.closing) rest := by
  refine .plain fun c hc s => ?_
  rcases List.mem_append.1 hc with hc | hc
  · exact words c hc s
  · rw [mem_closing m c hc]
    exact closes s

end Passes

section Query

variable {ms : List Mark} (plain : ∀ m ∈ ms, m.Plain)

/-- An operator begins with an at sign. -/
theorem typeOperatorAt?_of_absent (v : List Char) (absent : ∀ c ∈ v, (c == '@') = false) :
    typeOperatorAt? v = none := by
  unfold typeOperatorAt?
  rw [List.findSome?_eq_none_iff]
  intro op mem
  obtain ⟨t, -, rfl⟩ := List.mem_map.1 mem
  refine if_neg fun starts => ?_
  have at_ := absent '@' ((List.isPrefixOf_iff_prefix.1 starts).mem List.mem_cons_self)
  cases at_

theorem parenthesisAt?_of_absent (v : List Char) (absent : ∀ c ∈ v, (c == '(') = false) :
    parenthesisAt? v = none := by
  fun_cases parenthesisAt? v
  case case1 q s _ mark r eq =>
    have suffix : '(' :: r <:+ s := by
      split at eq
      · obtain ⟨-, rfl⟩ := Prod.mk.inj eq
        exact List.suffix_cons _ _
      · obtain ⟨-, rfl⟩ := Prod.mk.inj eq
        exact List.suffix_rfl
    cases absent '(' (List.mem_cons_of_mem _ (suffix.mem List.mem_cons_self))
  all_goals rfl

theorem quotedNameAt?_of_absent (v : List Char) (absent : ∀ c ∈ v, isQuote c = false) :
    quotedNameAt? v = none := by
  unfold quotedNameAt?
  split
  · next q s => rw [if_neg (by simp [absent q])]
  · rfl

theorem setOff_of_absent (d : Char) (v : List Char) (absent : ∀ c ∈ v, (c == d) = false) :
    setOff d v = none := by
  cases v with
  | nil => rfl
  | cons c v => simp [setOff, absent c List.mem_cons_self]

theorem markAt?_of_absent (mark : List Char) (c d : Char) (starts : d ∈ mark) (v : List Char)
    (absent : ∀ c ∈ v, (c == d) = false) : markAt? mark c v = none := by
  refine if_neg fun front => ?_
  have := absent d ((List.isPrefixOf_iff_prefix.1 front).mem starts)
  simp at this

theorem caretsAt?_of_absent (v : List Char) (absent : ∀ c ∈ v, (c == '^') = false) :
    caretsAt? v = none := by
  have none_ (r : List Char) (suffix : r <:+ v) : r.takeWhile (· == '^') = [] := by
    cases r with
    | nil => rfl
    | cons c r => simp [absent c (suffix.mem List.mem_cons_self)]
  unfold caretsAt?
  split
  next before r eq =>
    have suffix : r <:+ v := by
      split at eq
      · obtain ⟨-, rfl⟩ := Prod.mk.inj eq
        exact List.suffix_cons _ _
      · obtain ⟨-, rfl⟩ := Prod.mk.inj eq
        exact List.suffix_rfl
    simp [none_ r suffix]

/-- Nothing but a point, an opening bracket and a quote begins a boundary. -/
theorem boundaryAt?_of_other (c : Char) (s : List Char) (point : c ≠ '.') (opens : c ≠ '[')
    (quote : isQuote c = false) : boundaryAt? (c :: s) = none := by
  unfold boundaryAt?
  split
  · exact absurd (List.cons.inj ‹_›).1 opens
  · exact absurd (List.cons.inj ‹_›).1 opens
  · exact absurd (List.cons.inj ‹_›).1 point
  · obtain ⟨rfl, -⟩ := List.cons.inj ‹_ = _›
    rw [quote]
    rfl
  · rfl

theorem boundaryAt?_point (r : List Char) (outside : insideBrackets r = false)
    (quote : r.head?.any isQuote = false) : boundaryAt? ('.' :: r) = some ([';'], 0) := by
  show boundaryAt?.pointed 0 r = _
  unfold boundaryAt?.pointed
  rw [outside, quote]
  rfl

theorem boundaryAt?_bracket (d : Char) (r : List Char) (quote : isQuote d = false) :
    boundaryAt? ('[' :: d :: r) = some ([';'], 0) := by
  show some ([';'], if isQuote d then 1 else 0) = _
  rw [quote]
  rfl

theorem descendantsAt?_of_other (c : Char) (s : List Char) (cut : c ≠ ';') :
    descendantsAt? (c :: s) = none := by
  unfold descendantsAt?
  split
  · exact absurd (List.cons.inj ‹_›).1 cut
  · exact absurd (List.cons.inj ‹_›).1 cut
  · rfl

theorem descendantsAt?_single (d : Char) (s : List Char) (cut : d ≠ ';') :
    descendantsAt? (';' :: d :: s) = none := by
  unfold descendantsAt?
  split
  · exact absurd (List.cons.inj (List.cons.inj ‹_›).2).1 cut
  · exact absurd (List.cons.inj (List.cons.inj ‹_›).2).1 cut
  · rfl

theorem descendantsAt?_double (d : Char) (s : List Char) (cut : d ≠ ';') :
    descendantsAt? (';' :: ';' :: d :: s) = some ([';', '.', '.', ';'], 1) := by
  unfold descendantsAt?
  split
  · exact absurd (List.cons.inj (List.cons.inj (List.cons.inj ‹_›).2).2).1 cut
  · rfl
  · next other => exact absurd rfl (other _)

theorem leftoverAt?_of_other (c : Char) (s : List Char) (closes : c ≠ ']') (quote : c ≠ '\'')
    (more : c ≠ ';' ∨ s ≠ []) : leftoverAt? (c :: s) = none := by
  unfold leftoverAt?
  split
  · obtain ⟨rfl, rfl⟩ := List.cons.inj ‹_ = _›
    exact absurd rfl (more.resolve_left (not_not.2 rfl))
  · exact absurd (List.cons.inj ‹_›).1 quote
  · exact absurd (List.cons.inj ‹_›).1 quote
  · exact absurd (List.cons.inj ‹_›).1 closes
  · rfl

theorem IsWord.not_quote {w : List Char} (word : IsWord w) : ∀ c ∈ w, isQuote c = false := by
  intro c hc
  have single : c ≠ '\'' := ne_of_isIdentRest (word.2 c hc) (by decide)
  have double : c ≠ '"' := ne_of_isIdentRest (word.2 c hc) (by decide)
  simp [isQuote, single, double]

theorem setAside_of_quiet {s : List Char} (quiet : Quiet parenthesisAt? s []) :
    setAside (scan parenthesisAt? s) 0 = (s, []) := by
  have whole : scan parenthesisAt? s = flushText s.reverse := by
    have := Text.scanFrom_quiet parenthesisAt? [] s [] quiet
    rwa [List.append_nil, List.append_nil] at this
  rw [whole]
  cases s with
  | nil => rfl
  | cons c s =>
    rw [Text.flushText_of_ne_nil _ (by simp)]
    show ((c :: s) ++ [], []) = (c :: s, [])
    rw [List.append_nil]

/-- A piece without a reference is the step. -/
theorem stepOf_of_absent (piece : List Char) (absent : ∀ c ∈ piece, c ≠ '#') :
    stepOf [] piece = some piece := by
  have none_ : reference? piece = none := by
    induction piece with
    | nil => rfl
    | cons c s ih =>
      have other : (c == '#') = false := beq_eq_false_iff_ne.2 (absent c List.mem_cons_self)
      rw [reference?, other]
      exact ih fun c hc => absent c (List.mem_cons_of_mem _ hc)
  rw [stepOf, none_]

include plain

/-- Points and brackets become boundaries. -/
theorem rewrite_boundaryAt? : rewrite boundaryAt? (staged Mark.opening Mark.closing ms) =
    staged Mark.boundary Mark.closing ms := by
  refine rewrite_staged plain (fun s => boundaryAt?_of_other '$' s (by decide) (by decide) rfl) ?_
  intro m rest plain others
  have word := plain.isWord
  refine Turns.append ?_ (turns_word_closing m (fun c hc s => ?_) (fun s => ?_) _)
  rotate_left
  · exact boundaryAt?_of_other c s (ne_of_isIdentRest (word.2 c hc) (by decide))
      (ne_of_isIdentRest (word.2 c hc) (by decide)) (word.not_quote c hc)
  · exact boundaryAt?_of_other ']' s (by decide) (by decide) rfl
  obtain ⟨d, w, shape⟩ := List.exists_cons_of_ne_nil word.1
  have quote : isQuote d = false := word.not_quote d (by simp [shape])
  have bracket (r : List Char) : Turns boundaryAt? ['['] [';'] (m.word ++ r) := by
    rw [shape]
    exact .found (boundaryAt?_bracket d _ quote) rfl
  cases m with
  | name n =>
    refine .found (boundaryAt?_point _ ?_ ?_) rfl
    · show insideBrackets (n.toList ++ [] ++ rest.flatMap Mark.text) = false
      rw [List.append_nil, insideBrackets_word (w := n.toList) word.2]
      exact insideBrackets_marks rest others
    · rw [shape]
      exact quote
  | index i =>
    rw [List.append_assoc]
    exact bracket _
  | pointed i =>
    rw [List.append_assoc]
    exact Turns.append (u := ['.']) (v := [';']) (.found (boundaryAt?_point _ rfl rfl) rfl)
      (bracket _)

/-- Empty steps are written out. -/
theorem rewrite_descendantsAt? : rewrite descendantsAt? (staged Mark.boundary Mark.closing ms) =
    staged Mark.spread Mark.closing ms := by
  refine rewrite_staged plain (fun s => descendantsAt?_of_other '$' s (by decide)) ?_
  intro m rest plain others
  have word := plain.isWord
  refine Turns.append ?_ (turns_word_closing m (fun c hc s => ?_) (fun s => ?_) _)
  rotate_left
  · exact descendantsAt?_of_other c s (ne_of_isIdentRest (word.2 c hc) (by decide))
  · exact descendantsAt?_of_other ']' s (by decide)
  obtain ⟨d, w, shape⟩ := List.exists_cons_of_ne_nil word.1
  have cut : d ≠ ';' := ne_of_isIdentRest (word.2 d (by simp [shape])) (by decide)
  cases m with
  | name n | index i =>
    rw [shape]
    exact .kept (descendantsAt?_single d _ cut)
  | pointed i =>
    rw [shape]
    exact .found (descendantsAt?_double d _ cut) rfl

/-- Closing brackets are dropped. -/
theorem rewrite_leftoverAt? : rewrite leftoverAt? (staged Mark.spread Mark.closing ms) =
    staged Mark.spread (fun _ => []) ms := by
  refine rewrite_staged plain
    (fun s => leftoverAt?_of_other '$' s (by decide) (by decide) (.inl (by decide))) ?_
  intro m rest plain others
  have word := plain.isWord
  refine Turns.append (.quiet fun v suffix filled => ?_) (.append (.plain fun c hc s => ?_) ?_)
  · obtain ⟨c, v, rfl⟩ := List.exists_cons_of_ne_nil filled
    have behind : v ++ (m.word ++ m.closing ++
        rest.flatMap (Mark.around Mark.spread Mark.closing)) ≠ [] := by simp [word.1]
    rcases mem_spread m c (suffix.mem List.mem_cons_self) with rfl | rfl
    · exact leftoverAt?_of_other ';' _ (by decide) (by decide) (.inr behind)
    · exact leftoverAt?_of_other '.' _ (by decide) (by decide) (.inr behind)
  · exact leftoverAt?_of_other c s (ne_of_isIdentRest (word.2 c hc) (by decide))
      (ne_of_isIdentRest (word.2 c hc) (by decide))
      (.inl (ne_of_isIdentRest (word.2 c hc) (by decide)))
  · cases m with
    | name n => exact .plain (List.forall_mem_nil _)
    | index i | pointed i => exact .found rfl rfl

/-- The pieces between boundaries. -/
theorem splitBy_staged : Text.splitBy (· == ';') (staged Mark.spread (fun _ => []) ms) =
    ['$'] :: ms.flatMap Mark.steps := by
  have inner (p : List Char) (free : ∀ c ∈ p, (c == ';') = false) :
      Text.splitBy (· == ';') (p ++ ms.flatMap (Mark.around Mark.spread fun _ => [])) =
        p :: ms.flatMap Mark.steps := by
    induction ms generalizing p with
    | nil =>
      rw [List.flatMap_nil, List.append_nil]
      exact Text.splitBy_of_free _ p free
    | cons m ms ih =>
      have word := (plain m List.mem_cons_self).isWord
      have rest := ih (fun m hm => plain m (List.mem_cons_of_mem _ hm)) m.word fun c hc => by
        rw [beq_eq_false_iff_ne]
        exact ne_of_isIdentRest (word.2 c hc) (by decide)
      have single : Text.splitBy (· == ';')
          (p ++ ';' :: (m.word ++ ms.flatMap (Mark.around Mark.spread fun _ => []))) =
            p :: m.word :: ms.flatMap Mark.steps := by
        rw [Text.splitBy_append_sep _ p _ ';' free rfl, rest]
      cases m with
      | name n => simpa [Mark.around, Mark.spread, Mark.steps] using single
      | index i => simpa [Mark.around, Mark.spread, Mark.steps] using single
      | pointed i =>
        have points : Text.splitBy (· == ';') (['.', '.'] ++
            ';' :: ((Mark.pointed i).word ++ ms.flatMap (Mark.around Mark.spread fun _ => []))) =
              ['.', '.'] :: (Mark.pointed i).word :: ms.flatMap Mark.steps := by
          rw [Text.splitBy_append_sep _ ['.', '.'] _ ';' (by simp) rfl, rest]
        have all := Text.splitBy_append_sep (· == ';') p _ ';' free rfl |>.trans
          (congrArg (p :: ·) points)
        simpa [Mark.around, Mark.spread, Mark.steps] using all
  exact inner ['$'] (by simp)

/-- The steps of marks behind `$` are `$` and those of the marks. -/
theorem steps_marks (query : String)
    (shape : query.toList = staged Mark.opening Mark.closing ms) :
    steps query = (['$'] :: ms.flatMap Mark.steps).map some := by
  have quotes : ∀ c ∈ staged Mark.opening Mark.closing ms, isQuote c = false := by
    refine absent_of_mem_staged isQuote plain mem_opening mem_closing (fun c quote => ?_)
      (by simp [isQuote])
    rcases (by simpa [isQuote] using quote : c = '\'' ∨ c = '"') with rfl | rfl <;> decide
  have parentheses : Quiet parenthesisAt? (staged Mark.opening Mark.closing ms) [] := by
    intro v suffix _
    rw [List.append_nil]
    refine parenthesisAt?_of_absent v fun c hc => ?_
    refine absent_of_mem_staged (· == '(') plain mem_opening mem_closing (fun c same => ?_)
      (by simp) c (suffix.mem hc)
    rw [eq_of_beq same]
    decide
  unfold steps
  rw [shape, rewrite_staged_absent '@' plain mem_opening mem_closing (by decide) (by simp)
    typeOperatorAt?_of_absent]
  dsimp only
  rw [setAside_of_quiet parentheses]
  dsimp only
  rw [rewrite_of_absent isQuote quotedNameAt?_of_absent quotes,
    rewrite_staged_absent '~' plain mem_opening mem_closing (by decide) (by simp)
      (setOff_of_absent '~'),
    rewrite_boundaryAt? plain,
    rewrite_staged_absent '%' plain mem_boundary mem_closing (by decide) (by simp)
      (markAt?_of_absent pointMark '.' '%' (by decide)),
    rewrite_staged_absent '%' plain mem_boundary mem_closing (by decide) (by simp)
      (markAt?_of_absent tildeMark '~' '%' (by decide)),
    rewrite_staged_absent '^' plain mem_boundary mem_closing (by decide) (by simp)
      caretsAt?_of_absent,
    rewrite_descendantsAt? plain, rewrite_leftoverAt? plain, splitBy_staged plain]
  refine List.map_congr_left fun piece mem => stepOf_of_absent piece fun c hc => ?_
  rcases List.mem_cons.1 mem with rfl | mem
  · obtain rfl := List.mem_singleton.1 hc
    decide
  · obtain ⟨m, hm, mem⟩ := List.mem_flatMap.1 mem
    have word := (plain m hm).isWord
    have among : piece = ['.', '.'] ∨ piece = m.word := by
      cases m <;> simp_all [Mark.steps]
    rcases among with rfl | rfl
    · rintro rfl
      simp at hc
    · exact ne_of_isIdentRest (word.2 c hc) (by decide)

end Query

/-! ## Paths -/

/-- The marks of a segment behind another one. -/
def laterMarks (g : Segment) : List Mark :=
  match g.property, g.indexes with
  | some n, is => .name n :: is.map .index
  | none, i :: is => .pointed i :: is.map .index
  | none, [] => []

/-- The marks of a segment at the front, where an index needs no point. -/
def frontMarks (g : Segment) : List Mark :=
  match g.property with
  | some n => .name n :: g.indexes.map .index
  | none => g.indexes.map .index

/-- The marks of a path. -/
def marks : BodyPath → List Mark
  | [] => []
  | g :: p => frontMarks g ++ p.flatMap laterMarks

/-- A path as a query. -/
def queryText (p : BodyPath) : String :=
  match p with
  | ⟨none, _⟩ :: _ => "$" ++ p.text
  | _ => "$." ++ p.text

/-- A segment whose name, if it has one, is an identifier; it is not empty. -/
structure Named (g : Segment) : Prop where
  ident : ∀ n, g.property = some n → Text.isIdent n.toList = true
  filled : g.property ≠ none ∨ g.indexes ≠ []

theorem flatMap_index (is : List Nat) : (is.map Mark.index).flatMap Mark.text =
    (is.map (Nat.toDigits 10)).flatMap BodyPath.bracketed := by
  rw [List.flatMap_map, List.flatMap_map]
  rfl

theorem flatMap_laterMarks (g : Segment) (named : Named g) :
    (laterMarks g).flatMap Mark.text = BodyPath.laterText g := by
  obtain ⟨property, is⟩ := g
  unfold BodyPath.laterText
  rw [BodyPath.segmentText_eq]
  cases property with
  | some n =>
    show Mark.text (.name n) ++ (is.map Mark.index).flatMap Mark.text = _
    rw [flatMap_index]
    simp [Mark.text, Mark.around, Mark.opening, Mark.word, Mark.closing]
  | none =>
    cases is with
    | nil => exact absurd named.filled (by simp)
    | cons i is =>
      show Mark.text (.pointed i) ++ (is.map Mark.index).flatMap Mark.text = _
      rw [flatMap_index]
      simp [Mark.text, Mark.around, Mark.opening, Mark.word, Mark.closing, BodyPath.bracketed]

/-- A path as a query is its marks behind `$`. -/
theorem toList_queryText (p : BodyPath) (nonempty : p ≠ []) (named : ∀ g ∈ p, Named g) :
    (queryText p).toList = staged Mark.opening Mark.closing (marks p) := by
  cases p with
  | nil => exact absurd rfl nonempty
  | cons g p =>
    obtain ⟨property, is⟩ := g
    have later : (p.flatMap laterMarks).flatMap Mark.text = p.flatMap BodyPath.laterText := by
      rw [List.flatMap_assoc]
      exact List.flatMap_congr fun h hh =>
        flatMap_laterMarks h (named h (List.mem_cons_of_mem _ hh))
    show _ = '$' :: (frontMarks ⟨property, is⟩ ++ p.flatMap laterMarks).flatMap Mark.text
    rw [List.flatMap_append, later]
    cases property with
    | none =>
      show ("$" ++ BodyPath.text _).toList = '$' :: ((is.map Mark.index).flatMap Mark.text ++ _)
      rw [flatMap_index, BodyPath.text_cons, BodyPath.segmentText_eq]
      simp
    | some n =>
      show ("$." ++ BodyPath.text _).toList =
        '$' :: ((Mark.text (.name n) ++ (is.map Mark.index).flatMap Mark.text) ++ _)
      rw [flatMap_index, BodyPath.text_cons, BodyPath.segmentText_eq]
      simp [Mark.text, Mark.around, Mark.opening, Mark.word, Mark.closing]

theorem plain_marks (p : BodyPath) (named : ∀ g ∈ p, Named g) : ∀ m ∈ marks p, m.Plain := by
  have index (is : List Nat) : ∀ m ∈ is.map Mark.index, m.Plain := by
    intro m hm
    obtain ⟨i, -, rfl⟩ := List.mem_map.1 hm
    trivial
  have later (g : Segment) (named : Named g) : ∀ m ∈ laterMarks g, m.Plain := by
    obtain ⟨property, is⟩ := g
    cases property with
    | some n => exact List.forall_mem_cons.2 ⟨named.ident n rfl, index is⟩
    | none => cases is with
      | nil => exact nofun
      | cons i is => exact List.forall_mem_cons.2 ⟨trivial, index is⟩
  cases p with
  | nil => exact nofun
  | cons g p =>
    intro m hm
    rcases List.mem_append.1 hm with hm | hm
    · have first := named g List.mem_cons_self
      obtain ⟨property, is⟩ := g
      cases property with
      | some n =>
        have both : ∀ m ∈ Mark.name n :: is.map Mark.index, m.Plain :=
          List.forall_mem_cons.2 ⟨first.ident n rfl, index is⟩
        exact both m hm
      | none => exact index is m hm
    · obtain ⟨h, hh, hm⟩ := List.mem_flatMap.1 hm
      exact later h (named h (List.mem_cons_of_mem _ hh)) m hm

theorem marks_ne_nil (p : BodyPath) (nonempty : p ≠ []) (named : ∀ g ∈ p, Named g) :
    marks p ≠ [] := by
  cases p with
  | nil => exact absurd rfl nonempty
  | cons g p =>
    have filled := (named g List.mem_cons_self).filled
    obtain ⟨property, is⟩ := g
    cases property with
    | some n => exact List.cons_ne_nil _ _
    | none =>
      obtain ⟨i, is, rfl⟩ := List.exists_cons_of_ne_nil (filled.resolve_left (not_not.2 rfl))
      exact List.cons_ne_nil _ _

/-- A path as a query has the steps of its marks. -/
theorem stepsOf_queryText (p : BodyPath) (nonempty : p ≠ []) (named : ∀ g ∈ p, Named g) :
    stepsOf (queryText p) = ((marks p).flatMap Mark.steps).map Step.text := by
  unfold stepsOf
  rw [steps_marks (plain_marks p named) _ (toList_queryText p nonempty named), List.map_map]
  obtain ⟨m, ms, shape⟩ := List.exists_cons_of_ne_nil (marks_ne_nil p nonempty named)
  rw [shape]
  cases m <;> rfl

end HttpScript.Query
