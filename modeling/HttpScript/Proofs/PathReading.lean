import HttpScript.Proofs.Lines
import HttpScript.Proofs.PathGrammar
import HttpScript.Proofs.WholeNumbers
import Mathlib.Data.List.TakeWhile

/-!
# Reading of body paths

A body path is read exactly if it is written in the grammar of body paths. Its segments, printed
again, are the path without the leading zeros of its indexes, and what is printed of any segments is
read as these segments.

    parse? s = some p ↔ ∃ w : WrittenPath, w.text = s ∧ w.path = p         (parse?_eq_some_iff)
    parse? (text p) = some p                                               (parse?_text_of_plain)

An index is printed as the text of the double that it is. That text has the digits of the index as
long as the index is below `2 ^ 53`.
-/

namespace HttpScript

namespace Text

/-! ## Pieces between separators -/

/-- The pieces, joined by the separator, are the text. -/
theorem intercalate_splitBy (c : Char) (s : List Char) :
    [c].intercalate (splitBy (· == c) s) = s := by
  induction s with
  | nil => rfl
  | cons d s ih =>
    obtain ⟨p, ps, shape⟩ := List.exists_cons_of_ne_nil (splitBy_ne_nil (· == c) s)
    rw [shape] at ih
    rw [splitBy, shape]
    by_cases same : d = c
    · rw [same, if_pos (beq_self_eq_true c), List.intercalate_cons_cons, ih]
      rfl
    · rw [if_neg (by simpa using same)]
      cases ps with
      | nil =>
        rw [List.intercalate_singleton] at ih ⊢
        rw [ih]
      | cons q ps =>
        rw [List.intercalate_cons_cons] at ih ⊢
        rw [← ih]
        simp

/-- No piece has a separator in it. -/
theorem not_sep_of_mem_splitBy (sep : Char → Bool) (s : List Char) :
    ∀ p ∈ splitBy sep s, ∀ d ∈ p, sep d = false := by
  induction s with
  | nil => simp [splitBy]
  | cons c s ih =>
    obtain ⟨p, ps, shape⟩ := List.exists_cons_of_ne_nil (splitBy_ne_nil sep s)
    rw [shape] at ih
    rw [splitBy, shape]
    by_cases ends : sep c = true
    · rw [if_pos ends]
      intro q hq
      rcases List.mem_cons.1 hq with rfl | hq
      · exact List.forall_mem_nil _
      · exact ih q hq
    · rw [if_neg ends]
      intro q hq
      rcases List.mem_cons.1 hq with rfl | hq
      · intro d hd
        rcases List.mem_cons.1 hd with rfl | hd
        · exact Bool.eq_false_iff.2 ends
        · exact ih p List.mem_cons_self d hd
      · exact ih q (List.mem_cons_of_mem _ hq)

/-! ## Digits -/

/-- Digits without leading zeros; one digit stays. -/
def trimZeros (ds : List Char) : List Char :=
  match ds.dropWhile (· == '0') with
  | [] => ['0']
  | r => r

theorem digitChar_of_isDigit {c : Char} (digit : c.isDigit = true) :
    (c.toNat - 48).digitChar = c ∧ c.toNat - 48 < 10 := by
  obtain ⟨low, high⟩ := Char.isDigit_iff_toNat.1 digit
  change 48 ≤ c.toNat at low
  change c.toNat ≤ 57 at high
  refine ⟨Char.toNat_inj.1 ?_, by omega⟩
  rw [Nat.toNat_digitChar_of_lt_ten (by omega)]
  omega

/-- Digits read behind a number that is not zero are the last digits of what is read. -/
theorem toDigits_foldl (ds : List Char) (digits : ∀ d ∈ ds, d.isDigit = true) (n : Nat)
    (pos : 0 < n) :
    Nat.toDigits 10 (ds.foldl (fun n c => 10 * n + (c.toNat - 48)) n) =
      Nat.toDigits 10 n ++ ds := by
  induction ds generalizing n with
  | nil => simp
  | cons d ds ih =>
    obtain ⟨char, small⟩ := digitChar_of_isDigit (digits d List.mem_cons_self)
    have one := Nat.toDigits_append_toDigits (b := 10) (by decide) pos small
    rw [Nat.toDigits_of_lt_base small, char] at one
    rw [List.foldl_cons, ih (fun d hd => digits d (List.mem_cons_of_mem _ hd)) _ (by omega),
      ← one, List.append_assoc, List.singleton_append]

theorem digitsValue_zero_cons (ds : List Char) : digitsValue ('0' :: ds) = digitsValue ds := rfl

/-- A run of digits has the value whose digits it is, leading zeros aside. -/
theorem toDigits_digitsValue (ds : List Char) (digits : ∀ d ∈ ds, d.isDigit = true) :
    Nat.toDigits 10 (digitsValue ds) = trimZeros ds := by
  induction ds with
  | nil => rfl
  | cons d ds ih =>
    have rest : ∀ d ∈ ds, d.isDigit = true := fun d hd => digits d (List.mem_cons_of_mem _ hd)
    by_cases zero : d = '0'
    · rw [zero, digitsValue_zero_cons, ih rest]
      simp [trimZeros]
    · obtain ⟨char, small⟩ := digitChar_of_isDigit (digits d List.mem_cons_self)
      have pos : 0 < d.toNat - 48 := by
        rcases Nat.eq_zero_or_pos (d.toNat - 48) with none_ | pos
        · rw [none_] at char
          exact absurd char.symm zero
        · exact pos
      have kept : trimZeros (d :: ds) = d :: ds := by
        unfold trimZeros
        rw [List.dropWhile_cons_of_neg (by simpa using zero)]
      unfold digitsValue
      rw [List.foldl_cons, Nat.mul_zero, Nat.zero_add, toDigits_foldl ds rest _ pos,
        Nat.toDigits_of_lt_base small, char, kept]
      rfl

theorem digitsValue_toDigits (n : Nat) : digitsValue (Nat.toDigits 10 n) = n := by
  have read : Nat.ofDigitChars 10 (Nat.toDigits 10 n) 0 = n := Nat.ofDigitChars_ten_toDigits
  rwa [Nat.ofDigitChars_eq_foldl] at read

end Text

namespace BodyPath

/-! ## What is read is written -/

/-- What is read as indexes is digits in brackets. Inside a bracket, the digits read so far come
first. -/
theorem exists_groups (s : List Char) (inside : Option (List Char)) (is : List Nat)
    (read : indexesFrom inside s = some is) :
    ∃ groups : List (List Char), (∀ ds ∈ groups, ds ≠ [] ∧ ∀ d ∈ ds, d.isDigit = true) ∧
      match inside with
      | none => s = groups.flatMap bracketed ∧ is = groups.map Text.digitsValue
      | some front => ∃ ds, s = ds ++ ']' :: groups.flatMap bracketed ∧
          (front ≠ [] ∨ ds ≠ []) ∧ (∀ d ∈ ds, d.isDigit = true) ∧
          is = Text.digitsValue (front.reverse ++ ds) :: groups.map Text.digitsValue := by
  induction s generalizing inside is with
  | nil =>
    cases inside with
    | none =>
      obtain rfl := Option.some.inj read
      exact ⟨[], List.forall_mem_nil _, rfl, rfl⟩
    | some front => cases read
  | cons c s ih =>
    cases inside with
    | none =>
      rw [indexesFrom] at read
      obtain ⟨opens, read⟩ | ⟨-, read⟩ := ite_eq_iff.1 read
      · obtain ⟨groups, digits, ds, rfl, filled, all, rfl⟩ := ih _ _ read
        have some_ : ds ≠ [] := filled.resolve_left fun h => h rfl
        refine ⟨ds :: groups, List.forall_mem_cons.2 ⟨⟨some_, all⟩, digits⟩, ?_, rfl⟩
        rw [eq_of_beq opens]
        simp [bracketed]
      · cases read
    | some front =>
      rw [indexesFrom] at read
      obtain ⟨digit, read⟩ | ⟨-, read⟩ := ite_eq_iff.1 read
      · obtain ⟨groups, digits, ds, rfl, -, all, rfl⟩ := ih _ _ read
        refine ⟨groups, digits, c :: ds, rfl, .inr (by simp),
          List.forall_mem_cons.2 ⟨digit, all⟩, ?_⟩
        simp
      obtain ⟨closes, read⟩ | ⟨-, read⟩ := ite_eq_iff.1 read
      · rw [Bool.and_eq_true, Bool.not_eq_true', List.isEmpty_eq_false_iff] at closes
        obtain ⟨js, more, rfl⟩ := Option.map_eq_some_iff.1 read
        obtain ⟨groups, digits, rfl, rfl⟩ := ih _ _ more
        refine ⟨groups, digits, [], ?_, .inl closes.2, List.forall_mem_nil _, ?_⟩
        · rw [eq_of_beq closes.1]
          rfl
        · rw [List.append_nil]
      · cases read

/-- What is read as a segment is written as one. -/
theorem exists_writtenSegment {s : List Char} {g : Segment} (free : ∀ c ∈ s, (c == '.') = false)
    (read : segment? s = some g) : ∃ w : WrittenSegment, w.text = s ∧ w.segment = g := by
  unfold segment? at read
  dsimp only at read
  have cut := List.takeWhile_append_dropWhile (p := (!isBracket ·)) (l := s)
  have outside : ∀ c ∈ s.takeWhile (!isBracket ·), c ≠ '.' ∧ isBracket c = false := by
    intro c hc
    have inside := List.takeWhile_prefix _ |>.mem hc
    exact ⟨by simpa using free c inside, by simpa using List.mem_takeWhile_imp hc⟩
  generalize s.takeWhile (!isBracket ·) = name at *
  cases groups_read : indexesFrom none (s.dropWhile (!isBracket ·)) with
  | none =>
    rw [groups_read] at read
    cases read
  | some is =>
    obtain ⟨groups, digits, shape, rfl⟩ := exists_groups _ _ _ groups_read
    rw [groups_read] at read
    rw [shape] at cut
    dsimp only at read
    have filled : name ≠ [] ∨ groups ≠ [] := by
      by_contra none_
      obtain ⟨rfl, rfl⟩ := not_or.1 none_ |>.imp not_not.1 not_not.1
      cases read
    refine ⟨⟨name, groups, outside, digits, filled⟩, cut, ?_⟩
    unfold WrittenSegment.segment
    dsimp only
    by_cases none_ : name.isEmpty = true
    · have indexed : (groups.map Text.digitsValue).isEmpty = false := by
        have := filled.resolve_left fun h => h (List.isEmpty_iff.1 none_)
        simpa using this
      rw [if_pos none_, indexed] at read
      rw [if_pos none_]
      exact Option.some.inj read
    · rw [if_neg none_] at read
      rw [if_neg none_]
      exact Option.some.inj read

theorem exists_writtenSegments {ss : List (List Char)} {p : BodyPath}
    (free : ∀ s ∈ ss, ∀ c ∈ s, (c == '.') = false) (read : segments? ss = some p) :
    ∃ ws : List WrittenSegment, ws.map WrittenSegment.text = ss ∧
      ws.map WrittenSegment.segment = p := by
  induction ss generalizing p with
  | nil =>
    obtain rfl := Option.some.inj read
    exact ⟨[], rfl, rfl⟩
  | cons s ss ih =>
    rw [segments?] at read
    cases first : segment? s with
    | none =>
      rw [first] at read
      cases read
    | some g =>
      rw [first] at read
      obtain ⟨q, rest, rfl⟩ := Option.map_eq_some_iff.1 read
      obtain ⟨w, text, segment⟩ := exists_writtenSegment (free s List.mem_cons_self) first
      obtain ⟨ws, texts, segments⟩ := ih (fun s hs => free s (List.mem_cons_of_mem _ hs)) rest
      exact ⟨w :: ws, by rw [List.map_cons, text, texts], by rw [List.map_cons, segment, segments]⟩

/-- A text is read as a path exactly if it is written as one, and then as the path written. -/
theorem parse?_eq_some_iff (s : String) (p : BodyPath) :
    parse? s = some p ↔ ∃ w : WrittenPath, w.text = s ∧ w.path = p := by
  constructor
  · intro read
    obtain ⟨ws, texts, segments⟩ :=
      exists_writtenSegments (Text.not_sep_of_mem_splitBy _ _) read
    have nonempty : ws ≠ [] := by
      rintro rfl
      exact Text.splitBy_ne_nil _ _ texts.symm
    refine ⟨⟨ws, nonempty⟩, ?_, segments⟩
    unfold WrittenPath.text
    rw [texts, Text.intercalate_splitBy, String.ofList_toList]
  · rintro ⟨w, rfl, rfl⟩
    exact parse?_text w

/-! ## Segments that can be written -/

end BodyPath

/-- A segment that can be written: it has a name or an index, and in its name there is no point and
no bracket. -/
structure Segment.Plain (g : Segment) : Prop where
  name : ∀ n, g.property = some n → n.toList ≠ [] ∧
    ∀ c ∈ n.toList, c ≠ '.' ∧ BodyPath.isBracket c = false
  filled : g.property ≠ none ∨ g.indexes ≠ []

namespace BodyPath

theorem segmentText_eq (g : Segment) : segmentText g =
    (g.property.getD "").toList ++ (g.indexes.map (Nat.toDigits 10)).flatMap bracketed := by
  unfold segmentText
  rw [List.flatMap_map]
  rfl

theorem isDigit_of_mem_indexes (g : Segment) : ∀ ds ∈ g.indexes.map (Nat.toDigits 10),
    ds ≠ [] ∧ ∀ d ∈ ds, d.isDigit = true := by
  intro ds hds
  obtain ⟨i, -, rfl⟩ := List.mem_map.1 hds
  exact ⟨Nat.toDigits_ne_nil, fun d hd => Nat.isDigit_of_mem_toDigits (by decide) le_rfl hd⟩

theorem exists_written_of_plain {g : Segment} (plain : g.Plain) :
    ∃ w : WrittenSegment, w.text = segmentText g ∧ w.segment = g := by
  obtain ⟨property, indexes⟩ := g
  have named : ∀ c ∈ (property.getD "").toList, c ≠ '.' ∧ isBracket c = false := by
    cases property with
    | none => exact nofun
    | some n => exact (plain.name n rfl).2
  have filled : (property.getD "").toList ≠ [] ∨ indexes.map (Nat.toDigits 10) ≠ [] := by
    rcases plain.filled with h | h
    · obtain ⟨n, rfl⟩ := Option.ne_none_iff_exists'.1 h
      exact .inl (plain.name n rfl).1
    · exact .inr (by simpa using h)
  refine ⟨⟨_, _, named, isDigit_of_mem_indexes ⟨property, indexes⟩, filled⟩,
    (segmentText_eq ⟨property, indexes⟩).symm, ?_⟩
  have values : (indexes.map (Nat.toDigits 10)).map Text.digitsValue = indexes := by
    rw [List.map_map]
    exact (List.map_congr_left fun i _ => Text.digitsValue_toDigits i).trans (List.map_id _)
  unfold WrittenSegment.segment
  dsimp only
  rw [values]
  cases property with
  | none => rfl
  | some n =>
    have some_ : n.toList.isEmpty = false := List.isEmpty_eq_false_iff.2 (plain.name n rfl).1
    show (⟨if n.toList.isEmpty then none else some (String.ofList n.toList), _⟩ : Segment) = _
    rw [some_, if_neg Bool.false_ne_true, String.ofList_toList]

theorem exists_written_of_plains {p : BodyPath} (plain : ∀ g ∈ p, g.Plain) :
    ∃ ws : List WrittenSegment, ws.map WrittenSegment.text = p.map segmentText ∧
      ws.map WrittenSegment.segment = p := by
  induction p with
  | nil => exact ⟨[], rfl, rfl⟩
  | cons g p ih =>
    obtain ⟨w, text, segment⟩ := exists_written_of_plain (plain g List.mem_cons_self)
    obtain ⟨ws, texts, segments⟩ := ih fun g hg => plain g (List.mem_cons_of_mem _ hg)
    exact ⟨w :: ws, by rw [List.map_cons, text, texts, List.map_cons],
      by rw [List.map_cons, segment, segments]⟩

/-- The text of segments is read as these segments. -/
theorem parse?_text_of_plain {p : BodyPath} (nonempty : p ≠ []) (plain : ∀ g ∈ p, g.Plain) :
    parse? (text p) = some p := by
  obtain ⟨ws, texts, segments⟩ := exists_written_of_plains plain
  have nonempty' : ws ≠ [] := by
    rintro rfl
    exact nonempty segments.symm
  refine (parse?_eq_some_iff _ _).2 ⟨⟨ws, nonempty'⟩, ?_, segments⟩
  unfold WrittenPath.text text
  rw [texts]

/-! ## Printing -/

/-- A segment as it is printed: its name, and each index as the text of the number that it is. -/
def printedSegment (g : Segment) : List Char :=
  (g.property.getD "").toList ++
    g.indexes.flatMap fun i => bracketed (Binary64.ofNat i).text.toList

/-- A path as it is printed. -/
def printed (p : BodyPath) : String :=
  String.ofList (['.'].intercalate (p.map printedSegment))

/-- Every index is a double exactly. -/
def Exact (p : BodyPath) : Prop := ∀ g ∈ p, ∀ i ∈ g.indexes, i < Nat.pow 2 53

theorem printed_of_exact {p : BodyPath} (exact_ : p.Exact) : printed p = text p := by
  unfold printed text
  congr 2
  refine List.map_congr_left fun g hg => ?_
  unfold printedSegment
  rw [segmentText_eq, List.flatMap_map]
  congr 1
  refine List.flatMap_congr fun i hi => ?_
  rw [Binary64.text_ofNat i (exact_ g hg i hi), String.toList_ofList]

/-- A written segment without the leading zeros of its indexes. -/
def WrittenSegment.trimmed (w : WrittenSegment) : List Char :=
  w.name ++ (w.indexes.map Text.trimZeros).flatMap bracketed

/-- A written path without the leading zeros of its indexes. -/
def WrittenPath.trimmed (w : WrittenPath) : String :=
  String.ofList (['.'].intercalate (w.segments.map WrittenSegment.trimmed))

theorem WrittenSegment.segmentText_segment (w : WrittenSegment) :
    segmentText w.segment = w.trimmed := by
  have digits : w.segment.indexes.map (Nat.toDigits 10) = w.indexes.map Text.trimZeros := by
    unfold segment
    rw [List.map_map]
    exact List.map_congr_left fun ds hds => Text.toDigits_digitsValue ds (w.digits ds hds).2
  rw [segmentText_eq, digits, trimmed]
  congr 1
  unfold segment
  cases w.name <;> simp

theorem WrittenPath.text_path (w : WrittenPath) : BodyPath.text w.path = w.trimmed := by
  unfold BodyPath.text path trimmed
  rw [List.map_map]
  congr 2
  exact List.map_congr_left fun s _ => s.segmentText_segment

/-- Exactly the texts of the grammar are read. Printed again, what was read is the text without the
leading zeros of its indexes; and what is printed of segments is read as these segments. -/
theorem parse?_exactly_written :
    (∀ s, (parse? s).isSome = true ↔ ∃ w : WrittenPath, w.text = s) ∧
    (∀ w : WrittenPath, ∃ p, parse? w.text = some p ∧ (p.Exact → p.printed = w.trimmed)) ∧
    ∀ p : BodyPath, p ≠ [] → (∀ g ∈ p, g.Plain) → p.Exact → parse? p.printed = some p := by
  refine ⟨fun s => ?_, fun w => ⟨w.path, parse?_text w, fun exact_ => ?_⟩, ?_⟩
  · rw [Option.isSome_iff_exists]
    constructor
    · rintro ⟨p, read⟩
      obtain ⟨w, text, -⟩ := (parse?_eq_some_iff s p).1 read
      exact ⟨w, text⟩
    · rintro ⟨w, rfl⟩
      exact ⟨w.path, parse?_text w⟩
  · rw [printed_of_exact exact_, w.text_path]
  · intro p nonempty plain exact_
    rw [printed_of_exact exact_]
    exact parse?_text_of_plain nonempty plain

/-- Two segments, the second without a name and with a leading zero in an index. -/
theorem parse?_exactly_written_zeros :
    let p : BodyPath := [⟨some "a", []⟩, ⟨none, [1, 2]⟩]
    parse? "a.[1][02]" = some p ∧ p.printed = "a.[1][2]" ∧ parse? p.printed = some p := by
  intro p
  let w : WrittenPath :=
    ⟨[⟨['a'], [], by simp [isBracket], nofun, by simp⟩,
      ⟨[], [['1'], ['0', '2']], nofun, by simp [Char.isDigit], by simp⟩], by simp⟩
  have exact_ : p.Exact := by simp [p, Exact]
  have plain : ∀ g ∈ p, g.Plain := by
    intro g hg
    simp only [p, List.mem_cons, List.not_mem_nil, or_false] at hg
    rcases hg with rfl | rfl
    · exact ⟨by simp [isBracket], by simp⟩
    · exact ⟨nofun, by simp⟩
  obtain ⟨q, read, back⟩ := parse?_exactly_written.2.1 w
  obtain rfl : p = q := Option.some.inj ((parse?_text w).symm.trans read)
  exact ⟨read, back exact_, parse?_exactly_written.2.2 p (by simp [p]) plain exact_⟩

end BodyPath

end HttpScript
