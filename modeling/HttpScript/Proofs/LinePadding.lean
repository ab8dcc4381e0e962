import HttpScript.Proofs.WrittenLines
import Mathlib.Data.List.Basic
import Mathlib.Data.List.TakeWhile
import Mathlib.Tactic.NthRewrite

/-!
# Padded lines

Spaces and tabs behind a line do not change what the line is, with one exception: a method that
stands alone is a text, and with two or more characters of blanks behind it it is a request line
without a target.

    classify (l ++ w) = (classify l).withRaw (l ++ w)       unless Opens l w    (classify_append)
    classify "GET  " = request "GET" "" "GET  "
-/

namespace HttpScript

namespace Text

/-- Spaces and tabs. -/
def IsPadding (w : List Char) : Prop := ∀ c ∈ w, c = ' ' ∨ c = '\t'

instance (w : List Char) : Decidable (IsPadding w) :=
  List.decidableBAll (fun c => c = ' ' ∨ c = '\t') w

variable {w : List Char}

/-- What both characters satisfy, all characters of the padding satisfy. -/
theorem IsPadding.forall (pad : IsPadding w) {p : Char → Prop} (space : p ' ') (tab : p '\t') :
    ∀ c ∈ w, p c := by
  intro c hc
  rcases pad c hc with rfl | rfl
  · exact space
  · exact tab

theorem isPadding_nil : IsPadding [] := fun _ => (nomatch ·)

/-! ## Trimming -/

theorem trimStart_append_padding (pad : IsPadding w) (s : List Char) :
    ∃ w', IsPadding w' ∧ trimStart (s ++ w) = trimStart s ++ w' := by
  have gone : w.dropWhile isBlank = [] := by
    rw [List.dropWhile_eq_nil_iff]
    exact pad.forall rfl rfl
  unfold trimStart
  rw [List.dropWhile_append, gone]
  split
  · next empty =>
    rw [List.isEmpty_iff.1 empty]
    exact ⟨[], isPadding_nil, rfl⟩
  · exact ⟨w, pad, rfl⟩

theorem trimEnd_append_padding (pad : IsPadding w) (s : List Char) :
    trimEnd (s ++ w) = trimEnd s := by
  unfold trimEnd
  rw [List.reverse_append, List.dropWhile_append_of_pos]
  intro c hc
  exact pad.forall (p := (isBlank · = true)) rfl rfl c (List.mem_reverse.1 hc)

theorem trim_append_padding (pad : IsPadding w) (s : List Char) : trim (s ++ w) = trim s := by
  obtain ⟨w', pad', start⟩ := trimStart_append_padding pad s
  rw [trim, start, trimEnd_append_padding pad', trim]

theorem all_isBlank_append (pad : IsPadding w) (s : List Char) :
    (s ++ w).all isBlank = s.all isBlank := by
  rw [List.all_append, List.all_eq_true.2 (pad.forall rfl rfl), Bool.and_true]

theorem any_isLineTerminator_append (pad : IsPadding w) (s : List Char) :
    (s ++ w).any isLineTerminator = s.any isLineTerminator := by
  rw [List.any_append, List.any_eq_false.2 (pad.forall (by decide) (by decide)), Bool.or_false]

/-! ## Words -/

theorem takeWhile_append_padding (pad : IsPadding w) {p : Char → Bool} (space : p ' ' = false)
    (tab : p '\t' = false) (s : List Char) : (s ++ w).takeWhile p = s.takeWhile p := by
  have none : w.takeWhile p = [] := by
    cases w with
    | nil => rfl
    | cons c w =>
      have outside : p c = false := pad.forall (p := (p · = false)) space tab c List.mem_cons_self
      exact List.takeWhile_cons_of_neg (by rw [outside]; exact Bool.false_ne_true)
  rw [List.takeWhile_append, none, List.append_nil]
  split
  · next whole => exact (List.takeWhile_prefix p).eq_of_length whole |>.symm
  · rfl

theorem dropWhile_append_padding (pad : IsPadding w) {p : Char → Bool} (space : p ' ' = false)
    (tab : p '\t' = false) (s : List Char) : (s ++ w).dropWhile p = s.dropWhile p ++ w := by
  have whole := List.takeWhile_append_dropWhile (p := p) (l := s ++ w)
  rw [takeWhile_append_padding pad space tab] at whole
  nth_rewrite 3 [← List.takeWhile_append_dropWhile (p := p) (l := s)] at whole
  rw [List.append_assoc] at whole
  exact List.append_cancel_left whole

/-- A word without blanks is not continued by padding. -/
theorem dropWord?_append_padding (pad : IsPadding w) {word : List Char}
    (visible : word.all (!isBlank ·.toLower) = true) (s : List Char) :
    dropWord? word (s ++ w) = (dropWord? word s).map (· ++ w) := by
  induction word generalizing s with
  | nil => rfl
  | cons x word ih =>
    rw [List.all_cons, Bool.and_eq_true, Bool.not_eq_true'] at visible
    obtain ⟨first, visible⟩ := visible
    cases s with
    | nil =>
      cases w with
      | nil => rfl
      | cons c w =>
        have blank : isBlank c.toLower = true :=
          pad.forall (p := (isBlank ·.toLower = true)) rfl rfl c List.mem_cons_self
        refine if_neg fun same => ?_
        rw [beq_iff_eq.1 same, blank] at first
        cases first
    | cons c s =>
      show (if x.toLower == c.toLower then dropWord? word (s ++ w) else none) =
        (if x.toLower == c.toLower then dropWord? word s else none).map (· ++ w)
      rw [ih visible]
      split <;> rfl

end Text

namespace Line

open Text

variable {w : List Char}

/-! ## Directives -/

theorem isPrefixOf_append_padding (pad : IsPadding w) (s : List Char) :
    "###".toList.isPrefixOf (s ++ w) = "###".toList.isPrefixOf s := by
  rw [Bool.eq_iff_iff, List.isPrefixOf_iff_prefix, List.isPrefixOf_iff_prefix]
  refine ⟨fun ⟨rest, whole⟩ => ?_, fun marked => marked.trans (List.prefix_append s w)⟩
  rcases List.append_eq_append_iff.1 whole with ⟨more, longer, -⟩ | ⟨more, cut, back⟩
  · exact ⟨more, longer.symm⟩
  · cases more with
    | nil =>
      rw [List.append_nil] at cut
      exact cut ▸ List.prefix_rfl
    | cons c more =>
      have mark : c = '#' := by
        have there : c ∈ "###".toList := cut ▸ List.mem_append_right _ List.mem_cons_self
        simpa using there
      have inside : c ∈ w := back ▸ List.mem_cons_self
      exact absurd mark (pad.forall (p := (· ≠ '#')) (by decide) (by decide) c inside)

theorem afterMark?_append (pad : IsPadding w) (s : List Char) :
    afterMark? (s ++ w) = (afterMark? s).map (· ++ w) := by
  have other : ∀ c r, w = c :: r → c ≠ '#' ∧ c ≠ '/' := by
    rintro c r rfl
    exact pad.forall (p := fun c => c ≠ '#' ∧ c ≠ '/') (by decide) (by decide) c List.mem_cons_self
  fun_cases afterMark? s with
  | case1 r => rfl
  | case2 r => rfl
  | case3 _ no_hash no_slashes =>
    rw [Option.map_none]
    unfold afterMark?
    split
    · next r whole =>
      cases s with
      | nil => exact absurd rfl (other _ _ whole).1
      | cons c s =>
        obtain ⟨rfl, -⟩ := List.cons.inj whole
        exact absurd rfl (no_hash s)
    · next r whole =>
      rcases s with _ | ⟨c, _ | ⟨d, s⟩⟩
      · exact absurd rfl (other _ _ whole).2
      · exact absurd rfl (other _ _ (List.cons.inj whole).2).2
      · obtain ⟨rfl, below⟩ := List.cons.inj whole
        obtain ⟨rfl, -⟩ := List.cons.inj below
        exact absurd rfl (no_slashes s)
    · rfl

theorem oneLine?_append (pad : IsPadding w) (s : List Char) : oneLine? (s ++ w) = oneLine? s := by
  obtain ⟨w', pad', start⟩ := trimStart_append_padding pad s
  unfold oneLine?
  dsimp only
  rw [start, any_isLineTerminator_append pad', trimEnd_append_padding pad']

theorem directiveName?_append (pad : IsPadding w) (s : List Char) :
    directiveName? (s ++ w) = directiveName? s := by
  have visible : "@name".toList.all (!isBlank ·.toLower) = true := by decide +kernel
  unfold directiveName?
  rw [afterMark?_append pad]
  cases afterMark? s with
  | none => rfl
  | some r =>
    obtain ⟨w', pad', start⟩ := trimStart_append_padding pad r
    show (dropWord? "@name".toList (trimStart (r ++ w))).bind _ =
      (dropWord? "@name".toList (trimStart r)).bind _
    rw [start, dropWord?_append_padding pad' visible]
    cases dropWord? "@name".toList (trimStart r) with
    | none => rfl
    | some r =>
      show (if (r ++ w').head?.any isBlank && !(trim (r ++ w')).isEmpty &&
          (trim (r ++ w')).all (!isBlank ·) then some (trim (r ++ w')) else none) =
        if r.head?.any isBlank && !(trim r).isEmpty && (trim r).all (!isBlank ·) then
          some (trim r) else none
      rw [trim_append_padding pad']
      cases r with
      | nil => simp [show trim [] = [] from rfl]
      | cons c r => rfl

/-- The value behind a sign, if a text begins with the sign. -/
def valueBehind? (sign : Char) (s : List Char) : Option (List Char) :=
  match trimStart s with
  | c :: v => if c = sign then oneLine? v else none
  | [] => none

theorem valueBehind?_append (pad : IsPadding w) {sign : Char} (visible : isBlank sign = false)
    (s : List Char) : valueBehind? sign (s ++ w) = valueBehind? sign s := by
  obtain ⟨w', pad', start⟩ := trimStart_append_padding pad s
  unfold valueBehind?
  rw [start]
  cases trimStart s with
  | cons c v =>
    dsimp only [List.cons_append]
    rw [oneLine?_append pad']
  | nil =>
    cases w' with
    | nil => rfl
    | cons c w' =>
      refine if_neg fun same => ?_
      have blank : isBlank c = true :=
        pad'.forall (p := (isBlank · = true)) rfl rfl c List.mem_cons_self
      rw [same, visible] at blank
      cases blank

theorem declaration?_of_at (s : List Char) :
    declaration? ('@' :: s) = if !isIdent (s.takeWhile isIdentRest) then none else
      (valueBehind? '=' (s.dropWhile isIdentRest)).map (s.takeWhile isIdentRest, ·) := by
  unfold declaration? valueBehind?
  simp only
  split
  · rfl
  cases trimStart (s.dropWhile isIdentRest) with
  | nil => rfl
  | cons c v =>
    by_cases sign : c = '='
    · rw [sign]
      rfl
    · split
      · next same => exact absurd (List.cons.inj same).1 sign
      · have none : (if c = '=' then oneLine? v else none) = none := if_neg sign
        exact (congrArg (Option.map _) none).symm

theorem declaration?_of_ne {c : Char} (other : c ≠ '@') (s : List Char) :
    declaration? (c :: s) = none := by
  unfold declaration?
  split
  · next same => exact absurd (List.cons.inj same).1 other
  · rfl

theorem declaration?_append (pad : IsPadding w) (s : List Char) :
    declaration? (s ++ w) = declaration? s := by
  rcases s with _ | ⟨c, s⟩
  · cases w with
    | nil => rfl
    | cons c w =>
      exact declaration?_of_ne (pad.forall (p := (· ≠ '@')) (by decide) (by decide) c
        List.mem_cons_self) w
  by_cases at_ : c = '@'
  · rw [at_, List.cons_append, declaration?_of_at, declaration?_of_at,
      takeWhile_append_padding pad (by rfl) (by rfl),
      dropWhile_append_padding pad (by rfl) (by rfl), valueBehind?_append pad (by rfl)]
  · rw [List.cons_append, declaration?_of_ne at_, declaration?_of_ne at_]

theorem header?_eq (s : List Char) :
    header? s = if ((trimStart s).takeWhile isTokenChar).isEmpty then none else
      (valueBehind? ':' ((trimStart s).dropWhile isTokenChar)).map fun v =>
        (String.ofList ((trimStart s).takeWhile isTokenChar), String.ofList v) := by
  unfold header? valueBehind?
  dsimp only
  split
  · rfl
  cases trimStart ((trimStart s).dropWhile isTokenChar) with
  | nil => rfl
  | cons c v =>
    by_cases sign : c = ':'
    · rw [sign]
      rfl
    · split
      · next same => exact absurd (List.cons.inj same).1 sign
      · have none : (if c = ':' then oneLine? v else none) = none := if_neg sign
        exact (congrArg (Option.map _) none).symm

theorem header?_append (pad : IsPadding w) (s : List Char) : header? (s ++ w) = header? s := by
  obtain ⟨w', pad', start⟩ := trimStart_append_padding pad s
  have space : isTokenChar ' ' = false := by decide +kernel
  have tab : isTokenChar '\t' = false := by decide +kernel
  rw [header?_eq, header?_eq, start, takeWhile_append_padding pad' space tab,
    dropWhile_append_padding pad' space tab, valueBehind?_append pad' (by rfl)]

/-! ## Request lines -/

/-- Whether blanks `r` behind a method make no target as they stand, but one with further `w`. -/
def OpensTarget (r w : List Char) : Prop :=
  r.all isBlank = true ∧ target? r = none ∧ w ≠ [] ∧ 2 ≤ (r ++ w).length

/-- Whether a line is a method with blanks only, and becomes a request line by the padding `w`. -/
def Opens (l w : List Char) : Prop :=
  ∃ m ∈ methods, ∃ r ∈ dropWord? m.toList l, OpensTarget r w

instance (r w : List Char) : Decidable (OpensTarget r w) :=
  inferInstanceAs (Decidable (_ ∧ _ ∧ _ ∧ _))

instance (l w : List Char) : Decidable (Opens l w) :=
  inferInstanceAs (Decidable (∃ m ∈ methods, ∃ r ∈ dropWord? m.toList l, OpensTarget r w))

/-- Blanks alone are an empty target when the last of two or more can stand on the line. -/
theorem target?_of_isBlank {s : List Char} (blank : s.all isBlank = true) :
    target? s = if 2 ≤ s.length && !s.getLast?.any isLineTerminator then some [] else none := by
  have gone : trimStart s = [] := List.dropWhile_eq_nil_iff.2 (List.all_eq_true.1 blank)
  unfold target?
  cases s with
  | nil => rfl
  | cons c s =>
    have first : isBlank c = true := List.all_eq_true.1 blank c List.mem_cons_self
    dsimp only
    rw [gone, List.head?_cons, Option.any_some, first]
    rfl

theorem target?_append_of_isBlank (pad : IsPadding w) (filled : w ≠ []) {r : List Char}
    (blank : r.all isBlank = true) :
    target? (r ++ w) = if 2 ≤ (r ++ w).length then some [] else none := by
  have last : (r ++ w).getLast?.any isLineTerminator = false := by
    rw [List.getLast?_append_of_ne_nil _ filled]
    cases found : w.getLast? with
    | none => rfl
    | some c =>
      exact pad.forall (p := (isLineTerminator · = false)) rfl rfl c (List.mem_of_getLast? found)
  rw [target?_of_isBlank (by rwa [all_isBlank_append pad]), last]
  simp

theorem target?_of_opensTarget {r : List Char} (pad : IsPadding w) (opens : OpensTarget r w) :
    target? (r ++ w) = some [] := by
  obtain ⟨blank, -, filled, long⟩ := opens
  rw [target?_append_of_isBlank pad filled blank, if_pos long]

theorem target?_append (pad : IsPadding w) {r : List Char} (closed : ¬ OpensTarget r w) :
    target? (r ++ w) = target? r := by
  by_cases filled : w = []
  · rw [filled, List.append_nil]
  by_cases blank : r.all isBlank = true
  case pos =>
    have alone := target?_of_isBlank blank
    rw [target?_append_of_isBlank pad filled blank]
    by_cases long : 2 ≤ (r ++ w).length
    · have some_target : target? r ≠ none := fun none => closed ⟨blank, none, filled, long⟩
      rw [if_pos long]
      rw [alone] at some_target ⊢
      split at some_target
      · next two => rw [if_pos two]
      · exact absurd rfl some_target
    · have short : ¬ 2 ≤ r.length := by
        rw [List.length_append] at long
        omega
      rw [if_neg long, alone, decide_eq_false short]
      rfl
  case neg =>
    obtain ⟨w', pad', start⟩ := trimStart_append_padding pad r
    have inside : trimStart r ≠ [] := fun gone =>
      blank (List.all_eq_true.2 (List.dropWhile_eq_nil_iff.1 gone))
    have first : (r ++ w).head? = r.head? := by
      cases r with
      | nil => exact absurd rfl blank
      | cons c r => rfl
    have filled' : (trimStart r ++ w').isEmpty = (trimStart r).isEmpty := by
      rw [List.isEmpty_eq_false_iff.2 inside, List.isEmpty_eq_false_iff]
      exact List.append_ne_nil_of_left_ne_nil inside w'
    unfold target?
    dsimp only
    rw [first, start, any_isLineTerminator_append pad', filled', trimEnd_append_padding pad',
      List.isEmpty_eq_false_iff.2 inside]
    rfl

theorem methods_visible {m : String} (named : m ∈ methods) :
    m.toList.all (!isBlank ·.toLower) = true := by
  refine List.all_eq_true.2 fun c hc => ?_
  have letter := List.all_eq_true.1 (methods_letters m named).2 c hc
  rw [← Text.isAlpha_toLower] at letter
  rw [isBlank_of_isAlphanum (by rw [Char.isAlphanum, letter]; rfl)]
  rfl

theorem dropWord?_method_append (pad : IsPadding w) {m : String} (named : m ∈ methods)
    {s r : List Char} (dropped : dropWord? m.toList s = some r) :
    dropWord? m.toList (s ++ w) = some (r ++ w) := by
  rw [dropWord?_append_padding pad (methods_visible named), dropped]
  rfl

theorem request?_of_no_method {s : List Char} (none : ∀ m ∈ methods, dropWord? m.toList s = none) :
    request? s = .none := by
  unfold request?
  rw [List.findSome?_eq_none_iff]
  intro m named
  rw [none m named]
  rfl

theorem request?_append_padding (pad : IsPadding w) {l : List Char} (closed : ¬ Opens l w) :
    request? (l ++ w) = request? l := by
  by_cases begins : ∃ m ∈ methods, ∃ r, dropWord? m.toList l = some r
  · obtain ⟨m, named, r, dropped⟩ := begins
    have further := dropWord?_method_append pad named dropped
    rw [request?_of_dropWord? named dropped, request?_of_dropWord? named further,
      target?_append pad fun opens => closed ⟨m, named, r, dropped, opens⟩]
  · have none : ∀ m ∈ methods, dropWord? m.toList l = none := fun m named =>
      Option.eq_none_iff_forall_ne_some.2 fun r dropped => begins ⟨m, named, r, dropped⟩
    have none' : ∀ m ∈ methods, dropWord? m.toList (l ++ w) = .none := fun m named => by
      rw [dropWord?_append_padding pad (methods_visible named), none m named]
      rfl
    rw [request?_of_no_method none, request?_of_no_method none']

theorem request?_of_opens (pad : IsPadding w) {l : List Char} (opens : Opens l w) :
    request? l = none ∧ ∃ m, request? (l ++ w) = some (m, []) := by
  obtain ⟨m, named, r, dropped, opens⟩ := opens
  have further := dropWord?_method_append pad named dropped
  constructor
  · rw [request?_of_dropWord? named dropped, opens.2.1]
    rfl
  · rw [request?_of_dropWord? named further, target?_of_opensTarget pad opens]
    exact ⟨m, rfl⟩

/-! ## Kinds -/

/-- The line with another text as it was written. -/
def withRaw (raw : String) : Line → Line
  | .blank _ => .blank raw
  | .request method url _ => .request method url raw
  | .text _ => .text raw
  | kind => kind

/-- Padding changes nothing but the text as it was written. -/
theorem classify_append {l w : String} (pad : IsPadding w.toList)
    (closed : ¬ Opens l.toList w.toList) : classify (l ++ w) = (classify l).withRaw (l ++ w) := by
  have comment : (afterMark? (trimStart (l.toList ++ w.toList))).isSome =
      (afterMark? (trimStart l.toList)).isSome := by
    obtain ⟨w', pad', start⟩ := trimStart_append_padding pad l.toList
    rw [start, afterMark?_append pad', Option.isSome_map]
  unfold classify
  dsimp only
  rw [String.toList_append, isPrefixOf_append_padding pad, directiveName?_append pad,
    declaration?_append pad, comment, all_isBlank_append pad, request?_append_padding pad closed]
  split
  · rfl
  split
  · rfl
  split
  · rfl
  split
  · rfl
  split
  · rfl
  split <;> rfl

/-- A line that begins with a method begins with a letter. -/
theorem exists_letter_of_method {m : String} (named : m ∈ methods) {s r : List Char}
    (dropped : dropWord? m.toList s = some r) : ∃ c s', s = c :: s' ∧ c.isAlpha = true := by
  obtain ⟨filled, letters⟩ := methods_letters m named
  obtain ⟨front, rfl, same⟩ := append_of_dropWord? dropped
  obtain ⟨d, rest, spelled⟩ := List.exists_cons_of_ne_nil filled
  rw [spelled] at same letters
  cases front with
  | nil => cases same
  | cons c front =>
    refine ⟨c, front ++ r, rfl, ?_⟩
    have letter : d.isAlpha = true := List.all_eq_true.1 letters d List.mem_cons_self
    rw [← Text.isAlpha_toLower, (List.cons.inj same).1,
      Text.isAlpha_toLower, letter]

/-- A method that stands alone is a text, and padding makes it a request line without a target. -/
theorem classify_of_opens {l w : String} (pad : IsPadding w.toList)
    (opens : Opens l.toList w.toList) :
    classify l = .text l ∧ ∃ m, classify (l ++ w) = .request m "" (l ++ w) := by
  obtain ⟨alone, m, padded⟩ := request?_of_opens pad opens
  obtain ⟨_, named, r, dropped, -⟩ := opens
  obtain ⟨c, s, chars, letter⟩ := exists_letter_of_method named dropped
  have visible : isBlank c = false := isBlank_of_isAlphanum (by rw [Char.isAlphanum, letter]; rfl)
  have chars' : (l ++ w).toList = c :: (s ++ w.toList) := by
    rw [String.toList_append, chars]
    rfl
  rw [classify_of_head chars visible (ne_mark_of_isAlpha letter),
    classify_of_head chars' visible (ne_mark_of_isAlpha letter), String.toList_append, alone,
    padded]
  exact ⟨rfl, m, rfl⟩

end Line

end HttpScript
