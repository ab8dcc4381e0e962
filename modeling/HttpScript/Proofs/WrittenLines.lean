import HttpScript.Document
import HttpScript.Proofs.LetterCase
import Mathlib.Logic.Basic

/-!
# Lines as they are written

A line that is written in one of the documented forms is read as that form, with the parts that it
was written from.

    @n = v                    a variable           (classify_declarationLine)
    # @name x                 a name               (classify_nameLine)
    METHOD url HTTP/1.1       a request            (classify_requestLine)
    Name: value               a header             (header?_headerLine)

A text of such lines has them as its lines, whichever line end stands between them
(`linesOf_intercalate`).
-/

namespace HttpScript

namespace Text

/-! ## Trimmed texts -/

/-- A text that stands on one line, with nothing to trim at either end. -/
structure IsValue (v : List Char) : Prop where
  trimmed : trim v = v
  whole : v.any isLineTerminator = false

instance (v : List Char) : Decidable (IsValue v) :=
  decidable_of_iff (trim v = v ∧ v.any isLineTerminator = false)
    ⟨fun ⟨trimmed, whole⟩ => ⟨trimmed, whole⟩, fun ⟨trimmed, whole⟩ => ⟨trimmed, whole⟩⟩

theorem trimStart_of_trim {v : List Char} (trimmed : trim v = v) : trimStart v = v := by
  have inner : (trimStart v).length ≤ v.length := (List.dropWhile_suffix _).length_le
  have outer : (trim v).length ≤ (trimStart v).length := by
    have shorter := (List.dropWhile_suffix isBlank (l := (trimStart v).reverse)).length_le
    rw [List.length_reverse] at shorter
    unfold trim trimEnd
    rwa [List.length_reverse]
  rw [trimmed] at outer
  exact (List.dropWhile_suffix _).eq_of_length (Nat.le_antisymm inner outer)

theorem trimEnd_of_trim {v : List Char} (trimmed : trim v = v) : trimEnd v = v := by
  unfold trim at trimmed
  rwa [trimStart_of_trim trimmed] at trimmed

theorem trimStart_cons {c : Char} (visible : isBlank c = false) (s : List Char) :
    trimStart (c :: s) = c :: s :=
  List.dropWhile_cons_of_neg (by rw [visible]; exact Bool.false_ne_true)

/-- A text that begins with no blank is not shortened in front of anything. -/
theorem trimStart_append {s : List Char} (filled : s ≠ []) (trimmed : trimStart s = s)
    (r : List Char) : trimStart (s ++ r) = s ++ r := by
  cases s with
  | nil => exact absurd rfl filled
  | cons c s =>
    have visible : isBlank c = false := by
      rw [Bool.eq_false_iff]
      intro blank
      have shorter : (trimStart (c :: s)).length ≤ s.length := by
        unfold trimStart
        rw [List.dropWhile_cons_of_pos blank]
        exact (List.dropWhile_suffix _).length_le
      rw [trimmed, List.length_cons] at shorter
      omega
    exact trimStart_cons visible (s ++ r)

/-- A text whose last character is no blank is not shortened, whatever stands before that. -/
theorem trimEnd_concat (s : List Char) {c : Char} (visible : isBlank c = false) :
    trimEnd (s ++ [c]) = s ++ [c] := by
  unfold trimEnd
  rw [List.reverse_append, List.reverse_singleton, List.singleton_append,
    List.dropWhile_cons_of_neg (by rw [visible]; exact Bool.false_ne_true), List.reverse_cons,
    List.reverse_reverse]

theorem trim_of_visible {x : List Char} (visible : x.all (!isBlank ·) = true) : trim x = x := by
  have unchanged (s : List Char) (h : s.all (!isBlank ·) = true) : s.dropWhile isBlank = s := by
    cases s with
    | nil => rfl
    | cons c s =>
      rw [List.all_cons, Bool.and_eq_true, Bool.not_eq_true'] at h
      exact trimStart_cons h.1 s
  unfold trim trimEnd trimStart
  rw [unchanged x visible, unchanged x.reverse (by rwa [List.all_reverse]), List.reverse_reverse]

/-! ## Words -/

theorem dropWord?_append {word s : List Char} (same : s.map Char.toLower = word.map Char.toLower)
    (r : List Char) : dropWord? word (s ++ r) = some r := by
  induction word generalizing s with
  | nil =>
    obtain rfl := List.map_eq_nil_iff.1 same
    rfl
  | cons w word ih =>
    cases s with
    | nil => cases same
    | cons c s =>
      obtain ⟨head, tail⟩ := List.cons.inj same
      show (if w.toLower == c.toLower then dropWord? word (s ++ r) else none) = some r
      rw [head, beq_self_eq_true, if_pos rfl]
      exact ih tail

theorem append_of_dropWord? {word s r : List Char} (h : dropWord? word s = some r) :
    ∃ front, s = front ++ r ∧ front.map Char.toLower = word.map Char.toLower := by
  induction word generalizing s with
  | nil =>
    obtain rfl : s = r := Option.some.inj h
    exact ⟨[], rfl, rfl⟩
  | cons w word ih =>
    cases s with
    | nil => cases h
    | cons c s =>
      obtain ⟨same, h⟩ | ⟨-, h⟩ := ite_eq_iff.1 h
      · obtain ⟨front, rfl, lower⟩ := ih h
        exact ⟨c :: front, rfl, by rw [List.map_cons, List.map_cons, lower, eq_of_beq same]⟩
      · cases h

/-! ## Letters -/

theorem isBlank_of_isAlphanum {c : Char} (h : c.isAlphanum = true) : isBlank c = false := by
  have range : ((65 ≤ c.toNat ∧ c.toNat ≤ 90) ∨ (97 ≤ c.toNat ∧ c.toNat ≤ 122)) ∨
      (48 ≤ c.toNat ∧ c.toNat ≤ 57) := by
    rcases (Bool.or_eq_true _ _).mp h with letter | digit
    · exact .inl (toNat_of_isAlpha letter)
    · exact .inr (Char.isDigit_iff_toNat.1 digit)
  unfold isBlank
  simp only [Bool.or_eq_false_iff, Bool.and_eq_false_iff, decide_eq_false_iff_not,
    beq_eq_false_iff_ne]
  omega

/-! ## Lines joined -/

/-- The line ends. -/
def lineEnds : List String := ["\n", "\r\n", "\r"]

/-- Whether the text has a line end in it. -/
def isBroken (s : String) : Bool := s.toList.any isLineEnd

theorem isBroken_append (a b : String) : isBroken (a ++ b) = (isBroken a || isBroken b) := by
  rw [isBroken, String.toList_append, List.any_append]
  rfl

/-- Characters none of which is a line end make no line end. -/
theorem isBroken_of_all {s : String} {p : Char → Bool} (all : s.toList.all p = true)
    (lf : p '\n' = false) (cr : p '\r' = false) : isBroken s = false := by
  rw [isBroken, List.any_eq_false]
  intro c hc ends
  have inner := List.all_eq_true.1 all c hc
  rcases (Bool.or_eq_true _ _).mp ends with h | h
  · rw [eq_of_beq h, lf] at inner
    cases inner
  · rw [eq_of_beq h, cr] at inner
    cases inner

theorem isBroken_of_isValue {v : String} (value : IsValue v.toList) : isBroken v = false := by
  have inner : v.toList.all (!isLineTerminator ·) = true := by
    rw [← List.not_any_eq_all_not, value.whole]
    rfl
  exact isBroken_of_all inner rfl rfl

theorem not_mem_of_isBroken {s : String} (whole : isBroken s = false) :
    '\n' ∉ s.toList ∧ '\r' ∉ s.toList := by
  rw [isBroken, List.any_eq_false] at whole
  exact ⟨fun h => whole _ h rfl, fun h => whole _ h rfl⟩

/-- Between lines stands one line end, unless CR and LF meet. -/
theorem lines_append_lineEnd {l e s : List Char} (no_lf : '\n' ∉ l) (no_cr : '\r' ∉ l)
    (ends : e = ['\n'] ∨ e = ['\r', '\n'] ∨ e = ['\r'] ∧ s.head? ≠ some '\n') :
    lines (l ++ (e ++ s)) = l :: lines s := by
  induction l with
  | nil =>
    rcases ends with rfl | rfl | ⟨rfl, apart⟩
    · rfl
    · rfl
    · exact lines_cons_of_isLineEnd rfl fun _ => apart
  | cons c l ih =>
    obtain ⟨lf, no_lf⟩ := not_or.1 (mt List.mem_cons.2 no_lf)
    obtain ⟨cr, no_cr⟩ := not_or.1 (mt List.mem_cons.2 no_cr)
    exact lines_cons_of_inside (isLineEnd_eq_false (Ne.symm lf) (Ne.symm cr)) (ih no_lf no_cr)

theorem not_mem_intercalate {e : String} {c : Char} (end_ : c ∉ e.toList) {ls : List String}
    (inner : ∀ l ∈ ls, c ∉ l.toList) : c ∉ (e.intercalate ls).toList := by
  induction ls with
  | nil => exact List.not_mem_nil
  | cons l ls ih =>
    have first := inner l List.mem_cons_self
    cases ls with
    | nil =>
      rw [String.intercalate_singleton]
      exact first
    | cons l' ls =>
      rw [String.intercalate_cons_cons, String.toList_append, String.toList_append]
      simp only [List.mem_append, not_or]
      exact ⟨⟨first, end_⟩, ih fun k hk => inner k (List.mem_cons_of_mem _ hk)⟩

/-- Lines joined by one kind of line end are the lines of the text. -/
theorem lines_intercalate {e : String} (ends : e ∈ lineEnds) {ls : List String} (filled : ls ≠ [])
    (whole : ∀ l ∈ ls, isBroken l = false) :
    lines (e.intercalate ls).toList = ls.map String.toList := by
  induction ls with
  | nil => exact absurd rfl filled
  | cons l ls ih =>
    obtain ⟨no_lf, no_cr⟩ := not_mem_of_isBroken (whole l List.mem_cons_self)
    have others : ∀ k ∈ ls, isBroken k = false :=
      fun k hk => whole k (List.mem_cons_of_mem _ hk)
    cases ls with
    | nil =>
      rw [String.intercalate_singleton, lines_of_line _ no_lf no_cr]
      rfl
    | cons l' ls =>
      have cut : e.toList = ['\n'] ∨ e.toList = ['\r', '\n'] ∨
          e.toList = ['\r'] ∧ (e.intercalate (l' :: ls)).toList.head? ≠ some '\n' := by
        simp only [lineEnds, List.mem_cons, List.not_mem_nil, or_false] at ends
        rcases ends with rfl | rfl | rfl
        · exact .inl (by decide)
        · exact .inr (.inl (by decide))
        · have no_lf : '\n' ∉ ("\r".intercalate (l' :: ls)).toList :=
            not_mem_intercalate (by decide) fun k hk => (not_mem_of_isBroken (others k hk)).1
          exact .inr (.inr ⟨by decide, fun h => no_lf (List.mem_of_head? h)⟩)
      rw [String.intercalate_cons_cons, String.toList_append, String.toList_append,
        List.append_assoc, lines_append_lineEnd no_lf no_cr cut,
        ih (List.cons_ne_nil _ _) others]
      rfl

end Text

namespace Line

open Text

/-! ## Forms -/

/-- A line that declares a variable. -/
def declarationLine (n v : String) : String := "@" ++ n ++ " = " ++ v

/-- A line that gives the request below it a name. -/
def nameLine (x : String) : String := "# @name " ++ x

/-- A line that begins a request. -/
def requestLine (method url : String) : String := method ++ " " ++ url ++ " HTTP/1.1"

/-- A line that holds a header. -/
def headerLine (n v : String) : String := n ++ ": " ++ v

theorem oneLine?_of_isValue {v : List Char} (value : IsValue v) : oneLine? (' ' :: v) = some v := by
  have start : trimStart (' ' :: v) = v := trimStart_of_trim value.trimmed
  unfold oneLine?
  dsimp only
  rw [start, value.whole, if_neg Bool.false_ne_true, trimEnd_of_trim value.trimmed]

/-! ## Directives -/

theorem declaration?_of_isIdent {n v : List Char} (ident : isIdent n = true) (value : IsValue v) :
    declaration? ('@' :: (n ++ ' ' :: '=' :: ' ' :: v)) = some (n, v) := by
  have inner := Text.isIdentRest_of_isIdent ident
  have name : (n ++ ' ' :: '=' :: ' ' :: v).takeWhile isIdentRest = n := by
    rw [List.takeWhile_append_of_pos inner]
    exact List.append_nil n
  have rest : (n ++ ' ' :: '=' :: ' ' :: v).dropWhile isIdentRest = ' ' :: '=' :: ' ' :: v :=
    List.dropWhile_append_of_pos inner
  have start : trimStart (' ' :: '=' :: ' ' :: v) = '=' :: ' ' :: v := rfl
  simp only [declaration?, name, rest, start, ident, oneLine?_of_isValue value]
  rfl

theorem classify_declarationLine {n v : String} (ident : isIdent n.toList = true)
    (value : IsValue v.toList) : classify (declarationLine n v) = .variable n v := by
  have chars : (declarationLine n v).toList =
      '@' :: (n.toList ++ ' ' :: '=' :: ' ' :: v.toList) := by
    simp [declarationLine]
  unfold classify
  dsimp only
  rw [chars, declaration?_of_isIdent ident value]
  show Line.variable (String.ofList n.toList) (String.ofList v.toList) = _
  rw [String.ofList_toList, String.ofList_toList]

theorem classify_nameLine {x : String} (filled : x ≠ "")
    (visible : x.toList.all (!isBlank ·) = true) : classify (nameLine x) = .name x := by
  have chars : (nameLine x).toList =
      '#' :: ' ' :: '@' :: 'n' :: 'a' :: 'm' :: 'e' :: ' ' :: x.toList := by
    simp [nameLine]
  have nonempty : x.toList.isEmpty = false := by
    rw [List.isEmpty_eq_false_iff]
    exact fun h => filled (String.toList_eq_nil_iff.1 h)
  have trimmed : trim (' ' :: x.toList) = x.toList := by
    show trimEnd (trimStart x.toList) = _
    exact trim_of_visible visible
  have directive : directiveName? (nameLine x).toList = some x.toList := by
    rw [chars]
    show (if (' ' :: x.toList).head?.any isBlank && !(trim (' ' :: x.toList)).isEmpty &&
      (trim (' ' :: x.toList)).all (!isBlank ·) then some (trim (' ' :: x.toList)) else none) = _
    rw [trimmed, nonempty, visible]
    rfl
  have other : ¬ "###".toList.isPrefixOf (nameLine x).toList = true := by
    rw [chars]
    exact Bool.false_ne_true
  unfold classify
  dsimp only
  rw [if_neg other, directive]
  dsimp only
  rw [String.ofList_toList]

/-! ## Lines that say nothing by themselves -/

/-- A line that begins with none of the marks is a request or a text. -/
theorem classify_of_head {l : String} {c : Char} {r : List Char} (chars : l.toList = c :: r)
    (visible : isBlank c = false) (marks : c ≠ '#' ∧ c ≠ '/' ∧ c ≠ '@') :
    classify l = ((request? l.toList).map fun e => .request e.1 (String.ofList e.2) l).getD
      (.text l) := by
  obtain ⟨hash, slash, at_⟩ := marks
  have delimiter : ¬ "###".toList.isPrefixOf l.toList = true := by
    rw [chars]
    intro h
    obtain ⟨_, h⟩ := List.isPrefixOf_iff_prefix.1 h
    exact hash (List.cons.inj h).1.symm
  have unmarked : afterMark? (c :: r) = none := by
    unfold afterMark?
    split
    · next h => exact absurd (List.cons.inj h).1 hash
    · next h => exact absurd (List.cons.inj h).1 slash
    · rfl
  have name : directiveName? l.toList = none := by
    rw [chars]
    unfold directiveName?
    rw [unmarked]
    rfl
  have declared : declaration? l.toList = none := by
    rw [chars]
    unfold declaration?
    split
    · next h => exact absurd (List.cons.inj h).1 at_
    · rfl
  have comment : ¬ (afterMark? (trimStart l.toList)).isSome = true := by
    rw [chars, trimStart_cons visible, unmarked]
    exact Bool.false_ne_true
  have blank : ¬ l.toList.all isBlank = true := by
    rw [chars, List.all_cons, visible]
    exact Bool.false_ne_true
  unfold classify
  dsimp only
  rw [if_neg delimiter, name, declared]
  dsimp only
  rw [if_neg comment, if_neg blank]
  cases request? l.toList with
  | none => rfl
  | some e => rfl

/-! ## Request lines -/

/-- The HTTP version at the end of a request line, with the blank in front of it. -/
def version : List Char := [' ', 'H', 'T', 'T', 'P', '/', '1', '.', '1']

theorem dropVersion_append {url : List Char} (trimmed : trim url = url) :
    dropVersion (url ++ version) = url := by
  have back : (url ++ version).reverse =
      '1' :: '.' :: '1' :: '/' :: 'P' :: 'T' :: 'T' :: 'H' :: ' ' :: url.reverse := by
    rw [List.reverse_append]
    rfl
  unfold dropVersion
  rw [back]
  exact trimEnd_of_trim trimmed

/-- Of the target only the version that ends the line is taken away. -/
theorem target?_of_isValue {url : List Char} (filled : url ≠ []) (value : IsValue url) :
    target? (' ' :: (url ++ version)) = some url := by
  have start : trimStart (' ' :: (url ++ version)) = url ++ version :=
    trimStart_append filled (trimStart_of_trim value.trimmed) version
  have whole : (url ++ version).any isLineTerminator = false := by
    rw [List.any_append, value.whole]
    rfl
  have nonempty : (!(url ++ version).isEmpty) = true := by
    rw [List.isEmpty_eq_false_iff.2 (List.append_ne_nil_of_left_ne_nil filled version)]
    rfl
  have last : trimEnd (url ++ version) = url ++ version := by
    have cut : url ++ version = (url ++ [' ', 'H', 'T', 'T', 'P', '/', '1', '.']) ++ ['1'] := by
      rw [List.append_assoc]
      rfl
    rw [cut]
    exact trimEnd_concat _ (by decide)
  unfold target?
  dsimp only
  rw [start, whole, if_neg Bool.false_ne_true, if_pos nonempty, last,
    dropVersion_append value.trimmed]
  rfl

/-- No method is the beginning of another. -/
theorem methods_apart : ∀ w ∈ methods, ∀ m ∈ methods,
    (w.toList.map Char.toLower).isPrefixOf (m.toList.map Char.toLower) = true → w = m := by
  decide +kernel

/-- A text begins with one method at most. -/
theorem eq_of_dropWord?_method {w m : String} (hw : w ∈ methods) (hm : m ∈ methods)
    {s r r' : List Char} (h : dropWord? w.toList s = some r) (h' : dropWord? m.toList s = some r') :
    w = m := by
  obtain ⟨front, rfl, lower⟩ := append_of_dropWord? h
  obtain ⟨front', cut, lower'⟩ := append_of_dropWord? h'
  have here : w.toList.map Char.toLower <+: (front ++ r).map Char.toLower := by
    rw [← lower, List.map_append]
    exact List.prefix_append _ _
  have there : m.toList.map Char.toLower <+: (front ++ r).map Char.toLower := by
    rw [← lower', cut, List.map_append]
    exact List.prefix_append _ _
  rcases List.prefix_or_prefix_of_prefix here there with shorter | shorter
  · exact methods_apart w hw m hm (List.isPrefixOf_iff_prefix.2 shorter)
  · exact (methods_apart m hm w hw (List.isPrefixOf_iff_prefix.2 shorter)).symm

/-- What follows the method decides about the request line. -/
theorem request?_of_dropWord? {m : String} (named : m ∈ methods) {s r : List Char}
    (dropped : dropWord? m.toList s = some r) : request? s = (target? r).map (m, ·) := by
  cases found : request? s with
  | none =>
    unfold request? at found
    have none := List.findSome?_eq_none_iff.1 found m named
    rw [dropped] at none
    cases read : target? r with
    | none => rfl
    | some url =>
      change Option.bind (target? r) _ = _ at none
      rw [read] at none
      cases none
  | some x =>
    obtain ⟨w, hw, read⟩ := List.exists_of_findSome?_eq_some found
    obtain ⟨r', dropped', read⟩ := Option.bind_eq_some_iff.1 read
    obtain rfl := eq_of_dropWord?_method hw named dropped' dropped
    obtain rfl := Option.some.inj (dropped'.symm.trans dropped)
    obtain ⟨url, read, pair⟩ := Option.bind_eq_some_iff.1 read
    rw [read]
    exact pair.symm

theorem map_toLower_of_toUpper {method m : String} (same : method.toUpper = m) :
    method.toList.map Char.toLower = m.toList.map Char.toLower := by
  rw [← same, String.toUpper, String.toList_map, List.map_map]
  exact List.map_congr_left fun c _ => (Text.toLower_toUpper c).symm

theorem request?_append {method : String} {url : List Char} (named : method.toUpper ∈ methods)
    (filled : url ≠ []) (value : IsValue url) :
    request? (method.toList ++ ' ' :: (url ++ version)) = some (method.toUpper, url) := by
  have same := map_toLower_of_toUpper (rfl : method.toUpper = method.toUpper)
  rw [request?_of_dropWord? named (dropWord?_append same (' ' :: (url ++ version))),
    target?_of_isValue filled value]
  rfl

theorem methods_letters : ∀ m ∈ methods, m.toList ≠ [] ∧ m.toList.all Char.isAlpha = true := by
  decide +kernel

/-- A method consists of letters, however it is spelled. -/
theorem letters_of_method {method : String} (named : method.toUpper ∈ methods) :
    method.toList ≠ [] ∧ method.toList.all Char.isAlpha = true := by
  obtain ⟨filled, letters⟩ := methods_letters _ named
  have upper : method.toUpper.toList = method.toList.map Char.toUpper := by
    rw [String.toUpper, String.toList_map]
  rw [upper] at filled letters
  refine ⟨fun h => filled (by rw [h]; rfl), ?_⟩
  rw [List.all_map] at letters
  rw [← letters]
  exact congrArg (method.toList.all ·) (funext fun c => (Text.isAlpha_toUpper c).symm)

theorem ne_mark_of_isAlpha {c : Char} (letter : c.isAlpha = true) :
    c ≠ '#' ∧ c ≠ '/' ∧ c ≠ '@' := by
  refine ⟨?_, ?_, ?_⟩ <;> (rintro rfl; cases letter)

theorem classify_requestLine {method url : String} (named : method.toUpper ∈ methods)
    (filled : url ≠ "") (value : IsValue url.toList) :
    classify (requestLine method url) =
      .request method.toUpper url (requestLine method url) := by
  have chars : (requestLine method url).toList =
      method.toList ++ ' ' :: (url.toList ++ version) := by
    simp [requestLine, version]
  obtain ⟨nonempty, letters⟩ := letters_of_method named
  obtain ⟨c, r, spelled⟩ := List.exists_cons_of_ne_nil nonempty
  have head : (requestLine method url).toList = c :: (r ++ ' ' :: (url.toList ++ version)) := by
    rw [chars, spelled]
    rfl
  have letter : c.isAlpha = true :=
    List.all_eq_true.1 letters c (by rw [spelled]; exact List.mem_cons_self)
  have visible : isBlank c = false := isBlank_of_isAlphanum (by rw [Char.isAlphanum, letter]; rfl)
  rw [classify_of_head head visible (ne_mark_of_isAlpha letter), chars,
    request?_append named (mt String.toList_eq_nil_iff.1 filled) value]
  show Line.request method.toUpper (String.ofList url.toList) _ = _
  rw [String.ofList_toList]

/-! ## Header lines -/

theorem isBlank_of_isTokenChar {c : Char} (token : isTokenChar c = true) : isBlank c = false := by
  have others : "!#$%&'*+.^_\x60|~-".toList.all (!isBlank ·) = true := by decide +kernel
  rcases (Bool.or_eq_true _ _).mp token with letter | other
  · exact isBlank_of_isAlphanum letter
  · have visible := List.all_eq_true.1 others c (List.contains_iff_mem.1 other)
    rwa [Bool.not_eq_true'] at visible

/-- A name that a header may have. -/
structure IsHeaderName (n : String) : Prop where
  filled : n ≠ ""
  tokens : n.toList.all isTokenChar = true
  unmarked : n.toList.head? ≠ some '#'
  stored : n ≠ Record.reservedName

instance (n : String) : Decidable (IsHeaderName n) :=
  decidable_of_iff (n ≠ "" ∧ n.toList.all isTokenChar = true ∧ n.toList.head? ≠ some '#' ∧
      n ≠ Record.reservedName)
    ⟨fun ⟨filled, tokens, unmarked, stored⟩ => ⟨filled, tokens, unmarked, stored⟩,
      fun ⟨filled, tokens, unmarked, stored⟩ => ⟨filled, tokens, unmarked, stored⟩⟩

variable {n v : String}

theorem toList_headerLine : (headerLine n v).toList = n.toList ++ ':' :: ' ' :: v.toList := by
  simp [headerLine]

theorem header?_headerLine (name : IsHeaderName n) (value : IsValue v.toList) :
    header? (headerLine n v).toList = some (n, v) := by
  have filled : n.toList ≠ [] := mt String.toList_eq_nil_iff.1 name.filled
  have trimmed : trimStart n.toList = n.toList := by
    cases h : n.toList with
    | nil => exact absurd h filled
    | cons c r =>
      have token := List.all_eq_true.1 name.tokens c (by rw [h]; exact List.mem_cons_self)
      exact trimStart_cons (isBlank_of_isTokenChar token) r
  have start :
      trimStart (n.toList ++ ':' :: ' ' :: v.toList) = n.toList ++ ':' :: ' ' :: v.toList :=
    trimStart_append filled trimmed _
  have front : (n.toList ++ ':' :: ' ' :: v.toList).takeWhile isTokenChar = n.toList := by
    rw [List.takeWhile_append_of_pos (List.all_eq_true.1 name.tokens)]
    exact List.append_nil _
  have back : (n.toList ++ ':' :: ' ' :: v.toList).dropWhile isTokenChar = ':' :: ' ' :: v.toList :=
    List.dropWhile_append_of_pos (List.all_eq_true.1 name.tokens)
  have colon : trimStart (':' :: ' ' :: v.toList) = ':' :: ' ' :: v.toList := rfl
  have nonempty : n.toList.isEmpty = false := List.isEmpty_eq_false_iff.2 filled
  rw [toList_headerLine]
  simp only [header?, start, front, back, colon, nonempty, oneLine?_of_isValue value]
  show some (String.ofList n.toList, String.ofList v.toList) = _
  rw [String.ofList_toList, String.ofList_toList]

/-- A header line may look like a request line, but like no directive and like no blank line. -/
theorem classify_headerLine (name : IsHeaderName n) :
    classify (headerLine n v) = .text (headerLine n v) ∨
      ∃ m url, classify (headerLine n v) = .request m url (headerLine n v) := by
  cases h : n.toList with
  | nil => exact absurd (String.toList_eq_nil_iff.1 h) name.filled
  | cons c r =>
    have token := List.all_eq_true.1 name.tokens c (by rw [h]; exact List.mem_cons_self)
    have head : (headerLine n v).toList = c :: (r ++ ':' :: ' ' :: v.toList) := by
      rw [toList_headerLine, h]
      rfl
    have marks : c ≠ '#' ∧ c ≠ '/' ∧ c ≠ '@' := by
      refine ⟨?_, ?_, ?_⟩
      · rintro rfl
        exact name.unmarked (by rw [h]; rfl)
      · rintro rfl
        revert token
        decide +kernel
      · rintro rfl
        revert token
        decide +kernel
    rw [classify_of_head head (isBlank_of_isTokenChar token) marks]
    cases request? (headerLine n v).toList with
    | none => exact .inl rfl
    | some found => exact .inr ⟨_, _, rfl⟩

/-! ## No line end -/

theorem isBroken_declarationLine (ident : isIdent n.toList = true) (value : IsValue v.toList) :
    isBroken (declarationLine n v) = false := by
  have name : isBroken n = false :=
    isBroken_of_all (List.all_eq_true.2 (Text.isIdentRest_of_isIdent ident)) rfl rfl
  rw [declarationLine, isBroken_append, isBroken_append, isBroken_append, name,
    isBroken_of_isValue value]
  rfl

theorem isBroken_nameLine {x : String} (visible : x.toList.all (!isBlank ·) = true) :
    isBroken (nameLine x) = false := by
  rw [nameLine, isBroken_append, isBroken_of_all visible rfl rfl]
  rfl

theorem isBroken_requestLine {method url : String} (named : method.toUpper ∈ methods)
    (value : IsValue url.toList) : isBroken (requestLine method url) = false := by
  have word : isBroken method = false := isBroken_of_all (letters_of_method named).2 rfl rfl
  rw [requestLine, isBroken_append, isBroken_append, isBroken_append, word,
    isBroken_of_isValue value]
  rfl

theorem isBroken_headerLine (name : IsHeaderName n) (value : IsValue v.toList) :
    isBroken (headerLine n v) = false := by
  have word : isBroken n = false :=
    isBroken_of_all name.tokens (by decide +kernel) (by decide +kernel)
  rw [headerLine, isBroken_append, isBroken_append, word, isBroken_of_isValue value]
  rfl

end Line

namespace Document

theorem linesOf_intercalate {e : String} (ends : e ∈ Text.lineEnds) {ls : List String}
    (filled : ls ≠ []) (whole : ∀ l ∈ ls, Text.isBroken l = false) :
    linesOf (e.intercalate ls) = ls := by
  unfold linesOf
  rw [Text.lines_intercalate ends filled whole, List.map_map]
  have same : String.ofList ∘ String.toList = id := funext fun l => String.ofList_toList
  rw [same, List.map_id]

end Document

end HttpScript
