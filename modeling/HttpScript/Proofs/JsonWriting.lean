import HttpScript.Proofs.JsonLexemes

/-!
# Written JSON is read back

A tree is written as the spellings of its tokens with nothing between them. Where its numbers have
the form that JSON asks for, the text is read as the same tree: texts through their escapes, numbers
with their spelling, members in their order and with repeated names.

    parse? (concatenate (tokens .number t)) = some t                    (parse?_concatenate)
-/

namespace HttpScript.Json

/-! ## Numbers -/

/-- Digits, at least one. -/
def IsDigits (s : List Char) : Prop := s ≠ [] ∧ ∀ c ∈ s, c.isDigit = true

instance (s : List Char) : Decidable (IsDigits s) :=
  decidable_of_iff (s ≠ [] ∧ s.all Char.isDigit = true) (by rw [List.all_eq_true, IsDigits])

/-- Digits before the point: no zero stands in front of others. -/
def IsWhole (s : List Char) : Prop := IsDigits s ∧ (s.head? = some '0' → s = ['0'])

/-- A point with digits behind it, or nothing. -/
def IsPlaces (s : List Char) : Prop := s = [] ∨ ∃ ds, IsDigits ds ∧ s = '.' :: ds

/-- A power of ten, or nothing. -/
def IsExponent (s : List Char) : Prop :=
  s = [] ∨ ∃ e sign ds, e ∈ ['e', 'E'] ∧ sign ∈ [[], ['+'], ['-']] ∧ IsDigits ds ∧
    s = e :: (sign ++ ds)

/-- A text that is a number in JSON. -/
def IsNumber (s : String) : Prop :=
  ∃ sign whole places exponent, sign ∈ [[], ['-']] ∧ IsWhole whole ∧ IsPlaces places ∧
    IsExponent exponent ∧ s.toList = sign ++ (whole ++ (places ++ exponent))

namespace NumberPart

theorem foldlM_digits {part : NumberPart}
    (stays : ∀ c : Char, c.isDigit = true → part.next? c = some part) {ds : List Char}
    (digits : ∀ c ∈ ds, c.isDigit = true) : ds.foldlM next? part = some part := by
  induction ds with
  | nil => rfl
  | cons d ds ih =>
    rw [List.foldlM_cons, stays d (digits d List.mem_cons_self)]
    exact ih fun c hc => digits c (List.mem_cons_of_mem _ hc)

/-- Digits that lead from one part of a number to another one and stay there. -/
theorem foldlM_isDigits {part next : NumberPart}
    (enters : ∀ c : Char, c.isDigit = true → part.next? c = some next)
    (stays : ∀ c : Char, c.isDigit = true → next.next? c = some next) {ds : List Char}
    (digits : IsDigits ds) : ds.foldlM next? part = some next := by
  obtain ⟨d, ds, rfl⟩ := List.exists_cons_of_ne_nil digits.1
  rw [List.foldlM_cons, enters d (digits.2 d List.mem_cons_self)]
  exact foldlM_digits stays fun c hc => digits.2 c (List.mem_cons_of_mem _ hc)

theorem beq_of_isDigit {c d : Char} (digit : c.isDigit = true) (other : d.isDigit = false) :
    (c == d) = false := by
  rw [beq_eq_false_iff_ne]
  rintro rfl
  rw [digit] at other
  cases other

theorem exists_exponent {part : NumberPart} (complete : part.complete = true)
    (marks : ∀ e ∈ ['e', 'E'], part.next? e = some .mark) {s : List Char}
    (exponent : IsExponent s) :
    ∃ last, s.foldlM next? part = some last ∧ last.complete = true := by
  have stays (c : Char) (digit : c.isDigit = true) :
      NumberPart.exponent.next? c = some .exponent := by simp [next?, digit]
  rcases exponent with rfl | ⟨e, sign, ds, he, hs, digits, rfl⟩
  · exact ⟨part, rfl, complete⟩
  · refine ⟨.exponent, ?_, rfl⟩
    rw [List.foldlM_cons, marks e he]
    show (sign ++ ds).foldlM next? .mark = _
    have signed (c : Char) (hc : next? .mark c = some .markSign) :
        (c :: ds).foldlM next? .mark = some .exponent := by
      rw [List.foldlM_cons, hc]
      exact foldlM_isDigits (fun c digit => by simp [next?, digit]) stays digits
    simp only [List.mem_cons, List.not_mem_nil, or_false] at hs
    rcases hs with rfl | rfl | rfl
    · refine foldlM_isDigits (fun c digit => ?_) stays digits
      rw [next?, beq_of_isDigit digit (by decide : '+'.isDigit = false),
        beq_of_isDigit digit (by decide : '-'.isDigit = false), digit]
      rfl
    · exact signed '+' rfl
    · exact signed '-' rfl

theorem exists_places {part : NumberPart} (digits : part = .zero ∨ part = .whole) {s : List Char}
    (places : IsPlaces s) :
    ∃ last, s.foldlM next? part = some last ∧ last.complete = true ∧
      ∀ e ∈ ['e', 'E'], last.next? e = some .mark := by
  have marked (last : NumberPart) (ends : last ∈ [zero, whole, NumberPart.places]) :
      last.complete = true ∧ ∀ e ∈ ['e', 'E'], last.next? e = some .mark := by
    simp only [List.mem_cons, List.not_mem_nil, or_false] at ends ⊢
    rcases ends with rfl | rfl | rfl <;> exact ⟨rfl, by rintro e (rfl | rfl) <;> rfl⟩
  rcases places with rfl | ⟨ds, written, rfl⟩
  · refine ⟨part, rfl, marked part ?_⟩
    rcases digits with rfl | rfl <;> decide
  · refine ⟨.places, ?_, marked .places (by decide)⟩
    have pointed : part.next? '.' = some .point := by
      rcases digits with rfl | rfl <;> rfl
    rw [List.foldlM_cons, pointed]
    exact foldlM_isDigits (fun c digit => by simp [next?, digit])
      (fun c digit => by simp [next?, digit]) written

/-- The digits before the point, the first one read by itself. -/
theorem exists_whole {c : Char} {cs : List Char} (whole : IsWhole (c :: cs)) :
    ∃ part, first? c = some part ∧ minus.next? c = some part ∧
      cs.foldlM next? part = some part ∧ (part = .zero ∨ part = .whole) := by
  obtain ⟨⟨-, digits⟩, single⟩ := whole
  have digit := digits c List.mem_cons_self
  have sign : (c == '-') = false := beq_of_isDigit digit (by decide)
  by_cases zero : c = '0'
  · subst zero
    obtain rfl : cs = [] := (List.cons.inj (single rfl)).2
    exact ⟨.zero, rfl, rfl, rfl, .inl rfl⟩
  · have other : (c == '0') = false := beq_eq_false_iff_ne.2 zero
    refine ⟨.whole, ?_, ?_, ?_, .inr rfl⟩
    · rw [first?, sign, other, digit]
      rfl
    · rw [next?, other, digit]
      rfl
    · exact foldlM_digits (fun c digit => by simp [next?, digit])
        fun d hd => digits d (List.mem_cons_of_mem _ hd)

end NumberPart

/-- A number in JSON spells itself. -/
theorem IsNumber.spells {s : String} (number : IsNumber s) : Spells s.toList (.number s) := by
  obtain ⟨sign, whole, places, exponent, hs, hw, hp, he, shape⟩ := number
  obtain ⟨c, cs, rfl⟩ := List.exists_cons_of_ne_nil hw.1.1
  obtain ⟨part, first, behindSign, run, zeroOrWhole⟩ := NumberPart.exists_whole hw
  obtain ⟨last, runPlaces, complete, marks⟩ := NumberPart.exists_places zeroOrWhole hp
  obtain ⟨end_, runExponent, ends⟩ := NumberPart.exists_exponent complete marks he
  have rest : (cs ++ (places ++ exponent)).foldlM NumberPart.next? part = some end_ := by
    rw [List.foldlM_append, run]
    show (places ++ exponent).foldlM _ part = _
    rw [List.foldlM_append, runPlaces]
    exact runExponent
  rw [← String.ofList_toList (s := s), shape]
  rw [String.toList_ofList]
  simp only [List.mem_cons, List.not_mem_nil, or_false] at hs
  rcases hs with rfl | rfl
  · exact .number first rest ends
  · have signed : (c :: (cs ++ (places ++ exponent))).foldlM NumberPart.next? .minus =
        some end_ := by
      rw [List.foldlM_cons, behindSign]
      exact rest
    exact .number rfl signed ends

/-! ## Texts -/

theorem hexValue?_digitChar : ∀ d < 16, Text.hexValue? d.digitChar = some d := by decide

theorem toDigits_of_le {n : Nat} (large : 16 ≤ n) :
    Nat.toDigits 16 n = Nat.toDigits 16 (n / 16) ++ [(n % 16).digitChar] := by
  have split := Nat.toDigits_append_toDigits (b := 16) (n := n / 16) (d := n % 16) (by decide)
    (by omega) (by omega)
  rw [Nat.div_add_mod, Nat.toDigits_of_lt_base (n := n % 16) (by omega)] at split
  exact split.symm

theorem natText_unit (n : Nat) (small : n < 0x10000) :
    Text.natText 16 4 n = [(n / 4096).digitChar, (n / 256 % 16).digitChar, (n / 16 % 16).digitChar,
      (n % 16).digitChar] := by
  have first {d : Nat} (one : d < 16) : Nat.toDigits 16 d = [d.digitChar] :=
    Nat.toDigits_of_lt_base one
  have less {d : Nat} (zero : d = 0) : d.digitChar = '0' := by rw [zero]; rfl
  unfold Text.natText
  by_cases one : n < 16
  · rw [first one, less (d := n / 4096) (by omega), less (d := n / 256 % 16) (by omega),
      less (d := n / 16 % 16) (by omega), Nat.mod_eq_of_lt one]
    rfl
  rw [toDigits_of_le (by omega)]
  by_cases two : n / 16 < 16
  · rw [first two, less (d := n / 4096) (by omega), less (d := n / 256 % 16) (by omega),
      Nat.mod_eq_of_lt two]
    rfl
  rw [toDigits_of_le (n := n / 16) (by omega), Nat.div_div_eq_div_mul]
  by_cases three : n / 256 < 16
  · rw [first three, less (d := n / 4096) (by omega), Nat.mod_eq_of_lt three]
    rfl
  rw [toDigits_of_le (n := n / (16 * 16)) (by omega), Nat.div_div_eq_div_mul, first (by omega)]
  rfl

/-- A unit is written by the four digits of its code. -/
theorem quoted_unit (n : Nat) (small : n < 0x10000) {s : List Char} {us : List Nat}
    (rest : Quoted s us) : Quoted ('\\' :: 'u' :: Text.natText 16 4 n ++ s) (n :: us) := by
  have digit (d : Nat) (below : d < 16) := hexValue?_digitChar d below
  have quoted := Quoted.unicode (digit (n / 4096) (by omega)) (digit (n / 256 % 16) (by omega))
    (digit (n / 16 % 16) (by omega)) (digit (n % 16) (by omega)) rest
  have value : 16 * (16 * (16 * (n / 4096) + n / 256 % 16) + n / 16 % 16) + n % 16 = n := by omega
  rw [value] at quoted
  rw [natText_unit n small]
  exact quoted

/-- An escaped character stands for itself. -/
theorem quoted_escapeChar (c : Char) {s : List Char} {us : List Nat} (rest : Quoted s us) :
    Quoted (escapeChar c ++ s) (c.toNat :: us) := by
  have letter {d e : Char} (stands : unescape? e = some d) (same : c = d) :
      Quoted (['\\', e] ++ s) (c.toNat :: us) := same ▸ .escape stands rest
  have code {n : Nat} (same : (c.toNat == n) = true) : c = Char.ofNat n := by
    rw [← eq_of_beq same, Char.ofNat_toNat]
  unfold escapeChar
  split
  · exact letter rfl (eq_of_beq ‹_›)
  · next inner =>
    split
    · exact letter rfl (eq_of_beq ‹_›)
    · next unescaped =>
      split
      · exact letter rfl (eq_of_beq ‹_›)
      split
      · exact letter rfl (eq_of_beq ‹_›)
      split
      · exact letter rfl (eq_of_beq ‹_›)
      split
      · exact letter rfl (code ‹_›)
      split
      · exact letter rfl (code ‹_›)
      split
      · exact quoted_unit c.toNat (by omega) rest
      · next printable =>
        rw [beq_iff_eq] at inner unescaped
        exact .plain inner unescaped (Nat.le_of_not_lt printable) rest

theorem quoted_escapePoint {n : Nat} (high : n < 0x110000) {s : List Char} {us : List Nat}
    (rest : Quoted s us) : Quoted (escapePoint n ++ s) (n :: us) := by
  unfold escapePoint
  split
  · next half =>
    rw [Text.isHalf, Bool.and_eq_true, decide_eq_true_eq, decide_eq_true_eq] at half
    exact quoted_unit n (by omega) rest
  · next whole =>
    rw [Text.isHalf, Bool.and_eq_true, decide_eq_true_eq, decide_eq_true_eq] at whole
    have valid : n.isValidChar := by
      unfold Nat.isValidChar
      omega
    have same : (Char.ofNat n).toNat = n := by
      unfold Char.ofNat
      rw [dif_pos valid]
      rfl
    have quoted := quoted_escapeChar (Char.ofNat n) rest
    rwa [same] at quoted

theorem quoted_flatMap_escapePoint (ns : List Nat) (high : ∀ n ∈ ns, n < 0x110000) :
    Quoted (ns.flatMap escapePoint) ns := by
  induction ns with
  | nil => exact .nil
  | cons n ns ih =>
    exact quoted_escapePoint (high n List.mem_cons_self)
      (ih fun m hm => high m (List.mem_cons_of_mem _ hm))

/-- A text in quotes is read as the text, whether or not its halves pair up. -/
theorem Spells.of_text (w : Wide) : Spells (quote w) (.text w) := by
  have spells := Spells.text (quoted_flatMap_escapePoint w.points fun _ => Wide.lt_of_mem_points)
  rwa [Wide.ofPoints_points] at spells

/-! ## Tokens -/

/-- A token is written as it is spelled, unless it is a number that JSON does not know. -/
theorem spells_spelling (t : Token) (number : ∀ s, t = .number s → IsNumber s) :
    Spells t.spelling t := by
  cases t with
  | number s => exact (number s rfl).spells
  | text s => exact .of_text s
  | _ => exact .fixed rfl

/-- The text is the tokens as they are spelled, perhaps with white space between them. -/
def Spelled (ts : List Token) (s : List Char) : Prop :=
  ∃ ls, Joined ls s ∧ ls.map (·.token) = ts

theorem Spelled.nil : Spelled [] [] := ⟨[], .last .nil, rfl⟩

theorem Spelled.token {ts : List Token} {s : List Char} {t : Token}
    (number : ∀ n, t = .number n → IsNumber n) (rest : Spelled ts s) :
    Spelled (t :: ts) (t.spelling ++ s) := by
  obtain ⟨ls, joined, rfl⟩ := rest
  exact ⟨⟨t.spelling, t, spells_spelling t number⟩ :: ls, .next .nil joined, rfl⟩

/-- Tokens with nothing between them. -/
theorem spelled_flatMap (ts : List Token) (numbers : ∀ n, .number n ∈ ts → IsNumber n) :
    Spelled ts (ts.flatMap Token.spelling) := by
  induction ts with
  | nil => exact .nil
  | cons t ts ih =>
    have rest := ih fun n mem => numbers n (List.mem_cons_of_mem _ mem)
    exact .token (fun n same => numbers n (same ▸ List.mem_cons_self)) rest

/-! ## Numbers of a tree -/

/-- The tree has the number. -/
inductive Holds {ν : Type} (n : ν) : Json ν → Prop where
  | self : Holds n (.number n)
  | item {xs : List (Json ν)} {x : Json ν} (mem : x ∈ xs) (inner : Holds n x) : Holds n (.list xs)
  | member {ms : List (Wide × Json ν)} {e : Wide × Json ν} (mem : e ∈ ms)
      (inner : Holds n e.2) : Holds n (.object ms)

section

variable {ν : Type} {n : ν}

@[simp] theorem not_holds_null : ¬ Holds n .null := nofun

@[simp] theorem not_holds_bool (b : Bool) : ¬ Holds n (.bool b) := nofun

@[simp] theorem not_holds_text (s : Wide) : ¬ Holds n (.text s) := nofun

@[simp] theorem holds_number (m : ν) : Holds n (.number m) ↔ n = m :=
  ⟨fun | .self => rfl, fun same => same ▸ .self⟩

@[simp] theorem holds_list (xs : List (Json ν)) : Holds n (.list xs) ↔ ∃ x ∈ xs, Holds n x :=
  ⟨fun | .item mem inner => ⟨_, mem, inner⟩, fun ⟨_, mem, inner⟩ => .item mem inner⟩

@[simp] theorem holds_object (ms : List (Wide × Json ν)) :
    Holds n (.object ms) ↔ ∃ e ∈ ms, Holds n e.2 :=
  ⟨fun | .member mem inner => ⟨_, mem, inner⟩, fun ⟨_, mem, inner⟩ => .member mem inner⟩

variable {num : ν → Token}

mutual

/-- A token that is a number is that of a number of the tree. -/
theorem holds_of_mem_tokens (v : Json ν) {s : String} (mem : .number s ∈ tokens num v) :
    ∃ n, Holds n v ∧ num n = .number s := by
  match v with
  | .null | .text _ | .bool true | .bool false | .list [] | .object [] => simp [tokens] at mem
  | .number n => exact ⟨n, .self, (List.mem_singleton.1 mem).symm⟩
  | .list (x :: r) =>
    rcases List.mem_cons.1 mem with same | mem
    · cases same
    rcases List.mem_append.1 mem with mem | mem
    · obtain ⟨n, holds, same⟩ := holds_of_mem_tokens x mem
      exact ⟨n, .item List.mem_cons_self holds, same⟩
    · obtain ⟨y, hy, n, holds, same⟩ := holds_of_mem_itemTokens r mem
      exact ⟨n, .item (List.mem_cons_of_mem _ hy) holds, same⟩
  | .object ((k, w) :: r) =>
    have mem : Token.number s ∈ tokens num w ++ memberTokens num r := by
      simpa [tokens] using mem
    rcases List.mem_append.1 mem with mem | mem
    · obtain ⟨n, holds, same⟩ := holds_of_mem_tokens w mem
      exact ⟨n, .member List.mem_cons_self holds, same⟩
    · obtain ⟨e, he, n, holds, same⟩ := holds_of_mem_memberTokens r mem
      exact ⟨n, .member (List.mem_cons_of_mem _ he) holds, same⟩

theorem holds_of_mem_itemTokens (r : List (Json ν)) {s : String}
    (mem : .number s ∈ itemTokens num r) : ∃ x ∈ r, ∃ n, Holds n x ∧ num n = .number s := by
  match r with
  | [] => simp [itemTokens] at mem
  | x :: r =>
    have mem : Token.number s ∈ tokens num x ++ itemTokens num r := by
      simpa [itemTokens] using mem
    rcases List.mem_append.1 mem with mem | mem
    · exact ⟨x, List.mem_cons_self, holds_of_mem_tokens x mem⟩
    · obtain ⟨y, hy, found⟩ := holds_of_mem_itemTokens r mem
      exact ⟨y, List.mem_cons_of_mem _ hy, found⟩

theorem holds_of_mem_memberTokens (r : List (Wide × Json ν)) {s : String}
    (mem : .number s ∈ memberTokens num r) : ∃ e ∈ r, ∃ n, Holds n e.2 ∧ num n = .number s := by
  match r with
  | [] => simp [memberTokens] at mem
  | (k, w) :: r =>
    have mem : Token.number s ∈ tokens num w ++ memberTokens num r := by
      simpa [memberTokens] using mem
    rcases List.mem_append.1 mem with mem | mem
    · exact ⟨(k, w), List.mem_cons_self, holds_of_mem_tokens w mem⟩
    · obtain ⟨e, he, found⟩ := holds_of_mem_memberTokens r mem
      exact ⟨e, List.mem_cons_of_mem _ he, found⟩

end

end

/-! ## Building -/

namespace Builder

/-- A value begins with a token that ends no container. -/
theorem exists_tokens_cons (t : Json String) :
    ∃ first rest, tokens Token.number t = first :: rest ∧ first.closes = false := by
  cases t with
  | null => exact ⟨_, _, rfl, rfl⟩
  | bool b => cases b <;> exact ⟨_, _, rfl, rfl⟩
  | number n => exact ⟨_, _, rfl, rfl⟩
  | text s => exact ⟨_, _, rfl, rfl⟩
  | list xs => cases xs <;> exact ⟨_, _, rfl, rfl⟩
  | object ms => cases ms <;> exact ⟨_, _, rfl, rfl⟩

/-- At the start of a list a value is read as anywhere else. -/
theorem foldlM_firstItem (t : Json String) (frames : List Frame) (rest : List Token) :
    (tokens Token.number t ++ rest).foldlM step? ⟨.firstItem, frames⟩ =
      (tokens Token.number t ++ rest).foldlM step? ⟨.value, .list [] :: frames⟩ := by
  obtain ⟨first, others, shape, opens⟩ := exists_tokens_cons t
  rw [shape, List.cons_append, List.foldlM_cons, List.foldlM_cons]
  have same : step? ⟨.firstItem, frames⟩ first = step? ⟨.value, .list [] :: frames⟩ first := by
    cases first <;> first | rfl | cases opens
  rw [same]

mutual

/-- The tokens of a tree are read as the tree. -/
theorem foldlM_tokens (t : Json String) (frames : List Frame) :
    (tokens Token.number t).foldlM step? ⟨.value, frames⟩ = some ⟨.separator t, frames⟩ := by
  match t with
  | .null => rfl
  | .bool true => rfl
  | .bool false => rfl
  | .number n => rfl
  | .text s => rfl
  | .list [] => rfl
  | .list (x :: r) =>
    show (tokens Token.number x ++ itemTokens Token.number r).foldlM step? ⟨.firstItem, frames⟩ = _
    rw [foldlM_firstItem, List.foldlM_append, foldlM_tokens x]
    exact foldlM_itemTokens r x [] frames
  | .object [] => rfl
  | .object ((k, v) :: r) =>
    show (tokens Token.number v ++ memberTokens Token.number r).foldlM step?
      ⟨.value, .member [] k :: frames⟩ = _
    rw [List.foldlM_append, foldlM_tokens v]
    exact foldlM_memberTokens r v [] k frames

/-- Behind an item the later items are read, up to the end of the list. -/
theorem foldlM_itemTokens (r : List (Json String)) (x : Json String) (before : List (Json String))
    (frames : List Frame) :
    (itemTokens Token.number r).foldlM step? ⟨.separator x, .list before :: frames⟩ =
      some ⟨.separator (.list (before.reverse ++ x :: r)), frames⟩ := by
  match r with
  | [] =>
    show some (⟨.separator (.list (x :: before).reverse), frames⟩ : Builder) = _
    rw [List.reverse_cons]
  | y :: r =>
    show (tokens Token.number y ++ itemTokens Token.number r).foldlM step?
      ⟨.value, .list (x :: before) :: frames⟩ = _
    rw [List.foldlM_append, foldlM_tokens y]
    show (itemTokens Token.number r).foldlM step? ⟨.separator y, .list (x :: before) :: frames⟩ = _
    rw [foldlM_itemTokens r y (x :: before) frames, List.reverse_cons, List.append_assoc]
    rfl

/-- Behind a member the later members are read, up to the end of the object. -/
theorem foldlM_memberTokens (r : List (Wide × Json String)) (v : Json String)
    (before : List (Wide × Json String)) (k : Wide) (frames : List Frame) :
    (memberTokens Token.number r).foldlM step? ⟨.separator v, .member before k :: frames⟩ =
      some ⟨.separator (.object (before.reverse ++ (k, v) :: r)), frames⟩ := by
  match r with
  | [] =>
    show some (⟨.separator (.object ((k, v) :: before).reverse), frames⟩ : Builder) = _
    rw [List.reverse_cons]
  | (l, w) :: r =>
    show (tokens Token.number w ++ memberTokens Token.number r).foldlM step?
      ⟨.value, .member ((k, v) :: before) l :: frames⟩ = _
    rw [List.foldlM_append, foldlM_tokens w]
    show (memberTokens Token.number r).foldlM step?
      ⟨.separator w, .member ((k, v) :: before) l :: frames⟩ = _
    rw [foldlM_memberTokens r w ((k, v) :: before) l frames, List.reverse_cons,
      List.append_assoc]
    rfl

end

end Builder

theorem ofTokens?_tokens (t : Json String) : ofTokens? (tokens Token.number t) = some t := by
  unfold ofTokens? Builder.start
  rw [Builder.foldlM_tokens]
  rfl

/-- A text that spells the tokens of a tree is read as the tree. -/
theorem parse?_of_spelled {t : Json String} {s : List Char}
    (spelled : Spelled (tokens Token.number t) s) : parse? (String.ofList s) = some t := by
  obtain ⟨ls, joined, same⟩ := spelled
  have chain : (ls.map (·.token)).IsChain Follows := same ▸ isChain_follows (ofTokens?_tokens t)
  unfold parse? ofChars?
  rw [String.toList_ofList, tokenize_joined joined chain, same]
  exact ofTokens?_tokens t

/-- The text of a tree is read as the tree, if its numbers are numbers in JSON. -/
theorem parse?_concatenate (t : Json String)
    (numbers : ∀ s, .number s ∈ tokens Token.number t → IsNumber s) :
    parse? (concatenate (tokens Token.number t)) = some t :=
  parse?_of_spelled (spelled_flatMap _ numbers)

end HttpScript.Json
