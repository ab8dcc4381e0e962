/-!
# Text

Character classes and the elementary operations on text that every reader of this library uses.
Scanners work on `List Char`; structures and answers hold `String`.

    (lines s).length = 1 + the number of line ends in s      a line end is LF, CR or CR LF
    trim s                                                     drops blank characters at both ends
-/

namespace HttpScript.Text

/-! ## Character classes -/

/-- White space and line terminators: the characters that trimming removes. -/
def isBlank (c : Char) : Bool :=
  let n := c.toNat
  (9 ≤ n && n ≤ 13) || n == 0x20 || n == 0xA0 || n == 0x1680 || (0x2000 ≤ n && n ≤ 0x200A) ||
    n == 0x2028 || n == 0x2029 || n == 0x202F || n == 0x205F || n == 0x3000 || n == 0xFEFF

/-- The four characters that end a line wherever a value has to stand on one line. -/
def isLineTerminator (c : Char) : Bool :=
  c == '\n' || c == '\r' || c.toNat == 0x2028 || c.toNat == 0x2029

def isIdentStart (c : Char) : Bool := c.isAlpha || c == '_'

def isIdentRest (c : Char) : Bool := c.isAlphanum || c == '_'

/-- Whether the characters form an identifier: a letter or underscore, then letters, digits and
underscores. -/
def isIdent : List Char → Bool
  | [] => false
  | c :: r => isIdentStart c && r.all isIdentRest

theorem isIdentRest_of_isIdent {s : List Char} (ident : isIdent s = true) :
    ∀ c ∈ s, isIdentRest c = true := by
  cases s with
  | nil => cases ident
  | cons d r =>
    obtain ⟨start, rest⟩ := (Bool.and_eq_true _ _).mp ident
    intro c hc
    rcases List.mem_cons.1 hc with rfl | hc
    · unfold isIdentStart at start
      unfold isIdentRest Char.isAlphanum
      rw [Bool.or_assoc, Bool.or_comm c.isDigit, ← Bool.or_assoc, start]
      rfl
    · exact List.all_eq_true.1 rest c hc

/-! ## Trimming -/

def trimStart (s : List Char) : List Char := s.dropWhile isBlank

def trimEnd (s : List Char) : List Char := (s.reverse.dropWhile isBlank).reverse

def trim (s : List Char) : List Char := trimEnd (trimStart s)

/-- Whether the text has nothing but blanks. -/
def isBlankText (s : String) : Bool := s.toList.all isBlank

/-! ## Splitting -/

/-- The lines of a text. LF, CR and CR LF each end a line; the last line may be empty. -/
def lines : List Char → List (List Char)
  | [] => [[]]
  | '\r' :: '\n' :: r => [] :: lines r
  | c :: r =>
    if c == '\n' || c == '\r' then [] :: lines r
    else match lines r with
      | [] => [[c]]
      | l :: ls => (c :: l) :: ls

/-- The pieces between the characters that satisfy `sep`, empty ones included. -/
def splitBy (sep : Char → Bool) : List Char → List (List Char)
  | [] => [[]]
  | c :: r =>
    if sep c then [] :: splitBy sep r
    else match splitBy sep r with
      | [] => [[c]]
      | p :: ps => (c :: p) :: ps

/-- Splits at the first character that satisfies `sep`, which is dropped. -/
def cutAt? (sep : Char → Bool) (s : List Char) : Option (List Char × List Char) :=
  match s.dropWhile (!sep ·) with
  | [] => none
  | _ :: r => some (s.takeWhile (!sep ·), r)

/-! ## Comparing -/

/-- Drops `word` from the front when the text starts with it, letters compared without ASCII
case. -/
def dropWord? (word : List Char) (s : List Char) : Option (List Char) :=
  match word, s with
  | [], s => some s
  | _ :: _, [] => none
  | w :: ws, c :: cs => if w.toLower == c.toLower then dropWord? ws cs else none

def startsWith (front s : String) : Bool := front.toList.isPrefixOf s.toList

def endsWith (back s : String) : Bool := back.toList.isSuffixOf s.toList

/-- Whether `part` occurs somewhere in a list. -/
def occursIn {α : Type} [BEq α] (part : List α) : List α → Bool
  | [] => part.isEmpty
  | c :: r => part.isPrefixOf (c :: r) || occursIn part r

/-- Lower case of the ASCII letters; everything else is kept. -/
def asciiLower (s : String) : String := String.ofList (s.toList.map Char.toLower)

/-! ## Numbers in text -/

/-- The number that a run of decimal digits denotes. -/
def digitsValue (s : List Char) : Nat :=
  s.foldl (fun n c => 10 * n + (c.toNat - 48)) 0

def hexValue? (c : Char) : Option Nat :=
  if c.isDigit then some (c.toNat - 48)
  else if 'a' ≤ c && c ≤ 'f' then some (c.toNat - 87)
  else if 'A' ≤ c && c ≤ 'F' then some (c.toNat - 55)
  else none

/-- The digits of `n` in the given base, lower case, at least `width` of them. -/
def natText (base width n : Nat) : List Char :=
  let ds := Nat.toDigits base n
  List.replicate (width - ds.length) '0' ++ ds

/-- `s` with `fill` put in front until it has `width` characters. -/
def padLeft (width : Nat) (fill : Char) (s : String) : String :=
  String.ofList (List.replicate (width - s.length) fill ++ s.toList)

/-! ## Units -/

/-- The UTF-16 units of a code point. -/
def pointUnits (n : Nat) : List Nat :=
  if n < 0x10000 then [n] else [0xD800 + (n - 0x10000) / 0x400, 0xDC00 + (n - 0x10000) % 0x400]

def units (s : String) : List Nat := s.toList.flatMap fun c => pointUnits c.toNat

/-- Whether a unit is the first half of a pair. -/
def isHighUnit (u : Nat) : Bool := 0xD800 ≤ u && u < 0xDC00

/-- Whether a unit is the second half of a pair. -/
def isLowUnit (u : Nat) : Bool := 0xDC00 ≤ u && u < 0xE000

/-- The code point of a pair of units. -/
def joinUnits (high low : Nat) : Nat := 0x10000 + (high - 0xD800) * 0x400 + (low - 0xDC00)

/-- The code points of units. A half without its other half is a point of its own. -/
def points : List Nat → List Nat
  | [] => []
  | [u] => [u]
  | u :: v :: r =>
    if isHighUnit u && isLowUnit v then joinUnits u v :: points r else u :: points (v :: r)

/-- Whether a code point is half of a pair. -/
def isHalf (n : Nat) : Bool := 0xD800 ≤ n && n < 0xE000

/-- The text of units. A half that stands alone becomes the replacement character. -/
def ofUnits (us : List Nat) : String :=
  String.ofList ((points us).map fun n => if isHalf n then '\ufffd' else Char.ofNat n)

/-- The halves of a code point beyond the first plane are put together again. -/
theorem points_halves (n : Nat) (us : List Nat) (low : 0x10000 ≤ n) (high : n < 0x110000) :
    points ((0xD800 + (n - 0x10000) / 0x400) :: (0xDC00 + (n - 0x10000) % 0x400) :: us) =
      n :: points us := by
  generalize hq : (n - 0x10000) / 0x400 = q
  generalize hr : (n - 0x10000) % 0x400 = r
  have pair : (isHighUnit (0xD800 + q) && isLowUnit (0xDC00 + r)) = true := by
    simp only [isHighUnit, isLowUnit, Bool.and_eq_true, decide_eq_true_eq]; omega
  have join : joinUnits (0xD800 + q) (0xDC00 + r) = n := by
    unfold joinUnits; omega
  rw [points, if_pos pair, join]

/-- A character is read back from its units. -/
theorem points_pointUnits_append (c : Char) (us : List Nat) :
    points (pointUnits c.toNat ++ us) = c.toNat :: points us := by
  have valid : c.toNat < 0xD800 ∨ (0xDFFF < c.toNat ∧ c.toNat < 0x110000) := c.valid
  generalize c.toNat = n at valid
  by_cases small : n < 0x10000
  · have whole : isHighUnit n = false := by
      simp only [isHighUnit, Bool.and_eq_false_iff, decide_eq_false_iff_not]; omega
    cases us with
    | nil => simp [pointUnits, small, points]
    | cons v r => simp [pointUnits, small, points, whole]
  · rw [pointUnits, if_neg small]
    exact points_halves n us (by omega) (by omega)

theorem lt_of_mem_pointUnits {n u : Nat} (high : n < 0x110000) (mem : u ∈ pointUnits n) :
    u < 0x10000 := by
  unfold pointUnits at mem
  split at mem
  · obtain rfl := List.mem_singleton.1 mem
    assumption
  · simp only [List.mem_cons, List.not_mem_nil, or_false] at mem
    omega

/-- Units have sixteen bits. -/
theorem lt_of_mem_units {s : String} {u : Nat} (mem : u ∈ units s) : u < 0x10000 := by
  obtain ⟨c, -, mem⟩ := List.mem_flatMap.1 mem
  have valid : c.toNat < 0xD800 ∨ (0xDFFF < c.toNat ∧ c.toNat < 0x110000) := c.valid
  exact lt_of_mem_pointUnits (by omega) mem

/-- The units of a text are read back as the text. -/
theorem ofUnits_units (s : String) : ofUnits (units s) = s := by
  have read : ∀ cs : List Char, (points (cs.flatMap fun c => pointUnits c.toNat)).map
      (fun n => if isHalf n then '\ufffd' else Char.ofNat n) = cs := by
    intro cs
    induction cs with
    | nil => rfl
    | cons c r ih =>
      have valid : c.toNat < 0xD800 ∨ (0xDFFF < c.toNat ∧ c.toNat < 0x110000) := c.valid
      have whole : isHalf c.toNat = false := by
        generalize c.toNat = n at valid
        simp only [isHalf, Bool.and_eq_false_iff, decide_eq_false_iff_not]; omega
      simp [points_pointUnits_append, whole, ih]
  simp [ofUnits, units, read]

/-- A pair of units has a code point beyond the first plane, and is read back from it. -/
theorem pointUnits_joinUnits {u v : Nat} (pair : (isHighUnit u && isLowUnit v) = true) :
    pointUnits (joinUnits u v) = [u, v] ∧ joinUnits u v < 0x110000 := by
  simp only [isHighUnit, isLowUnit, Bool.and_eq_true, decide_eq_true_eq] at pair
  generalize joined : joinUnits u v = n
  unfold joinUnits at joined
  have large : ¬ n < 0x10000 := by omega
  have high : 0xD800 + (n - 0x10000) / 0x400 = u := by omega
  have low : 0xDC00 + (n - 0x10000) % 0x400 = v := by omega
  rw [pointUnits, if_neg large, high, low]
  exact ⟨rfl, by omega⟩

/-- The points of units are pairs of units and units. -/
theorem flatMap_pointUnits_points (us : List Nat) (small : ∀ u ∈ us, u < 0x10000) :
    (points us).flatMap pointUnits = us ∧ ∀ n ∈ points us, n < 0x110000 := by
  have alone {u : Nat} (h : u < 0x10000) : pointUnits u = [u] ∧ u < 0x110000 :=
    ⟨if_pos h, by omega⟩
  induction us using points.induct with
  | case1 => exact ⟨rfl, nofun⟩
  | case2 u =>
    obtain ⟨units, high⟩ := alone (small u List.mem_cons_self)
    rw [points, List.flatMap_singleton, units]
    exact ⟨rfl, fun n hn => List.mem_singleton.1 hn ▸ high⟩
  | case3 u v r pair ih =>
    obtain ⟨units, high⟩ := pointUnits_joinUnits pair
    obtain ⟨rest, below⟩ := ih fun w hw =>
      small w (List.mem_cons_of_mem _ (List.mem_cons_of_mem _ hw))
    rw [points, if_pos pair, List.flatMap_cons, units, rest]
    exact ⟨rfl, List.forall_mem_cons.2 ⟨high, below⟩⟩
  | case4 u v r other ih =>
    obtain ⟨units, high⟩ := alone (small u List.mem_cons_self)
    obtain ⟨rest, below⟩ := ih fun w hw => small w (List.mem_cons_of_mem _ hw)
    rw [points, if_neg other, List.flatMap_cons, units, rest]
    exact ⟨rfl, List.forall_mem_cons.2 ⟨high, below⟩⟩

end HttpScript.Text
