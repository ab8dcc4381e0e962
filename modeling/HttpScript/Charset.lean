import HttpScript.Charset.Tables
import HttpScript.Text

/-!
# Charsets

Bytes become text by a character encoding, which a content type names in its `charset` parameter.
What is malformed is replaced by U+FFFD, and a byte order mark is dropped in the Unicode encodings.

    decodeBody bs t    by the declared encoding, or as UTF-8 when there is none or it is unknown
-/

namespace HttpScript

abbrev Bytes := List UInt8

namespace Charset

/-- Stands for whatever could not be decoded. -/
def replacement : Char := '\ufffd'

/-! ## UTF-8 -/

/-- A sequence that has begun: how many bytes it still needs, the range of the next one, and the
bits read so far. -/
structure Pending where
  needed : Nat
  low : Nat
  high : Nat
  bits : Nat

/-- Decodes the first byte of a sequence. -/
def beginSequence (b : Nat) : List Char × Option Pending :=
  if b < 0x80 then ([Char.ofNat b], none)
  else if 0xC2 ≤ b && b ≤ 0xDF then ([], some ⟨1, 0x80, 0xBF, b - 0xC0⟩)
  else if 0xE0 ≤ b && b ≤ 0xEF then
    ([], some ⟨2, if b == 0xE0 then 0xA0 else 0x80, if b == 0xED then 0x9F else 0xBF, b - 0xE0⟩)
  else if 0xF0 ≤ b && b ≤ 0xF4 then
    ([], some ⟨3, if b == 0xF0 then 0x90 else 0x80, if b == 0xF4 then 0x8F else 0xBF, b - 0xF0⟩)
  else ([replacement], none)

/-- Decodes one byte. A byte that breaks a sequence off begins a new one. -/
def continueSequence (p : Option Pending) (b : Nat) : List Char × Option Pending :=
  match p with
  | none => beginSequence b
  | some p =>
    if p.low ≤ b && b ≤ p.high then
      let bits := p.bits * 64 + (b - 0x80)
      if p.needed == 1 then ([Char.ofNat bits], none)
      else ([], some ⟨p.needed - 1, 0x80, 0xBF, bits⟩)
    else
      let (cs, q) := beginSequence b
      (replacement :: cs, q)

/-- Decodes bytes inside a sequence that may have begun. -/
def utf8From : Option Pending → List Nat → List Char
  | p, [] => if p.isSome then [replacement] else []
  | p, b :: r => (continueSequence p b).1 ++ utf8From (continueSequence p b).2 r

/-! ## UTF-16 -/

/-- The units of bytes, given how a pair makes a unit, and whether a byte is left over. -/
def unitsOf (pair : Nat → Nat → Nat) : List Nat → List Nat × Bool
  | [] => ([], false)
  | [_] => ([], true)
  | a :: b :: r =>
    let (us, odd) := unitsOf pair r
    (pair a b :: us, odd)

/-- Characters of units; `odd` tells that half a unit follows the last one. -/
def utf16From (odd : Bool) : List Nat → List Char
  | [] => if odd then [replacement] else []
  | [u] =>
    if Text.isHighUnit u then [replacement]
    else (if Text.isLowUnit u then replacement else Char.ofNat u) ::
      (if odd then [replacement] else [])
  | u :: v :: r =>
    if Text.isHighUnit u && Text.isLowUnit v then
      Char.ofNat (Text.joinUnits u v) :: utf16From odd r
    else
      (if Text.isHighUnit u || Text.isLowUnit u then replacement else Char.ofNat u) ::
        utf16From odd (v :: r)

/-! ## Encodings -/

/-- An encoding. -/
inductive Encoding where
  | utf8
  | utf16le
  | utf16be
  | singleByte (table : Table)

/-- The encoding that a label names, blanks and ASCII case aside. -/
def Encoding.ofLabel? (label : String) : Option Encoding :=
  let isPad (c : Char) : Bool := c == ' ' || c == '\t' || c == '\n' || c == '\r' || c.toNat == 12
  let core := ((label.toList.dropWhile isPad).reverse.dropWhile isPad).reverse
  let word := Text.asciiLower (String.ofList core)
  if ["unicode-1-1-utf-8", "unicode11utf8", "unicode20utf8", "utf-8", "utf8",
      "x-unicode20utf8"].contains word then some .utf8
  else if ["csunicode", "iso-10646-ucs-2", "ucs-2", "unicode", "unicodefeff", "utf-16",
      "utf-16le"].contains word then some .utf16le
  else if ["unicodefffe", "utf-16be"].contains word then some .utf16be
  else (tables.find? (·.labels.contains word)).map .singleByte

/-- Without a byte order mark at the start. -/
def dropMark : List Char → List Char
  | c :: r => if c.toNat == 0xFEFF then r else c :: r
  | [] => []

/-- The character of a byte in a single-byte encoding. -/
def Table.char (upper : List Nat) (b : Nat) : Char :=
  if b < 0x80 then Char.ofNat b
  else match upper.getD (b - 0x80) 0 with
    | 0 => replacement
    | n => Char.ofNat n

def decode (e : Encoding) (bytes : Bytes) : String :=
  let bs := bytes.map UInt8.toNat
  String.ofList <| match e with
    | .utf8 => dropMark (utf8From none bs)
    | .utf16le =>
      let (us, odd) := unitsOf (fun a b => a + 256 * b) bs
      dropMark (utf16From odd us)
    | .utf16be =>
      let (us, odd) := unitsOf (fun a b => 256 * a + b) bs
      dropMark (utf16From odd us)
    | .singleByte t =>
      let upper := expand t.upper
      bs.map (Table.char upper)

/-! ## Content types -/

/-- The value after `charset=`: in quotes up to the closing one, or up to a quote or semicolon. A
value that is missing although blanks stand there is blank. -/
def charsetValue? (s : List Char) : Option (List Char) :=
  let isEnd (c : Char) : Bool := c == '"' || c == ';'
  let blank := if s.head?.any Text.isBlank then some [] else none
  match Text.trimStart s with
  | '"' :: r =>
    let value := r.takeWhile (!isEnd ·)
    if !value.isEmpty && (r.dropWhile (!isEnd ·)).head? == some '"' then some value else blank
  | r => if (r.takeWhile (!isEnd ·)).isEmpty then blank else some (r.takeWhile (!isEnd ·))

/-- The value of a `charset` parameter that follows a semicolon. -/
def charsetParameter? (s : List Char) : Option (List Char) :=
  match Text.dropWord? "charset".toList (Text.trimStart s) with
  | none => none
  | some r => match Text.trimStart r with
    | '=' :: r => charsetValue? r
    | _ => none

/-- The value of the first `charset` parameter. -/
def firstCharset? : List Char → Option (List Char)
  | [] => none
  | c :: r => if c == ';' then (charsetParameter? r).or (firstCharset? r) else firstCharset? r

/-- The charset that a content type declares; a blank one does not count. -/
def declared? (contentType : Option String) : Option String :=
  match (contentType.bind fun t => firstCharset? t.toList).map Text.trim with
  | none | some [] => none
  | some value => some (String.ofList value)

def decodeBody (bytes : Bytes) (contentType : Option String) : String :=
  decode (((declared? contentType).bind Encoding.ofLabel?).getD .utf8) bytes

end Charset

end HttpScript
