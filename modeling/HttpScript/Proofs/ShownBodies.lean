import HttpScript.Proofs.PathReading
import HttpScript.Proofs.WrittenTrees
import HttpScript.Report

/-!
# Bodies as they are shown

A body that is JSON is shown indented, by itself and inside a report. What is shown is the same
tree, but each number stands there with the text of the double nearest to it. So the numbers are
those of the body exactly if each of them is kept, that is, if that text denotes the same decimal.

    tree.Agree ShowsNumber shown ↔
      ∀ ss s, tree.node? ss = some (.number s) → Kept s                (parse?_bodyText)

Natural numbers below `2 ^ 53` are kept (`kept_natural`).
-/

namespace HttpScript

/-! ## Decimal numbers -/

namespace Binary64

/-- Whether a literal has a minus sign, and what stands behind its sign. -/
def cutSign : List Char → Bool × List Char
  | '-' :: r => (true, r)
  | '+' :: r => (false, r)
  | s => (false, s)

/-- The number behind an exponent mark. -/
def exponentValue : List Char → Int
  | '-' :: r => -(Text.digitsValue r : Int)
  | '+' :: r => Text.digitsValue r
  | r => Text.digitsValue r

/-- What a decimal literal spells: whether it is negative, its digits, and the power of ten that
they are multiplied by. -/
def decimalParts (literal : String) : Bool × Nat × Int :=
  let (negative, s) := cutSign literal.toList
  let isMark (c : Char) : Bool := c == 'e' || c == 'E'
  let significand := s.takeWhile (!isMark ·)
  let exponent := exponentValue ((s.dropWhile (!isMark ·)).drop 1)
  let whole := significand.takeWhile (· != '.')
  let places := (significand.dropWhile (· != '.')).drop 1
  (negative, Text.digitsValue (whole ++ places), exponent - places.length)

/-- The decimal number that a literal denotes, before any rounding. -/
def denoted (literal : String) : ℚ :=
  let (negative, digits, exponent) := decimalParts literal
  (if negative then -1 else 1) * digits * 10 ^ exponent

/-- The text of the double nearest to the literal denotes the same decimal number. -/
def Kept (literal : String) : Prop :=
  (ofLiteral literal).isFinite = true ∧ denoted (ofLiteral literal).text = denoted literal

theorem ofLiteral_eq (literal : String) :
    ofLiteral literal = ofDecimal (decimalParts literal).1 (decimalParts literal).2.1
      (decimalParts literal).2.2 := by
  rfl

/-- Digits alone spell a whole number. -/
theorem decimalParts_digits {ds : List Char} (digits : Json.IsDigits ds) :
    decimalParts (String.ofList ds) = (false, Text.digitsValue ds, 0) := by
  obtain ⟨some_, digits⟩ := digits
  have other {c d : Char} (hc : c ∈ ds) (hd : d.isDigit = false) : (c == d) = false :=
    Json.NumberPart.beq_of_isDigit (digits c hc) hd
  have unmarked : ∀ c ∈ ds, (!(c == 'e' || c == 'E')) = true := fun c hc => by
    rw [other hc (by decide), other hc (by decide)]
    rfl
  have unpointed : ∀ c ∈ ds, (c != '.') = true := fun c hc => by
    rw [bne, other hc (by decide)]
    rfl
  have noMark := List.dropWhile_eq_nil_iff.2 unmarked
  have noPoint := List.dropWhile_eq_nil_iff.2 unpointed
  have unsigned : cutSign ds = (false, ds) := by
    unfold cutSign
    split
    · exact absurd (digits '-' List.mem_cons_self) (by decide)
    · exact absurd (digits '+' List.mem_cons_self) (by decide)
    · rfl
  unfold decimalParts
  rw [String.toList_ofList, unsigned]
  dsimp only
  rw [List.takeWhile_eq_self_iff.2 unmarked, noMark, noPoint,
    List.takeWhile_eq_self_iff.2 unpointed, List.drop_nil, List.append_nil]
  rfl

/-- The digits of a natural number that has a double are read as that double. -/
theorem ofLiteral_toDigits (n : Nat) (small : n < Nat.pow 2 53) :
    ofLiteral (String.ofList (Nat.toDigits 10 n)) = ofNat n := by
  rw [ofLiteral_eq, decimalParts_digits (isDigits_toDigits n), Text.digitsValue_toDigits]
  have short : (Nat.toDigits 10 n).length ≤ 16 :=
    (Nat.length_toDigits_le_iff (by decide) (by decide)).2 (Nat.lt_trans small (by decide))
  rcases Nat.eq_zero_or_pos n with rfl | pos
  · rfl
  unfold ofDecimal
  dsimp only
  rw [if_neg (by simpa using pos.ne'), if_neg (by omega), if_neg (by omega), if_pos le_rfl]
  simp [ofNat]

/-- Natural numbers below `2 ^ 53` are kept. -/
theorem kept_natural (n : Nat) (small : n < Nat.pow 2 53) :
    Kept (String.ofList (Nat.toDigits 10 n)) := by
  unfold Kept
  rw [ofLiteral_toDigits n small, text_ofNat n small]
  refine ⟨?_, rfl⟩
  rcases Nat.eq_zero_or_pos n with rfl | pos
  · rfl
  · rw [ofNat_eq_finite n pos small]
    rfl

/-- Places are kept, but for zeros at their end. -/
example : Kept "19.90" := ⟨by decide +kernel, by decide +kernel⟩

end Binary64

/-! ## Agreement -/

namespace Json

open BodyPath (Step)
open Record (lastWritten?)
open Binary64 (ofLiteral denoted Kept)

/-- Two source trees are the same tree but for their numbers: for each number of the first one
there is a node in the second one that is related to it. Of members with one name the last counts,
and their order does not matter. -/
inductive Agree (R : String → Json String → Prop) : Json String → Json String → Prop where
  | null : Agree R null null
  | bool (b : Bool) : Agree R (bool b) (bool b)
  | text (s : Wide) : Agree R (text s) (text s)
  | number {s : String} {v : Json String} (related : R s v) : Agree R (number s) v
  | list {xs ys : List (Json String)} (length : xs.length = ys.length)
      (items : ∀ (i : Nat) x y, xs[i]? = some x → ys[i]? = some y → Agree R x y) :
      Agree R (list xs) (list ys)
  | object {ms ns : List (Wide × Json String)}
      (names : ∀ k, (lastWritten? k ms).isSome = (lastWritten? k ns).isSome)
      (values : ∀ k x y, lastWritten? k ms = some x → lastWritten? k ns = some y → Agree R x y) :
      Agree R (object ms) (object ns)

variable {R : String → Json String → Prop}

theorem Agree.exists_child? {t w t' : Json String} {s : Step} (agree : Agree R t w)
    (child : t.child? s = some t') : ∃ w', w.child? s = some w' ∧ Agree R t' w' := by
  cases agree with
  | @list xs ys length items =>
    cases s with
    | member name => cases child
    | item i =>
      have found : xs[i]? = some t' := child
      obtain ⟨below, -⟩ := List.getElem?_eq_some_iff.1 found
      have held : ys[i]? = some ys[i] := List.getElem?_eq_getElem (length ▸ below)
      exact ⟨ys[i], held, items i t' _ found held⟩
  | @object ms ns names values =>
    cases s with
    | item i => cases child
    | member name =>
      have found : lastWritten? name ms = some t' := child
      have known := names name
      rw [found] at known
      obtain ⟨w', held⟩ := Option.isSome_iff_exists.1 known.symm
      exact ⟨w', held, values name t' w' found held⟩
  | _ => cases s <;> cases child

/-- Trees that agree do so at every place. -/
theorem Agree.exists_node? {t w t' : Json String} {ss : List Step} (agree : Agree R t w)
    (walk : t.node? ss = some t') : ∃ w', w.node? ss = some w' ∧ Agree R t' w' := by
  induction ss generalizing t w with
  | nil =>
    obtain rfl := Option.some.inj walk
    exact ⟨w, rfl, agree⟩
  | cons s ss ih =>
    rw [node?_cons] at walk
    obtain ⟨t₁, first, walk⟩ := Option.bind_eq_some_iff.1 walk
    obtain ⟨w₁, first', agree₁⟩ := agree.exists_child? first
    obtain ⟨w', walk', same⟩ := ih agree₁ walk
    refine ⟨w', ?_, same⟩
    rw [node?_cons, first']
    exact walk'

/-- A number at a place of a tree is a number of the tree. -/
theorem holds_of_node? {t : Json String} {ss : List Step} {s : String}
    (reached : t.node? ss = some (.number s)) : Holds s t := by
  induction ss generalizing t with
  | nil =>
    obtain rfl : t = .number s := Option.some.inj reached
    exact .self
  | cons step ss ih =>
    rw [node?_cons] at reached
    obtain ⟨t', first, rest⟩ := Option.bind_eq_some_iff.1 reached
    unfold child? at first
    split at first
    · exact .member (Record.mem_of_lastWritten? first) (ih rest)
    · exact .item (List.mem_of_getElem? first) (ih rest)
    · cases first

/-! ## Shown trees -/

/-- What is shown of a source tree: its value with doubles, as it is written. -/
def shown (t : Json String) : Json String := t.toDoubles.written

theorem shown_list (xs : List (Json String)) : shown (list xs) = list (xs.map shown) := by
  unfold shown
  rw [toDoubles, written, toDoublesItems_eq_map, writtenItems_eq_map, List.map_map]
  rfl

/-- The members of a shown object. -/
theorem exists_shown_object (ms : List (Wide × Json String)) :
    ∃ ns, shown (object ms) = object ns ∧
      ∀ k, lastWritten? k ns = (lastWritten? k ms).map shown := by
  refine ⟨_, by rw [shown, toDoubles, written], fun k => ?_⟩
  rw [writtenMembers_eq_map, Record.lastWritten?_map,
    Record.lastWritten?_eq_get? (Record.distinct_ofList _), Record.get?_ofList,
    toDoublesMembers_eq_map, Record.lastWritten?_map, Option.map_map]
  rfl

theorem child?_shown (t : Json String) (s : Step) : t.shown.child? s = (t.child? s).map shown := by
  cases t with
  | list xs =>
    rw [shown_list]
    cases s with
    | member name => rfl
    | item i => exact List.getElem?_map
  | object ms =>
    obtain ⟨ns, shape, members⟩ := exists_shown_object ms
    rw [shape]
    cases s with
    | member name => exact members name
    | item i => rfl
  | number n =>
    show (writtenNumber (ofLiteral n)).child? s = _
    unfold writtenNumber
    split <;> (cases s <;> rfl)
  | _ => cases s <;> rfl

theorem node?_shown (t : Json String) (ss : List Step) :
    t.shown.node? ss = (t.node? ss).map shown := by
  induction ss generalizing t with
  | nil => rfl
  | cons s ss ih =>
    rw [node?_cons, node?_cons, child?_shown]
    cases t.child? s with
    | none => rfl
    | some t' => exact ih t'

/-- A tree agrees with what is shown of it if its numbers do. -/
theorem agree_shown (t : Json String)
    (all : ∀ ss s, t.node? ss = some (.number s) → R s (writtenNumber (ofLiteral s))) :
    Agree R t t.shown := by
  induction t using inner_induction with
  | null => exact .null
  | bool b => exact .bool b
  | text s => exact .text s
  | number s => exact .number (all [] s rfl)
  | list xs ih =>
    rw [shown_list]
    refine .list (List.length_map shown).symm fun i x y hx hy => ?_
    rw [List.getElem?_map, hx] at hy
    obtain rfl := Option.some.inj hy
    refine ih x (List.mem_of_getElem? hx) fun ss s reached => all (.item i :: ss) s ?_
    rw [node?_cons]
    show xs[i]?.bind _ = _
    rw [hx]
    exact reached
  | object ms ih =>
    obtain ⟨ns, shape, members⟩ := exists_shown_object ms
    rw [shape]
    refine .object (fun k => ?_) fun k x y hx hy => ?_
    · rw [members, Option.isSome_map]
    · rw [members, hx] at hy
      obtain rfl := Option.some.inj hy
      have mem := Record.mem_of_lastWritten? hx
      refine ih (k, x) mem fun ss s reached => all (.member k :: ss) s ?_
      rw [node?_cons]
      show (lastWritten? k ms).bind _ = _
      rw [hx]
      exact reached

theorem agree_shown_iff (t : Json String) :
    Agree R t t.shown ↔
      ∀ ss s, t.node? ss = some (.number s) → R s (writtenNumber (ofLiteral s)) := by
  refine ⟨fun agree ss s reached => ?_, agree_shown t⟩
  obtain ⟨w, reached', related⟩ := agree.exists_node? reached
  rw [node?_shown, reached] at reached'
  obtain rfl := Option.some.inj reached'
  cases related with
  | number related => exact related

/-- The number is shown with the text of its double, or as `null` if that is not finite. -/
def ShowsDouble (s : String) (v : Json String) : Prop := v = writtenNumber (ofLiteral s)

/-- The same decimal number is shown. -/
def ShowsNumber (s : String) (v : Json String) : Prop :=
  ∃ t, v = .number t ∧ denoted t = denoted s

theorem showsNumber_written_iff (s : String) :
    ShowsNumber s (writtenNumber (ofLiteral s)) ↔ Kept s := by
  unfold ShowsNumber Kept writtenNumber
  cases (ofLiteral s).isFinite <;> simp

theorem stored_toDoubles (t : Json String) : t.toDoubles.Stored := by
  induction t using inner_induction with
  | null => exact stored_null
  | bool b => exact stored_bool b
  | text s => exact stored_text s
  | number s => exact (stored_number _).2 (Binary64.isDouble_ofLiteral s)
  | list xs ih =>
    rw [toDoubles, toDoublesItems_eq_map, stored_list]
    intro y hy
    obtain ⟨x, mem, rfl⟩ := List.mem_map.1 hy
    exact ih x mem
  | object ms ih =>
    rw [toDoubles, toDoublesMembers_eq_map, stored_object]
    intro e he
    have last := (Record.distinct_ofList _).get?_of_mem he
    rw [Record.get?_ofList] at last
    obtain ⟨f, mem, same⟩ := List.mem_map.1 (Record.mem_of_lastWritten? last)
    rw [← (Prod.mk.inj same).2]
    exact ih f mem

end Json

/-! ## Reports -/

/-- All durations are numbers that the format has. -/
def Timing.Stored (t : Timing) : Prop :=
  ∀ d ∈ [t.total, t.ttfb, t.download, t.dns, t.connect, t.tls], d.IsDouble

namespace Report

open Json (Stored stored_record stored_list stored_number stored_text stored_bool)

@[simp] theorem stored_ofNat (n : Nat) : (ofNat n).Stored :=
  (stored_number _).2 (Binary64.isDouble_ofNat n)

@[simp] theorem stored_ofRecord (r : Record String) : (ofRecord r).Stored := by
  rw [ofRecord, stored_record]
  intro e he
  obtain ⟨f, -, rfl⟩ := List.mem_map.1 he
  exact stored_text f.2

@[simp] theorem stored_optionalText (name : String) (value : Option String) :
    Stored (.record (optionalText name value)) := by
  cases value <;> simp [optionalText]

theorem tree?_of_json {contentType : Option String} {body : String} {tree : Json String}
    (kind : Display.BodyKind.of contentType body = .json) (json : Json.parse? body = some tree) :
    tree? contentType body = some tree.toDoubles := by
  unfold tree? Json.parseDoubles?
  rw [kind, json]
  rfl

@[simp] theorem stored_ofBody (contentType : Option String) (body : String) :
    (ofBody contentType body).Stored := by
  unfold ofBody tree? Json.parseDoubles?
  split
  · cases Json.parse? body with
    | none => exact stored_text body
    | some tree => exact Json.stored_toDoubles tree
  · exact stored_text body

@[simp] theorem stored_ofCookie (c : Cookie) : (ofCookie c).Stored := by
  simp [ofCookie]

@[simp] theorem stored_ofResponse (r : Response) : (ofResponse r).Stored := by
  simp [ofResponse]

/-- A report has no numbers but those of its durations, natural numbers and those of the body. -/
theorem stored_ofResult (r : ExecutionResult) (stored : r.timing.Stored) :
    (ofResult r).Stored := by
  have timing : (ofTiming r.timing).Stored := by
    simpa [Timing.Stored, ofTiming] using stored
  unfold ofResult
  cases r.response <;> cases r.failure <;> simp [ofResolved, ofFailure, timing]

theorem child?_written (ms : Record (Json Binary64)) (name : String) :
    (Json.record ms).written.child? (.member name) =
      (Record.lastWritten? name ms).map Json.written := by
  rw [Json.record, Json.written, Json.writtenMembers_eq_map, ← Record.lastWritten?_ofString]
  exact Record.lastWritten?_map _ _ _

/-- The report of a result has the body of the response as it is shown by itself. -/
theorem node?_ofResult (r : ExecutionResult) (response : Response)
    (answered : r.response = some response) :
    (ofResult r).written.node? [.member "response", .member "body"] =
      some (ofBody response.contentType response.body).written := by
  have outer : (ofResult r).written.child? (.member "response") =
      some (ofResponse response).written := by
    unfold ofResult
    rw [child?_written, answered]
    cases r.failure <;> rfl
  have inner : (ofResponse response).written.child? (.member "body") =
      some (ofBody response.contentType response.body).written := by
    unfold ofResponse
    rw [child?_written, Record.lastWritten?, List.reverse_append]
    rfl
  rw [Json.node?_cons, outer, Option.bind_some, Json.node?_cons, inner]
  rfl

/-- A body that is JSON is shown as JSON, by itself and in a report. It is the same tree with the
texts of doubles for its numbers, and its numbers are shown exactly if all of them are kept. -/
theorem parse?_bodyText (contentType : Option String) (body : String) (tree : Json String)
    (kind : Display.BodyKind.of contentType body = .json) (json : Json.parse? body = some tree) :
    ∃ shown, Json.parse? (bodyText contentType body) = some shown ∧
      tree.Agree Json.ShowsDouble shown ∧
      (tree.Agree Json.ShowsNumber shown ↔
        ∀ ss s, tree.node? ss = some (.number s) → Binary64.Kept s) ∧
      ∀ (r : ExecutionResult) (response : Response), r.response = some response →
        response.contentType = contentType → response.body = body → r.timing.Stored →
        ∃ report, Json.parse? (ofResult r).indented = some report ∧
          report.node? [.member "response", .member "body"] = some shown := by
  have read := tree?_of_json kind json
  refine ⟨tree.shown, ?_, tree.agree_shown fun _ _ _ => rfl, ?_, ?_⟩
  · unfold bodyText
    rw [read]
    exact Json.parse?_indented tree.stored_toDoubles
  · rw [Json.agree_shown_iff]
    simp only [Json.showsNumber_written_iff]
  · intro r response answered sameType sameBody stored
    refine ⟨_, Json.parse?_indented (stored_ofResult r stored), ?_⟩
    rw [node?_ofResult r response answered, sameType, sameBody, ofBody, read]
    rfl

/-- Prices and ids that are kept: they are shown by themselves and in the report of a result. -/
theorem parse?_bodyText_prices :
    let body := "\x7b\"price\":19.90,\"ids\":[7,-0]\x7d"
    let tree : Json String :=
      .object [("price", .number "19.90"), ("ids", .list [.number "7", .number "-0"])]
    let response : Response := ⟨200, "OK", [], [], body, [], body.utf8ByteSize, none⟩
    let result : ExecutionResult :=
      ⟨true, ⟨"GET", "https://h.example/", [], none⟩, some response, .brief 12 5, 0, none⟩
    bodyText none body = "\x7b\n  \"price\": 19.9,\n  \"ids\": [\n    7,\n    0\n  ]\n\x7d" ∧
      ∃ shown, Json.parse? (bodyText none body) = some shown ∧
        tree.Agree Json.ShowsNumber shown ∧
        ∃ report, Json.parse? (ofResult result).indented = some report ∧
          report.node? [.member "response", .member "body"] = some shown := by
  intro body tree response result
  have json : Json.parse? "\x7b\"price\":19.90,\"ids\":[7,-0]\x7d" = some tree := Eq.refl _
  have kept (ss : List BodyPath.Step) (s : String) (reached : tree.node? ss = some (.number s)) :
      Binary64.Kept s := by
    have holds := Json.holds_of_node? reached
    simp only [tree, Json.holds_object, Json.holds_list, Json.holds_number, List.mem_cons,
      List.not_mem_nil, or_false, exists_eq_or_imp, exists_eq_left] at holds
    rcases holds with rfl | rfl | rfl <;> exact ⟨by decide +kernel, by decide +kernel⟩
  have timing : result.timing.Stored := by
    intro d hd
    simp only [result, Timing.brief, List.mem_cons, List.not_mem_nil, or_false] at hd
    rcases hd with rfl | rfl | rfl | rfl | rfl | rfl <;> exact Binary64.isDouble_ofNat _
  obtain ⟨shown, read, -, numbers, reported⟩ :=
    parse?_bodyText none body tree (by decide +kernel) json
  exact ⟨by decide +kernel, shown, read, numbers.2 kept,
    reported result response rfl rfl rfl timing⟩

/-- An id with twenty digits is shown with other digits. -/
theorem bodyText_long_id :
    let body := "\x7b\"id\":12345678901234567890\x7d"
    let tree : Json String := .object [("id", .number "12345678901234567890")]
    Display.BodyKind.of (some "application/json") body = .json ∧
      Json.parse? body = some tree ∧
      bodyText (some "application/json") body = "\x7b\n  \"id\": 12345678901234567000\n\x7d" ∧
      ¬ ∃ shown, Json.parse? (bodyText (some "application/json") body) = some shown ∧
        tree.Agree Json.ShowsNumber shown := by
  intro body tree
  have json : Json.parse? "\x7b\"id\":12345678901234567890\x7d" = some tree := Eq.refl _
  have text : bodyText (some "application/json") body =
      "\x7b\n  \"id\": 12345678901234567000\n\x7d" := by decide +kernel
  refine ⟨by decide +kernel, json, text, ?_⟩
  rintro ⟨shown, read, agree⟩
  rw [text] at read
  obtain rfl : Json.object [("id", .number "12345678901234567000")] = shown :=
    Option.some.inj (Eq.trans (Eq.refl _) read)
  obtain ⟨w, step, related⟩ := agree.exists_child? (s := .member "id") (Eq.refl _)
  obtain rfl : Json.number "12345678901234567000" = w := Option.some.inj step
  cases related with
  | number same =>
    obtain ⟨t, shape, equal⟩ := same
    obtain rfl := Json.number.inj shape
    revert equal
    decide +kernel

end Report

end HttpScript
