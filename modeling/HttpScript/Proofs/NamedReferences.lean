import HttpScript.Proofs.LetterCase
import HttpScript.Proofs.ReferenceText
import HttpScript.Proofs.RequestSpans
import HttpScript.Proofs.SessionHistory

/-!
# References to named requests

A request can be given any word as its name, and its response is kept under that name. A reference
reads identifiers only, so that what is kept can be referred to exactly under the spellings of the
name that are identifiers:

    Chains n m ↔ isIdent m.toList          for every spelling m of the name n   (chains_iff_isIdent)

Under any other spelling a reference may be part of a text and still says nothing about the request:
the references that are read in it have shorter names.
-/

namespace HttpScript

/-! ## Lengths in lower case -/

namespace Text

theorem toNat_lt_of_isIdentRest {c : Char} (h : isIdentRest c = true) : c.toNat < 128 := by
  unfold isIdentRest Char.isAlphanum at h
  simp only [Bool.or_eq_true, beq_iff_eq] at h
  rcases h with (letter | digit) | rfl
  · have := toNat_of_isAlpha letter
    omega
  · have : c.toNat ≤ 57 := (Char.isDigit_iff_toNat.1 digit).2
    omega
  · decide

theorem one_le_length_lowerChar (c : Char) : 1 ≤ (lowerChar c).length := by
  unfold lowerChar
  dsimp only
  split
  · simp
  · split <;> simp

/-- Lower case makes no text shorter. -/
theorem length_le_length_lower (s : String) : s.toList.length ≤ (lower s).toList.length := by
  have grows : ∀ cs before : List Char, cs.length ≤ (lowerAfter before cs).length := by
    intro cs
    induction cs with
    | nil => simp
    | cons c cs ih =>
      intro before
      have rest := ih (c :: before)
      have first := one_le_length_lowerChar c
      rw [lowerAfter, List.length_append, List.length_cons]
      split
      · simp
        omega
      · omega
  simpa [lower] using grows s.toList []

/-- Identifiers keep their length in lower case. -/
theorem length_lower_of_isIdentRest (n : List Char) (h : ∀ c ∈ n, isIdentRest c = true) :
    (lower (String.ofList n)).toList.length = n.length := by
  have ascii : ∀ c ∈ n, c.toNat < 128 := fun c hc => toNat_lt_of_isIdentRest (h c hc)
  rw [lower, String.toList_ofList, String.toList_ofList, lowerAfter_of_ascii [] ascii,
    List.length_map]

end Text

/-! ## Names of requests -/

namespace Line

theorem ne_empty_of_classify_name (l n : String) (h : classify l = .name n) : n ≠ "" := by
  unfold classify at h
  dsimp only at h
  split at h
  · cases h
  split at h
  · next word hd =>
    obtain rfl := Line.name.inj h
    simp only [directiveName?, Option.bind_eq_bind, Option.bind_eq_some_iff] at hd
    obtain ⟨r, -, r', -, hd⟩ := hd
    split at hd
    · next filled =>
      obtain rfl := Option.some.inj hd
      simp only [Bool.and_eq_true, Bool.not_eq_true', List.isEmpty_eq_false_iff] at filled
      intro empty
      exact filled.1.2 (by simpa using congrArg String.toList empty)
    · cases hd
  repeat' split at h
  all_goals cases h

end Line

/-- The name of a request is not empty. -/
theorem Document.name_ne_empty (ls : List String) (q : Request) (hq : q ∈ (ofLines ls).requests)
    (n : String) (named : q.name = some n) : n ≠ "" := by
  obtain ⟨above, before, l, after, below, r, -, -, read, rfl⟩ := exists_block_of_mem ls q hq
  obtain ⟨-, -, -, name, -⟩ := Block.request?_eq_some before after l r read
  have last : (before.filterMap Block.nameOf?).getLast? = some n := name.symm.trans named
  obtain ⟨k, -, hk⟩ := List.mem_filterMap.mp (List.mem_of_getLast? last)
  unfold Block.nameOf? at hk
  split at hk
  · next name hc =>
    obtain rfl := Option.some.inj hk
    exact Line.ne_empty_of_classify_name k name hc
  · cases hk

namespace Session

open Text (lower isIdent isIdentRest)

/-! ## References that are read in a text -/

/-- What is read at the front of a text names the identifier behind two opening braces. -/
theorem name_of_referenceAt? (u : List Char) (ref : Reference) (more : Nat)
    (h : referenceAt? u = some (ref, more)) :
    ∃ w, u = '{' :: '{' :: w ∧ isIdent (w.takeWhile isIdentRest) = true ∧
      ref.name = String.ofList (w.takeWhile isIdentRest) := by
  unfold referenceAt? at h
  split at h
  · next w =>
    refine ⟨w, rfl, ?_⟩
    cases ident : isIdent (w.takeWhile isIdentRest) with
    | false =>
      simp only [ident, Bool.not_false, if_true] at h
      cases h
    | true =>
      simp only [ident, Bool.not_true, Bool.false_eq_true, if_false, Option.bind_eq_bind,
        Option.bind_eq_some_iff] at h
      obtain ⟨_, -, _, -, _, -, h⟩ := h
      exact ⟨rfl, (congrArg Reference.name (Prod.mk.inj (Option.some.inj h)).1).symm⟩
  · cases h

/-- An end of a reference text that begins with two opening braces begins in front of the name or
inside it. -/
theorem exists_name_of_suffix (m tail w : List Char) (closed : '{' ∉ tail)
    (h : '{' :: '{' :: w <:+ '{' :: '{' :: (m ++ '.' :: tail)) :
    ∃ m', w = m' ++ '.' :: tail ∧ m'.length ≤ m.length ∧ (m'.length = m.length → m' = m) := by
  obtain ⟨v, hv⟩ := h
  rw [← List.cons_append, ← List.cons_append, List.append_eq_append_iff] at hv
  rcases hv with ⟨a, hv, ha⟩ | ⟨c, -, hc⟩
  · match a, ha with
    | [], ha => simp at ha
    | [c], ha => simp at ha
    | c :: d :: m', ha =>
      obtain ⟨rfl, rfl, rfl⟩ : '{' = c ∧ '{' = d ∧ w = m' ++ '.' :: tail := by simpa using ha
      have size := congrArg List.length hv
      simp at size
      refine ⟨m', rfl, by omega, fun same => ?_⟩
      obtain rfl : v = [] := List.length_eq_zero_iff.mp (by omega)
      simpa using hv.symm
  · -- the end would have to begin behind the name, where no brace opens
    have brace : '{' ∈ '.' :: tail := by
      rw [hc]
      simp
    rcases List.mem_cons.mp brace with dot | brace
    · exact absurd dot (by decide)
    · exact absurd brace closed

/-- In the text of a reference under a name that is no identifier, only references to shorter names
are read. -/
theorem lower_ne_of_mem_scan (r : Reference) (other : isIdent r.name.toList = false)
    (closed : ∀ p, r.path = some p → '{' ∉ p.toList) (ref : Reference) (raw : List Char)
    (found : .found ref raw ∈ Text.scan referenceAt? r.text.toList) :
    lower ref.name ≠ lower r.name := by
  obtain ⟨u, more, hu, read⟩ := Text.suffix_of_mem_scan referenceAt? _ _ _ found
  obtain ⟨w, rfl, ident, name⟩ := name_of_referenceAt? u ref more read
  obtain ⟨tail, shape, no_brace⟩ : ∃ tail, r.text.toList =
      '{' :: '{' :: (r.name.toList ++ '.' :: tail) ∧ '{' ∉ tail := by
    refine ⟨"response.".toList ++ (r.part.word.toList ++ ((pathText r.path).toList ++ ['}', '}'])),
      by simp [Reference.text], ?_⟩
    have word : '{' ∉ r.part.word.toList := by cases r.part <;> decide
    have path : '{' ∉ (pathText r.path).toList := by
      cases hp : r.path with
      | none => simp [pathText]
      | some p => simpa [pathText] using closed p hp
    simp [word, path]
  rw [shape] at hu
  obtain ⟨m', rfl, shorter, whole⟩ := exists_name_of_suffix _ _ _ no_brace hu
  have stop : (m' ++ '.' :: tail).takeWhile isIdentRest = m'.takeWhile isIdentRest := by
    have dot : isIdentRest '.' = false := by decide
    rw [List.takeWhile_append]
    split
    · next all =>
      have same : m'.takeWhile isIdentRest = m' :=
        (List.takeWhile_prefix _).eq_of_length all
      simp [same, dot]
    · rfl
  rw [stop] at ident name
  -- equal names in lower case have equal lengths, so that the name that is read is all of `r.name`
  intro same
  have fits : (m'.takeWhile isIdentRest).length ≤ m'.length := (List.takeWhile_prefix _).length_le
  have read_length := Text.length_lower_of_isIdentRest (m'.takeWhile isIdentRest)
    fun c hc => List.mem_takeWhile_imp hc
  have name_length := Text.length_le_length_lower r.name
  rw [← same, name, read_length] at name_length
  have all : m'.takeWhile isIdentRest = m' := (List.takeWhile_prefix _).eq_of_length (by omega)
  rw [all, whole (by omega), other] at ident
  cases ident

/-! ## What is kept under a name -/

theorem held?_store (s : Session) (n : String) (r : StoredResponse) (named : n ≠ "") (m : String) :
    (s.store n r).held? m = if lower n = lower m then some (.fresh n r) else s.held? m := by
  have filled : n.isEmpty = false := by simpa [String.isEmpty_iff] using named
  rw [store, filled, if_neg Bool.false_ne_true, held?_put, SessionEntry.key_fresh]

theorem find?_of_get? (r : Record String) (h v : String) (stored : r.get? h = some v) :
    r.find? h = some v := by
  have there : r.has h = true := by
    obtain ⟨before, after, shape, -⟩ := List.lookup_eq_some_iff.1 stored
    simp [Record.has, shape]
  simp [Record.find?, Record.findName?, there, stored]

/-- A response under a name leaves what references under other names see. -/
theorem agreesOn_store (s : SessionState) (n : String) (response : StoredResponse)
    (P : String → Prop) (apart : ∀ m, P m → lower m ≠ lower n) :
    SessionState.AgreesOn P (s.apply (.store n response)) s := by
  refine ⟨rfl, rfl, fun m hm => ?_⟩
  show ((s.session.store n response).held? m).map _ = _
  by_cases named : n = ""
  · -- the empty name keeps nothing
    rw [store, if_pos (String.isEmpty_iff.2 named)]
  · rw [held?_store s.session n response named, if_neg fun same => apart m hm same.symm]

/-- A reference under a name that is no identifier says nothing about what is kept under it. -/
theorem resolve_text_store (s : SessionState) (n : String) (response : StoredResponse)
    (r : Reference) (same : lower r.name = lower n) (other : isIdent r.name.toList = false)
    (closed : ∀ p, r.path = some p → '{' ∉ p.toList) :
    ((s.apply (.store n response)).resolve r.text).1 = (s.resolve r.text).1 := by
  refine ((agreesOn_store s n response (fun m => lower m ≠ lower n) fun _ apart => apart).resolve
    r.text fun ref href => ?_).1
  obtain ⟨raw, found⟩ := exists_found_of_mem_references href
  exact fun c => lower_ne_of_mem_scan r other closed ref raw found (c.trans same.symm)

/-- Whether the characters form a header name. -/
def isToken (h : String) : Bool := h != "" && h.toList.all Line.isTokenChar

theorem not_mem_of_isToken {h : String} (token : isToken h = true) (c : Char)
    (other : Line.isTokenChar c = false) : c ∉ h.toList := by
  intro hc
  unfold isToken at token
  simp only [Bool.and_eq_true, List.all_eq_true] at token
  have := token.2 c hc
  rw [other] at this
  cases this

/-- Under the spelling `m`, references give the body and every header of what was last kept under
the name `n`, and leave everything as it is. -/
def Chains (n m : String) : Prop :=
  ∀ (s : SessionState) (r : StoredResponse),
    let kept := s.apply (.store n r)
    kept.resolve (Reference.text ⟨m, .body, none⟩) = (r.body, kept) ∧
    ∀ h v, isToken h = true → r.headers.get? h = some v →
      kept.resolve (Reference.text ⟨m, .headers, some h⟩) = (v, kept)

theorem chains_of_isIdent (n m : String) (named : n ≠ "") (same : lower m = lower n)
    (ident : isIdent m.toList = true) : Chains n m := by
  intro s r kept
  have found : kept.session.held? m = some (.fresh n r) := by
    show (s.session.store n r).held? m = _
    rw [held?_store s.session n r named, if_pos same.symm]
  have stays (part : ResponsePart) (path : Option String)
      (free : Reference.isCodeFree ⟨m, part, path⟩ = true) :
      (kept.answer ⟨m, part, path⟩).2 = kept := kept.answer_of_isCodeFree _ free
  constructor
  · rw [SessionState.resolve_text _ ⟨m, .body, none⟩ ⟨ident, nofun⟩, stays .body none rfl,
      SessionState.answer_of_held? (r := ⟨m, .body, none⟩) found]
    rfl
  · intro h v token stored
    have filled : h.toList ≠ [] := by
      unfold isToken at token
      simp only [Bool.and_eq_true, bne_iff_ne] at token
      simpa using token.1
    have written : Reference.Written ⟨m, .headers, some h⟩ := by
      refine ⟨ident, fun p hp => ?_⟩
      obtain rfl := Option.some.inj hp
      exact ⟨filled, not_mem_of_isToken token '}' (by decide)⟩
    rw [SessionState.resolve_text _ _ written, stays .headers (some h) rfl,
      SessionState.answer_of_held? (r := ⟨m, .headers, some h⟩) found]
    simp [SessionEntry.answer, find?_of_get? _ _ _ stored]

/-- What is kept for a request is chained exactly under those spellings of its name that are
identifiers. Under another one no reference to it, whatever it asks for, shows what is kept. -/
theorem chains_iff_isIdent (text : String) (q : Request) (hq : q ∈ (Document.parse text).requests)
    (n : String) (named : q.name = some n) (m : String) (same : lower m = lower n) :
    (Chains n m ↔ isIdent m.toList = true) ∧
    (isIdent m.toList = false → ∀ (s : SessionState) (response : StoredResponse) (r : Reference),
      r.name = m → (∀ p, r.path = some p → '{' ∉ p.toList) →
      ((s.apply (.store n response)).resolve r.text).1 = (s.resolve r.text).1) := by
  have filled := Document.name_ne_empty (Document.linesOf text) q hq n named
  have silent : isIdent m.toList = false → ∀ (s : SessionState) (response : StoredResponse)
      (r : Reference), r.name = m → (∀ p, r.path = some p → '{' ∉ p.toList) →
      ((s.apply (.store n response)).resolve r.text).1 = (s.resolve r.text).1 := by
    rintro other s response r rfl closed
    exact resolve_text_store s n response r same other closed
  refine ⟨⟨fun chains => ?_, chains_of_isIdent n m filled same⟩, silent⟩
  by_contra other
  rw [Bool.not_eq_true] at other
  -- a body that is longer than what the text of the reference resolves to anyway
  let unchained := (SessionState.start.resolve (Reference.text ⟨m, .body, none⟩)).1
  have body := congrArg Prod.fst (chains .start ⟨200, [], unchained ++ "x", 0⟩).1
  rw [silent other .start _ ⟨m, .body, none⟩ rfl nofun] at body
  have := congrArg String.length body
  simp [unchained] at this

/-- A name and a spelling of it in capitals. -/
theorem chains_iff_isIdent_login :
    let s := SessionState.start.apply (.store "login" ⟨200, [("ETag", "7")], "x", 0⟩)
    (s.resolve "{{LOGIN.response.body}}").1 = "x" ∧
      (s.resolve "{{LOGIN.response.headers.ETag}}").1 = "7" := by
  intro s
  let request : Request := ⟨some "login", "GET", "https://h.example/1", [], none, [], 2, 2⟩
  have chains := (chains_iff_isIdent "# @name login\nGET https://h.example/1" request
    (by decide +kernel) "login" rfl "LOGIN" (by decide +kernel)).1.2 (by decide +kernel)
  obtain ⟨body, header⟩ := chains .start ⟨200, [("ETag", "7")], "x", 0⟩
  have body_text : Reference.text ⟨"LOGIN", .body, none⟩ = "{{LOGIN.response.body}}" := by
    decide +kernel
  have header_text : Reference.text ⟨"LOGIN", .headers, some "ETag"⟩ =
      "{{LOGIN.response.headers.ETag}}" := by decide +kernel
  rw [← body_text, ← header_text]
  exact ⟨congrArg Prod.fst body, congrArg Prod.fst (header "ETag" "7" (by decide +kernel) rfl)⟩

/-- A request with a hyphen in its name: its response is kept, and the reference stays as it was
written. -/
theorem resolve_hyphenated_name :
    let text := "# @name my-login\nGET https://h.example/1"
    let s := SessionState.start.apply (.store "my-login" ⟨200, [("ETag", "7")], "x", 0⟩)
    (∃ q ∈ (Document.parse text).requests, q.name = some "my-login") ∧
      s.session.get? "my-login" = some ⟨200, [("ETag", "7")], "x", 0⟩ ∧
      (s.resolve "{{my-login.response.body}}").1 = "{{my-login.response.body}}" ∧
      (s.resolve "{{my-login.response.headers.ETag}}").1 =
        "{{my-login.response.headers.ETag}}" ∧
      ¬ Chains "my-login" "my-login" := by
  refine ⟨by decide +kernel, by decide +kernel, by decide +kernel, by decide +kernel, ?_⟩
  intro chains
  have body := congrArg Prod.fst (chains .start ⟨200, [], "x", 0⟩).1
  exact absurd body (by decide +kernel)

end Session

end HttpScript
