import HttpScript.Proofs.Scan
import HttpScript.Session

/-!
# Written references

A reference to a response is written with its name, the part that it asks for and perhaps a path.
It is read back whatever stands behind it, and a text that is one reference resolves to the value
of the reference.

    referenceAt? (r.text.toList ++ rest) = some (r, r.text.length - 1)      (referenceAt?_text)
    (s.resolve r.text).1 = (s.answer r).1.getD r.text                       (resolve_text)

A text that is no reference may still have references in it (`suffix_of_mem_scan`).
-/

namespace HttpScript

/-! ## Scans of one occurrence -/

namespace Text

variable {α : Type} (pattern : List Char → Option (α × Nat))

theorem scanFrom_length (s : List Char) : scanFrom pattern s.length [] s = [] := by
  induction s with
  | nil => rfl
  | cons c s ih => exact ih

/-- A text that is one occurrence of the pattern is one piece. -/
theorem scan_of_occurrence (c : Char) (s : List Char) (value : α)
    (h : pattern (c :: s) = some (value, s.length)) :
    scan pattern (c :: s) = [.found value (c :: s)] := by
  unfold scan
  rw [scanFrom, h]
  simp [flushText, scanFrom_length]

/-- What a scan finds stands at the front of an end of the text. -/
theorem suffix_of_mem_scanFrom (skip : Nat) (pending s : List Char) (value : α) (raw : List Char)
    (h : .found value raw ∈ scanFrom pattern skip pending s) :
    ∃ u more, u <:+ s ∧ pattern u = some (value, more) := by
  induction s generalizing skip pending with
  | nil => exact absurd h (not_mem_flushText pending value raw)
  | cons c s ih =>
    have later : ∀ skip pending, .found value raw ∈ scanFrom pattern skip pending s →
        ∃ u more, u <:+ c :: s ∧ pattern u = some (value, more) := by
      intro skip pending h
      obtain ⟨u, more, hu, hp⟩ := ih skip pending h
      exact ⟨u, more, hu.trans (List.suffix_cons c s), hp⟩
    cases skip with
    | succ skip => exact later skip pending h
    | zero =>
      rw [scanFrom] at h
      split at h
      · next value' more hp =>
        rcases List.mem_append.mp h with h | h
        · exact absurd h (not_mem_flushText pending value raw)
        · rcases List.mem_cons.mp h with h | h
          · obtain ⟨rfl, rfl⟩ := Piece.found.inj h
            exact ⟨c :: s, more, List.suffix_refl _, hp⟩
          · exact later more [] h
      · exact later 0 (c :: pending) h

theorem suffix_of_mem_scan (s : List Char) (value : α) (raw : List Char)
    (h : .found value raw ∈ scan pattern s) :
    ∃ u more, u <:+ s ∧ pattern u = some (value, more) :=
  suffix_of_mem_scanFrom pattern 0 [] s value raw h

theorem replaceFound_congr (f g : α → Option (List Char)) (ps : List (Piece α))
    (same : ∀ value raw, .found value raw ∈ ps → f value = g value) :
    replaceFound f ps = replaceFound g ps := by
  unfold replaceFound
  apply List.flatMap_congr
  intro p hp
  cases p with
  | text cs => rfl
  | found value raw => simp [same value raw hp]

/-- Where nothing that was found is replaced, the pieces keep the text that they cover. -/
theorem replaceFound_of_none (f : α → Option (List Char)) (ps : List (Piece α))
    (kept : ∀ value raw, .found value raw ∈ ps → f value = none) :
    replaceFound f ps = ps.flatMap Piece.chars := by
  unfold replaceFound
  apply List.flatMap_congr
  intro p hp
  cases p with
  | text cs => rfl
  | found value raw =>
    show (f value).getD raw = raw
    rw [kept value raw hp, Option.getD_none]

end Text

namespace Session

/-! ## The references of a text -/

/-- The references of a text, in order. -/
def references (t : String) : List Reference := (Text.scan referenceAt? t.toList).filterMap fun
  | .text _ => none
  | .found r _ => some r

theorem mem_references_of_found {t : String} {r : Reference} {raw : List Char}
    (found : .found r raw ∈ Text.scan referenceAt? t.toList) : r ∈ references t :=
  List.mem_filterMap.mpr ⟨.found r raw, found, rfl⟩

theorem exists_found_of_mem_references {t : String} {r : Reference} (h : r ∈ references t) :
    ∃ raw, .found r raw ∈ Text.scan referenceAt? t.toList := by
  obtain ⟨p, hp, hr⟩ := List.mem_filterMap.mp h
  cases p with
  | text cs => cases hr
  | found r' raw =>
    cases hr
    exact ⟨raw, hp⟩

end Session

namespace SessionState

open Session (references Reference)

/-- A text whose references have no value is left as it is, and so is the state. -/
theorem replaceReferences_of_none (s : SessionState) (t : String)
    (silent : ∀ r ∈ references t, s.answer r = (none, s)) : s.replaceReferences t = (t, s) := by
  have stays (r : Reference) (raw : List Char)
      (found : .found r raw ∈ Text.scan Session.referenceAt? t.toList) : s.answer r = (none, s) :=
    silent r (Session.mem_references_of_found found)
  unfold replaceReferences
  dsimp only
  rw [Text.replaceFoundIn_of_stays, Text.replaceFound_of_none, Text.chars_scan,
    String.ofList_toList]
  · intro r raw found
    rw [stays r raw found, Option.map_none]
  · intro r raw found
    rw [stays r raw found]

/-- The texts and sessions that are not looked through would be left as they are anyway. -/
theorem resolve_eq_replaceReferences (s : SessionState) (t : String) :
    s.resolve t = s.replaceReferences t := by
  unfold resolve
  split
  · next idle =>
    refine (s.replaceReferences_of_none t fun r hr => ?_).symm
    rcases (Bool.or_eq_true _ _).mp idle with none | none
    · rw [String.isEmpty_iff.mp none] at hr
      cases hr
    · unfold answer
      rw [List.isEmpty_iff.mp none]
      rfl
  · rfl

/-- What no reference of a text breaks holds when the text has been resolved. -/
theorem resolve_invariant (P : SessionState → Prop) (t : String)
    (keeps : ∀ r ∈ references t, ∀ s, P s → P (s.answer r).2) (s : SessionState) (start : P s) :
    P (s.resolve t).2 := by
  rw [resolve_eq_replaceReferences]
  exact Text.replaceFoundIn_invariant _ P
    (fun r _ found s => keeps r (Session.mem_references_of_found found) s) s start

/-- A text resolves to the same in two states when its references are answered alike in any two
states related as these are. -/
theorem resolve_related (R : SessionState → SessionState → Prop) (t : String)
    (agree : ∀ r ∈ references t, ∀ s s', R s s' →
      (s.answer r).1 = (s'.answer r).1 ∧ R (s.answer r).2 (s'.answer r).2)
    (s s' : SessionState) (start : R s s') :
    (s.resolve t).1 = (s'.resolve t).1 ∧ R (s.resolve t).2 (s'.resolve t).2 := by
  rw [resolve_eq_replaceReferences, resolve_eq_replaceReferences]
  let pieces := Text.scan Session.referenceAt? t.toList
  have step (r : Reference) (raw : List Char) (found : .found r raw ∈ pieces) (s s' : SessionState)
      (rel : R s s') : (s.answer r).1.map String.toList = (s'.answer r).1.map String.toList ∧
        R (s.answer r).2 (s'.answer r).2 := by
    obtain ⟨same, next⟩ := agree r (Session.mem_references_of_found found) s s' rel
    exact ⟨congrArg _ same, next⟩
  have related := Text.replaceFoundIn_related (fun (s : SessionState) (r : Reference) =>
    ((s.answer r).1.map String.toList, (s.answer r).2)) R step s s' start
  exact ⟨congrArg String.ofList related.1, related.2⟩

/-- Where references leave the state as it is, each of them is answered in it. -/
theorem resolve_of_stays (s : SessionState) (t : String)
    (stays : ∀ r ∈ references t, (s.answer r).2 = s) :
    s.resolve t = (String.ofList (Text.replaceFound (fun r => (s.answer r).1.map String.toList)
      (Text.scan Session.referenceAt? t.toList)), s) := by
  rw [resolve_eq_replaceReferences]
  unfold replaceReferences
  dsimp only
  rw [Text.replaceFoundIn_of_stays]
  exact fun r raw found => stays r (Session.mem_references_of_found found)

end SessionState

namespace Session

/-! ## Writing references -/

/-- The word for a part. -/
def ResponsePart.word : ResponsePart → String
  | .body => "body"
  | .headers => "headers"

/-- A path as it stands behind the part. -/
def pathText : Option String → String
  | none => ""
  | some path => "." ++ path

/-- Text of a reference. -/
def Reference.text (r : Reference) : String :=
  "\x7b\x7b" ++ r.name ++ ".response." ++ r.part.word ++ pathText r.path ++ "\x7d\x7d"

/-- Whether a reference can be written: its name is an identifier, and its path is not empty and
has no closing brace. -/
structure Reference.Written (r : Reference) : Prop where
  name : Text.isIdent r.name.toList = true
  path : ∀ p, r.path = some p → p.toList ≠ [] ∧ '}' ∉ p.toList

/-! ## Reading them back -/

theorem afterText?_append (front s : List Char) : afterText? front (front ++ s) = some s := by
  simp [afterText?, List.isPrefixOf_iff_prefix]

theorem referenceEnd?_pathText (path : Option String) (rest : List Char)
    (h : ∀ p, path = some p → p.toList ≠ [] ∧ '}' ∉ p.toList) :
    referenceEnd? ((pathText path).toList ++ '}' :: '}' :: rest) =
      some (path, (pathText path).toList.length + 2) := by
  cases path with
  | none => rfl
  | some p =>
    obtain ⟨filled, open_⟩ := h p rfl
    have all : ∀ c ∈ p.toList, (c != '}') = true := by
      intro c hc
      rw [bne_iff_ne]
      rintro rfl
      exact open_ hc
    obtain ⟨front, back⟩ := Text.takeWhile_dropWhile_of_stop all '}' ('}' :: rest) (by simp)
    have point : (pathText (some p)).toList = '.' :: p.toList := by simp [pathText]
    rw [point, List.cons_append]
    unfold referenceEnd?
    simp only [front, back]
    rw [if_neg (by simpa using filled), List.length_cons, String.ofList_toList]

/-- The part of a response is told by its word. -/
theorem part_word (part : ResponsePart) (s : List Char) :
    ((afterText? "body".toList (part.word.toList ++ s)).map
      fun s => (ResponsePart.body, 4, s)).or
      ((afterText? "headers".toList (part.word.toList ++ s)).map
        fun s => (ResponsePart.headers, 7, s)) = some (part, part.word.toList.length, s) := by
  cases part with
  | body =>
    have found : afterText? "body".toList ("body".toList ++ s) = some s := afterText?_append _ s
    simp only [ResponsePart.word, found]
    rfl
  | headers =>
    have found : afterText? "headers".toList ("headers".toList ++ s) = some s :=
      afterText?_append _ s
    have other : afterText? "body".toList ("headers".toList ++ s) = none := rfl
    simp only [ResponsePart.word, found, other]
    rfl

/-- A written reference is read back whatever stands behind it. -/
theorem referenceAt?_text (r : Reference) (h : r.Written) (rest : List Char) :
    referenceAt? (r.text.toList ++ rest) = some (r, r.text.toList.length - 1) := by
  have dot : ".response.".toList = '.' :: "response.".toList := by simp
  let closing := r.part.word.toList ++ ((pathText r.path).toList ++ '}' :: '}' :: rest)
  obtain ⟨front, back⟩ := Text.takeWhile_dropWhile_of_stop (Text.isIdentRest_of_isIdent h.name) '.'
    ("response.".toList ++ closing) (by decide)
  rw [← List.cons_append, ← dot] at front back
  have shape : r.text.toList ++ rest =
      '{' :: '{' :: (r.name.toList ++ (".response.".toList ++ closing)) := by
    simp [Reference.text, closing]
  have size : r.text.toList.length - 1 =
      1 + r.name.toList.length + 10 + r.part.word.toList.length +
        ((pathText r.path).toList.length + 2) := by
    simp [Reference.text]
    omega
  rw [shape, size]
  unfold referenceAt?
  simp only [front, back, h.name, afterText?_append, closing, part_word,
    referenceEnd?_pathText r.path rest h.path, Option.bind_eq_bind, Option.bind_some,
    String.ofList_toList, Bool.not_true, Bool.false_eq_true, if_false]

end Session

open Session in
/-- A text that is one reference resolves to the value of the reference, and stays as it is when
that has none. -/
theorem SessionState.resolve_text (s : SessionState) (r : Reference) (h : r.Written) :
    s.resolve r.text = ((s.answer r).1.getD r.text, (s.answer r).2) := by
  have read := referenceAt?_text r h []
  obtain ⟨c, cs, shape⟩ : ∃ c cs, r.text.toList = c :: cs := by simp [Reference.text]
  rw [List.append_nil, shape] at read
  have pieces : Text.scan referenceAt? r.text.toList = [.found r r.text.toList] := by
    rw [shape]
    exact Text.scan_of_occurrence _ _ _ _ read
  rw [resolve_eq_replaceReferences, replaceReferences, pieces]
  unfold Text.replaceFoundIn Text.replaceFoundIn
  cases hv : (s.answer r).1 <;> simp [hv]

end HttpScript
