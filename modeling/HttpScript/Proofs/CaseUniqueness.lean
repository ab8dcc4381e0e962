import HttpScript.Proofs.RequestSpans
import HttpScript.Proofs.VariablePrecedence

/-!
# Names apart in every record

Every record that a document or a resolver builds by name keeps the names apart ignoring case. What
a record has under a name is told by the declarations: the spelling is that of the first one, the
value that of the last one.

    e ∈ writeAll [] es ↔ spelling? e.1 (storedFills es) = some e.1 ∧ lastNamed? e.1 es = some e.2
                                                                          (mem_writeAll_iff)

A declaration that spells the reserved name exactly so is passed over when the spelling is chosen,
which shows where it is the first of several (`Respells`).
-/

namespace HttpScript

open Text (lower sameIgnoringCase sameIgnoringCase_iff)

namespace Record

variable {α : Type}

/-! ## Spellings -/

/-- The spelling of the first entry with this name, ignoring case. -/
def spelling? (name : String) (es : List (String × α)) : Option String :=
  (firstMatch? name es).map (·.1)

theorem spelling?_cons (name : String) (e : String × α) (es : List (String × α)) :
    spelling? name (e :: es) = if lower e.1 = lower name then some e.1 else spelling? name es := by
  rw [spelling?, firstMatch?_cons]
  split <;> rfl

theorem spelling?_congr (a b : String) (h : lower a = lower b) (es : List (String × α)) :
    spelling? a es = spelling? b es := by
  unfold spelling? firstMatch? sameIgnoringCase
  rw [h]

theorem spelling?_eq_none_iff (name : String) (es : List (String × α)) :
    spelling? name es = none ↔ firstNamed? name es = none := by
  rw [spelling?, firstNamed?_eq_map, Option.map_eq_none_iff, Option.map_eq_none_iff]

theorem exists_of_spelling? {name key : String} {es : List (String × α)}
    (h : spelling? name es = some key) : ∃ e ∈ es, e.1 = key ∧ lower key = lower name := by
  obtain ⟨e, found, rfl⟩ := Option.map_eq_some_iff.mp h
  have same := List.find?_some found
  exact ⟨e, List.mem_of_find?_eq_some found, rfl, (sameIgnoringCase_iff _ _).1 same⟩

/-- In a record without case variants, an entry is told by its spelling and its value. -/
theorem mem_iff_of_caseUnique {r : Record α} (h : r.CaseUnique) (e : String × α) :
    e ∈ r ↔ spelling? e.1 r = some e.1 ∧ firstNamed? e.1 r = some e.2 := by
  constructor
  · intro he
    cases hf : firstMatch? e.1 r with
    | none =>
      exact absurd ((sameIgnoringCase_iff e.1 e.1).2 rfl) (List.find?_eq_none.1 hf e he)
    | some f =>
      have same := List.find?_some hf
      obtain rfl : f = e :=
        eq_of_lower_eq h (List.mem_of_find?_eq_some hf) he ((sameIgnoringCase_iff _ _).1 same)
      simp [spelling?, firstNamed?_eq_map, hf]
  · rintro ⟨spelled, valued⟩
    obtain ⟨f, hf, key⟩ := Option.map_eq_some_iff.mp spelled
    obtain ⟨f', hf', value⟩ := Option.map_eq_some_iff.mp valued
    obtain rfl : f = f' := Option.some.inj (hf.symm.trans hf')
    obtain rfl : f = e := Prod.ext key value
    exact List.mem_of_find?_eq_some hf

/-! ## Spellings after writes -/

theorem spelling?_insert (name other : String) (value : α) (r : Record α)
    (absent : firstNamed? name r = none) :
    spelling? other (r.insert name value) =
      if lower name = lower other then some name else spelling? other r := by
  rw [spelling?, firstMatch?_insert name other value r absent]
  split <;> rfl

theorem spelling?_overwrite (name other : String) (value : α) (r : Record α) :
    spelling? other (r.overwrite name value) = spelling? other r := by
  rw [spelling?, spelling?, firstMatch?_overwrite]
  split
  · rw [Option.map_map]
    rfl
  · rfl

/-- The spelling that is there stays; a new one is added unless it is the reserved name. -/
theorem spelling?_set {r : Record α} (h : r.CaseUnique) (name other : String) (value : α) :
    spelling? other (r.set name value) = (spelling? other r).or
      (if lower name = lower other ∧ name ≠ reservedName then some name else none) := by
  by_cases absent : firstNamed? name r = none
  · rw [set_of_not_mem r name value absent]
    by_cases hr : name = reservedName
    · rw [if_pos hr, if_neg fun c => c.2 hr, Option.or_none]
    · rw [if_neg hr, spelling?_insert _ _ _ _ absent]
      by_cases hn : lower name = lower other
      · have none_ : spelling? other r = none := by
          rw [spelling?_eq_none_iff, ← firstNamed?_congr _ _ hn, absent]
        rw [if_pos hn, if_pos ⟨hn, hr⟩, none_, Option.none_or]
      · rw [if_neg hn, if_neg fun c => hn c.1, Option.or_none]
  · rw [set_of_mem h name value absent, spelling?_overwrite]
    by_cases hn : lower name = lower other
    · have some_ : spelling? other r ≠ none := by
        rw [Ne, spelling?_eq_none_iff, ← firstNamed?_congr _ _ hn]
        exact absent
      obtain ⟨key, hk⟩ := Option.ne_none_iff_exists'.mp some_
      rw [hk, Option.some_or]
    · rw [if_neg fun c => hn c.1, Option.or_none]

theorem spelling?_storedFills_cons (name : String) (e : String × α) (es : List (String × α)) :
    spelling? name (storedFills (e :: es)) =
      if lower e.1 = lower name ∧ e.1 ≠ reservedName then some e.1
      else spelling? name (storedFills es) := by
  rw [spelling?, firstMatch?_storedFills_cons]
  split <;> rfl

theorem spelling?_writeAll {r : Record α} (h : r.CaseUnique) (es : List (String × α))
    (name : String) :
    spelling? name (r.writeAll es) =
      (spelling? name r).or (spelling? name (storedFills es)) := by
  induction es generalizing r with
  | nil => exact Option.or_none.symm
  | cons e es ih =>
    show spelling? name ((r.set e.1 e.2).writeAll es) = _
    rw [ih (caseUnique_set h e.1 e.2), spelling?_set h, Option.or_assoc,
      spelling?_storedFills_cons]
    congr 1
    split <;> rfl

theorem storable_of_spelling? {name key : String} {es : List (String × α)}
    (h : spelling? name (storedFills es) = some key) : storable name es = true := by
  obtain ⟨e, he, rfl, same⟩ := exists_of_spelling? h
  obtain ⟨he, free⟩ := List.mem_filter.mp he
  exact (storable_iff _ _).2 ⟨e, he, same, bne_iff_ne.1 free⟩

/-- What declarations make of the empty record. -/
theorem mem_writeAll_iff (es : List (String × α)) (e : String × α) :
    e ∈ writeAll [] es ↔
      spelling? e.1 (storedFills es) = some e.1 ∧ lastNamed? e.1 es = some e.2 := by
  have spelled : spelling? e.1 (writeAll [] es) = spelling? e.1 (storedFills es) :=
    spelling?_writeAll caseUnique_nil es e.1
  rw [mem_iff_of_caseUnique (caseUnique_writeAll caseUnique_nil es), firstNamed?_writeAll_nil,
    spelled, lastNamed?_storedWrites]
  refine and_congr_right fun h => ?_
  rw [if_pos (storable_of_spelling? h)]

/-! ## The first spelling -/

/-- Whether the reserved name is declared first, and later in another spelling. -/
def Respells (es : List (String × α)) : Prop :=
  spelling? reservedName es = some reservedName ∧ storable reservedName es = true

instance (es : List (String × α)) : Decidable (Respells es) :=
  inferInstanceAs (Decidable (_ ∧ _))

theorem spelling?_storedFills (name : String) (es : List (String × α))
    (other : spelling? name es ≠ some reservedName) :
    spelling? name (storedFills es) = spelling? name es := by
  induction es with
  | nil => rfl
  | cons e es ih =>
    rw [spelling?_cons] at other
    rw [spelling?_storedFills_cons, spelling?_cons]
    by_cases hn : lower e.1 = lower name
    · have free : e.1 ≠ reservedName := by
        intro hr
        rw [if_pos hn, hr] at other
        exact other rfl
      rw [if_pos ⟨hn, free⟩, if_pos hn]
    · rw [if_neg hn] at other
      rw [if_neg fun c => hn c.1, if_neg hn, ih other]

/-- A record that declarations make up: names apart, and an entry for each name that an assignment
stores, with the value of its last declaration. -/
structure Summarizes (r : Record α) (es : List (String × α)) : Prop where
  unique : r.CaseUnique
  named : ∀ name, firstNamed? name r ≠ none ↔ storable name es = true
  value : ∀ e ∈ r, lastNamed? e.1 es = some e.2
  /-- Each entry has the spelling of its first declaration, if the reserved name is not in the
  way. -/
  spelling : (∀ e ∈ r, spelling? e.1 es = some e.1) ↔ ¬ Respells es

theorem firstNamed?_writeAll_nil_ne_none_iff (name : String) (es : List (String × α)) :
    firstNamed? name (writeAll [] es) ≠ none ↔ storable name es = true := by
  rw [Ne, firstNamed?_writeAll_nil_eq_none_iff, Bool.not_eq_false]

/-- The entry of a respelled name has the spelling of a later declaration. -/
theorem exists_of_respells (es : List (String × α)) (h : Respells es) :
    ∃ e ∈ writeAll [] es, spelling? e.1 es ≠ some e.1 := by
  obtain ⟨first, stored⟩ := h
  have there := (firstNamed?_writeAll_nil_ne_none_iff reservedName es).mpr stored
  rw [Ne, firstNamed?_eq_none_iff] at there
  push Not at there
  obtain ⟨e, he, same⟩ := there
  refine ⟨e, he, ?_⟩
  rw [spelling?_congr _ _ same, first]
  intro reserved
  exact ne_reserved_of_mem_writeAll caseUnique_nil nofun es e he (Option.some.inj reserved).symm

theorem spelling?_of_mem_writeAll (es : List (String × α)) (kept : ¬ Respells es)
    (e : String × α) (he : e ∈ writeAll [] es) : spelling? e.1 es = some e.1 := by
  obtain ⟨spelled, -⟩ := (mem_writeAll_iff es e).mp he
  by_cases lost : spelling? e.1 es = some reservedName
  · obtain ⟨f, -, hf, same⟩ := exists_of_spelling? lost
    rw [← spelling?_congr _ _ same] at lost
    have stored := storable_of_spelling? spelled
    rw [← storable_congr _ _ same] at stored
    exact absurd ⟨lost, stored⟩ kept
  · rw [← spelling?_storedFills e.1 es lost, spelled]

theorem summarizes_writeAll (es : List (String × α)) : Summarizes (writeAll [] es) es where
  unique := caseUnique_writeAll caseUnique_nil es
  named := fun name => firstNamed?_writeAll_nil_ne_none_iff name es
  value := fun e he => ((mem_writeAll_iff es e).mp he).2
  spelling := by
    constructor
    · intro all respelled
      obtain ⟨e, he, other⟩ := exists_of_respells es respelled
      exact other (all e he)
    · exact spelling?_of_mem_writeAll es

end Record

namespace Resolver

/-- The variables in effect have no two names equal ignoring case, whatever the layers hold. -/
theorem caseUnique_bindings (r : Resolver) : r.bindings.CaseUnique := by
  have selected : (r.environments.select r.environment).CaseUnique :=
    Record.caseUnique_fillAll (Record.caseUnique_writeAll Record.caseUnique_nil _) _
  exact Record.caseUnique_writeAll (Record.caseUnique_fillAll selected r.base) r.overrides

end Resolver

open Record (Summarizes)

/-- The records of a document are what its declarations make up, and the variables of a resolver
keep their names apart after any operations. -/
theorem records_summarize (text : String) :
    let ls := Document.linesOf text
    Summarizes (Document.parse text).fileVariables (Reader.fileDeclarations true ls) ∧
    (∀ q ∈ (Document.parse text).requests,
      Summarizes q.headers (Block.headers (Block.headerPart (q.linesBelow ls))) ∧
      Summarizes q.bindings (Block.declared (q.linesBelow ls))) ∧
    ∀ env base ops, (Resolver.run ops (Resolver.start env base)).bindings.CaseUnique := by
  intro ls
  refine ⟨?_, ?_, fun env base ops => Resolver.caseUnique_bindings _⟩
  · have written : (Document.parse text).fileVariables =
        Record.writeAll [] (Reader.fileDeclarations true ls) := Document.fileVariables_ofLines ls
    rw [written]
    exact Record.summarizes_writeAll _
  · intro q hq
    obtain ⟨headers, bindings⟩ := Document.records_of_mem ls q hq
    rw [headers, bindings]
    exact ⟨Record.summarizes_writeAll _, Record.summarizes_writeAll _⟩

/-- Two spellings of a variable and of a header, and three of a variable in effect. -/
theorem records_summarize_spellings :
    let text := "@Host = a\n@host = b\nGET https://h.example/1\nAccept: x\naccept: y"
    Summarizes (Document.parse text).fileVariables [("Host", "a"), ("host", "b")] ∧
    (∃ q ∈ (Document.parse text).requests,
      Summarizes q.headers [("Accept", "x"), ("accept", "y")] ∧ Summarizes q.bindings []) ∧
    (Resolver.run [.setVariable "HOST" "x", .setVariable "host" "y"]
      (Resolver.start "dev" [("Host", "")])).bindings.CaseUnique := by
  intro text
  obtain ⟨file, requests, effect⟩ := records_summarize text
  have declared : Reader.fileDeclarations true (Document.linesOf text) =
      [("Host", "a"), ("host", "b")] := by decide +kernel
  rw [declared] at file
  let request : Request :=
    ⟨none, "GET", "https://h.example/1", [("Accept", "y")], none, [], 3, 5⟩
  have mem : request ∈ (Document.parse text).requests := by decide +kernel
  have below : request.linesBelow (Document.linesOf text) = ["Accept: x", "accept: y"] := by
    decide +kernel
  obtain ⟨headers, bindings⟩ := requests request mem
  rw [below] at headers bindings
  exact ⟨file, ⟨request, mem, headers, bindings⟩, effect _ _ _⟩

/-- The reserved name is declared, and then again in capitals: the record has it in capitals, which
is not the spelling of its first declaration. -/
theorem fileVariables_respelled :
    let text := "@__proto__ = 1\n@__PROTO__ = 2"
    let declared := Reader.fileDeclarations true (Document.linesOf text)
    (Document.parse text).fileVariables = [("__PROTO__", "2")] ∧
      Record.spelling? "__PROTO__" declared = some "__proto__" := by
  decide +kernel

end HttpScript
