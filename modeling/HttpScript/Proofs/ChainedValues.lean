import HttpScript.Proofs.ChainedNumbers
import HttpScript.Proofs.JsonWriting

/-!
# Chained values

A value that a reference shows is written into the body of the next request. Read there, it is the
same value, unless it is a text: lists item by item, objects name by name, numbers with their
spelling.

    ∃ s, v.leafText lib = some s ∧ ∃ w, parse? s = some w ∧ Alike w v      (parse?_leafText)

The same holds of a value that stands in the text of a larger body.
-/

namespace HttpScript

namespace Body

open BodyPath (step?)
open Json (numeralToken tokens itemTokens memberTokens Token keepLiterals?)

/-- All numbers of the tree are literals that JSON knows. -/
def Lossless (v : Body) : Prop :=
  ∀ n, Part (.number n) v → ∃ s, n = .literal s ∧ Json.IsNumber s

@[simp] theorem lossless_null : Lossless .null := fun _ part => nomatch part

@[simp] theorem lossless_bool (b : Bool) : Lossless (.bool b) := fun _ part => nomatch part

@[simp] theorem lossless_text (s : Wide) : Lossless (.text s) := fun _ part => nomatch part

@[simp] theorem lossless_literal (s : String) :
    Lossless (.number (.literal s)) ↔ Json.IsNumber s := by
  constructor
  · intro lossless
    obtain ⟨t, same, number⟩ := lossless _ .self
    obtain rfl := Numeral.literal.inj same
    exact number
  · intro number n part
    cases part with
    | self => exact ⟨s, rfl, number⟩

@[simp] theorem lossless_list (xs : List Body) : Lossless (.list xs) ↔ ∀ x ∈ xs, x.Lossless := by
  refine ⟨fun all x mem n part => all n (.item mem part), fun all n part => ?_⟩
  cases part with
  | item mem inner => exact all _ mem n inner

@[simp] theorem lossless_object (ms : List (Wide × Body)) :
    Lossless (.object ms) ↔ ∀ e ∈ ms, e.2.Lossless := by
  refine ⟨fun all e mem n part => all n (.member mem part), fun all n part => ?_⟩
  cases part with
  | member mem inner => exact all _ mem n inner

/-- Two trees have the same value: equal leaves, lists with the same values at each index, objects
with the same names and the same value under each of them, in any order. -/
inductive Alike : Body → Body → Prop where
  | null : Alike .null .null
  | bool (b : Bool) : Alike (.bool b) (.bool b)
  | number (n : Numeral) : Alike (.number n) (.number n)
  | text (s : Wide) : Alike (.text s) (.text s)
  | list {xs ys : List Body} (length : xs.length = ys.length)
      (items : ∀ (i : Nat) x y, xs[i]? = some x → ys[i]? = some y → Alike x y) :
      Alike (.list xs) (.list ys)
  | object {ms ns : List (Wide × Body)} (names : (Record.names ms).Perm (Record.names ns))
      (values : ∀ k x y, Record.get? ms k = some x → Record.get? ns k = some y → Alike x y) :
      Alike (.object ms) (.object ns)

/-! ## Source trees -/

mutual

/-- The source tree of which a tree is the value: every number as it is written. -/
def source : Body → Json String
  | .null => .null
  | .bool b => .bool b
  | .number n => .number n.text
  | .text s => .text s
  | .list xs => .list (sourceItems xs)
  | .object ms => .object (sourceMembers ms)

/-- `source` on the items of a list. -/
def sourceItems : List Body → List (Json String)
  | [] => []
  | x :: r => source x :: sourceItems r

/-- `source` on the members of an object. -/
def sourceMembers : List (Wide × Body) → List (Wide × Json String)
  | [] => []
  | (k, v) :: r => (k, source v) :: sourceMembers r

end

theorem sourceItems_eq_map (xs : List Body) : sourceItems xs = xs.map source := by
  induction xs with
  | nil => rfl
  | cons x r ih => rw [sourceItems, ih, List.map_cons]

theorem sourceMembers_eq_map (ms : List (Wide × Body)) :
    sourceMembers ms = ms.map fun e => (e.1, source e.2) := by
  induction ms with
  | nil => rfl
  | cons e r ih => rw [sourceMembers, ih, List.map_cons]

mutual

/-- A tree whose numbers are literals is written as its source tree is. -/
theorem tokens_source (v : Body) (lossless : v.Lossless) :
    tokens numeralToken v = tokens Token.number v.source := by
  match v with
  | .null => rfl
  | .bool true => rfl
  | .bool false => rfl
  | .number n =>
    obtain ⟨s, rfl, -⟩ := lossless n .self
    rfl
  | .text s => rfl
  | .list [] => rfl
  | .list (x :: r) =>
    have all := (lossless_list (x :: r)).1 lossless
    have first := tokens_source x (all x List.mem_cons_self)
    have rest := itemTokens_source r fun y hy => all y (List.mem_cons_of_mem _ hy)
    show Token.openList :: (tokens numeralToken x ++ itemTokens numeralToken r) = _
    rw [first, rest]
    rfl
  | .object [] => rfl
  | .object ((k, w) :: r) =>
    have all := (lossless_object ((k, w) :: r)).1 lossless
    have first := tokens_source w (all (k, w) List.mem_cons_self)
    have rest := memberTokens_source r fun e he => all e (List.mem_cons_of_mem _ he)
    show Token.openObject :: .text k :: .colon ::
      (tokens numeralToken w ++ memberTokens numeralToken r) = _
    rw [first, rest]
    rfl

theorem itemTokens_source (r : List Body) (lossless : ∀ x ∈ r, Lossless x) :
    itemTokens numeralToken r = itemTokens Token.number (sourceItems r) := by
  match r with
  | [] => rfl
  | x :: r =>
    have first := tokens_source x (lossless x List.mem_cons_self)
    have rest := itemTokens_source r fun y hy => lossless y (List.mem_cons_of_mem _ hy)
    show Token.comma :: (tokens numeralToken x ++ itemTokens numeralToken r) = _
    rw [first, rest]
    rfl

theorem memberTokens_source (r : List (Wide × Body)) (lossless : ∀ e ∈ r, Lossless e.2) :
    memberTokens numeralToken r = memberTokens Token.number (sourceMembers r) := by
  match r with
  | [] => rfl
  | (k, w) :: r =>
    have first := tokens_source w (lossless (k, w) List.mem_cons_self)
    have rest := memberTokens_source r fun e he => lossless e (List.mem_cons_of_mem _ he)
    show Token.comma :: .text k :: .colon ::
      (tokens numeralToken w ++ memberTokens numeralToken r) = _
    rw [first, rest]
    rfl

end

theorem part_of_holds {n : Numeral} {v : Body} (holds : Json.Holds n v) : Part (.number n) v := by
  induction holds with
  | self => exact .self
  | item mem _ ih => exact .item mem ih
  | member mem _ ih => exact .member mem ih

/-! ## Reading the source tree -/

theorem names_sourceMembers (ms : List (Wide × Body)) :
    (sourceMembers ms).map (·.1) = Record.names ms := by
  rw [sourceMembers_eq_map, List.map_map]
  rfl

/-- Where no name stands twice, none is repeated with another value. -/
theorem not_conflicts_source (v : Body) (distinct : v.Distinct) : ¬ Json.Conflicts v.source := by
  intro conflict
  generalize shape : v.source = t at conflict
  induction conflict generalizing v with
  | @item xs x mem inner ih =>
    cases v with
    | list ys =>
      obtain rfl : sourceItems ys = xs := Json.list.inj shape
      rw [sourceItems_eq_map] at mem
      obtain ⟨y, hy, rfl⟩ := List.mem_map.1 mem
      exact ih y ((distinct_list ys).1 distinct y hy) rfl
    | _ => cases shape
  | @member ms e mem inner ih =>
    cases v with
    | object ns =>
      obtain rfl : sourceMembers ns = ms := Json.object.inj shape
      rw [sourceMembers_eq_map] at mem
      obtain ⟨f, hf, rfl⟩ := List.mem_map.1 mem
      exact ih f.2 (((distinct_object ns).1 distinct).2 f hf) rfl
    | _ => cases shape
  | @repeated before between after k x y _ _ apart _ _ _ =>
    cases v with
    | object ns =>
      have names := names_sourceMembers ns
      have own : (Record.names ns).Nodup := ((distinct_object ns).1 distinct).1
      rw [Json.object.inj shape] at names
      rw [← names] at own
      simp [List.nodup_append] at own
    | _ => cases shape

theorem length_keepLiteralsItems? {xs : List (Json String)} {ys : List Body}
    (kept : Json.keepLiteralsItems? xs = some ys) : ys.length = xs.length := by
  induction xs generalizing ys with
  | nil =>
    obtain rfl := Option.some.inj kept
    rfl
  | cons x xs ih =>
    rw [Json.keepLiteralsItems?] at kept
    split at kept
    · obtain ⟨ys, rest, rfl⟩ := Option.map_eq_some_iff.1 kept
      rw [List.length_cons, ih rest, List.length_cons]
    · cases kept

/-- Members with new names are added, each at its place. -/
theorem names_keepLiteralsMembers? {done r : Record Body Wide} {ms : List (Wide × Json String)}
    (kept : Json.keepLiteralsMembers? done ms = some r)
    (distinct : (done.names ++ ms.map (·.1)).Nodup) :
    r.names.Perm (done.names ++ ms.map (·.1)) := by
  induction ms generalizing done with
  | nil =>
    obtain rfl := Option.some.inj kept
    rw [List.map_nil, List.append_nil]
  | cons e ms ih =>
    rw [Json.keepLiteralsMembers?] at kept
    split at kept
    · next y _ =>
      split at kept
      · next done' added =>
        have new : done.has e.1 = false := by
          rw [Bool.eq_false_iff, Ne, Record.has_iff]
          rintro ⟨f, hf, same⟩
          have apart := (List.nodup_append.1 distinct).2.2
          exact apart f.1 (List.mem_map_of_mem hf) e.1 List.mem_cons_self same
        have perm : done'.names.Perm (e.1 :: done.names) := by
          rw [← Json.put_of_addMember? added, Record.put, if_neg (by simp [new])]
          exact (Record.perm_insert e.1 y done).map (·.1)
        have order : (done'.names ++ ms.map (·.1)).Perm (done.names ++ (e :: ms).map (·.1)) :=
          (perm.append_right _).trans List.perm_middle.symm
        exact (ih kept (order.nodup_iff.2 distinct)).trans order
      · cases kept
    · cases kept

/-- A member of an object whose names are all different is the last one written with its name. -/
theorem lastWritten?_sourceMembers {ms : Record Body Wide} (own : (Record.names ms).Nodup)
    {k : Wide}
    {x : Body} (mem : (k, x) ∈ ms) :
    Record.lastWritten? k (sourceMembers ms) = some x.source := by
  have apart : Record.Distinct (sourceMembers ms) := by
    unfold Record.Distinct Record.names
    rwa [names_sourceMembers]
  have found : (k, x.source) ∈ sourceMembers ms := by
    rw [sourceMembers_eq_map]
    exact List.mem_map_of_mem (f := fun e : Wide × Body => (e.1, e.2.source)) mem
  rw [Record.lastWritten?_eq_get? apart]
  exact apart.get?_of_mem found

/-- The value of the source tree is the same as that of the tree. -/
theorem alike_of_keepLiterals? (v w : Body) (distinct : v.Distinct) (lossless : v.Lossless)
    (kept : keepLiterals? v.source = some w) : Alike w v := by
  induction v using Json.inner_induction generalizing w with
  | null =>
    obtain rfl := Option.some.inj kept
    exact .null
  | bool b =>
    obtain rfl := Option.some.inj kept
    exact .bool b
  | text s =>
    obtain rfl := Option.some.inj kept
    exact .text s
  | number n =>
    obtain ⟨s, rfl, -⟩ := lossless n .self
    obtain rfl := Option.some.inj kept
    exact .number (.literal s)
  | list xs ih =>
    rw [source, keepLiterals?] at kept
    obtain ⟨ys, items, rfl⟩ := Option.map_eq_some_iff.1 kept
    have length := length_keepLiteralsItems? items
    rw [sourceItems_eq_map] at length items
    rw [List.length_map] at length
    refine .list length fun i y x hy hx => ?_
    have mem : x ∈ xs := List.mem_of_getElem? hx
    have written : (xs.map source)[i]? = some x.source := by rw [List.getElem?_map, hx]; rfl
    obtain ⟨y', hy', kept⟩ := Json.keepLiteralsItems?_getElem items i _ written
    obtain rfl : y = y' := Option.some.inj (hy.symm.trans hy')
    exact ih x mem y ((distinct_list xs).1 distinct x mem)
      ((lossless_list xs).1 lossless x mem) kept
  | object ms ih =>
    rw [source, keepLiterals?] at kept
    obtain ⟨r, members, rfl⟩ := Option.map_eq_some_iff.1 kept
    obtain ⟨own, inner⟩ := (distinct_object ms).1 distinct
    have names := names_keepLiteralsMembers? members (by rwa [names_sourceMembers])
    rw [names_sourceMembers] at names
    refine .object names fun k y x hy hx => ?_
    have mem : (k, x) ∈ ms := Record.mem_of_get? hx
    have held := Json.get?_keepLiteralsMembers? members k
    rw [lastWritten?_sourceMembers own mem] at held
    obtain ⟨y', hy', kept⟩ := held
    obtain rfl : y = y' := Option.some.inj (hy.symm.trans hy')
    exact ih (k, x) mem y (inner (k, x) mem)
      ((lossless_object ms).1 lossless (k, x) mem) kept

/-! ## Values read back -/

theorem leafText_eq_compactNumerals {lib : JsonLibrary} {v : Body} (noText : ∀ s, v ≠ .text s)
    (lossless : v.Lossless) (untaken : v.Untaken lib) :
    v.leafText lib = some (Json.compactNumerals v) := by
  refine leafText_of_untaken untaken noText fun d same => ?_
  obtain ⟨s, literal, -⟩ := lossless (.double d) (same ▸ .self)
  cases literal

/-- The text of a value is read as the same value. -/
theorem exists_parse?_compactNumerals (v : Body) (distinct : v.Distinct) (lossless : v.Lossless) :
    ∃ w, parse? (Json.compactNumerals v) = some w ∧ Alike w v := by
  have numbers : ∀ s, .number s ∈ tokens Token.number v.source → Json.IsNumber s := by
    intro s mem
    rw [← tokens_source v lossless] at mem
    obtain ⟨n, holds, same⟩ := Json.holds_of_mem_tokens v mem
    obtain ⟨t, rfl, number⟩ := lossless n (part_of_holds holds)
    obtain rfl : t = s := Token.number.inj same
    exact number
  have json : Json.parse? (Json.compactNumerals v) = some v.source := by
    rw [Json.compactNumerals, tokens_source v lossless]
    exact Json.parse?_concatenate v.source numbers
  have kept : keepLiterals? v.source ≠ none :=
    mt (Json.keepLiterals?_eq_none_iff _).1 (not_conflicts_source v distinct)
  obtain ⟨w, kept⟩ := Option.ne_none_iff_exists'.1 kept
  refine ⟨w, ?_, alike_of_keepLiterals? v w distinct lossless kept⟩
  rw [parse?_of_json json, kept]
  rfl

/-! ## Values inside others -/

/-- A step leads to the same value in trees of the same value. -/
theorem Alike.exists_step? {w v x : Body} {s : BodyPath.Step} (alike : Alike w v)
    (step : step? v s = some x) : ∃ y, step? w s = some y ∧ Alike y x := by
  cases alike with
  | @list xs ys length items =>
    cases s with
    | member name => cases step
    | item i =>
      have found : ys[i]? = some x := step
      obtain ⟨below, -⟩ := List.getElem?_eq_some_iff.1 found
      have held : xs[i]? = some xs[i] := List.getElem?_eq_getElem (length ▸ below)
      exact ⟨xs[i], held, items i _ x held found⟩
  | @object ms ns names values =>
    cases s with
    | item i => cases step
    | member name =>
      have found : Record.get? ns name = some x := step
      have known : name ∈ Record.names ms :=
        names.mem_iff.2 (List.mem_map_of_mem (Record.mem_of_get? found))
      obtain ⟨e, he, same⟩ := List.mem_map.1 known
      have has : Record.has ms name = true := (Record.has_iff ms name).2 ⟨e, he, same⟩
      cases held : Record.get? ms name with
      | none =>
        rw [← Record.has_eq_false_iff_get?, has] at held
        cases held
      | some y => exact ⟨y, held, values name y x held found⟩
  | _ => cases s <;> cases step

theorem Alike.exists_foldlM {w v x : Body} {ss : List BodyPath.Step} (alike : Alike w v)
    (walk : ss.foldlM step? v = some x) : ∃ y, ss.foldlM step? w = some y ∧ Alike y x := by
  induction ss generalizing w v with
  | nil =>
    obtain rfl := Option.some.inj walk
    exact ⟨w, rfl, alike⟩
  | cons s ss ih =>
    rw [List.foldlM_cons] at walk
    obtain ⟨v', step, walk⟩ := Option.bind_eq_some_iff.1 walk
    obtain ⟨w', step', alike'⟩ := alike.exists_step? step
    obtain ⟨y, walk', same⟩ := ih alike' walk
    refine ⟨y, ?_, same⟩
    rw [List.foldlM_cons, step']
    exact walk'

theorem infix_itemTokens {x y : Body} {r : List Body} (mem : x ∈ y :: r) :
    tokens numeralToken x <:+: tokens numeralToken y ++ itemTokens numeralToken r := by
  induction r generalizing y with
  | nil =>
    obtain rfl := List.mem_singleton.1 mem
    exact (List.prefix_append _ _).isInfix
  | cons z r ih =>
    rcases List.mem_cons.1 mem with rfl | mem
    · exact (List.prefix_append _ _).isInfix
    · have behind : tokens numeralToken z ++ itemTokens numeralToken r <:+
          itemTokens numeralToken (z :: r) := List.suffix_cons _ _
      exact (ih mem).trans (behind.trans (List.suffix_append _ _)).isInfix

theorem infix_memberTokens {e f : Wide × Body} {r : List (Wide × Body)} (mem : e ∈ f :: r) :
    tokens numeralToken e.2 <:+: tokens numeralToken f.2 ++ memberTokens numeralToken r := by
  induction r generalizing f with
  | nil =>
    obtain rfl := List.mem_singleton.1 mem
    exact (List.prefix_append _ _).isInfix
  | cons g r ih =>
    rcases List.mem_cons.1 mem with rfl | mem
    · exact (List.prefix_append _ _).isInfix
    · have behind : tokens numeralToken g.2 ++ memberTokens numeralToken r <:+
          memberTokens numeralToken (g :: r) := ⟨[.comma, .text g.1, .colon], rfl⟩
      exact (ih mem).trans (behind.trans (List.suffix_append _ _)).isInfix

/-- The tokens of a node stand together among those of the tree. -/
theorem infix_of_step? {v x : Body} {s : BodyPath.Step} (step : step? v s = some x) :
    tokens numeralToken x <:+: tokens numeralToken v := by
  cases v with
  | list xs =>
    cases s with
    | member name => cases step
    | item i =>
      have mem : x ∈ xs := List.mem_of_getElem? step
      cases xs with
      | nil => cases mem
      | cons y r => exact (infix_itemTokens mem).trans (List.suffix_cons Token.openList _).isInfix
  | object ms =>
    cases s with
    | item i => cases step
    | member name =>
      have mem : (name, x) ∈ ms := Record.mem_of_get? step
      cases ms with
      | nil => cases mem
      | cons f r =>
        have behind : tokens numeralToken f.2 ++ memberTokens numeralToken r <:+
            tokens numeralToken (.object (f :: r)) := ⟨[.openObject, .text f.1, .colon], rfl⟩
        exact (infix_memberTokens mem).trans behind.isInfix
  | _ => cases s <;> cases step

theorem infix_of_foldlM {v x : Body} {ss : List BodyPath.Step}
    (walk : ss.foldlM step? v = some x) :
    tokens numeralToken x <:+: tokens numeralToken v := by
  induction ss generalizing v with
  | nil =>
    obtain rfl := Option.some.inj walk
    exact List.infix_rfl
  | cons s ss ih =>
    rw [List.foldlM_cons] at walk
    obtain ⟨w, step, walk⟩ := Option.bind_eq_some_iff.1 walk
    exact (ih walk).trans (infix_of_step? step)

/-- What a reference shows of a value that is no text is read as the same value: by itself, and
where it stands in the text of a larger body. -/
theorem parse?_leafText (lib : JsonLibrary) (v : Body) (noText : ∀ s, v ≠ .text s)
    (distinct : v.Distinct) (lossless : v.Lossless) (untaken : v.Untaken lib) :
    ∃ s, v.leafText lib = some s ∧ (∃ w, parse? s = some w ∧ Alike w v) ∧
      ∀ (u : Body) (ss : List BodyPath.Step), u.Distinct → u.Lossless → u.Untaken lib →
        ss.foldlM step? u = some v → ∃ t, u.leafText lib = some t ∧ s.toList <:+: t.toList ∧
          ∃ w y, parse? t = some w ∧ ss.foldlM step? w = some y ∧ Alike y v := by
  refine ⟨_, leafText_eq_compactNumerals noText lossless untaken,
    exists_parse?_compactNumerals v distinct lossless, ?_⟩
  intro u ss distinct' lossless' untaken' walk
  have noText' : ∀ s, u ≠ .text s := by
    rintro s rfl
    cases ss with
    | nil => exact noText s (Option.some.inj walk).symm
    | cons t ss => cases t <;> cases walk
  refine ⟨_, leafText_eq_compactNumerals noText' lossless' untaken', ?_, ?_⟩
  · unfold Json.compactNumerals Json.concatenate
    rw [String.toList_ofList, String.toList_ofList]
    exact (infix_of_foldlM walk).flatMap _
  · obtain ⟨w, read, alike⟩ := exists_parse?_compactNumerals u distinct' lossless'
    obtain ⟨y, walk', same⟩ := alike.exists_foldlM walk
    exact ⟨w, y, read, walk', same⟩

/-- A tree with empty containers, an escaped name, and numbers that no double would spell so; and a
larger body in which it stands. -/
theorem parse?_leafText_numbers :
    let v : Body := .object [("a\n", .list [.null, .number (.literal "-0"), .list [], .object []]),
      ("7", .number (.literal "1E5")), ("length", .number (.literal "1.50"))]
    let s := "\x7b\"a\\n\":[null,-0,[],\x7b\x7d],\"7\":1E5,\"length\":1.50\x7d"
    v.leafText .byClass = some s ∧ (∃ w, parse? s = some w ∧ Alike w v) ∧
      ∃ t w y, leafText .byClass (.object [("next", v)]) = some t ∧ parse? t = some w ∧
        [BodyPath.Step.member "next"].foldlM step? w = some y ∧ Alike y v := by
  intro v s
  have zero : Json.IsNumber "-0" :=
    ⟨['-'], ['0'], [], [], by decide, ⟨by decide, by decide⟩, .inl rfl, .inl rfl, by decide⟩
  have power : Json.IsNumber "1E5" :=
    ⟨[], ['1'], [], ['E', '5'], by decide, ⟨by decide, by decide⟩, .inl rfl,
      .inr ⟨'E', [], ['5'], by decide, by decide, by decide, rfl⟩, by decide⟩
  have places : Json.IsNumber "1.50" :=
    ⟨[], ['1'], ['.', '5', '0'], [], by decide, ⟨by decide, by decide⟩,
      .inr ⟨['5', '0'], by decide, rfl⟩, .inl rfl, by decide⟩
  have distinct : v.Distinct := by simp [v, Record.Distinct, Record.names]
  have lossless : v.Lossless := by simp [v, zero, power, places]
  have noText : ∀ s, v ≠ .text s := by simp [v]
  have shown : v.leafText .byClass = some s := by decide +kernel
  obtain ⟨s', text, alone, inside⟩ :=
    parse?_leafText .byClass v noText distinct lossless fun _ _ => rfl
  obtain rfl : s = s' := Option.some.inj (shown.symm.trans text)
  obtain ⟨t, larger, -, w, y, read, walk, alike⟩ := inside (.object [("next", v)]) [.member "next"]
    (by simp [distinct, Record.Distinct, Record.names]) (by simp [lossless]) (fun _ _ => rfl) rfl
  exact ⟨shown, alone, t, w, y, larger, read, walk, alike⟩

end Body

end HttpScript
