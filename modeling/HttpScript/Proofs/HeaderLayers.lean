import HttpScript.Header
import HttpScript.Proofs.NewEntries

/-!
# Layers of headers

The headers of a request stand over the defaults, name by name and ignoring case. What is sent
under a name are the entries of the upper layer that has the name, in all their spellings and in
their order. Only the length of the body, and without a body what describes it, is left out.

    (outgoing (mergeDefaults d h) b).find? n = (h.find? n).or (d.find? n)
                                             when n is sent        (find?_outgoing_mergeDefaults)
-/

namespace HttpScript.Header

open Text (lower)
open Record (Distinct Plain named named_append named_filter named_eq_nil_iff find?_named
  find?_eq_or addAll addAll_of_plain merge_eq_addAll reservedName firstNamed?_congr
  findName?_eq_none_iff)

/-! ## The three steps -/

theorem isContent_congr {a b : String} (same : lower a = lower b) : isContent a = isContent b := by
  unfold isContent
  rw [same]

theorem select_eq_addAll (keep : String → Bool) (h : Record String) :
    select keep h = addAll [] (h.filter fun e => keep e.1) := by
  unfold select addAll
  rw [List.foldl_filter]

/-- The defaults that no header of the request replaces. -/
def unreplaced (d h : Record String) : Record String :=
  d.filter fun e => (h.findName? e.1).isNone

theorem mergeDefaults_eq_addAll {d h : Record String} (stored : ∀ e ∈ h, e.1 ≠ reservedName) :
    mergeDefaults d h = addAll [] (unreplaced d h ++ h) := by
  unfold mergeDefaults
  rw [merge_eq_addAll stored]
  unfold addAll unreplaced
  rw [List.foldl_append, List.foldl_filter]
  congr 1
  refine List.foldl_ext _ _ _ fun r e _ => ?_
  cases h.findName? e.1 <;> rfl

theorem outgoing_eq_addAll (h : Record String) :
    outgoing h true =
      addAll (message h) ((content h).filter fun e => !(lower e.1 == "content-length")) := by
  unfold outgoing addAll
  rw [if_pos rfl, List.foldl_filter]
  refine List.foldl_ext _ _ _ fun r e _ => ?_
  cases lower e.1 == "content-length" <;> rfl

variable {d h : Record String}

theorem select_of_plain (plain : h.Plain) (keep : String → Bool) :
    (select keep h).Perm (h.filter fun e => keep e.1) ∧
      ∀ name, named name (select keep h) = named name (h.filter fun e => keep e.1) := by
  rw [select_eq_addAll]
  have kept : Plain ([] ++ h.filter fun e => keep e.1) := plain.of_sublist List.filter_sublist
  exact addAll_of_plain kept

theorem plain_unreplaced_append (plain_d : d.Plain) (plain_h : h.Plain) :
    Plain (unreplaced d h ++ h) := by
  have upper : Plain (unreplaced d h) := plain_d.of_sublist List.filter_sublist
  constructor
  case distinct =>
    unfold Distinct Record.names
    rw [List.map_append]
    refine List.Nodup.append upper.distinct plain_h.distinct fun name hd hh => ?_
    obtain ⟨e, he, rfl⟩ := List.mem_map.1 hd
    obtain ⟨f, hf, same⟩ := List.mem_map.1 hh
    have absent : h.findName? e.1 = none := Option.isNone_iff_eq_none.1 (List.mem_filter.1 he).2
    rw [findName?_eq_none_iff, Record.firstNamed?_eq_none_iff] at absent
    exact absent f hf (congrArg lower same)
  case stored =>
    intro e he
    exact (List.mem_append.1 he).elim (upper.stored e) (plain_h.stored e)

/-- Of the two layers the upper one is kept as it is, and of the lower one what it leaves free. -/
theorem mergeDefaults_of_plain (plain_d : d.Plain) (plain_h : h.Plain) :
    (mergeDefaults d h).Plain ∧ ∀ name, named name (mergeDefaults d h) =
      if named name h = [] then named name d else named name h := by
  have plain := plain_unreplaced_append plain_d plain_h
  have plain' : Plain ([] ++ (unreplaced d h ++ h)) := plain
  obtain ⟨perm, order⟩ := addAll_of_plain plain'
  rw [mergeDefaults_eq_addAll plain_h.stored]
  refine ⟨plain.of_perm perm, fun name => (order name).trans ?_⟩
  have by_name (a b : String) (same : lower a = lower b) :
      (h.findName? a).isNone = (h.findName? b).isNone := by
    rw [Bool.eq_iff_iff, Option.isNone_iff_eq_none, Option.isNone_iff_eq_none,
      findName?_eq_none_iff, findName?_eq_none_iff, firstNamed?_congr a b same]
  have lower_layer : named name (unreplaced d h) =
      if (h.findName? name).isNone then named name d else [] := named_filter _ by_name name d
  have free : (h.findName? name).isNone = true ↔ named name h = [] := by
    rw [Option.isNone_iff_eq_none, findName?_eq_none_iff, named_eq_nil_iff]
  rw [named_append name (unreplaced d h), lower_layer, if_congr free rfl rfl]
  show (if named name h = [] then named name d else []) ++ named name h = _
  split
  · next none => rw [none, List.append_nil]
  · rfl

theorem isContent_of_length {name : String} (length : lower name = "content-length") :
    isContent name = true := by
  unfold isContent
  rw [length]
  decide +kernel

/-- Message headers and those that describe a body are all headers. -/
theorem perm_message_content (plain : h.Plain) : (message h ++ content h).Perm h := by
  have others : (message h).Perm (h.filter fun e => !isContent e.1) :=
    (select_of_plain plain (!isContent ·)).1
  have describing : (content h).Perm (h.filter fun e => isContent e.1) :=
    (select_of_plain plain isContent).1
  have all : ((h.filter fun e => isContent e.1) ++ h.filter fun e => !isContent e.1).Perm h :=
    List.filter_append_perm _ h
  exact (others.append describing).trans (List.perm_append_comm.trans all)

/-- Under a name, headers are sent as they are or not at all. -/
theorem named_outgoing (plain : h.Plain) (withBody : Bool) (name : String) :
    named name (outgoing h withBody) =
      if lower name = "content-length" ∨ isContent name = true ∧ withBody = false then []
      else named name h := by
  have of_message : named name (message h) = if !isContent name then named name h else [] :=
    ((select_of_plain plain (!isContent ·)).2 name).trans
      (named_filter (!isContent ·) (fun a b same => by rw [isContent_congr same]) name h)
  have of_content : named name (content h) = if isContent name then named name h else [] :=
    ((select_of_plain plain isContent).2 name).trans
      (named_filter isContent (fun a b same => isContent_congr same) name h)
  cases withBody with
  | false =>
    have unsent : lower name = "content-length" ∨ isContent name = true ∧ false = false ↔
        isContent name = true :=
      ⟨fun unsent => unsent.elim isContent_of_length And.left, fun content => .inr ⟨content, rfl⟩⟩
    show named name (message h) = _
    rw [of_message, if_congr unsent rfl rfl]
    cases isContent name <;> rfl
  | true =>
    have rest : named name ((content h).filter fun e => !(lower e.1 == "content-length")) =
        if !(lower name == "content-length") then named name (content h) else [] :=
      named_filter (fun n => !(lower n == "content-length")) (fun a b same => by rw [same]) name _
    have plain' : Plain (message h ++
        (content h).filter fun e => !(lower e.1 == "content-length")) :=
      (plain.of_perm (perm_message_content plain)).of_sublist
        ((List.Sublist.refl _).append List.filter_sublist)
    rw [outgoing_eq_addAll]
    refine ((addAll_of_plain plain').2 name).trans ?_
    have unsent : lower name = "content-length" ∨ isContent name = true ∧ true = false ↔
        lower name = "content-length" :=
      or_iff_left fun absurd => nomatch absurd.2
    rw [of_message, rest, of_content, if_congr unsent rfl rfl]
    by_cases length : lower name = "content-length"
    · rw [if_pos length, isContent_of_length length, length]
      rfl
    · rw [if_neg length, beq_false_of_ne length]
      cases isContent name
      · exact List.append_nil _
      · rfl

/-- What is sent under a name, ignoring case: nothing if it is the length of the body or describes a
body that is not sent, else the header of the request, else the default. All spellings of the name
that the layer has are sent, in order. -/
theorem find?_outgoing_mergeDefaults (plain_d : d.Plain) (plain_h : h.Plain) (withBody : Bool)
    (name : String) :
    (outgoing (mergeDefaults d h) withBody).find? name =
      (if lower name = "content-length" ∨ isContent name = true ∧ withBody = false then none
        else (h.find? name).or (d.find? name)) ∧
    named name (outgoing (mergeDefaults d h) withBody) =
      (if lower name = "content-length" ∨ isContent name = true ∧ withBody = false then []
        else if named name h = [] then named name d else named name h) := by
  obtain ⟨plain, layers⟩ := mergeDefaults_of_plain plain_d plain_h
  have entries := named_outgoing plain withBody name
  rw [layers] at entries
  refine ⟨?_, entries⟩
  rw [← find?_named, entries]
  split
  · rfl
  split
  · next free =>
    have absent : h.find? name = none := by
      rw [← find?_named, free]
      rfl
    rw [find?_named, absent, Option.none_or]
  · next taken =>
    have there : h.find? name ≠ none := by
      rw [find?_eq_or, Ne, Option.or_eq_none_iff]
      exact fun absent => taken ((named_eq_nil_iff name h).2 absent.2)
    obtain ⟨v, hv⟩ := Option.ne_none_iff_exists'.1 there
    rw [find?_named, hv, Option.some_or]

/-- Two spellings of a header stand over a default, and the length of the body is left out. -/
theorem find?_outgoing_mergeDefaults_spellings :
    let d : Record String := [("Accept", "*/*"), ("X-ID", "1"), ("Content-Type", "text/plain")]
    let h : Record String := [("x-id", "2"), ("X-Id", "3"), ("Content-Length", "9")]
    d.Plain ∧ h.Plain ∧
      (outgoing (mergeDefaults d h) true).find? "X-ID" = some "2" ∧
      named "X-ID" (outgoing (mergeDefaults d h) true) = [("x-id", "2"), ("X-Id", "3")] := by
  intro d h
  have plain_d : d.Plain := by decide +kernel
  have plain_h : h.Plain := by decide +kernel
  obtain ⟨found, entries⟩ := find?_outgoing_mergeDefaults plain_d plain_h true "X-ID"
  exact ⟨plain_d, plain_h, found.trans (by decide +kernel), entries.trans (by decide +kernel)⟩

end HttpScript.Header
