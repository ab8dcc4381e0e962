import HttpScript.Proofs.FreshTrees
import HttpScript.Proofs.JsonLexemes
import HttpScript.Proofs.NamedReferences
import HttpScript.Proofs.PathGrammar

/-!
# Numbers in chained values

A reference with a body path shows the number at the end of the path. Its digits are those of the
body unless an object somewhere in the body repeats a name with another value. Then all numbers of
the body have become doubles, and what is shown is the text of a double:

    shown = source ↔ ¬ tree.Conflicts ∨ (Binary64.ofLiteral source).text = source
                                                              (resolve_number_iff)
-/

namespace HttpScript

/-! ## Reading bodies -/

namespace Json

theorem Token.isBlank_of_spelling {t : Token} (fixed : t.isFixed = Bool.true) {c : Char}
    {r : List Char} (spelled : t.spelling = c :: r) : Text.isBlank c = Bool.false := by
  cases t with
  | number s => cases fixed
  | text s => cases fixed
  | _ =>
    obtain ⟨rfl, -⟩ := List.cons.inj spelled
    decide

/-- A blank text has no tokens. -/
theorem Lexer.read?_of_blank {tokens ts : List Token} {s : List Char}
    (blank : ∀ c ∈ s, Text.isBlank c = true) (h : read? ⟨tokens, .between⟩ s = some ts) :
    ts = tokens.reverse := by
  induction s with
  | nil => exact (Option.some.inj h).symm
  | cons c s ih =>
    rw [read?_cons] at h
    obtain ⟨l, begun, rest⟩ := Option.bind_eq_some_iff.mp h
    have head : Text.isBlank c = true := blank c List.mem_cons_self
    have lost : Text.isBlank c ≠ false := by
      rw [head]
      nofun
    rcases begin?_cases begun with ⟨-, rfl⟩ | ⟨t, fixed, spelled, -⟩ |
      ⟨t, d, r, fixed, spelled, -⟩ | ⟨part, first, -⟩ | ⟨rfl, -⟩
    · exact ih (fun c hc => blank c (List.mem_cons_of_mem _ hc)) rest
    · exact absurd (Token.isBlank_of_spelling fixed spelled) lost
    · exact absurd (Token.isBlank_of_spelling fixed spelled) lost
    · have starts : numberStarts.all (!Text.isBlank ·) = true := by decide
      have shown := List.all_eq_true.mp starts c (mem_numberStarts first)
      rw [head] at shown
      cases shown
    · exact absurd (by decide) lost

/-- A text that is JSON is not blank. -/
theorem isBlankText_of_parse? {s : String} {t : Json String} (h : parse? s = some t) :
    Text.isBlankText s = false := by
  rw [Bool.eq_false_iff]
  intro blank
  obtain ⟨ts, read, tree⟩ := Option.bind_eq_some_iff.mp h
  have none_ : ts = ([] : List Token).reverse :=
    Lexer.read?_of_blank (List.all_eq_true.mp blank) read
  rw [none_] at tree
  cases tree

end Json

namespace BodyPath

/-- The text of a path is followed step by step. -/
theorem navigate?_text (lib : JsonLibrary) (root : Body) (w : WrittenPath) :
    navigate? lib root w.text = w.path.steps.foldlM (stepIn? (member? lib) item?) root := by
  unfold navigate?
  rw [parse?_text, Option.bind_some, follow?_eq_foldlM]

end BodyPath

namespace Body

open BodyPath (Barred)
open Json (Conflicts)

theorem parse?_of_json {body : String} {tree : Json String} (json : Json.parse? body = some tree) :
    parse? body =
      some ((Json.keepLiterals? tree).getD (Json.ofDoubles (Json.toDoubles tree))) := by
  unfold parse?
  rw [Json.isBlankText_of_parse? json, json, if_neg Bool.false_ne_true]
  dsimp only
  cases Json.keepLiterals? tree <;> rfl

/-- What a path shows of the number that it leads to. -/
theorem navigate?_number {body : String} {tree : Json String} (json : Json.parse? body = some tree)
    (lib : JsonLibrary) (w : BodyPath.WrittenPath) (source : String)
    (reached : tree.node? w.path.steps = some (.number source)) :
    ∃ root, Body.parse? body = some root ∧
      (Barred lib root w.path.steps → BodyPath.navigate? lib root w.text = none) ∧
      (¬ Barred lib root w.path.steps → ∃ n, BodyPath.navigate? lib root w.text = some (.number n) ∧
        (¬ tree.Conflicts → n.text = source) ∧
        (tree.Conflicts → n.text = (Binary64.ofLiteral source).text)) := by
  rw [parse?_of_json json]
  refine ⟨_, rfl, fun barred => ?_, fun free => ?_⟩
  · rw [BodyPath.navigate?_text, BodyPath.foldlM_of_barred barred]
  rw [BodyPath.navigate?_text, BodyPath.foldlM_of_not_barred free]
  cases hk : Json.keepLiterals? tree with
  | some v =>
    have kept : ¬ tree.Conflicts := by
      rw [← Json.keepLiterals?_eq_none_iff, hk]
      nofun
    obtain ⟨leaf, found, literal⟩ := Json.conversion_keepLiterals?.node _ _ _ _ hk reached
    obtain rfl := Option.some.inj literal
    exact ⟨.literal source, found, fun _ => rfl, fun c => absurd c kept⟩
  | none =>
    have conflict := (Json.keepLiterals?_eq_none_iff tree).mp hk
    obtain ⟨leaf, found, double⟩ := Json.conversion_doubles.node _ _ _ _ rfl reached
    obtain rfl := Option.some.inj double
    exact ⟨.double (Binary64.ofLiteral source), found, fun c => absurd conflict c, fun _ => rfl⟩

end Body

namespace Session

open BodyPath (Barred)

theorem startsWith_dollar (path : String) (plain : path.toList.head? ≠ some '$') :
    Text.startsWith "$" path = false := by
  have dollar : "$".toList = ['$'] := rfl
  unfold Text.startsWith
  rw [dollar]
  cases hp : path.toList with
  | nil => rfl
  | cons c r =>
    have other : '$' ≠ c := by
      rintro rfl
      rw [hp] at plain
      exact plain rfl
    simp [List.isPrefixOf, other]

/-- A reference with a body path shows the node that the path leads to, and stays as it is when the
path leads nowhere or the node has no text. -/
theorem resolve_bodyPath (s : SessionState) (n : String) (ident : Text.isIdent n.toList = true)
    (r : StoredResponse) (root : Body) (tree : r.tree = some root) (w : BodyPath.WrittenPath)
    (closed : '}' ∉ w.text.toList) (plain : w.text.toList.head? ≠ some '$') :
    let reference : Reference := ⟨n, .body, some w.text⟩
    ((s.apply (.store n r)).resolve reference.text).1 =
      ((BodyPath.navigate? s.library root w.text).bind (Body.leafText s.library)).getD
        reference.text := by
  intro reference
  have named : n ≠ "" := by
    rintro rfl
    cases ident
  have written : reference.Written := by
    refine ⟨ident, fun p hp => ?_⟩
    obtain rfl := Option.some.inj hp
    exact ⟨w.text_ne_nil, closed⟩
  have found : (s.apply (.store n r)).session.held? reference.name = some (.fresh n r) := by
    show (s.session.store n r).held? n = _
    rw [held?_store s.session n r named, if_pos rfl]
  have value : ((s.apply (.store n r)).answer reference).1 =
      (BodyPath.navigate? s.library root w.text).bind (Body.leafText s.library) := by
    rw [SessionState.answer_of_held? found, SessionEntry.answer]
    dsimp only
    rw [SessionEntry.tree_fresh, tree]
    dsimp only [Option.map_some]
    rw [Query.Tree.select, startsWith_dollar _ plain, if_neg Bool.false_ne_true]
    exact congrArg (Option.bind · (Body.leafText s.library))
      (Query.Tree.navigate?_unchanged s.library rfl ..)
  rw [SessionState.resolve_text _ reference written, value]

/-- A number of a body is shown with its digits exactly if no object of the body repeats a name with
another value, or the digits are those of the double. Where the library takes an object on the way
for a number, nothing is shown and the reference stays. -/
theorem resolve_number_iff (s : SessionState) (n : String) (ident : Text.isIdent n.toList = true)
    (r : StoredResponse) (tree : Json String) (json : Json.parse? r.body = some tree)
    (w : BodyPath.WrittenPath) (closed : '}' ∉ w.text.toList)
    (plain : w.text.toList.head? ≠ some '$') (source : String)
    (reached : tree.node? w.path.steps = some (.number source)) :
    let reference := Reference.text ⟨n, .body, some w.text⟩
    let shown := ((s.apply (.store n r)).resolve reference).1
    ∃ root, r.tree = some root ∧
      (Barred s.library root w.path.steps → shown = reference) ∧
      (¬ Barred s.library root w.path.steps →
        (shown = source ↔ ¬ tree.Conflicts ∨ (Binary64.ofLiteral source).text = source) ∧
          (tree.Conflicts → shown = (Binary64.ofLiteral source).text)) := by
  intro reference shown
  obtain ⟨root, read, nowhere, leads⟩ := Body.navigate?_number json s.library w source reached
  have resolved := resolve_bodyPath s n ident r root read w closed plain
  refine ⟨root, read, fun barred => ?_, fun free => ?_⟩
  · rw [nowhere barred] at resolved
    exact resolved
  obtain ⟨number, found, kept, rounded⟩ := leads free
  have shows : shown = number.text := by
    rw [found] at resolved
    exact resolved
  rw [shows]
  refine ⟨⟨fun same => ?_, ?_⟩, rounded⟩
  · by_cases conflict : tree.Conflicts
    · exact .inr ((rounded conflict).symm.trans same)
    · exact .inl conflict
  · by_cases conflict : tree.Conflicts
    · rintro (free | same)
      · exact absurd conflict free
      · exact (rounded conflict).trans same
    · exact fun _ => kept conflict

/-- A body in which a name is repeated with the same value: its numbers keep their digits. -/
theorem resolve_number_iff_ids :
    ((SessionState.start.apply (.store "order"
      ⟨200, [], "\x7b\"a\":1,\"a\":1,\"ids\":[7,12345678901234567890]\x7d", 0⟩)).resolve
        "{{order.response.body.ids[1]}}").1 = "12345678901234567890" := by
  let tree : Json String := .object [("a", .number "1"), ("a", .number "1"),
    ("ids", .list [.number "7", .number "12345678901234567890"])]
  let path : BodyPath.WrittenPath :=
    ⟨[⟨['i', 'd', 's'], [['1']], by simp [BodyPath.isBracket], by simp [Char.isDigit], by simp⟩],
      by simp⟩
  have json : Json.parse? "\x7b\"a\":1,\"a\":1,\"ids\":[7,12345678901234567890]\x7d" =
      some tree := Eq.refl _
  have free : ¬ tree.Conflicts := by
    have kept : (Json.keepLiterals? tree).isSome = true := by decide +kernel
    rw [← Json.keepLiterals?_eq_none_iff]
    intro lost
    rw [lost] at kept
    cases kept
  have written : Reference.text ⟨"order", .body, some path.text⟩ =
      "{{order.response.body.ids[1]}}" := by decide +kernel
  rw [← written]
  obtain ⟨root, -, -, shows⟩ := resolve_number_iff .start "order" (by decide +kernel)
    ⟨200, [], _, 0⟩ tree json path (by decide +kernel) (by decide +kernel) "12345678901234567890"
    (Eq.refl _)
  exact (shows (BodyPath.not_barred_of_untaken fun _ _ => rfl)).1.2 (.inl free)

/-- A body in which a name is repeated with another value: the digits of a number beside it are
lost. -/
theorem resolve_number_beside_repeated_name :
    let body := "\x7b\"id\":12345678901234567890,\"a\":1,\"a\":2\x7d"
    (∃ tree, Json.parse? body = some tree ∧
      tree.node? [.member "id"] = some (.number "12345678901234567890")) ∧
    ((SessionState.start.apply (.store "order" ⟨200, [], body, 0⟩)).resolve
      "{{order.response.body.id}}").1 = "12345678901234567000" := by
  refine ⟨⟨.object [("id", .number "12345678901234567890"), ("a", .number "1"),
    ("a", .number "2")], by rfl, by rfl⟩, by decide +kernel⟩

end Session

end HttpScript
