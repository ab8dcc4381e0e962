import HttpScript.Proofs.BodyTrees
import HttpScript.Proofs.DoubleTexts

/-!
# Trees of doubles as text

A tree of doubles is written with the texts of its numbers, and `null` stands for those that are not
finite. Compact or laid out on lines, the text is read as that tree.

    parse? v.compact = some v.written                                     (parse?_compact)
    parse? v.indented = some v.written                                    (parse?_indented)
-/

namespace HttpScript.Json

open Binary64 (IsDouble)

/-! ## The tree of the text -/

/-- How a double is written: as the number that its text is, or as `null`. -/
def writtenNumber (d : Binary64) : Json String := if d.isFinite then number d.text else null

mutual

/-- The tree of which the text of a tree of doubles is the text. -/
def written : Json Binary64 → Json String
  | null => null
  | bool b => bool b
  | number d => writtenNumber d
  | text s => text s
  | list xs => list (writtenItems xs)
  | object ms => object (writtenMembers ms)

/-- `written` on the items of a list. -/
def writtenItems : List (Json Binary64) → List (Json String)
  | [] => []
  | x :: r => written x :: writtenItems r

/-- `written` on the members of an object. -/
def writtenMembers : List (Wide × Json Binary64) → List (Wide × Json String)
  | [] => []
  | (k, v) :: r => (k, written v) :: writtenMembers r

end

theorem writtenItems_eq_map (xs : List (Json Binary64)) : writtenItems xs = xs.map written := by
  induction xs with
  | nil => rfl
  | cons x r ih => rw [writtenItems, ih, List.map_cons]

theorem writtenMembers_eq_map (ms : List (Wide × Json Binary64)) :
    writtenMembers ms = ms.map fun e => (e.1, written e.2) := by
  induction ms with
  | nil => rfl
  | cons e r ih => rw [writtenMembers, ih, List.map_cons]

theorem tokens_writtenNumber (d : Binary64) :
    tokens Token.number (writtenNumber d) = [doubleToken d] := by
  unfold writtenNumber doubleToken
  split <;> rfl

mutual

/-- A tree of doubles is written as that tree is. -/
theorem tokens_written (v : Json Binary64) :
    tokens doubleToken v = tokens Token.number v.written := by
  match v with
  | .null => rfl
  | .bool true => rfl
  | .bool false => rfl
  | .number d => exact (tokens_writtenNumber d).symm
  | .text s => rfl
  | .list [] => rfl
  | .list (x :: r) =>
    show Token.openList :: (tokens doubleToken x ++ itemTokens doubleToken r) = _
    rw [tokens_written x, itemTokens_written r]
    rfl
  | .object [] => rfl
  | .object ((k, w) :: r) =>
    show Token.openObject :: .text k :: .colon ::
      (tokens doubleToken w ++ memberTokens doubleToken r) = _
    rw [tokens_written w, memberTokens_written r]
    rfl

theorem itemTokens_written (r : List (Json Binary64)) :
    itemTokens doubleToken r = itemTokens Token.number (writtenItems r) := by
  match r with
  | [] => rfl
  | x :: r =>
    show Token.comma :: (tokens doubleToken x ++ itemTokens doubleToken r) = _
    rw [tokens_written x, itemTokens_written r]
    rfl

theorem memberTokens_written (r : List (Wide × Json Binary64)) :
    memberTokens doubleToken r = memberTokens Token.number (writtenMembers r) := by
  match r with
  | [] => rfl
  | (k, w) :: r =>
    show Token.comma :: .text k :: .colon ::
      (tokens doubleToken w ++ memberTokens doubleToken r) = _
    rw [tokens_written w, memberTokens_written r]
    rfl

end

/-! ## Stored numbers -/

/-- All numbers of the tree are numbers that the format has. -/
def Stored (v : Json Binary64) : Prop := ∀ d, Holds d v → d.IsDouble

@[simp] theorem stored_null : Stored .null := by simp [Stored]

@[simp] theorem stored_bool (b : Bool) : Stored (.bool b) := by simp [Stored]

@[simp] theorem stored_text (s : Wide) : Stored (.text s) := by simp [Stored]

@[simp] theorem stored_number (d : Binary64) : Stored (.number d) ↔ d.IsDouble := by simp [Stored]

@[simp] theorem stored_list (xs : List (Json Binary64)) :
    Stored (.list xs) ↔ ∀ x ∈ xs, x.Stored :=
  ⟨fun all _ mem d holds => all d (.item mem holds),
    fun all d holds => by
      obtain ⟨x, mem, inner⟩ := (holds_list xs).1 holds
      exact all x mem d inner⟩

theorem stored_object (ms : List (Wide × Json Binary64)) :
    Stored (.object ms) ↔ ∀ e ∈ ms, e.2.Stored :=
  ⟨fun all _ mem d holds => all d (.member mem holds),
    fun all d holds => by
      obtain ⟨e, mem, inner⟩ := (holds_object ms).1 holds
      exact all e mem d inner⟩

theorem stored_record (ms : Record (Json Binary64)) :
    Stored (.record ms) ↔ ∀ e ∈ ms, e.2.Stored := by
  rw [record, stored_object, List.forall_mem_map]

@[simp] theorem stored_record_nil : Stored (.record []) := (stored_record []).2 nofun

@[simp] theorem stored_record_cons (e : String × Json Binary64) (ms : Record (Json Binary64)) :
    Stored (.record (e :: ms)) ↔ e.2.Stored ∧ Stored (.record ms) := by
  rw [stored_record, stored_record, List.forall_mem_cons]

@[simp] theorem stored_record_append (ms ns : Record (Json Binary64)) :
    Stored (.record (ms ++ ns)) ↔ Stored (.record ms) ∧ Stored (.record ns) := by
  rw [stored_record, stored_record, stored_record, List.forall_mem_append]

/-- What stands for a number of a tree of doubles is a number in JSON. -/
theorem Stored.isNumber {v : Json Binary64} (stored : v.Stored) :
    ∀ s, .number s ∈ tokens Token.number v.written → IsNumber s := by
  intro s mem
  rw [← tokens_written] at mem
  obtain ⟨d, holds, same⟩ := holds_of_mem_tokens v mem
  unfold doubleToken at same
  split at same
  · next finite_ =>
    obtain rfl := Token.number.inj same
    exact Binary64.isNumber_text (stored d holds) finite_
  · cases same

/-! ## Layout -/

theorem Joined.blank_append {ls : List Lexeme} {s w : List Char} (joined : Joined ls s)
    (blank : Blank w) : Joined ls (w ++ s) := by
  cases joined with
  | last blank' => exact .last (blank.append blank')
  | next blank' others =>
    rw [← List.append_assoc]
    exact .next (blank.append blank') others

theorem blank_newLine (depth : Nat) : Blank (newLine depth) := by
  refine .cons rfl fun c hc => ?_
  rw [List.eq_of_mem_replicate hc]
  rfl

theorem Spelled.blank_append {ts : List Token} {s w : List Char} (rest : Spelled ts s)
    (blank : Blank w) : Spelled ts (w ++ s) := by
  obtain ⟨ls, joined, rfl⟩ := rest
  exact ⟨ls, joined.blank_append blank, rfl⟩

theorem blank_space : Blank [' '] := .cons rfl .nil

/-- Layout only adds white space. -/
theorem spelled_layOut (depth : Nat) (ts : List Token)
    (numbers : ∀ n, .number n ∈ ts → IsNumber n) : Spelled ts (layOut depth ts) := by
  -- the tokens of an empty container are laid out in one step, every other one in a step of its own
  fun_induction layOut depth ts with
  | case1 => exact .nil
  | case2 depth r ih =>
    have rest := ih fun n mem => numbers n (.tail _ (.tail _ mem))
    exact .token (t := .openList) nofun (.token (t := .closeList) nofun rest)
  | case3 depth r ih =>
    have rest := ih fun n mem => numbers n (.tail _ (.tail _ mem))
    exact .token (t := .openObject) nofun (.token (t := .closeObject) nofun rest)
  | case4 depth r _ ih =>
    have rest := ih fun n mem => numbers n (.tail _ mem)
    exact .token (t := .openList) nofun (rest.blank_append (blank_newLine _))
  | case5 depth r _ ih =>
    have rest := ih fun n mem => numbers n (.tail _ mem)
    exact .token (t := .openObject) nofun (rest.blank_append (blank_newLine _))
  | case6 depth r ih =>
    have rest := ih fun n mem => numbers n (.tail _ mem)
    exact .blank_append (.token (t := .closeList) nofun rest) (blank_newLine _)
  | case7 depth r ih =>
    have rest := ih fun n mem => numbers n (.tail _ mem)
    exact .blank_append (.token (t := .closeObject) nofun rest) (blank_newLine _)
  | case8 depth r ih =>
    have rest := ih fun n mem => numbers n (.tail _ mem)
    exact .token (t := .comma) nofun (rest.blank_append (blank_newLine _))
  | case9 depth r ih =>
    have rest := ih fun n mem => numbers n (.tail _ mem)
    exact .token (t := .colon) nofun (rest.blank_append blank_space)
  | case10 depth t r _ _ _ _ _ _ _ _ ih =>
    have rest := ih fun n mem => numbers n (.tail _ mem)
    exact .token (fun n same => numbers n (same ▸ .head _)) rest

/-! ## Reading -/

/-- The indented text of a tree of doubles is read as that tree. -/
theorem parse?_indented {v : Json Binary64} (stored : v.Stored) :
    parse? v.indented = some v.written := by
  unfold indented
  rw [tokens_written]
  exact parse?_of_spelled (spelled_layOut 0 _ stored.isNumber)

/-- So is the compact text. -/
theorem parse?_compact {v : Json Binary64} (stored : v.Stored) :
    parse? v.compact = some v.written := by
  unfold compact
  rw [tokens_written]
  exact parse?_concatenate _ stored.isNumber

end HttpScript.Json
