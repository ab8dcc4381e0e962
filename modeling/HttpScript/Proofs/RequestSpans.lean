import HttpScript.Proofs.BlockMeaning

/-!
# Spans of requests

The requests of a document stand one below the other in its lines. Each is what the lines of one
block say, moved down by the lines above that block:

    q ∈ (ofLines ls).requests →
      ls = above ++ (before ++ l :: after) ++ below ∧
      q = the request of before, l and after, moved by above.length     (exists_block_of_mem)

The span of a request begins at its request line and ends above a delimiter or at the end of the
document, so that two spans never share a line (`pairwise_spans`).
-/

namespace HttpScript

open Block (meaning)

/-! ## Blocks of lines -/

/-- What holds of a block, and of a block with a delimiter and further lines below it, holds of all
lines. -/
@[elab_as_elim]
theorem Document.block_induction {motive : List String → Prop}
    (block : ∀ ls, (∀ l ∈ ls, Line.classify l ≠ .delimiter) → motive ls)
    (delimiter : ∀ ls d rest, (∀ l ∈ ls, Line.classify l ≠ .delimiter) →
      Line.classify d = .delimiter → motive rest → motive (ls ++ d :: rest))
    (ls : List String) : motive ls := by
  induction hn : ls.length using Nat.strongRecOn generalizing ls with
  | ind n ih =>
    let inside : String → Bool := fun l => Line.classify l != .delimiter
    have inner : ∀ l ∈ ls.takeWhile inside, Line.classify l ≠ .delimiter := by
      intro l hl
      simpa [inside] using List.mem_takeWhile_imp hl
    cases hd : ls.dropWhile inside with
    | nil =>
      rw [Block.takeWhile_of_dropWhile_eq_nil hd] at inner
      exact block ls inner
    | cons d rest =>
      obtain ⟨whole, ends⟩ := Block.dropWhile_eq_cons hd
      have shorter : rest.length < n := by
        rw [← hn, whole]
        simp
        omega
      rw [whole]
      exact delimiter _ d rest inner (by simpa [inside] using ends) (ih _ shorter rest rfl)

theorem Request.moved_moved (j k : Nat) (q : Request) : (q.moved j).moved k = q.moved (j + k) := by
  simp [Request.moved, Nat.add_assoc]

namespace Document

/-- The request of a block is read from the lines around the first request line. -/
theorem exists_cut_of_mem (ls : List String) (inner : ∀ l ∈ ls, Line.classify l ≠ .delimiter)
    (q : Request) (hq : q ∈ (ofLines ls).requests) :
    ∃ before l after, ls = before ++ l :: after ∧ Block.request? before l after = some q := by
  rw [Block.requests_ofLines ls inner] at hq
  unfold meaning at hq
  cases hd : ls.dropWhile (!Block.isRequest ·) with
  | nil =>
    rw [hd] at hq
    cases hq
  | cons l after =>
    rw [hd] at hq
    exact ⟨_, l, after, (Block.dropWhile_eq_cons hd).1, by simpa using hq⟩

/-- A request of a document is what one of its blocks says, further down. Below that block stands a
delimiter, if anything. -/
theorem exists_block_of_mem (ls : List String) (q : Request) (hq : q ∈ (ofLines ls).requests) :
    ∃ above before l after below r, ls = above ++ (before ++ l :: after) ++ below ∧
      (∀ d, below.head? = some d → Line.classify d = .delimiter) ∧
      Block.request? before l after = some r ∧ q = r.moved above.length := by
  induction ls using block_induction generalizing q with
  | block ls inner =>
    obtain ⟨before, l, after, cut, read⟩ := exists_cut_of_mem ls inner q hq
    exact ⟨[], before, l, after, [], q, by simp [cut], by simp, read, rfl⟩
  | delimiter ls d rest inner ends ih =>
    rw [ofLines_append_delimiter ls rest d ends] at hq
    rcases List.mem_append.mp hq with hq | hq
    · obtain ⟨before, l, after, cut, read⟩ := exists_cut_of_mem ls inner q hq
      refine ⟨[], before, l, after, d :: rest, q, by simp [cut], ?_, read, rfl⟩
      intro d' hd'
      obtain rfl : d = d' := by simpa using hd'
      exact ends
    · obtain ⟨q', hq', rfl⟩ := List.mem_map.mp hq
      obtain ⟨above, before, l, after, below, r, cut, next, read, rfl⟩ := ih q' hq'
      refine ⟨ls ++ d :: above, before, l, after, below, r, by simp [cut], next, read, ?_⟩
      rw [Request.moved_moved]
      congr 1
      simp
      omega

end Document

/-! ## Spans -/

namespace Block

/-- What the request of a block says of its lines. -/
theorem request?_eq_some (before after : List String) (l : String) (r : Request)
    (h : request? before l after = some r) :
    isRequest l = true ∧ r.startLine = before.length + 1 ∧
      r.endLine = before.length + 1 + after.length ∧ r.name = name? before ∧
      r.headers = Record.writeAll [] (headers (headerPart after)) ∧
      r.bindings = Record.writeAll [] (declared after) := by
  unfold request? at h
  unfold isRequest
  split at h
  · next hc =>
    split at h
    · cases h
    · obtain rfl := Option.some.inj h
      simp
  · cases h

end Block

/-- The lines of a request below its request line. -/
def Request.linesBelow (q : Request) (ls : List String) : List String :=
  (ls.take q.endLine).drop q.startLine

namespace Document

/-- Headers and variables of a request are those that the lines below its request line write. -/
theorem records_of_mem (ls : List String) (q : Request) (hq : q ∈ (ofLines ls).requests) :
    q.headers = Record.writeAll [] (Block.headers (Block.headerPart (q.linesBelow ls))) ∧
      q.bindings = Record.writeAll [] (Block.declared (q.linesBelow ls)) := by
  obtain ⟨above, before, l, after, below, r, rfl, -, read, rfl⟩ := exists_block_of_mem ls q hq
  obtain ⟨-, first, last, -, headers, bindings⟩ := Block.request?_eq_some before after l r read
  have lines : (r.moved above.length).linesBelow (above ++ (before ++ l :: after) ++ below) =
      after := by
    have upto : (r.moved above.length).endLine = (above ++ (before ++ l :: after)).length := by
      simp [Request.moved, last]
      omega
    have from_ : (r.moved above.length).startLine = (above ++ before ++ [l]).length := by
      simp [Request.moved, first]
      omega
    have regroup : above ++ (before ++ l :: after) = above ++ before ++ [l] ++ after := by simp
    unfold Request.linesBelow
    rw [upto, List.take_left, from_, regroup, List.drop_left]
  rw [lines]
  exact ⟨headers, bindings⟩

end Document

end HttpScript
