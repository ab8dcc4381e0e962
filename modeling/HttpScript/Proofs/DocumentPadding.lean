import HttpScript.Proofs.BlockMeaning
import HttpScript.Proofs.LinePadding

/-!
# Padded documents

Spaces and tabs at the end of a line outside a body do not change what a document says, unless the
line is a method alone and the reader seeks a request line there. Padding then opens a request
without a target, which is not reported, and takes the lines of its block away from the request
and the file variables below.

    parse (u ++ w ++ b) = parse (u ++ b)     when w pads a line that it does not open

    parse "GET  \nGET /a"    has no request
-/

namespace HttpScript

open Record (writeAll)
open Text (IsPadding isLineEnd)

/-! ## Lines of padded texts -/

namespace Text

/-- What is added to a text without a line end is added to its last line. -/
theorem exists_lines_append (a : List Char) : ∃ before l, ∀ w, (∀ c ∈ w, isLineEnd c = false) →
    lines (a ++ w) = before ++ [l ++ w] := by
  induction a using lines.induct with
  | case1 =>
    refine ⟨[], [], fun w inner => lines_of_line w (fun lf => ?_) fun cr => ?_⟩
    · exact absurd (inner _ lf) (by decide)
    · exact absurd (inner _ cr) (by decide)
  | case2 r ih =>
    obtain ⟨before, l, ih⟩ := ih
    refine ⟨[] :: before, l, fun w inner => ?_⟩
    show [] :: lines (r ++ w) = _
    rw [ih w inner]
    rfl
  | case3 c r not_pair ends ih =>
    obtain ⟨before, l, ih⟩ := ih
    refine ⟨[] :: before, l, fun w inner => ?_⟩
    have apart : c = '\r' → (r ++ w).head? ≠ some '\n' := by
      rintro rfl
      refine head?_append_ne (fun s => not_pair s rfl) fun _ lf => ?_
      exact absurd (inner _ (List.mem_of_head? lf)) (by decide)
    rw [List.cons_append, lines_cons_of_isLineEnd ends apart, ih w inner]
    rfl
  | case4 c r not_pair inside empty ih => exact absurd empty (lines_ne_nil r)
  | case5 c r not_pair inside l ls found ih =>
    obtain ⟨before, last, ih⟩ := ih
    have inside := Bool.eq_false_iff.2 inside
    cases before with
    | nil => exact ⟨[], c :: last, fun w inner => lines_cons_of_inside inside (ih w inner)⟩
    | cons first before =>
      exact ⟨(c :: first) :: before, last, fun w inner => lines_cons_of_inside inside (ih w inner)⟩

theorem isLineEnd_of_lines {b : List Char} {rest : List (List Char)}
    (below : lines b = [] :: rest) : ∀ c, b.head? = some c → isLineEnd c = true := by
  cases b with
  | nil => exact nofun
  | cons c r =>
    rintro _ ⟨⟩
    by_contra inside
    obtain ⟨l, ls, found⟩ := List.exists_cons_of_ne_nil (lines_ne_nil r)
    rw [lines_cons_of_inside (Bool.eq_false_iff.2 inside) found] at below
    cases below

end Text

namespace Document

/-- A text with padding between two parts, of which the second begins with a line end if it is not
empty, has the padding on the last line of the first part. -/
theorem linesOf_padded {u w b : String} {before rest : List String} {l : String}
    (above : linesOf u = before ++ [l]) (below : linesOf b = "" :: rest)
    (whole : u.toList.getLast? = some '\r' → b.toList.head? ≠ some '\n')
    (pad : IsPadding w.toList) : linesOf (u ++ w ++ b) = before ++ (l ++ w) :: rest := by
  have inner : ∀ c ∈ w.toList, isLineEnd c = false := pad.forall rfl rfl
  obtain ⟨before', l', lines⟩ := Text.exists_lines_append u.toList
  obtain ⟨rfl, last⟩ : before'.map String.ofList = before ∧ [String.ofList l'] = [l] := by
    have alone := lines [] fun _ => (nomatch ·)
    rw [List.append_nil, List.append_nil] at alone
    rw [linesOf, alone, List.map_append] at above
    exact List.append_inj' above rfl
  obtain rfl := (List.cons.inj last).1
  obtain ⟨ends, tail⟩ : (∀ c, b.toList.head? = some c → isLineEnd c = true) ∧
      (Text.lines b.toList).tail.map String.ofList = rest := by
    unfold linesOf at below
    cases cut : Text.lines b.toList with
    | nil => exact absurd cut (Text.lines_ne_nil _)
    | cons first others =>
      rw [cut, List.map_cons] at below
      obtain ⟨empty, tail⟩ := List.cons.inj below
      obtain rfl : first = [] := by simpa using empty
      exact ⟨Text.isLineEnd_of_lines cut, tail⟩
  have whole' : (u.toList ++ w.toList).getLast? = some '\r' → b.toList.head? ≠ some '\n' := by
    intro cr
    rw [List.getLast?_append] at cr
    cases found : w.toList.getLast? with
    | none =>
      rw [found] at cr
      exact whole cr
    | some c =>
      rw [found] at cr
      obtain rfl : c = '\r' := Option.some.inj cr
      exact absurd (inner _ (List.mem_of_getLast? found)) (by decide)
  rw [linesOf, String.toList_append, String.toList_append, Text.lines_append_of_ends _ ends whole',
    lines _ inner, List.map_append, tail, List.map_append, List.append_assoc]
  simp

end Document

/-! ## Padded lines -/

namespace Reader

/-- Whether the reader is reading a body. -/
def inBody (r : Reader) : Bool :=
  match r.phase with
  | .body _ => true
  | _ => false

variable {l w : String}

theorem addHeader_append (pad : IsPadding w.toList) (d : Draft) :
    addHeader d (l ++ w) = addHeader d l := by
  unfold addHeader
  rw [String.toList_append, Line.header?_append pad]

/-- Outside a body a padded line is read as the line, unless padding opens a request. -/
theorem step_append_padding (pad : IsPadding w.toList) {r : Reader} (outside : r.inBody = false)
    (closed : ¬ (Line.Opens l.toList w.toList ∧ r.seeks = true)) (n : Nat) :
    r.step n (l ++ w) = r.step n l := by
  obtain ⟨p, doc⟩ := r
  have added (d : Draft) : (⟨.headers (addHeader d (l ++ w)), doc⟩ : Reader) =
      ⟨.headers (addHeader d l), doc⟩ := by rw [addHeader_append pad]
  by_cases opens : Line.Opens l.toList w.toList
  · -- In the header part it does not matter whether a line could begin a request.
    obtain ⟨alone, m, padded⟩ := Line.classify_of_opens pad opens
    unfold step
    rw [alone, padded]
    cases p with
    | seeking pending => exact absurd ⟨opens, rfl⟩ closed
    | headers d => exact added d
    | body d => cases outside
  · unfold step
    rw [Line.classify_append pad opens]
    cases hc : Line.classify l with
    | blank raw =>
      cases p with
      | body d => cases outside
      | _ => rfl
    | request m u raw =>
      obtain ⟨rfl, -⟩ := Line.eq_of_classify_request l m u raw hc
      cases p with
      | seeking pending => rfl
      | headers d => exact added d
      | body d => cases outside
    | text raw =>
      obtain ⟨rfl, -⟩ := Line.eq_of_classify_text l raw hc
      cases p with
      | seeking pending => rfl
      | headers d => exact added d
      | body d => cases outside
    | _ => rfl

/-- Where the reader seeks a request line it passes over a method alone, and begins a request
without a target at the padded line. -/
theorem step_of_opens (pad : IsPadding w.toList) (opens : Line.Opens l.toList w.toList)
    (p : Option String) (doc : Document) (n : Nat) :
    step ⟨.seeking p, doc⟩ n l = ⟨.seeking p, doc⟩ ∧
      ∃ m, step ⟨.seeking p, doc⟩ n (l ++ w) = ⟨.headers ⟨p, m, "", [], [], [], n⟩, doc⟩ := by
  obtain ⟨alone, m, padded⟩ := Line.classify_of_opens pad opens
  unfold step
  rw [alone, padded]
  exact ⟨rfl, m, rfl⟩

end Reader

/-! ## Blocks -/

namespace Block

/-- The lines above the first delimiter. -/
def first (ls : List String) : List String := ls.takeWhile fun l => Line.classify l != .delimiter

theorem inner_first (ls : List String) : ∀ l ∈ first ls, Line.classify l ≠ .delimiter := by
  intro l hl
  have inside := List.mem_takeWhile_imp hl
  exact bne_iff_ne.1 inside

/-- What stands below the first delimiter is read in the same way wherever the reader starts. -/
theorem exists_requests_below (k : Nat) (ls : List String) : ∃ below : List Request, ∀ r : Reader,
    ((r.run (1 + k) ls).close (ls.length + k)).requests =
      ((r.run (1 + k) (first ls)).close ((first ls).length + k)).requests ++ below := by
  cases hd : ls.dropWhile fun l => Line.classify l != .delimiter with
  | nil =>
    have all : first ls = ls := takeWhile_of_dropWhile_eq_nil hd
    rw [all]
    exact ⟨[], fun r => (List.append_nil _).symm⟩
  | cons d rest =>
    obtain ⟨whole, ends⟩ := dropWhile_eq_cons hd
    change ls = first ls ++ d :: rest at whole
    generalize first ls = block at whole
    subst whole
    refine ⟨(Document.ofLines rest).requests.map (·.moved (block.length + k + 1)), fun r => ?_⟩
    have delimits : Line.classify d = .delimiter := by simpa using ends
    rw [Reader.run_append, Reader.run, Reader.step_of_delimiter _ _ d delimits,
      ← Document.requests_close_run_below]
    have first : 1 + k + block.length - 1 = block.length + k := by omega
    have next : 1 + k + block.length + 1 = 1 + (block.length + k + 1) := by omega
    have last : (block ++ d :: rest).length + k = rest.length + (block.length + k + 1) := by
      rw [List.length_append, List.length_cons]
      omega
    rw [first, next, last]

/-- A request without a target is not reported. -/
theorem requests_of_empty_url (doc : Document) {d : Draft} (empty : d.url = "") (n m : Nat)
    {ls : List String} (inner : ∀ l ∈ ls, Line.classify l ≠ .delimiter) :
    ((Reader.run ⟨.headers d, doc⟩ n ls).close m).requests = doc.requests := by
  rw [close_run_headers ls inner]
  unfold Draft.finish?
  dsimp only
  rw [empty]
  exact List.append_nil _

end Block

namespace Document

open Reader

theorem eq_iff (a b : Document) :
    a = b ↔ a.requests = b.requests ∧ a.fileVariables = b.fileVariables := by
  cases a
  cases b
  exact Document.mk.injEq _ _ _ _ ▸ Iff.rfl

theorem ofLines_append_cons (before : List String) (l : String) (rest : List String) :
    ofLines (before ++ l :: rest) =
      (((Reader.start.run 1 before).step (1 + before.length) l).run (1 + (before.length + 1))
        rest).close (rest.length + (before.length + 1)) := by
  have last : (before ++ l :: rest).length = rest.length + (before.length + 1) := by
    rw [List.length_append, List.length_cons]
    omega
  rw [ofLines, Reader.run_append, Reader.run, last, Nat.add_assoc]

/-- Whether a request without a target that begins above these lines takes nothing away from them:
no request of their block, and no value of a file variable. -/
def TakesNothing (r : Reader) (rest : List String) : Prop :=
  (ofLines (Block.first rest)).requests = [] ∧
    writeAll r.document.fileVariables (fileDeclarations true rest) =
      writeAll r.document.fileVariables (fileDeclarations false rest)

variable {before rest : List String} {l : String} {r : Reader}

/-- Reading goes on from a padded line as from the line itself, unless the padding opens a request
that takes something away from the lines below. -/
theorem ofLines_padded_iff {w : String} (pad : IsPadding w.toList)
    (reached : Reader.start.run 1 before = r) (outside : r.inBody = false) :
    ofLines (before ++ (l ++ w) :: rest) = ofLines (before ++ l :: rest) ↔
      (Line.Opens l.toList w.toList → r.seeks = true → TakesNothing r rest) := by
  unfold TakesNothing
  rw [ofLines_append_cons, ofLines_append_cons, reached]
  clear reached
  by_cases opened : Line.Opens l.toList w.toList ∧ r.seeks = true
  case neg =>
    rw [step_append_padding pad outside opened]
    exact iff_of_true rfl fun opens seeks => absurd ⟨opens, seeks⟩ opened
  case pos =>
    obtain ⟨opens, seeks⟩ := opened
    obtain ⟨⟨p⟩ | d | d, doc⟩ := r
    case headers => cases seeks
    case body => cases seeks
    obtain ⟨alone, m, padded⟩ := step_of_opens pad opens p doc (1 + before.length)
    obtain ⟨below, requests⟩ := Block.exists_requests_below (before.length + 1) rest
    have reported : (ofLines (Block.first rest)).requests = [] ↔
        (Block.meaning (Block.first rest)).requests = [] := by
      rw [Block.requests_ofLines _ (Block.inner_first rest)]
    have none_added (qs : List Request) :
        doc.requests ++ below = doc.requests ++ qs ++ below ↔ qs = [] := by simp
    rw [alone, padded, eq_iff, requests, requests,
      Block.requests_of_empty_url doc rfl _ _ (Block.inner_first rest),
      Block.close_run_seeking _ (Block.inner_first rest), close_fileVariables, close_fileVariables,
      run_fileVariables, run_fileVariables, reported]
    constructor
    · rintro ⟨same, values⟩ - -
      exact ⟨List.map_eq_nil_iff.1 ((none_added _).1 same), values.symm⟩
    · intro same
      obtain ⟨none, values⟩ := same opens seeks
      exact ⟨(none_added _).2 (List.map_eq_nil_iff.2 none), values.symm⟩

/-- Padding at the end of a line outside a body leaves the document as it is. Here `u` is the text
up to the end of the line, and `b` is what follows, from the line end on. The only exception is a
method alone where a request line is sought: padded it is a request without a target, which hides
what its block says below. -/
theorem parse_padded_iff {u w b : String} (above : linesOf u = before ++ [l])
    (below : linesOf b = "" :: rest)
    (whole : u.toList.getLast? = some '\r' → b.toList.head? ≠ some '\n')
    (pad : IsPadding w.toList) (reached : Reader.start.run 1 before = r)
    (outside : r.inBody = false) :
    parse (u ++ w ++ b) = parse (u ++ b) ↔
      (Line.Opens l.toList w.toList → r.seeks = true → TakesNothing r rest) := by
  have plain : linesOf (u ++ b) = before ++ l :: rest := by
    have unpadded := linesOf_padded (w := "") above below whole Text.isPadding_nil
    rwa [String.append_empty, String.append_empty] at unpadded
  rw [parse, parse, linesOf_padded above below whole pad, plain]
  exact ofLines_padded_iff pad reached outside

/-- A padded request line below a variable, and a method alone with too little padding. -/
theorem parse_padded_iff_request_line :
    parse ("@a = 1\nPOST /a" ++ " \t" ++ "\r\nA: 1\r\n\r\nbody") =
        parse ("@a = 1\nPOST /a" ++ "\r\nA: 1\r\n\r\nbody") ∧
      parse ("GET" ++ " " ++ "\nGET /b") = parse ("GET" ++ "\nGET /b") := by
  constructor
  · have above : linesOf "@a = 1\nPOST /a" = ["@a = 1"] ++ ["POST /a"] := by decide +kernel
    have below : linesOf "\r\nA: 1\r\n\r\nbody" = "" :: ["A: 1", "", "body"] := by decide +kernel
    have reached : Reader.start.run 1 ["@a = 1"] = ⟨.seeking none, ⟨[], [("a", "1")]⟩⟩ := by
      decide +kernel
    have padded := parse_padded_iff (w := " \t") above below (by decide +kernel) (by decide +kernel)
      reached rfl
    exact padded.2 fun opens => absurd opens (by decide +kernel)
  · have above : linesOf "GET" = [] ++ ["GET"] := by decide +kernel
    have below : linesOf "\nGET /b" = "" :: ["GET /b"] := by decide +kernel
    have padded := parse_padded_iff (w := " ") above below (by decide +kernel) (by decide +kernel)
      rfl rfl
    exact padded.2 fun opens => absurd opens (by decide +kernel)

/-- With more padding the method alone hides the request below it. -/
theorem parse_padded_method_alone :
    Reader.start.inBody = false ∧
      parse ("GET" ++ "  " ++ "\nGET https://h.example/a") = ⟨[], []⟩ ∧
      (parse ("GET" ++ "\nGET https://h.example/a")).requests.map (·.url) =
        ["https://h.example/a"] := by
  decide +kernel

end Document

end HttpScript
