import HttpScript.Proofs.DocumentBlocks
import Mathlib.Data.List.DropRight

/-!
# Meaning of a block

A block is a list of lines without a delimiter. Its first request line divides it: the lines before
give the name of the request and the variables of the file, and the lines after give headers up to
the first blank line, the body below it, and the variables of the request all the way.

    Document.ofLines ls = meaning ls                                  (ofLines_eq_meaning)

The reader passes through its phases once, so each of them has a lemma on what one line does and a
lemma on what a run of lines does.
-/

namespace HttpScript.Block

open Record (writeAll)

/-! ## Lines -/

/-- The name that a line gives to the request below it. -/
def nameOf? (l : String) : Option String :=
  match Line.classify l with
  | .name n => some n
  | _ => none

/-- The variable that a line declares. -/
def variableOf? (l : String) : Option (String × String) :=
  match Line.classify l with
  | .variable n v => some (n, v)
  | _ => none

def isRequest (l : String) : Bool :=
  match Line.classify l with
  | .request _ _ _ => true
  | _ => false

def isBlank (l : String) : Bool :=
  match Line.classify l with
  | .blank _ => true
  | _ => false

/-- The header that a line of the header part holds. -/
def headerOf? (l : String) : Option (String × String) :=
  match Line.classify l with
  | .text _ | .request _ _ _ => Line.header? l.toList
  | _ => none

/-- Whether a line below the header part belongs to the body. -/
def isWritten (l : String) : Bool :=
  match Line.classify l with
  | .blank _ | .text _ | .request _ _ _ => true
  | _ => false

/-! ## Meaning -/

/-- The variables that the lines declare, in order. -/
def declared (ls : List String) : List (String × String) := ls.filterMap variableOf?

/-- The last name that the lines give. -/
def name? (ls : List String) : Option String := (ls.filterMap nameOf?).getLast?

/-- The headers that stand in lines, in order. -/
def headers (ls : List String) : List (String × String) := ls.filterMap headerOf?

/-- The body that lines make up, without the blank ones at the end. -/
def body? (ls : List String) : Option String :=
  match (ls.filter isWritten).rdropWhile isBlank with
  | [] => none
  | kept => some ("\n".intercalate kept)

/-- The lines up to the first blank one. -/
def headerPart (ls : List String) : List String := ls.takeWhile (!isBlank ·)

/-- The lines below the first blank one. -/
def bodyPart (ls : List String) : List String := (ls.dropWhile (!isBlank ·)).drop 1

/-- The request of a request line, given the lines before and after it. -/
def request? (before : List String) (l : String) (after : List String) : Option Request :=
  match Line.classify l with
  | .request method url _ =>
    if url.isEmpty then none
    else some {
      name := name? before
      method := method
      url := url
      headers := writeAll [] (headers (headerPart after))
      body := body? (bodyPart after)
      bindings := writeAll [] (declared after)
      startLine := before.length + 1
      endLine := before.length + 1 + after.length }
  | _ => none

/-- What a block says: at most one request, and the variables before the first request line. -/
def meaning (ls : List String) : Document :=
  let before := ls.takeWhile (!isRequest ·)
  match ls.dropWhile (!isRequest ·) with
  | [] => ⟨[], writeAll [] (declared ls)⟩
  | l :: after => ⟨(request? before l after).toList, writeAll [] (declared before)⟩

/-! ## One line in each phase -/

variable {l : String} {doc : Document} {n : Nat}

theorem step_seeking (p : Option String) (inner : Line.classify l ≠ .delimiter)
    (other : isRequest l = false) :
    Reader.step ⟨.seeking p, doc⟩ n l =
      ⟨.seeking ((nameOf? l).or p),
        { doc with fileVariables := writeAll doc.fileVariables (variableOf? l).toList }⟩ := by
  unfold isRequest at other
  unfold Reader.step nameOf? variableOf?
  cases hc : Line.classify l with
  | delimiter => exact absurd hc inner
  | request m u raw => rw [hc] at other; cases other
  | _ => rfl

theorem step_headers_of_blank (d : Draft) (blank : isBlank l = true) :
    Reader.step ⟨.headers d, doc⟩ n l = ⟨.body d, doc⟩ := by
  unfold isBlank at blank
  unfold Reader.step
  split at blank
  · next hc => rw [hc]
  · cases blank

theorem step_headers (d : Draft) (inner : Line.classify l ≠ .delimiter)
    (other : isBlank l = false) :
    Reader.step ⟨.headers d, doc⟩ n l =
      ⟨.headers { d with
        headers := writeAll d.headers (headerOf? l).toList
        bindings := writeAll d.bindings (variableOf? l).toList }, doc⟩ := by
  have added : Reader.addHeader d l =
      { d with headers := writeAll d.headers (Line.header? l.toList).toList } := by
    unfold Reader.addHeader
    cases Line.header? l.toList <;> rfl
  unfold isBlank at other
  unfold Reader.step headerOf? variableOf?
  cases hc : Line.classify l with
  | delimiter => exact absurd hc inner
  | blank raw => rw [hc] at other; cases other
  | request m u raw =>
    obtain ⟨rfl, -⟩ := Line.eq_of_classify_request l m u raw hc
    exact congrArg (fun d => (⟨.headers d, doc⟩ : Reader)) added
  | text raw =>
    obtain ⟨rfl, -⟩ := Line.eq_of_classify_text l raw hc
    exact congrArg (fun d => (⟨.headers d, doc⟩ : Reader)) added
  | _ => rfl

theorem step_body (d : Draft) (inner : Line.classify l ≠ .delimiter) :
    Reader.step ⟨.body d, doc⟩ n l =
      ⟨.body { d with
        bodyLines := d.bodyLines ++ [l].filter isWritten
        bindings := writeAll d.bindings (variableOf? l).toList }, doc⟩ := by
  have kept : isWritten l = false → d.bodyLines ++ [l].filter isWritten = d.bodyLines := by
    intro h
    rw [List.filter_cons_of_neg (by rw [h]; exact Bool.false_ne_true)]
    exact List.append_nil _
  have added : isWritten l = true → d.bodyLines ++ [l].filter isWritten = d.bodyLines ++ [l] := by
    intro h
    rw [List.filter_cons_of_pos h]
    rfl
  unfold Reader.step variableOf?
  cases hc : Line.classify l with
  | delimiter => exact absurd hc inner
  | blank raw =>
    obtain ⟨rfl, -⟩ := Line.eq_of_classify_blank l raw hc
    rw [added (by rw [isWritten, hc])]
    rfl
  | request m u raw =>
    obtain ⟨rfl, -⟩ := Line.eq_of_classify_request l m u raw hc
    rw [added (by rw [isWritten, hc])]
    rfl
  | text raw =>
    obtain ⟨rfl, -⟩ := Line.eq_of_classify_text l raw hc
    rw [added (by rw [isWritten, hc])]
    rfl
  | _ =>
    rw [kept (by rw [isWritten, hc])]
    rfl

/-! ## Runs in each phase -/

variable (ls : List String) (inner : ∀ l ∈ ls, Line.classify l ≠ .delimiter)

theorem declared_cons (l : String) (ls : List String) :
    declared (l :: ls) = (variableOf? l).toList ++ declared ls := by
  unfold declared
  rw [List.filterMap_cons]
  cases variableOf? l <;> rfl

theorem headers_cons (l : String) (ls : List String) :
    headers (l :: ls) = (headerOf? l).toList ++ headers ls := by
  unfold headers
  rw [List.filterMap_cons]
  cases headerOf? l <;> rfl

theorem name?_cons (l : String) (ls : List String) :
    name? (l :: ls) = (name? ls).or (nameOf? l) := by
  unfold name?
  rw [List.filterMap_cons]
  cases nameOf? l with
  | none => exact (Option.or_none).symm
  | some n =>
    show (n :: ls.filterMap nameOf?).getLast? = _
    rw [List.getLast?_cons]
    cases (ls.filterMap nameOf?).getLast? <;> rfl

include inner

theorem run_seeking (p : Option String) (doc : Document) (n : Nat)
    (other : ∀ l ∈ ls, isRequest l = false) :
    Reader.run ⟨.seeking p, doc⟩ n ls =
      ⟨.seeking ((name? ls).or p),
        { doc with fileVariables := writeAll doc.fileVariables (declared ls) }⟩ := by
  induction ls generalizing p doc n with
  | nil => rfl
  | cons l ls ih =>
    rw [Reader.run, step_seeking p (inner l List.mem_cons_self) (other l List.mem_cons_self),
      ih (fun k hk => inner k (List.mem_cons_of_mem _ hk)) _ _ _
        (fun k hk => other k (List.mem_cons_of_mem _ hk)),
      name?_cons, declared_cons, Record.writeAll_append, Option.or_assoc]

theorem run_headers (d : Draft) (doc : Document) (n : Nat)
    (other : ∀ l ∈ ls, isBlank l = false) :
    Reader.run ⟨.headers d, doc⟩ n ls =
      ⟨.headers { d with
        headers := writeAll d.headers (headers ls)
        bindings := writeAll d.bindings (declared ls) }, doc⟩ := by
  induction ls generalizing d n with
  | nil => rfl
  | cons l ls ih =>
    rw [Reader.run, step_headers d (inner l List.mem_cons_self) (other l List.mem_cons_self),
      ih (fun k hk => inner k (List.mem_cons_of_mem _ hk)) _ _
        (fun k hk => other k (List.mem_cons_of_mem _ hk)),
      headers_cons, declared_cons, Record.writeAll_append, Record.writeAll_append]

theorem run_body (d : Draft) (doc : Document) (n : Nat) :
    Reader.run ⟨.body d, doc⟩ n ls =
      ⟨.body { d with
        bodyLines := d.bodyLines ++ ls.filter isWritten
        bindings := writeAll d.bindings (declared ls) }, doc⟩ := by
  induction ls generalizing d n with
  | nil => rw [List.filter_nil, List.append_nil]; rfl
  | cons l ls ih =>
    have written : (l :: ls).filter isWritten = [l].filter isWritten ++ ls.filter isWritten := by
      rw [← List.filter_append]
      rfl
    rw [Reader.run, step_body d (inner l List.mem_cons_self),
      ih (fun k hk => inner k (List.mem_cons_of_mem _ hk)), declared_cons, Record.writeAll_append,
      written, List.append_assoc]

omit inner

/-! ## The whole block -/

theorem dropWhile_eq_cons {α : Type} {p : α → Bool} {ls rest : List α} {l : α}
    (h : ls.dropWhile p = l :: rest) : ls = ls.takeWhile p ++ l :: rest ∧ p l = false := by
  constructor
  · rw [← h, List.takeWhile_append_dropWhile]
  · have first := List.head?_dropWhile_not p ls
    rw [h] at first
    exact first

theorem takeWhile_of_dropWhile_eq_nil {α : Type} {p : α → Bool} {ls : List α}
    (h : ls.dropWhile p = []) : ls.takeWhile p = ls := by
  have whole := List.takeWhile_append_dropWhile (p := p) (l := ls)
  rwa [h, List.append_nil] at whole

theorem eq_false_of_mem_takeWhile_not {α : Type} {p : α → Bool} {ls : List α} {l : α}
    (h : l ∈ ls.takeWhile (!p ·)) : p l = false := by
  have out := List.mem_takeWhile_imp h
  rwa [Bool.not_eq_true'] at out

theorem declared_append (xs ys : List String) : declared (xs ++ ys) = declared xs ++ declared ys :=
  List.filterMap_append

theorem variableOf?_of_isBlank (l : String) (blank : isBlank l = true) : variableOf? l = none := by
  unfold isBlank at blank
  unfold variableOf?
  split at blank
  · next hc => rw [hc]
  · cases blank

/-- Among the lines of a body, those without a character other than blanks are the blank ones. -/
theorem isBlank_eq_isBlankText (l : String) (written : isWritten l = true) :
    isBlank l = Text.isBlankText l := by
  unfold isWritten at written
  unfold isBlank
  cases hc : Line.classify l with
  | blank raw => exact (Line.eq_of_classify_blank l raw hc).2.symm
  | text raw => exact (Line.eq_of_classify_text l raw hc).2.symm
  | request m u raw => exact (Line.eq_of_classify_request l m u raw hc).2.symm
  | _ => rw [hc] at written; cases written

theorem rdropWhile_isBlank (ls : List String) (written : ∀ l ∈ ls, isWritten l = true) :
    ls.rdropWhile Text.isBlankText = ls.rdropWhile isBlank := by
  induction ls using List.reverseRecOn with
  | nil => rfl
  | append_singleton ls l ih =>
    rw [List.rdropWhile_concat, List.rdropWhile_concat,
      isBlank_eq_isBlankText l (written l (List.mem_append_right _ (List.mem_singleton_self l))),
      ih fun k hk => written k (List.mem_append_left _ hk)]

theorem bodyOfLines_eq_body? (ls : List String) : bodyOfLines (ls.filter isWritten) = body? ls := by
  have same := rdropWhile_isBlank (ls.filter isWritten) fun l hl => (List.mem_filter.1 hl).2
  unfold bodyOfLines body?
  rw [← same]
  rfl

/-- From the request line to the end, the reader takes headers and body where they stand and
variables wherever they stand. -/
theorem close_run_headers (inner : ∀ l ∈ ls, Line.classify l ≠ .delimiter) (d : Draft)
    (doc : Document) (n m : Nat) :
    (Reader.run ⟨.headers d, doc⟩ n ls).close m =
      { doc with requests := doc.requests ++ (Draft.finish? { d with
        headers := writeAll d.headers (headers (headerPart ls))
        bindings := writeAll d.bindings (declared ls)
        bodyLines := d.bodyLines ++ (bodyPart ls).filter isWritten } m).toList } := by
  unfold headerPart bodyPart
  cases hd : ls.dropWhile (!isBlank ·) with
  | nil =>
    have top := takeWhile_of_dropWhile_eq_nil hd
    have other : ∀ l ∈ ls, isBlank l = false := by
      rw [← top]
      exact fun l hl => eq_false_of_mem_takeWhile_not hl
    rw [run_headers ls inner d doc n other, top, List.drop_nil, List.filter_nil, List.append_nil]
    rfl
  | cons b below =>
    obtain ⟨whole, blank⟩ := dropWhile_eq_cons hd
    have other : ∀ l ∈ ls.takeWhile (!isBlank ·), isBlank l = false :=
      fun l hl => eq_false_of_mem_takeWhile_not hl
    rw [Bool.not_eq_false'] at blank
    generalize ls.takeWhile (!isBlank ·) = top at whole other
    subst whole
    have inner_top : ∀ l ∈ top, Line.classify l ≠ .delimiter :=
      fun l hl => inner l (List.mem_append_left _ hl)
    have inner_below : ∀ l ∈ below, Line.classify l ≠ .delimiter :=
      fun l hl => inner l (List.mem_append_right _ (List.mem_cons_of_mem _ hl))
    rw [Reader.run_append, run_headers top inner_top d doc n other, Reader.run,
      step_headers_of_blank _ blank, run_body below inner_below, declared_append, declared_cons,
      variableOf?_of_isBlank b blank, Record.writeAll_append]
    rfl

/-- The request as it is read when a name is pending and its block begins and ends on these
lines. -/
def placed (pending : Option String) (first last : Nat) (q : Request) : Request :=
  { q with name := q.name.or pending, startLine := q.startLine - 1 + first, endLine := last }

/-- While it seeks, the reader adds to the document what a block says. -/
theorem close_run_seeking (inner : ∀ l ∈ ls, Line.classify l ≠ .delimiter) (p : Option String)
    (doc : Document) (n m : Nat) :
    (Reader.run ⟨.seeking p, doc⟩ n ls).close m =
      ⟨doc.requests ++ (meaning ls).requests.map (placed p n m),
        writeAll doc.fileVariables (declared (ls.takeWhile (!isRequest ·)))⟩ := by
  unfold meaning
  dsimp only
  cases hd : ls.dropWhile (!isRequest ·) with
  | nil =>
    have all := takeWhile_of_dropWhile_eq_nil hd
    have other : ∀ l ∈ ls, isRequest l = false := by
      rw [← all]
      exact fun l hl => eq_false_of_mem_takeWhile_not hl
    rw [run_seeking ls inner p doc n other, all, List.map_nil, List.append_nil]
    rfl
  | cons l after =>
    obtain ⟨whole, line⟩ := dropWhile_eq_cons hd
    have other : ∀ l ∈ ls.takeWhile (!isRequest ·), isRequest l = false :=
      fun l hl => eq_false_of_mem_takeWhile_not hl
    rw [Bool.not_eq_false'] at line
    generalize ls.takeWhile (!isRequest ·) = before at whole other
    subst whole
    have inner_before : ∀ l ∈ before, Line.classify l ≠ .delimiter :=
      fun l hl => inner l (List.mem_append_left _ hl)
    have inner_after : ∀ l ∈ after, Line.classify l ≠ .delimiter :=
      fun l hl => inner l (List.mem_append_right _ (List.mem_cons_of_mem _ hl))
    rw [Reader.run_append, run_seeking before inner_before p doc n other, Reader.run]
    unfold isRequest at line
    unfold request? Reader.step
    cases hc : Line.classify l with
    | request method url raw =>
      dsimp only
      rw [close_run_headers after inner_after, List.nil_append, Draft.finish?]
      dsimp only
      rw [bodyOfLines_eq_body?, hc, Nat.add_comm n]
      dsimp only
      split <;> rfl
    | _ => rw [hc] at line; cases line

/-- The request of a block stands where the lines of the block put it. -/
theorem placed_of_mem_meaning {q : Request} (hq : q ∈ (meaning ls).requests) :
    placed none 1 ls.length q = q := by
  unfold meaning at hq
  cases hd : ls.dropWhile (!isRequest ·) with
  | nil =>
    rw [hd] at hq
    cases hq
  | cons l after =>
    rw [hd] at hq
    have length : ls.length = (ls.takeWhile (!isRequest ·)).length + 1 + after.length := by
      have whole := congrArg List.length (dropWhile_eq_cons hd).1
      rw [List.length_append, List.length_cons] at whole
      omega
    generalize ls.takeWhile (!isRequest ·) = before at hq length
    have read : request? before l after = some q := Option.mem_toList.1 hq
    unfold request? at read
    split at read
    · split at read
      · cases read
      · obtain rfl := Option.some.inj read
        unfold placed
        rw [Option.or_none, length]
        rfl
    · cases read

theorem requests_ofLines (inner : ∀ l ∈ ls, Line.classify l ≠ .delimiter) :
    (Document.ofLines ls).requests = (meaning ls).requests := by
  unfold Document.ofLines Reader.start
  rw [close_run_seeking ls inner]
  exact (List.map_congr_left fun q hq => placed_of_mem_meaning ls hq).trans (List.map_id _)

/-- The reader gives every block its meaning. -/
theorem ofLines_eq_meaning (inner : ∀ l ∈ ls, Line.classify l ≠ .delimiter) :
    Document.ofLines ls = meaning ls := by
  have requests := requests_ofLines ls inner
  have declares : (Document.ofLines ls).fileVariables = (meaning ls).fileVariables := by
    unfold Document.ofLines Reader.start
    rw [close_run_seeking ls inner]
    unfold meaning
    dsimp only
    cases hd : ls.dropWhile (!isRequest ·) with
    | nil => rw [takeWhile_of_dropWhile_eq_nil hd]
    | cons l after => rfl
  show Document.mk (Document.ofLines ls).requests (Document.ofLines ls).fileVariables = _
  rw [requests, declares]

/-- A block with a variable in each part, a header, and a body that ends in a blank line. -/
theorem ofLines_eq_meaning_named_post :
    Document.ofLines ["@h = 1", "# @name first", "# @name last", "POST /x HTTP/1.1", "A: 1",
        "@v = 2", "a : 3", "", "one", "@V = 4", "GET /y", " "] =
      ⟨[{ name := some "last", method := "POST", url := "/x", headers := [("A", "3")],
          body := some "one\nGET /y", bindings := [("v", "4")], startLine := 4, endLine := 12 }],
        [("h", "1")]⟩ := by
  rw [ofLines_eq_meaning _ (by decide +kernel)]
  decide +kernel

end HttpScript.Block
