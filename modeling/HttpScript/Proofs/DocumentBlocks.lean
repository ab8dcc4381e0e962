import HttpScript.Document
import HttpScript.Proofs.Lines
import HttpScript.Proofs.RecordMerge

/-!
# Blocks of a document

A delimiter line cuts a document in two. The requests above it are those of the text above, and the
requests below it those of the text below, further down by the lines that stand before them.

    (parse (a ++ "\n" ++ d ++ "\n" ++ b)).requests
      = (parse a).requests ++ (parse b).requests.map (·.moved ((linesOf a).length + 1))

File variables of both parts end in one record. The declarations below are written into the record
of those above, which is writing the record of the text below unless that record has lost one
(`parse_append_delimiter`).
-/

namespace HttpScript

open Record (writeAll lostWrite? firstNamed? reservedName)

/-! ## Further down -/

/-- The request as it stands `k` lines further down. -/
def Request.moved (k : Nat) (r : Request) : Request :=
  { r with startLine := r.startLine + k, endLine := r.endLine + k }

/-- The draft as it stands `k` lines further down. -/
def Draft.moved (k : Nat) (d : Draft) : Draft := { d with startLine := d.startLine + k }

/-- The phase of a reader that is `k` lines further down. -/
def Phase.moved (k : Nat) : Phase → Phase
  | .seeking pending => .seeking pending
  | .headers d => .headers (d.moved k)
  | .body d => .body (d.moved k)

theorem Draft.finish?_moved (k : Nat) (d : Draft) (endLine : Nat) :
    (d.moved k).finish? (endLine + k) = (d.finish? endLine).map (·.moved k) := by
  unfold Draft.finish?
  show (if d.url.isEmpty then none else _) = _
  split <;> rfl

namespace Reader

/-! ## Runs -/

theorem run_append (r : Reader) (n : Nat) (xs ys : List String) :
    r.run n (xs ++ ys) = (r.run n xs).run (n + xs.length) ys := by
  induction xs generalizing r n with
  | nil => rfl
  | cons x xs ih =>
    show (r.step n x).run (n + 1) (xs ++ ys) = ((r.step n x).run (n + 1) xs).run _ ys
    rw [ih, List.length_cons, Nat.add_assoc, Nat.add_comm 1]

/-- A delimiter ends the request and leaves nothing behind but the document. -/
theorem step_of_delimiter (r : Reader) (n : Nat) (l : String)
    (h : Line.classify l = .delimiter) : r.step n l = ⟨.seeking none, r.close (n - 1)⟩ := by
  unfold step
  rw [h]

/-- `s` reads `k` lines further down what `r` reads, with `before` in front of its requests. -/
structure Follows (k : Nat) (before : List Request) (r s : Reader) : Prop where
  phase : s.phase = r.phase.moved k
  requests : s.document.requests = before ++ r.document.requests.map (·.moved k)

theorem close_requests_of_follows (k : Nat) (before : List Request) (r s : Reader) (n : Nat)
    (h : Follows k before r s) :
    (s.close (n + k)).requests = before ++ (r.close n).requests.map (·.moved k) := by
  obtain ⟨phase, requests⟩ := h
  unfold close
  rw [phase]
  have finished : ∀ d : Draft, s.document.requests ++ ((d.moved k).finish? (n + k)).toList =
      before ++ (r.document.requests ++ (d.finish? n).toList).map (·.moved k) := by
    intro d
    rw [Draft.finish?_moved, requests, List.map_append, List.append_assoc]
    cases d.finish? n <;> rfl
  cases r.phase with
  | seeking pending => exact requests
  | headers d => exact finished d
  | body d => exact finished d

theorem addHeader_moved (k : Nat) (d : Draft) (raw : String) :
    addHeader (d.moved k) raw = (addHeader d raw).moved k := by
  unfold addHeader
  cases Line.header? raw.toList <;> rfl

/-- One line keeps readers together that read the same further down. -/
theorem step_follows (k : Nat) (before : List Request) (r s : Reader) (n : Nat) (l : String)
    (h : Follows k before r s) (pos : 1 ≤ n) :
    Follows k before (r.step n l) (s.step (n + k) l) := by
  have earlier : n + k - 1 = n - 1 + k := by omega
  have closed := close_requests_of_follows k before r s (n - 1) h
  obtain ⟨phase, requests⟩ := h
  obtain ⟨p, doc⟩ := r
  obtain ⟨_, doc'⟩ := s
  obtain rfl : _ = p.moved k := phase
  have added : ∀ d raw, Phase.headers (addHeader (d.moved k) raw) =
      (Phase.headers (addHeader d raw)).moved k := fun d raw => by rw [addHeader_moved]; rfl
  unfold step
  cases Line.classify l with
  | delimiter => exact ⟨rfl, by rw [earlier]; exact closed⟩
  | comment => exact ⟨rfl, requests⟩
  | name _ => cases p <;> exact ⟨rfl, requests⟩
  | «variable» _ _ => cases p <;> exact ⟨rfl, requests⟩
  | blank _ => cases p <;> exact ⟨rfl, requests⟩
  | request _ _ raw =>
    cases p with
    | seeking _ => exact ⟨rfl, requests⟩
    | headers d => exact ⟨added d raw, requests⟩
    | body _ => exact ⟨rfl, requests⟩
  | text raw =>
    cases p with
    | seeking _ => exact ⟨rfl, requests⟩
    | headers d => exact ⟨added d raw, requests⟩
    | body _ => exact ⟨rfl, requests⟩

theorem run_follows (k : Nat) (before : List Request) (r s : Reader) (n : Nat) (ls : List String)
    (h : Follows k before r s) (pos : 1 ≤ n) :
    Follows k before (r.run n ls) (s.run (n + k) ls) := by
  induction ls generalizing r s n with
  | nil => exact h
  | cons l ls ih =>
    show Follows k before ((r.step n l).run (n + 1) ls) ((s.step (n + k) l).run (n + k + 1) ls)
    rw [Nat.add_right_comm]
    exact ih _ _ _ (step_follows k before r s n l h pos) (Nat.le_add_left 1 n)

/-! ## File variables -/

/-- Whether the reader seeks a request line. -/
def seeks (r : Reader) : Bool :=
  match r.phase with
  | .seeking _ => true
  | _ => false

/-- The variables that lines declare for the file, in order: those that no request line precedes
since the last delimiter. `seeks` tells whether none precedes the lines. -/
def fileDeclarations : (seeks : Bool) → List String → List (String × String)
  | _, [] => []
  | seeks, l :: ls => match Line.classify l with
    | .delimiter => fileDeclarations true ls
    | .request _ _ _ => fileDeclarations false ls
    | .variable n v =>
      if seeks then (n, v) :: fileDeclarations seeks ls else fileDeclarations seeks ls
    | _ => fileDeclarations seeks ls

/-- A run writes into the file variables what the lines declare for the file. -/
theorem run_fileVariables (r : Reader) (n : Nat) (ls : List String) :
    (r.run n ls).document.fileVariables =
      writeAll r.document.fileVariables (fileDeclarations r.seeks ls) := by
  induction ls generalizing r n with
  | nil => rfl
  | cons l ls ih =>
    show ((r.step n l).run (n + 1) ls).document.fileVariables = _
    rw [ih]
    obtain ⟨p, doc⟩ := r
    rw [fileDeclarations, step]
    cases Line.classify l with
    | delimiter => cases p <;> rfl
    | comment => rfl
    | name _ => cases p <;> rfl
    | «variable» _ _ => cases p <;> rfl
    | blank _ => cases p <;> rfl
    | request _ _ raw => cases p <;> rfl
    | text raw => cases p <;> rfl

theorem index?_of_mem_fileDeclarations (seeks : Bool) (ls : List String) :
    ∀ e ∈ fileDeclarations seeks ls, Record.index? e.1 = none := by
  induction ls generalizing seeks with
  | nil => exact nofun
  | cons l ls ih =>
    intro e he
    unfold fileDeclarations at he
    cases hc : Line.classify l with
    | «variable» n v =>
      rw [hc] at he
      dsimp only at he
      split at he
      · rcases List.mem_cons.mp he with rfl | he
        · exact Line.index?_of_classify_variable l n v hc
        · exact ih _ e he
      · exact ih _ e he
    | _ =>
      rw [hc] at he
      exact ih _ e he

end Reader

namespace Document

open Reader

/-! ## A delimiter between two texts -/

theorem close_fileVariables (r : Reader) (n : Nat) :
    (r.close n).fileVariables = r.document.fileVariables := by
  unfold close
  cases r.phase <;> rfl

theorem fileVariables_ofLines (ls : List String) :
    (ofLines ls).fileVariables = writeAll [] (fileDeclarations true ls) := by
  rw [ofLines, close_fileVariables, run_fileVariables]
  rfl

/-- Below a delimiter on line `k` the reader adds the requests of the lines there, further down. -/
theorem requests_close_run_below (doc : Document) (k : Nat) (ls : List String) :
    ((Reader.run ⟨.seeking none, doc⟩ (1 + k) ls).close (ls.length + k)).requests =
      doc.requests ++ (ofLines ls).requests.map (·.moved k) := by
  have follows : Follows k doc.requests Reader.start ⟨.seeking none, doc⟩ :=
    ⟨rfl, (List.append_nil _).symm⟩
  exact close_requests_of_follows _ _ _ _ _ (run_follows _ _ _ _ 1 ls follows (Nat.le_refl 1))

/-- What a delimiter line divides is read as two documents, the second further down. -/
theorem ofLines_append_delimiter (as bs : List String) (d : String)
    (delimits : Line.classify d = .delimiter) :
    ofLines (as ++ d :: bs) =
      ⟨(ofLines as).requests ++ (ofLines bs).requests.map (·.moved (as.length + 1)),
        writeAll (ofLines as).fileVariables (fileDeclarations true bs)⟩ := by
  have run : Reader.start.run 1 (as ++ d :: bs) =
      Reader.run ⟨.seeking none, ofLines as⟩ (1 + (as.length + 1)) bs := by
    rw [run_append]
    show ((Reader.start.run 1 as).step (1 + as.length) d).run (1 + as.length + 1) bs = _
    rw [step_of_delimiter _ _ d delimits, Nat.add_sub_cancel_left]
    rfl
  have last : (as ++ d :: bs).length = bs.length + (as.length + 1) := by
    rw [List.length_append, List.length_cons]
    omega
  have requests := requests_close_run_below (ofLines as) (as.length + 1) bs
  rw [ofLines, run, last]
  have declared := run_fileVariables ⟨.seeking none, ofLines as⟩ (1 + (as.length + 1)) bs
  rw [← close_fileVariables _ (bs.length + (as.length + 1))] at declared
  exact congr (congrArg Document.mk requests) declared

theorem linesOf_append (a b : String) (whole : a.toList.getLast? ≠ some '\r') :
    linesOf (a ++ "\n" ++ b) = linesOf a ++ linesOf b := by
  unfold linesOf
  rw [String.toList_append, String.toList_append, List.append_assoc]
  show (Text.lines (a.toList ++ '\n' :: b.toList)).map String.ofList = _
  rw [Text.lines_append _ _ whole, List.map_append]

theorem linesOf_line (d : String) (no_lf : '\n' ∉ d.toList) (no_cr : '\r' ∉ d.toList) :
    linesOf d = [d] := by
  unfold linesOf
  rw [Text.lines_of_line _ no_lf no_cr, List.map_singleton, String.ofList_toList]

/-- The last value that a text declares for the reserved name in the file, when the record of its
file variables has not stored any. -/
def lostFileVariable? (s : String) : Option String :=
  lostWrite? (fileDeclarations true (linesOf s))

/-- Blocks are independent: of the text above a delimiter nothing reaches the requests below it, and
the file variables below are written into those above. Writing the record of the text below comes
to the same exactly when that text has lost no value that differs from what is declared above. -/
theorem parse_append_delimiter (a d b : String) (whole : a.toList.getLast? ≠ some '\r')
    (marked : "###".toList <+: d.toList) (no_lf : '\n' ∉ d.toList) (no_cr : '\r' ∉ d.toList) :
    (parse (a ++ "\n" ++ d ++ "\n" ++ b)).requests =
      (parse a).requests ++ (parse b).requests.map (·.moved ((linesOf a).length + 1)) ∧
    (parse (a ++ "\n" ++ d ++ "\n" ++ b)).fileVariables =
      writeAll (parse a).fileVariables (fileDeclarations true (linesOf b)) ∧
    ((parse (a ++ "\n" ++ d ++ "\n" ++ b)).fileVariables =
        writeAll (parse a).fileVariables (parse b).fileVariables ↔
      ∀ x y, lostFileVariable? b = some x →
        firstNamed? reservedName (parse a).fileVariables = some y → x = y) := by
  have whole' : (a ++ "\n" ++ d).toList.getLast? ≠ some '\r' := by
    intro h
    rw [String.toList_append, List.getLast?_append] at h
    cases hd : d.toList.getLast? with
    | none =>
      rw [List.getLast?_eq_none_iff] at hd
      rw [hd] at marked
      exact absurd (List.prefix_nil.1 marked) (by decide)
    | some c =>
      rw [hd] at h
      obtain rfl : c = '\r' := Option.some.inj h
      exact no_cr (List.mem_of_getLast? hd)
  have cut : linesOf (a ++ "\n" ++ d ++ "\n" ++ b) = linesOf a ++ d :: linesOf b := by
    rw [linesOf_append _ b whole', linesOf_append a d whole, linesOf_line d no_lf no_cr,
      List.append_assoc]
    rfl
  have read := ofLines_append_delimiter (linesOf a) (linesOf b) d
    (Line.classify_of_delimiter d marked)
  have written : (parse (a ++ "\n" ++ d ++ "\n" ++ b)).fileVariables =
      writeAll (parse a).fileVariables (fileDeclarations true (linesOf b)) := by
    rw [parse, cut, read]
    rfl
  have unique : Record.CaseUnique (parse a).fileVariables := by
    rw [parse, fileVariables_ofLines]
    exact Record.caseUnique_writeAll Record.caseUnique_nil _
  refine ⟨?_, written, ?_⟩
  · rw [parse, cut, read]
    rfl
  · have below : (parse b).fileVariables = writeAll [] (fileDeclarations true (linesOf b)) :=
      fileVariables_ofLines (linesOf b)
    rw [written, below]
    exact Record.writeAll_writeAll_iff unique _ (index?_of_mem_fileDeclarations true (linesOf b))

/-- Two requests with a delimiter between them, and a file variable that both texts declare. -/
theorem parse_append_delimiter_two_requests :
    ((parse ("@h = 1\nGET /a" ++ "\n" ++ "### next" ++ "\n" ++ "@H = 2\nPOST /b")).requests =
      (parse "@h = 1\nGET /a").requests ++ (parse "@H = 2\nPOST /b").requests.map (·.moved 3)) ∧
    (parse ("@h = 1\nGET /a" ++ "\n" ++ "### next" ++ "\n" ++ "@H = 2\nPOST /b")).fileVariables =
      writeAll (parse "@h = 1\nGET /a").fileVariables (parse "@H = 2\nPOST /b").fileVariables := by
  obtain ⟨requests, -, merged⟩ := parse_append_delimiter "@h = 1\nGET /a" "### next"
    "@H = 2\nPOST /b" (by decide +kernel) (by decide +kernel) (by decide +kernel)
    (by decide +kernel)
  have kept : lostFileVariable? "@H = 2\nPOST /b" = none := by decide +kernel
  refine ⟨requests, merged.2 fun x _ lost _ => ?_⟩
  rw [kept] at lost
  cases lost

/-- The text below loses its declaration of the reserved name, which counts where another spelling
of the name has been declared above. -/
theorem parse_append_delimiter_lost_declaration :
    (parse ("@__PROTO__ = 0" ++ "\n" ++ "###" ++ "\n" ++ "@__proto__ = 1")).fileVariables ≠
      writeAll (parse "@__PROTO__ = 0").fileVariables (parse "@__proto__ = 1").fileVariables := by
  decide +kernel

end Document

end HttpScript
