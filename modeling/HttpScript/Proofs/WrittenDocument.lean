import HttpScript.Proofs.BlockMeaning
import HttpScript.Proofs.WrittenLines

/-!
# Documents as they are written

Variables and requests that are written out in the documented form are read back as they were,
whichever line end joins the lines.

    @n = v
    # @name x
    METHOD url HTTP/1.1
    Name: value
                                    an empty line, then the body
    ###                             between two requests

    Document.parse (d.text e) = d.document                            (parse_text)

Every line is read as the form that it is written in, and the reader is in the phase in which that
form counts: so each part of a request has a lemma on what it makes of the reader, and a request is
the composition of its parts.
-/

namespace HttpScript

open Record (writeAll)
open Line (declarationLine nameLine requestLine headerLine)

/-! ## Writing -/

/-- A request that is to be written. The method may be spelled in any case. Without a body, nothing
stands below the headers. -/
structure WrittenRequest where
  name : Option String
  method : String
  url : String
  headers : List (String × String)
  body : Option (List String)

namespace WrittenRequest

/-- What makes a request one that can be written. -/
structure Sound (r : WrittenRequest) : Prop where
  name : ∀ x ∈ r.name, x ≠ "" ∧ x.toList.all (!Text.isBlank ·) = true
  method : r.method.toUpper ∈ Line.methods
  url : r.url ≠ "" ∧ Text.IsValue r.url.toList
  headers : ∀ h ∈ r.headers, Line.IsHeaderName h.1 ∧ Text.IsValue h.2.toList
  distinct : Record.CaseUnique r.headers
  /-- No line of the body is a directive or a comment, and the last one is not blank. -/
  body : ∀ ls ∈ r.body, (∀ l ∈ ls, Text.isBroken l = false ∧ Block.isWritten l = true) ∧
    ∀ l ∈ ls.getLast?, Text.isBlankText l = false

instance (r : WrittenRequest) : Decidable r.Sound :=
  decidable_of_iff ((∀ x ∈ r.name, x ≠ "" ∧ x.toList.all (!Text.isBlank ·) = true) ∧
      r.method.toUpper ∈ Line.methods ∧ (r.url ≠ "" ∧ Text.IsValue r.url.toList) ∧
      (∀ h ∈ r.headers, Line.IsHeaderName h.1 ∧ Text.IsValue h.2.toList) ∧
      ((Record.names r.headers).map Text.lower).Nodup ∧
      ∀ ls ∈ r.body, (∀ l ∈ ls, Text.isBroken l = false ∧ Block.isWritten l = true) ∧
        ∀ l ∈ ls.getLast?, Text.isBlankText l = false)
    ⟨fun ⟨name, method, url, headers, distinct, body⟩ =>
        ⟨name, method, url, headers, distinct, body⟩,
      fun ⟨name, method, url, headers, distinct, body⟩ =>
        ⟨name, method, url, headers, distinct, body⟩⟩

/-- The line above the request line, if the request has a name. -/
def top (r : WrittenRequest) : List String := (r.name.map nameLine).toList

/-- The empty line and the body. -/
def bottom (r : WrittenRequest) : List String :=
  match r.body with
  | none => []
  | some ls => "" :: ls

/-- The lines below the request line. -/
def below (r : WrittenRequest) : List String :=
  r.headers.map (fun h => headerLine h.1 h.2) ++ r.bottom

/-- The lines of the request. -/
def lines (r : WrittenRequest) : List String :=
  r.top ++ requestLine r.method r.url :: r.below

/-- The body that lines make up; no lines are no body. -/
def bodyText? : List String → Option String
  | [] => none
  | ls => some ("\n".intercalate ls)

/-- The request, when its first line has the given number. -/
def request (r : WrittenRequest) (first : Nat) : Request where
  name := r.name
  method := r.method.toUpper
  url := r.url
  headers := Record.ofList r.headers
  body := r.body.bind bodyText?
  bindings := []
  startLine := first + r.top.length
  endLine := first + r.top.length + r.below.length

end WrittenRequest

/-- Declarations of variables, and requests, that are to be written. -/
structure WrittenDocument where
  declarations : List (String × String)
  requests : List WrittenRequest

namespace WrittenDocument

/-- What makes a document one that can be written. -/
structure Sound (d : WrittenDocument) : Prop where
  names : ∀ v ∈ d.declarations, Text.isIdent v.1.toList = true ∧ v.1 ≠ Record.reservedName
  values : ∀ v ∈ d.declarations, Text.IsValue v.2.toList
  distinct : Record.CaseUnique d.declarations
  filled : d.requests ≠ []
  requests : ∀ r ∈ d.requests, r.Sound

instance (d : WrittenDocument) : Decidable d.Sound :=
  decidable_of_iff ((∀ v ∈ d.declarations,
        Text.isIdent v.1.toList = true ∧ v.1 ≠ Record.reservedName) ∧
      (∀ v ∈ d.declarations, Text.IsValue v.2.toList) ∧
      ((Record.names d.declarations).map Text.lower).Nodup ∧ d.requests ≠ [] ∧
      ∀ r ∈ d.requests, r.Sound)
    ⟨fun ⟨names, values, distinct, filled, requests⟩ =>
        ⟨names, values, distinct, filled, requests⟩,
      fun ⟨names, values, distinct, filled, requests⟩ =>
        ⟨names, values, distinct, filled, requests⟩⟩

/-- The lines of requests, with a delimiter between any two. -/
def requestLines : List WrittenRequest → List String
  | [] => []
  | [r] => r.lines
  | r :: rs => r.lines ++ "###" :: requestLines rs

/-- The lines of the document. -/
def lines (d : WrittenDocument) : List String :=
  d.declarations.map (fun v => declarationLine v.1 v.2) ++ requestLines d.requests

/-- The text of the document with `e` at the end of every line but the last. -/
def text (d : WrittenDocument) (e : String) : String := e.intercalate d.lines

/-- The requests, when the first line of the first has the given number. -/
def requestsFrom (first : Nat) : List WrittenRequest → List Request
  | [] => []
  | r :: rs => r.request first :: requestsFrom (first + r.lines.length + 1) rs

/-- The document that was written. -/
def document (d : WrittenDocument) : Document :=
  ⟨requestsFrom (d.declarations.length + 1) d.requests, d.declarations⟩

end WrittenDocument

/-! ## Reading the parts -/

namespace Reader

variable {doc : Document}

theorem run_declarations (vs : List (String × String)) (pending : Option String) (n : Nat)
    (names : ∀ v ∈ vs, Text.isIdent v.1.toList = true)
    (values : ∀ v ∈ vs, Text.IsValue v.2.toList) :
    run ⟨.seeking pending, doc⟩ n (vs.map fun v => declarationLine v.1 v.2) =
      ⟨.seeking pending, { doc with fileVariables := writeAll doc.fileVariables vs }⟩ := by
  induction vs generalizing doc n with
  | nil => rfl
  | cons v vs ih =>
    have line := Line.classify_declarationLine (names v List.mem_cons_self)
      (values v List.mem_cons_self)
    rw [List.map_cons, run, step, line]
    exact ih _ (fun w hw => names w (List.mem_cons_of_mem _ hw))
      (fun w hw => values w (List.mem_cons_of_mem _ hw))

theorem run_headerLines (hs : List (String × String)) (d : Draft) (n : Nat)
    (sound : ∀ h ∈ hs, Line.IsHeaderName h.1 ∧ Text.IsValue h.2.toList) :
    run ⟨.headers d, doc⟩ n (hs.map fun h => headerLine h.1 h.2) =
      ⟨.headers { d with headers := writeAll d.headers hs }, doc⟩ := by
  induction hs generalizing d n with
  | nil => rfl
  | cons h hs ih =>
    obtain ⟨name, value⟩ := sound h List.mem_cons_self
    have added : addHeader d (headerLine h.1 h.2) =
        { d with headers := d.headers.set h.1 h.2 } := by
      rw [addHeader, Line.header?_headerLine name value]
    have line : step ⟨.headers d, doc⟩ n (headerLine h.1 h.2) =
        ⟨.headers { d with headers := d.headers.set h.1 h.2 }, doc⟩ := by
      rcases Line.classify_headerLine name with text | ⟨m, url, request⟩
      · rw [step, text, ← added]
      · rw [step, request, ← added]
    rw [List.map_cons, run, line]
    exact ih _ _ fun k hk => sound k (List.mem_cons_of_mem _ hk)

theorem run_bodyLines (ls : List String) (d : Draft) (n : Nat)
    (written : ∀ l ∈ ls, Block.isWritten l = true) :
    run ⟨.body d, doc⟩ n ls = ⟨.body { d with bodyLines := d.bodyLines ++ ls }, doc⟩ := by
  have inner : ∀ l ∈ ls, Line.classify l ≠ .delimiter := by
    intro l hl delimiter
    have h := written l hl
    rw [Block.isWritten, delimiter] at h
    cases h
  have undeclared : Block.declared ls = [] := by
    rw [Block.declared, List.filterMap_eq_nil_iff]
    intro l hl
    have h := written l hl
    unfold Block.isWritten at h
    unfold Block.variableOf?
    split at h
    · next hc => rw [hc]
    · next hc => rw [hc]
    · next hc => rw [hc]
    · cases h
  rw [Block.run_body ls inner, List.filter_eq_self.2 written, undeclared]
  rfl

end Reader

/-- Nothing is dropped from lines of which the last is not blank. -/
theorem bodyOfLines_of_getLast? (ls : List String)
    (last : ∀ l ∈ ls.getLast?, Text.isBlankText l = false) :
    bodyOfLines ls = WrittenRequest.bodyText? ls := by
  have kept : (ls.reverse.dropWhile Text.isBlankText).reverse = ls := by
    rw [← List.head?_reverse] at last
    cases h : ls.reverse with
    | nil => rw [List.reverse_eq_nil_iff.1 h]; rfl
    | cons l r =>
      rw [h] at last
      rw [List.dropWhile_cons_of_neg (by rw [last l rfl]; exact Bool.false_ne_true), ← h,
        List.reverse_reverse]
  unfold bodyOfLines
  rw [kept]
  cases ls <;> rfl

/-! ## Reading requests -/

namespace WrittenRequest

open Reader

variable {r : WrittenRequest} (sound : r.Sound) (doc : Document) (n : Nat)

include sound

/-- The name above a request line is the name of the request. -/
theorem run_top : run ⟨.seeking none, doc⟩ n r.top = ⟨.seeking r.name, doc⟩ := by
  unfold top
  cases h : r.name with
  | none => rfl
  | some x =>
    obtain ⟨filled, visible⟩ := sound.name x h
    show step ⟨.seeking none, doc⟩ n (nameLine x) = _
    rw [step, Line.classify_nameLine filled visible]

/-- Headers and body complete the draft of a request. -/
theorem close_run_below (d : Draft) (fresh : d.headers = [] ∧ d.bodyLines = []) (m : Nat) :
    (run ⟨.headers d, doc⟩ n r.below).close m =
      { doc with requests := doc.requests ++ (Draft.finish? { d with
        headers := Record.ofList r.headers, bodyLines := r.body.getD [] } m).toList } := by
  obtain ⟨name, method, url, headers, bindings, bodyLines, start⟩ := d
  obtain ⟨rfl, rfl⟩ : headers = [] ∧ bodyLines = [] := fresh
  have stored : ∀ h ∈ r.headers, h.1 ≠ Record.reservedName :=
    fun h hh => (sound.headers h hh).1.stored
  unfold below bottom
  rw [run_append, run_headerLines _ _ _ sound.headers]
  dsimp only
  rw [Record.writeAll_eq_ofList sound.distinct stored]
  cases h : r.body with
  | none => rfl
  | some ls =>
    have blank : Block.isBlank "" = true := by decide +kernel
    have written := fun l hl => ((sound.body ls h).1 l hl).2
    show (run (step _ _ "") _ ls).close m = _
    rw [Block.step_headers_of_blank _ blank, run_bodyLines ls _ _ written]
    rfl

/-- A request is read as it was written. -/
theorem close_run_lines :
    (run ⟨.seeking none, doc⟩ n r.lines).close (n + r.top.length + r.below.length) =
      { doc with requests := doc.requests ++ [r.request n] } := by
  have line := Line.classify_requestLine sound.method sound.url.1 sound.url.2
  have body : bodyOfLines (r.body.getD []) = r.body.bind bodyText? := by
    cases h : r.body with
    | none => rfl
    | some ls => exact bodyOfLines_of_getLast? ls (sound.body ls h).2
  have url : r.url.isEmpty = false := by
    rw [Bool.eq_false_iff]
    exact fun h => sound.url.1 (String.isEmpty_iff.1 h)
  unfold lines
  rw [run_append, run_top sound, run, step, line]
  dsimp only
  rw [close_run_below sound _ _ _ ⟨rfl, rfl⟩, Draft.finish?]
  dsimp only
  rw [url, body]
  rfl

omit sound in
theorem length_lines : r.lines.length = r.top.length + (r.below.length + 1) := by
  unfold lines
  rw [List.length_append, List.length_cons]

/-- Every line of a request is one line. -/
theorem isBroken_of_mem_lines : ∀ l ∈ r.lines, Text.isBroken l = false := by
  unfold lines top below bottom
  intro l hl
  rcases List.mem_append.1 hl with hl | hl
  · obtain ⟨x, hx, rfl⟩ := Option.map_eq_some_iff.1 (Option.mem_toList.1 hl)
    exact Line.isBroken_nameLine (sound.name x hx).2
  rcases List.mem_cons.1 hl with rfl | hl
  · exact Line.isBroken_requestLine sound.method sound.url.2
  rcases List.mem_append.1 hl with hl | hl
  · obtain ⟨h, hh, rfl⟩ := List.mem_map.1 hl
    exact Line.isBroken_headerLine (sound.headers h hh).1 (sound.headers h hh).2
  · cases hb : r.body with
    | none =>
      rw [hb] at hl
      cases hl
    | some ls =>
      rw [hb] at hl
      rcases List.mem_cons.1 hl with rfl | hl
      · rfl
      · exact ((sound.body ls hb).1 l hl).1

end WrittenRequest

/-! ## Reading documents -/

namespace WrittenDocument

open Reader

/-- Requests with delimiters between them are read one after the other. -/
theorem close_run_requestLines (rs : List WrittenRequest) (filled : rs ≠ [])
    (sound : ∀ r ∈ rs, r.Sound) (doc : Document) (n : Nat) :
    (run ⟨.seeking none, doc⟩ n (requestLines rs)).close (n + (requestLines rs).length - 1) =
      { doc with requests := doc.requests ++ requestsFrom n rs } := by
  induction rs generalizing doc n with
  | nil => exact absurd rfl filled
  | cons r rs ih =>
    have first := WrittenRequest.close_run_lines (sound r List.mem_cons_self) doc n
    have length := r.length_lines
    cases rs with
    | nil =>
      have last : n + r.lines.length - 1 = n + r.top.length + r.below.length := by omega
      show (run ⟨.seeking none, doc⟩ n r.lines).close (n + r.lines.length - 1) = _
      rw [last, first]
      rfl
    | cons r' rs =>
      have delimiter : Line.classify "###" = .delimiter :=
        Line.classify_of_delimiter _ List.prefix_rfl
      have end_ : n + r.lines.length - 1 = n + r.top.length + r.below.length := by omega
      have last : n + (requestLines (r :: r' :: rs)).length - 1 =
          n + r.lines.length + 1 + (requestLines (r' :: rs)).length - 1 := by
        show n + (r.lines ++ "###" :: requestLines (r' :: rs)).length - 1 = _
        rw [List.length_append, List.length_cons]
        omega
      rw [last]
      show (run ⟨.seeking none, doc⟩ n (r.lines ++ "###" :: requestLines (r' :: rs))).close _ = _
      rw [run_append, run, step_of_delimiter _ _ _ delimiter, end_, first,
        ih (List.cons_ne_nil _ _) (fun k hk => sound k (List.mem_cons_of_mem _ hk))]
      show Document.mk _ _ = Document.mk _ _
      rw [List.append_assoc]
      rfl

theorem isBroken_of_mem_requestLines (rs : List WrittenRequest) (sound : ∀ r ∈ rs, r.Sound) :
    ∀ l ∈ requestLines rs, Text.isBroken l = false := by
  induction rs with
  | nil => exact nofun
  | cons r rs ih =>
    have first := WrittenRequest.isBroken_of_mem_lines (sound r List.mem_cons_self)
    cases rs with
    | nil => exact first
    | cons r' rs =>
      intro l hl
      rcases List.mem_append.1 hl with hl | hl
      · exact first l hl
      rcases List.mem_cons.1 hl with rfl | hl
      · rfl
      · exact ih (fun k hk => sound k (List.mem_cons_of_mem _ hk)) l hl

variable {d : WrittenDocument} (sound : d.Sound)

include sound

theorem lines_ne_nil : d.lines ≠ [] := by
  intro h
  have none := (List.append_eq_nil_iff.1 h).2
  cases hr : d.requests with
  | nil => exact sound.filled hr
  | cons r rs =>
    rw [hr] at none
    have filled : r.lines ≠ [] := List.append_ne_nil_of_right_ne_nil _ (List.cons_ne_nil _ _)
    cases rs with
    | nil => exact filled none
    | cons _ _ => exact filled (List.append_eq_nil_iff.1 none).1

theorem isBroken_of_mem_lines : ∀ l ∈ d.lines, Text.isBroken l = false := by
  intro l hl
  rcases List.mem_append.1 hl with hl | hl
  · obtain ⟨v, hv, rfl⟩ := List.mem_map.1 hl
    exact Line.isBroken_declarationLine (sound.names v hv).1 (sound.values v hv)
  · exact isBroken_of_mem_requestLines _ sound.requests l hl

theorem ofLines_lines : Document.ofLines d.lines = d.document := by
  have kept : writeAll [] d.declarations = d.declarations := by
    apply Record.writeAll_eq_self sound.distinct fun v hv => (sound.names v hv).2
    intro v hv
    have plain := Line.index?_of_isIdent _ (sound.names v hv).1
    rwa [String.ofList_toList] at plain
  have length :
      d.lines.length = 1 + d.declarations.length + (requestLines d.requests).length - 1 := by
    unfold lines
    rw [List.length_append, List.length_map]
    omega
  unfold Document.ofLines
  rw [length]
  unfold lines Reader.start
  rw [run_append, run_declarations _ _ _ (fun v hv => (sound.names v hv).1) sound.values,
    List.length_map, kept, close_run_requestLines _ sound.filled sound.requests, Nat.add_comm 1]
  rfl

omit sound

/-- **The documented form is read back.** Variables and requests that are written out, with LF,
with CR LF or with CR between the lines, are read as the variables and requests that they are. -/
theorem parse_text (d : WrittenDocument) (sound : d.Sound) (e : String)
    (ends : e ∈ Text.lineEnds) : Document.parse (d.text e) = d.document := by
  unfold Document.parse text
  rw [Document.linesOf_intercalate ends (lines_ne_nil sound) (isBroken_of_mem_lines sound)]
  exact ofLines_lines sound

/-- A named request with a body whose lines look like other forms, and one that is a line only. -/
def login : WrittenDocument where
  declarations := [("host", "a.b")]
  requests := [
    ⟨some "login", "Post", "/x HTTP/1.0", [("Accept", "*/*"), ("GET", "")],
      some ["GET /y", "", "a: b"]⟩,
    ⟨none, "get", "/z", [], none⟩]

theorem parse_text_login :
    login.Sound ∧ "\r\n" ∈ Text.lineEnds ∧
      Document.parse (login.text "\r\n") = login.document := by
  have sound : login.Sound := by decide +kernel
  have ends : "\r\n" ∈ Text.lineEnds := by decide
  exact ⟨sound, ends, parse_text login sound "\r\n" ends⟩

end WrittenDocument

end HttpScript
