import HttpScript.Proofs.Placeholder
import HttpScript.Proofs.RecordMerge
import HttpScript.Resolver

/-!
# Precedence of variables

Whatever was done with a resolver before, a placeholder stands for the first value that one of six
layers has for its name: the variables of the request, those of the file, the variables that were
set, the selected section of the current document, its shared section, and the variables of the
configuration. What counts of the operations before is the document loaded last, the environment
selected last, and the variables set (`describes_run`).

    lookup ambient own file (run ops (start env base)).bindings n
      = (layers own file env base ops).value? n ↔ ¬ (layers own file env base ops).Loses n

A name is lost where it is a spelling of the reserved name and the value that counts for it was set
or configured under exactly that name, which no assignment stores.
-/

namespace HttpScript

open Text (lower)
open Record (firstNamed? lastNamed? storable storedWrites storedFills writeAll fillAll reservedName)

/-! ## Documents -/

namespace Environments

/-- The entries of a section; a section that is not there has none. -/
def entries (d : Environments) (name : String) : Record String := (d.get? name).getD []

/-- No section of a document has a variable of the reserved name. -/
def Stored (d : Environments) : Prop := ∀ section_ ∈ d, ∀ e ∈ section_.2, e.1 ≠ reservedName

theorem textEntries_stored (es : Record (Json Binary64)) :
    ∀ e ∈ textEntries es, e.1 ≠ reservedName := by
  unfold textEntries
  refine List.foldlRecOn (motive := fun r : Record String => ∀ e ∈ r, e.1 ≠ reservedName) es _
    (fun e he => absurd he List.not_mem_nil) fun r free e _ => ?_
  split
  · exact Record.ne_reserved_of_mem_assign r free _ _
  · exact free

theorem ofJson_stored (source : String) (v : Json Binary64) (d : Environments)
    (h : ofJson source v = .ok d) : d.Stored := by
  unfold ofJson at h
  split at h
  · cases h
  · obtain rfl := Except.ok.inj h
    intro part hp
    obtain ⟨e, -, rfl⟩ := List.mem_map.mp hp
    exact textEntries_stored e.2

theorem load_stored (tree : FileTree) (base : Path) (name : String) (d : Environments)
    (h : load tree base name = .ok d) : d.Stored := by
  unfold load at h
  split at h
  · next content _ =>
    cases hp : parse name content with
    | error e => rw [hp] at h; cases h
    | ok d' =>
      rw [hp] at h
      obtain rfl := Except.ok.inj h
      unfold parse at hp
      split at hp
      · cases hp
      · exact ofJson_stored _ _ _ hp
  · obtain rfl := Except.ok.inj h
    exact nofun
  · cases h

theorem ne_reserved_of_mem_entries (d : Environments) (h : d.Stored) (name : String) :
    ∀ e ∈ d.entries name, e.1 ≠ reservedName := by
  unfold entries Record.get?
  cases hl : d.lookup name with
  | none => exact nofun
  | some es =>
    obtain ⟨before, after, rfl, -⟩ := List.lookup_eq_some_iff.1 hl
    exact h (name, es) (List.mem_append_right _ List.mem_cons_self)

end Environments

namespace Resolver

/-! ## Runs -/

/-- What can be done with a resolver. -/
inductive Operation where
  | loadDocument (v : Json Binary64)
  | loadFile (tree : FileTree) (base : Path) (name : String)
  | setEnvironment (name : String)
  | setVariable (name value : String)
  | resolve (ambient : Ambient) (own file : Record String) (s : String)

/-- The resolver after an operation. One that fails to take over a document is as before. -/
def apply (r : Resolver) : Operation → Resolver
  | .loadDocument v => match r.loadDocument v with
    | .ok r => r
    | .error _ => r
  | .loadFile tree base name => (r.loadFile tree base name).1
  | .setEnvironment name => r.setEnvironment name
  | .setVariable name value => r.setVariable name value
  | .resolve _ _ _ _ => r

/-- The resolver after operations, one after the other. -/
def run (ops : List Operation) (r : Resolver) : Resolver := ops.foldl apply r

/-- The document that an operation makes the current one. A load that fails leaves an empty one,
and JSON that is no document leaves the current one. -/
def Operation.document? : Operation → Option Environments
  | .loadDocument v => (Environments.ofJson Environments.memorySource v).toOption
  | .loadFile tree base name => some ((Environments.load tree base name).toOption.getD [])
  | _ => none

/-- The environment that an operation selects. -/
def Operation.environment? : Operation → Option String
  | .setEnvironment name => some (if name.isEmpty then Environments.defaultName else name)
  | _ => none

/-- The variable that an operation sets. -/
def Operation.setting? : Operation → Option (String × String)
  | .setVariable name value => some (name, value)
  | _ => none

/-- The current document after operations. -/
def currentDocument (ops : List Operation) : Environments :=
  (ops.filterMap (·.document?)).getLast?.getD []

/-- The current environment after operations on a resolver that began in `env`. -/
def currentEnvironment (env : String) (ops : List Operation) : String :=
  (ops.filterMap (·.environment?)).getLast?.getD env

/-- The variables that operations set, in order. -/
def variablesSet (ops : List Operation) : List (String × String) := ops.filterMap (·.setting?)

/-- The state of a resolver that began with `env` and `base`, told by the operations since. -/
structure Describes (env : String) (base : Record String) (ops : List Operation) (r : Resolver) :
    Prop where
  environments : r.environments = currentDocument ops
  environment : r.environment = currentEnvironment env ops
  base : r.base = base
  overrides : r.overrides = writeAll [] (variablesSet ops)
  stored : r.environments.Stored

theorem getLast?_filterMap_concat {α β : Type} (f : α → Option β) (xs : List α) (x : α) :
    ((xs ++ [x]).filterMap f).getLast? = (f x).or (xs.filterMap f).getLast? := by
  rw [List.filterMap_append, List.getLast?_append]
  unfold List.filterMap
  cases f x <;> rfl

theorem currentDocument_concat (ops : List Operation) (op : Operation) :
    currentDocument (ops ++ [op]) = op.document?.getD (currentDocument ops) := by
  unfold currentDocument
  rw [getLast?_filterMap_concat]
  cases op.document? <;> rfl

theorem currentEnvironment_concat (env : String) (ops : List Operation) (op : Operation) :
    currentEnvironment env (ops ++ [op]) = op.environment?.getD (currentEnvironment env ops) := by
  unfold currentEnvironment
  rw [getLast?_filterMap_concat]
  cases op.environment? <;> rfl

theorem writeAll_variablesSet_concat (ops : List Operation) (op : Operation) :
    writeAll [] (variablesSet (ops ++ [op])) =
      writeAll (writeAll [] (variablesSet ops)) op.setting?.toList := by
  unfold variablesSet
  rw [List.filterMap_append, Record.writeAll_append]
  unfold List.filterMap
  cases op.setting? <;> rfl

/-- An operation on a resolver that operations describe leaves one that they and it describe. -/
theorem describes_apply (env : String) (base : Record String) (ops : List Operation)
    (r : Resolver) (h : Describes env base ops r) (op : Operation) :
    Describes env base (ops ++ [op]) (r.apply op) := by
  obtain ⟨environments, environment, below, overrides, stored⟩ := h
  -- an operation changes at most one of the fields, and says what that becomes
  have same : ∀ r' : Resolver, r'.environments = op.document?.getD r.environments →
      r'.environment = op.environment?.getD r.environment → r'.base = r.base →
      r'.overrides = writeAll r.overrides op.setting?.toList → r'.environments.Stored →
      Describes env base (ops ++ [op]) r' := by
    intro r' hd he hb hv hs
    refine ⟨?_, ?_, hb.trans below, ?_, hs⟩
    · rw [hd, currentDocument_concat, environments]
    · rw [he, currentEnvironment_concat, environment]
    · rw [hv, writeAll_variablesSet_concat, overrides]
  cases op with
  | loadDocument v =>
    rw [apply, loadDocument]
    cases hj : Environments.ofJson Environments.memorySource v with
    | error e =>
      refine same r ?_ rfl rfl rfl stored
      rw [Operation.document?, hj]
      rfl
    | ok d =>
      refine same _ ?_ rfl rfl rfl (Environments.ofJson_stored _ _ _ hj)
      rw [Operation.document?, hj]
      rfl
  | loadFile tree path name =>
    rw [apply, loadFile]
    cases hl : Environments.load tree path name with
    | error e =>
      refine same _ ?_ rfl rfl rfl fun e he => nomatch he
      rw [Operation.document?, hl]
      rfl
    | ok d =>
      refine same _ ?_ rfl rfl rfl (Environments.load_stored _ _ _ _ hl)
      rw [Operation.document?, hl]
      rfl
  | setEnvironment name => exact same _ rfl rfl rfl rfl stored
  | setVariable name value => exact same _ rfl rfl rfl rfl stored
  | resolve _ _ _ _ => exact same _ rfl rfl rfl rfl stored

theorem describes_run (env : String) (base : Record String) (ops : List Operation) :
    Describes env base ops (run ops (start env base)) := by
  induction ops using List.reverseRecOn with
  | nil => exact ⟨rfl, rfl, rfl, rfl, nofun⟩
  | append_singleton ops op ih =>
    unfold run at ih ⊢
    rw [List.foldl_append]
    exact describes_apply env base ops _ ih op

/-! ## Layers -/

/-- The variables that a name is looked up in, from the layer that counts most to the one that
counts least. -/
structure Layers where
  own : Record String
  file : Record String
  set : List (String × String)
  selected : Record String
  shared : Record String
  base : Record String

namespace Layers

/-- The value of a name in the three layers below the variables that were set. -/
def below? (l : Layers) (name : String) : Option String :=
  (lastNamed? name l.selected).or ((firstNamed? name l.shared).or (firstNamed? name l.base))

/-- The first value that a layer has for a name. Of the variables that were set and those of the
selected section, the last one with the name counts. -/
def value? (l : Layers) (name : String) : Option String :=
  (firstNamed? name l.own).or ((firstNamed? name l.file).or
    ((lastNamed? name l.set).or (l.below? name)))

/-- The layers without the entries that no assignment stores. -/
def stored (l : Layers) : Layers :=
  { l with set := storedWrites l.set, base := storedFills l.base }

/-- Whether the value of a name is lost: the name is a spelling of the reserved name that neither
request nor file declares, and either every variable set for it was set under the reserved name
itself, or the first one configured for it is, and another value takes its place. -/
def Loses (l : Layers) (name : String) : Prop :=
  lower name = lower reservedName ∧ firstNamed? name l.own = none ∧ firstNamed? name l.file = none ∧
    ((storable reservedName l.set = false ∧ lastNamed? name l.set ≠ none ∧
        l.stored.below? name ≠ lastNamed? name l.set) ∨
      (lastNamed? name l.set = none ∧ lastNamed? name l.selected = none ∧
        firstNamed? name l.shared = none ∧
        firstNamed? name (storedFills l.base) ≠ firstNamed? name l.base))

instance (l : Layers) (name : String) : Decidable (l.Loses name) :=
  inferInstanceAs (Decidable (_ ∧ _))

theorem lastNamed?_stored_of_ne (l : Layers) (name : String)
    (h : lower name ≠ lower reservedName) :
    lastNamed? name (storedWrites l.set) = lastNamed? name l.set := by
  rw [Record.lastNamed?_storedWrites, Record.storable_eq_isSome_lastNamed? name h]
  cases lastNamed? name l.set <;> rfl

/-- Below the variables that were set, only configured ones are not stored, and they count only
where no section has the name. -/
theorem below?_stored_eq_iff (l : Layers) (name : String) :
    l.stored.below? name = l.below? name ↔
      (lastNamed? name l.selected = none → firstNamed? name l.shared = none →
        firstNamed? name (storedFills l.base) = firstNamed? name l.base) := by
  show (lastNamed? name l.selected).or ((firstNamed? name l.shared).or
    (firstNamed? name (storedFills l.base))) = l.below? name ↔ _
  unfold below?
  cases lastNamed? name l.selected with
  | some x => exact iff_of_true rfl (nofun)
  | none =>
    cases firstNamed? name l.shared with
    | some x => exact iff_of_true rfl (nofun)
    | none =>
      rw [Option.none_or, Option.none_or, Option.none_or, Option.none_or]
      exact ⟨fun same _ _ => same, fun same => same rfl rfl⟩

/-- What the variables that were set and the layers below them have for a spelling of the reserved
name differs where the set ones are not stored and hid what is below them, and where none is set and
the configured ones are not stored. -/
theorem set_or_below?_stored_eq_iff (l : Layers) (name : String)
    (hn : lower name = lower reservedName) :
    (lastNamed? name (storedWrites l.set)).or (l.stored.below? name) =
        (lastNamed? name l.set).or (l.below? name) ↔
      ¬ ((storable reservedName l.set = false ∧ lastNamed? name l.set ≠ none ∧
            l.stored.below? name ≠ lastNamed? name l.set) ∨
          (lastNamed? name l.set = none ∧ lastNamed? name l.selected = none ∧
            firstNamed? name l.shared = none ∧
            firstNamed? name (storedFills l.base) ≠ firstNamed? name l.base)) := by
  rw [Record.lastNamed?_storedWrites, Record.storable_congr name reservedName hn]
  cases hs : storable reservedName l.set with
  | true =>
    -- a write in another spelling is stored, and the later ones count under it
    rw [if_pos rfl]
    have written := Record.lastNamed?_ne_none_of_storable name l.set
      ((Record.storable_congr name reservedName hn l.set).trans hs)
    obtain ⟨x, hl⟩ := Option.ne_none_iff_exists'.mp written
    rw [hl, Option.some_or, Option.some_or]
    refine iff_of_true rfl ?_
    rintro (⟨unstorable, -⟩ | ⟨unset, -⟩)
    · cases unstorable
    · cases unset
  | false =>
    rw [if_neg Bool.false_ne_true, Option.none_or]
    cases hl : lastNamed? name l.set with
    | some x =>
      rw [Option.some_or]
      constructor
      · rintro same (⟨-, -, other⟩ | ⟨unset, -⟩)
        · exact other same
        · cases unset
      · intro kept
        by_contra other
        exact kept (.inl ⟨rfl, Option.some_ne_none x, other⟩)
    | none =>
      rw [Option.none_or, below?_stored_eq_iff]
      constructor
      · rintro same (⟨-, written, -⟩ | ⟨-, unselected, unshared, other⟩)
        · exact written rfl
        · exact other (same unselected unshared)
      · intro kept unselected unshared
        by_contra other
        exact kept (.inr ⟨rfl, unselected, unshared, other⟩)

/-- Entries that no assignment stores make a difference where the value of the name is lost, and
only there. -/
theorem value?_stored_eq_iff (l : Layers) (name : String) :
    l.stored.value? name = l.value? name ↔ ¬ l.Loses name := by
  show (firstNamed? name l.own).or ((firstNamed? name l.file).or
    ((lastNamed? name (storedWrites l.set)).or (l.stored.below? name))) = l.value? name ↔ _
  by_cases hn : lower name = lower reservedName
  swap
  · have base := (l.below?_stored_eq_iff name).2 fun _ _ =>
      Record.firstNamed?_storedFills name hn l.base
    rw [lastNamed?_stored_of_ne l name hn, base]
    exact iff_of_true rfl fun c => hn c.1
  unfold value?
  cases ho : firstNamed? name l.own with
  | some x => exact iff_of_true rfl fun c => nomatch ho.symm.trans c.2.1
  | none =>
    cases hf : firstNamed? name l.file with
    | some x => exact iff_of_true rfl fun c => nomatch hf.symm.trans c.2.2.1
    | none =>
      rw [Option.none_or, Option.none_or, Option.none_or, Option.none_or,
        l.set_or_below?_stored_eq_iff name hn]
      exact not_congr ⟨fun lost => ⟨hn, ho, hf, lost⟩, fun lost => lost.2.2.2⟩

end Layers

/-- The layers that count for a resolver that began with `env` and `base`, after operations. -/
def layers (own file : Record String) (env : String) (base : Record String)
    (ops : List Operation) : Layers where
  own := own
  file := file
  set := variablesSet ops
  selected := (currentDocument ops).entries (currentEnvironment env ops)
  shared := (currentDocument ops).entries Environments.sharedName
  base := base

/-- What the variables in effect answer. -/
theorem find?_bindings (r : Resolver) (env : String) (base : Record String) (ops : List Operation)
    (h : Describes env base ops r) (own file : Record String) (name : String) :
    r.bindings.find? name = (lastNamed? name (storedWrites (variablesSet ops))).or
      ((layers own file env base ops).stored.below? name) := by
  obtain ⟨environments, environment, below, overrides, stored⟩ := h
  rw [environments] at stored
  have free := Environments.ne_reserved_of_mem_entries _ stored
  -- the record that the resolver builds, layer by layer
  let selected : Record String :=
    writeAll [] ((currentDocument ops).entries (currentEnvironment env ops))
  let filled :=
    fillAll (fillAll selected ((currentDocument ops).entries Environments.sharedName)) base
  have built : r.bindings = writeAll filled (writeAll [] (variablesSet ops)) := by
    unfold bindings
    rw [environments, environment, below, overrides]
    rfl
  have selected_unique : Record.CaseUnique selected :=
    Record.caseUnique_writeAll Record.caseUnique_nil _
  have filled_unique : Record.CaseUnique filled :=
    Record.caseUnique_fillAll (Record.caseUnique_fillAll selected_unique _) _
  have set_unique := Record.caseUnique_writeAll (α := String) Record.caseUnique_nil
    (variablesSet ops)
  have set_free := Record.ne_reserved_of_mem_writeAll (α := String) Record.caseUnique_nil nofun
    (variablesSet ops)
  have of_selected : firstNamed? name selected =
      lastNamed? name ((currentDocument ops).entries (currentEnvironment env ops)) := by
    rw [Record.firstNamed?_writeAll_of_free Record.caseUnique_nil _ (free _)]
    exact Option.or_none
  have of_filled : firstNamed? name filled =
      (layers own file env base ops).stored.below? name := by
    rw [Record.firstNamed?_fillAll, Record.firstNamed?_fillAll, of_selected,
      Record.storedFills_of_free _ (free _), Option.or_assoc]
    rfl
  rw [built, Record.find?_eq_firstNamed? _ (Record.caseUnique_writeAll filled_unique _),
    Record.firstNamed?_writeAll_of_free filled_unique _ set_free,
    Record.lastNamed?_eq_firstNamed? set_unique, Record.firstNamed?_writeAll_nil, of_filled]

/-- Whether a name is that of a generator. -/
def isGenerator (name : String) : Bool := name.toList.head? == some Generator.sigil

/-- What a placeholder with this name stands for, going by the layers. -/
def Layers.replacement? (l : Layers) (ambient : Ambient) (name : String) : Option String :=
  if isGenerator name then Generator.resolve? ambient name else l.value? name

/-- What the resolver finds is what the layers hold that is stored. -/
theorem lookup_eq_stored (r : Resolver) (env : String) (base : Record String)
    (ops : List Operation) (h : Describes env base ops r) (ambient : Ambient)
    (own file : Record String) (own_unique : own.CaseUnique) (file_unique : file.CaseUnique) :
    lookup ambient own file r.bindings =
      (layers own file env base ops).stored.replacement? ambient := by
  funext name
  rw [lookup, Layers.replacement?, isGenerator, Record.find?_eq_firstNamed? own own_unique,
    Record.find?_eq_firstNamed? file file_unique, find?_bindings r env base ops h own file name]
  rfl

/-- A placeholder stands for the first value that the layers have for its name, exactly when that
value is not lost; a text without a name that loses its value is resolved accordingly. -/
theorem lookup_run_eq_value?_iff (env : String) (base : Record String) (ops : List Operation)
    (ambient : Ambient) (own file : Record String) (own_unique : own.CaseUnique)
    (file_unique : file.CaseUnique) :
    let r := run ops (start env base)
    let l := layers own file env base ops
    (∀ n, isGenerator n = false →
      (lookup ambient own file r.bindings n = l.value? n ↔ ¬ l.Loses n)) ∧
    ∀ s, (∀ n ∈ Template.names s, isGenerator n = false → ¬ l.Loses n) →
      r.resolve ambient own file s = Template.replace s (l.replacement? ambient) := by
  intro r l
  have found := lookup_eq_stored r env base ops (describes_run env base ops) ambient own file
    own_unique file_unique
  have named : ∀ n, isGenerator n = false →
      lookup ambient own file r.bindings n = l.stored.value? n := by
    intro n hn
    rw [found, Layers.replacement?, hn]
    rfl
  refine ⟨fun n hn => ?_, fun s kept => ?_⟩
  · rw [named n hn]
    exact l.value?_stored_eq_iff n
  · apply Template.replace_congr
    intro n hn
    cases hg : isGenerator n with
    | true => rw [found, Layers.replacement?, Layers.replacement?, hg, if_pos rfl, if_pos rfl]
    | false =>
      rw [named n hg, (l.value?_stored_eq_iff n).2 (kept n hn hg), Layers.replacement?, hg]
      rfl

/-- A document is taken over, then one fails to be; each name is found in another layer. -/
theorem lookup_run_eq_value?_iff_four_layers :
    let section_ (n : String) (v : String) : Wide × Json Binary64 := (n, .object [(n, .text v)])
    let ops := [.loadDocument (.object [section_ "dev" "one", section_ "$shared" "two"]),
      .setEnvironment "", .loadDocument .null, .setVariable "SET" "x", .setVariable "set" ""]
    (run ops (start "prod" [("DEV", "three"), ("below", "four")])).resolve ⟨0, 0, "", []⟩
        [("own", "zero")] [] "{{own}}/{{Set}}/{{Dev}}/{{ below }}/{{none}}" =
      "zero//one/four/{{none}}" := by
  intro section_ ops
  have at_run := (lookup_run_eq_value?_iff "prod" [("DEV", "three"), ("below", "four")] ops
    ⟨0, 0, "", []⟩ [("own", "zero")] [] (List.nodup_singleton _) List.nodup_nil).2
  rw [at_run _ (by decide +kernel)]
  decide +kernel

/-- A variable set under the reserved name is lost, so that its placeholder stays as it is. -/
theorem lookup_run_drops_set_variable :
    let ops := [.setVariable "__proto__" "x"]
    (run ops (start "dev" [])).resolve ⟨0, 0, "", []⟩ [] [] "{{__PROTO__}}" = "{{__PROTO__}}" ∧
      (layers [] [] "dev" [] ops).value? "__PROTO__" = some "x" := by
  decide +kernel

end Resolver

end HttpScript
