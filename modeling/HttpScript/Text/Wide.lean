import HttpScript.Text

/-!
# Texts of units

JSON can spell one half of a surrogate pair without the other. A text of JSON is therefore a
sequence of UTF-16 units, whatever they are. A string is the sequence of the units of its
characters, and a sequence shows as a string with the replacement character for each half that
stands alone.

    (ofString s).text = s
-/

namespace HttpScript

/-- A text of UTF-16 units. -/
structure Wide where
  units : List UInt16
  deriving DecidableEq, Inhabited, Repr

namespace Wide

def ofUnits (us : List Nat) : Wide := ⟨us.map UInt16.ofNat⟩

def toUnits (w : Wide) : List Nat := w.units.map UInt16.toNat

/-- The text of code points, some of which may be units. -/
def ofPoints (ns : List Nat) : Wide := ofUnits (ns.flatMap Text.pointUnits)

def ofString (s : String) : Wide := ofUnits (Text.units s)

instance : Coe String Wide := ⟨ofString⟩

/-- The code points; a half without its other half is one of its own. -/
def points (w : Wide) : List Nat := Text.points w.toUnits

/-- The string that a text shows as. -/
def text (w : Wide) : String := Text.ofUnits w.toUnits

theorem toUnits_ofUnits {us : List Nat} (small : ∀ u ∈ us, u < 0x10000) :
    (ofUnits us).toUnits = us := by
  unfold toUnits ofUnits
  rw [List.map_map]
  refine (List.map_congr_left fun u hu => ?_).trans (List.map_id us)
  exact Nat.mod_eq_of_lt (small u hu)

@[simp] theorem ofUnits_toUnits (w : Wide) : ofUnits w.toUnits = w := by
  obtain ⟨us⟩ := w
  unfold toUnits ofUnits
  rw [List.map_map]
  exact congrArg Wide.mk
    ((List.map_congr_left fun u _ => UInt16.ofNat_toNat).trans (List.map_id us))

@[simp] theorem toUnits_ofString (s : String) : (ofString s).toUnits = Text.units s :=
  toUnits_ofUnits fun _ hu => Text.lt_of_mem_units hu

theorem lt_of_mem_toUnits {w : Wide} {u : Nat} (mem : u ∈ w.toUnits) : u < 0x10000 := by
  obtain ⟨v, -, rfl⟩ := List.mem_map.1 mem
  exact v.toNat_lt

/-- A text is read back from its code points. -/
theorem ofPoints_points (w : Wide) : ofPoints w.points = w := by
  unfold ofPoints points
  rw [(Text.flatMap_pointUnits_points _ fun _ => lt_of_mem_toUnits).1, ofUnits_toUnits]

theorem lt_of_mem_points {w : Wide} {n : Nat} (mem : n ∈ w.points) : n < 0x110000 :=
  (Text.flatMap_pointUnits_points _ fun _ => lt_of_mem_toUnits).2 n mem

/-- A string is read back from its units. -/
@[simp] theorem text_ofString (s : String) : (ofString s).text = s := by
  unfold text
  rw [toUnits_ofString, Text.ofUnits_units]

@[simp] theorem ofString_inj {s t : String} : ofString s = ofString t ↔ s = t := by
  refine ⟨fun same => ?_, congrArg ofString⟩
  rw [← text_ofString s, same, text_ofString]

end Wide

end HttpScript
