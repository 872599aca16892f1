import SketchPreview.Dimensions

/-!
# Symbol tables

The named numbers that expressions may use. A name bound again keeps its latest value.

* `SymbolTable`, `SymbolTable.get?`, `SymbolTable.insert`;
* `SymbolTable.ofSize`: the table that holds the canvas size alone;
* `get?_insert`.
-/

namespace SketchPreview

/-- Named numbers, the latest binding first. -/
structure SymbolTable where
  bindings : List (String × Float)

namespace SymbolTable

/-- The table without names. -/
def empty : SymbolTable := ⟨[]⟩

/-- The number bound to a name. -/
def get? (t : SymbolTable) (name : String) : Option Float := t.bindings.lookup name

/-- Binds a name, over an older binding. -/
def insert (t : SymbolTable) (name : String) (value : Float) : SymbolTable :=
  ⟨(name, value) :: t.bindings⟩

/-- The canvas size under its four names. -/
def ofSize (size : Dimensions) : SymbolTable :=
  (((empty.insert "WIDTH" size.width.toFloat).insert "HEIGHT" size.height.toFloat).insert
    "width" size.width.toFloat).insert "height" size.height.toFloat

theorem get?_insert (t : SymbolTable) (name name' : String) (value : Float) :
    (t.insert name value).get? name' = if name' = name then some value else t.get? name' := by
  simp only [get?, insert, List.lookup_cons]
  by_cases h : name' = name
  · simp [h]
  · simp [h, beq_eq_false_iff_ne.2 h]

end SymbolTable

end SketchPreview
