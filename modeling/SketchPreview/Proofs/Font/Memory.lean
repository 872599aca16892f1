import SketchPreview.Proofs.Font.Search
import SketchPreview.Proofs.SortedMap

/-!
# What is remembered of names

With steady sources, what is remembered is a function of the names known: the fonts of those that
have one, and the others as misses. So names that are asked for get the fonts that they would get
from an empty memory, and those that are not known are looked for, each one once.

* `fontOf?`, `fontsOf`, `memoryOf`: the font of a name, and what is remembered of names;
* `unknown`, `learn`: the names of a list that have to be looked for, and what is known behind it;
* `run_resolveName_of_mem`, `run_resolveName_of_not_mem`: one name, known or not;
* **`run_resolveAll`**: a list of names.
-/

namespace SketchPreview

variable {σ : Type} {I : σ → Prop} {sources : List (FontSource (StateM σ))} {shelves : List Shelf}

/-! ## What there is to know about a name -/

/-- The places where the font of a name may be. -/
def placesOf (shelves : List Shelf) (name : String) : List (Shelf × String) :=
  places shelves (Font.candidates name)

/-- The font of a name, from the first of its files that can be had. -/
def fontOf? (shelves : List Shelf) (name : String) : Option BitmapFont :=
  (firstFile? (placesOf shelves name)).map fun f => Bdf.parse f.text

/-- What is reported when a name is looked for. -/
def reportsOn (shelves : List Shelf) (name : String) : List Diagnostic :=
  problemsBefore (placesOf shelves name) ++
    if (fontOf? shelves name).isSome then [] else [fontNotFound name]

/-- The note on a font that is found. -/
def noteOn (shelves : List Shelf) (name : String) : Option String :=
  (firstFile? (placesOf shelves name)).map fun f => f.note name

/-- Names with their fonts, where they have one. -/
def entriesOf (shelves : List Shelf) (names : List String) : List (String × BitmapFont) :=
  names.filterMap fun name => (fontOf? shelves name).map fun font => (name, font)

/-- The fonts of names. -/
def fontsOf (shelves : List Shelf) (names : List String) : FontMap :=
  .ofList (entriesOf shelves names)

/-- What is remembered of names. -/
def memoryOf (shelves : List Shelf) (known : List String) : FontCache where
  fonts := fontsOf shelves known
  misses := known.filter fun name => (fontOf? shelves name).isNone

theorem entriesOf_cons (name : String) (rest : List String) :
    entriesOf shelves (name :: rest) =
      ((fontOf? shelves name).map fun font => (name, font)).toList ++ entriesOf shelves rest := by
  rw [entriesOf, List.filterMap_cons]
  cases fontOf? shelves name <;> rfl

theorem lookup_entriesOf (names : List String) (key : String) :
    (entriesOf shelves names).lookup key = if key ∈ names then fontOf? shelves key else none := by
  induction names with
  | nil => rfl
  | cons name rest ih =>
    rw [entriesOf_cons, List.lookup_append, ih]
    by_cases hkey : key = name
    · subst hkey
      cases hfont : fontOf? shelves key <;> simp
    · cases hfont : fontOf? shelves name <;>
        simp [hkey, List.lookup_cons, beq_eq_false_iff_ne.2 hkey]

theorem get?_fontsOf (names : List String) (key : String) :
    (fontsOf shelves names).get? key = if key ∈ names then fontOf? shelves key else none := by
  rw [fontsOf, SortedMap.get?_ofList, entriesOf, ← List.filterMap_reverse, ← entriesOf,
    lookup_entriesOf]
  simp only [List.mem_reverse]

theorem mem_misses_memoryOf {known : List String} {name : String} :
    name ∈ (memoryOf shelves known).misses ↔ name ∈ known ∧ fontOf? shelves name = none := by
  simp [memoryOf]

theorem mem_keys_memoryOf {known : List String} {name : String} :
    name ∈ (memoryOf shelves known).fonts.keys ↔
      name ∈ known ∧ (fontOf? shelves name).isSome := by
  rw [← SortedMap.contains_iff_mem_keys, SortedMap.contains, memoryOf, get?_fontsOf]
  split <;> simp_all

theorem memoryOf_cons_some {known : List String} {name : String} {font : BitmapFont}
    (h : fontOf? shelves name = some font) :
    memoryOf shelves (name :: known) =
      { memoryOf shelves known with fonts := (memoryOf shelves known).fonts.insert name font } := by
  have hfonts : fontsOf shelves (name :: known) = (fontsOf shelves known).insert name font := by
    refine SortedMap.ext_get? fun key => ?_
    rw [SortedMap.get?_insert, get?_fontsOf, get?_fontsOf]
    by_cases hkey : key = name
    · subst hkey; simp [h]
    · simp [hkey]
  simp [memoryOf, hfonts, h]

theorem memoryOf_cons_none {known : List String} {name : String} (h : fontOf? shelves name = none) :
    memoryOf shelves (name :: known) =
      { memoryOf shelves known with misses := name :: (memoryOf shelves known).misses } := by
  simp [memoryOf, fontsOf, entriesOf, h]

/-! ## One name, and all names of a request -/

/-- The names of a list that are not known yet, each one once. -/
def unknown (known : List String) : List String → List String
  | [] => []
  | name :: rest =>
    if name ∈ known then unknown known rest else name :: unknown (name :: known) rest

theorem mem_unknown {known names : List String} {name : String} :
    name ∈ unknown known names ↔ name ∈ names ∧ name ∉ known := by
  induction names generalizing known with
  | nil => simp [unknown]
  | cons first rest ih =>
    rw [unknown]
    split
    · rw [ih]
      grind
    · rw [List.mem_cons, ih]
      grind

theorem nodup_unknown (known names : List String) : (unknown known names).Nodup := by
  induction names generalizing known with
  | nil => exact .nil
  | cons first rest ih =>
    rw [unknown]
    split
    · exact ih known
    · exact List.nodup_cons.2 ⟨fun h => (mem_unknown.1 h).2 List.mem_cons_self, ih _⟩

/-- What is known, the latest first, once all names of a list have been asked for. -/
def learn (known names : List String) : List String := (unknown known names).reverse ++ known

theorem learn_cons_of_mem {known : List String} {name : String} (h : name ∈ known)
    (rest : List String) : learn known (name :: rest) = learn known rest := by
  rw [learn, unknown, if_pos h, learn]

theorem learn_cons_of_not_mem {known : List String} {name : String} (h : name ∉ known)
    (rest : List String) : learn known (name :: rest) = learn (name :: known) rest := by
  rw [learn, unknown, if_neg h, List.reverse_cons, List.append_assoc]
  rfl

theorem unknown_append (known names names' : List String) :
    unknown known (names ++ names') =
      unknown known names ++ unknown (learn known names) names' := by
  induction names generalizing known with
  | nil => rfl
  | cons name rest ih =>
    rw [List.cons_append, unknown]
    by_cases h : name ∈ known
    · rw [if_pos h, ih, learn_cons_of_mem h, unknown, if_pos h]
    · rw [if_neg h, ih, learn_cons_of_not_mem h, unknown, if_neg h, List.cons_append]

theorem mem_learn {known names : List String} {name : String} :
    name ∈ learn known names ↔ name ∈ names ∨ name ∈ known := by
  rw [learn, List.mem_append, List.mem_reverse, mem_unknown]
  tauto

/-- A resolution with the fonts of more names, of which `fresh` had to be looked for. -/
def Resolution.extend (r : Resolution) (shelves : List Shelf) (names fresh : List String) :
    Resolution where
  fonts := (entriesOf shelves names).foldl (fun m e => m.insert e.1 e.2) r.fonts
  diagnostics := r.diagnostics ++ fresh.flatMap (reportsOn shelves)
  notes := r.notes ++ fresh.filterMap (noteOn shelves)

theorem Resolution.extend_nil (r : Resolution) : r.extend shelves [] [] = r := by
  simp [extend, entriesOf]

theorem Resolution.extend_extend (r : Resolution) (names names' fresh fresh' : List String) :
    (r.extend shelves names fresh).extend shelves names' fresh' =
      r.extend shelves (names ++ names') (fresh ++ fresh') := by
  simp [extend, entriesOf]

/-- The world after a name has been looked for. -/
def worldAfterSearch (sources : List (FontSource (StateM σ))) (w : σ) (name : String) : σ :=
  ((findFont (Font.candidates name) sources).run w).2

theorem run_resolveName_of_mem {known : List String} {name : String} (h : name ∈ known)
    (r : Resolution) (w : σ) :
    (resolveName sources (memoryOf shelves known) r name).run w =
      ((memoryOf shelves known, r.extend shelves [name] []), w) := by
  have hget : (memoryOf shelves known).fonts.get? name = fontOf? shelves name :=
    (get?_fontsOf known name).trans (if_pos h)
  rw [resolveName, hget]
  cases hfont : fontOf? shelves name with
  | some font => simp [Resolution.extend, entriesOf, hfont]; rfl
  | none =>
    have hmiss : name ∈ (memoryOf shelves known).misses := mem_misses_memoryOf.2 ⟨h, hfont⟩
    simp [Resolution.extend, entriesOf, hfont, hmiss]; rfl

/-- **One name** that is not known is looked for, and known from then on. -/
theorem run_resolveName_of_not_mem (hsteady : List.Forall₂ (FontSource.Steady I) sources shelves)
    {known : List String} {name : String} (h : name ∉ known) (r : Resolution) {w : σ} (hw : I w) :
    (resolveName sources (memoryOf shelves known) r name).run w =
      ((memoryOf shelves (name :: known), r.extend shelves [name] [name]),
        worldAfterSearch sources w name) := by
  have hget : (memoryOf shelves known).fonts.get? name = none :=
    (get?_fontsOf known name).trans (if_neg h)
  have hmiss : name ∉ (memoryOf shelves known).misses := fun hm => h (mem_misses_memoryOf.1 hm).1
  have hsearch := gives_findFont hsteady (Font.candidates name)
  rw [resolveName, hget]
  simp only [hmiss, if_false]
  rw [hsearch.run_bind _ hw, search, ← placesOf]
  cases hfile : firstFile? (placesOf shelves name) with
  | some f =>
    have hfont : fontOf? shelves name = some (Bdf.parse f.text) := by simp [fontOf?, hfile]
    rw [memoryOf_cons_some hfont]
    simp [Resolution.extend, entriesOf, reportsOn, noteOn, hfont, hfile]; rfl
  | none =>
    have hfont : fontOf? shelves name = none := by simp [fontOf?, hfile]
    rw [memoryOf_cons_none hfont]
    simp [Resolution.extend, entriesOf, reportsOn, noteOn, hfont, hfile]; rfl

/-- Searches keep the worlds in which the sources are steady. -/
theorem foldl_worldAfterSearch_keeps
    (hsteady : List.Forall₂ (FontSource.Steady I) sources shelves) (names : List String) {w : σ}
    (hw : I w) : I (names.foldl (worldAfterSearch sources) w) :=
  List.foldlRecOn names _ hw fun _ hw name _ =>
    (gives_findFont hsteady (Font.candidates name)).snd hw

/-- **A list of names**, by induction on it. -/
theorem run_resolveAll (hsteady : List.Forall₂ (FontSource.Steady I) sources shelves)
    (known names : List String) (r : Resolution) {w : σ} (hw : I w) :
    (resolveAll sources (memoryOf shelves known) r names).run w =
      ((memoryOf shelves (learn known names), r.extend shelves names (unknown known names)),
        (unknown known names).foldl (worldAfterSearch sources) w) := by
  induction names generalizing known r w with
  | nil => simp [resolveAll, learn, unknown, Resolution.extend_nil]; rfl
  | cons name rest ih =>
    rw [resolveAll, StateT.run_bind]
    by_cases h : name ∈ known
    · rw [run_resolveName_of_mem h]
      refine (ih known _ hw).trans ?_
      rw [Resolution.extend_extend, learn_cons_of_mem h, unknown, if_pos h]
      rfl
    · rw [run_resolveName_of_not_mem hsteady h _ hw]
      have hkeep : I (worldAfterSearch sources w name) :=
        foldl_worldAfterSearch_keeps hsteady [name] hw
      refine (ih (name :: known) _ hkeep).trans ?_
      rw [Resolution.extend_extend, learn_cons_of_not_mem h, unknown, if_neg h]
      rfl

end SketchPreview
