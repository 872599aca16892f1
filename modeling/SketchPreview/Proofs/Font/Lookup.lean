import SketchPreview.Font.Resolver

/-!
# Looking for one name

* `FontCache.Knows`: the names that are remembered;
* `remember`: what becomes of a search for a name that is not;
* `exists_resolveName_of_knows`, `resolveName_of_not_knows`: one name in any monad;
* `resolveNames_single`: one name with nothing remembered.
-/

namespace SketchPreview

/-- Whether a name is remembered, with a font or without. -/
def FontCache.Knows (c : FontCache) (name : String) : Prop :=
  (c.fonts.get? name).isSome ∨ name ∈ c.misses

theorem not_knows_empty (name : String) : ¬FontCache.empty.Knows name := by
  rintro (hfont | hmiss)
  · cases hfont
  · cases hmiss

/-- What is remembered and reported when a search for a name has ended. -/
def remember (cache : FontCache) (r : Resolution) (name : String) :
    List Diagnostic × Option FontFile → FontCache × Resolution
  | (ds, some f) =>
    let font := Bdf.parse f.text
    ({ cache with fonts := cache.fonts.insert name font },
      { fonts := r.fonts.insert name font
        diagnostics := r.diagnostics ++ ds
        notes := r.notes ++ [f.note name] })
  | (ds, none) =>
    ({ cache with misses := name :: cache.misses },
      { r with diagnostics := r.diagnostics ++ ds ++ [fontNotFound name] })

theorem knows_remember {cache : FontCache} {r : Resolution} {name other : String}
    {found : List Diagnostic × Option FontFile}
    (h : (remember cache r name found).1.Knows other) : other = name ∨ cache.Knows other := by
  match found with
  | (ds, some f) =>
    refine h.elim (fun hsome => ?_) fun hmem => .inr (.inr hmem)
    have hsome : ((cache.fonts.insert name (Bdf.parse f.text)).get? other).isSome := hsome
    rw [SortedMap.get?_insert] at hsome
    split at hsome
    · next heq => exact .inl (eq_of_beq heq)
    · exact .inr (.inl hsome)
  | (ds, none) =>
    exact h.elim (fun hsome => .inr (.inl hsome)) fun hmem =>
      (List.mem_cons.1 hmem).imp_right .inr

variable {m : Type → Type} [Monad m]

theorem exists_resolveName_of_knows {cache : FontCache} {name : String} (h : cache.Knows name)
    (r : Resolution) :
    ∃ r', ∀ {m : Type → Type} [Monad m] (sources : List (FontSource m)),
      resolveName sources cache r name = pure (cache, r') := by
  cases hfont : cache.fonts.get? name with
  | some font =>
    refine ⟨{ r with fonts := r.fonts.insert name font }, fun sources => ?_⟩
    rw [resolveName, hfont]
  | none =>
    have hmiss : name ∈ cache.misses := h.resolve_left (by simp [hfont])
    refine ⟨r, fun sources => ?_⟩
    rw [resolveName, hfont]
    exact if_pos hmiss

theorem resolveName_of_not_knows {cache : FontCache} {name : String} (h : ¬cache.Knows name)
    (sources : List (FontSource m)) (r : Resolution) :
    resolveName sources cache r name =
      findFont (Font.candidates name) sources >>= fun found =>
        pure (remember cache r name found) := by
  have hfont : cache.fonts.get? name = none := by
    simpa using fun hsome => h (.inl hsome)
  have hmiss : name ∉ cache.misses := fun hmiss => h (.inr hmiss)
  rw [resolveName, hfont]
  simp only [hmiss, if_false]
  refine bind_congr fun found => ?_
  match found with
  | (ds, some f) => rfl
  | (ds, none) => rfl

/-! ## One name from nothing -/

theorem resolveNames_single [LawfulMonad m] (sources : List (FontSource m)) (name : String)
    (explicit : Option BitmapFont) :
    resolveNames sources .empty [name] explicit =
      findFont (Font.candidates name) sources >>= fun found =>
        pure ((remember .empty .empty name found).1,
          (remember .empty .empty name found).2.withExplicit explicit) := by
  rw [resolveNames, resolveAll, resolveName_of_not_knows (not_knows_empty name)]
  simp only [resolveAll, bind_assoc, pure_bind]

theorem notes_withExplicit (r : Resolution) (explicit : Option BitmapFont) :
    (r.withExplicit explicit).notes = r.notes := by
  cases explicit <;> rfl

theorem notes_remember (name : String) (found : List Diagnostic × Option FontFile) :
    (remember .empty .empty name found).2.notes = (found.2.map (·.note name)).toList := by
  match found with
  | (ds, some f) => rfl
  | (ds, none) => rfl

end SketchPreview
