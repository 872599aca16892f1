import Mathlib.Data.List.Induction
import SketchPreview.Proofs.Font.Memory

/-!
# The memory for fonts changes nothing but the work

A session is any sequence of requests, for names or for the fonts of a sketch, with or without a
font that the user chose, mixed with orders to forget. All of them use one memory.

* `FontRequest`, `serveAll`: one request, and a session;
* `FontRequest.fonts`: the fonts that a request has to get;
* `run_serve`, `run_serveAll`: what they come to;
* `nodup_searches`, `mem_knownAfterAll`: no name is looked for twice between two orders to forget,
  and what is known behind a session;
* **`serveAll_transparent`**: the memory cannot be seen in the fonts of any request.
-/

namespace SketchPreview

variable {σ : Type} {I : σ → Prop} {sources : List (FontSource (StateM σ))} {shelves : List Shelf}

/-! ## Requests -/

/-- What a memory can be used for. -/
inductive FontRequest where
  | named (names : List String) (explicit : Option BitmapFont)
  | sketch (source : String) (explicit : Option BitmapFont)
  | clear

namespace FontRequest

/-- The names that a request asks for, those of a sketch in the order of its calls. -/
def asked : FontRequest → List String
  | .named names _ => names
  | .sketch source _ => Font.namesIn source
  | .clear => []

/-- The font that the user chose over all names, if any. -/
def explicit : FontRequest → Option BitmapFont
  | .named _ explicit | .sketch _ explicit => explicit
  | .clear => none

/-- The same request of a user who chose no font. -/
def withoutExplicit : FontRequest → FontRequest
  | .named names _ => .named names none
  | .sketch source _ => .sketch source none
  | .clear => .clear

/-- Whether a request is the order to forget all fonts and misses. -/
def isClear : FontRequest → Bool
  | .clear => true
  | _ => false

/-- Serves one request; an order to forget asks no source and reports nothing. -/
def serve (sources : List (FontSource (StateM σ))) (cache : FontCache) :
    FontRequest → StateM σ (FontCache × Resolution)
  | .named names explicit => resolveNames sources cache names explicit
  | .sketch source explicit => resolveSource sources cache source explicit
  | .clear => return (.empty, .empty)

/-- The fonts that a request has to get: those of its names, and over them the one that the user
chose. -/
def fonts (shelves : List Shelf) (r : FontRequest) : FontMap :=
  match r.explicit with
  | some font => (fontsOf shelves r.asked).insert explicitKey font
  | none => fontsOf shelves r.asked

end FontRequest

/-- Serves requests one after the other. -/
def serveAll (sources : List (FontSource (StateM σ))) (cache : FontCache) :
    List FontRequest → StateM σ (FontCache × List Resolution)
  | [] => return (cache, [])
  | r :: rest => do
    let (cache, res) ← r.serve sources cache
    let (cache, ress) ← serveAll sources cache rest
    return (cache, res :: ress)

/-- The names asked for since the last order to forget. -/
def askedSinceClear (requests : List FontRequest) : List String :=
  (requests.reverse.takeWhile fun r => !r.isClear).flatMap FontRequest.asked

/-! ## One request -/

namespace FontRequest

/-- The names that are remembered behind a request when `known` are before it. -/
def knownAfter (known : List String) (r : FontRequest) : List String :=
  if r.isClear then [] else learn known r.asked

/-- What a request gets when `known` are remembered: its fonts, and what is told of the searches for
the other names. -/
def answer (shelves : List Shelf) (known : List String) (r : FontRequest) : Resolution :=
  (Resolution.empty.extend shelves r.asked (unknown known r.asked)).withExplicit r.explicit

theorem fonts_answer (known : List String) (r : FontRequest) :
    (r.answer shelves known).fonts = r.fonts shelves := by
  rw [answer, fonts]
  cases r.explicit <;> rfl

theorem diagnostics_answer (r : FontRequest) (known : List String) :
    (r.answer shelves known).diagnostics = (unknown known r.asked).flatMap (reportsOn shelves) := by
  rw [answer]
  cases r.explicit <;> rfl

theorem notes_answer (r : FontRequest) (known : List String) :
    (r.answer shelves known).notes = (unknown known r.asked).filterMap (noteOn shelves) := by
  rw [answer]
  cases r.explicit <;> rfl

/-- **One request.** -/
theorem run_serve (hsteady : List.Forall₂ (FontSource.Steady I) sources shelves)
    (known : List String) (r : FontRequest) {w : σ} (hw : I w) :
    (r.serve sources (memoryOf shelves known)).run w =
      ((memoryOf shelves (r.knownAfter known), r.answer shelves known),
        (unknown known r.asked).foldl (worldAfterSearch sources) w) := by
  cases r with
  | named names explicit | sketch source explicit =>
    show ((resolveNames sources _ _ explicit).run w : Id _) = _
    rw [resolveNames, StateT.run_bind, run_resolveAll hsteady _ _ _ hw]
    rfl
  | clear => rfl

end FontRequest

/-! ## A session -/

/-- The names that are remembered behind a session. -/
def knownAfterAll (known : List String) (requests : List FontRequest) : List String :=
  requests.foldl FontRequest.knownAfter known

/-- The names that each request of a session looks for. -/
def searches (known : List String) : List FontRequest → List (List String)
  | [] => []
  | r :: rest => unknown known r.asked :: searches (r.knownAfter known) rest

/-- What the requests of a session get, one after the other. -/
def answers (shelves : List Shelf) (known : List String) : List FontRequest → List Resolution
  | [] => []
  | r :: rest => r.answer shelves known :: answers shelves (r.knownAfter known) rest

/-- **A session**, by induction on its requests. -/
theorem run_serveAll (hsteady : List.Forall₂ (FontSource.Steady I) sources shelves)
    (known : List String) (requests : List FontRequest) {w : σ} (hw : I w) :
    (serveAll sources (memoryOf shelves known) requests).run w =
      ((memoryOf shelves (knownAfterAll known requests), answers shelves known requests),
        (searches known requests).flatten.foldl (worldAfterSearch sources) w) := by
  induction requests generalizing known w with
  | nil => rfl
  | cons r rest ih =>
    rw [serveAll, StateT.run_bind, FontRequest.run_serve hsteady known r hw]
    have hkeep := foldl_worldAfterSearch_keeps hsteady (unknown known r.asked) hw
    have hrest := ih (r.knownAfter known) hkeep
    rw [searches, List.flatten_cons, List.foldl_append]
    show ((serveAll _ _ rest >>= _).run _ : Id _) = _
    rw [StateT.run_bind, hrest]
    rfl

theorem fonts_answers (known : List String) (requests : List FontRequest) :
    (answers shelves known requests).map (·.fonts) = requests.map (·.fonts shelves) := by
  induction requests generalizing known with
  | nil => rfl
  | cons r rest ih => rw [answers, List.map_cons, ih, FontRequest.fonts_answer, List.map_cons]

/-- What a resolution tells of the searches for it, a session tells of all of them. -/
theorem map_answers {α : Type} {g : Resolution → α} {h : List String → α}
    (hg : ∀ (r : FontRequest) known, g (r.answer shelves known) = h (unknown known r.asked))
    (known : List String) (requests : List FontRequest) :
    (answers shelves known requests).map g = (searches known requests).map h := by
  induction requests generalizing known with
  | nil => rfl
  | cons r rest ih => rw [answers, List.map_cons, ih, hg, searches, List.map_cons]

theorem length_searches (known : List String) (requests : List FontRequest) :
    (searches known requests).length = requests.length := by
  induction requests generalizing known with
  | nil => rfl
  | cons r rest ih => rw [searches, List.length_cons, ih, List.length_cons]

theorem searches_append (known : List String) (requests requests' : List FontRequest) :
    searches known (requests ++ requests') =
      searches known requests ++ searches (knownAfterAll known requests) requests' := by
  induction requests generalizing known with
  | nil => rfl
  | cons r rest ih =>
    rw [List.cons_append, searches, ih, searches, List.cons_append]
    rfl

theorem flatten_searches (known : List String) {requests : List FontRequest}
    (h : ∀ r ∈ requests, r.isClear = false) :
    (searches known requests).flatten = unknown known (requests.flatMap FontRequest.asked) := by
  induction requests generalizing known with
  | nil => rfl
  | cons r rest ih =>
    have hr : r.knownAfter known = learn known r.asked := by
      rw [FontRequest.knownAfter, h r List.mem_cons_self]
      rfl
    rw [searches, List.flatten_cons, hr, ih _ fun r' hr' => h r' (List.mem_cons_of_mem _ hr'),
      List.flatMap_cons, unknown_append]

/-- **Between two orders to forget** no name is looked for twice. -/
theorem nodup_searches (known : List String) (earlier later : List FontRequest)
    {requests : List FontRequest} (h : ∀ r ∈ requests, r.isClear = false) :
    (((searches known (earlier ++ requests ++ later)).drop earlier.length).take
      requests.length).flatten.Nodup := by
  rw [List.append_assoc, searches_append, searches_append,
    List.drop_left' (length_searches known earlier), List.take_left' (length_searches _ requests),
    flatten_searches _ h]
  exact nodup_unknown _ _

theorem searches_subset (known : List String) (requests : List FontRequest) :
    List.Forall₂ (fun (r : FontRequest) searched => searched ⊆ r.asked) requests
      (searches known requests) := by
  induction requests generalizing known with
  | nil => exact .nil
  | cons r rest ih => exact .cons (fun _ h => (mem_unknown.1 h).1) (ih _)

/-- What is known behind a session, by induction from its end. -/
theorem mem_knownAfterAll {requests : List FontRequest} {name : String} :
    name ∈ knownAfterAll [] requests ↔ name ∈ askedSinceClear requests := by
  induction requests using List.reverseRecOn with
  | nil => rfl
  | append_singleton earlier r ih =>
    rw [knownAfterAll, List.foldl_concat, ← knownAfterAll, askedSinceClear, List.reverse_concat,
      List.takeWhile_cons, FontRequest.knownAfter]
    by_cases hclear : r.isClear = true
    · simp [hclear]
    · rw [if_neg hclear, mem_learn, ih]
      simp [hclear, askedSinceClear]

theorem knownAfterAll_withoutExplicit (known : List String) (requests : List FontRequest) :
    knownAfterAll known (requests.map FontRequest.withoutExplicit) =
      knownAfterAll known requests := by
  rw [knownAfterAll, List.foldl_map, knownAfterAll]
  congr
  funext known r
  cases r <;> rfl

/-! ## What can be told of a session -/

/-- What is left of a session that starts in world `w` with an empty memory: `searched` says which
names each of its requests looks for. -/
structure SessionFacts (I : σ → Prop) (sources : List (FontSource (StateM σ)))
    (shelves : List Shelf) (requests : List FontRequest) (w : σ) (cache : FontCache)
    (results : List Resolution) (w' : σ) (searched : List (List String)) : Prop where
  /-- Each request gets its fonts, as it would from an empty memory in any world. -/
  fonts : results.map (·.fonts) = requests.map (·.fonts shelves)
  fresh (r : FontRequest) (v : σ) : r ∈ requests → I v →
    ((r.serve sources .empty).run v).1.2.fonts = r.fonts shelves
  /-- Files are loaded for the names that are looked for, and for nothing else. -/
  world : w' = searched.flatten.foldl (worldAfterSearch sources) w
  diagnostics : results.map (·.diagnostics) = searched.map (·.flatMap (reportsOn shelves))
  notes : results.map (·.notes) = searched.map (·.filterMap (noteOn shelves))
  asked : List.Forall₂ (fun (r : FontRequest) names => names ⊆ r.asked) requests searched
  /-- Between two orders to forget no name is looked for twice. -/
  once (before between behind : List FontRequest) : requests = before ++ between ++ behind →
    (∀ r ∈ between, r.isClear = false) →
      ((searched.drop before.length).take between.length).flatten.Nodup
  /-- A name is remembered as a font or as a miss when it was asked for. -/
  remembered (name : String) :
    name ∈ cache.fonts.keys ∨ name ∈ cache.misses ↔ name ∈ askedSinceClear requests
  disjoint : cache.fonts.keys.Disjoint cache.misses
  /-- Every font that is remembered comes from the sources. -/
  cached (name : String) (font : BitmapFont) : cache.fonts.get? name = some font →
    fontOf? shelves name = some font
  override :
    ((serveAll sources .empty (requests.map FontRequest.withoutExplicit)).run w).1.1 = cache

/-- **The memory cannot be seen in the fonts of any request**, it only saves searches. -/
theorem serveAll_transparent (hsteady : List.Forall₂ (FontSource.Steady I) sources shelves)
    (requests : List FontRequest) {w : σ} (hw : I w) :
    ∃ cache results w' searched,
      (serveAll sources .empty requests).run w = ((cache, results), w') ∧
      SessionFacts I sources shelves requests w cache results w' searched := by
  have hempty : FontCache.empty = memoryOf shelves [] := rfl
  refine ⟨_, _, _, searches [] requests, run_serveAll hsteady [] requests hw, ?_⟩
  exact {
    fonts := fonts_answers [] requests
    fresh := fun r v _ hv => by
      rw [hempty, FontRequest.run_serve hsteady [] r hv]
      exact FontRequest.fonts_answer [] r
    world := rfl
    diagnostics := map_answers FontRequest.diagnostics_answer [] requests
    notes := map_answers FontRequest.notes_answer [] requests
    asked := searches_subset [] requests
    once := by
      rintro before between behind rfl hbetween
      exact nodup_searches [] before behind hbetween
    remembered := fun name => by
      rw [mem_keys_memoryOf, mem_misses_memoryOf, ← and_or_left, ← mem_knownAfterAll]
      cases fontOf? shelves name <;> simp
    disjoint := fun name hkey hmiss => by
      rw [mem_keys_memoryOf] at hkey
      rw [mem_misses_memoryOf] at hmiss
      simp [hmiss.2] at hkey
    cached := fun name font h => by
      rw [memoryOf, get?_fontsOf] at h
      split at h
      · exact h
      · cases h
    override := by
      rw [hempty, run_serveAll hsteady [] _ hw, knownAfterAll_withoutExplicit] }

/-- A source that answers as a shelf does and lists what it was asked for. -/
def Shelf.listing (s : Shelf) : FontSource (StateM (List String)) where
  label := s.label
  load file := modifyGet fun asked => (s.answer file, file :: asked)

theorem Shelf.steady_listing (s : Shelf) : s.listing.Steady (fun _ => True) s :=
  ⟨rfl, fun _ _ _ => ⟨rfl, trivial⟩⟩

/-- Only the files of the Times font can be read from the disk. -/
def unreadable : Shelf where
  label := "disk"
  answer file := if file = "timR10.bdf" then .ok (some "") else .error (fetchFailure file "denied")

/-- A font, one that is missing, and both once more behind an order to forget. -/
def forgetfulSession : List FontRequest :=
  [.named ["timR10", "nowhere", "timR10"] (some (Bdf.parse "")),
    .sketch "setFont(u8g2_font_timR10_tf);" none, .clear, .named ["nowhere", "timR10"] none]

theorem serveAll_transparent_forgetful :
    ∃ cache results w' searched,
      (serveAll [unreadable.listing] .empty forgetfulSession).run [] = ((cache, results), w') ∧
      SessionFacts (fun _ => True) [unreadable.listing] [unreadable] forgetfulSession [] cache
        results w' searched :=
  serveAll_transparent (.cons unreadable.steady_listing .nil) forgetfulSession trivial

end SketchPreview
