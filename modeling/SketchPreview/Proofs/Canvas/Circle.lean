import SketchPreview.Proofs.Canvas.Midpoint
import SketchPreview.Proofs.Canvas.View
import SketchPreview.Proofs.Distinct

/-!
# The outline is the midpoint walk

The plain walk starts at the top of the radius and goes on in single steps: `y` grows by one and an
error term tells whether `x` shrinks by one. It knows no canvas and no bounds of numbers.

* `OctantWalk`, `OctantWalk.next`, `OctantWalk.visited`, `reflections`, `circleWalk`: the plain
  walk;
* `OctantWalk.Sound`, `mem_visited_iff`: what the error term means, and the pairs visited;
* `mem_circleSteps`, `mem_circlePoints`: the steps and points that the canvas looks at;
* **`circle_eq_paint_walk`**: on the canvas both outlines are the same.
-/

namespace SketchPreview

/-! ## The plain walk -/

/-- A pair of the octant that the walk has reached, with the error term that decides the next
step. -/
structure OctantWalk where
  x : Int
  y : Int
  error : Int
  deriving DecidableEq, Repr

namespace OctantWalk

/-- The beginning of the walk of radius `r`. -/
def start (r : Int) : OctantWalk := ⟨r, 0, 1 - r⟩

/-- One step of the walk. -/
def next (w : OctantWalk) : OctantWalk :=
  let y := w.y + 1
  if w.error < 0 then ⟨w.x, y, w.error + (2 * y + 1)⟩
  else ⟨w.x - 1, y, w.error + (2 * (y - (w.x - 1)) + 1)⟩

theorem y_next (w : OctantWalk) : w.next.y = w.y + 1 := by
  unfold next
  split <;> rfl

theorem x_next_le (w : OctantWalk) : w.next.x ≤ w.x := by
  unfold next
  split
  · exact Int.le_refl _
  · exact Int.sub_le_self _ (by decide)

/-- The pairs that the walk visits, as long as `y` is not beyond `x`. -/
def visited (w : OctantWalk) : List (Int × Int) :=
  if w.y ≤ w.x then (w.x, w.y) :: visited w.next else []
  termination_by (w.x - w.y + 1).toNat
  decreasing_by
    have hy := w.y_next
    have hx := w.x_next_le
    omega

end OctantWalk

/-- The eight reflections of `(x, y)` about the centre `(cx, cy)`. -/
def reflections (cx cy x y : Int) : List (Int × Int) :=
  [(x, y), (y, x), (-y, x), (-x, y), (-x, -y), (-y, -x), (y, -x), (x, -y)].map
    fun p => (cx + p.1, cy + p.2)

/-- The pixels that the walk of radius `r` about `(cx, cy)` plots. -/
def circleWalk (cx cy r : Int) : List (Int × Int) :=
  (OctantWalk.start r).visited.flatMap fun p => reflections cx cy p.1 p.2

/-! ## What the walk visits -/

namespace OctantWalk

/-- The error term measures the middle between `x` and `x - 1` in the next row, and `x` is the
midpoint of its row unless the octant is over. -/
structure Sound (r : Int) (w : OctantWalk) : Prop where
  error_eq : w.error = w.x * w.x - w.x + (w.y + 1) * (w.y + 1) - r * r
  y_nonneg : 0 ≤ w.y
  x_ge : -1 ≤ w.x
  upper : r * r - w.y * w.y ≤ w.x * w.x + w.x
  lower : w.y ≤ w.x → w.x * w.x - w.x < r * r - w.y * w.y

theorem sound_start {r : Int} (hr : 1 ≤ r) : Sound r (start r) where
  error_eq := by simp only [start]; linarith
  y_nonneg := le_rfl
  x_ge := by simp only [start]; omega
  upper := by simp only [start]; linarith
  lower _ := by simp only [start]; linarith

/-- **One step.** A step to the side may leave the interval of its row only where the octant ends
with it. -/
theorem Sound.next {r : Int} {w : OctantWalk} (h : Sound r w) (hw : w.y ≤ w.x) :
    Sound r w.next := by
  obtain ⟨x, y, error⟩ := w
  obtain ⟨herror, hy, -, hupper, hlower⟩ := h
  have hlower := hlower hw
  simp only at herror hy hupper hlower hw
  simp only [OctantWalk.next]
  split
  · next hneg =>
    refine ⟨?_, ?_, ?_, ?_, fun _ => ?_⟩ <;> dsimp only
    · linarith
    · omega
    · omega
    · linarith
    · linarith
  · next hpos =>
    refine ⟨?_, ?_, ?_, ?_, fun hoct => ?_⟩ <;> dsimp only at *
    · linarith
    · omega
    · omega
    · linarith
    · linarith

/-- **The pairs visited** from a place of the walk on are the midpoints of the rows to come, up to
the diagonal. -/
theorem mem_visited_iff {r : Int} {w : OctantWalk} (h : Sound r w) (x y : Int) :
    (x, y) ∈ w.visited ↔ w.y ≤ y ∧ y ≤ x ∧ IsMidpoint (r * r - y * y) x := by
  fun_induction visited w with
  | case1 w hw ih =>
    rw [List.mem_cons, ih (h.next hw), y_next, Prod.mk.injEq]
    constructor
    · rintro (⟨rfl, rfl⟩ | ⟨hy, hyx, hmid⟩)
      · exact ⟨le_rfl, hw, h.lower hw, h.upper⟩
      · exact ⟨by omega, hyx, hmid⟩
    · rintro ⟨hy, hyx, hmid⟩
      rcases eq_or_lt_of_le hy with rfl | hlt
      · exact .inl ⟨hmid.unique ⟨h.lower hw, h.upper⟩, rfl⟩
      · exact .inr ⟨by omega, hyx, hmid⟩
  | case2 w hw =>
    refine ⟨fun hmem => absurd hmem List.not_mem_nil, ?_⟩
    rintro ⟨hy, hyx, hmid⟩
    have hrow := mul_self_add_le h.x_ge (b := x) (by omega)
    have hsq : w.y * w.y ≤ y * y := mul_self_le_mul_self h.y_nonneg hy
    linarith [hmid.1, h.upper]

end OctantWalk

theorem mem_circleWalk {cx cy r : Int} (hr : 1 ≤ r) {p : Int × Int} :
    p ∈ circleWalk cx cy r ↔
      ∃ x y, 0 ≤ y ∧ y ≤ x ∧ IsMidpoint (r * r - y * y) x ∧ p ∈ reflections cx cy x y := by
  simp only [circleWalk, List.mem_flatMap, Prod.exists,
    OctantWalk.mem_visited_iff (OctantWalk.sound_start hr), and_assoc]
  rfl

/-! ## What the canvas looks at -/

theorem mem_takeWhile_of_pairwise {α : Type} {r : α → α → Prop} {p : α → Bool} {l : List α}
    (hl : l.Pairwise r) (hp : ∀ a ∈ l, ∀ b ∈ l, r a b → p b → p a) {a : α} :
    a ∈ l.takeWhile p ↔ a ∈ l ∧ p a := by
  induction l with
  | nil => simp
  | cons b l ih =>
    obtain ⟨hb, hl⟩ := List.pairwise_cons.1 hl
    have ih := ih hl fun a ha c hc => hp a (.tail _ ha) c (.tail _ hc)
    rw [List.takeWhile_cons]
    split
    · next hpb =>
      rw [List.mem_cons, ih, List.mem_cons]
      constructor
      · rintro (rfl | ⟨ha, hpa⟩)
        · exact ⟨.inl rfl, hpb⟩
        · exact ⟨.inr ha, hpa⟩
      · rintro ⟨rfl | ha, hpa⟩
        · exact .inl rfl
        · exact .inr ⟨ha, hpa⟩
    · next hpb =>
      refine ⟨fun h => absurd h List.not_mem_nil, ?_⟩
      rintro ⟨ha, hpa⟩
      rcases List.mem_cons.1 ha with rfl | ha
      · exact absurd hpa hpb
      · exact absurd (hp b (.head _) a (.tail _ ha) (hb a ha) hpa) hpb

/-! ### The step size -/

theorem isMidpoint_midpointX {r y : Int} (hy : 0 ≤ y) (hyr : y < r) :
    IsMidpoint (r * r - y * y) (midpointX r y) := by
  refine isMidpoint_midpoint ?_ _
  have := mul_self_lt_mul_self hy hyr
  linarith

theorem midpointX_self (r : Int) : midpointX r r = 0 :=
  congrArg Nat.cast (midpoint_of_nonpos (le_of_eq (Int.sub_self _)) _)

theorem midpointX_antitone {r y z : Int} (hy : 0 ≤ y) (hyz : y ≤ z) (hzr : z ≤ r) :
    midpointX r z ≤ midpointX r y := by
  rcases eq_or_lt_of_le hzr with rfl | hzr
  · rw [midpointX_self]
    exact Int.natCast_nonneg _
  · have hsq : y * y ≤ z * z := mul_self_le_mul_self hy hyz
    exact (isMidpoint_midpointX (hy.trans hyz) hzr).mono (by linarith)
      (isMidpoint_midpointX hy (by omega))

/-! ### The steps -/

namespace Canvas

variable {c : Canvas} {cx cy r : Int}

/-- A row or column lies at a distance from a centre. -/
def AtDistance (side : Nat) (centre y : Int) : Prop := ∃ i < side, abs64 (sub64 i centre) = y

theorem mem_circleSteps {y : Int} :
    y ∈ c.circleSteps cx cy r ↔ y ≤ r ∧ (AtDistance c.height cy y ∨ AtDistance c.width cx y) := by
  simp only [circleSteps, mem_eraseReps, List.mem_mergeSort, List.mem_filter, List.mem_append,
    List.mem_map, List.mem_range, decide_eq_true_eq, AtDistance, and_comm]

theorem nonneg_of_mem_circleSteps {y : Int} (h : y ∈ c.circleSteps cx cy r) : 0 ≤ y := by
  obtain ⟨-, ⟨i, -, rfl⟩ | ⟨i, -, rfl⟩⟩ := mem_circleSteps.1 h <;>
    simp only [abs64, clamp64, min64, max64] <;> omega

theorem pairwise_circleSteps : (c.circleSteps cx cy r).Pairwise (· ≤ ·) := by
  refine List.Pairwise.sublist (eraseReps_sublist _) ?_
  refine (List.pairwise_mergeSort (fun a b c hab hbc => ?_) (fun a b => ?_) _).imp ?_
  · simp only [decide_eq_true_eq] at *
    exact hab.trans hbc
  · simp only [Bool.or_eq_true, decide_eq_true_eq]
    exact Int.le_total a b
  · intro a b hab
    simpa using hab

/-- The points are the reflections of all steps of the octant: the steps left out by stopping at the
first one beyond the diagonal are beyond it too. -/
theorem mem_circlePoints {p : Int × Int} :
    p ∈ c.circlePoints cx cy r ↔
      ∃ y ∈ c.circleSteps cx cy r, y ≤ midpointX r y ∧
        p ∈ octantPoints cx cy (midpointX r y) y := by
  have htake : ∀ y, y ∈ (c.circleSteps cx cy r).takeWhile (fun y => y ≤ midpointX r y) ↔
      y ∈ c.circleSteps cx cy r ∧ decide (y ≤ midpointX r y) = true := by
    intro y
    refine mem_takeWhile_of_pairwise pairwise_circleSteps fun a ha b hb hab hoct => ?_
    rw [decide_eq_true_eq] at hoct ⊢
    have hanti := midpointX_antitone (nonneg_of_mem_circleSteps ha) hab (mem_circleSteps.1 hb).1
    omega
  simp only [circlePoints, List.takeWhile_map, List.mem_flatMap, List.mem_map]
  constructor
  · rintro ⟨q, ⟨y, hy, rfl⟩, hp⟩
    obtain ⟨hy, hoct⟩ := (htake y).1 hy
    exact ⟨y, hy, of_decide_eq_true hoct, hp⟩
  · rintro ⟨y, hy, hoct, hp⟩
    exact ⟨_, ⟨y, (htake y).2 ⟨hy, decide_eq_true hoct⟩, rfl⟩, hp⟩

/-! ## Both outlines -/

theorem add64_eq_iff {a b n : Int} {side : Nat} (hside : side ≤ maxSide) (h0 : 0 ≤ n)
    (hn : n < side) : n = add64 a b ↔ n = a + b := by
  unfold maxSide at hside
  simp only [add64, clamp64, min64, max64]
  omega

theorem mem_octantPoints_iff {x y a b : Int} (h : c.Holds x y) :
    (x, y) ∈ octantPoints cx cy a b ↔ (x, y) ∈ reflections cx cy a b := by
  obtain ⟨hx0, hx, hy0, hy⟩ := h
  simp only [octantPoints, reflections, List.map_cons, List.map_nil, List.mem_cons,
    List.not_mem_nil, Prod.mk.injEq, add64_eq_iff c.width_le hx0 hx,
    add64_eq_iff c.height_le hy0 hy]

theorem atDistance_of_eq {side : Nat} {centre n y : Int} (h0 : 0 ≤ n) (hn : n < side)
    (hy : 0 ≤ y) (hy' : y ≤ max64) (h : n = centre + y ∨ n = centre - y) :
    AtDistance side centre y := by
  refine ⟨n.toNat, by omega, ?_⟩
  simp only [abs64, sub64, clamp64, min64, max64] at *
  omega

theorem mem_circleSteps_of_mem_reflections {x y a b : Int} (h : c.Holds x y) (hb : 0 ≤ b)
    (hbr : b ≤ r) (hr : r ≤ max64) (hp : (x, y) ∈ reflections cx cy a b) :
    b ∈ c.circleSteps cx cy r := by
  obtain ⟨hx0, hx, hy0, hy⟩ := h
  refine mem_circleSteps.2 ⟨hbr, ?_⟩
  have hcases : (y = cy + b ∨ y = cy - b) ∨ (x = cx + b ∨ x = cx - b) := by
    simp only [reflections, List.map_cons, List.map_nil, List.mem_cons, List.not_mem_nil,
      Prod.mk.injEq, or_false] at hp
    omega
  rcases hcases with hrow | hcolumn
  · exact .inl (atDistance_of_eq hy0 hy hb (by omega) hrow)
  · exact .inr (atDistance_of_eq hx0 hx hb (by omega) hcolumn)

theorem mem_circlePoints_iff_mem_circleWalk (hr : 1 ≤ r) (hr' : r ≤ max64) {x y : Int}
    (h : c.Holds x y) : (x, y) ∈ c.circlePoints cx cy r ↔ (x, y) ∈ circleWalk cx cy r := by
  rw [mem_circlePoints, mem_circleWalk hr]
  constructor
  · rintro ⟨b, hstep, hoct, hp⟩
    have hb := nonneg_of_mem_circleSteps hstep
    have hbr : b < r := by
      refine lt_of_le_of_ne (mem_circleSteps.1 hstep).1 ?_
      rintro rfl
      rw [midpointX_self] at hoct
      omega
    exact ⟨_, b, hb, hoct, isMidpoint_midpointX hb hbr, (mem_octantPoints_iff h).1 hp⟩
  · rintro ⟨a, b, hb, hba, hmid, hp⟩
    have hbr : b < r := by
      by_contra hle
      have hsq : r * r ≤ b * b := mul_self_le_mul_self (by omega) (by omega)
      have hprod : 0 ≤ a * (a - 1) := mul_nonneg (by omega) (by have := hmid.pos; omega)
      linarith [hmid.1]
    obtain rfl : a = midpointX r b := hmid.unique (isMidpoint_midpointX hb hbr)
    exact ⟨b, mem_circleSteps_of_mem_reflections h hb (by omega) hr' hp, hba,
      (mem_octantPoints_iff h).2 hp⟩

/-- **The outline is the midpoint walk.** A circle changes the pixels of the canvas that the walk
over unbounded integers plots, and no others, and gives them the value. -/
theorem circle_eq_paint_walk (c : Canvas) (cx cy : Int) {r : Int} (hr : 1 ≤ r) (hr' : r ≤ max64)
    (value : UInt8) :
    c.circle cx cy r value = c.paint (circleWalk cx cy r) value ∧
      ∀ x y, (c.circle cx cy r value).get? x y =
        if (x, y) ∈ circleWalk cx cy r ∧ c.Holds x y then some value else c.get? x y := by
  have hcircle : c.circle cx cy r value = c.paint (c.circlePoints cx cy r) value :=
    if_neg (by omega)
  have hview : ∀ x y, (c.circle cx cy r value).get? x y =
      if (x, y) ∈ circleWalk cx cy r ∧ c.Holds x y then some value else c.get? x y := by
    intro x y
    rw [hcircle, get?_paint]
    refine if_congr (and_congr_left fun h => ?_) rfl rfl
    exact mem_circlePoints_iff_mem_circleWalk hr hr' h
  refine ⟨ext_get? ?_ ?_ fun x y => ?_, hview⟩
  · rw [hcircle, width_paint, width_paint]
  · rw [hcircle, height_paint, height_paint]
  · rw [hview, get?_paint]

/-- A circle of the greatest radius, whose rightmost pixel is all that reaches the canvas. -/
theorem circle_eq_paint_walk_max64 :
    1 ≤ max64 ∧ max64 ≤ max64 ∧
      let c := blank 256 128 255
      c.circle (-max64) 64 max64 0 = c.paint (circleWalk (-max64) 64 max64) 0 ∧
        ∀ x y, (c.circle (-max64) 64 max64 0).get? x y =
          if (x, y) ∈ circleWalk (-max64) 64 max64 ∧ c.Holds x y then some 0 else c.get? x y :=
  ⟨by decide, by decide, circle_eq_paint_walk (blank 256 128 255) (-max64) 64 (by decide)
    (by decide) 0⟩

end Canvas

end SketchPreview
