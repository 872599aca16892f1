import SketchPreview.Proofs.SortedMap
import SketchPreview.Proofs.Storage.Path
import SketchPreview.Storage.Disk

/-!
# The way to a place

The steps of a path lead from folder to folder, and on at the target where they meet a link. Only
folders and links count on the way: files and devices stand at its end.

* `Leads`, **`walk_eq_ok`**: the way as a relation, and the walk that follows it;
* `Leads.snoc`, `Leads.concat`, `Leads.entry`: one step more, and links at the end;
* `SameWays`: disks on which paths lead to the same places;
* `Within`, `Within.locate`: a disk on which less stands, and the paths that still lead somewhere.
-/

namespace SketchPreview.Disk

open FilePath

variable {d d' : Disk} {follow : Bool} {n : Nat} {place names q : List String}

theorem node?_nil (d : Disk) : d.node? [] = some .folder := if_pos rfl

theorem ne_nil_of_node?_ne (h : d.node? place ≠ some .folder) : place ≠ [] := fun hplace =>
  h (hplace ▸ d.node?_nil)

theorem node?_put (hplace : place ≠ []) (node : Node) (q : List String) :
    (d.put place node).node? q = if q = place then some node else d.node? q := by
  by_cases hq : q = []
  · rw [hq, node?_nil, node?_nil, if_neg (Ne.symm hplace)]
  · rw [node?, node?, if_neg hq, if_neg hq, put, SortedMap.get?_insert]
    simp only [beq_iff_eq]

/-! ## Steps that lead to a place -/

/-- Steps lead from one place to another over so many links at most. -/
inductive Leads (d : Disk) (follow : Bool) :
    Nat → List String → List String → List String → Prop
  | stay (n : Nat) (place : List String) : Leads d follow n place [] place
  | last {n : Nat} {place next : List String} {name : String} (hstep : step place name = .ok next)
    (hend : follow = true → ∀ target, d.node? next ≠ some (.link target)) :
    Leads d follow n place [name] next
  | folder {n : Nat} {place next rest q : List String} {name : String}
    (hstep : step place name = .ok next) (hrest : rest ≠ [])
    (hnode : d.node? next = some .folder) (h : Leads d follow n next rest q) :
    Leads d follow n place (name :: rest) q
  | link {n : Nat} {place next rest q : List String} {name target : String}
    (hstep : step place name = .ok next) (hrest : rest = [] → follow = true)
    (hnode : d.node? next = some (.link target))
    (h : Leads d follow n (start place target) (steps target ++ rest) q) :
    Leads d follow (n + 1) place (name :: rest) q

theorem leads_cons_iff {name : String} {rest : List String} :
    d.Leads follow n place (name :: rest) q ↔ ∃ next, step place name = .ok next ∧
      (rest = [] ∧ (follow = true → ∀ target, d.node? next ≠ some (.link target)) ∧ next = q ∨
        rest ≠ [] ∧ d.node? next = some .folder ∧ d.Leads follow n next rest q ∨
        ∃ target k, n = k + 1 ∧ (rest = [] → follow = true) ∧
          d.node? next = some (.link target) ∧
          d.Leads follow k (start place target) (steps target ++ rest) q) := by
  constructor
  · intro h
    cases h with
    | last hstep hend => exact ⟨_, hstep, .inl ⟨rfl, hend, rfl⟩⟩
    | folder hstep hrest hnode h => exact ⟨_, hstep, .inr (.inl ⟨hrest, hnode, h⟩)⟩
    | link hstep hrest hnode h => exact ⟨_, hstep, .inr (.inr ⟨_, _, rfl, hrest, hnode, h⟩)⟩
  · rintro ⟨next, hstep, ⟨rfl, hend, rfl⟩ | ⟨hrest, hnode, h⟩ | ⟨target, k, rfl, hrest, hnode, h⟩⟩
    · exact .last hstep hend
    · exact .folder hstep hrest hnode h
    · exact .link hstep hrest hnode h

theorem walkWith_eq_ok {onward : List String → List String → Except FileError (List String)}
    (honward : ∀ place names, onward place names = .ok q ↔
      ∃ k, n = k + 1 ∧ d.Leads follow k place names q) :
    d.walkWith follow onward place names = .ok q ↔ d.Leads follow n place names q := by
  induction names generalizing place with
  | nil =>
    rw [walkWith, Except.ok.injEq]
    exact ⟨fun h => h ▸ .stay n place, fun h => by cases h; rfl⟩
  | cons name rest ih =>
    rw [walkWith, leads_cons_iff]
    cases step place name with
    | error e => simp
    | ok next =>
      by_cases hend : rest = [] ∧ follow = false
      · simp [hend]
      · have hfollow : rest = [] → follow = true := fun h => by simpa [h] using hend
        have hnext : ¬(rest = [] ∧ follow = false ∧ next = q) := fun h => hend ⟨h.1, h.2.1⟩
        rcases hnode : d.node? next with _ | _ | _ | target | _
        · by_cases hrest : rest = [] <;> simp [hrest, hnode]
        · by_cases hrest : rest = [] <;> simp [hrest, hnode, ih]
        · by_cases hrest : rest = [] <;> simp [hrest, hnode]
        · simp [hend, hnode, honward, eq_true hfollow, hnext]
        · by_cases hrest : rest = [] <;> simp [hrest, hnode]

/-- **A walk follows the way.** -/
theorem walk_eq_ok : d.walk follow n place names = .ok q ↔ d.Leads follow n place names q := by
  induction n generalizing place names with
  | zero => exact walkWith_eq_ok fun _ _ => by simp
  | succ n ih => exact walkWith_eq_ok fun _ _ => by simp [ih]

theorem Leads.unique {p : List String} (h : d.Leads follow n place names p)
    (h' : d.Leads follow n place names q) : p = q :=
  Except.ok.inj ((walk_eq_ok.2 h).symm.trans (walk_eq_ok.2 h'))

theorem find_eq_ok {path : String} :
    d.find follow path = .ok q ↔ pathFault? path = none ∧ path ≠ "" ∧
      d.Leads follow maxLinks (d.origin path) (steps path) q := by
  rw [find]
  cases pathFault? path with
  | some e => simp
  | none => by_cases hpath : path = "" <;> simp [hpath, walk_eq_ok]

theorem step_of_isComponent {name : String} (h : IsComponent name) {place next : List String}
    (hstep : step place name = .ok next) : next = place ++ [name] := by
  rw [step, if_neg h.ne_point, if_neg h.ne_points] at hstep
  split at hstep
  · cases hstep
  · exact (Except.ok.inj hstep).symm

/-! ## One step more -/

section Cons

variable {next rest : List String} {name : String} (hstep : step place name = .ok next)
include hstep

theorem leads_cons_of_folder (hnode : d.node? next = some .folder) (hrest : rest ≠ []) :
    d.Leads follow n place (name :: rest) q ↔ d.Leads follow n next rest q := by
  rw [leads_cons_iff]
  constructor
  · rintro ⟨next', hstep', ⟨hrest', -⟩ | ⟨-, -, h⟩ | ⟨_, _, -, -, hnode', -⟩⟩
    · exact absurd hrest' hrest
    · exact Except.ok.inj (hstep.symm.trans hstep') ▸ h
    · rw [← Except.ok.inj (hstep.symm.trans hstep'), hnode] at hnode'
      cases hnode'
  · exact fun h => ⟨next, hstep, .inr (.inl ⟨hrest, hnode, h⟩)⟩

theorem leads_cons_of_link {target : String} (hnode : d.node? next = some (.link target))
    (hrest : rest ≠ []) :
    d.Leads follow (n + 1) place (name :: rest) q ↔
      d.Leads follow n (start place target) (steps target ++ rest) q := by
  rw [leads_cons_iff]
  constructor
  · rintro ⟨next', hstep', ⟨hrest', -⟩ | ⟨-, hnode', -⟩ | ⟨target', k, hk, -, hnode', h⟩⟩
    · exact absurd hrest' hrest
    · rw [← Except.ok.inj (hstep.symm.trans hstep'), hnode] at hnode'
      cases hnode'
    · rw [← Except.ok.inj (hstep.symm.trans hstep'), hnode] at hnode'
      obtain rfl : n = k := Nat.succ.inj hk
      cases hnode'
      exact h
  · exact fun h => ⟨next, hstep, .inr (.inr ⟨target, n, rfl, (absurd · hrest), hnode, h⟩)⟩

end Cons

theorem leads_singleton_iff {name : String} {p : List String} :
    d.Leads false n place [name] p ↔ step place name = .ok p := by
  rw [leads_cons_iff]
  constructor
  · rintro ⟨next, hstep, ⟨-, -, rfl⟩ | ⟨hrest, -⟩ | ⟨_, _, -, hrest, -⟩⟩
    · exact hstep
    · exact absurd rfl hrest
    · cases hrest rfl
  · exact fun hstep => ⟨p, hstep, .inl ⟨rfl, nofun, rfl⟩⟩

theorem Leads.concat (h : d.Leads true n place names q) (hq : d.node? q = some .folder)
    {name : String} {p : List String} :
    d.Leads false n place (names ++ [name]) p ↔ step q name = .ok p := by
  induction h with
  | stay => exact leads_singleton_iff
  | last hstep hend =>
    exact (leads_cons_of_folder hstep hq (by simp)).trans leads_singleton_iff
  | folder hstep hrest hnode h ih =>
    exact (leads_cons_of_folder hstep hnode (by simp)).trans (ih hq)
  | link hstep hrest hnode h ih =>
    rw [List.append_assoc] at ih
    exact (leads_cons_of_link hstep hnode (by simp)).trans (ih hq)

/-- The same folders and links stand on two disks. -/
structure SameWays (d d' : Disk) : Prop where
  current : d'.current = d.current
  folder (place : List String) : d'.node? place = some .folder ↔ d.node? place = some .folder
  link (place : List String) (target : String) :
    d'.node? place = some (.link target) ↔ d.node? place = some (.link target)

theorem SameWays.symm (h : SameWays d d') : SameWays d' d :=
  ⟨h.current.symm, fun place => (h.folder place).symm, fun place target =>
    (h.link place target).symm⟩

theorem SameWays.leads (hways : SameWays d d') (h : d.Leads follow n place names q) :
    d'.Leads follow n place names q := by
  induction h with
  | stay n place => exact .stay n place
  | last hstep hend =>
    exact .last hstep fun hfollow target hnode => hend hfollow target ((hways.link _ _).1 hnode)
  | folder hstep hrest hnode _ ih => exact .folder hstep hrest ((hways.folder _).2 hnode) ih
  | link hstep hrest hnode _ ih => exact .link hstep hrest ((hways.link _ _).2 hnode) ih

theorem origin_congr (h : d'.current = d.current) (path : String) :
    d'.origin path = d.origin path := by
  rw [origin, origin, h]

theorem SameWays.find_eq_ok (h : SameWays d d') {path : String} :
    d'.find follow path = .ok q ↔ d.find follow path = .ok q := by
  rw [Disk.find_eq_ok, Disk.find_eq_ok, origin_congr h.current]
  exact and_congr_right fun _ => and_congr_right fun _ => ⟨h.symm.leads, h.leads⟩

/-! ## Disks on which less stands -/

/-- A disk on which everything is as on another one, as far as it is there. -/
structure Within (d' d : Disk) : Prop where
  current : d'.current = d.current
  node {place : List String} {node : Node} : d'.node? place = some node → d.node? place = some node

theorem Within.refl (d : Disk) : d.Within d := ⟨rfl, id⟩

theorem Within.trans {d'' : Disk} (h' : d''.Within d') (h : d'.Within d) : d''.Within d :=
  ⟨h'.current.trans h.current, fun hnode => h.node (h'.node hnode)⟩

theorem Within.leads (hd : d'.Within d) {node : Node} (h : d'.Leads follow n place names q)
    (hq : d'.node? q = some node) : d.Leads follow n place names q := by
  induction h with
  | stay n place => exact .stay n place
  | last hstep hend =>
    refine .last hstep fun hfollow target hnode => hend hfollow target ?_
    rw [hq, ← hd.node hq, hnode]
  | folder hstep hrest hnode _ ih => exact .folder hstep hrest (hd.node hnode) (ih hq)
  | link hstep hrest hnode _ ih => exact .link hstep hrest (hd.node hnode) (ih hq)

theorem Within.find (hd : d'.Within d) {node : Node} {path : String}
    (h : d'.find follow path = .ok q) (hq : d'.node? q = some node) :
    d.find follow path = .ok q := by
  obtain ⟨hfault, hpath, h⟩ := Disk.find_eq_ok.1 h
  rw [origin_congr hd.current] at h
  exact Disk.find_eq_ok.2 ⟨hfault, hpath, hd.leads h hq⟩

end SketchPreview.Disk
