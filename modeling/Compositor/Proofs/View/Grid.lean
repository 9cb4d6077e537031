import Compositor.Proofs.Geometry.Nearest
import Compositor.View.Paint

/-!
# The lines of the grid

The positions of the lines are found by adding the step again and again, and a number bounds how
often.  In exact arithmetic that number is never reached when the step is positive: it is larger
than the quotient of the canvas's side by the step, and each addition takes one off that quotient.
So the search ends by itself, and what it finds are the multiples of the step up to the side
(`gridPositions_eq`).  A step that is not positive leads to no end on any canvas
(`gridPositions_endless`).

The bound is then out of the way: the search finds what is walked without one, whatever the step
(`gridPositions_eq_ok_iff`).  On a canvas with room the lines that are painted are the grid lines to
which coordinates snap, every one that meets the canvas and none twice (`Document.grid_ruled`).
-/

namespace Compositor

namespace View

/-! ## 1. The positions along one side -/

variable {step limit x : Rat}

/-- How many positions there are from `x` on. -/
def positionCount (step limit x : Rat) : Nat := (⌊(limit - x) / step⌋ + 1).toNat

/-- A step takes one off the quotient. -/
theorem quotient_step (hstep : 0 < step) :
    (limit - (x + step)) / step = (limit - x) / step - 1 := by
  field_simp
  ring

/-- There is no position above the limit. -/
theorem positionCount_of_lt (hstep : 0 < step) (h : limit < x) :
    positionCount step limit x = 0 := by
  have hneg : (limit - x) / step < 0 := div_neg_of_neg_of_pos (sub_neg.mpr h) hstep
  have hfloor : ⌊(limit - x) / step⌋ < 0 := Int.floor_lt.mpr (by exact_mod_cast hneg)
  unfold positionCount
  omega

/-- Up to the limit there is one more position than after the next step. -/
theorem positionCount_of_le (hstep : 0 < step) (h : x ≤ limit) :
    positionCount step limit x = positionCount step limit (x + step) + 1 := by
  have hfloor : 0 ≤ ⌊(limit - x) / step⌋ :=
    Int.floor_nonneg.mpr (div_nonneg (sub_nonneg.mpr h) hstep.le)
  unfold positionCount
  rw [quotient_step hstep, Int.floor_sub_one]
  omega

/-- **The positions from a place on lie one step apart, up to the limit.**  The induction is on the
number that bounds the search, from which as much is taken as from the quotient. -/
theorem positionsFrom_eq (hstep : 0 < step) (fuel : Nat) (hfuel : (limit - x) / step < fuel) :
    positionsFrom step limit fuel x
      = .ok ((List.range (positionCount step limit x)).map fun k : Nat => x + k * step) := by
  induction fuel generalizing x with
  | zero =>
    have hlt : limit < x := by
      rw [Nat.cast_zero, div_lt_iff₀ hstep, zero_mul] at hfuel
      exact sub_neg.mp hfuel
    rw [positionCount_of_lt hstep hlt, positionsFrom, if_neg hlt.not_ge]
    rfl
  | succ fuel ih =>
    rw [positionsFrom]
    by_cases hle : x ≤ limit
    · have hrest : (limit - (x + step)) / step < fuel := by
        rw [quotient_step hstep, sub_lt_iff_lt_add]
        exact_mod_cast hfuel
      rw [if_pos hle, ih hrest, positionCount_of_le hstep hle, List.range_succ_eq_map,
        List.map_cons, List.map_map, Nat.cast_zero, zero_mul, add_zero]
      refine congrArg (fun xs => Except.ok (x :: xs)) (List.map_congr_left fun k _ => ?_)
      rw [Function.comp_apply, Nat.cast_succ]
      ring
    · rw [if_neg hle, positionCount_of_lt hstep (not_le.mp hle)]
      rfl

/-- The number that bounds the search is larger than the quotient. -/
theorem quotient_lt_positionsBound (hstep : 0 < step) :
    limit / step < positionsBound step limit := by
  have hbound : positionsBound step limit = 2 * ⌊limit / step⌋.toNat + 2 := by
    simp only [positionsBound, Exact.quotient_eq hstep.ne', Except.bind, Exact.floor_eq]
  have hfloor : limit / step < ⌊limit / step⌋ + 1 := Int.lt_floor_add_one _
  have hnat : (⌊limit / step⌋ + 1 : Int) ≤ (2 * ⌊limit / step⌋.toNat + 2 : Nat) := by omega
  rw [hbound]
  exact hfloor.trans_le (by exact_mod_cast hnat)

/-- **The lines of a grid with a positive step lie at the multiples of the step**, from zero up to
the side of the canvas. -/
theorem gridPositions_eq (hstep : 0 < step) (hlimit : 0 ≤ limit) :
    gridPositions step limit
      = .ok ((List.range (⌊limit / step⌋.toNat + 1)).map fun k : Nat => k * step) := by
  have hcount : positionCount step limit 0 = ⌊limit / step⌋.toNat + 1 := by
    have hfloor : 0 ≤ ⌊limit / step⌋ := Int.floor_nonneg.mpr (div_nonneg hlimit hstep.le)
    rw [positionCount, sub_zero]
    omega
  have hfuel : (limit - 0) / step < positionsBound step limit := by
    rw [sub_zero]
    exact quotient_lt_positionsBound hstep
  simp only [gridPositions, Exact.ofInt_eq, Int.cast_zero, decide_eq_true hlimit,
    if_neg hstep.not_ge]
  rw [Bool.not_true, if_neg Bool.false_ne_true, positionsFrom_eq hstep _ hfuel, hcount]
  simp only [zero_add]

/-- A step that is not positive leads to no end. -/
theorem gridPositions_endless (hstep : step ≤ 0) (hlimit : 0 ≤ limit) :
    gridPositions step limit = .error .endless := by
  simp only [gridPositions, Exact.ofInt_eq, Int.cast_zero, decide_eq_true hlimit, if_pos hstep]
  rfl

/-- A side below zero has no line. -/
theorem gridPositions_of_neg (hlimit : limit < 0) : gridPositions step limit = .ok [] := by
  simp only [gridPositions, Exact.ofInt_eq, Int.cast_zero, decide_eq_false hlimit.not_ge]
  rfl

/-- There are lines for every positive step; a side below zero has none. -/
theorem exists_gridPositions (hstep : 0 < step) (limit : Rat) :
    ∃ xs, gridPositions step limit = .ok xs := by
  rcases le_or_gt 0 limit with hlimit | hlimit
  · exact ⟨_, gridPositions_eq hstep hlimit⟩
  · exact ⟨[], gridPositions_of_neg hlimit⟩

/-- Painting the grid ends for every positive step. -/
theorem exists_paintGrid (hstep : 0 < step) (canvas : Extent Rat) :
    ∃ strokes, paintGrid step canvas = .ok strokes := by
  obtain ⟨xs, hxs⟩ := exists_gridPositions hstep canvas.width
  obtain ⟨ys, hys⟩ := exists_gridPositions hstep canvas.height
  rw [paintGrid, hxs, hys]
  exact ⟨_, rfl⟩

/-- **Painting the grid ends exactly if the step is positive**, on every canvas. -/
theorem exists_paintGrid_iff {canvas : Extent Rat} (hwidth : 0 ≤ canvas.width) :
    (∃ strokes, paintGrid step canvas = .ok strokes) ↔ 0 < step := by
  constructor
  · rintro ⟨strokes, h⟩
    by_contra hstep
    rw [paintGrid, gridPositions_endless (not_lt.mp hstep) hwidth] at h
    exact nomatch h
  · exact fun hstep => exists_paintGrid hstep canvas

/-! ## 2. The walk without a bound -/

section

variable {α : Type} [Scalar α] {step limit x : α} {xs ys : List α}

/-- Going along a side from a place, a step at a time, with a line at each place that is not beyond
the limit: `xs` are the places when the walk ends. -/
inductive Walk (step limit : α) : α → List α → Prop where
  | beyond {x : α} : ¬ x ≤ limit → Walk step limit x []
  | line {x : α} {xs : List α} :
      x ≤ limit → Walk step limit (x + step) xs → Walk step limit x (x :: xs)

/-- From each place there is one walk at most. -/
theorem Walk.unique (hxs : Walk step limit x xs) (hys : Walk step limit x ys) : xs = ys := by
  induction hxs generalizing ys with
  | beyond hbeyond =>
    cases hys with
    | beyond => rfl
    | line hwithin => exact absurd hwithin hbeyond
  | line hwithin _ ih =>
    cases hys with
    | beyond hbeyond => exact absurd hwithin hbeyond
    | line _ hrest => rw [ih hrest]

/-- What the search finds is walked, whatever number bounds it. -/
theorem walk_of_positionsFrom {fuel : Nat} (h : positionsFrom step limit fuel x = .ok xs) :
    Walk step limit x xs := by
  induction fuel generalizing x xs with
  | zero =>
    rw [positionsFrom] at h
    split at h
    case isTrue => exact nomatch h
    case isFalse hbeyond =>
      cases h
      exact .beyond hbeyond
  | succ fuel ih =>
    rw [positionsFrom] at h
    split at h
    case isTrue hwithin =>
      obtain ⟨rest, hrest, h⟩ := Fault.of_bind_eq_ok h
      cases h
      exact .line hwithin (ih hrest)
    case isFalse hbeyond =>
      cases h
      exact .beyond hbeyond

/-- The positions of the lines are walked from zero. -/
theorem walk_of_gridPositions (h : gridPositions step limit = .ok xs) :
    Walk step limit (Scalar.ofInt 0) xs := by
  unfold gridPositions at h
  split at h
  case isTrue hbeyond =>
    cases h
    exact .beyond (by simpa using hbeyond)
  case isFalse =>
    split at h
    case isTrue => exact nomatch h
    case isFalse => exact walk_of_positionsFrom h

end

/-- A walk that does not go forward can only end where it starts. -/
theorem Walk.lt_of_step_nonpos {xs : List Rat} (hstep : step ≤ 0) (h : Walk step limit x xs) :
    limit < x := by
  induction h with
  | beyond hbeyond => exact not_le.mp hbeyond
  | line hwithin _ ih =>
    exact absurd (ih.trans_le (add_le_of_nonpos_right hstep)) hwithin.not_gt

/-- **The search finds what is walked, and nothing where the walk has no end**, for every step and
every side. -/
theorem gridPositions_eq_ok_iff {xs : List Rat} :
    gridPositions step limit = .ok xs ↔ Walk step limit 0 xs := by
  refine ⟨walk_of_gridPositions, fun h => ?_⟩
  have hends : ∃ ys, gridPositions step limit = .ok ys := by
    rcases lt_or_ge 0 step with hstep | hstep
    · exact exists_gridPositions hstep limit
    · exact ⟨[], gridPositions_of_neg (h.lt_of_step_nonpos hstep)⟩
  obtain ⟨ys, hys⟩ := hends
  rw [hys, h.unique (walk_of_gridPositions hys)]

/-! ## 3. The lines of a grid -/

/-- Positions along a side that are its grid lines, all of them from zero up to the limit, in order
and none twice. -/
structure Ruled (g : Grid Rat) (limit : Rat) (xs : List Rat) : Prop where
  /-- There is a line at the start and one for each whole cell. -/
  length : (xs.length : ℤ) = ⌊limit / g.size⌋ + 1
  /-- The first one is at zero, and they are a cell apart. -/
  place : ∀ k < xs.length, xs[k]? = some (k * g.size)
  /-- The last one is the greatest grid line within the limit. -/
  last : ∃ v, xs.getLast? = some v ∧ IsGreatest {w | g.Line w ∧ w ≤ limit} v
  /-- No grid line on the side is left out, and there is none beyond it. -/
  mem_iff : ∀ v, v ∈ xs ↔ g.Line v ∧ 0 ≤ v ∧ v ≤ limit
  nodup : xs.Nodup

/-- The multiples of the cell from zero up to a limit. -/
def multiples (g : Grid Rat) (limit : Rat) : List Rat :=
  (List.range (⌊limit / g.size⌋.toNat + 1)).map fun k : Nat => k * g.size

section

variable {g : Grid Rat}

/-- The lines of a side go up to the last grid line there. -/
theorem Ruled.getLast?_eq {xs : List Rat} (h : Ruled g limit xs) (hsize : 0 < g.size) :
    xs.getLast? = some (g.lastLine limit) := by
  obtain ⟨v, hv, hgreatest⟩ := h.last
  rw [hv, hgreatest.unique (Grid.isGreatest_lastLine hsize limit)]

/-- The multiples are the grid lines on the side. -/
theorem mem_multiples_iff (hsize : 0 < g.size) (hlimit : 0 ≤ limit) {v : Rat} :
    v ∈ multiples g limit ↔ g.Line v ∧ 0 ≤ v ∧ v ≤ limit := by
  have hfloor : 0 ≤ ⌊limit / g.size⌋ := Int.floor_nonneg.mpr (div_nonneg hlimit hsize.le)
  rw [multiples, List.mem_map]
  constructor
  · rintro ⟨k, hk, rfl⟩
    have hcells : (k : ℤ) ≤ ⌊limit / g.size⌋ := by
      have := List.mem_range.mp hk
      omega
    have hwithin : ((k : ℤ) : Rat) * g.size ≤ limit := (Grid.line_le_iff hsize k limit).mpr hcells
    exact ⟨⟨k, rfl⟩, by positivity, hwithin⟩
  · rintro ⟨⟨k, rfl⟩, hlow, hhigh⟩
    have hpos : 0 ≤ k := by exact_mod_cast nonneg_of_mul_nonneg_left hlow hsize
    have hcells : k ≤ ⌊limit / g.size⌋ := (Grid.line_le_iff hsize k limit).mp hhigh
    refine ⟨k.toNat, List.mem_range.mpr (by omega), ?_⟩
    rw [← Int.cast_natCast, Int.toNat_of_nonneg hpos]

/-- The multiples of the cell are the lines of a side. -/
theorem ruled_multiples (hsize : 0 < g.size) (hlimit : 0 ≤ limit) :
    Ruled g limit (multiples g limit) := by
  have hfloor : 0 ≤ ⌊limit / g.size⌋ := Int.floor_nonneg.mpr (div_nonneg hlimit hsize.le)
  have hcells : (⌊limit / g.size⌋.toNat : ℤ) = ⌊limit / g.size⌋ := Int.toNat_of_nonneg hfloor
  have hlength : (multiples g limit).length = ⌊limit / g.size⌋.toNat + 1 := by
    rw [multiples, List.length_map, List.length_range]
  have hlast : (multiples g limit).getLast? = some (g.lastLine limit) := by
    rw [multiples, List.range_succ, List.map_append, List.map_singleton, List.getLast?_concat,
      Grid.lastLine, ← Int.cast_natCast, hcells]
  exact {
    length := by rw [hlength, Nat.cast_succ, hcells]
    place := by
      intro k hk
      rw [hlength] at hk
      rw [multiples, List.getElem?_map, List.getElem?_range hk, Option.map_some]
    last := ⟨_, hlast, Grid.isGreatest_lastLine hsize limit⟩
    mem_iff := fun _ => mem_multiples_iff hsize hlimit
    nodup := by
      refine List.Nodup.map (fun i j hij => ?_) List.nodup_range
      exact_mod_cast mul_right_cancel₀ hsize.ne' hij }

end

/-! ## 4. The lines that are painted -/

/-- The strokes of a grid on a canvas: upright lines from the top to the bottom, then level ones
from the left to the right. -/
def gridLines (canvas : Extent Rat) (xs ys : List Rat) : List (Stroke Rat) :=
  xs.map (fun x => .line ⟨x, 0⟩ ⟨x, canvas.height⟩) ++
    ys.map fun y => .line ⟨0, y⟩ ⟨canvas.width, y⟩

/-- **What is painted are the lines at the places that are walked along both sides**, after their
colour; and nothing is painted where a walk has no end. -/
theorem paintGrid_eq_ok_iff {canvas : Extent Rat} {strokes : List (Stroke Rat)} :
    paintGrid step canvas = .ok strokes ↔
      ∃ xs ys, Walk step canvas.width 0 xs ∧ Walk step canvas.height 0 ys ∧
        strokes = .pen (.blackened 20) 0 .solid :: gridLines canvas xs ys := by
  constructor
  · intro h
    obtain ⟨xs, hxs, h⟩ := Fault.of_bind_eq_ok h
    obtain ⟨ys, hys, h⟩ := Fault.of_bind_eq_ok h
    cases h
    exact ⟨xs, ys, gridPositions_eq_ok_iff.mp hxs, gridPositions_eq_ok_iff.mp hys, rfl⟩
  · rintro ⟨xs, ys, hxs, hys, rfl⟩
    rw [paintGrid, gridPositions_eq_ok_iff.mpr hxs, gridPositions_eq_ok_iff.mpr hys]
    rfl

/-- No line is painted twice on a canvas with a width: what lies upright is not level. -/
theorem nodup_gridLines {canvas : Extent Rat} (hwidth : 0 < canvas.width) {xs ys : List Rat}
    (hxs : xs.Nodup) (hys : ys.Nodup) : (gridLines canvas xs ys).Nodup := by
  refine List.nodup_append.mpr ⟨hxs.map ?_, hys.map ?_, ?_⟩
  · intro x x' h
    exact congrArg Point.x (Stroke.line.inj h).1
  · intro y y' h
    exact congrArg Point.y (Stroke.line.inj h).1
  · intro s hs t ht hst
    obtain ⟨x, -, rfl⟩ := List.mem_map.mp hs
    obtain ⟨y, -, rfl⟩ := List.mem_map.mp ht
    obtain ⟨hstart, hstop⟩ := Stroke.line.inj hst
    have hleft : x = 0 := congrArg Point.x hstart
    have hright : x = canvas.width := congrArg Point.x hstop
    exact hwidth.ne (hleft.symm.trans hright)

end View

/-- **The grid of a document is painted in full**, for every positive cell and every canvas with
room.  The walk along each side comes to an end, and there is a line at each of its places: one at
zero and one for each whole cell, all the grid lines to which coordinates snap, up to the last one
that meets the canvas.  The lines reach from edge to edge and not beyond, and none is painted
twice. -/
theorem Document.grid_ruled {d : Document Rat} (hgrid : 0 < d.gridSize)
    (hcanvas : 0 < d.canvas.width ∧ 0 < d.canvas.height) :
    ∃ xs ys,
      (View.Walk d.gridSize d.canvas.width 0 xs ∧ View.Walk d.gridSize d.canvas.height 0 ys) ∧
      (View.Ruled d.grid d.canvas.width xs ∧ View.Ruled d.grid d.canvas.height ys) ∧
      View.paintGrid d.gridSize d.canvas
        = .ok (.pen (.blackened 20) 0 .solid :: View.gridLines d.canvas xs ys) ∧
      (View.gridLines d.canvas xs ys).Nodup ∧
      ∀ a b, .line a b ∈ View.gridLines d.canvas xs ys →
        Rect.containsClosed ⟨0, 0, d.canvas.width, d.canvas.height⟩ a = true ∧
        Rect.containsClosed ⟨0, 0, d.canvas.width, d.canvas.height⟩ b = true := by
  obtain ⟨hwidth, hheight⟩ := hcanvas
  have hxs := View.ruled_multiples (g := d.grid) hgrid hwidth.le
  have hys := View.ruled_multiples (g := d.grid) hgrid hheight.le
  have hacross : View.Walk d.gridSize d.canvas.width 0 (View.multiples d.grid d.canvas.width) :=
    View.gridPositions_eq_ok_iff.mp (View.gridPositions_eq hgrid hwidth.le)
  have hdown : View.Walk d.gridSize d.canvas.height 0 (View.multiples d.grid d.canvas.height) :=
    View.gridPositions_eq_ok_iff.mp (View.gridPositions_eq hgrid hheight.le)
  refine ⟨_, _, ⟨hacross, hdown⟩, ⟨hxs, hys⟩,
    View.paintGrid_eq_ok_iff.mpr ⟨_, _, hacross, hdown, rfl⟩,
    View.nodup_gridLines hwidth hxs.nodup hys.nodup, fun a b hline => ?_⟩
  rcases List.mem_append.mp hline with hupright | hlevel
  · obtain ⟨x, hx, h⟩ := List.mem_map.mp hupright
    obtain ⟨rfl, rfl⟩ := Stroke.line.inj h
    obtain ⟨-, hlow, hhigh⟩ := (hxs.mem_iff x).mp hx
    simp [Rect.containsClosed, Rect.right, Rect.bottom, hlow, hhigh, hheight.le]
  · obtain ⟨y, hy, h⟩ := List.mem_map.mp hlevel
    obtain ⟨rfl, rfl⟩ := Stroke.line.inj h
    obtain ⟨-, hlow, hhigh⟩ := (hys.mem_iff y).mp hy
    simp [Rect.containsClosed, Rect.right, Rect.bottom, hlow, hhigh, hwidth.le]

/-- A canvas as wide as forty cells that are not whole: its right edge is a line, its lower one is
not. -/
theorem Document.grid_ruled_fraction :
    let d : Document Rat := { Document.empty with canvas := ⟨500, 846⟩, gridSize := 25 / 2 }
    0 < d.gridSize ∧ (0 < d.canvas.width ∧ 0 < d.canvas.height) ∧
    ∃ xs ys,
      View.paintGrid d.gridSize d.canvas
        = .ok (.pen (.blackened 20) 0 .solid :: View.gridLines d.canvas xs ys) ∧
      (xs.length = 41 ∧ xs.getLast? = some 500) ∧
      (ys.length = 68 ∧ ys.getLast? = some (1675 / 2)) := by
  intro d
  have hgrid : 0 < d.gridSize := by norm_num [d]
  have hcanvas : 0 < d.canvas.width ∧ 0 < d.canvas.height := by norm_num [d]
  obtain ⟨xs, ys, -, ⟨hxs, hys⟩, hpainted, -⟩ := grid_ruled hgrid hcanvas
  have hacross : ⌊d.canvas.width / d.grid.size⌋ = 40 := by norm_num [d, Document.grid]
  have hdown : ⌊d.canvas.height / d.grid.size⌋ = 67 := by norm_num [d, Document.grid]
  have hupright : (xs.length : ℤ) = 41 := by rw [hxs.length, hacross]; rfl
  have hlevel : (ys.length : ℤ) = 68 := by rw [hys.length, hdown]; rfl
  have hright : d.grid.lastLine d.canvas.width = 500 := by
    rw [Grid.lastLine, hacross]
    norm_num [d, Document.grid]
  have hlower : d.grid.lastLine d.canvas.height = 1675 / 2 := by
    rw [Grid.lastLine, hdown]
    norm_num [d, Document.grid]
  exact ⟨hgrid, hcanvas, xs, ys, hpainted,
    ⟨by exact_mod_cast hupright, hright ▸ hxs.getLast?_eq hgrid⟩,
    by exact_mod_cast hlevel, hlower ▸ hys.getLast?_eq hgrid⟩

end Compositor
