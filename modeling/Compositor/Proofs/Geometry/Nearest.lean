import Compositor.Proofs.Geometry.Exact

/-!
# The nearest grid line

Snapping takes a coordinate to a grid line within half a cell of it, and of two such lines to the
upper one.  There is exactly one line in the half-open cell around a coordinate, so this says all of
it (`Grid.nearest_eq_iff`): what is known of snapping is read off that one equivalence, and no proof
goes back to floors.

Reflected at a grid line, halves go down instead of up.  So the distance from a line and the
coordinate at that distance are snapped to the same line, except in the middle of a cell, where they
part by one cell (`Grid.nearest_line_sub`).

Whether a coordinate snaps to within a limit is told by the last line in front of the limit
(`Grid.nearest_le_iff`).

All of this taken together, snapping is the projection onto the grid lines (`Grid.snap_projects`).
-/

namespace Compositor.Grid

/-- Whether coordinates snap to the grid. -/
def Snaps (g : Grid Rat) : Prop := g.enabled = true ∧ 0 < g.size

/-- A coordinate that is a grid line. -/
def Line (g : Grid Rat) (v : Rat) : Prop := ∃ k : ℤ, v = k * g.size

variable {g : Grid Rat}

/-- Where coordinates snap, they do so by rounding, halves up. -/
theorem nearest_of_snaps (hg : g.Snaps) (v : Rat) :
    g.nearest v = ⌊v / g.size + 1 / 2⌋ * g.size := if_pos hg

/-- Where coordinates do not snap, each stays where it is. -/
theorem nearest_of_not_snaps (hg : ¬ g.Snaps) (v : Rat) : g.nearest v = v := if_neg hg

/-- **A coordinate snaps to a grid line exactly if the line is in the cell around it**: less than
half a cell below, or at most half a cell above. -/
theorem nearest_eq_iff (hg : g.Snaps) (v : Rat) (k : ℤ) :
    g.nearest v = k * g.size ↔ v - g.size / 2 < k * g.size ∧ k * g.size ≤ v + g.size / 2 := by
  have hsize := hg.2
  rw [nearest_of_snaps hg, mul_left_inj' hsize.ne', Int.cast_inj, Int.floor_eq_iff,
    ← mul_le_mul_iff_left₀ hsize, ← mul_lt_mul_iff_left₀ hsize, add_mul,
    div_mul_cancel₀ _ hsize.ne']
  constructor
  · rintro ⟨hhigh, hlow⟩
    constructor <;> linarith
  · rintro ⟨hlow, hhigh⟩
    constructor <;> linarith

/-- A coordinate snaps to a grid line in the cell around it. -/
theorem exists_nearest_eq (hg : g.Snaps) (v : Rat) :
    ∃ k : ℤ, g.nearest v = k * g.size ∧ v - g.size / 2 < k * g.size ∧
      k * g.size ≤ v + g.size / 2 :=
  ⟨_, nearest_of_snaps hg v, (nearest_eq_iff hg v _).mp (nearest_of_snaps hg v)⟩

/-- What a coordinate snaps to is a grid line. -/
theorem line_nearest (hg : g.Snaps) (v : Rat) : g.Line (g.nearest v) :=
  ⟨_, nearest_of_snaps hg v⟩

/-- A coordinate does not snap farther than half a cell. -/
theorem abs_nearest_sub_le (hg : g.Snaps) (v : Rat) : |g.nearest v - v| ≤ g.size / 2 := by
  obtain ⟨k, hk, hlow, hhigh⟩ := exists_nearest_eq hg v
  rw [hk, abs_le]
  constructor <;> linarith

/-- Zero is a grid line. -/
theorem line_zero : g.Line 0 := ⟨0, by simp⟩

/-- The distance of two grid lines is the coordinate of a third. -/
theorem Line.sub {v w : Rat} (hv : g.Line v) (hw : g.Line w) : g.Line (v - w) := by
  obtain ⟨i, rfl⟩ := hv
  obtain ⟨j, rfl⟩ := hw
  exact ⟨i - j, by rw [Int.cast_sub, sub_mul]⟩

/-- A grid line snaps to itself. -/
theorem Line.nearest_eq (hg : g.Snaps) {v : Rat} (hv : g.Line v) : g.nearest v = v := by
  obtain ⟨k, rfl⟩ := hv
  have hhalf := half_pos hg.2
  exact (nearest_eq_iff hg _ k).mpr ⟨sub_lt_self _ hhalf, le_add_of_nonneg_right hhalf.le⟩

/-- What is a grid line wherever coordinates snap stays where it is. -/
theorem nearest_of_line {v : Rat} (h : g.Snaps → g.Line v) : g.nearest v = v := by
  by_cases hg : g.Snaps
  · exact (h hg).nearest_eq hg
  · exact nearest_of_not_snaps hg v

/-- Snapping keeps the order. -/
theorem nearest_mono (hg : g.Snaps) {v w : Rat} (h : v ≤ w) : g.nearest v ≤ g.nearest w := by
  have hsize := hg.2.le
  rw [nearest_of_snaps hg, nearest_of_snaps hg]
  gcongr

/-- A coordinate that is not negative does not snap below zero. -/
theorem nearest_nonneg (hg : g.Snaps) {v : Rat} (h : 0 ≤ v) : 0 ≤ g.nearest v :=
  (line_zero.nearest_eq hg).symm.trans_le (nearest_mono hg h)

/-- A coordinate that is not above a grid line does not snap above it. -/
theorem Line.nearest_le (hg : g.Snaps) {line v : Rat} (hline : g.Line line) (h : v ≤ line) :
    g.nearest v ≤ line := (nearest_mono hg h).trans_eq (hline.nearest_eq hg)

/-- The last grid line that is not beyond a limit. -/
def lastLine (g : Grid Rat) (limit : Rat) : Rat := ⌊limit / g.size⌋ * g.size

/-- A grid line is within a limit if the last one is not before it. -/
theorem line_le_iff (hsize : 0 < g.size) (k : ℤ) (limit : Rat) :
    k * g.size ≤ limit ↔ k ≤ ⌊limit / g.size⌋ := by
  rw [Int.le_floor, le_div_iff₀ hsize]

/-- The last grid line is the greatest one within the limit. -/
theorem isGreatest_lastLine (hsize : 0 < g.size) (limit : Rat) :
    IsGreatest {v | g.Line v ∧ v ≤ limit} (g.lastLine limit) := by
  refine ⟨⟨⟨_, rfl⟩, (line_le_iff hsize _ limit).mpr le_rfl⟩, ?_⟩
  rintro _ ⟨⟨k, rfl⟩, hk⟩
  have hlines : (k : Rat) ≤ ⌊limit / g.size⌋ := by
    exact_mod_cast (line_le_iff hsize k limit).mp hk
  exact mul_le_mul_of_nonneg_right hlines hsize.le

/-- **A coordinate snaps to within a limit exactly if it is before the middle of the cell that
follows the last grid line there.** -/
theorem nearest_le_iff (hg : g.Snaps) (v limit : Rat) :
    g.nearest v ≤ limit ↔ v < g.lastLine limit + g.size / 2 := by
  obtain ⟨k, hk, hlow, hhigh⟩ := exists_nearest_eq hg v
  have hsize := hg.2
  rw [hk, line_le_iff hsize, lastLine]
  constructor
  · intro hle
    have hline : (k : Rat) * g.size ≤ ⌊limit / g.size⌋ * g.size := by gcongr
    linarith
  · intro hlt
    have hnext : (k : Rat) * g.size < (⌊limit / g.size⌋ + 1 : ℤ) * g.size := by
      push_cast
      linarith
    have hk : k < ⌊limit / g.size⌋ + 1 := by exact_mod_cast lt_of_mul_lt_mul_right hnext hsize.le
    omega

/-- **Seen from a grid line, a length and the coordinate at that distance snap alike**, except that
in the middle of a cell both go up. -/
theorem nearest_line_sub (hg : g.Snaps) {line : Rat} (hline : g.Line line) (v : Rat) :
    (g.nearest v < v + g.size / 2 ∧ g.nearest (line - v) = line - g.nearest v) ∨
    (g.nearest v = v + g.size / 2 ∧ g.nearest (line - v) = line - g.nearest v + g.size) := by
  obtain ⟨j, rfl⟩ := hline
  obtain ⟨k, hk, hlow, hhigh⟩ := exists_nearest_eq hg v
  rw [hk]
  rcases hhigh.lt_or_eq with hlt | heq
  · refine .inl ⟨hlt, ?_⟩
    have hline : (j : Rat) * g.size - k * g.size = (j - k : ℤ) * g.size := by
      push_cast
      ring
    rw [hline, nearest_eq_iff hg, ← hline]
    constructor <;> linarith
  · refine .inr ⟨heq, ?_⟩
    have hline : (j : Rat) * g.size - k * g.size + g.size = (j - k + 1 : ℤ) * g.size := by
      push_cast
      ring
    have hsize := hg.2
    rw [hline, nearest_eq_iff hg, ← hline]
    constructor <;> linarith

/-- Moved by whole cells, a coordinate snaps to the line that is as many cells away. -/
theorem nearest_add_line (hg : g.Snaps) (v : Rat) (k : ℤ) :
    g.nearest (v + k * g.size) = g.nearest v + k * g.size := by
  obtain ⟨n, hn, hlow, hhigh⟩ := exists_nearest_eq hg v
  have hline : (n : Rat) * g.size + k * g.size = (n + k : ℤ) * g.size := by
    push_cast
    ring
  rw [hn, hline, nearest_eq_iff hg, ← hline]
  constructor <;> linarith

/-- **Snapping projects onto the grid lines.**  Where coordinates snap, each of them does.  It snaps
to the one grid line that is less than half a cell below it or at most half a cell above it, so that
halves go up on either side of zero.  The grid lines stay where they are, and nothing else does.  The
order is kept, and what is moved by whole cells snaps to a line that is moved by as many. -/
theorem snap_projects (hg : g.Snaps) (v : Rat) :
    ∃ line, g.snap v = .ok line ∧
      g.Line line ∧ v - g.size / 2 < line ∧ line ≤ v + g.size / 2 ∧
      (∀ other, g.Line other → v - g.size / 2 < other → other ≤ v + g.size / 2 → other = line) ∧
      g.snap line = .ok line ∧ (g.snap v = .ok v ↔ g.Line v) ∧
      (∀ w line', v ≤ w → g.snap w = .ok line' → line ≤ line') ∧
      ∀ k : ℤ, g.snap (v + k * g.size) = .ok (line + k * g.size) := by
  obtain ⟨n, hn, hlow, hhigh⟩ := exists_nearest_eq hg v
  refine ⟨g.nearest v, snap_eq g v, line_nearest hg v, hn ▸ hlow, hn ▸ hhigh, ?_, ?_, ?_, ?_, ?_⟩
  · rintro _ ⟨k, rfl⟩ hlow' hhigh'
    exact ((nearest_eq_iff hg v k).mpr ⟨hlow', hhigh'⟩).symm
  · rw [snap_eq, (line_nearest hg v).nearest_eq hg]
  · rw [snap_eq, Except.ok.injEq]
    exact ⟨fun h => h ▸ line_nearest hg v, fun h => h.nearest_eq hg⟩
  · intro w line' hvw hw
    rw [snap_eq] at hw
    cases hw
    exact nearest_mono hg hvw
  · intro k
    rw [snap_eq, nearest_add_line hg]

/-- In the middle of a cell below zero, on a grid that is not whole, a coordinate goes up. -/
theorem snap_projects_below_zero :
    let g : Grid Rat := ⟨true, 3 / 2⟩
    g.Snaps ∧ g.snap (-9 / 4) = .ok (-3 / 2) ∧ g.Line (-3 / 2) ∧
      ∀ k : ℤ, g.snap (-9 / 4 + k * (3 / 2)) = .ok (-3 / 2 + k * (3 / 2)) := by
  intro g
  have hg : g.Snaps := ⟨rfl, by norm_num [g]⟩
  have hsnap : g.snap (-9 / 4) = .ok (-3 / 2) := by
    rw [snap_eq]
    exact congrArg Except.ok (by decide +kernel)
  obtain ⟨line, hline, hgrid, -, -, -, -, -, -, hmoved⟩ := snap_projects hg (-9 / 4)
  rw [hsnap] at hline
  cases hline
  exact ⟨hg, hsnap, hgrid, hmoved⟩

end Compositor.Grid
