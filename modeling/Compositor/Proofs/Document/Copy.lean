import Compositor.Proofs.Document.Growth
import Compositor.Proofs.Geometry.Nearest

/-!
# Where copies go

A copy is put a little to the right of and below its source, but so that some room is kept free at
the right and at the bottom of the canvas.  That is seen to before the place is snapped, and not
after it, as it is when a layer is dragged or resized.  So a copy can come to lie in that room, by
up to half a cell (`copy_stays_iff`), and on a coarse grid beyond the canvas.

Along one axis the question is whether a coordinate snaps to within a limit, and that is told by the
last grid line before the limit (`Grid.nearest_le_iff`).  Towards zero there is nothing to see to,
because zero is a grid line.
-/

namespace Compositor.Document

/-- Where a copy asks to be put: between zero and the limit that the room leaves. -/
theorem copyCoordinate_eq (v side : Rat) :
    copyCoordinate v side = max 0 (min (v + 30) (side - 100)) := by
  rw [copyCoordinate, Exact.larger_eq_max, Exact.smaller_eq_min]
  rfl

/-- **Along one axis**, on a side that is long enough for the room: the coordinate of a copy is not
negative.  It keeps the room free exactly if nothing snaps, or if it was asked for before the middle
of the cell that follows the last grid line in front of the room; and it never goes into the room by
more than half a cell. -/
theorem nearest_copyCoordinate (g : Grid Rat) (v : Rat) {side : Rat} (hside : 100 ≤ side) :
    0 ≤ g.nearest (copyCoordinate v side) ∧
    (g.nearest (copyCoordinate v side) ≤ side - 100 ↔
      (g.Snaps → max 0 (min (v + 30) (side - 100)) < g.lastLine (side - 100) + g.size / 2)) ∧
    (g.Snaps → g.nearest (copyCoordinate v side) ≤ side - 100 + g.size / 2) := by
  rw [copyCoordinate_eq]
  have hlow : 0 ≤ max 0 (min (v + 30) (side - 100)) := le_max_left ..
  have hhigh : max 0 (min (v + 30) (side - 100)) ≤ side - 100 :=
    max_le (by linarith) (min_le_right ..)
  generalize max 0 (min (v + 30) (side - 100)) = asked at hlow hhigh ⊢
  by_cases hg : g.Snaps
  · have hoff := (abs_le.mp (Grid.abs_nearest_sub_le hg asked)).2
    refine ⟨Grid.nearest_nonneg hg hlow, ?_, fun _ => by linarith⟩
    rw [Grid.nearest_le_iff hg]
    exact ⟨fun h _ => h, fun h => h hg⟩
  · rw [Grid.nearest_of_not_snaps hg]
    exact ⟨hlow, iff_of_true hhigh fun h => absurd h hg, fun h => absurd h hg⟩

/-- **Where a copy comes to lie, and when it keeps the room free.**  On a canvas that is large
enough for the room, a copy of any layer, wherever that one lies, is put at no negative
coordinate.  On each axis it keeps the room free if and only if nothing snaps, or the place asked
for is before the middle of the cell that follows the last grid line in front of the room; and it
never goes into the room by more than half a cell. -/
theorem copy_stays_iff {d : Document Rat} (hwide : 100 ≤ d.canvas.width)
    (hhigh : 100 ≤ d.canvas.height) {id : String} {l : Layer Rat} (hl : d.layer? id = some l) :
    ∃ copy, d.duplicate id = .ok (d.append copy) ∧
      copy = { l with
        id := copy.id, name := copy.name, x := copy.x, y := copy.y, zIndex := copy.zIndex } ∧
      0 ≤ copy.x ∧ 0 ≤ copy.y ∧
      (copy.x ≤ d.canvas.width - 100 ↔
        (d.grid.Snaps → max 0 (min (l.x + 30) (d.canvas.width - 100))
          < d.grid.lastLine (d.canvas.width - 100) + d.gridSize / 2)) ∧
      (copy.y ≤ d.canvas.height - 100 ↔
        (d.grid.Snaps → max 0 (min (l.y + 30) (d.canvas.height - 100))
          < d.grid.lastLine (d.canvas.height - 100) + d.gridSize / 2)) ∧
      (d.grid.Snaps → copy.x ≤ d.canvas.width - 100 + d.gridSize / 2 ∧
        copy.y ≤ d.canvas.height - 100 + d.gridSize / 2) := by
  have hasked : d.placeFor? (.duplicate id)
      = some ⟨copyCoordinate l.x d.canvas.width, copyCoordinate l.y d.canvas.height⟩ := by
    rw [placeFor?, hl]
    rfl
  obtain ⟨made, hmade, happly⟩ := exists_made .estimated hasked
  rw [Grid.snapPoint_eq] at happly
  obtain ⟨-, hx, hy, hcopied⟩ := hmade
    ⟨d.grid.nearest (copyCoordinate l.x d.canvas.width),
      d.grid.nearest (copyCoordinate l.y d.canvas.height)⟩
  obtain ⟨hleft, hacross, hright⟩ := nearest_copyCoordinate d.grid l.x hwide
  obtain ⟨htop, hdown, hbottom⟩ := nearest_copyCoordinate d.grid l.y hhigh
  refine ⟨_, happly, hcopied id l rfl hl, ?_⟩
  rw [hx, hy]
  exact ⟨hleft, htop, hacross, hdown, fun hg => ⟨hright hg, hbottom hg⟩⟩

/-- A video low on the canvas is copied: below it the room is kept free, because the last grid line
in front of the room is the nearest one. -/
theorem copy_stays_iff_low :
    let d := (empty : Document Rat).after .estimated
      [.addVideo, .setSnapToGrid (.bool true), .update "video-1" { y := some 800 }]
    ∃ l copy, (100 ≤ d.canvas.width ∧ 100 ≤ d.canvas.height ∧ d.layer? "video-1" = some l ∧
      d.grid.Snaps) ∧ d.duplicate "video-1" = .ok (d.append copy) ∧ 0 ≤ copy.y ∧
      copy.y ≤ d.canvas.height - 100 := by
  intro d
  have hwide : 100 ≤ d.canvas.width := by decide +kernel
  have hhigh : 100 ≤ d.canvas.height := by decide +kernel
  have hsnaps : d.grid.Snaps := ⟨rfl, by decide +kernel⟩
  have hfound : (d.layer? "video-1").map (·.y) = some 800 := by decide +kernel
  obtain ⟨l, hl, hy⟩ := Option.map_eq_some_iff.mp hfound
  obtain ⟨copy, hcopy, -, -, hlow, -, hdown, -⟩ := copy_stays_iff hwide hhigh hl
  refine ⟨l, copy, ⟨hwide, hhigh, hl, hsnaps⟩, hcopy, hlow, hdown.mpr fun _ => ?_⟩
  rw [hy]
  decide +kernel

/-- **On a coarse grid a copy may leave the canvas.**  The canvas is eight hundred and forty-six
high, and the copy lies at a thousand. -/
theorem copy_leaves :
    let d := (empty : Document Rat).after .estimated
      [.addVideo, .setSnapToGrid (.bool true), .setGridSize (.whole 1000),
        .update "video-1" { y := some 800 }]
    d.canvas.width = 504 ∧ d.canvas.height = 846 ∧
      ((d.duplicate "video-1").toOption.map fun d' => d'.layers.map fun l => (l.x, l.y))
        = some [(20, 800), (0, 1000)] := by
  refine ⟨?_, ?_, ?_⟩ <;> decide +kernel

end Compositor.Document
