import Compositor.Proofs.Document.Gesture
import Compositor.Proofs.Geometry.Inside

/-!
# A gesture keeps its layer on the canvas

In exact arithmetic a move of a resize never fails, and it leaves the video on the canvas and no
smaller than the smallest one, as far as the canvas has room for that.  A move of a drag fails only
if the letters of a text cannot be measured; else the measured box is within the canvas on each axis
(`Exact.Within`): it lies there, or it is longer than the canvas and starts at zero.

Nothing is asked of the layer, the place of the pointer or what was noted at the press: whatever
they are, the last step of the computation puts the box inside.
-/

namespace Compositor.Document

/-! ## 1. The layer after a move -/

/-- A video that is resized lies on the canvas. -/
theorem exists_resizedLayer (measure : Measurer Rat) (d : Document Rat) {l : Layer Rat}
    (hvideo : l.isVideo = true) (handle : Handle) (start : Rect Rat) (from_ p : Point Rat) :
    ∃ l' box, d.resizedLayer l handle start from_ p = .ok l' ∧ l'.box measure = .ok box ∧
      box.OnCanvas d.canvas := by
  unfold Document.resizedLayer
  cases hc : l.content with
  | text caption =>
    rw [Layer.isVideo, Layer.kind, hc] at hvideo
    exact absurd hvideo Bool.false_ne_true
  | video clip =>
    obtain ⟨r, hr, hon⟩ := start.exists_resized handle.grip (p.x - from_.x) (p.y - from_.y)
      d.canvas clip.aspectLocked.isOn clip.aspectRatio d.grid
    dsimp only
    rw [hr]
    exact ⟨_, r, rfl, rfl, hon⟩

/-- A layer that is dragged is within the canvas on both axes, unless it cannot be measured. -/
theorem draggedLayer_cases (measure : Measurer Rat) (d : Document Rat) (l : Layer Rat)
    (grab p : Point Rat) :
    (∃ e, l.extent measure = .error e ∧ d.draggedLayer measure l grab p = .error e) ∨
    ∃ l' box, d.draggedLayer measure l grab p = .ok l' ∧ l'.box measure = .ok box ∧
      Exact.Within d.canvas.width box.x box.width ∧
      Exact.Within d.canvas.height box.y box.height := by
  unfold Document.draggedLayer
  cases hsize : l.extent measure with
  | error e => exact .inl ⟨e, rfl, rfl⟩
  | ok size =>
    obtain ⟨q, hq, hx, hy⟩ := size.exists_dragged d.canvas p grab d.grid
    let l' : Layer Rat := { l with x := q.x, y := q.y }
    have hsize' : l'.extent measure = .ok size := hsize
    refine .inr ⟨l', ⟨q.x, q.y, size.width, size.height⟩, ?_, ?_, hx, hy⟩
    · change (size.dragged d.canvas p grab d.grid >>= _) = _
      rw [hq]
      rfl
    · rw [Layer.box, hsize']
      rfl

/-! ## 2. The document after a move -/

/-- **A gesture keeps its layer on the canvas.**  A resize of a video that is there never fails, and
the video lies on the canvas, no side of it shorter than fifty unless the canvas is.  A drag of a
layer that is there fails only if the layer cannot be measured; otherwise, on each axis, the
measured box lies on the canvas, or it is larger than the canvas and the coordinate is zero. -/
theorem move_inside (measure : Measurer Rat) (d : Document Rat) (p : Point Rat) :
    (∀ id handle start from_ l, d.interaction = .resizing id handle start from_ →
      d.layer? id = some l → l.isVideo = true →
      ∃ l' box, d.move measure p = .ok (d.replace l') ∧ (d.replace l').layer? id = some l' ∧
        l'.isVideo = true ∧ l'.box measure = .ok box ∧
        0 ≤ box.x ∧ 0 ≤ box.y ∧
        box.x + box.width ≤ d.canvas.width ∧ box.y + box.height ≤ d.canvas.height ∧
        min 50 d.canvas.width ≤ box.width ∧ min 50 d.canvas.height ≤ box.height) ∧
    (∀ id grab l, d.interaction = .dragging id grab → d.layer? id = some l →
      (∃ e, l.extent measure = .error e ∧ d.move measure p = .error e) ∨
      ∃ l' box, d.move measure p = .ok (d.replace l') ∧ (d.replace l').layer? id = some l' ∧
        l'.box measure = .ok box ∧
        ((0 ≤ box.x ∧ box.x + box.width ≤ d.canvas.width) ∨
          (d.canvas.width < box.width ∧ box.x = 0)) ∧
        ((0 ≤ box.y ∧ box.y + box.height ≤ d.canvas.height) ∨
          (d.canvas.height < box.height ∧ box.y = 0))) := by
  constructor
  · intro id handle start from_ l hg hl hvideo
    have hmoved : d.movedLayer? = some l := by
      rw [movedLayer?, hg]
      exact Option.filter_eq_some_iff.mpr ⟨hl, hvideo⟩
    obtain ⟨l', box, hl', hbox, hon⟩ := d.exists_resizedLayer measure hvideo handle start from_ p
    obtain ⟨hid, hkind, -⟩ := resizedLayer_keeps hl'
    have hmove : d.move measure p = .ok (d.replace l') := by
      rw [move_of_some hmoved, movedTo, hg]
      dsimp only
      rw [hl']
      rfl
    have hvideo' : l'.isVideo = true := by rwa [Layer.isVideo, hkind]
    exact ⟨l', box, hmove, layer?_replace hl hid, hvideo', hbox, hon.left, hon.top, hon.right,
      hon.bottom, hon.wide, hon.high⟩
  · intro id grab l hg hl
    have hmoved : d.movedLayer? = some l := by
      rw [movedLayer?, hg]
      exact hl
    have hmove : d.move measure p = (d.draggedLayer measure l grab p).map d.replace := by
      rw [move_of_some hmoved, movedTo, hg]
    rcases d.draggedLayer_cases measure l grab p with
      ⟨e, he, hdrag⟩ | ⟨l', box, hdrag, hbox, hx, hy⟩
    · exact .inl ⟨e, he, by rw [hmove, hdrag]; rfl⟩
    · have hid := (draggedLayer_keeps hdrag).1
      exact .inr ⟨l', box, by rw [hmove, hdrag]; rfl, layer?_replace hl hid, hbox, hx, hy⟩

/-- A video is resized on a canvas narrower than the smallest video, from a box that reaches out of
it, and a title longer than the canvas is dragged. -/
theorem move_inside_narrow :
    let clip : Layer Rat := ⟨"video-1", "Clip", 0, 0, true, 1, .video ⟨340, 340, true, 1 / 2⟩⟩
    let title : Layer Rat := ⟨"text-2", "Title", 0, 0, true, 2, .text .initial⟩
    let d : Document Rat := { (empty : Document Rat) with
      layers := [clip, title]
      canvas := ⟨40, 846⟩
      snapToGrid := true }
    let resize : Document Rat :=
      { d with interaction := .resizing "video-1" .nw ⟨-30, 700, 340, 340⟩ ⟨0, 0⟩ }
    let drag : Document Rat := { d with interaction := .dragging "text-2" ⟨5, 5⟩ }
    (resize.layer? "video-1" = some clip ∧ clip.isVideo = true ∧
      ∃ l' box, resize.move .advance10 ⟨-500, 3⟩ = .ok (resize.replace l') ∧
        l'.box .advance10 = .ok box ∧ 0 ≤ box.x ∧ box.x + box.width ≤ 40 ∧ min 50 40 ≤ box.width) ∧
    (drag.layer? "text-2" = some title ∧
      ∃ l' box, drag.move .advance10 ⟨900, 30⟩ = .ok (drag.replace l') ∧
        l'.box .advance10 = .ok box ∧
        (0 ≤ box.x ∧ box.x + box.width ≤ 40 ∨ 40 < box.width ∧ box.x = 0)) := by
  intro clip title d resize drag
  have hclip : resize.layer? "video-1" = some clip := rfl
  have hvideo : clip.isVideo = true := rfl
  have htitle : drag.layer? "text-2" = some title := rfl
  obtain ⟨l', box, hmove, -, -, hbox, hx, -, hright, -, hwide, -⟩ :=
    (move_inside .advance10 resize ⟨-500, 3⟩).1 "video-1" .nw ⟨-30, 700, 340, 340⟩ ⟨0, 0⟩ clip rfl
      hclip hvideo
  refine ⟨⟨hclip, hvideo, l', box, hmove, hbox, hx, hright, hwide⟩, htitle, ?_⟩
  rcases (move_inside .advance10 drag ⟨900, 30⟩).2 "text-2" ⟨5, 5⟩ title rfl htitle with
    ⟨e, he, -⟩ | ⟨l', box, hmove, -, hbox, hx, -⟩
  · exact nomatch he
  · exact ⟨l', box, hmove, hbox, hx⟩

end Compositor.Document
