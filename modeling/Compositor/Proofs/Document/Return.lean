import Compositor.Proofs.Document.Confined
import Compositor.Proofs.Document.Inside
import Compositor.Proofs.Geometry.Drag
import Compositor.Proofs.Geometry.Pull

/-!
# A gesture that comes back

Whatever a gesture does to its layer on the way, it undoes when the pointer comes back to where it was
pressed.  Since a gesture has no memory of its path, this is a matter of one move, the one at the
point of the press (`moves_concat`), and of two facts about boxes: a pull by nothing and a drag by
nothing leave a box as it is (`Rect.resized_zero`, `Extent.dragged_still`).

They do so for a box that the editor would not correct: it lies on the canvas and on the grid, and
for a resize it is large enough and has the ratio that is kept (`Resting`).  A box that is corrected
is corrected by a move that goes nowhere, too.

One thing more is needed, and it is not about boxes.  A move looks its layer up by the id, takes the
first that it finds and puts it in the place of all of them.  Where a different layer has the id of
the pressed one, the layers do not come back (`gesture_spills`).
-/

namespace Compositor.Document

/-! ## 1. The layer that a press takes hold of -/

section

variable {α : Type} [Scalar α] {measure : Measurer α} {d : Document α} {p : Point α}

/-- The layer that a press takes hold of: the selected video where one of its handles is, else the
topmost visible layer under the point, if there is one. -/
def pressed? (measure : Measurer α) (d : Document α) (p : Point α) :
    Except Fault (Option (Layer α)) :=
  match d.grabbedHandle? p with
  | some (l, _, _) => .ok (some l)
  | none => Stacking.layerAt measure d.layers p

/-- A layer with a clip shows it. -/
theorem content_of_clip? {α : Type} {l : Layer α} {clip : Clip α} (h : l.clip? = some clip) :
    l.content = .video clip := by
  cases hcontent : l.content with
  | video c =>
    simp only [Layer.clip?, hcontent, Option.some.injEq] at h
    rw [h]
  | text c => simp [Layer.clip?, hcontent] at h

/-- A layer that is grabbed at a handle is a video, and it is found under its id. -/
theorem of_grabbed {l : Layer α} {clip : Clip α} {handle : Handle}
    (h : d.grabbedHandle? p = some (l, clip, handle)) :
    d.layer? l.id = some l ∧ l.content = .video clip := by
  have hselected := selected?_of_grabbed h
  obtain ⟨m, -, h⟩ := Option.bind_eq_some_iff.mp h
  obtain ⟨c, hclip, h⟩ := Option.bind_eq_some_iff.mp h
  obtain ⟨k, -, h⟩ := Option.bind_eq_some_iff.mp h
  cases h
  refine ⟨?_, content_of_clip? hclip⟩
  rw [layer?, ← selectedId_eq hselected]
  exact hselected

/-- A layer that is found under the pointer is one of the layers, and its size can be told. -/
theorem of_layerAt {l : Layer α} (h : Stacking.layerAt measure d.layers p = .ok (some l)) :
    l ∈ d.layers ∧ ∃ size, l.extent measure = .ok size := by
  refine ⟨(Stacking.topDown_perm d.layers).mem_iff.mp (Layer.mem_of_firstCovering h), ?_⟩
  obtain ⟨before, after, -, hcontains, -⟩ := Stacking.layerAt_eq_some_iff.mp h
  obtain ⟨box, hbox, -⟩ := Fault.of_bind_eq_ok hcontains
  obtain ⟨size, hsize, -⟩ := Fault.of_bind_eq_ok hbox
  exact ⟨size, hsize⟩

/-! ## 2. Paths on which no move fails -/

/-- Where no move fails, a path can be gone through. -/
theorem exists_moves (hmove : ∀ q, ∃ e, d.move measure q = .ok e) (path : List (Point α)) :
    ∃ e, d.moves measure path = .ok e := by
  induction path using List.reverseRecOn with
  | nil => exact ⟨d, rfl⟩
  | append_singleton path q ih =>
    obtain ⟨e, he⟩ := ih
    obtain ⟨e', he'⟩ := hmove q
    refine ⟨e', ?_⟩
    rw [moves] at he ⊢
    rw [List.foldlM_append, he]
    change ([q].foldlM (move measure) e) = .ok e'
    rw [List.foldlM_cons, move_of_moves he q, he']
    rfl

/-- **Where no move fails, only the last point of a path counts.** -/
theorem moves_concat (hmove : ∀ q, ∃ e, d.move measure q = .ok e) (path : List (Point α))
    (p : Point α) : d.moves measure (path ++ [p]) = d.move measure p := by
  obtain ⟨e, he⟩ := exists_moves hmove path
  have hlast := move_of_moves he p
  rw [moves] at he ⊢
  rw [List.foldlM_append, he, ← hlast]
  change ([p].foldlM (move measure) e) = _
  rw [List.foldlM_cons]
  cases e.move measure p <;> rfl

/-- A gesture of which no move fails comes back, if at some point it leaves its layer as it is. -/
theorem moves_back {l : Layer α} (hl : d.movedLayer? = some l)
    (halone : ∀ m ∈ d.layers, m.id = l.id → m = l)
    (hmoved : ∀ q, ∃ l', d.movedTo measure l q = .ok l')
    (hback : d.movedTo measure l p = .ok l) (path : List (Point α)) :
    d.moves measure (path ++ [p]) = .ok d := by
  have hmove : ∀ q, ∃ e, d.move measure q = .ok e := by
    intro q
    obtain ⟨l', hl'⟩ := hmoved q
    exact ⟨d.replace l', by rw [move_of_some hl, hl']; rfl⟩
  rw [moves_concat hmove, move_of_some hl, hback]
  exact congrArg Except.ok (replace_of_alone halone)

end

/-! ## 3. Layers that stay where they are -/

variable {measure : Measurer Rat} {d : Document Rat} {p : Point Rat} {l : Layer Rat}

/-- The layer is such that a press at this point and a release would not have to correct it.  It lies
on the canvas, on grid lines if coordinates snap; a video is large enough; and if the press begins a
resize, its sides are on the grid, too, and the ratio is the one that is kept. -/
structure Resting (measure : Measurer Rat) (d : Document Rat) (p : Point Rat) (l : Layer Rat) :
    Prop where
  inside : ∀ box, l.box measure = .ok box → box.Inside d.canvas
  large : ∀ clip, l.content = .video clip → 50 ≤ clip.width ∧ 50 ≤ clip.height
  onGrid : d.grid.Snaps → d.grid.Line l.x ∧ d.grid.Line l.y
  sidesOnGrid : ∀ clip handle, d.grabbedHandle? p = some (l, clip, handle) →
    d.grid.Snaps → d.grid.Line clip.width ∧ d.grid.Line clip.height
  inRatio : ∀ clip handle, d.grabbedHandle? p = some (l, clip, handle) →
    Rect.keepsRatio clip.aspectLocked.isOn clip.aspectRatio = true →
    clip.width = clip.aspectRatio * clip.height

/-- A resting video that is resized by nothing stays as it is. -/
theorem Resting.resizedLayer_eq (hrest : d.Resting measure p l) {clip : Clip Rat}
    {handle : Handle} (hgrab : d.grabbedHandle? p = some (l, clip, handle)) :
    d.resizedLayer l handle ⟨l.x, l.y, clip.width, clip.height⟩ p p = .ok l := by
  obtain ⟨-, hvideo⟩ := of_grabbed hgrab
  have hinside := hrest.inside ⟨l.x, l.y, clip.width, clip.height⟩ (by
    rw [Layer.box, Layer.extent, hvideo]
    rfl)
  obtain ⟨hwide, hhigh⟩ := hrest.large clip hvideo
  have hsides := hrest.sidesOnGrid clip handle hgrab
  have hbox := Rect.resized_zero (h := handle) hinside hwide hhigh
    (hrest.inRatio clip handle hgrab)
    (Grid.nearest_of_line fun hg => (hrest.onGrid hg).1) (Grid.nearest_of_line fun hg => (hrest.onGrid hg).2)
    (Grid.nearest_of_line fun hg => (hsides hg).1) (Grid.nearest_of_line fun hg => (hsides hg).2)
  unfold resizedLayer
  rw [hvideo]
  dsimp only
  rw [sub_self, sub_self, hbox]
  cases l
  cases hvideo
  rfl

/-- A resting layer that is dragged by nothing stays as it is. -/
theorem Resting.draggedLayer_eq (hrest : d.Resting measure p l) {size : Extent Rat}
    (hsize : l.extent measure = .ok size) :
    d.draggedLayer measure l ⟨p.x - l.x, p.y - l.y⟩ p = .ok l := by
  have hinside := hrest.inside ⟨l.x, l.y, size.width, size.height⟩ (by
    rw [Layer.box, hsize]
    rfl)
  have hplace : size.dragged d.canvas p ⟨p.x - l.x, p.y - l.y⟩ d.grid = .ok ⟨l.x, l.y⟩ :=
    Extent.dragged_still ⟨l.x, l.y⟩ hinside.left hinside.right hinside.top hinside.bottom
      (Grid.nearest_of_line fun hg => (hrest.onGrid hg).1)
      (Grid.nearest_of_line fun hg => (hrest.onGrid hg).2) p
  unfold draggedLayer
  rw [hsize]
  change (size.dragged d.canvas p ⟨p.x - l.x, p.y - l.y⟩ d.grid >>= _) = _
  rw [hplace]
  rfl

/-! ## 4. From the press to the release -/

/-- A resize comes back. -/
theorem Resting.moves_resize (hrest : d.Resting measure p l) {clip : Clip Rat} {handle : Handle}
    (hgrab : d.grabbedHandle? p = some (l, clip, handle))
    (halone : ∀ m ∈ d.layers, m.id = l.id → m = l) (path : List (Point Rat)) :
    let e : Document Rat :=
      { d with interaction := .resizing l.id handle ⟨l.x, l.y, clip.width, clip.height⟩ p }
    e.moves measure (path ++ [p]) = .ok e := by
  intro e
  obtain ⟨hfound, hcontent⟩ := of_grabbed hgrab
  have hvideo : l.isVideo = true := by simp [Layer.isVideo, Layer.kind, hcontent]
  have hmoved : e.movedLayer? = some l := Option.filter_eq_some_iff.mpr ⟨hfound, hvideo⟩
  refine moves_back hmoved halone ?_ (hrest.resizedLayer_eq hgrab) path
  intro q
  obtain ⟨l', -, hl', -⟩ := exists_resizedLayer measure e hvideo handle
    ⟨l.x, l.y, clip.width, clip.height⟩ p q
  exact ⟨l', hl'⟩

/-- A drag comes back. -/
theorem Resting.moves_drag (hrest : d.Resting measure p l)
    (hhit : Stacking.layerAt measure d.layers p = .ok (some l))
    (halone : ∀ m ∈ d.layers, m.id = l.id → m = l) (path : List (Point Rat)) :
    let e : Document Rat :=
      { d with
        selectedId := some l.id
        interaction := .dragging l.id ⟨p.x - l.x, p.y - l.y⟩ }
    e.moves measure (path ++ [p]) = .ok e := by
  intro e
  obtain ⟨hmem, size, hsize⟩ := of_layerAt hhit
  have hmoved : e.movedLayer? = some l := Layer.find?_of_alone hmem halone
  refine moves_back hmoved halone ?_ (hrest.draggedLayer_eq hsize) path
  intro q
  rcases e.draggedLayer_cases measure l ⟨p.x - l.x, p.y - l.y⟩ q with
    ⟨error, herror, -⟩ | ⟨l', -, hl', -⟩
  · rw [hsize] at herror
    exact nomatch herror
  · exact ⟨l', hl'⟩

/-- **A gesture that comes back changes nothing.**  From whatever document, whatever way the pointer
goes after a press: if it ends where it was pressed, no move has failed and the document is the one
right after the press, and so the layers after the release are those before the press.  The layer
that is pressed, if there is one, is taken to rest, and no different layer to have its id.  The press
succeeds where every text can be measured. -/
theorem gesture_returns (measure : Measurer Rat) (d : Document Rat) (p : Point Rat)
    (hrest : ∀ l, d.pressed? measure p = .ok (some l) →
      d.Resting measure p l ∧ ∀ m ∈ d.layers, m.id = l.id → m = l) :
    (∀ d', d.press measure p = .ok d' → ∀ path : List (Point Rat),
      d'.moves measure (path ++ [p]) = .ok d' ∧ d'.release.layers = d.layers) ∧
    ((∀ text font, ∃ width, measure text font = .ok width) →
      ∃ d', d.press measure p = .ok d') := by
  refine ⟨?_, fun htotal => exists_press htotal d p⟩
  intro d' hpress path
  cases hgrab : d.grabbedHandle? p with
  | some grab =>
    obtain ⟨l, clip, handle⟩ := grab
    obtain ⟨hstays, halone⟩ := hrest l (by rw [pressed?, hgrab])
    rw [press_of_grabbed hgrab] at hpress
    cases hpress
    exact ⟨hstays.moves_resize hgrab halone path, rfl⟩
  | none =>
    rw [press_of_not_grabbed hgrab] at hpress
    cases hhit : Stacking.layerAt measure d.layers p with
    | error e =>
      rw [hhit] at hpress
      exact nomatch hpress
    | ok hit =>
      rw [hhit] at hpress
      cases hpress
      cases hit with
      | none =>
        -- nothing is pressed, and without a gesture no move does anything
        refine ⟨?_, rfl⟩
        rw [moves_concat fun q => ⟨_, move_of_none rfl measure q⟩]
        exact move_of_none rfl measure p
      | some l =>
        obtain ⟨hstays, halone⟩ := hrest l (by rw [pressed?, hgrab, hhit])
        exact ⟨hstays.moves_drag hhit halone path, rfl⟩

/-- A locked video on a grid is pulled at its lower right corner, out of the canvas and beyond the
smallest size, and back. -/
theorem gesture_returns_resize :
    let clip : Clip Rat := ⟨200, 100, true, 2⟩
    let video : Layer Rat := ⟨"video-1", "Clip", 40, 60, true, 1, .video clip⟩
    let d : Document Rat := { (empty : Document Rat) with
      layers := [video]
      selectedId := some "video-1"
      snapToGrid := true }
    let p : Point Rat := ⟨243, 158⟩
    (∀ l, d.pressed? .advance10 p = .ok (some l) →
      d.Resting .advance10 p l ∧ ∀ m ∈ d.layers, m.id = l.id → m = l) ∧
    ∃ d', d.press .advance10 p = .ok d' ∧
      d'.moves .advance10 ([⟨900, 2000⟩, ⟨50, 61⟩] ++ [p]) = .ok d' ∧
      d'.release.layers = [video] := by
  intro clip video d p
  have hcorner : (d.grabbedHandle? p).map (·.2.2) = some .se := by
    rw [map_grabbedHandle?]
    decide +kernel
  have hgrab : d.grabbedHandle? p = some (video, clip, .se) := by
    obtain ⟨⟨l, c, handle⟩, hgrab, rfl⟩ := Option.map_eq_some_iff.mp hcorner
    have hl : some video = some l := selected?_of_grabbed hgrab
    cases hl
    have hc : Content.video clip = .video c := (of_grabbed hgrab).2
    cases hc
    exact hgrab
  have hrest : ∀ l, d.pressed? .advance10 p = .ok (some l) →
      d.Resting .advance10 p l ∧ ∀ m ∈ d.layers, m.id = l.id → m = l := by
    intro l hl
    rw [pressed?, hgrab] at hl
    cases hl
    refine ⟨⟨?_, ?_, ?_, ?_, ?_⟩, ?_⟩
    · intro box hbox
      cases hbox
      constructor <;> decide +kernel
    · intro clip' hclip
      cases hclip
      constructor <;> decide +kernel
    · intro _
      exact ⟨⟨2, by decide +kernel⟩, ⟨3, by decide +kernel⟩⟩
    · intro clip' handle hgrab' _
      rw [hgrab] at hgrab'
      cases hgrab'
      exact ⟨⟨10, by decide +kernel⟩, ⟨5, by decide +kernel⟩⟩
    · intro clip' handle hgrab' _
      rw [hgrab] at hgrab'
      cases hgrab'
      decide +kernel
    · intro m hm _
      exact List.mem_singleton.mp hm
  have hpress : d.press .advance10 p = .ok _ := press_of_grabbed hgrab
  obtain ⟨hback, hlayers⟩ :=
    (gesture_returns .advance10 d p hrest).1 _ hpress [⟨900, 2000⟩, ⟨50, 61⟩]
  exact ⟨hrest, _, hpress, hback, hlayers⟩

/-- Two videos have one id.  The upper one is pressed and moved to where it is: the lower one is found
under the id, and it comes to lie in the place of both. -/
theorem gesture_spills :
    let lower : Layer Rat := ⟨"video-1", "Lower", 0, 0, true, 1, .video ⟨100, 100, false, 1⟩⟩
    let upper : Layer Rat := ⟨"video-1", "Upper", 200, 200, true, 2, .video ⟨100, 100, false, 1⟩⟩
    let d : Document Rat := { (empty : Document Rat) with layers := [lower, upper] }
    let p : Point Rat := ⟨250, 250⟩
    (d.pressed? .advance10 p = .ok (some upper) ∧ d.Resting .advance10 p upper) ∧
    ∃ d' e, d.press .advance10 p = .ok d' ∧ d'.moves .advance10 [p] = .ok e ∧
      e.release.layers ≠ d.layers := by
  intro lower upper d p
  have hgrab : d.grabbedHandle? p = none := rfl
  have hsorted : Stacking.topDown d.layers = [upper, lower] := by
    rw [Stacking.topDown_eq_reverse (by decide), (Stacking.bottomUp_ascending _).unique
      (.of_rising (by decide))]
    rfl
  have hhit : Stacking.layerAt .advance10 d.layers p = .ok (some upper) := by
    rw [Stacking.layerAt_eq_some_iff, hsorted]
    exact ⟨[], [lower], rfl, congrArg Except.ok (by decide +kernel), List.forall_mem_nil _⟩
  have hrest : d.Resting .advance10 p upper := by
    refine ⟨?_, ?_, fun hg => (nomatch hg.1), ?_, ?_⟩
    · intro box hbox
      cases hbox
      constructor <;> decide +kernel
    · intro clip hclip
      cases hclip
      constructor <;> decide +kernel
    · intro clip handle hsome
      exact nomatch hgrab.symm.trans hsome
    · intro clip handle hsome
      exact nomatch hgrab.symm.trans hsome
  let d' : Document Rat :=
    { d with
      selectedId := some "video-1"
      interaction := .dragging "video-1" ⟨p.x - upper.x, p.y - upper.y⟩ }
  have hpress : d.press .advance10 p = .ok d' := by
    rw [press_of_not_grabbed hgrab, hhit]
    rfl
  have hplaces : (d'.moves .advance10 [p]).toOption.map (fun e => e.layers.map Layer.x)
      = some [200, 200] := by decide +kernel
  refine ⟨⟨by rw [pressed?, hgrab, hhit], hrest⟩, d', ?_⟩
  cases hmoves : d'.moves .advance10 [p] with
  | error e =>
    rw [hmoves] at hplaces
    exact nomatch hplaces
  | ok e =>
    rw [hmoves] at hplaces
    refine ⟨e, hpress, rfl, fun hsame => ?_⟩
    have hback : some (d.layers.map Layer.x) = some [200, 200] := hsame ▸ hplaces
    exact absurd hback (by decide +kernel)

end Compositor.Document
