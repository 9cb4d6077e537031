import Compositor.Proofs.Document.Outcome
import Compositor.Proofs.View.Topmost

/-!
# The cursor tells what a press would do

While the pointer hovers, its cursor is computed from the handles of the selected layer
(`Layer.hoverCursor`).  Whether a press begins a resize is decided elsewhere and with other guards
(`Document.grabbedHandle?`): the press wants a video first and then asks for its handle, the cursor
asks whatever is selected for a handle, and a text answers that it has none.  And after the press
the cursor comes from the gesture.  The three agree (`hover_tells_press`), whatever is selected: a
layer that is hidden or gone, or none.

The one fact behind it is `map_grabbedHandle?`: both ways find the same handle.
-/

namespace Compositor

variable {α : Type} [Scalar α] {measure : Measurer α} {p : Point α}

/-! ## 1. Two ways to the handle under the pointer -/

/-- What is no video has no handle anywhere. -/
theorem Layer.handleAt?_eq_none {l : Layer α} (hl : l.clip? = none) (p : Point α) :
    l.handleAt? p = none := by
  unfold Layer.clip? at hl
  unfold Layer.handleAt? Layer.handles
  split at hl
  · exact nomatch hl
  · simp [*]

/-- The box of a layer can be told where every text can be measured. -/
theorem Layer.exists_containsPoint (htotal : ∀ text font, ∃ width, measure text font = .ok width)
    (l : Layer α) (p : Point α) : ∃ inside, l.containsPoint measure p = .ok inside := by
  unfold Layer.containsPoint Layer.box Layer.extent
  split
  · exact ⟨_, rfl⟩
  · rename_i caption hcaption
    obtain ⟨width, hwidth⟩ := htotal caption.shown caption.font
    rw [Caption.extent, hwidth]
    exact ⟨_, rfl⟩

/-- Where every text can be measured, the layer under a point can be looked up. -/
theorem Stacking.exists_layerAt (htotal : ∀ text font, ∃ width, measure text font = .ok width)
    (layers : List (Layer α)) (p : Point α) : ∃ hit, layerAt measure layers p = .ok hit := by
  cases hhit : layerAt measure layers p with
  | ok hit => exact ⟨hit, rfl⟩
  | error e =>
    obtain ⟨l, -, -, hbox⟩ := exists_of_layerAt_error hhit
    obtain ⟨inside, hinside⟩ := Layer.exists_containsPoint htotal l p
    rw [hinside] at hbox
    exact nomatch hbox

namespace Document

variable {d d' : Document α}

/-- The selected layer is asked for by its own id, or by the id that is selected. -/
theorem selectedId_eq {α : Type} {d : Document α} {l : Layer α}
    (hl : d.selected? = some l) : d.selectedId = some l.id :=
  (Layer.find?_some hl).1

/-- **A press grabs the handle that the cursor shows**, and none where it shows none. -/
theorem map_grabbedHandle? (d : Document α) (p : Point α) :
    (d.grabbedHandle? p).map (·.2.2) = Layer.selectedHandleAt? d.layers d.selectedId p := by
  unfold grabbedHandle?
  cases hl : d.selected? with
  | none =>
    have hnone : Layer.find? d.layers d.selectedId = none := hl
    simp [Layer.selectedHandleAt?, hnone]
  | some l =>
    have hfound : Layer.find? d.layers (some l.id) = some l := by
      rw [← selectedId_eq hl]
      exact hl
    rw [selectedId_eq hl]
    cases hclip : l.clip? with
    | none =>
      have hbare := Layer.handleAt?_eq_none hclip p
      simp [Layer.selectedHandleAt?, hfound, hclip, hbare]
    | some clip =>
      cases hhandle : Layer.selectedHandleAt? d.layers (some l.id) p <;>
        simp [hclip, hhandle]

/-- Where the cursor shows no handle, a press grabs none. -/
theorem grabbedHandle?_eq_none_iff :
    d.grabbedHandle? p = none ↔ Layer.selectedHandleAt? d.layers d.selectedId p = none := by
  rw [← map_grabbedHandle?, Option.map_eq_none_iff]

/-! ## 2. What a press does -/

/-- A press on a handle begins a resize of the selected video. -/
theorem press_of_grabbed {l : Layer α} {clip : Clip α} {handle : Handle}
    (h : d.grabbedHandle? p = some (l, clip, handle)) : d.press measure p = .ok { d with
      interaction := .resizing l.id handle ⟨l.x, l.y, clip.width, clip.height⟩ p } := by
  rw [press, h]

/-- A press elsewhere depends on the layer that is found there. -/
theorem press_of_not_grabbed (h : d.grabbedHandle? p = none) :
    d.press measure p = (Stacking.layerAt measure d.layers p).map fun hit =>
      match hit with
      | none => { d with selectedId := none, interaction := .idle }
      | some l => { d with
          selectedId := some l.id
          interaction := .dragging l.id ⟨p.x - l.x, p.y - l.y⟩ } := by
  rw [press, h]
  rcases Stacking.layerAt measure d.layers p with e | hit
  · rfl
  · cases hit <;> rfl

/-- **The three things that a press does**: it begins a resize of the selected video, it ends the
selection and the gesture, or it selects a layer and begins to drag it. -/
theorem press_cases (h : d.press measure p = .ok d') :
    (∃ l clip handle, d.grabbedHandle? p = some (l, clip, handle) ∧ d' = { d with
      interaction := .resizing l.id handle ⟨l.x, l.y, clip.width, clip.height⟩ p }) ∨
    (d.grabbedHandle? p = none ∧ d' = { d with selectedId := none, interaction := .idle }) ∨
    (d.grabbedHandle? p = none ∧ ∃ l ∈ d.layers, d' = { d with
      selectedId := some l.id
      interaction := .dragging l.id ⟨p.x - l.x, p.y - l.y⟩ }) := by
  cases hgrab : d.grabbedHandle? p with
  | some grab =>
    obtain ⟨l, clip, handle⟩ := grab
    rw [press_of_grabbed hgrab] at h
    cases h
    exact .inl ⟨l, clip, handle, rfl, rfl⟩
  | none =>
    rw [press_of_not_grabbed hgrab] at h
    obtain ⟨hit, hhit, rfl⟩ := Fault.of_map_eq_ok h
    cases hit with
    | none => exact .inr (.inl ⟨rfl, rfl⟩)
    | some l =>
      have hmem : l ∈ d.layers :=
        (Stacking.topDown_perm d.layers).mem_iff.mp (Layer.mem_of_firstCovering hhit)
      exact .inr (.inr ⟨rfl, l, hmem, rfl⟩)

/-- A press succeeds where every text can be measured. -/
theorem exists_press (htotal : ∀ text font, ∃ width, measure text font = .ok width)
    (d : Document α) (p : Point α) : ∃ d', d.press measure p = .ok d' := by
  cases hgrab : d.grabbedHandle? p with
  | some grab =>
    obtain ⟨l, clip, handle⟩ := grab
    exact ⟨_, press_of_grabbed hgrab⟩
  | none =>
    obtain ⟨hit, hhit⟩ := Stacking.exists_layerAt htotal d.layers p
    rw [press_of_not_grabbed hgrab, hhit]
    exact ⟨_, rfl⟩

/-! ## 3. The cursor before and after a press -/

/-- While no gesture is on, the cursor shows the handle under the pointer. -/
theorem cursorAt_of_idle (idle : d.interaction = .idle) (p : Point α) :
    d.cursorAt p = Layer.hoverCursor d.layers d.selectedId p := by
  rw [cursorAt, idle]

/-- Over a handle the cursor is the handle's. -/
theorem cursorAt_of_grabbed (idle : d.interaction = .idle) {l : Layer α} {clip : Clip α}
    {handle : Handle} (h : d.grabbedHandle? p = some (l, clip, handle)) :
    d.cursorAt p = .ofHandle handle := by
  have hshown : Layer.selectedHandleAt? d.layers d.selectedId p = some handle := by
    rw [← map_grabbedHandle?, h]
    rfl
  rw [cursorAt_of_idle idle, Layer.hoverCursor, hshown]

/-- Elsewhere it is the one for moving. -/
theorem cursorAt_of_not_grabbed (idle : d.interaction = .idle) (h : d.grabbedHandle? p = none) :
    d.cursorAt p = .move := by
  rw [cursorAt_of_idle idle, Layer.hoverCursor, grabbedHandle?_eq_none_iff.mp h]

/-- After a press the cursor is everywhere the one that was shown where it was pressed. -/
theorem cursorAt_press (idle : d.interaction = .idle) (h : d.press measure p = .ok d')
    (q : Point α) : d'.cursorAt q = d.cursorAt p := by
  rcases press_cases h with ⟨l, clip, handle, hgrab, rfl⟩ | ⟨hgrab, rfl⟩ | ⟨hgrab, l, -, rfl⟩
  · rw [cursorAt_of_grabbed idle hgrab]
    rfl
  · -- nothing is selected any more, so no handle is shown anywhere
    rw [cursorAt_of_not_grabbed idle hgrab]
    rfl
  · rw [cursorAt_of_not_grabbed idle hgrab]
    rfl

/-- A press begins a resize exactly where the cursor is a handle's. -/
theorem resizing_of_press_iff (idle : d.interaction = .idle) {c : Cursor} (hc : c ≠ .move) :
    (∃ d' id handle start, d.press measure p = .ok d' ∧
      d'.interaction = .resizing id handle start p ∧ .ofHandle handle = c) ↔ d.cursorAt p = c := by
  constructor
  · rintro ⟨d', id, handle, start, hpress, hgesture, rfl⟩
    rw [← cursorAt_press idle hpress p, cursorAt, hgesture]
  · intro hcursor
    cases hgrab : d.grabbedHandle? p with
    | none =>
      rw [cursorAt_of_not_grabbed idle hgrab] at hcursor
      exact absurd hcursor.symm hc
    | some grab =>
      obtain ⟨l, clip, handle⟩ := grab
      rw [cursorAt_of_grabbed idle hgrab] at hcursor
      exact ⟨_, l.id, handle, _, press_of_grabbed hgrab, rfl, hcursor⟩

/-- **The cursor never lies.**  While no gesture is on, a press does not change the cursor, wherever
the pointer is afterwards; the cursor is a handle's exactly where a press begins a resize, and then
it is that of the handle by which it is resized.  A press succeeds where every text can be measured,
and over a handle even where none can. -/
theorem hover_tells_press (measure : Measurer α) (d : Document α) (idle : d.interaction = .idle)
    (p : Point α) :
    (∀ d', d.press measure p = .ok d' → ∀ q, d'.cursorAt q = d.cursorAt p) ∧
    (∀ c, c ≠ .move → (d.cursorAt p = c ↔ ∃ d' id handle start, d.press measure p = .ok d' ∧
      d'.interaction = .resizing id handle start p ∧ .ofHandle handle = c)) ∧
    ((∀ text font, ∃ width, measure text font = .ok width) → ∃ d', d.press measure p = .ok d') :=
  ⟨fun _ h q => cursorAt_press idle h q, fun _ hc => (resizing_of_press_iff idle hc).symm,
    fun htotal => exists_press htotal d p⟩

/-- At the lower right corner of a selected clip that a title covers, and at its lower edge. -/
theorem hover_tells_press_corner :
    let clip : Layer Rat := ⟨"video-1", "Clip", 40, 30, true, 1, .video ⟨100, 80, true, 2⟩⟩
    let title : Layer Rat := ⟨"text-2", "Title", 0, 0, true, 5,
      .text ⟨"A title over the whole clip", ⟨"Arial", 90, false, false⟩, "#ffffff"⟩⟩
    let d : Document Rat := { (empty : Document Rat) with
      layers := [clip, title]
      selectedId := some "video-1" }
    d.interaction = .idle ∧ d.cursorAt ⟨138, 107⟩ = .resizeNwSe ∧
      (∃ d', d.press .advance10 ⟨138, 107⟩ = .ok d' ∧ ∀ q, d'.cursorAt q = .resizeNwSe) ∧
      d.cursorAt ⟨60, 107⟩ = .move ∧
      (∃ d', d.press .advance10 ⟨60, 107⟩ = .ok d' ∧ ∀ q, d'.cursorAt q = .move) := by
  intro clip title d
  have hmeasured : ∀ text font, ∃ width : Rat, Measurer.advance10 text font = .ok width :=
    fun text font => ⟨_, rfl⟩
  have hcorner : d.cursorAt ⟨138, 107⟩ = .resizeNwSe := by decide +kernel
  have hbeside : d.cursorAt ⟨60, 107⟩ = .move := by decide +kernel
  obtain ⟨hafter, hresize, -⟩ := hover_tells_press .advance10 d rfl ⟨138, 107⟩
  obtain ⟨d', -, -, -, hpress, -⟩ := (hresize _ (by decide)).mp hcorner
  obtain ⟨hafter', -, hsome⟩ := hover_tells_press .advance10 d rfl ⟨60, 107⟩
  obtain ⟨e', hpress'⟩ := hsome hmeasured
  exact ⟨rfl, hcorner, ⟨d', hpress, fun q => (hafter d' hpress q).trans hcorner⟩,
    hbeside, e', hpress', fun q => (hafter' e' hpress' q).trans hbeside⟩

end Document

end Compositor
