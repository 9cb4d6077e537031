import Compositor.Proofs.Document.Gesture
import Compositor.Proofs.Document.Hover
import Compositor.Proofs.Document.References

/-!
# What the pointer can touch

Whatever is done with the pointer alone, in whatever order (a press without a release, a move
without a press, a press on a handle in the middle of a drag), it reaches nothing but the box of the
layer that is selected at the time.

Two things are kept together along such a run.  A gesture is on the layer that is selected
(`OnSelection`): a press moves the two together, and nothing else moves either.  And the layers are
those of the start but for their boxes, since one step puts one layer into another box
(`boxed_move`).  That it is one layer only needs distinct ids, for a layer is changed under its id.

That layers are the same *but for their boxes* is said by putting them all into one box.
-/

namespace Compositor

variable {α : Type}

/-- Whether an action is one of the pointer. -/
def Action.ofPointer : Action α → Bool
  | .press _ | .move _ | .release => true
  | _ => false

/-! ## 1. Layers in other boxes -/

namespace Layer

/-- The layer in a box.  A video takes the size of the box with its place, a text the place alone. -/
def inBox (l : Layer α) (r : Rect α) : Layer α :=
  { l with
    x := r.x
    y := r.y
    content :=
      match l.content with
      | .video clip => .video { clip with width := r.width, height := r.height }
      | .text caption => .text caption }

/-- The layers, those with an id in a box. -/
def boxAt (layers : List (Layer α)) (id : String) (r : Rect α) : List (Layer α) :=
  layers.map fun l => if l.id == id then l.inBox r else l

/-- Only the last box counts. -/
@[simp] theorem inBox_inBox (l : Layer α) (r s : Rect α) : (l.inBox r).inBox s = l.inBox s := by
  obtain ⟨id, name, x, y, visible, zIndex, content⟩ := l
  cases content <;> rfl

/-- A layer is in a box already. -/
theorem exists_eq_inBox (l : Layer α) : ∃ r, l = l.inBox r := by
  obtain ⟨id, name, x, y, visible, zIndex, content⟩ := l
  cases content with
  | video clip => exact ⟨⟨x, y, clip.width, clip.height⟩, rfl⟩
  | text caption => exact ⟨⟨x, y, x, y⟩, rfl⟩

/-- A layer in another place is the layer in another box. -/
theorem exists_place_eq_inBox (l : Layer α) (x y : α) :
    ∃ r, { l with x := x, y := y } = l.inBox r := by
  obtain ⟨r, hr⟩ := exists_eq_inBox { l with x := x, y := y }
  exact ⟨r, hr⟩

/-- In one box the layers show no other box that one of them was put in. -/
theorem map_inBox_boxAt (layers : List (Layer α)) (id : String) (r s : Rect α) :
    (boxAt layers id r).map (·.inBox s) = layers.map (·.inBox s) := by
  unfold boxAt
  rw [List.map_map]
  apply List.map_congr_left
  intro l _
  by_cases h : l.id = id <;> simp [h]

/-- To put a layer with an id of its own into a box is to replace it. -/
theorem replaceIn_inBox {layers : List (Layer α)} (hids : (layers.map Layer.id).Nodup)
    {l : Layer α} (hl : l ∈ layers) (r : Rect α) :
    replaceIn layers (l.inBox r) = boxAt layers l.id r := by
  unfold replaceIn boxAt
  apply List.map_congr_left
  intro m hm
  have hid : (l.inBox r).id = l.id := rfl
  rw [hid]
  by_cases h : m.id = l.id
  · rw [List.inj_on_of_nodup_map hids hm hl h]
  · simp [h]

/-- A text that is a layer but for the box is that layer but for the place. -/
theorem eq_of_inBox_eq {l l₀ : Layer α} {s : Rect α} (htext : l.isText = true)
    (h : l.inBox s = l₀.inBox s) : l = { l₀ with x := l.x, y := l.y } := by
  obtain ⟨id, name, x, y, visible, zIndex, content⟩ := l
  obtain ⟨id₀, name₀, x₀, y₀, visible₀, zIndex₀, content₀⟩ := l₀
  cases content with
  | video clip => exact nomatch htext
  | text caption => cases content₀ <;> simp_all [inBox]

end Layer

namespace Document

/-- The gesture, if there is one, is on a layer that is there and is selected. -/
def OnSelection (d : Document α) : Prop :=
  ∀ id, d.interaction.layerId? = some id → d.selectedId = some id ∧ Layer.Present d.layers id

/-- Canvas, template, grid and counter are the same. -/
def SameFurniture (d e : Document α) : Prop :=
  e = { d with layers := e.layers, selectedId := e.selectedId, interaction := e.interaction }

/-- At most the layer that is selected before and after is in another box. -/
def Boxed (d e : Document α) : Prop :=
  e.layers = d.layers ∨ ∃ id r, d.selectedId = some id ∧ e.selectedId = some id ∧
    e.layers = Layer.boxAt d.layers id r

/-- Another box leaves the layers the same in one box. -/
theorem Boxed.map_inBox {d e : Document α} (h : d.Boxed e) (s : Rect α) :
    e.layers.map (·.inBox s) = d.layers.map (·.inBox s) := by
  rcases h with h | ⟨id, r, -, -, h⟩
  · rw [h]
  · rw [h, Layer.map_inBox_boxAt]

/-- Another box leaves the ids the same. -/
theorem Boxed.map_id {d e : Document α} (h : d.Boxed e) :
    e.layers.map Layer.id = d.layers.map Layer.id := by
  rcases h with h | ⟨id, r, -, -, h⟩
  · rw [h]
  · rw [h, Layer.boxAt, List.map_map]
    apply List.map_congr_left
    intro l _
    simp only [Function.comp_apply]
    split <;> rfl

/-- A gesture that is on the selected layer stays on it when layers are in other boxes. -/
theorem OnSelection.boxed {d e : Document α} (hd : d.OnSelection) (h : d.Boxed e)
    (hselected : e.selectedId = d.selectedId) (hgesture : e.interaction = d.interaction) :
    e.OnSelection := by
  intro id hid
  rw [hgesture] at hid
  obtain ⟨hsel, l, hl, rfl⟩ := hd id hid
  have hmem : l.id ∈ e.layers.map Layer.id := h.map_id ▸ List.mem_map_of_mem hl
  exact ⟨hselected.trans hsel, List.mem_map.mp hmem⟩

/-- Under a gesture on it, the selected layer is found. -/
theorem OnSelection.exists_selected {d : Document α} (hd : d.OnSelection) {id : String}
    (hid : d.interaction.layerId? = some id) : ∃ l, d.selected? = some l ∧ l.id = id := by
  obtain ⟨hsel, hpresent⟩ := hd id hid
  obtain ⟨l, hl⟩ := Option.isSome_iff_exists.mp (isSome_layer?_iff.mpr hpresent)
  exact ⟨l, by rw [selected?, hsel]; exact hl, (mem_of_layer? hl).2⟩

variable [Scalar α] {measure : Measurer α} {d d' : Document α}

/-! ## 2. One step -/

/-- What a move makes of a layer is the layer in another box. -/
theorem exists_inBox_of_movedTo {l l' : Layer α} {p : Point α}
    (h : d.movedTo measure l p = .ok l') : ∃ r, l' = l.inBox r := by
  unfold movedTo at h
  split at h
  · cases h
    exact l.exists_eq_inBox
  · obtain ⟨size, -, h⟩ := Fault.of_bind_eq_ok h
    obtain ⟨place, -, h⟩ := Fault.of_bind_eq_ok h
    cases h
    exact l.exists_place_eq_inBox place.x place.y
  · unfold resizedLayer at h
    split at h
    · cases h
      exact l.exists_eq_inBox
    · rename_i clip hclip
      obtain ⟨r, -, h⟩ := Fault.of_bind_eq_ok h
      cases h
      exact ⟨r, by simp only [Layer.inBox, hclip]⟩

/-- A move puts the layer of the gesture, if there is one, into another box. -/
theorem eq_of_move (hids : (d.layers.map Layer.id).Nodup) {p : Point α}
    (h : d.move measure p = .ok d') :
    d' = d ∨ ∃ id r, d.interaction.layerId? = some id ∧
      d' = { d with layers := Layer.boxAt d.layers id r } := by
  cases hl : d.movedLayer? with
  | none =>
    rw [move_of_none hl] at h
    cases h
    exact .inl rfl
  | some l =>
    obtain ⟨hid, hmem⟩ := layerId?_of_movedLayer? hl
    rw [move_of_some hl] at h
    obtain ⟨l', hmoved, rfl⟩ := Fault.of_map_eq_ok h
    obtain ⟨r, rfl⟩ := exists_inBox_of_movedTo hmoved
    exact .inr ⟨l.id, r, hid, by rw [replace, Layer.replaceIn_inBox hids hmem]⟩

/-- The layer that is grabbed by a handle is the selected one. -/
theorem selected?_of_grabbed {p : Point α} {l : Layer α} {clip : Clip α} {handle : Handle}
    (h : d.grabbedHandle? p = some (l, clip, handle)) : d.selected? = some l := by
  obtain ⟨m, hm, h⟩ := Option.bind_eq_some_iff.mp h
  obtain ⟨c, -, h⟩ := Option.bind_eq_some_iff.mp h
  obtain ⟨k, -, h⟩ := Option.bind_eq_some_iff.mp h
  cases h
  exact hm

/-- After a press the gesture is on the selected layer. -/
theorem onSelection_of_press {p : Point α} (h : d.press measure p = .ok d') : d'.OnSelection := by
  rcases press_cases h with ⟨l, clip, handle, hgrab, rfl⟩ | ⟨-, rfl⟩ | ⟨-, l, hl, rfl⟩
  · have hselected := selected?_of_grabbed hgrab
    intro id hid
    cases hid
    exact ⟨selectedId_eq hselected, l, (Layer.find?_some hselected).2, rfl⟩
  · intro id hid
    exact nomatch hid
  · intro id hid
    cases hid
    exact ⟨rfl, l, hl, rfl⟩

/-- **One action of the pointer**: the gesture stays on the selection, at most the selected layer is
put into another box, and the furniture stays. -/
theorem confined_step (measure : Measurer α) {d : Document α} {a : Action α}
    (ha : a.ofPointer = true) (hids : (d.layers.map Layer.id).Nodup) (hd : d.OnSelection) :
    (d.step measure a).OnSelection ∧ d.Boxed (d.step measure a) ∧
      d.SameFurniture (d.step measure a) := by
  unfold step
  cases happly : a.apply measure d with
  | error e => exact ⟨hd, .inl rfl, rfl⟩
  | ok e =>
    cases a with
    | press p =>
      refine ⟨onSelection_of_press happly, ?_⟩
      rcases press_cases happly with ⟨l, clip, handle, -, rfl⟩ | ⟨-, rfl⟩ | ⟨-, l, -, rfl⟩ <;>
        exact ⟨.inl rfl, rfl⟩
    | move p =>
      rcases eq_of_move hids happly with rfl | ⟨id, r, hid, rfl⟩
      · exact ⟨hd, .inl rfl, rfl⟩
      · have hselected := (hd id hid).1
        have hboxed : d.Boxed { d with layers := Layer.boxAt d.layers id r } :=
          .inr ⟨id, r, hselected, hselected, rfl⟩
        exact ⟨hd.boxed hboxed rfl rfl, hboxed, rfl⟩
    | release =>
      cases happly
      exact ⟨fun id hid => (nomatch hid), .inl rfl, rfl⟩
    | _ => exact nomatch ha

/-! ## 3. Runs of the pointer -/

/-- What the pointer alone leaves as it was, step by step. -/
theorem confined_after (measure : Measurer α) {d : Document α} {events : List (Action α)}
    (hevents : ∀ a ∈ events, a.ofPointer = true) (hids : (d.layers.map Layer.id).Nodup)
    (hd : d.OnSelection) :
    let e := d.after measure events
    (e.layers.map Layer.id).Nodup ∧ e.OnSelection ∧
      (∀ s, e.layers.map (·.inBox s) = d.layers.map (·.inBox s)) ∧ d.SameFurniture e := by
  refine after_induction (P := fun e => (e.layers.map Layer.id).Nodup ∧ e.OnSelection ∧
    (∀ s, e.layers.map (·.inBox s) = d.layers.map (·.inBox s)) ∧ d.SameFurniture e)
    ⟨hids, hd, fun s => rfl, rfl⟩ ?_
  rintro e a ha ⟨heids, he, hboxes, hrest⟩
  obtain ⟨hselection, hboxed, hrest'⟩ := confined_step measure (hevents a ha) heids he
  refine ⟨hboxed.map_id ▸ heids, hselection, fun s => (hboxed.map_inBox s).trans (hboxes s), ?_⟩
  rw [SameFurniture, hrest', hrest]

/-- **The pointer reaches only the box of the selected layer.**  From a document with distinct ids
and no gesture, whatever is done with the pointer: a gesture is on exactly the layer that is
selected; but for their boxes the layers are those of the start, a text even but for its place; so
are canvas, template, grid and counter; and one more step puts at most the selected layer into
another box. -/
theorem pointer_confined (measure : Measurer α) (d : Document α) (events : List (Action α))
    (hids : (d.layers.map Layer.id).Nodup) (idle : d.interaction = .idle)
    (hevents : ∀ a ∈ events, a.ofPointer = true) :
    let e := d.after measure events
    (∀ id, e.interaction.layerId? = some id →
      e.selectedId = some id ∧ ∃ l, e.selected? = some l ∧ l.id = id) ∧
    (∀ s, e.layers.map (·.inBox s) = d.layers.map (·.inBox s)) ∧
    (∀ l ∈ e.layers, l.isText = true → ∃ l₀ ∈ d.layers, l = { l₀ with x := l.x, y := l.y }) ∧
    e = { d with layers := e.layers, selectedId := e.selectedId, interaction := e.interaction } ∧
    ∀ a, a.ofPointer = true → (e.step measure a).layers = e.layers ∨
      ∃ id r, e.selectedId = some id ∧ (e.step measure a).selectedId = some id ∧
        (e.step measure a).layers = e.layers.map fun l => if l.id == id then l.inBox r else l := by
  intro e
  have hd : d.OnSelection := by
    intro id hid
    rw [idle] at hid
    exact nomatch hid
  obtain ⟨heids, he, hboxes, hrest⟩ := confined_after measure hevents hids hd
  refine ⟨fun id hid => ⟨(he id hid).1, he.exists_selected hid⟩, hboxes, fun l hl htext => ?_, hrest,
    fun a ha => (confined_step measure ha heids he).2.1⟩
  let s : Rect α := ⟨l.x, l.y, l.x, l.y⟩
  have hmem : l.inBox s ∈ d.layers.map (·.inBox s) := hboxes s ▸ List.mem_map_of_mem hl
  obtain ⟨l₀, hl₀, heq⟩ := List.mem_map.mp hmem
  exact ⟨l₀, hl₀, Layer.eq_of_inBox_eq htext heq.symm⟩

/-- A clip is pulled at its corner, pulled again without a release, and left. -/
theorem pointer_confined_pulled_twice :
    let clip : Layer Rat := ⟨"video-1", "Clip", 40, 30, true, 1, .video ⟨100, 80, false, 1⟩⟩
    let title : Layer Rat :=
      ⟨"text-2", "Title", 60, 50, true, 5, .text ⟨"Hello", ⟨"Arial", 24, false, false⟩, "#ffffff"⟩⟩
    let d : Document Rat := { (empty : Document Rat) with
      layers := [clip, title]
      selectedId := some "video-1" }
    let events : List (Action Rat) := [.move ⟨3, 3⟩, .press ⟨140, 110⟩, .move ⟨190, 160⟩,
      .press ⟨190, 160⟩, .move ⟨240, 150⟩, .release, .move ⟨0, 0⟩]
    (d.layers.map Layer.id).Nodup ∧ d.interaction = .idle ∧
      (∀ a ∈ events, a.ofPointer = true) ∧
      ((d.after .advance10 events).layers.map fun l => l.clip?.map fun c => (c.width, c.height))
        = [some (200, 120), none] ∧
      (∀ s, (d.after .advance10 events).layers.map (·.inBox s) = d.layers.map (·.inBox s)) := by
  intro clip title d events
  have hids : (d.layers.map Layer.id).Nodup := by decide
  have hevents : ∀ a ∈ events, a.ofPointer = true := by simp [events, Action.ofPointer]
  obtain ⟨-, hboxes, -⟩ := pointer_confined .advance10 d events hids rfl hevents
  refine ⟨hids, rfl, hevents, by decide +kernel, ?_⟩
  exact hboxes

end Document

end Compositor
