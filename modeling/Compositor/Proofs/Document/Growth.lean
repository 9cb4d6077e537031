import Compositor.Proofs.Document.Heights
import Compositor.Proofs.Document.References
import Compositor.Proofs.Geometry.Exact

/-!
# One layer more, and one layer less

Three actions make a layer: a new video, a new text, and a copy of a layer that is there.  Each of
them asks for a place (`Document.placeFor?`), snaps it, and puts the layer there (`exists_made`).
Snapping is all in which they can fail, and in exact arithmetic it does not (`Grid.snapPoint_eq`).

The layer that they make is the only difference, so to take it away again should give back the
document.  It does, up to the selection and the counter, if removing by id means removing this layer
and nothing else (`remove_append`): no layer may have the new id already, or it would go along, and
no gesture may be on it, or it would end.  Neither is a matter of the three actions.  The first
holds because ids count upwards (`Numbered`), the second because gestures are on layers that are
there (`Referring`). -/

namespace Compositor

variable {α : Type}

/-- A gesture that fits is on a layer that is there. -/
theorem Interaction.Fits.present {layers : List (Layer α)} {g : Interaction α} {id : String}
    (h : g.Fits layers) (hid : g.layerId? = some id) : Layer.Present layers id := by
  cases g with
  | idle => exact nomatch hid
  | dragging i grab =>
    cases hid
    exact h
  | resizing i handle start pointer =>
    cases hid
    obtain ⟨l, hl, hid, -⟩ := h
    exact ⟨l, hl, hid⟩

/-- The place on the grid to which a place snaps. -/
def Grid.snapPoint [Scalar α] (g : Grid α) (p : Point α) : Except Fault (Point α) := do
  let x ← g.snap p.x
  let y ← g.snap p.y
  return ⟨x, y⟩

/-- In exact arithmetic every place can be snapped. -/
theorem Grid.snapPoint_eq (g : Grid Rat) (p : Point Rat) :
    g.snapPoint p = .ok ⟨g.nearest p.x, g.nearest p.y⟩ := by
  simp only [snapPoint, snap_eq]
  rfl

namespace Document

/-! ## 1. Taking the last layer away -/

/-- The next id is not in use. -/
theorem Numbered.nextId_ne {d : Document α} (hd : Numbered d) (kind : LayerKind) :
    ∀ m ∈ d.layers, m.id ≠ d.nextId kind := by
  intro m hm heq
  obtain ⟨n, -, hn, hspelled⟩ := hd.spelled m.tag (List.mem_map_of_mem hm)
  have hnumber := (LayerKind.idFor_inj.mp (hspelled.symm.trans heq)).2
  omega

/-- **To remove the layer that was put on top gives the document back**, with nothing selected and
with the counter one higher, if no other layer and no gesture has its id. -/
theorem remove_append {d : Document α} {l : Layer α} (hids : ∀ m ∈ d.layers, m.id ≠ l.id)
    (hgesture : d.interaction.layerId? ≠ some l.id) :
    (d.append l).remove l.id = { d with selectedId := none, idCounter := d.idCounter + 1 } := by
  have hfound : ((d.append l).layer? l.id).isSome = true :=
    isSome_layer?_iff.mpr ⟨l, List.mem_append_right _ (List.mem_singleton_self l), rfl⟩
  obtain ⟨m, hm⟩ := Option.isSome_iff_exists.mp hfound
  have hlayers : (d.layers ++ [l]).filter (fun m => m.id != l.id) = d.layers := by
    rw [List.filter_append, List.filter_eq_self.mpr fun m hm => by simpa using hids m hm]
    simp
  have hkept : (d.interaction.layerId? == some l.id) = false := beq_eq_false_iff_ne.mpr hgesture
  rw [remove, hm]
  simp [append, hlayers, hkept]

/-! ## 2. Making a layer -/

variable [Scalar α]

/-- Where an action asks to put the layer that it makes, if it makes one. -/
def placeFor? (d : Document α) : Action α → Option (Point α)
  | .addVideo =>
    let stagger : Int := (d.layers.length % 3 : Nat) * Defaults.videoStagger
    some ⟨Scalar.ofInt (Defaults.videoOrigin + stagger),
      Scalar.ofInt (Defaults.videoOrigin + stagger)⟩
  | .addText =>
    some ⟨Scalar.ofInt Defaults.textOrigin,
      Scalar.ofInt (Defaults.textOrigin + d.countOf .text * Defaults.textRowSpacing)⟩
  | .duplicate id => (d.layer? id).map fun l =>
      ⟨copyCoordinate l.x d.canvas.width, copyCoordinate l.y d.canvas.height⟩
  | _ => none

/-- A layer that an action makes: fresh, where it was put, and in all else like its source if it is
a copy. -/
structure Made (d : Document α) (a : Action α) (place : Point α) (l : Layer α) : Prop where
  fresh : d.Fresh l
  x_eq : l.x = place.x
  y_eq : l.y = place.y
  copied : ∀ id source, a = .duplicate id → d.layer? id = some source →
    l = { source with id := l.id, name := l.name, x := l.x, y := l.y, zIndex := l.zIndex }

/-- **An action that makes a layer snaps the place for which it asks and puts the layer there.** -/
theorem exists_made (measure : Measurer α) {d : Document α} {a : Action α} {asked : Point α}
    (ha : d.placeFor? a = some asked) :
    ∃ made : Point α → Layer α, (∀ place, d.Made a place (made place)) ∧
      a.apply measure d = (d.grid.snapPoint asked).map fun place => d.append (made place) := by
  cases a with
  | addVideo =>
    cases ha
    refine ⟨fun place => ⟨d.nextId .video, "Video " ++ toString (d.countOf .video + 1), place.x,
      place.y, true, Stacking.nextZ d.layers, .video .initial⟩, fun place => ?_, ?_⟩
    · exact ⟨⟨rfl, rfl⟩, rfl, rfl, fun _ _ h => nomatch h⟩
    · simp only [Action.apply, addVideo, Grid.snapPoint, Fault.map_bind]
      rfl
  | addText =>
    cases ha
    refine ⟨fun place => ⟨d.nextId .text, "Text " ++ toString (d.countOf .text + 1), place.x,
      place.y, true, Stacking.nextZ d.layers, .text .initial⟩, fun place => ?_, ?_⟩
    · exact ⟨⟨rfl, rfl⟩, rfl, rfl, fun _ _ h => nomatch h⟩
    · simp only [Action.apply, addText, Grid.snapPoint, Fault.map_bind]
      rfl
  | duplicate id =>
    obtain ⟨l, hl, rfl⟩ := Option.map_eq_some_iff.mp ha
    refine ⟨fun place => ⟨d.nextId l.kind, l.name ++ " (copy)", place.x, place.y, l.visible,
      Stacking.nextZ d.layers, l.content⟩, fun place => ?_, ?_⟩
    · refine ⟨⟨rfl, rfl⟩, rfl, rfl, fun i source hi hsource => ?_⟩
      cases hi
      cases hl.symm.trans hsource
      rfl
    · simp only [Action.apply, duplicate, hl, Grid.snapPoint, Fault.map_bind]
      rfl
  | _ => cases ha

/-! ## 3. In a session -/

/-- **What a session gains by a layer, and loses by its removal.**  Wherever a session has come to,
let it make a layer: a video, a text, or a copy of a layer that is there.  It fails only if the
place for which it asks cannot be snapped.  Otherwise the layers are those that were there, in their
order, and after them one that has a new id, lies above all others and is selected; a copy is like
its source in all but id, name, place and height.  Nothing else is touched but the counter.  And to
remove the new layer gives the document back, with nothing selected and the counter one higher. -/
theorem session_grows (measure : Measurer α) (actions : List (Action α)) {a : Action α}
    {asked : Point α} (ha : ((empty : Document α).after measure actions).placeFor? a = some asked) :
    let d := (empty : Document α).after measure actions
    (∀ fault, a.apply measure d = .error fault ↔ d.grid.snapPoint asked = .error fault) ∧
    ∀ place, d.grid.snapPoint asked = .ok place →
      ∃ l d', a.apply measure d = .ok d' ∧
        d' = { d with
          layers := d.layers ++ [l], selectedId := some l.id, idCounter := d.idCounter + 1 } ∧
        (∀ m ∈ d.layers, m.id ≠ l.id ∧ m.zIndex < l.zIndex) ∧
        l.x = place.x ∧ l.y = place.y ∧
        (∀ id source, a = .duplicate id → d.layer? id = some source →
          l = { source with
            id := l.id, name := l.name, x := l.x, y := l.y, zIndex := l.zIndex }) ∧
        d'.remove l.id = { d with selectedId := none, idCounter := d.idCounter + 1 } := by
  intro d
  have hids : d.Numbered := numbered_after measure actions numbered_empty
  have hrefs : d.Referring := referring_after measure actions ⟨numbered_empty, referring_empty⟩
  obtain ⟨made, hmade, happly⟩ := exists_made measure ha
  constructor
  · intro fault
    rw [happly]
    cases d.grid.snapPoint asked <;> simp [Except.map]
  · intro place hplace
    have hl := hmade place
    have hnew : ∀ m ∈ d.layers, m.id ≠ (made place).id := hl.fresh.id_eq ▸ hids.nextId_ne _
    have hgesture : d.interaction.layerId? ≠ some (made place).id := by
      intro hid
      obtain ⟨m, hm, hmid⟩ := hrefs.gesture.present hid
      exact hnew m hm hmid
    refine ⟨made place, d.append (made place), ?_, rfl, fun m hm => ⟨hnew m hm, ?_⟩, hl.x_eq,
      hl.y_eq, hl.copied, remove_append hnew hgesture⟩
    · rw [happly, hplace]
      rfl
    · exact hl.fresh.above.2 m hm

/-- A layer is gone, and a video is copied while it is dragged. -/
theorem session_grows_dragged :
    let actions : List (Action Rat) :=
      [.addVideo, .addText, .remove "text-2", .setSnapToGrid (.bool true), .press ⟨100, 100⟩]
    let d := (empty : Document Rat).after .advance10 actions
    (d.placeFor? (.duplicate "video-1") = some ⟨50, 50⟩ ∧
      d.grid.snapPoint ⟨50, 50⟩ = .ok ⟨60, 60⟩ ∧ d.interaction.layerId? = some "video-1") ∧
    ∃ l d', (Action.duplicate "video-1").apply .advance10 d = .ok d' ∧
      d'.layers = d.layers ++ [l] ∧ d'.interaction = d.interaction ∧ l.x = 60 ∧ l.y = 60 ∧
      d'.remove l.id = { d with selectedId := none, idCounter := d.idCounter + 1 } := by
  intro actions d
  have hplace : d.placeFor? (.duplicate "video-1") = some ⟨50, 50⟩ := by decide +kernel
  have hsnap : d.grid.snapPoint ⟨50, 50⟩ = .ok ⟨60, 60⟩ := by decide +kernel
  obtain ⟨-, hgrows⟩ := session_grows .advance10 actions hplace
  obtain ⟨l, d', happly, rfl, -, hx, hy, -, hremove⟩ := hgrows _ hsnap
  exact ⟨⟨hplace, hsnap, by decide +kernel⟩, l, _, happly, rfl, rfl, hx, hy, hremove⟩

end Document

end Compositor
