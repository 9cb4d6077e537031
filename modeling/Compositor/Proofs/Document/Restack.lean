import Compositor.Proofs.Document.Gesture
import Compositor.Proofs.Stacking.Neighbours

/-!
# Restacking and editing

To raise or lower a layer gives two layers new heights; to move, reset or update a layer changes
anything but a height.  So it makes no difference which is done first, on whichever layers, and also
where the edit fails: it then fails in either order.

Each of the two looks layers up and puts changed copies of them back, so what there is to show is
that no copy brings back what the other one has changed.  An edit looks past the heights
(`EditsPastHeight`): of a layer at another height it makes the same as of the layer, at that height.
In a document with distinct ids, the copy that it puts back is then as good as a change of each layer
where it lies, at its own height (`replaceIn_eq_map`), and a change of that kind goes through a
restacking, since neither the neighbour nor the exchange depends on anything but ids and heights
(`exchangeWith_map`).

With two layers of one id this fails.  The edit takes the first of them and puts it in the place of
the other, too, which then has a new height.
-/

namespace Compositor

variable {α : Type}

/-! ## 1. Changes of layers that leave the heights alone -/

/-- `h` keeps the ids, and it looks past the heights: it makes the same of a layer at every height. -/
structure Layer.PastHeight (h : Layer α → Layer α) : Prop where
  id_eq : ∀ l, (h l).id = l.id
  atHeight : ∀ l z, h (l.atHeight z) = (h l).atHeight z

/-- What looks past the heights keeps them. -/
theorem Layer.PastHeight.zIndex_eq {h : Layer α → Layer α} (hh : PastHeight h) (l : Layer α) :
    (h l).zIndex = l.zIndex := by
  have hsame := hh.atHeight l l.zIndex
  rw [atHeight_zIndex] at hsame
  rw [hsame, zIndex_atHeight]

namespace Stacking

variable {h : Layer α → Layer α} {neighbour? : List (Layer α) → Layer α → Option (Layer α)}

/-- The least is the least of the changed layers, too, if they keep their keys. -/
theorem leastBy_map {key : Layer α → Int} (hkey : ∀ l, key (h l) = key l)
    (layers : List (Layer α)) : leastBy key (layers.map h) = (leastBy key layers).map h := by
  cases layers with
  | nil => rfl
  | cons first rest =>
    simp only [leastBy, List.map_cons, Option.map_some, Option.some.injEq]
    induction rest generalizing first with
    | nil => rfl
    | cons m rest ih =>
      simp only [List.map_cons, List.foldl_cons, hkey]
      split
      · exact ih m
      · exact ih first

/-- `neighbour?` tells neighbours by the heights alone. -/
def ByHeights (neighbour? : List (Layer α) → Layer α → Option (Layer α)) : Prop :=
  ∀ h : Layer α → Layer α, Layer.PastHeight h → ∀ layers l,
    neighbour? (layers.map h) (h l) = (neighbour? layers l).map h

/-- The layer next above is told by the heights. -/
theorem above?_byHeights : ByHeights (above? (α := α)) := by
  intro h hh layers l
  have hsame : ((fun m : Layer α => decide ((h l).zIndex < m.zIndex)) ∘ h)
      = fun m => decide (l.zIndex < m.zIndex) := by
    funext m
    simp only [Function.comp_apply, hh.zIndex_eq]
  rw [above?, List.filter_map, hsame, leastBy_map hh.zIndex_eq]
  rfl

/-- The layer next below is told by the heights. -/
theorem below?_byHeights : ByHeights (below? (α := α)) := by
  intro h hh layers l
  have hsame : ((fun m : Layer α => decide (m.zIndex < (h l).zIndex)) ∘ h)
      = fun m => decide (m.zIndex < l.zIndex) := by
    funext m
    simp only [Function.comp_apply, hh.zIndex_eq]
  have hkey : ∀ m, -(h m).zIndex = -m.zIndex := by
    intro m
    rw [hh.zIndex_eq]
  rw [below?, List.filter_map, hsame, leastBy_map hkey]
  rfl

/-- An exchange gives each layer a height, and nothing else. -/
theorem exists_exchanged_eq (l m k : Layer α) : ∃ z, exchanged l m k = k.atHeight z := by
  unfold exchanged
  split
  · exact ⟨_, rfl⟩
  · split
    · exact ⟨_, rfl⟩
    · exact ⟨k.zIndex, rfl⟩

/-- Layers are changed before or after an exchange. -/
theorem exchange_map (hh : Layer.PastHeight h) (layers : List (Layer α)) (l m : Layer α) :
    exchange (layers.map h) (h l) (h m) = (exchange layers l m).map h := by
  rw [exchange_eq_map, exchange_eq_map, List.map_map, List.map_map]
  apply List.map_congr_left
  intro k _
  simp only [Function.comp_apply, exchanged, hh.id_eq, hh.zIndex_eq]
  split
  · exact (hh.atHeight ..).symm
  · split
    · exact (hh.atHeight ..).symm
    · rfl

/-- **Layers are changed before or after a restacking.** -/
theorem exchangeWith_map (hn : ByHeights neighbour?) (hh : Layer.PastHeight h)
    (layers : List (Layer α)) (id : String) :
    exchangeWith neighbour? (layers.map h) id = (exchangeWith neighbour? layers id).map h := by
  unfold exchangeWith
  rw [Layer.find?_map hh.id_eq]
  cases Layer.find? layers (some id) with
  | none => rfl
  | some l =>
    dsimp only [Option.map_some]
    rw [hn h hh]
    cases neighbour? layers l with
    | none => rfl
    | some m => exact exchange_map hh layers l m

/-- A restacking gives each layer a height, and nothing else. -/
theorem exists_exchangeWith_eq_map (neighbour? : List (Layer α) → Layer α → Option (Layer α))
    (layers : List (Layer α)) (id : String) :
    ∃ g : Layer α → Layer α, (∀ k, ∃ z, g k = k.atHeight z) ∧
      exchangeWith neighbour? layers id = layers.map g := by
  unfold exchangeWith
  split
  · exact ⟨fun k => k, fun k => ⟨k.zIndex, rfl⟩, (List.map_id' layers).symm⟩
  · split
    · exact ⟨fun k => k, fun k => ⟨k.zIndex, rfl⟩, (List.map_id' layers).symm⟩
    · rename_i l _ _ m _
      exact ⟨exchanged l m, exists_exchanged_eq l m, exchange_eq_map layers l m⟩

end Stacking

/-! ## 2. A layer put in its place -/

/-- The layer with all that `new` has, but at its own height, if it has the id of `new`. -/
def Layer.refitted (new l : Layer α) : Layer α :=
  if l.id == new.id then new.atHeight l.zIndex else l

/-- To refit layers is to look past their heights. -/
theorem Layer.refitted_pastHeight (new : Layer α) : PastHeight new.refitted where
  id_eq l := by
    unfold refitted
    split
    · rename_i hid
      exact (eq_of_beq hid).symm
    · rfl
  atHeight l z := by
    by_cases hid : l.id = new.id <;> simp [refitted, hid]

/-- The height of `new` itself does not matter. -/
theorem Layer.refitted_atHeight (new : Layer α) (z : Int) :
    (new.atHeight z).refitted = new.refitted := rfl

/-- **With distinct ids, a layer put in its place leaves every layer at its own height.** -/
theorem Layer.replaceIn_eq_map {layers : List (Layer α)} {old new : Layer α}
    (hids : (layers.map Layer.id).Nodup) (hold : old ∈ layers) (hid : new.id = old.id)
    (hheight : new.zIndex = old.zIndex) : Layer.replaceIn layers new = layers.map new.refitted := by
  apply List.map_congr_left
  intro l hl
  unfold refitted
  split
  · rename_i hsame
    have hlold : l = old := List.inj_on_of_nodup_map hids hl hold ((eq_of_beq hsame).trans hid)
    rw [hlold, ← hheight, atHeight_zIndex]
  · rfl

/-! ## 3. Edits of one layer -/

/-- `f` keeps the id of a layer, and it looks past the height: what it makes of a layer at another
height, or whether it fails, is what it makes of the layer, at that height. -/
structure Layer.EditsPastHeight (f : Layer α → Except Fault (Layer α)) : Prop where
  id_eq : ∀ {l l'}, f l = .ok l' → l'.id = l.id
  atHeight : ∀ l z, f (l.atHeight z) = (f l).map (·.atHeight z)

/-- An edit that looks past the height keeps it. -/
theorem Layer.EditsPastHeight.zIndex_eq {f : Layer α → Except Fault (Layer α)}
    (hf : EditsPastHeight f) {l l' : Layer α} (h : f l = .ok l') : l'.zIndex = l.zIndex := by
  have hsame := hf.atHeight l l.zIndex
  rw [atHeight_zIndex, h] at hsame
  have hl' : l' = l'.atHeight l.zIndex := Except.ok.inj hsame
  rw [hl', zIndex_atHeight]

namespace Document

/-- The document with one layer edited; an unknown id changes nothing. -/
def edit (d : Document α) (id : String) (f : Layer α → Except Fault (Layer α)) :
    Except Fault (Document α) :=
  match d.layer? id with
  | none => .ok d
  | some l => (f l).map d.replace

/-- The document with a layer exchanged with its neighbour, above or below. -/
def restack (neighbour? : List (Layer α) → Layer α → Option (Layer α)) (d : Document α)
    (id : String) : Document α :=
  { d with layers := Stacking.exchangeWith neighbour? d.layers id }

variable {neighbour? : List (Layer α) → Layer α → Option (Layer α)} {d : Document α}

/-- With distinct ids, a layer in its own place changes nothing. -/
theorem replace_of_mem (hids : (d.layers.map Layer.id).Nodup) {l : Layer α} (hl : l ∈ d.layers) :
    d.replace l = d :=
  replace_of_alone fun _ hm hid => List.inj_on_of_nodup_map hids hm hl hid

/-- A restacking keeps the ids and their order. -/
theorem ids_restack (neighbour? : List (Layer α) → Layer α → Option (Layer α)) (d : Document α)
    (id : String) : (d.restack neighbour? id).layers.map Layer.id = d.layers.map Layer.id :=
  Stacking.map_exchangeWith (fun _ _ => rfl) neighbour? d.layers id

/-- A restacking finds a layer under its id, at some height. -/
theorem layer?_restack (neighbour? : List (Layer α) → Layer α → Option (Layer α))
    (d : Document α) (id i : String) :
    (d.layer? i = none ∧ (d.restack neighbour? id).layer? i = none) ∨
      ∃ l z, d.layer? i = some l ∧ (d.restack neighbour? id).layer? i = some (l.atHeight z) := by
  obtain ⟨g, hg, hlayers⟩ := Stacking.exists_exchangeWith_eq_map neighbour? d.layers id
  have hid : ∀ l, (g l).id = l.id := by
    intro l
    obtain ⟨z, hz⟩ := hg l
    rw [hz, Layer.id_atHeight]
  have hfound : (d.restack neighbour? id).layer? i = (d.layer? i).map g := by
    dsimp only [layer?, restack]
    rw [hlayers]
    exact Layer.find?_map hid d.layers i
  rw [hfound]
  cases d.layer? i with
  | none => exact .inl ⟨rfl, rfl⟩
  | some l =>
    obtain ⟨z, hz⟩ := hg l
    exact .inr ⟨l, z, rfl, congrArg some hz⟩

/-- **An edit that looks past the height is made before or after a restacking.** -/
theorem edit_restack (hn : Stacking.ByHeights neighbour?) {f : Layer α → Except Fault (Layer α)}
    (hf : Layer.EditsPastHeight f) (hids : (d.layers.map Layer.id).Nodup) (id i : String) :
    (d.restack neighbour? id).edit i f = (d.edit i f).map (·.restack neighbour? id) := by
  unfold edit
  rcases layer?_restack neighbour? d id i with ⟨hnone, hnone'⟩ | ⟨l, z, hl, hl'⟩
  · rw [hnone, hnone']
    rfl
  rw [hl, hl']
  dsimp only
  rw [hf.atHeight]
  cases hnew : f l with
  | error e => rfl
  | ok new =>
    obtain ⟨hmem, -⟩ := mem_of_layer? hl
    obtain ⟨hmem', -⟩ := mem_of_layer? hl'
    have hids' : ((d.restack neighbour? id).layers.map Layer.id).Nodup := by rwa [ids_restack]
    have hid : new.id = l.id := hf.id_eq hnew
    have hlayers : Layer.replaceIn (d.restack neighbour? id).layers (new.atHeight z)
        = Stacking.exchangeWith neighbour? (Layer.replaceIn d.layers new) id := calc
      _ = (d.restack neighbour? id).layers.map (new.atHeight z).refitted :=
          Layer.replaceIn_eq_map hids' hmem' hid rfl
      _ = (d.restack neighbour? id).layers.map new.refitted := by rw [Layer.refitted_atHeight]
      _ = Stacking.exchangeWith neighbour? (d.layers.map new.refitted) id :=
          (Stacking.exchangeWith_map hn new.refitted_pastHeight d.layers id).symm
      _ = Stacking.exchangeWith neighbour? (Layer.replaceIn d.layers new) id := by
          rw [Layer.replaceIn_eq_map hids hmem hid (hf.zIndex_eq hnew)]
    exact congrArg (fun layers => Except.ok { d with layers := layers }) hlayers

/-! ## 4. Moves, resets and updates are such edits -/

variable [Scalar α]

/-- A drag reads no height. -/
theorem draggedLayer_atHeight (measure : Measurer α) (d : Document α) (grab p : Point α)
    (l : Layer α) (z : Int) :
    d.draggedLayer measure (l.atHeight z) grab p
      = (d.draggedLayer measure l grab p).map (·.atHeight z) := by
  unfold draggedLayer
  simp only [Fault.map_bind]
  rfl

/-- A resize reads no height. -/
theorem resizedLayer_atHeight (d : Document α) (handle : Handle) (start : Rect α)
    (from_ p : Point α) (l : Layer α) (z : Int) :
    d.resizedLayer (l.atHeight z) handle start from_ p
      = (d.resizedLayer l handle start from_ p).map (·.atHeight z) := by
  unfold resizedLayer
  have hcontent : (l.atHeight z).content = l.content := rfl
  rw [hcontent]
  cases l.content with
  | text caption => rfl
  | video clip =>
    simp only [Fault.map_bind]
    rfl

/-- A gesture looks past the heights. -/
theorem movedTo_pastHeight (measure : Measurer α) (d : Document α) (p : Point α) :
    Layer.EditsPastHeight (d.movedTo measure · p) where
  id_eq h := (movedTo_keeps h).1
  atHeight l z := by
    unfold movedTo
    cases d.interaction with
    | idle => rfl
    | dragging id grab => exact draggedLayer_atHeight measure d grab p l z
    | resizing id handle start from_ => exact resizedLayer_atHeight d handle start from_ p l z

/-- A reset looks past the heights. -/
theorem resetLayer_pastHeight :
    Layer.EditsPastHeight (α := α) fun l => .ok (resetLayer l) where
  id_eq h := by
    cases h
    exact (resetLayer_keeps _).1
  atHeight l z := by
    unfold resetLayer
    dsimp only [Layer.atHeight]
    cases l.content <;> rfl

/-- What an update makes of a layer: nothing, if it names none of its fields. -/
def updatedTo (c : Changes α) (l : Layer α) : Except Fault (Layer α) :=
  if c.touches l.kind then l.changed c else .ok l

/-- An update that names no height looks past the heights. -/
theorem updatedTo_pastHeight {c : Changes α} (hc : c.zIndex = none) :
    Layer.EditsPastHeight (updatedTo c) where
  id_eq h := by
    unfold updatedTo at h
    split at h
    · exact (Layer.changed_keeps h).1
    · cases h
      rfl
  atHeight l z := by
    unfold updatedTo
    change (if c.touches l.kind then (l.atHeight z).changed c else .ok (l.atHeight z)) = _
    split
    · unfold Layer.changed
      rw [hc, Fault.map_bind]
      rfl
    · rfl

/-- With distinct ids, a move edits the layer of its gesture. -/
theorem move_eq_edit (hids : (d.layers.map Layer.id).Nodup) (measure : Measurer α) (p : Point α) :
    d.move measure p = match d.interaction.layerId? with
      | none => .ok d
      | some i => d.edit i (d.movedTo measure · p) := by
  unfold move movedTo edit
  cases d.interaction with
  | idle => rfl
  | dragging id grab => rfl
  | resizing id handle start from_ =>
    dsimp only [Interaction.layerId?]
    cases hl : d.layer? id with
    | none => rfl
    | some l =>
      dsimp only
      split
      · rfl
      · rename_i hvideo
        rw [resizedLayer_of_not_video (Bool.eq_false_iff.mpr hvideo)]
        exact congrArg Except.ok (replace_of_mem hids (mem_of_layer? hl).1).symm

/-- With distinct ids, an update that is not refused edits its layer. -/
theorem update_eq_edit (hids : (d.layers.map Layer.id).Nodup) (i : String) (c : Changes α) :
    d.update i c = if c.otherNames.any reservedNames.contains then .error .wrongKind
      else d.edit i (updatedTo c) := by
  unfold update edit updatedTo
  split
  · rfl
  cases hl : d.layer? i with
  | none => rfl
  | some l =>
    dsimp only
    split
    · rfl
    · exact congrArg Except.ok (replace_of_mem hids (mem_of_layer? hl).1).symm

/-- A reset edits its layer. -/
theorem reset_eq_edit (d : Document α) (i : String) :
    .ok (d.reset i) = d.edit i fun l => .ok (resetLayer l) := by
  unfold reset edit
  cases d.layer? i <;> rfl

/-! ## 5. The order of restacking and editing -/

/-- What `r` does to a document and what an edit does to it can be done in either order. -/
structure EditsCommute (measure : Measurer α) (r : Document α → Document α) (d : Document α) :
    Prop where
  move : ∀ p, (r d).move measure p = (d.move measure p).map r
  reset : ∀ i, (r d).reset i = r (d.reset i)
  update : ∀ i c, c.zIndex = none → (r d).update i c = (d.update i c).map r

/-- A restacking commutes with every edit of a document with distinct ids. -/
theorem editsCommute_restack (hn : Stacking.ByHeights neighbour?)
    (hids : (d.layers.map Layer.id).Nodup) (measure : Measurer α) (id : String) :
    EditsCommute measure (·.restack neighbour? id) d := by
  have hids' : ((d.restack neighbour? id).layers.map Layer.id).Nodup := by rwa [ids_restack]
  refine ⟨?_, ?_, ?_⟩
  · intro p
    rw [move_eq_edit hids, move_eq_edit hids']
    -- the gesture, the canvas and the grid are the same before and after
    change (match d.interaction.layerId? with
      | none => Except.ok (d.restack neighbour? id)
      | some i => (d.restack neighbour? id).edit i (d.movedTo measure · p)) = _
    cases d.interaction.layerId? with
    | none => rfl
    | some i => exact edit_restack hn (movedTo_pastHeight measure d p) hids id i
  · intro i
    have hreset := edit_restack hn resetLayer_pastHeight hids id i
    rw [← reset_eq_edit, ← reset_eq_edit] at hreset
    exact Except.ok.inj hreset
  · intro i c hc
    rw [update_eq_edit hids, update_eq_edit hids']
    split
    · rfl
    · exact edit_restack hn (updatedTo_pastHeight hc) hids id i

/-- **Restacking and editing do not depend on each other.**  In a document with distinct ids, to raise
or lower any layer commutes with every move of the pointer, with every reset and with every update
that names no height, of the same layer or of another: both orders give the same document, or fail
alike. -/
theorem restacking_commutes (measure : Measurer α) {d : Document α}
    (hids : (d.layers.map Layer.id).Nodup) (id : String) :
    EditsCommute measure (·.raise id) d ∧ EditsCommute measure (·.lower id) d :=
  ⟨editsCommute_restack Stacking.above?_byHeights hids measure id,
    editsCommute_restack Stacking.below?_byHeights hids measure id⟩

/-- A layer is dragged or made wider, and the one below it is raised past it. -/
theorem restacking_commutes_dragged :
    let below : Layer Rat := ⟨"video-1", "Below", 0, 0, true, 1, .video ⟨200, 100, true, 2⟩⟩
    let above : Layer Rat := ⟨"video-2", "Above", 10, 20, true, 5, .video .initial⟩
    let d : Document Rat := { (empty : Document Rat) with
      layers := [below, above]
      interaction := .dragging "video-2" ⟨5, 5⟩ }
    let p : Point Rat := ⟨65, 75⟩
    let wider : Changes Rat := { width := some (.whole 300) }
    ((d.layers.map Layer.id).Nodup ∧ wider.zIndex = none) ∧
    (d.raise "video-1").move .advance10 p = (d.move .advance10 p).map (·.raise "video-1") ∧
    (d.raise "video-1").update "video-2" wider
      = (d.update "video-2" wider).map (·.raise "video-1") ∧
    ((d.raise "video-1").move .advance10 p).toOption.map
      (·.layers.map fun l => (l.id, l.zIndex, l.x, l.y))
        = some [("video-1", 5, 0, 0), ("video-2", 1, 60, 70)] := by
  intro below above d p wider
  have hids : (d.layers.map Layer.id).Nodup := by decide
  have hraise := (restacking_commutes .advance10 hids "video-1").1
  exact ⟨⟨hids, rfl⟩, hraise.move p, hraise.update "video-2" wider rfl, by decide +kernel⟩

end Document

end Compositor
