import Compositor.Proofs.Document.Ids

/-!
# The selection and the gesture in a session

A document refers to layers in two places, by id: the selection, and the gesture that is going on.
Any layer can be removed at any time, also in the middle of a drag, and yet neither reference is
ever left dangling (`Referring`).  A resize moreover needs a video.  It stays one because no
operation gives an id another kind, which is where the distinct ids of `Numbered` are needed: a
layer is changed under its id, and what shares the id would be changed with it.

It follows that a move finds the layer that it moves (`session_move`), so that the two cases of
`Document.move` for a layer that is gone and for a resize of what is no video are never met.
-/

namespace Compositor

variable {α : Type}

/-! ## 1. References through the pairs of id and kind -/

/-- A pair of id and kind belongs to a layer. -/
theorem Layer.mem_map_tag_iff {layers : List (Layer α)} {id : String} {kind : LayerKind} :
    (id, kind) ∈ layers.map Layer.tag ↔ ∃ l ∈ layers, l.id = id ∧ l.kind = kind := by
  simp [Layer.tag]

/-- A layer is still there among layers with the same ids and more. -/
theorem Layer.Present.mono {layers layers' : List (Layer α)} {id : String}
    (hsub : layers.map Layer.tag ⊆ layers'.map Layer.tag) (h : Layer.Present layers id) :
    Layer.Present layers' id := by
  obtain ⟨l, hl, hid⟩ := h
  obtain ⟨m, hm, hmid, -⟩ := Layer.mem_map_tag_iff.mp (hsub (List.mem_map_of_mem hl))
  exact ⟨m, hm, hmid.trans hid⟩

/-- A gesture still fits among layers with the same ids and kinds and more. -/
theorem Interaction.Fits.mono {layers layers' : List (Layer α)} {g : Interaction α}
    (hsub : layers.map Layer.tag ⊆ layers'.map Layer.tag) (h : g.Fits layers) :
    g.Fits layers' := by
  cases g with
  | idle => trivial
  | dragging id grab => exact Layer.Present.mono hsub h
  | resizing id handle start pointer =>
    exact Layer.mem_map_tag_iff.mp (hsub (Layer.mem_map_tag_iff.mpr h))

/-- A layer with another id survives a removal. -/
theorem Layer.Present.filter_ne {layers : List (Layer α)} {id i : String}
    (h : Layer.Present layers i) (hne : i ≠ id) :
    Layer.Present (layers.filter fun l => l.id != id) i := by
  obtain ⟨l, hl, rfl⟩ := h
  exact ⟨l, List.mem_filter.mpr ⟨hl, by simpa using hne⟩, rfl⟩

/-- A gesture on another layer survives a removal. -/
theorem Interaction.Fits.filter_ne {layers : List (Layer α)} {id : String} {g : Interaction α}
    (h : g.Fits layers) (hne : g.layerId? ≠ some id) :
    g.Fits (layers.filter fun l => l.id != id) := by
  cases g with
  | idle => trivial
  | dragging i grab => exact Layer.Present.filter_ne h fun heq => hne (congrArg some heq)
  | resizing i handle start pointer =>
    obtain ⟨l, hl, rfl, hkind⟩ := h
    have hlne : l.id ≠ id := fun heq => hne (congrArg some heq)
    exact ⟨l, List.mem_filter.mpr ⟨hl, by simpa using hlne⟩, rfl, hkind⟩

namespace Document

/-! ## 2. Neither reference is left dangling -/

/-- The selection and the gesture are on layers that are there, and a resize is on a video. -/
structure Referring (d : Document α) : Prop where
  selected : ∀ id ∈ d.selectedId, Layer.Present d.layers id
  gesture : d.interaction.Fits d.layers

/-- References are good among layers with the same ids and kinds and more. -/
theorem Referring.mono {d : Document α} {layers : List (Layer α)} (hd : Referring d)
    (hsub : d.tags ⊆ layers.map Layer.tag) : Referring { d with layers := layers } where
  selected id hid := (hd.selected id hid).mono hsub
  gesture := hd.gesture.mono hsub

/-- Removing a layer ends the references to it. -/
theorem Referring.remove {d : Document α} (hd : Referring d) (id : String) :
    Referring (d.remove id) := by
  unfold Document.remove
  split
  · exact hd
  · constructor
    · intro i hi
      dsimp only at hi ⊢
      split at hi
      · exact nomatch hi
      · rename_i hsel
        rw [Option.mem_def] at hi
        refine (hd.selected i hi).filter_ne fun heq => hsel ?_
        rw [hi, heq, beq_self_eq_true]
    · dsimp only
      split
      · trivial
      · rename_i hges
        exact hd.gesture.filter_ne (by simpa using hges)

/-- **A step leaves no reference dangling.** -/
theorem Outcome.referring {d d' : Document α} {a : Action α} (h : Outcome d a d')
    (hids : (d.layers.map Layer.id).Nodup) (hd : Referring d) : Referring d' := by
  cases h with
  | added l =>
    have hsub : d.tags ⊆ (d.layers ++ [l]).map Layer.tag := by
      rw [List.map_append]
      exact List.subset_append_left _ _
    refine ⟨fun i hi => ?_, (hd.mono hsub).gesture⟩
    cases hi
    exact ⟨l, List.mem_append_right _ (List.mem_singleton_self l), rfl⟩
  | changed old new old_mem id_eq kind_eq =>
    have hsub : d.tags ⊆ (d.replace new).tags := by
      rw [tags_replace hids old_mem id_eq kind_eq]
      exact List.Subset.refl _
    exact hd.mono hsub
  | removed id => exact hd.remove id
  | exchanged l m =>
    refine hd.mono ?_
    rw [tags_exchange]
    exact List.Subset.refl _
  | pointed selected gesture selected_present gesture_fits =>
    constructor
    · rcases selected_present with rfl | hpresent
      · exact hd.selected
      · exact hpresent
    · rcases gesture_fits with rfl | hfits
      · exact hd.gesture
      · exact hfits
  | furnished => exact ⟨hd.selected, hd.gesture⟩

variable [Scalar α]

/-- The references of a document in which a session can be going on are good. -/
theorem referring_after (measure : Measurer α) (actions : List (Action α)) {d : Document α}
    (hd : Numbered d ∧ Referring d) : Referring (d.after measure actions) := by
  refine (after_induction (P := fun e => Numbered e ∧ Referring e) hd fun e a _ he => ?_).2
  have hstep := outcome_step measure e a
  exact ⟨hstep.numbered he.1, hstep.referring he.1.ids_nodup he.2⟩

/-- The empty document refers to nothing. -/
theorem referring_empty : Referring (empty : Document α) :=
  ⟨fun _ hid => (nomatch hid), trivial⟩

/-! ## 3. What a gesture finds -/

/-- With distinct ids a layer is found under its own. -/
theorem layer?_of_mem {α : Type} {d : Document α} (hids : (d.layers.map Layer.id).Nodup)
    {l : Layer α} (hl : l ∈ d.layers) : d.layer? l.id = some l := Layer.find?_of_mem hids hl

/-- The selected layer has the id that is selected. -/
theorem Referring.map_selected? {α : Type} {d : Document α} (hd : Referring d)
    (hids : (d.layers.map Layer.id).Nodup) : d.selected?.map Layer.id = d.selectedId := by
  cases hselected : d.selectedId with
  | none => simp [selected?, Layer.find?, hselected]
  | some id =>
    obtain ⟨l, hl, rfl⟩ := hd.selected id hselected
    have hfound : d.selected? = some l := by
      rw [selected?, hselected]
      exact layer?_of_mem hids hl
    rw [hfound, Option.map_some]

/-- The three ways of a move: nothing, a drag of a layer, a resize of a video. -/
theorem Referring.move_cases {d : Document α} (hd : Referring d)
    (hids : (d.layers.map Layer.id).Nodup) (measure : Measurer α) (p : Point α) :
    (d.interaction = .idle ∧ d.move measure p = .ok d) ∨
    (∃ l grab, l ∈ d.layers ∧ d.interaction = .dragging l.id grab ∧
      d.move measure p = (d.draggedLayer measure l grab p).map d.replace) ∨
    (∃ l handle start from_, l ∈ d.layers ∧ l.isVideo = true ∧
      d.interaction = .resizing l.id handle start from_ ∧
      d.move measure p = (d.resizedLayer l handle start from_ p).map d.replace) := by
  have hfits := hd.gesture
  unfold Document.move
  cases hg : d.interaction with
  | idle => exact .inl ⟨rfl, rfl⟩
  | dragging id grab =>
    rw [hg] at hfits
    obtain ⟨l, hl, rfl⟩ := hfits
    refine .inr (.inl ⟨l, grab, hl, rfl, ?_⟩)
    dsimp only
    rw [layer?_of_mem hids hl]
    rfl
  | resizing id handle start from_ =>
    rw [hg] at hfits
    obtain ⟨l, hl, rfl, hkind⟩ := hfits
    have hvideo : l.isVideo = true := by rw [Layer.isVideo, hkind, beq_self_eq_true]
    refine .inr (.inr ⟨l, handle, start, from_, hl, hvideo, rfl, ?_⟩)
    dsimp only
    rw [layer?_of_mem hids hl]
    dsimp only
    rw [if_pos hvideo]
    rfl

/-- **The references of every session.**  What is selected is there; the gesture is on a layer that
is there, a resize on a video; so every move finds its layer; and nothing is selected only if no id
is. -/
theorem session_references (measure : Measurer α) (actions : List (Action α)) :
    let d := (empty : Document α).after measure actions
    (∀ id, d.selectedId = some id → ∃ l ∈ d.layers, l.id = id) ∧
    d.interaction.Fits d.layers ∧
    (∀ p,
      (d.interaction = .idle ∧ d.move measure p = .ok d) ∨
      (∃ l grab, l ∈ d.layers ∧ d.interaction = .dragging l.id grab ∧
        d.move measure p = (d.draggedLayer measure l grab p).map d.replace) ∨
      (∃ l handle start from_, l ∈ d.layers ∧ l.isVideo = true ∧
        d.interaction = .resizing l.id handle start from_ ∧
        d.move measure p = (d.resizedLayer l handle start from_ p).map d.replace)) ∧
    (d.selected? = none ↔ d.selectedId = none) := by
  intro d
  have hids : (d.layers.map Layer.id).Nodup :=
    (numbered_after measure actions numbered_empty).ids_nodup
  have hd : Referring d := referring_after measure actions ⟨numbered_empty, referring_empty⟩
  refine ⟨hd.selected, hd.gesture, hd.move_cases hids measure, ?_⟩
  cases hsel : d.selectedId with
  | none => simp [selected?, Layer.find?, hsel]
  | some id =>
    obtain ⟨l, hl, rfl⟩ := hd.selected id hsel
    have hfound : d.selected? = some l := by
      rw [selected?, hsel]
      exact layer?_of_mem hids hl
    rw [hfound]
    simp

end Document

end Compositor
