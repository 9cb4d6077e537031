import Compositor.Action
import Compositor.Proofs.Stacking

/-!
# What one action can do to a document

There are some twenty actions, and most of what holds of every session needs only a coarse view of
them.  An action adds one layer on top, changes one layer in its place, removes one, exchanges the
heights of two, moves the selection and the gesture, or touches none of these (`Outcome`).  An
action that fails does nothing, which is a case of the last.

`outcome_step` says so once for all actions.  An invariant of sessions is then proved by cases on
`Outcome`, and carried over a whole session by `after_induction`.
-/

namespace Compositor

variable {α : Type}

/-- A layer with this id is there. -/
def Layer.Present (layers : List (Layer α)) (id : String) : Prop := ∃ l ∈ layers, l.id = id

/-- The gesture is on a layer that is there, and a resize is on a video. -/
def Interaction.Fits (layers : List (Layer α)) : Interaction α → Prop
  | .idle => True
  | .dragging id _ => Layer.Present layers id
  | .resizing id _ _ _ => ∃ l ∈ layers, l.id = id ∧ l.kind = .video

/-- Whether an action gives a layer a z-index of the caller's choice. -/
def Action.setsHeight : Action α → Bool
  | .update _ c => c.zIndex.isSome
  | .enter _ field _ => field == "z_index"
  | _ => false

/-- A layer that is made for this document: it has the next id and goes on top. -/
structure Document.Fresh (d : Document α) (l : Layer α) : Prop where
  id_eq : l.id = d.nextId l.kind
  height_eq : l.zIndex = Stacking.nextZ d.layers

/-- What one action can do to a document. -/
inductive Document.Outcome (d : Document α) (a : Action α) : Document α → Prop
  /-- A new layer is put on top and selected. -/
  | added (l : Layer α) (fresh : d.Fresh l) : Outcome d a (d.append l)
  /-- A layer is changed, but not in its id and its kind. -/
  | changed (old new : Layer α) (old_mem : old ∈ d.layers) (id_eq : new.id = old.id)
      (kind_eq : new.kind = old.kind) (height_eq : a.setsHeight = false → new.zIndex = old.zIndex) :
      Outcome d a (d.replace new)
  /-- A layer is removed. -/
  | removed (id : String) : Outcome d a (d.remove id)
  /-- Two layers exchange their heights. -/
  | exchanged (l m : Layer α) (l_mem : l ∈ d.layers) (m_mem : m ∈ d.layers) :
      Outcome d a { d with layers := Stacking.exchange d.layers l m }
  /-- The selection or the gesture is moved to a layer that is there, or ended. -/
  | pointed (selected : Option String) (gesture : Interaction α)
      (selected_present : selected = d.selectedId ∨ ∀ id ∈ selected, Layer.Present d.layers id)
      (gesture_fits : gesture = d.interaction ∨ gesture.Fits d.layers) :
      Outcome d a { d with selectedId := selected, interaction := gesture }
  /-- Only canvas, template and grid are touched. -/
  | furnished (canvas : Extent α) (path : Option String) (opacity : α) (shown snaps : Bool)
      (size : α) : Outcome d a
        { d with canvas := canvas, templatePath := path, templateOpacity := opacity,
                 showGrid := shown, snapToGrid := snaps, gridSize := size }

/-! ## 1. Looking layers up, and taking them away -/

/-- What is found under an id is a layer with that id. -/
theorem Document.mem_of_layer? {d : Document α} {id : String} {l : Layer α}
    (h : d.layer? id = some l) : l ∈ d.layers ∧ l.id = id := by
  obtain ⟨hid, hmem⟩ := Layer.find?_some h
  exact ⟨hmem, (Option.some.inj hid).symm⟩

/-- An id is found exactly if a layer has it. -/
theorem Document.isSome_layer?_iff {d : Document α} {id : String} :
    (d.layer? id).isSome ↔ Layer.Present d.layers id := by
  simp [Document.layer?, Layer.find?, Layer.Present]

/-- Where no different layer has its id, a layer in its own place changes nothing. -/
theorem Document.replace_of_alone {d : Document α} {l : Layer α}
    (halone : ∀ m ∈ d.layers, m.id = l.id → m = l) : d.replace l = d := by
  rw [Document.replace, Layer.replaceIn_of_alone halone]

/-- A removal takes layers away and leaves the others in their order. -/
theorem Document.layers_remove_sublist (d : Document α) (id : String) :
    List.Sublist (d.remove id).layers d.layers := by
  unfold Document.remove
  split
  · exact List.Sublist.refl _
  · exact List.filter_sublist

/-- A removal leaves the counter alone. -/
theorem Document.idCounter_remove (d : Document α) (id : String) :
    (d.remove id).idCounter = d.idCounter := by
  unfold Document.remove
  split <;> rfl

/-- An action that changes nothing has an outcome, too. -/
theorem Document.Outcome.unchanged (d : Document α) (a : Action α) : Outcome d a d :=
  .furnished d.canvas d.templatePath d.templateOpacity d.showGrid d.snapToGrid d.gridSize

variable [Scalar α]

/-! ## 2. What layers keep -/

/-- A change keeps the id and the kind of a layer, and its z-index unless it names one. -/
theorem Layer.changed_keeps {l l' : Layer α} {c : Changes α} (h : l.changed c = .ok l') :
    l'.id = l.id ∧ l'.kind = l.kind ∧ l'.zIndex = c.zIndex.getD l.zIndex := by
  obtain ⟨content, hc, hl⟩ := Fault.of_bind_eq_ok h
  cases hl
  refine ⟨rfl, ?_, rfl⟩
  unfold Layer.changedContent at hc
  unfold Layer.kind
  split at hc
  · obtain ⟨clip, -, hclip⟩ := Fault.of_bind_eq_ok hc
    cases hclip
    simp [*]
  · obtain ⟨caption, -, hcaption⟩ := Fault.of_bind_eq_ok hc
    cases hcaption
    simp [*]

/-- A value for a field that is not the z-index leaves the z-index out. -/
theorem Changes.zIndex_set_of_ne {field : String} (h : field ≠ "z_index") (c : Changes α)
    (raw : Raw α) : (c.set field raw).zIndex = c.zIndex := by
  unfold Changes.set
  split <;> first | rfl | exact absurd rfl h

/-- The first layer that covers a point is one of the layers. -/
theorem Layer.mem_of_firstCovering {measure : Measurer α} {p : Point α} {layers : List (Layer α)}
    {l : Layer α} (h : Layer.firstCovering measure p layers = .ok (some l)) : l ∈ layers := by
  induction layers with
  | nil => exact nomatch h
  | cons m rest ih =>
    obtain ⟨covered, -, hl⟩ := Fault.of_bind_eq_ok h
    split at hl
    · cases hl
      exact List.mem_cons_self
    · exact List.mem_cons_of_mem _ (ih hl)

namespace Document

/-- A change of fields, whatever it names. -/
theorem outcome_update {d d' : Document α} {a : Action α} {id : String} {c : Changes α}
    (hz : a.setsHeight = false → c.zIndex = none) (h : d.update id c = .ok d') :
    Outcome d a d' := by
  unfold Document.update at h
  split at h
  · exact nomatch h
  · split at h
    · cases h
      exact .unchanged d a
    · rename_i l hl
      split at h
      · obtain ⟨l', hl', hd⟩ := Fault.of_bind_eq_ok h
        cases hd
        obtain ⟨hid, hkind, hheight⟩ := Layer.changed_keeps hl'
        refine .changed l l' (mem_of_layer? hl).1 hid hkind fun ha => ?_
        rw [hheight, hz ha, Option.getD_none]
      · cases h
        exact .unchanged d a

/-- A value typed for a field is a change of that field alone. -/
theorem outcome_enter {d d' : Document α} {id field : String} {raw : Raw α}
    (h : d.enter id field raw = .ok d') : Outcome d (.enter id field raw) d' := by
  obtain ⟨value, -, hd⟩ := Fault.of_bind_eq_ok h
  refine outcome_update (fun ha => ?_) hd
  exact Changes.zIndex_set_of_ne (by simpa [Action.setsHeight] using ha) {} value

/-! ## 3. Layers that are new -/

/-- A new video is put on top. -/
theorem eq_append_of_addVideo {d d' : Document α} (h : d.addVideo = .ok d') :
    ∃ l, d.Fresh l ∧ d' = d.append l := by
  obtain ⟨x, -, hx⟩ := Fault.of_bind_eq_ok h
  obtain ⟨y, -, hy⟩ := Fault.of_bind_eq_ok hx
  cases hy
  exact ⟨_, ⟨rfl, rfl⟩, rfl⟩

/-- A new text is put on top. -/
theorem eq_append_of_addText {d d' : Document α} (h : d.addText = .ok d') :
    ∃ l, d.Fresh l ∧ d' = d.append l := by
  obtain ⟨x, -, hx⟩ := Fault.of_bind_eq_ok h
  obtain ⟨y, -, hy⟩ := Fault.of_bind_eq_ok hx
  cases hy
  exact ⟨_, ⟨rfl, rfl⟩, rfl⟩

/-- A copy is put on top. -/
theorem eq_append_of_duplicate {d d' : Document α} {id : String} (hid : (d.layer? id).isSome)
    (h : d.duplicate id = .ok d') : ∃ l, d.Fresh l ∧ d' = d.append l := by
  obtain ⟨l, hl⟩ := Option.isSome_iff_exists.mp hid
  rw [Document.duplicate, hl] at h
  obtain ⟨x, -, hx⟩ := Fault.of_bind_eq_ok h
  obtain ⟨y, -, hy⟩ := Fault.of_bind_eq_ok hx
  cases hy
  exact ⟨_, ⟨rfl, rfl⟩, rfl⟩

/-- A copy of a layer that is not there changes nothing. -/
theorem duplicate_of_none {d : Document α} {id : String} (hid : d.layer? id = none) :
    d.duplicate id = .ok d := by
  rw [Document.duplicate, hid]

/-- A copy is put on top, or nothing is changed. -/
theorem outcome_duplicate {d d' : Document α} {id : String} (h : d.duplicate id = .ok d') :
    Outcome d (.duplicate id) d' := by
  cases hid : d.layer? id with
  | none =>
    rw [duplicate_of_none hid] at h
    cases h
    exact .unchanged d _
  | some l =>
    obtain ⟨copy, hfresh, rfl⟩ := eq_append_of_duplicate (by rw [hid]; rfl) h
    exact .added copy hfresh

/-! ## 4. Layers in their places -/

/-- A reset keeps the id, the kind and the z-index of a layer. -/
theorem resetLayer_keeps (l : Layer α) :
    (resetLayer l).id = l.id ∧ (resetLayer l).kind = l.kind ∧
      (resetLayer l).zIndex = l.zIndex := by
  unfold resetLayer Layer.kind
  split <;> simp [*]

/-- A reset changes one layer. -/
theorem outcome_reset (d : Document α) (id : String) : Outcome d (.reset id) (d.reset id) := by
  unfold Document.reset
  split
  · exact .unchanged d _
  · rename_i l hl
    obtain ⟨hid, hkind, hheight⟩ := resetLayer_keeps l
    exact .changed l (resetLayer l) (mem_of_layer? hl).1 hid hkind fun _ => hheight

/-- Moving a layer in the pile exchanges it with a neighbour that is one of the layers. -/
theorem outcome_exchangeWith {α : Type} (d : Document α) (a : Action α) (id : String)
    {neighbour? : List (Layer α) → Layer α → Option (Layer α)}
    (hmem : ∀ l m, neighbour? d.layers l = some m → m ∈ d.layers) :
    Outcome d a { d with layers := Stacking.exchangeWith neighbour? d.layers id } := by
  unfold Stacking.exchangeWith
  split
  · exact .unchanged d a
  · rename_i l hl
    split
    · exact .unchanged d a
    · rename_i m hm
      exact .exchanged l m (Layer.find?_some hl).2 (hmem l m hm)

/-- Raising exchanges two layers. -/
theorem outcome_raise {α : Type} (d : Document α) (id : String) :
    Outcome d (.raise id) (d.raise id) :=
  outcome_exchangeWith d _ id fun _ _ hm => (List.mem_filter.mp (Stacking.mem_of_leastBy hm)).1

/-- Lowering exchanges two layers. -/
theorem outcome_lower {α : Type} (d : Document α) (id : String) :
    Outcome d (.lower id) (d.lower id) :=
  outcome_exchangeWith d _ id fun _ _ hm => (List.mem_filter.mp (Stacking.mem_of_leastBy hm)).1

/-! ## 5. The selection and the pointer -/

/-- Only a layer that is there can be selected. -/
theorem outcome_select {α : Type} (d : Document α) (id : Option String) :
    Outcome d (.select id) (d.select id) := by
  refine .pointed _ d.interaction (.inr fun i hi => ?_) (.inl rfl)
  obtain ⟨l, hl, hid⟩ := Option.bind_eq_some_iff.mp (Option.mem_def.mp hi)
  obtain ⟨hid', hmem⟩ := Layer.find?_some hl
  exact ⟨l, hmem, Option.some.inj (hid'.symm.trans hid)⟩

/-- A press starts a resize of the selected video, or a drag of a layer that is there, or ends the
selection and the gesture. -/
theorem outcome_press {measure : Measurer α} {d d' : Document α} {p : Point α}
    (h : d.press measure p = .ok d') : Outcome d (.press p) d' := by
  unfold Document.press at h
  split at h
  · rename_i l clip handle hgrab
    cases h
    refine .pointed d.selectedId _ (.inl rfl) (.inr ?_)
    obtain ⟨m, hm, hrest⟩ := Option.bind_eq_some_iff.mp hgrab
    obtain ⟨c, hc, hrest⟩ := Option.bind_eq_some_iff.mp hrest
    obtain ⟨_, -, heq⟩ := Option.bind_eq_some_iff.mp hrest
    cases heq
    refine ⟨l, (Layer.find?_some hm).2, rfl, ?_⟩
    unfold Layer.clip? at hc
    unfold Layer.kind
    split at hc <;> simp_all
  · obtain ⟨hit, hhit, hd⟩ := Fault.of_bind_eq_ok h
    cases hit with
    | none =>
      cases hd
      exact .pointed none .idle (.inr fun _ hi => nomatch hi) (.inr trivial)
    | some l =>
      cases hd
      have hmem : l ∈ d.layers :=
        (Stacking.topDown_perm d.layers).mem_iff.mp (Layer.mem_of_firstCovering hhit)
      refine .pointed (some l.id) _ (.inr fun i hi => ?_) (.inr ⟨l, hmem, rfl⟩)
      cases hi
      exact ⟨l, hmem, rfl⟩

/-- A move of a resize keeps the id, the kind and the z-index of the layer. -/
theorem resizedLayer_keeps {d : Document α} {l l' : Layer α} {handle : Handle} {start : Rect α}
    {from_ p : Point α} (h : d.resizedLayer l handle start from_ p = .ok l') :
    l'.id = l.id ∧ l'.kind = l.kind ∧ l'.zIndex = l.zIndex := by
  unfold Document.resizedLayer at h
  split at h
  · cases h
    exact ⟨rfl, rfl, rfl⟩
  · rename_i clip hclip
    obtain ⟨r, -, hl⟩ := Fault.of_bind_eq_ok h
    cases hl
    exact ⟨rfl, by simp [Layer.kind, hclip], rfl⟩

/-- What is no video is not resized. -/
theorem resizedLayer_of_not_video {l : Layer α} (h : l.isVideo = false) (d : Document α)
    (handle : Handle) (start : Rect α) (from_ p : Point α) :
    d.resizedLayer l handle start from_ p = .ok l := by
  cases hcontent : l.content with
  | video clip =>
    rw [Layer.isVideo, Layer.kind, hcontent] at h
    exact absurd h.symm Bool.false_ne_true
  | text caption => rw [resizedLayer, hcontent]

/-- A move of a drag keeps all of a layer but its place. -/
theorem draggedLayer_keeps {measure : Measurer α} {d : Document α} {l l' : Layer α}
    {grab p : Point α} (h : d.draggedLayer measure l grab p = .ok l') :
    l'.id = l.id ∧ l'.kind = l.kind ∧ l'.zIndex = l.zIndex := by
  obtain ⟨size, -, hq⟩ := Fault.of_bind_eq_ok h
  obtain ⟨q, -, hl⟩ := Fault.of_bind_eq_ok hq
  cases hl
  exact ⟨rfl, rfl, rfl⟩

/-- A move changes at most the layer of the gesture. -/
theorem outcome_move {measure : Measurer α} {d d' : Document α} {p : Point α}
    (h : d.move measure p = .ok d') : Outcome d (.move p) d' := by
  unfold Document.move at h
  split at h
  · cases h
    exact .unchanged d _
  · split at h
    · cases h
      exact .unchanged d _
    · rename_i l hl
      obtain ⟨l', hl', hd⟩ := Fault.of_bind_eq_ok h
      cases hd
      obtain ⟨hid, hkind, hheight⟩ := draggedLayer_keeps hl'
      exact .changed l l' (mem_of_layer? hl).1 hid hkind fun _ => hheight
  · split at h
    · cases h
      exact .unchanged d _
    · rename_i l hl
      split at h
      · obtain ⟨l', hl', hd⟩ := Fault.of_bind_eq_ok h
        cases hd
        obtain ⟨hid, hkind, hheight⟩ := resizedLayer_keeps hl'
        exact .changed l l' (mem_of_layer? hl).1 hid hkind fun _ => hheight
      · cases h
        exact .unchanged d _

/-! ## 6. All actions, and sessions of them -/

/-- An action that succeeds has an outcome. -/
theorem outcome_apply {measure : Measurer α} {d d' : Document α} {a : Action α}
    (h : a.apply measure d = .ok d') : Outcome d a d' := by
  cases a with
  | addVideo =>
    obtain ⟨l, hfresh, rfl⟩ := eq_append_of_addVideo h
    exact .added l hfresh
  | addText =>
    obtain ⟨l, hfresh, rfl⟩ := eq_append_of_addText h
    exact .added l hfresh
  | update id c => exact outcome_update (by simp [Action.setsHeight]) h
  | enter id field raw => exact outcome_enter h
  | duplicate id => exact outcome_duplicate h
  | remove id => cases h; exact .removed id
  | reset id => cases h; exact outcome_reset d id
  | raise id => cases h; exact outcome_raise d id
  | lower id => cases h; exact outcome_lower d id
  | select id => cases h; exact outcome_select d id
  | loadTemplate path w k =>
    cases h
    unfold Document.loadTemplate
    split
    · exact .unchanged d _
    · exact .furnished _ _ d.templateOpacity d.showGrid d.snapToGrid d.gridSize
  | clearTemplate =>
    cases h
    exact .furnished d.canvas none d.templateOpacity d.showGrid d.snapToGrid d.gridSize
  | resetCanvas =>
    cases h
    exact .furnished .standard d.templatePath d.templateOpacity d.showGrid d.snapToGrid d.gridSize
  | setTemplateOpacity raw =>
    obtain ⟨v, -, hd⟩ := Fault.of_bind_eq_ok h
    cases hd
    exact .furnished d.canvas d.templatePath _ d.showGrid d.snapToGrid d.gridSize
  | setShowGrid raw =>
    cases h
    exact .furnished d.canvas d.templatePath d.templateOpacity raw.truthy d.snapToGrid d.gridSize
  | setSnapToGrid raw =>
    cases h
    exact .furnished d.canvas d.templatePath d.templateOpacity d.showGrid raw.truthy d.gridSize
  | setGridSize raw =>
    obtain ⟨v, -, hd⟩ := Fault.of_bind_eq_ok h
    cases hd
    exact .furnished d.canvas d.templatePath d.templateOpacity d.showGrid d.snapToGrid _
  | press p => exact outcome_press h
  | move p => exact outcome_move h
  | release => cases h; exact .pointed d.selectedId .idle (.inl rfl) (.inr trivial)

/-- **Every step of a session is an outcome of its action**, also that of an action that fails. -/
theorem outcome_step (measure : Measurer α) (d : Document α) (a : Action α) :
    Outcome d a (d.step measure a) := by
  unfold Document.step
  cases h : a.apply measure d with
  | error e => exact .unchanged d a
  | ok d' => exact outcome_apply h

/-- What holds at the start of a session and is kept by each of its steps holds after it. -/
theorem after_induction {measure : Measurer α} {P : Document α → Prop} {actions : List (Action α)}
    {d : Document α} (start : P d)
    (step : ∀ d, ∀ a ∈ actions, P d → P (d.step measure a)) : P (d.after measure actions) := by
  induction actions generalizing d with
  | nil => exact start
  | cons a rest ih =>
    exact ih (step d a List.mem_cons_self start)
      fun d' b hb => step d' b (List.mem_cons_of_mem a hb)

end Document

end Compositor
