import Compositor.Proofs.Document.Gesture

/-!
# Where the numbers of a document come from

`Outcome` follows layers by id, kind and height, and says nothing of the numbers that they hold.
Where numbers are bounded, it has to be known what an action computes them from.  There are six
sources for what a layer shows after an action (`Content.Source`): a layer showed it before, it is
that of a new video or a new text, fields were changed, the geometry was reset, or the layer was
resized.  The canvas, the distance of the grid lines and the template's opacity do not depend on
layers, and each of them has setters that keep its limits.

`origin_of_apply` says both once for all actions (`Document.Origin`).  A bound on numbers is then
proved by cases on the sources.
-/

namespace Compositor

variable {α : Type} [Scalar α]

/-- Where what a layer shows after an action comes from. -/
inductive Content.Source (d : Document α) (a : Action α) : Content α → Prop
  /-- A layer showed it before. -/
  | kept (l : Layer α) (l_mem : l ∈ d.layers) : Source d a l.content
  /-- A new video shows it. -/
  | newVideo : Source d a (.video .initial)
  /-- A new text shows it. -/
  | newText : Source d a (.text .initial)
  /-- The fields of a layer were changed. -/
  | changed (l : Layer α) (l_mem : l ∈ d.layers) (id : String) (c : Changes α)
      (change_eq : a.change? = some (id, c)) (content : Content α)
      (changed_ok : l.changedContent c = .ok content) : Source d a content
  /-- The geometry of a layer was reset. -/
  | reset (l : Layer α) (l_mem : l ∈ d.layers) : Source d a (Document.resetLayer l).content
  /-- A layer was resized. -/
  | resized (l : Layer α) (l_mem : l ∈ d.layers) (handle : Handle) (start : Rect α)
      (from_ p : Point α) (l' : Layer α)
      (resized_ok : d.resizedLayer l handle start from_ p = .ok l') : Source d a l'.content

/-- Where the numbers of a document after an action come from. -/
structure Document.Origin (d : Document α) (a : Action α) (d' : Document α) : Prop where
  /-- What each layer shows has a source. -/
  contents : ∀ l ∈ d'.layers, l.content.Source d a
  /-- The canvas is as it was, or the first one, or has the size of a template. -/
  canvas : d'.canvas = d.canvas ∨ d'.canvas = .standard ∨
    ∃ w h : Int, 0 < w ∧ 0 < h ∧ d'.canvas = ⟨Scalar.ofInt w, Scalar.ofInt h⟩
  /-- The distance of the grid lines is as it was, or was brought up to the smallest one. -/
  gridSize : d'.gridSize = d.gridSize ∨ ∃ v, d'.gridSize = Scalar.larger Defaults.minGridSize v
  /-- The opacity is as it was, or was brought between zero and one. -/
  templateOpacity : d'.templateOpacity = d.templateOpacity ∨
    ∃ v, d'.templateOpacity = Scalar.clamp v (Scalar.ofInt 0) (Scalar.ofInt 1)

/-- A layer after a replacement is the new one or was there before. -/
theorem Layer.mem_replaceIn {α : Type} {layers : List (Layer α)} {new l : Layer α}
    (h : l ∈ Layer.replaceIn layers new) : l = new ∨ l ∈ layers := by
  obtain ⟨m, hm, rfl⟩ := List.mem_map.mp h
  split
  · exact .inl rfl
  · exact .inr hm

namespace Document

variable {d d' : Document α} {a : Action α}

/-! ## 1. Few ways to make a document -/

/-- Nothing is new where only layers were taken away. -/
theorem Origin.of_subset (hlayers : d'.layers ⊆ d.layers) (hcanvas : d'.canvas = d.canvas)
    (hsize : d'.gridSize = d.gridSize) (hopacity : d'.templateOpacity = d.templateOpacity) :
    Origin d a d' where
  contents l hl := .kept l (hlayers hl)
  canvas := .inl hcanvas
  gridSize := .inl hsize
  templateOpacity := .inl hopacity

/-- Nothing is new in the same document. -/
theorem Origin.refl (d : Document α) (a : Action α) : Origin d a d :=
  .of_subset (List.Subset.refl _) rfl rfl rfl

/-- Where one layer is replaced, only what the new one shows needs a source. -/
theorem Origin.replace {new : Layer α} (h : new.content.Source d a) :
    Origin d a (d.replace new) where
  contents l hl := by
    rcases Layer.mem_replaceIn hl with rfl | hl
    · exact h
    · exact .kept l hl
  canvas := .inl rfl
  gridSize := .inl rfl
  templateOpacity := .inl rfl

/-- Where one layer is added, only what that one shows needs a source. -/
theorem Origin.append {new : Layer α} (h : new.content.Source d a) :
    Origin d a (d.append new) where
  contents l hl := by
    rcases List.mem_append.mp hl with hl | hl
    · exact .kept l hl
    · rw [List.mem_singleton.mp hl]
      exact h
  canvas := .inl rfl
  gridSize := .inl rfl
  templateOpacity := .inl rfl

/-- Layers that exchange their heights show what they showed. -/
theorem Origin.exchangeWith (neighbour? : List (Layer α) → Layer α → Option (Layer α))
    (id : String) :
    Origin d a { d with layers := Stacking.exchangeWith neighbour? d.layers id } where
  contents l hl := by
    have hmem : l.content ∈ (Stacking.exchangeWith neighbour? d.layers id).map Layer.content :=
      List.mem_map_of_mem hl
    rw [Stacking.map_exchangeWith (fun _ _ => rfl)] at hmem
    obtain ⟨m, hm, hml⟩ := List.mem_map.mp hmem
    exact hml ▸ .kept m hm
  canvas := .inl rfl
  gridSize := .inl rfl
  templateOpacity := .inl rfl

/-! ## 2. Actions that may change nothing -/

/-- A change of fields changes one layer, if any. -/
theorem origin_of_update {id : String} {c : Changes α} (ha : a.change? = some (id, c))
    (h : d.update id c = .ok d') : Origin d a d' := by
  unfold Document.update at h
  split at h
  · exact nomatch h
  · split at h
    · cases h
      exact .refl d a
    · rename_i l hl
      split at h
      · obtain ⟨l', hl', hd⟩ := Fault.of_bind_eq_ok h
        cases hd
        obtain ⟨content, hcontent, hl'⟩ := Fault.of_bind_eq_ok hl'
        cases hl'
        exact .replace (.changed l (mem_of_layer? hl).1 id c ha content hcontent)
      · cases h
        exact .refl d a

/-- A copy shows what its source shows. -/
theorem origin_of_duplicate {id : String} (h : d.duplicate id = .ok d') : Origin d a d' := by
  unfold Document.duplicate at h
  split at h
  · cases h
    exact .refl d a
  · rename_i l hl
    obtain ⟨x, -, hx⟩ := Fault.of_bind_eq_ok h
    obtain ⟨y, -, hy⟩ := Fault.of_bind_eq_ok hx
    cases hy
    exact .append (.kept l (mem_of_layer? hl).1)

/-- A removal takes away only layers. -/
theorem origin_remove (id : String) : Origin d a (d.remove id) := by
  refine .of_subset (layers_remove_sublist d id).subset ?_ ?_ ?_ <;>
  · unfold Document.remove
    split <;> rfl

/-- A move resizes its layer, or leaves what it shows alone. -/
theorem origin_of_move {measure : Measurer α} {p : Point α} (h : d.move measure p = .ok d') :
    Origin d a d' := by
  cases hl : d.movedLayer? with
  | none =>
    rw [move_of_none hl] at h
    cases h
    exact .refl d a
  | some l =>
    have hmem := (layerId?_of_movedLayer? hl).2
    rw [move_of_some hl] at h
    obtain ⟨l', hl', rfl⟩ := Fault.of_map_eq_ok h
    unfold movedTo at hl'
    split at hl'
    · cases hl'
      exact .replace (.kept l hmem)
    · obtain ⟨size, -, hq⟩ := Fault.of_bind_eq_ok hl'
      obtain ⟨q, -, hl'⟩ := Fault.of_bind_eq_ok hq
      cases hl'
      exact .replace (.kept l hmem)
    · exact .replace (.resized l hmem _ _ _ _ l' hl')

/-- A press touches neither layers nor the canvas. -/
theorem origin_of_press {measure : Measurer α} {p : Point α} (h : d.press measure p = .ok d') :
    Origin d a d' := by
  unfold Document.press at h
  split at h
  · cases h
    exact .of_subset (List.Subset.refl _) rfl rfl rfl
  · obtain ⟨hit, -, hd⟩ := Fault.of_bind_eq_ok h
    cases hit <;> cases hd <;> exact .of_subset (List.Subset.refl _) rfl rfl rfl

/-! ## 3. All actions -/

/-- **Whatever an action puts into a document has an origin.** -/
theorem origin_of_apply {measure : Measurer α} (h : a.apply measure d = .ok d') :
    Origin d a d' := by
  cases a with
  | addVideo =>
    obtain ⟨x, -, hx⟩ := Fault.of_bind_eq_ok h
    obtain ⟨y, -, hy⟩ := Fault.of_bind_eq_ok hx
    cases hy
    exact .append .newVideo
  | addText =>
    obtain ⟨x, -, hx⟩ := Fault.of_bind_eq_ok h
    obtain ⟨y, -, hy⟩ := Fault.of_bind_eq_ok hx
    cases hy
    exact .append .newText
  | update id c => exact origin_of_update rfl h
  | enter id field raw =>
    obtain ⟨value, hvalue, hd⟩ := Fault.of_bind_eq_ok h
    have hchange : (Action.enter id field raw).change? = some (id, .ofList [(field, value)]) := by
      rw [Action.change?, hvalue]
      rfl
    exact origin_of_update hchange hd
  | duplicate id => exact origin_of_duplicate h
  | remove id => cases h; exact origin_remove id
  | reset id =>
    cases h
    unfold Document.reset
    split
    · exact .refl d _
    · rename_i l hl
      exact .replace (.reset l (mem_of_layer? hl).1)
  | raise id => cases h; exact .exchangeWith Stacking.above? id
  | lower id => cases h; exact .exchangeWith Stacking.below? id
  | select id => cases h; exact .of_subset (List.Subset.refl _) rfl rfl rfl
  | loadTemplate path w k =>
    cases h
    unfold Document.loadTemplate
    split
    · exact .refl d _
    · rename_i hpos
      rw [Bool.or_eq_true, decide_eq_true_eq, decide_eq_true_eq, not_or] at hpos
      exact {
        contents := fun l hl => .kept l hl
        canvas := .inr (.inr ⟨w, k, by omega, by omega, rfl⟩)
        gridSize := .inl rfl
        templateOpacity := .inl rfl }
  | clearTemplate => cases h; exact .of_subset (List.Subset.refl _) rfl rfl rfl
  | resetCanvas => cases h; exact ⟨fun l hl => .kept l hl, .inr (.inl rfl), .inl rfl, .inl rfl⟩
  | setTemplateOpacity raw =>
    obtain ⟨v, -, hd⟩ := Fault.of_bind_eq_ok h
    cases hd
    exact ⟨fun l hl => .kept l hl, .inl rfl, .inl rfl, .inr ⟨v, rfl⟩⟩
  | setShowGrid raw => cases h; exact .of_subset (List.Subset.refl _) rfl rfl rfl
  | setSnapToGrid raw => cases h; exact .of_subset (List.Subset.refl _) rfl rfl rfl
  | setGridSize raw =>
    obtain ⟨v, -, hd⟩ := Fault.of_bind_eq_ok h
    cases hd
    exact ⟨fun l hl => .kept l hl, .inl rfl, .inr ⟨v, rfl⟩, .inl rfl⟩
  | press p => exact origin_of_press h
  | move p => exact origin_of_move h
  | release => cases h; exact .of_subset (List.Subset.refl _) rfl rfl rfl

end Document

end Compositor
