import Compositor.Command.Text
import Compositor.Proofs.Command.Wiring

/-!
# The stages that are laid

Each stage is computed by itself and can fail by itself, when a number has no nearest whole number.
So there are two things to say about the graph of some videos and texts.  If it comes about, its
stages fall into groups (`Groups`), one for each kind of stage, and each stage has what its layer
says; this is where the wiring and the roles of the stages are read off.  And if it does not come
about, one of the numbers that it needs (`pixelValues`) is at fault.
-/

namespace Compositor

/-! ## 1. A step for each element of a list -/

section Steps

variable {β γ δ : Type} {f : β → Except Fault γ}

/-- Steps for all elements succeed only if each of them does. -/
theorem map_eq_of_mapM_ok {l : List β} {r : List γ} (h : l.mapM f = .ok r) :
    l.map f = r.map .ok := by
  induction l generalizing r with
  | nil =>
    cases h
    rfl
  | cons a l ih =>
    rw [List.mapM_cons] at h
    obtain ⟨b, hb, h⟩ := Fault.of_bind_eq_ok h
    obtain ⟨bs, hbs, h⟩ := Fault.of_bind_eq_ok h
    cases h
    rw [List.map_cons, List.map_cons, hb, ih hbs]

/-- Steps for all elements fail only if one of them does. -/
theorem exists_of_mapM_error {l : List β} {e : Fault} (h : l.mapM f = .error e) :
    ∃ a ∈ l, f a = .error e := by
  induction l with
  | nil => exact nomatch h
  | cons a l ih =>
    rw [List.mapM_cons] at h
    rcases Fault.of_bind_eq_error h with ha | ⟨b, -, h⟩
    · exact ⟨a, List.mem_cons_self, ha⟩
    · rcases Fault.of_bind_eq_error h with hl | ⟨bs, -, h⟩
      · obtain ⟨a', ha', hf⟩ := ih hl
        exact ⟨a', List.mem_cons_of_mem a ha', hf⟩
      · exact nomatch h

/-- What a step decides about its own outcome, it decides about all outcomes in their order. -/
theorem map_eq_map_of_ok {l : List β} {r : List γ} {p : β → δ} {q : γ → δ}
    (h : l.map f = r.map .ok) (hpq : ∀ a ∈ l, ∀ b, f a = .ok b → q b = p a) :
    r.map q = l.map p := by
  induction l generalizing r with
  | nil =>
    rw [List.map_eq_nil_iff.mp h.symm]
    rfl
  | cons a l ih =>
    cases r with
    | nil => exact nomatch h
    | cons b r =>
      rw [List.map_cons, List.map_cons, List.cons.injEq] at h
      rw [List.map_cons, List.map_cons, hpq a List.mem_cons_self b h.1,
        ih h.2 fun a' ha' => hpq a' (List.mem_cons_of_mem a ha')]

/-- Each element has its outcome. -/
theorem exists_of_map_ok {l : List β} {r : List γ} (h : l.map f = r.map .ok) {a : β} (ha : a ∈ l) :
    ∃ b ∈ r, f a = .ok b := by
  have hmem : f a ∈ r.map Except.ok := h ▸ List.mem_map_of_mem ha
  obtain ⟨b, hb, hf⟩ := List.mem_map.mp hmem
  exact ⟨b, hb, hf.symm⟩

end Steps

namespace Command

variable {α : Type} [Scalar α]

/-! ## 2. One stage -/

/-- The canvas is made in its own size. -/
theorem eq_canvas_of_ok {canvas : Extent α} {s : Stage} (h : canvasStage canvas = .ok s) :
    ∃ w h, Scalar.roundHalfUp canvas.width = .ok w ∧ Scalar.roundHalfUp canvas.height = .ok h ∧
      s = .canvas w h := by
  obtain ⟨w, hw, h⟩ := Fault.of_bind_eq_ok h
  obtain ⟨h', hh, h⟩ := Fault.of_bind_eq_ok h
  cases h
  exact ⟨w, h', hw, hh, rfl⟩

/-- A video is scaled to its own size. -/
theorem eq_scale_of_ok {k : Nat} {clip : Clip α} {s : Stage} (h : scaleStage k clip = .ok s) :
    ∃ w h, Scalar.roundHalfUp clip.width = .ok w ∧ Scalar.roundHalfUp clip.height = .ok h ∧
      s = .scale k w h := by
  obtain ⟨w, hw, h⟩ := Fault.of_bind_eq_ok h
  obtain ⟨h', hh, h⟩ := Fault.of_bind_eq_ok h
  cases h
  exact ⟨w, h', hw, hh, rfl⟩

/-- A video is laid at its own place. -/
theorem eq_overlay_of_ok {n m k : Nat} {l : Layer α} {s : Stage}
    (h : overlayStage n m k l = .ok s) :
    ∃ x y, Scalar.roundHalfUp l.x = .ok x ∧ Scalar.roundHalfUp l.y = .ok y ∧
      s = .overlay (labelBeforeVideo n m k) k x y (labelAfterVideo n m k) := by
  obtain ⟨x, hx, h⟩ := Fault.of_bind_eq_ok h
  obtain ⟨y, hy, h⟩ := Fault.of_bind_eq_ok h
  cases h
  exact ⟨x, y, hx, hy, rfl⟩

/-- A text is drawn as it is. -/
theorem eq_caption_of_ok {n m k : Nat} {l : Layer α} {c : Caption α} {s : Stage}
    (h : captionStage n m k l c = .ok s) :
    ∃ d, drawing l c = .ok d ∧ s = .caption (labelBeforeText n m k) d (labelAfterText m k) := by
  obtain ⟨d, hd, h⟩ := Fault.of_bind_eq_ok h
  cases h
  exact ⟨d, hd, rfl⟩

/-- What a stage is there for. -/
inductive Role where
  | canvas
  | scale
  | overlay
  | caption
  | template
deriving DecidableEq

/-- What a stage is there for. -/
def Stage.role : Stage → Role
  | .canvas _ _ => .canvas
  | .scale _ _ _ => .scale
  | .overlay _ _ _ _ _ => .overlay
  | .caption _ _ _ => .caption
  | .template _ _ => .template

/-- The text that a stage draws. -/
def Stage.drawing? : Stage → Option Drawing
  | .caption _ d _ => some d
  | _ => none

/-- A group of stages that are made in one way is made for one purpose. -/
theorem map_role_eq_replicate {β : Type} {f : β → Except Fault Stage} {l : List β}
    {stages : List Stage} {r : Role} (h : l.map f = stages.map .ok)
    (hrole : ∀ a b, f a = .ok b → b.role = r) :
    stages.map Stage.role = List.replicate l.length r := by
  rw [← List.map_const']
  exact map_eq_map_of_ok h fun a _ b hb => hrole a b hb

/-- Stages of another role draw no text. -/
theorem filterMap_drawing?_eq_nil {stages : List Stage} {n : Nat} {r : Role}
    (h : stages.map Stage.role = List.replicate n r) (hr : r ≠ .caption) :
    stages.filterMap Stage.drawing? = [] := by
  rw [List.filterMap_eq_nil_iff]
  intro s hs
  have hrole : s.role = r := List.eq_of_mem_replicate (h ▸ List.mem_map_of_mem hs)
  cases s with
  | caption => exact absurd hrole.symm hr
  | _ => rfl

/-! ## 3. All stages -/

/-- The groups of stages for some videos and texts on a canvas. -/
structure Groups (videos : List (Layer α × Clip α)) (texts : List (Layer α × Caption α))
    (canvas : Extent α) where
  width : Int
  height : Int
  scales : List Stage
  overlays : List Stage
  captions : List Stage
  width_ok : Scalar.roundHalfUp canvas.width = .ok width
  height_ok : Scalar.roundHalfUp canvas.height = .ok height
  scales_ok : videos.zipIdx.map (fun v => scaleStage v.2 v.1.2) = scales.map .ok
  overlays_ok : videos.zipIdx.map (fun v => overlayStage videos.length texts.length v.2 v.1.1)
    = overlays.map .ok
  captions_ok : texts.zipIdx.map
    (fun t => captionStage videos.length texts.length t.2 t.1.1 t.1.2) = captions.map .ok

variable {videos : List (Layer α × Clip α)} {texts : List (Layer α × Caption α)}
  {canvas : Extent α}

/-- The groups in their order. -/
def Groups.stages (s : Groups videos texts canvas) (template : Bool) : List Stage :=
  .canvas s.width s.height :: s.scales ++ s.overlays ++ s.captions ++
    if template then [.template (labelBeforeText videos.length texts.length texts.length)
      videos.length] else []

/-- **A graph comes about from its groups of stages.** -/
theorem groups_of_graphOf {template : Bool} {g : Graph}
    (h : graphOf videos texts canvas template = .ok g) :
    ∃ s : Groups videos texts canvas,
      g.inputs = videos.map (fun v => inputFile v.1.name)
        ++ (if template then [templateInput] else []) ∧
      g.stages = s.stages template ∧
      g.result = resultLabel videos.length texts.length template := by
  obtain ⟨base, hbase, h⟩ := Fault.of_bind_eq_ok h
  obtain ⟨scales, hscales, h⟩ := Fault.of_bind_eq_ok h
  obtain ⟨overlays, hoverlays, h⟩ := Fault.of_bind_eq_ok h
  obtain ⟨captions, hcaptions, h⟩ := Fault.of_bind_eq_ok h
  cases h
  obtain ⟨width, height, hwidth, hheight, rfl⟩ := eq_canvas_of_ok hbase
  refine ⟨⟨width, height, scales, overlays, captions, hwidth, hheight, map_eq_of_mapM_ok hscales,
    map_eq_of_mapM_ok hoverlays, map_eq_of_mapM_ok hcaptions⟩, rfl, rfl, ?_⟩
  rw [resultLabel, ← labelBeforeText_eq]

/-- What depends only on places can be listed without the elements. -/
theorem map_snd_zipIdx {β γ : Type} (l : List β) (g : Nat → γ) :
    l.zipIdx.map (fun v => g v.2) = (List.range l.length).map g := by
  rw [List.range_eq_range', ← List.zipIdx_map_snd, List.map_map]
  rfl

namespace Groups

variable (s : Groups videos texts canvas)

/-- **The stages are wired as videos and texts ask for.** -/
theorem map_wire (template : Bool) :
    (s.stages template).map Stage.wire = wires videos.length texts.length template := by
  have hscales : s.scales.map Stage.wire = (List.range videos.length).map scaleWire := by
    rw [← map_snd_zipIdx]
    refine map_eq_map_of_ok s.scales_ok fun v _ b hb => ?_
    obtain ⟨w, h, -, -, rfl⟩ := eq_scale_of_ok hb
    rfl
  have hoverlays : s.overlays.map Stage.wire
      = (List.range videos.length).map (overlayWire videos.length texts.length) := by
    rw [← map_snd_zipIdx]
    refine map_eq_map_of_ok s.overlays_ok fun v hv b hb => ?_
    obtain ⟨x, y, -, -, rfl⟩ := eq_overlay_of_ok hb
    have hlt : v.2 < videos.length := List.snd_lt_of_mem_zipIdx hv
    rw [labelBeforeVideo_eq hlt.le, labelAfterVideo_eq hlt]
    rfl
  have hcaptions : s.captions.map Stage.wire
      = (List.range texts.length).map (captionWire videos.length texts.length) := by
    rw [← map_snd_zipIdx]
    refine map_eq_map_of_ok s.captions_ok fun t _ b hb => ?_
    obtain ⟨d, -, rfl⟩ := eq_caption_of_ok hb
    rw [labelBeforeText_eq, labelAfterText_eq]
    rfl
  unfold stages wires
  rw [List.map_append, List.map_append, List.map_append, List.map_cons, hscales, hoverlays,
    hcaptions, labelBeforeText_eq]
  cases template <;> rfl

/-- The scalings are as many as the videos. -/
theorem map_role_scales : s.scales.map Stage.role = List.replicate videos.length .scale := by
  rw [← List.length_zipIdx]
  refine map_role_eq_replicate s.scales_ok fun v b hb => ?_
  obtain ⟨w, h, -, -, rfl⟩ := eq_scale_of_ok hb
  rfl

/-- The overlays are as many as the videos. -/
theorem map_role_overlays : s.overlays.map Stage.role = List.replicate videos.length .overlay := by
  rw [← List.length_zipIdx]
  refine map_role_eq_replicate s.overlays_ok fun v b hb => ?_
  obtain ⟨x, y, -, -, rfl⟩ := eq_overlay_of_ok hb
  rfl

/-- The captions are as many as the texts. -/
theorem map_role_captions : s.captions.map Stage.role = List.replicate texts.length .caption := by
  rw [← List.length_zipIdx]
  refine map_role_eq_replicate s.captions_ok fun t b hb => ?_
  obtain ⟨d, -, rfl⟩ := eq_caption_of_ok hb
  rfl

/-- **First the canvas, then all videos, then all texts, and the template at last.** -/
theorem map_role (template : Bool) :
    (s.stages template).map Stage.role =
      .canvas :: List.replicate videos.length .scale ++ List.replicate videos.length .overlay
        ++ List.replicate texts.length .caption ++ if template then [.template] else [] := by
  unfold stages
  rw [List.map_append, List.map_append, List.map_append, List.map_cons, s.map_role_scales,
    s.map_role_overlays, s.map_role_captions]
  cases template <;> rfl

/-- The captions draw the texts in their order. -/
theorem map_drawing_captions : texts.map (fun t => drawing t.1 t.2)
    = (s.captions.filterMap Stage.drawing?).map .ok := by
  have hread : s.captions.map (fun b => b.drawing?.map Except.ok)
      = texts.zipIdx.map fun t => some (drawing t.1.1 t.1.2) := by
    refine map_eq_map_of_ok s.captions_ok fun t _ b hb => ?_
    obtain ⟨d, hd, rfl⟩ := eq_caption_of_ok hb
    rw [hd]
    rfl
  calc texts.map (fun t => drawing t.1 t.2)
      = texts.zipIdx.map fun t => drawing t.1.1 t.1.2 := by
        conv_lhs => rw [← List.zipIdx_map_fst 0 texts, List.map_map]
        rfl
    _ = (texts.zipIdx.map fun t => some (drawing t.1.1 t.1.2)).filterMap id := by simp
    _ = (s.captions.filterMap Stage.drawing?).map .ok := by
        rw [← hread, List.filterMap_map, List.map_filterMap]
        rfl

/-- The texts are drawn in their order, and nothing else is drawn. -/
theorem map_drawing (template : Bool) : texts.map (fun t => drawing t.1 t.2)
    = ((s.stages template).filterMap Stage.drawing?).map .ok := by
  have hscales : s.scales.filterMap Stage.drawing? = [] :=
    filterMap_drawing?_eq_nil s.map_role_scales (by decide)
  have hoverlays : s.overlays.filterMap Stage.drawing? = [] :=
    filterMap_drawing?_eq_nil s.map_role_overlays (by decide)
  rw [s.map_drawing_captions, stages, List.filterMap_append, List.filterMap_append,
    List.filterMap_append, List.filterMap_cons_none rfl, hscales, hoverlays]
  cases template <;> simp [Stage.drawing?]

/-- Each video has its scaling. -/
theorem scale_mem (template : Bool) {k : Nat} {v : Layer α × Clip α} (hv : videos[k]? = some v) :
    ∃ w h, Scalar.roundHalfUp v.2.width = .ok w ∧ Scalar.roundHalfUp v.2.height = .ok h ∧
      .scale k w h ∈ s.stages template := by
  obtain ⟨b, hmem, hb⟩ := exists_of_map_ok s.scales_ok (List.mk_mem_zipIdx_iff_getElem?.mpr hv)
  obtain ⟨w, h, hw, hh, rfl⟩ := eq_scale_of_ok hb
  refine ⟨w, h, hw, hh, ?_⟩
  simp [stages, hmem]

/-- Each video has its overlay. -/
theorem overlay_mem (template : Bool) {k : Nat} {v : Layer α × Clip α} (hv : videos[k]? = some v) :
    ∃ x y, Scalar.roundHalfUp v.1.x = .ok x ∧ Scalar.roundHalfUp v.1.y = .ok y ∧
      .overlay (labelBeforeVideo videos.length texts.length k) k x y
        (labelAfterVideo videos.length texts.length k) ∈ s.stages template := by
  obtain ⟨b, hmem, hb⟩ := exists_of_map_ok s.overlays_ok (List.mk_mem_zipIdx_iff_getElem?.mpr hv)
  obtain ⟨x, y, hx, hy, rfl⟩ := eq_overlay_of_ok hb
  refine ⟨x, y, hx, hy, ?_⟩
  simp [stages, hmem]

end Groups

/-! ## 4. Numbers that fail -/

/-- All numbers that have to be whole pixels. -/
def pixelValues (videos : List (Layer α × Clip α)) (texts : List (Layer α × Caption α))
    (canvas : Extent α) : List α :=
  [canvas.width, canvas.height]
    ++ videos.flatMap (fun v => [v.2.width, v.2.height] ++ [v.1.x, v.1.y])
    ++ texts.flatMap (fun t => [t.2.font.size, t.1.x, t.1.y])

omit [Scalar α] in
/-- The numbers of the canvas are needed. -/
theorem mem_pixelValues_of_canvas {a : α} (ha : a ∈ [canvas.width, canvas.height]) :
    a ∈ pixelValues videos texts canvas :=
  List.mem_append_left _ (List.mem_append_left _ ha)

omit [Scalar α] in
/-- The numbers of a video are needed. -/
theorem mem_pixelValues_of_video {a : α} {v : Layer α × Clip α} (hv : v ∈ videos)
    (ha : a ∈ [v.2.width, v.2.height] ++ [v.1.x, v.1.y]) : a ∈ pixelValues videos texts canvas :=
  List.mem_append_left _ (List.mem_append_right _ (List.mem_flatMap.mpr ⟨v, hv, ha⟩))

omit [Scalar α] in
/-- The numbers of a text are needed. -/
theorem mem_pixelValues_of_text {a : α} {t : Layer α × Caption α} (ht : t ∈ texts)
    (ha : a ∈ [t.2.font.size, t.1.x, t.1.y]) : a ∈ pixelValues videos texts canvas :=
  List.mem_append_right _ (List.mem_flatMap.mpr ⟨t, ht, ha⟩)

/-- Two roundings fail only if one of them does. -/
theorem of_round_pair_error {β : Type} {a b : α} {f : Int → Int → β} {e : Fault}
    (h : (do return f (← Scalar.roundHalfUp a) (← Scalar.roundHalfUp b)) = Except.error e) :
    ∃ c ∈ [a, b], Scalar.roundHalfUp c = .error e := by
  rcases Fault.of_bind_eq_error h with h | ⟨_, -, h⟩
  · exact ⟨a, List.mem_cons_self, h⟩
  · rcases Fault.of_bind_eq_error h with h | ⟨_, -, h⟩
    · exact ⟨b, List.mem_cons_of_mem a List.mem_cons_self, h⟩
    · exact nomatch h

/-- The stage of a text fails only if its size or its place does. -/
theorem of_captionStage_error {n m k : Nat} {l : Layer α} {c : Caption α} {e : Fault}
    (h : captionStage n m k l c = .error e) :
    ∃ a ∈ [c.font.size, l.x, l.y], Scalar.roundHalfUp a = .error e := by
  rcases Fault.of_bind_eq_error h with h | ⟨_, -, h⟩
  · rcases Fault.of_bind_eq_error h with h | ⟨_, -, h⟩
    · exact ⟨_, List.mem_cons_self, h⟩
    · obtain ⟨a, ha, h⟩ := of_round_pair_error h
      exact ⟨a, List.mem_cons_of_mem _ ha, h⟩
  · exact nomatch h

/-- **No graph fails but for a number that it needs.** -/
theorem exists_pixelValue_of_graphOf_error {template : Bool} {e : Fault}
    (h : graphOf videos texts canvas template = .error e) :
    ∃ a ∈ pixelValues videos texts canvas, Scalar.roundHalfUp a = .error e := by
  rcases Fault.of_bind_eq_error h with h | ⟨_, -, h⟩
  · obtain ⟨a, ha, h⟩ := of_round_pair_error h
    exact ⟨a, mem_pixelValues_of_canvas ha, h⟩
  rcases Fault.of_bind_eq_error h with h | ⟨_, -, h⟩
  · obtain ⟨v, hv, h⟩ := exists_of_mapM_error h
    obtain ⟨a, ha, h⟩ := of_round_pair_error h
    have hmem : v.1 ∈ videos := List.fst_mem_of_mem_zipIdx hv
    exact ⟨a, mem_pixelValues_of_video hmem (List.mem_append_left _ ha), h⟩
  rcases Fault.of_bind_eq_error h with h | ⟨_, -, h⟩
  · obtain ⟨v, hv, h⟩ := exists_of_mapM_error h
    obtain ⟨a, ha, h⟩ := of_round_pair_error h
    have hmem : v.1 ∈ videos := List.fst_mem_of_mem_zipIdx hv
    exact ⟨a, mem_pixelValues_of_video hmem (List.mem_append_right _ ha), h⟩
  rcases Fault.of_bind_eq_error h with h | ⟨_, -, h⟩
  · obtain ⟨t, ht, h⟩ := exists_of_mapM_error h
    obtain ⟨a, ha, h⟩ := of_captionStage_error h
    have hmem : t.1 ∈ texts := List.fst_mem_of_mem_zipIdx ht
    exact ⟨a, mem_pixelValues_of_text hmem ha, h⟩
  · exact nomatch h

/-- A layout with a visible layer has a command, which is the text of its graph, or a number without
whole pixels, and its command fails as the rounding of that number does. -/
theorem exists_graph_of_visible (fonts : FontFiles) {layers : List (Layer α)} (canvas : Extent α)
    (template : Bool) (hvisible : ∃ l ∈ layers, l.visible.isOn) :
    (∃ a ∈ pixelValues (visibleVideos layers) (visibleTexts layers) canvas, ∃ e,
      Scalar.roundHalfUp a = .error e ∧ compile fonts layers canvas template = .error e) ∨
    ∃ g, graphOf (visibleVideos layers) (visibleTexts layers) canvas template = .ok g ∧
      Graph.ofLayers? layers canvas template = .ok (some g) ∧
      compile fonts layers canvas template = .ok (g.render fonts) := by
  have hany : layers.any (·.visible.isOn) = true := List.any_eq_true.mpr hvisible
  cases hg : graphOf (visibleVideos layers) (visibleTexts layers) canvas template with
  | error e =>
    obtain ⟨a, ha, hround⟩ := exists_pixelValue_of_graphOf_error hg
    refine .inl ⟨a, ha, e, hround, ?_⟩
    rw [compile, Graph.ofLayers?, if_pos hany, hg]
    rfl
  | ok g =>
    have hof : Graph.ofLayers? layers canvas template = .ok (some g) := by
      rw [Graph.ofLayers?, if_pos hany, hg]
      rfl
    refine .inr ⟨g, rfl, hof, ?_⟩
    rw [compile, hof]
    rfl

end Command

end Compositor
