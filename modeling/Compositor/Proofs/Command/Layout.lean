import Compositor.Command.Text
import Compositor.Proofs.Command.Stages
import Compositor.Proofs.Stacking
import Compositor.Scalar.Exact

/-!
# The command of a layout

A layout with a visible layer has a command, unless one of its numbers is too large or undefined.
The inputs of the command, what its stages do with them and the order in which they do it follow
the visible layers from the bottom up (`Graph.Shows`), and the stages are wired without a gap
(`Graph.WellFormed`).
-/

namespace Compositor.Command

variable {α : Type} [Scalar α]

/-! ## 1. Visible layers -/

section Visible

variable {β : Type} (read : Layer α → Option β) (layers : List (Layer α))

omit [Scalar α] in
/-- Reading off what some layers show keeps these layers in their order. -/
theorem map_fst_filterMap :
    (layers.filterMap fun l => (read l).map (l, ·)).map Prod.fst
      = layers.filter fun l => (read l).isSome := by
  induction layers with
  | nil => rfl
  | cons l layers ih =>
    cases hl : read l with
    | none => simpa [hl] using ih
    | some b => simpa [hl] using ih

/-- What the visible layers show, from the bottom up. -/
theorem ascending_filterMap :
    Stacking.Ascending (layers.filter fun l => (read l).isSome && l.visible.isOn)
      (((Stacking.bottomUp (layers.filter (·.visible.isOn))).filterMap
        fun l => (read l).map (l, ·)).map Prod.fst) := by
  rw [map_fst_filterMap, ← List.filter_filter]
  exact (Stacking.bottomUp_ascending _).filter _

end Visible

omit [Scalar α] in
/-- Videos are the layers with a clip. -/
theorem isSome_clip? (l : Layer α) : l.clip?.isSome = l.isVideo := by
  unfold Layer.clip? Layer.isVideo Layer.kind
  cases l.content <;> rfl

omit [Scalar α] in
/-- Texts are the layers with a caption. -/
theorem isSome_caption? (l : Layer α) : l.caption?.isSome = l.isText := by
  unfold Layer.caption? Layer.isText Layer.kind
  cases l.content <;> rfl

/-- The visible videos stand from the bottom up. -/
theorem visibleVideos_ascending (layers : List (Layer α)) :
    Stacking.Ascending (layers.filter fun l => l.isVideo && l.visible.isOn)
      ((visibleVideos layers).map Prod.fst) := by
  have h := ascending_filterMap Layer.clip? layers
  simp only [isSome_clip?] at h
  exact h

/-- The visible texts stand from the bottom up. -/
theorem visibleTexts_ascending (layers : List (Layer α)) :
    Stacking.Ascending (layers.filter fun l => l.isText && l.visible.isOn)
      ((visibleTexts layers).map Prod.fst) := by
  have h := ascending_filterMap Layer.caption? layers
  simp only [isSome_caption?] at h
  exact h

/-- A visible video comes with its clip. -/
theorem content_of_mem_visibleVideos {layers : List (Layer α)} {v : Layer α × Clip α}
    (hv : v ∈ visibleVideos layers) : v.1.content = .video v.2 := by
  obtain ⟨l, -, hl⟩ := List.mem_filterMap.mp hv
  obtain ⟨c, hc, rfl⟩ := Option.map_eq_some_iff.mp hl
  unfold Layer.clip? at hc
  split at hc
  · cases hc
    assumption
  · exact nomatch hc

/-- A visible text comes with its caption. -/
theorem content_of_mem_visibleTexts {layers : List (Layer α)} {t : Layer α × Caption α}
    (ht : t ∈ visibleTexts layers) : t.1.content = .text t.2 := by
  obtain ⟨l, -, hl⟩ := List.mem_filterMap.mp ht
  obtain ⟨c, hc, rfl⟩ := Option.map_eq_some_iff.mp hl
  unfold Layer.caption? at hc
  split at hc
  · exact nomatch hc
  · cases hc
    assumption

/-- A visible layer is among the videos or among the texts. -/
theorem length_visible_pos {layers : List (Layer α)} (h : ∃ l ∈ layers, l.visible.isOn) :
    0 < (visibleVideos layers).length + (visibleTexts layers).length := by
  obtain ⟨l, hl, hon⟩ := h
  cases hvideo : l.isVideo with
  | true =>
    have hmem : l ∈ (visibleVideos layers).map Prod.fst :=
      (visibleVideos_ascending layers).perm.mem_iff.mpr
        (List.mem_filter.mpr ⟨hl, by rw [hvideo, hon, Bool.and_self]⟩)
    have hpos := List.length_pos_of_mem hmem
    rw [List.length_map] at hpos
    omega
  | false =>
    have htext : l.isText = true := by rw [l.isText_eq_not_isVideo, hvideo, Bool.not_false]
    have hmem : l ∈ (visibleTexts layers).map Prod.fst :=
      (visibleTexts_ascending layers).perm.mem_iff.mpr
        (List.mem_filter.mpr ⟨hl, by rw [htext, hon, Bool.and_self]⟩)
    have hpos := List.length_pos_of_mem hmem
    rw [List.length_map] at hpos
    omega

/-! ## 2. What a graph shows -/

/-- The graph shows the visible layers, the videos under the texts and the template on top. -/
structure Graph.Shows (g : Graph) (layers : List (Layer α)) (canvas : Extent α)
    (template : Bool) : Prop where
  /-- The inputs are the files of the visible videos from the bottom up, and then the template. -/
  inputs_eq : g.inputs = (visibleVideos layers).map (fun v => inputFile v.1.name)
    ++ if template then [templateInput] else []
  /-- The videos stand from the bottom up, each with its clip. -/
  videos_ascending : Stacking.Ascending (layers.filter fun l => l.isVideo && l.visible.isOn)
    ((visibleVideos layers).map Prod.fst) ∧ ∀ v ∈ visibleVideos layers, v.1.content = .video v.2
  /-- The texts stand from the bottom up, each with its caption. -/
  texts_ascending : Stacking.Ascending (layers.filter fun l => l.isText && l.visible.isOn)
    ((visibleTexts layers).map Prod.fst) ∧ ∀ t ∈ visibleTexts layers, t.1.content = .text t.2
  /-- There is a canvas, a scaling and an overlay for each video, a caption for each text, and the
  template if it is asked for, in this order. -/
  roles_eq : g.stages.map Stage.role =
    .canvas :: List.replicate (visibleVideos layers).length .scale
      ++ List.replicate (visibleVideos layers).length .overlay
      ++ List.replicate (visibleTexts layers).length .caption
      ++ if template then [.template] else []
  /-- The canvas has its own size. -/
  canvas_sized : ∃ w h, Scalar.roundHalfUp canvas.width = .ok w ∧
    Scalar.roundHalfUp canvas.height = .ok h ∧ g.stages.head? = some (.canvas w h)
  /-- A video is read once, from its file, and is scaled to its own size. -/
  videos_scaled : ∀ k v, (visibleVideos layers)[k]? = some v →
    g.inputs[k]? = some (inputFile v.1.name) ∧
    ∃ w h, Scalar.roundHalfUp v.2.width = .ok w ∧ Scalar.roundHalfUp v.2.height = .ok h ∧
      (g.stages.filter fun s => k ∈ s.reads) = [.scale k w h]
  /-- A scaled video is consumed once, and is laid at its own place. -/
  videos_placed : ∀ k v, (visibleVideos layers)[k]? = some v →
    ∃ under x y next, Scalar.roundHalfUp v.1.x = .ok x ∧ Scalar.roundHalfUp v.1.y = .ok y ∧
      (g.stages.filter fun s => .scaled k ∈ s.consumed) = [.overlay under k x y next]
  /-- The texts are drawn from the bottom up. -/
  texts_drawn : (visibleTexts layers).map (fun t => drawing t.1 t.2)
    = (g.stages.filterMap Stage.drawing?).map .ok
  /-- The template is the input after the videos, and is laid over the picture with all layers. -/
  template_laid : template = true →
    g.inputs[(visibleVideos layers).length]? = some templateInput ∧
    (g.stages.filter fun s => (visibleVideos layers).length ∈ s.reads)
      = [.template .final (visibleVideos layers).length]
  /-- The result is the picture with everything. -/
  result_eq : g.result = if template then .output else .final

/-- Where no two stages have a thing in common, what a stage has tells which stage it is. -/
theorem filter_eq_singleton {γ : Type} [DecidableEq γ] {f : Stage → List γ} {stages : List Stage}
    (hnodup : (stages.flatMap f).Nodup) {s : Stage} {c : γ} (hs : s ∈ stages) (hc : c ∈ f s) :
    (stages.filter fun s => c ∈ f s) = [s] := by
  obtain ⟨before, after, rfl⟩ := List.append_of_mem hs
  rw [List.flatMap_append, List.flatMap_cons, List.nodup_append] at hnodup
  obtain ⟨-, hrest, hbefore⟩ := hnodup
  have hafter := (List.nodup_append.mp hrest).2.2
  have hnot : (before.filter fun s => c ∈ f s) = [] := by
    rw [List.filter_eq_nil_iff]
    intro t ht hct
    exact hbefore c (List.mem_flatMap.mpr ⟨t, ht, of_decide_eq_true hct⟩) c
      (List.mem_append_left _ hc) rfl
  have hnot' : (after.filter fun s => c ∈ f s) = [] := by
    rw [List.filter_eq_nil_iff]
    intro t ht hct
    exact hafter c hc c (List.mem_flatMap.mpr ⟨t, ht, of_decide_eq_true hct⟩) rfl
  rw [List.filter_append, hnot, List.nil_append, List.filter_cons, if_pos (decide_eq_true hc),
    hnot']

/-- A well-formed graph has no two stages that read one input. -/
theorem Graph.WellFormed.nodup_reads {g : Graph} (h : g.WellFormed) :
    (g.stages.flatMap Stage.reads).Nodup := h.reads_inputs ▸ List.nodup_range

/-- A well-formed graph has no two stages that consume one label. -/
theorem Graph.WellFormed.nodup_consumed {g : Graph} (h : g.WellFormed) :
    (g.stages.flatMap Stage.consumed).Nodup := by
  have hproduced : (g.stages.map Stage.produced).Nodup := by
    have hwords : ((g.stages.map Stage.produced).map Label.word).Nodup := by
      rw [List.map_map]
      exact h.produced_once
    exact hwords.of_map
  exact (h.consumed_once.nodup_iff.mpr hproduced).of_cons

/-- **A graph of a layout is well-formed and shows the layout.** -/
theorem shows_of_graphOf {layers : List (Layer α)} {canvas : Extent α} {template : Bool}
    {g : Graph} (hvisible : ∃ l ∈ layers, l.visible.isOn)
    (h : graphOf (visibleVideos layers) (visibleTexts layers) canvas template = .ok g) :
    g.Shows layers canvas template ∧ g.WellFormed := by
  obtain ⟨s, hinputs, hstages, hresult⟩ := groups_of_graphOf h
  have hlength : g.inputs.length = (visibleVideos layers).length + if template then 1 else 0 := by
    rw [hinputs, List.length_append, List.length_map]
    cases template <;> rfl
  have hwell : g.WellFormed :=
    Graph.wellFormed_of_wires (hstages ▸ s.map_wire template) hresult hlength
  have hall : pictureAfter (visibleVideos layers).length (visibleTexts layers).length
      ((visibleVideos layers).length + (visibleTexts layers).length) = .final :=
    pictureAfter_all (length_visible_pos hvisible)
  refine ⟨?_, hwell⟩
  constructor
  case inputs_eq => exact hinputs
  case videos_ascending =>
    exact ⟨visibleVideos_ascending layers, fun v => content_of_mem_visibleVideos⟩
  case texts_ascending =>
    exact ⟨visibleTexts_ascending layers, fun t => content_of_mem_visibleTexts⟩
  case roles_eq => exact hstages ▸ s.map_role template
  case canvas_sized =>
    refine ⟨s.width, s.height, s.width_ok, s.height_ok, ?_⟩
    rw [hstages]
    rfl
  case videos_scaled =>
    intro k v hv
    obtain ⟨w, h, hw, hh, hmem⟩ := s.scale_mem template hv
    have hfile : g.inputs[k]? = some (inputFile v.1.name) := by
      rw [hinputs, List.getElem?_append_left, List.getElem?_map, hv]
      · rfl
      · rw [List.length_map]
        exact (List.getElem?_eq_some_iff.mp hv).1
    have hreads :=
      filter_eq_singleton hwell.nodup_reads (hstages ▸ hmem) (List.mem_singleton_self k)
    exact ⟨hfile, w, h, hw, hh, hreads⟩
  case videos_placed =>
    intro k v hv
    obtain ⟨x, y, hx, hy, hmem⟩ := s.overlay_mem template hv
    have hconsumes := filter_eq_singleton hwell.nodup_consumed (hstages ▸ hmem)
      (List.mem_cons_of_mem _ (List.mem_singleton_self (Label.scaled k)))
    exact ⟨_, x, y, _, hx, hy, hconsumes⟩
  case texts_drawn => exact hstages ▸ s.map_drawing template
  case template_laid =>
    rintro rfl
    have hfile : g.inputs[(visibleVideos layers).length]? = some templateInput := by
      rw [hinputs, List.getElem?_append_right, List.length_map, Nat.sub_self]
      · rfl
      · rw [List.length_map]
    have hmem : .template .final (visibleVideos layers).length ∈ g.stages := by
      rw [hstages, Groups.stages, labelBeforeText_eq, hall]
      exact List.mem_append_right _ (List.mem_singleton_self _)
    exact ⟨hfile, filter_eq_singleton hwell.nodup_reads hmem (List.mem_singleton_self _)⟩
  case result_eq => rw [hresult, resultLabel, hall]

/-! ## 3. The text of the command -/

/-- The text takes the labels and inputs of the stage in front, and gives its label at the end. -/
def Stage.SpelledBy (s : Stage) (text : String) : Prop :=
  ∃ indent ∈ ["    ", "\n    "], ∃ close ∈ [";\n", ";\n\n", "\n"], ∃ filter,
    text = indent ++ String.join (s.consumed.map bracketed)
      ++ String.join (s.reads.map inputPicture) ++ filter ++ bracketed s.produced ++ close

/-- **A stage spells what it is wired to.** -/
theorem Stage.spelledBy_render (fonts : FontFiles) (s : Stage) : s.SpelledBy (s.render fonts) := by
  cases s with
  | canvas w h =>
    have hindent : "    color=size=" = "    " ++ "color=size=" := by decide
    refine ⟨"    ", List.mem_cons_self, ";\n\n", List.mem_cons_of_mem _ List.mem_cons_self,
      "color=size=" ++ sizeText w h "x" ++ ":color=black:d=1", ?_⟩
    change "    color=size=" ++ sizeText w h "x" ++ ":color=black:d=1" ++ bracketed .base
      ++ ";\n\n" = "    " ++ String.join [] ++ String.join [] ++ _ ++ bracketed .base ++ ";\n\n"
    simp only [hindent, String.join_nil, String.append_empty, String.append_assoc]
  | scale i w h =>
    refine ⟨"    ", List.mem_cons_self, ";\n\n", List.mem_cons_of_mem _ List.mem_cons_self,
      "scale=" ++ sizeText w h ":" ++ ":force_original_aspect_ratio=decrease,\n    pad="
        ++ sizeText w h ":" ++ ":(ow-iw)/2:(oh-ih)/2", ?_⟩
    change "    " ++ inputPicture i ++ "scale=" ++ sizeText w h ":"
        ++ ":force_original_aspect_ratio=decrease,\n    pad=" ++ sizeText w h ":"
        ++ ":(ow-iw)/2:(oh-ih)/2" ++ bracketed (.scaled i) ++ ";\n\n"
      = "    " ++ String.join [] ++ String.join [inputPicture i] ++ _ ++ bracketed (.scaled i)
        ++ ";\n\n"
    simp only [String.join_nil, String.join_cons, String.append_empty, String.append_assoc]
  | overlay u i x y l =>
    refine ⟨"    ", List.mem_cons_self, ";\n", List.mem_cons_self,
      "overlay=" ++ sizeText x y ":", ?_⟩
    change "    " ++ bracketed u ++ bracketed (.scaled i) ++ "overlay=" ++ sizeText x y ":"
        ++ bracketed l ++ ";\n"
      = "    " ++ String.join [bracketed u, bracketed (.scaled i)] ++ String.join [] ++ _
        ++ bracketed l ++ ";\n"
    simp only [String.join_nil, String.join_cons, String.append_empty, String.append_assoc]
  | caption u d l =>
    refine ⟨"    ", List.mem_cons_self, ";\n", List.mem_cons_self,
      "drawtext=" ++ d.render fonts, ?_⟩
    change "    " ++ bracketed u ++ "drawtext=" ++ d.render fonts ++ bracketed l ++ ";\n"
      = "    " ++ String.join [bracketed u] ++ String.join [] ++ _ ++ bracketed l ++ ";\n"
    simp only [String.join_nil, String.join_cons, String.append_empty, String.append_assoc]
  | template u i =>
    refine ⟨"\n    ", List.mem_cons_of_mem _ List.mem_cons_self, "\n",
      List.mem_cons_of_mem _ (List.mem_cons_of_mem _ List.mem_cons_self), "overlay=0:0", ?_⟩
    change "\n    " ++ bracketed u ++ inputPicture i ++ "overlay=0:0" ++ bracketed .output ++ "\n"
      = "\n    " ++ String.join [bracketed u] ++ String.join [inputPicture i] ++ _
        ++ bracketed .output ++ "\n"
    simp only [String.join_nil, String.join_cons, String.append_empty, String.append_assoc]

/-- **The command of a layout with a visible layer.**  Either a number that is needed has no whole
pixels, and the command fails as the rounding of that number does; or there is a command, and it is
the text of a well-formed graph that shows the layout. -/
theorem compile_visible (fonts : FontFiles) (layers : List (Layer α)) (canvas : Extent α)
    (template : Bool) (hvisible : ∃ l ∈ layers, l.visible.isOn) :
    (∃ a ∈ pixelValues (visibleVideos layers) (visibleTexts layers) canvas, ∃ e,
      Scalar.roundHalfUp a = .error e ∧ compile fonts layers canvas template = .error e) ∨
    ∃ g : Graph, compile fonts layers canvas template = .ok (g.render fonts) ∧
      g.Shows layers canvas template ∧ g.WellFormed ∧
      ∀ s ∈ g.stages, s.SpelledBy (s.render fonts) := by
  rcases exists_graph_of_visible fonts canvas template hvisible with
    hfails | ⟨g, hg, -, hcompile⟩
  · exact .inl hfails
  · obtain ⟨hshows, hwell⟩ := shows_of_graphOf hvisible hg
    exact .inr ⟨g, hcompile, hshows, hwell, fun s _ => s.spelledBy_render fonts⟩

/-- A title below a video, both visible. -/
theorem compile_title_and_video :
    let layers : List (Layer Rat) := [
      ⟨"video-1", "Some Clip", 40, 30, true, 2, .video ⟨320, 240, false, 1⟩⟩,
      ⟨"text-2", "Title", 0, 0, true, 1, .text ⟨"Hello", ⟨"Arial", 24, false, false⟩, "#ffffff"⟩⟩]
    (∃ l ∈ layers, l.visible.isOn) ∧
      ∃ g : Graph, compile systemFonts layers ⟨1280, 720⟩ true = .ok (g.render systemFonts) ∧
        g.WellFormed ∧ g.result = .output := by
  intro layers
  have hvisible : ∃ l ∈ layers, l.visible.isOn := by decide
  refine ⟨hvisible, ?_⟩
  rcases compile_visible systemFonts layers ⟨1280, 720⟩ true hvisible with
    ⟨a, -, e, hround, -⟩ | ⟨g, hg, hshows, hwell, -⟩
  · exact nomatch hround
  · exact ⟨g, hg, hwell, hshows.result_eq⟩

end Compositor.Command
