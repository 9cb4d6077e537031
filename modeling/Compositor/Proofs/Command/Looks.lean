import Compositor.Action
import Compositor.Proofs.Command.Layout

/-!
# What the command depends on

Two layouts look alike when, kind by kind, their visible layers from the bottom up differ at most in
their ids and z-indices (`LookAlike`).  The command does not tell such layouts apart, and neither
does its failure.

The z-indices of a video and of a text are never compared, since all videos lie under all texts; so
the condition is on each kind by itself, and the layers of the other kind and the hidden ones may
lie wherever they like.  Ties are the one thing to watch: layers of one kind and one z-index stand
in the order of the collection, so the collection can be put in another order only where there are
none (`lookAlike_of_perm`).
-/

namespace Compositor

variable {α : Type}

/-- What is to be seen of a layer: all but its id and its z-index. -/
def Layer.look (l : Layer α) : Layer α := { l with id := "", zIndex := 0 }

namespace Command

variable [Scalar α]

/-! ## 1. Layouts that look alike -/

/-- The visible layers of a kind, in the order of the collection. -/
def visibleOf (kind : LayerKind) (layers : List (Layer α)) : List (Layer α) :=
  layers.filter fun l => l.kind == kind && l.visible.isOn

/-- From the bottom up, the visible layers of each kind are to be seen as the same ones. -/
def LookAlike (as bs : List (Layer α)) : Prop :=
  ∀ kind, ∃ as' bs', Stacking.Ascending (visibleOf kind as) as' ∧
    Stacking.Ascending (visibleOf kind bs) bs' ∧ as'.map Layer.look = bs'.map Layer.look

/-- The same visible layers of each kind look alike, whatever lies between them. -/
theorem lookAlike_of_visibleOf {as bs : List (Layer α)}
    (h : ∀ kind, visibleOf kind as = visibleOf kind bs) : LookAlike as bs := fun kind =>
  ⟨_, _, Stacking.bottomUp_ascending _, h kind ▸ Stacking.bottomUp_ascending _, rfl⟩

/-- Hidden layers are not to be seen. -/
theorem visibleOf_filter_visible (kind : LayerKind) (layers : List (Layer α)) :
    visibleOf kind (layers.filter (·.visible.isOn)) = visibleOf kind layers := by
  unfold visibleOf
  rw [List.filter_filter]
  refine List.filter_congr fun l _ => ?_
  rw [Bool.and_assoc, Bool.and_self]

/-- On distinct heights the order of the collection is not to be seen. -/
theorem lookAlike_of_perm {as bs : List (Layer α)} (hperm : as.Perm bs)
    (hheights : (as.map Layer.zIndex).Nodup) : LookAlike as bs := fun kind => by
  have hheights' : ((visibleOf kind as).map Layer.zIndex).Nodup :=
    hheights.sublist (List.filter_sublist.map _)
  have hsorted := Stacking.bottomUp_ascending (visibleOf kind as)
  exact ⟨_, _, hsorted, hsorted.of_perm (hperm.filter _) hheights', rfl⟩

/-- Layers with other ids and other heights. -/
def relabelled (ids : Layer α → String) (heights : Layer α → Int) (layers : List (Layer α)) :
    List (Layer α) :=
  layers.map fun l => { l with id := ids l, zIndex := heights l }

/-- Ids are not to be seen, and neither are heights that keep what lies above what. -/
theorem lookAlike_relabelled {ids : Layer α → String} {heights : Layer α → Int}
    {layers : List (Layer α)}
    (h : ∀ kind, ∀ l ∈ visibleOf kind layers, ∀ m ∈ visibleOf kind layers,
      heights l ≤ heights m ↔ l.zIndex ≤ m.zIndex) :
    LookAlike (relabelled ids heights layers) layers := fun kind => by
  have hvisible : visibleOf kind (relabelled ids heights layers)
      = relabelled ids heights (visibleOf kind layers) := by
    unfold visibleOf relabelled
    rw [List.filter_map]
    rfl
  have hsorted := Stacking.bottomUp_ascending (visibleOf kind layers)
  have hrelabelled : Stacking.Ascending (relabelled ids heights (visibleOf kind layers))
      (relabelled ids heights (Stacking.bottomUp (visibleOf kind layers))) := hsorted.map (h kind)
  refine ⟨_, _, hvisible ▸ hrelabelled, hsorted, ?_⟩
  unfold relabelled
  rw [List.map_map]
  rfl

/-! ## 2. The graph of a look -/

section Shown

variable {β : Type} {read : Layer α → Option β} {kind : LayerKind}

/-- What the visible layers of a kind show, read from any listing of them from the bottom up. -/
theorem filterMap_of_ascending (hread : ∀ l, (read l).isSome = (l.kind == kind))
    {layers sorted : List (Layer α)}
    (h : Stacking.Ascending (visibleOf kind layers) sorted) :
    ((Stacking.bottomUp (layers.filter (·.visible.isOn))).filterMap fun l => (read l).map (l, ·))
      = sorted.filterMap fun l => (read l).map (l, ·) := by
  have hkind := (Stacking.bottomUp_ascending (layers.filter (·.visible.isOn))).filter
    fun l => l.kind == kind
  rw [List.filter_filter] at hkind
  rw [h.unique hkind, List.filterMap_filter]
  refine List.filterMap_congr fun l _ => ?_
  rw [← hread]
  cases read l <;> rfl

/-- Layouts that look alike show the same. -/
theorem map_look_filterMap_eq (hread : ∀ l, (read l).isSome = (l.kind == kind))
    (hlook : ∀ l, read l.look = read l) {as bs : List (Layer α)} (h : LookAlike as bs) :
    ((Stacking.bottomUp (as.filter (·.visible.isOn))).filterMap
        fun l => (read l).map (l, ·)).map (Prod.map Layer.look id)
      = ((Stacking.bottomUp (bs.filter (·.visible.isOn))).filterMap
        fun l => (read l).map (l, ·)).map (Prod.map Layer.look id) := by
  obtain ⟨as', bs', has, hbs, hsame⟩ := h kind
  have hmap : ∀ sorted : List (Layer α),
      (sorted.filterMap fun l => (read l).map (l, ·)).map (Prod.map Layer.look id)
        = (sorted.map Layer.look).filterMap fun l => (read l).map (l, ·) := fun sorted => by
    rw [List.map_filterMap, List.filterMap_map]
    refine List.filterMap_congr fun l _ => ?_
    rw [Option.map_map, Function.comp_apply, hlook]
    rfl
  rw [filterMap_of_ascending hread has, filterMap_of_ascending hread hbs, hmap, hmap, hsame]

end Shown

/-- A graph does not tell a layer from its look. -/
theorem graphOf_map_look (videos : List (Layer α × Clip α)) (texts : List (Layer α × Caption α))
    (canvas : Extent α) (template : Bool) :
    graphOf (videos.map (Prod.map Layer.look id)) (texts.map (Prod.map Layer.look id)) canvas
      template = graphOf videos texts canvas template := by
  unfold graphOf
  simp only [List.zipIdx_map, List.mapM_map, List.length_map, List.map_map]
  rfl

/-- Something is visible when there is a visible layer of one of the kinds. -/
theorem any_visible_iff (layers : List (Layer α)) :
    layers.any (·.visible.isOn) = true ↔ ∃ kind, 0 < (visibleOf kind layers).length := by
  simp only [visibleOf, List.length_pos_iff_exists_mem, List.mem_filter, List.any_eq_true,
    Bool.and_eq_true, beq_iff_eq]
  exact ⟨fun ⟨l, hl, hon⟩ => ⟨l.kind, l, hl, rfl, hon⟩, fun ⟨_, l, hl, _, hon⟩ => ⟨l, hl, hon⟩⟩

/-- Layouts that look alike have as many visible layers of a kind. -/
theorem LookAlike.length_visibleOf {as bs : List (Layer α)} (h : LookAlike as bs)
    (kind : LayerKind) : (visibleOf kind as).length = (visibleOf kind bs).length := by
  obtain ⟨as', bs', has, hbs, hsame⟩ := h kind
  have hlength := congrArg List.length hsame
  rw [List.length_map, List.length_map] at hlength
  rw [← has.perm.length_eq, hlength, hbs.perm.length_eq]

/-- **Layouts that look alike have the same command, or fail alike.** -/
theorem LookAlike.compile_eq {as bs : List (Layer α)} (h : LookAlike as bs) (fonts : FontFiles)
    (canvas : Extent α) (template : Bool) :
    compile fonts as canvas template = compile fonts bs canvas template := by
  have hany : as.any (·.visible.isOn) = bs.any (·.visible.isOn) := by
    rw [Bool.eq_iff_iff, any_visible_iff, any_visible_iff]
    simp only [h.length_visibleOf]
  have hvideos : (visibleVideos as).map (Prod.map Layer.look id)
      = (visibleVideos bs).map (Prod.map Layer.look id) :=
    map_look_filterMap_eq isSome_clip? (fun _ => rfl) h
  have htexts : (visibleTexts as).map (Prod.map Layer.look id)
      = (visibleTexts bs).map (Prod.map Layer.look id) :=
    map_look_filterMap_eq isSome_caption? (fun _ => rfl) h
  have hgraph : graphOf (visibleVideos as) (visibleTexts as) canvas template
      = graphOf (visibleVideos bs) (visibleTexts bs) canvas template := by
    rw [← graphOf_map_look, hvideos, htexts, graphOf_map_look]
  unfold compile Graph.ofLayers?
  rw [hany, hgraph]

/-! ## 3. What the command does not depend on -/

/-- **The command follows from what is to be seen, kind by kind.**  So it is not changed by hidden
layers, by what lies between the layers of one kind, by ids, by heights that keep what lies above
what among the visible layers of a kind, by the order of a collection without ties, or by what is
selected and how it is being dragged. -/
theorem compile_of_lookAlike (fonts : FontFiles) (canvas : Extent α) (template : Bool) :
    (∀ as bs : List (Layer α), LookAlike as bs →
      compile fonts as canvas template = compile fonts bs canvas template) ∧
    (∀ layers : List (Layer α), compile fonts (layers.filter (·.visible.isOn)) canvas template
      = compile fonts layers canvas template) ∧
    (∀ as bs : List (Layer α), (∀ kind, visibleOf kind as = visibleOf kind bs) →
      compile fonts as canvas template = compile fonts bs canvas template) ∧
    (∀ (layers : List (Layer α)) (ids : Layer α → String) (heights : Layer α → Int),
      (∀ kind, ∀ l ∈ visibleOf kind layers, ∀ m ∈ visibleOf kind layers,
        heights l ≤ heights m ↔ l.zIndex ≤ m.zIndex) →
      compile fonts (relabelled ids heights layers) canvas template
        = compile fonts layers canvas template) ∧
    (∀ as bs : List (Layer α), as.Perm bs → (as.map Layer.zIndex).Nodup →
      compile fonts as canvas template = compile fonts bs canvas template) ∧
    ∀ (d : Document α) (selected : Option String) (interaction : Interaction α),
      { d with selectedId := selected, interaction := interaction }.command = d.command := by
  refine ⟨?alike, ?hidden, ?between, ?labels, ?order, ?selection⟩
  case alike => exact fun as bs h => h.compile_eq fonts canvas template
  case hidden =>
    intro layers
    have h := lookAlike_of_visibleOf fun kind => visibleOf_filter_visible kind layers
    exact h.compile_eq fonts canvas template
  case between => exact fun as bs h => (lookAlike_of_visibleOf h).compile_eq fonts canvas template
  case labels =>
    exact fun layers ids heights h => (lookAlike_relabelled h).compile_eq fonts canvas template
  case order =>
    exact fun as bs hperm hheights =>
      (lookAlike_of_perm hperm hheights).compile_eq fonts canvas template
  case selection => exact fun d selected interaction => rfl

/-- A title over two clips, and the same with other ids, a hidden clip between the two others, which
are at one height, and the title under them. -/
theorem compile_of_lookAlike_title_and_clips :
    let clip (id name : String) (z : Int) (visible : Bool) : Layer Rat :=
      ⟨id, name, 40, 30, visible, z, .video ⟨320, 240, false, 1⟩⟩
    let title (id : String) (z : Int) : Layer Rat :=
      ⟨id, "Title", 0, 0, true, z, .text ⟨"Hello", ⟨"Arial", 24, false, false⟩, "#ffffff"⟩⟩
    let as := [clip "video-1" "Ground" (-1) true, clip "video-2" "Clip" 2 true, title "text-3" 3]
    let bs := [clip "video-6" "Ground" 5 true, title "text-9" 1, clip "video-7" "Hidden" 9 false,
      clip "video-8" "Clip" 5 true]
    LookAlike as bs ∧ ∀ template, compile systemFonts as ⟨1280, 720⟩ template
      = compile systemFonts bs ⟨1280, 720⟩ template := by
  intro clip title as bs
  have has : ∀ kind, (visibleOf kind as).Pairwise fun l m => l.zIndex ≤ m.zIndex := by
    rintro (_ | _) <;> decide
  have hbs : ∀ kind, (visibleOf kind bs).Pairwise fun l m => l.zIndex ≤ m.zIndex := by
    rintro (_ | _) <;> decide
  have h : LookAlike as bs := fun kind =>
    ⟨_, _, .of_rising (has kind), .of_rising (hbs kind), by cases kind <;> rfl⟩
  exact ⟨h, fun template => (compile_of_lookAlike systemFonts ⟨1280, 720⟩ template).1 as bs h⟩

end Command

end Compositor
