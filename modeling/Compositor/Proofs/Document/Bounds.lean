import Compositor.Panel.Commit
import Compositor.Proofs.Document.Inside
import Compositor.Proofs.Document.Origin
import Compositor.Proofs.Document.Sides

/-!
# The ranges of the numbers of a document

In exact arithmetic, and as long as fields are changed as the forms of the side panel change them,
the numbers of a document stay within ranges (`Document.Bounded`), and no action divides by zero.

The sides of a video have no fixed lower bound.  A form brings them up to fifty, but a resize cuts
them down to a canvas, which may be smaller.  They are bounded by the canvases that there have been;
here these are given by a size `least` that fits into each of them.  That the sides are positive
does not follow from it, since nothing is known of `least`, so it is carried along.  The ratio of a
video is a quotient of its sides, and it is positive because they are.

An action then divides by the side of a video that is there, by the ratio of a video that is locked,
or by the distance of the grid lines, which are all positive.  What is left to fail is to measure
the letters of a text (`exists_of_apply_error`).
-/

namespace Compositor

/-! ## 1. Changes as forms make them -/

/-- A change by the widgets of the layer form and of the rows that are no lines: a switch gives a
truth value, the colour and the family are texts. -/
def Changes.ofWidgets {α : Type} (visible locked bold italic : Option Bool)
    (color family : Option String) : Changes α where
  visible := visible.map Toggle.ofBool
  aspectLocked := locked.map Toggle.ofBool
  bold := bold.map Toggle.ofBool
  italic := italic.map Toggle.ofBool
  color := color
  fontFamily := family.map .text

/-- An action that changes fields of a layer only as the forms and rows of the side panel do: what
is typed into a line is a text, and the other widgets give values of their fields' types. -/
def Action.FromForms {α : Type} : Action α → Prop
  | .update _ c => ∃ visible locked bold italic color family,
      c = .ofWidgets visible locked bold italic color family
  | .enter _ field raw =>
      field ∈ ["name", "text", "width", "height", "x", "y", "font_size"] ∧ ∃ s, raw = .text s
  | _ => True

/-- What is typed into a line of the layer form is a change as forms make it. -/
theorem Panel.LayerForm.fromForms_of_entry? {α : Type} {f : LayerForm} {key s : String}
    {a : Action α} (hkey : key ∈ LayerForm.lineKeys) (h : f.entry? key (.text s) = some a) :
    a.FromForms := by
  obtain ⟨id, -, rfl⟩ := Option.map_eq_some_iff.mp h
  have hfields : ∀ key ∈ LayerForm.lineKeys,
      fieldOfKey key ∈ ["name", "text", "width", "height", "x", "y", "font_size"] := by decide
  exact ⟨hfields key hkey, s, rfl⟩

/-- What the changes that forms make have in common: they name no ratio, the sizes that they name are
numbers, and whatever they name is a field. -/
structure Changes.FromForms (c : Changes Rat) : Prop where
  ratio : c.aspectRatio = none
  width : ∀ raw ∈ c.width, ∃ v, raw = .real v
  height : ∀ raw ∈ c.height, ∃ v, raw = .real v
  fontSize : ∀ raw ∈ c.fontSize, ∃ v, raw = .real v
  named : c.otherNames = []

/-- A value is a number, or its number is one of the two faults for which there is a fallback: no
rational number is too large for a rational number. -/
theorem Raw.number_cases (raw : Raw Rat) :
    (∃ v, raw.number = .ok v) ∨ raw.number = .error .notANumber ∨
      raw.number = .error .wrongKind := by
  cases raw with
  | text s =>
    simp only [Raw.number]
    cases Text.numeral? s with
    | none => exact .inr (.inl rfl)
    | some numeral =>
      cases numeral with
      | decimal negative mantissa exponent => exact .inl ⟨_, rfl⟩
      | infinite negative => exact .inr (.inl rfl)
      | undefined => exact .inr (.inl rfl)
  | null => exact .inr (.inr rfl)
  | list items => exact .inr (.inr rfl)
  | object fields => exact .inr (.inr rfl)
  | bool b => exact .inl ⟨_, rfl⟩
  | whole n => exact .inl ⟨_, rfl⟩
  | real v => exact .inl ⟨_, rfl⟩

/-- Every value has a number, or its fallback. -/
theorem Raw.exists_finiteOr (raw : Raw Rat) (fallback : Rat) :
    ∃ v, raw.finiteOr fallback = .ok v := by
  unfold Raw.finiteOr
  rcases raw.number_cases with ⟨v, h⟩ | h | h <;> rw [h] <;> exact ⟨_, rfl⟩

/-- **Whatever text is typed into a line is entered**, and for a size it is a number then. -/
theorem exists_enteredValue {field : String}
    (hfield : field ∈ ["name", "text", "width", "height", "x", "y", "font_size"]) (s : String) :
    ∃ value, enteredValue field (.text s : Raw Rat) = .ok value ∧
      (Changes.ofList [(field, value)]).FromForms := by
  choose number hnumber using Raw.exists_finiteOr (.text s)
  simp only [List.mem_cons, List.not_mem_nil, or_false] at hfield
  rcases hfield with rfl | rfl | rfl | rfl | rfl | rfl | rfl
  case inl | inr.inl =>
    exact ⟨.text s, rfl, by constructor <;> simp [Changes.ofList, Changes.set]⟩
  all_goals
    refine ⟨_, by simp only [enteredValue, hnumber]; rfl, ?_⟩
    constructor <;> simp [Changes.ofList, Changes.set]

/-- A change by widgets is one that forms make. -/
theorem Changes.fromForms_ofWidgets (visible locked bold italic : Option Bool)
    (color family : Option String) :
    (ofWidgets visible locked bold italic color family).FromForms where
  ratio := rfl
  width _ h := nomatch h
  height _ h := nomatch h
  fontSize _ h := nomatch h
  named := rfl

/-- What an action by forms changes is a change that forms make. -/
theorem Action.FromForms.changes {a : Action Rat} (ha : a.FromForms) {id : String}
    {c : Changes Rat} (h : a.change? = some (id, c)) : c.FromForms := by
  cases a with
  | update id' c' =>
    cases h
    obtain ⟨visible, locked, bold, italic, color, family, rfl⟩ := ha
    exact Changes.fromForms_ofWidgets visible locked bold italic color family
  | enter id' field raw =>
    obtain ⟨hfield, s, rfl⟩ := ha
    obtain ⟨value, hvalue, hc⟩ := exists_enteredValue hfield s
    rw [Action.change?, hvalue] at h
    cases h
    exact hc
  | _ => cases h

/-! ## 2. The ranges -/

/-- The ranges of the numbers of a video.  `least` fits into every canvas that there has been. -/
structure Clip.Bounded (least : Extent Rat) (clip : Clip Rat) : Prop where
  width_pos : 0 < clip.width
  height_pos : 0 < clip.height
  wide : min 50 least.width ≤ clip.width
  high : min 50 least.height ≤ clip.height
  ratio_pos : 0 < clip.aspectRatio

/-- The ranges of the size and the family of a text. -/
structure Caption.Bounded (caption : Caption Rat) : Prop where
  size : 12 ≤ caption.font.size
  family : caption.font.family ∈ Defaults.fontFamilies

/-- The ranges of what a layer shows. -/
def Content.Bounded (least : Extent Rat) : Content Rat → Prop
  | .video clip => clip.Bounded least
  | .text caption => caption.Bounded

/-- The ranges of the numbers of a document. -/
structure Document.Bounded (least : Extent Rat) (d : Document Rat) : Prop where
  width_pos : 0 < d.canvas.width
  height_pos : 0 < d.canvas.height
  contents : ∀ l ∈ d.layers, l.content.Bounded least
  gridSize : 5 ≤ d.gridSize
  opacity_nonneg : 0 ≤ d.templateOpacity
  opacity_le_one : d.templateOpacity ≤ 1

/-- A size fits into another one. -/
def Extent.Fits (small large : Extent Rat) : Prop :=
  small.width ≤ large.width ∧ small.height ≤ large.height

/-- A new video is within the ranges. -/
theorem Clip.bounded_initial (least : Extent Rat) : (initial : Clip Rat).Bounded least where
  width_pos := by norm_num [initial, Defaults.videoSide, Exact.ofInt_eq]
  height_pos := by norm_num [initial, Defaults.videoSide, Exact.ofInt_eq]
  wide := (min_le_left ..).trans (by norm_num [initial, Defaults.videoSide, Exact.ofInt_eq])
  high := (min_le_left ..).trans (by norm_num [initial, Defaults.videoSide, Exact.ofInt_eq])
  ratio_pos := by norm_num [initial, Exact.ofInt_eq]

/-- A new text is within the ranges. -/
theorem Caption.bounded_initial : (initial : Caption Rat).Bounded where
  size := by norm_num [initial, Defaults.fontSize, Exact.ofInt_eq]
  family := List.mem_cons_self

/-- A document with which a session starts is within the ranges. -/
theorem Document.bounded_empty (least : Extent Rat) : (empty : Document Rat).Bounded least where
  width_pos := by norm_num [empty, Extent.standard, Defaults.canvasWidth, Exact.ofInt_eq]
  height_pos := by norm_num [empty, Extent.standard, Defaults.canvasHeight, Exact.ofInt_eq]
  contents := fun _ hl => nomatch hl
  gridSize := by norm_num [empty, Defaults.gridSize, Exact.ofInt_eq]
  opacity_nonneg := by decide +kernel
  opacity_le_one := by decide +kernel

/-! ## 3. What actions put into a document -/

/-- A side that forms give is taken. -/
theorem exists_side {raw? : Option (Raw Rat)} (h : ∀ raw ∈ raw?, ∃ v, raw = .real v) :
    ∃ side?, raw?.mapM sideOf = .ok side? := by
  refine (Exact.exists_sideOf_iff raw?).mpr fun raw hraw => ?_
  obtain ⟨v, rfl⟩ := h raw hraw
  exact ⟨v, rfl⟩

/-- **A change as forms make it never fails on a video**, and keeps it within the ranges. -/
theorem Clip.Bounded.exists_changed {least : Extent Rat} {clip : Clip Rat}
    (hclip : clip.Bounded least) {c : Changes Rat} (hc : c.FromForms) :
    ∃ clip', clip.changed c = .ok clip' ∧ clip'.Bounded least := by
  obtain ⟨width, hwidth⟩ := exists_side hc.width
  obtain ⟨height, hheight⟩ := exists_side hc.height
  obtain ⟨hw, hh⟩ := clip.sidesFor_eq_or_le (Exact.fifty_le_of_sideOf hwidth)
    (Exact.fifty_le_of_sideOf hheight)
  have hratio : 0 < (clip.edited c width height).aspectRatio := by
    unfold edited
    split
    · exact div_pos hclip.width_pos hclip.height_pos
    · rw [hc.ratio]
      exact hclip.ratio_pos
  exact ⟨_, changed_eq hwidth hheight fun _ => hclip.height_pos.ne', {
    width_pos := pos_of_eq_or_le hw hclip.width_pos
    height_pos := pos_of_eq_or_le hh hclip.height_pos
    wide := le_of_eq_or_le hw (min_le_left ..) hclip.wide
    high := le_of_eq_or_le hh (min_le_left ..) hclip.high
    ratio_pos := hratio }⟩

/-- **A change as forms make it never fails on a text**, and keeps it within the ranges. -/
theorem Caption.Bounded.exists_changed {caption : Caption Rat} (hcaption : caption.Bounded)
    {c : Changes Rat} (hc : c.FromForms) :
    ∃ caption', caption.changed c = .ok caption' ∧ caption'.Bounded := by
  have hsize : ∃ size, c.fontSize.mapM fontSizeOf = .ok size ∧
      12 ≤ size.getD caption.font.size := by
    cases hraw : c.fontSize with
    | none => exact ⟨none, rfl, hcaption.size⟩
    | some raw =>
      obtain ⟨v, rfl⟩ := hc.fontSize raw hraw
      refine ⟨some (Scalar.larger Defaults.minFontSize v), rfl, ?_⟩
      rw [Option.getD_some, Exact.larger_eq_max]
      exact le_max_left ..
  obtain ⟨size, hsize, hle⟩ := hsize
  refine ⟨_, by rw [changed, hsize]; rfl, hle, ?_⟩
  cases c.fontFamily with
  | none => exact hcaption.family
  | some raw =>
    cases raw with
    | text s => exact Defaults.knownFamily_mem s
    | _ => exact List.mem_cons_self

/-- A change as forms make it never fails on a layer, and keeps what it shows within the ranges. -/
theorem Layer.exists_changedContent {least : Extent Rat} {l : Layer Rat}
    (hl : l.content.Bounded least) {c : Changes Rat} (hc : c.FromForms) :
    ∃ content, l.changedContent c = .ok content ∧ content.Bounded least := by
  unfold changedContent
  cases hcontent : l.content with
  | video clip =>
    rw [hcontent] at hl
    obtain ⟨clip', hclip', hbounded⟩ := Clip.Bounded.exists_changed hl hc
    exact ⟨.video clip', by dsimp only; rw [hclip']; rfl, hbounded⟩
  | text caption =>
    rw [hcontent] at hl
    obtain ⟨caption', hcaption', hbounded⟩ := Caption.Bounded.exists_changed hl hc
    exact ⟨.text caption', by dsimp only; rw [hcaption']; rfl, hbounded⟩

namespace Document

variable {least : Extent Rat} {d d' : Document Rat}

/-- A layer that is reset is within the ranges. -/
theorem bounded_resetLayer {l : Layer Rat} (hl : l.content.Bounded least) :
    (resetLayer l).content.Bounded least := by
  unfold resetLayer
  cases hcontent : l.content with
  | video clip => exact Clip.bounded_initial least
  | text caption =>
    rw [hcontent] at hl
    exact ⟨Caption.bounded_initial.size, hl.family⟩

/-- A resize always has a result, also for what is no video. -/
theorem exists_resizedLayer_ok (d : Document Rat) (l : Layer Rat) (handle : Handle) (start : Rect Rat)
    (from_ p : Point Rat) : ∃ l', d.resizedLayer l handle start from_ p = .ok l' := by
  cases hvideo : l.isVideo with
  | true =>
    obtain ⟨l', -, hl', -⟩ := d.exists_resizedLayer .estimated hvideo handle start from_ p
    exact ⟨l', hl'⟩
  | false => exact ⟨l, resizedLayer_of_not_video hvideo d handle start from_ p⟩

/-- **A layer that is resized is within the ranges**: it is cut down to a canvas into which `least`
fits. -/
theorem bounded_resizedLayer (hleast : least.Fits d.canvas) (hd : d.Bounded least) {l l' : Layer Rat}
    (hl : l.content.Bounded least) {handle : Handle} {start : Rect Rat} {from_ p : Point Rat}
    (h : d.resizedLayer l handle start from_ p = .ok l') : l'.content.Bounded least := by
  unfold Document.resizedLayer at h
  split at h
  · cases h
    exact hl
  · rename_i clip hcontent
    rw [hcontent] at hl
    obtain ⟨r, hr, hon⟩ := start.exists_resized handle.grip (p.x - from_.x) (p.y - from_.y)
      d.canvas clip.aspectLocked.isOn clip.aspectRatio d.grid
    rw [hr] at h
    cases h
    constructor
    · exact (lt_min (by norm_num) hd.width_pos).trans_le hon.wide
    · exact (lt_min (by norm_num) hd.height_pos).trans_le hon.high
    · exact (min_le_min_left 50 hleast.1).trans hon.wide
    · exact (min_le_min_left 50 hleast.2).trans hon.high
    · exact hl.ratio_pos

/-- What an action by forms lets a layer show is within the ranges. -/
theorem bounded_of_source {a : Action Rat} (ha : a.FromForms) (hleast : least.Fits d.canvas)
    (hd : d.Bounded least) {content : Content Rat} (h : content.Source d a) :
    content.Bounded least := by
  cases h with
  | kept l l_mem => exact hd.contents l l_mem
  | newVideo => exact Clip.bounded_initial least
  | newText => exact Caption.bounded_initial
  | changed l l_mem id c change_eq content changed_ok =>
    obtain ⟨content', hok, hbounded⟩ :=
      Layer.exists_changedContent (hd.contents l l_mem) (ha.changes change_eq)
    cases changed_ok.symm.trans hok
    exact hbounded
  | reset l l_mem => exact bounded_resetLayer (hd.contents l l_mem)
  | resized l l_mem handle start from_ p l' resized_ok =>
    exact bounded_resizedLayer hleast hd (hd.contents l l_mem) resized_ok

/-- **An action by forms keeps a document within the ranges.** -/
theorem Origin.bounded {a : Action Rat} (h : Origin d a d') (ha : a.FromForms)
    (hleast : least.Fits d.canvas) (hd : d.Bounded least) : d'.Bounded least := by
  have hcanvas : 0 < d'.canvas.width ∧ 0 < d'.canvas.height := by
    rcases h.canvas with h | h | ⟨w, k, hw, hk, h⟩ <;> rw [h]
    · exact ⟨hd.width_pos, hd.height_pos⟩
    · exact ⟨(bounded_empty least).width_pos, (bounded_empty least).height_pos⟩
    · exact ⟨Int.cast_pos.mpr hw, Int.cast_pos.mpr hk⟩
  have hgrid : 5 ≤ d'.gridSize := by
    rcases h.gridSize with h | ⟨v, h⟩ <;> rw [h]
    · exact hd.gridSize
    · rw [Exact.larger_eq_max]
      exact le_max_left ..
  have hopacity : 0 ≤ d'.templateOpacity ∧ d'.templateOpacity ≤ 1 := by
    rcases h.templateOpacity with h | ⟨v, h⟩ <;> rw [h]
    · exact ⟨hd.opacity_nonneg, hd.opacity_le_one⟩
    · rw [Exact.clamp_eq, Exact.ofInt_eq, Exact.ofInt_eq]
      norm_num
  exact {
    width_pos := hcanvas.1
    height_pos := hcanvas.2
    contents := fun l hl => bounded_of_source ha hleast hd (h.contents l hl)
    gridSize := hgrid
    opacity_nonneg := hopacity.1
    opacity_le_one := hopacity.2 }

/-! ## 4. What can fail -/

/-- A change as forms make it never fails. -/
theorem Bounded.exists_update (hd : d.Bounded least) (id : String) {c : Changes Rat}
    (hc : c.FromForms) : ∃ d', d.update id c = .ok d' := by
  unfold Document.update
  rw [hc.named]
  cases hl : d.layer? id with
  | none => exact ⟨d, rfl⟩
  | some l =>
    obtain ⟨content, hcontent, -⟩ :=
      Layer.exists_changedContent (hd.contents l (mem_of_layer? hl).1) hc
    dsimp only
    split
    · exact nomatch ‹List.any [] _ = true›
    · split
      · rw [Layer.changed, hcontent]
        exact ⟨_, rfl⟩
      · exact ⟨d, rfl⟩

/-- A point cannot be looked up only where a layer cannot be measured. -/
theorem exists_of_firstCovering_error {measure : Measurer Rat} {p : Point Rat} {e : Fault}
    {layers : List (Layer Rat)} (h : Layer.firstCovering measure p layers = .error e) :
    ∃ l ∈ layers, l.extent measure = .error e := by
  induction layers with
  | nil => exact nomatch h
  | cons l rest ih =>
    rcases Fault.of_bind_eq_error h with hcovers | ⟨covered, -, hrest⟩
    · refine ⟨l, List.mem_cons_self, ?_⟩
      unfold Layer.covers at hcovers
      split at hcovers
      · rcases Fault.of_bind_eq_error hcovers with hbox | ⟨_, -, h⟩
        · rcases Fault.of_bind_eq_error hbox with hextent | ⟨_, -, h⟩
          · exact hextent
          · exact nomatch h
        · exact nomatch h
      · exact nomatch hcovers
    · split at hrest
      · exact nomatch hrest
      · obtain ⟨m, hm, he⟩ := ih hrest
        exact ⟨m, List.mem_cons_of_mem l hm, he⟩

/-- A press fails only where a layer cannot be measured. -/
theorem exists_of_press_error {measure : Measurer Rat} {p : Point Rat} {e : Fault}
    (h : d.press measure p = .error e) : ∃ l ∈ d.layers, l.extent measure = .error e := by
  unfold Document.press at h
  split at h
  · exact nomatch h
  · rcases Fault.of_bind_eq_error h with hat | ⟨hit, -, h⟩
    · obtain ⟨l, hl, he⟩ := exists_of_firstCovering_error hat
      exact ⟨l, (Stacking.topDown_perm d.layers).mem_iff.mp hl, he⟩
    · cases hit <;> exact nomatch h

/-- A move fails only where a layer cannot be measured. -/
theorem exists_of_move_error {measure : Measurer Rat} {p : Point Rat} {e : Fault}
    (h : d.move measure p = .error e) : ∃ l ∈ d.layers, l.extent measure = .error e := by
  cases hl : d.movedLayer? with
  | none =>
    rw [move_of_none hl] at h
    exact nomatch h
  | some l =>
    refine ⟨l, (layerId?_of_movedLayer? hl).2, ?_⟩
    rw [move_of_some hl] at h
    have hmoved : d.movedTo measure l p = .error e := Fault.of_map_eq_error h
    unfold movedTo at hmoved
    split at hmoved
    · exact nomatch hmoved
    · rename_i id grab hg
      rcases d.draggedLayer_cases measure l grab p with ⟨e', he', hdrag⟩ | ⟨l', box, hdrag, -⟩
      · cases hmoved.symm.trans hdrag
        exact he'
      · exact nomatch hmoved.symm.trans hdrag
    · rename_i id handle start from_ hg
      obtain ⟨l', hl'⟩ := d.exists_resizedLayer_ok l handle start from_ p
      exact nomatch hmoved.symm.trans hl'

/-- **An action by forms fails only where a layer cannot be measured.** -/
theorem Bounded.exists_of_apply_error (hd : d.Bounded least) {measure : Measurer Rat}
    {a : Action Rat} (ha : a.FromForms) {e : Fault} (h : a.apply measure d = .error e) :
    ∃ l ∈ d.layers, l.extent measure = .error e := by
  cases a with
  | addVideo =>
    simp only [Action.apply, Document.addVideo, Grid.snap_eq] at h
    cases h
  | addText =>
    simp only [Action.apply, Document.addText, Grid.snap_eq] at h
    cases h
  | update id c =>
    obtain ⟨d', hd'⟩ := hd.exists_update id (ha.changes rfl)
    cases h.symm.trans hd'
  | enter id field raw =>
    obtain ⟨hfield, s, rfl⟩ := ha
    obtain ⟨value, hvalue, hc⟩ := exists_enteredValue hfield s
    obtain ⟨d', hd'⟩ := hd.exists_update id hc
    rw [Action.apply, Document.enter, hvalue] at h
    cases h.symm.trans hd'
  | duplicate id =>
    simp only [Action.apply, Document.duplicate, Grid.snap_eq] at h
    split at h <;> cases h
  | setTemplateOpacity raw =>
    obtain ⟨v, hv⟩ := raw.exists_finiteOr Defaults.templateOpacity
    rw [Action.apply, Document.setTemplateOpacity, hv] at h
    cases h
  | setGridSize raw =>
    obtain ⟨v, hv⟩ := raw.exists_finiteOr Defaults.gridSize
    rw [Action.apply, Document.setGridSize, hv] at h
    cases h
  | press p => exact exists_of_press_error h
  | move p => exact exists_of_move_error h
  | _ => cases h

end Document

end Compositor
