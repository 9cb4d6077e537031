import Compositor.Proofs.Command.Stages
import Compositor.Proofs.Document.Bounds
import Compositor.Proofs.Session.Run

/-!
# The ranges of the numbers in a session

A session that starts with the empty document, and whose layers are changed as the forms change
them, keeps the numbers of its document within their ranges, and nothing that is asked of it divides
by zero.

How small a video can be depends on the whole run and not only on the last document: a video that
was resized on the canvas of a small template stays small on a larger one.  So the invariant takes
the smallest canvas of the run, which fits into the canvas of every document through which the run
leads (`leastCanvas_fits`), the earlier and the later ones.
-/

namespace Compositor

/-- The smallest width and the smallest height among some sizes. -/
def Extent.least (first : Extent Rat) : List (Extent Rat) → Extent Rat
  | [] => first
  | e :: rest => ⟨min e.width (least first rest).width, min e.height (least first rest).height⟩

/-- The smallest width and height fit into each of the sizes. -/
theorem Extent.least_fits (first : Extent Rat) {sizes : List (Extent Rat)} {e : Extent Rat}
    (he : e ∈ sizes) : (least first sizes).Fits e := by
  induction sizes with
  | nil => exact nomatch he
  | cons e' rest ih =>
    rcases List.mem_cons.mp he with rfl | he
    · exact ⟨min_le_left .., min_le_left ..⟩
    · exact ⟨(min_le_right ..).trans (ih he).1, (min_le_right ..).trans (ih he).2⟩

/-- What is asked of a session changes fields of a layer only as the forms do. -/
def Request.FromForms {α : Type} : Request α → Prop
  | .act a => a.FromForms
  | _ => True

namespace Session

/-- The smallest width and height that the canvas has had in a run. -/
def leastCanvas (measure : Measurer Rat) (s : Session Rat) (requests : List (Request Rat)) :
    Extent Rat :=
  .least s.document.canvas ((s.documents measure requests).map Document.canvas)

/-- The smallest canvas of a run fits into each of its canvases. -/
theorem leastCanvas_fits {measure : Measurer Rat} {s : Session Rat} {requests : List (Request Rat)}
    {d : Document Rat} (hd : d ∈ s.documents measure requests) :
    (s.leastCanvas measure requests).Fits d.canvas :=
  Extent.least_fits _ (List.mem_map_of_mem hd)

/-- **A run by forms keeps a document within the ranges.** -/
theorem bounded_after {measure : Measurer Rat} {s : Session Rat} {requests : List (Request Rat)}
    (hforms : ∀ r ∈ requests, r.FromForms)
    (hs : s.document.Bounded (s.leastCanvas measure requests)) :
    (s.after measure requests).document.Bounded (s.leastCanvas measure requests) :=
  after_induction hs fun _ hd _ _ a ha happly hbounded =>
    (Document.origin_of_apply happly).bounded (hforms (.act a) ha) (leastCanvas_fits hd) hbounded

/-- No session refuses an action by forms. -/
theorem refuses_of_fromForms {a : Action Rat} (ha : a.FromForms) : refuses a = false := by
  unfold refuses
  cases hc : a.change? with
  | none => rfl
  | some c =>
    rw [Option.any_some, (ha.changes hc).named]
    rfl

/-- In exact arithmetic there always is a command. -/
theorem exists_command (d : Document Rat) : ∃ text, d.command = .ok text := by
  unfold Document.command Command.compile Command.Graph.ofLayers?
  split
  · cases hg : Command.graphOf (Command.visibleVideos d.layers) (Command.visibleTexts d.layers)
        d.canvas d.hasTemplate with
    | ok g => exact ⟨_, rfl⟩
    | error e =>
      obtain ⟨v, -, hv⟩ := Command.exists_pixelValue_of_graphOf_error hg
      rw [Exact.roundHalfUp_eq] at hv
      exact nomatch hv
  · exact ⟨_, rfl⟩

/-- **Nothing that forms ask of a session fails, but to measure a layer.** -/
theorem exists_of_answer_error {measure : Measurer Rat} {s : Session Rat} {least : Extent Rat}
    (hs : s.document.Bounded least) {r : Request Rat} (hr : r.FromForms) {e : Fault}
    (h : s.answer measure r = .error e) : ∃ l ∈ s.document.layers, l.extent measure = .error e := by
  cases r with
  | act a =>
    rw [answer, perform, refuses_of_fromForms hr] at h
    rcases Fault.of_bind_eq_error h with h | ⟨d, -, h⟩
    · exact hs.exists_of_apply_error hr h
    · exact nomatch h
  | generate =>
    obtain ⟨text, htext⟩ := exists_command s.document
    rw [answer, generate, htext] at h
    exact nomatch h
  | _ => exact nomatch h

/-- **The ranges of every session by forms**, from the empty document on.  The canvas is positive;
a video is no smaller than fifty, or than the smallest canvas there has been, and has a positive
ratio; a text is no smaller than twelve and has a known family; the grid lines are at least five
apart, and the opacity is between zero and one.  Whatever forms ask of it next, it does not fail
unless a layer cannot be measured: nothing is divided by zero. -/
theorem session_bounds (measure : Measurer Rat) (flag : CopyFlag Rat)
    (requests : List (Request Rat)) (hforms : ∀ r ∈ requests, r.FromForms) :
    let first := Session.start .empty flag
    let least := first.leastCanvas measure requests
    let s := first.after measure requests
    0 < s.document.canvas.width ∧ 0 < s.document.canvas.height ∧
    (∀ l ∈ s.document.layers, ∀ clip, l.content = .video clip →
      min 50 least.width ≤ clip.width ∧ min 50 least.height ≤ clip.height ∧
        0 < clip.aspectRatio) ∧
    (∀ l ∈ s.document.layers, ∀ caption, l.content = .text caption →
      12 ≤ caption.font.size ∧ caption.font.family ∈ Defaults.fontFamilies) ∧
    5 ≤ s.document.gridSize ∧
    0 ≤ s.document.templateOpacity ∧ s.document.templateOpacity ≤ 1 ∧
    (∀ r : Request Rat, r.FromForms → ∀ e, s.answer measure r = .error e →
      ∃ l ∈ s.document.layers, l.extent measure = .error e) := by
  intro first least s
  have hs : s.document.Bounded least := bounded_after hforms (Document.bounded_empty least)
  refine ⟨hs.width_pos, hs.height_pos, fun l hl clip hclip => ?_, fun l hl caption hcaption => ?_,
    hs.gridSize, hs.opacity_nonneg, hs.opacity_le_one,
    fun r hr e he => exists_of_answer_error hs hr he⟩
  · have hbounded := hs.contents l hl
    rw [hclip] at hbounded
    exact ⟨hbounded.wide, hbounded.high, hbounded.ratio_pos⟩
  · have hbounded := hs.contents l hl
    rw [hcaption] at hbounded
    exact ⟨hbounded.size, hbounded.family⟩

/-- A run in which a locked video is resized on the canvas of a small template. -/
def smallTemplate : List (Request Rat) := [.act .addVideo, .generate,
  .act (.enter "video-1" "width" (.text "200")),
  .act (.update "video-1" (.ofWidgets none (some true) none none none none)),
  .act (.loadTemplate "small.png" 30 40), .act (.press ⟨220, 360⟩), .act (.move ⟨0, 0⟩),
  .act .resetCanvas, .act .addText, .act (.setGridSize (.text "2"))]

/-- The session in which that is done. -/
def beforeSmallTemplate : Session Rat := .start .empty ⟨CopyFlag.standardMs, none⟩

/-- The video stays as small on the larger canvas that comes after the template's. -/
theorem session_bounds_smallTemplate :
    (∀ r ∈ smallTemplate, r.FromForms) ∧
    (beforeSmallTemplate.after .advance10 smallTemplate).document.canvas = ⟨504, 846⟩ ∧
    beforeSmallTemplate.leastCanvas .advance10 smallTemplate = ⟨30, 40⟩ ∧
    ((beforeSmallTemplate.after .advance10 smallTemplate).document.layers.filterMap
      Layer.clip?).map Clip.width = [30] ∧
    ∀ l ∈ (beforeSmallTemplate.after .advance10 smallTemplate).document.layers, ∀ clip,
      l.content = .video clip →
      min 50 (beforeSmallTemplate.leastCanvas .advance10 smallTemplate).width ≤ clip.width := by
  have hforms : ∀ r ∈ smallTemplate, r.FromForms := by
    simp only [smallTemplate, List.forall_mem_cons, Request.FromForms, Action.FromForms]
    refine ⟨trivial, trivial, ⟨by decide, _, rfl⟩, ⟨_, _, _, _, _, _, rfl⟩, ?_⟩
    simp
  obtain ⟨-, -, hvideos, -⟩ :=
    session_bounds .advance10 ⟨CopyFlag.standardMs, none⟩ smallTemplate hforms
  exact ⟨hforms, by decide +kernel, by decide +kernel, by decide +kernel,
    fun l hl clip hclip => (hvideos l hl clip hclip).1⟩

end Session

end Compositor
