import Compositor.Proofs.Document.Ids
import Compositor.Proofs.Document.Stays
import Compositor.Proofs.Panel.Lines
import Compositor.Proofs.Scalar.Shown
import Compositor.Proofs.Session.Run

/-!
# Leaving a line that was not edited

A line tells its text when it is left, edited or not, and the text is entered.  The other widgets of
the form tell only what has changed.  So when a line is left that still holds what was put into it,
the session should keep its document (`Layer.Stays`), and whether it does is a matter of the field.

A name and a text are put in as they are.  A coordinate is put in as a whole number, and kept only
if it is one.  A size is raised to a limit when it is entered, so it must not be below the limit
either.  And while the ratio of a video is locked, a side that is entered brings the other one
along, which has to be there already (`Layer.Settles`).
-/

namespace Compositor

variable {α : Type} [Scalar α]

/-! ## 1. What keeps a field as it is -/

/-- What a side of a video needs to stay when its line is left: to be whole, not to be below the
limit, and to have the other side that goes with it. -/
def Clip.Settles (clip : Clip α) (field : String) : Prop :=
  (field = "width" → Scalar.Whole clip.width ∧ Defaults.minSide ≤ clip.width ∧
    (clip.heightFor clip.width).toOption.any (Scalar.same · clip.height) = true) ∧
  (field = "height" → Scalar.Whole clip.height ∧ Defaults.minSide ≤ clip.height ∧
    (clip.widthFor clip.height).toOption.any (Scalar.same · clip.width) = true)

/-- What the size of letters needs to stay when its line is left. -/
def Caption.Settles (caption : Caption α) (field : String) : Prop :=
  field = "font_size" → Scalar.Whole caption.font.size ∧ Defaults.minFontSize ≤ caption.font.size

/-- **What a field needs to stay when its line is left**; a name and a text need nothing. -/
def Layer.Settles (l : Layer α) (field : String) : Prop :=
  (field = "x" → Scalar.Whole l.x) ∧ (field = "y" → Scalar.Whole l.y) ∧
    (∀ clip ∈ l.clip?, clip.Settles field) ∧ ∀ caption ∈ l.caption?, caption.Settles field

instance (clip : Clip α) (field : String) : Decidable (clip.Settles field) :=
  inferInstanceAs (Decidable (_ ∧ _))

instance (caption : Caption α) (field : String) : Decidable (caption.Settles field) :=
  inferInstanceAs (Decidable (_ → _))

instance (l : Layer α) (field : String) : Decidable (l.Settles field) :=
  inferInstanceAs (Decidable (_ ∧ _))

section

variable (l : Layer α) {clip : Clip α} {caption : Caption α}

theorem Layer.settles_name : l.Settles "name" := by
  simp [Settles, Clip.Settles, Caption.Settles]

theorem Layer.settles_text : l.Settles "text" := by
  simp [Settles, Clip.Settles, Caption.Settles]

theorem Layer.settles_x : l.Settles "x" ↔ Scalar.Whole l.x := by
  simp [Settles, Clip.Settles, Caption.Settles]

theorem Layer.settles_y : l.Settles "y" ↔ Scalar.Whole l.y := by
  simp [Settles, Clip.Settles, Caption.Settles]

variable {l}

theorem Layer.settles_width (hl : l.content = .video clip) :
    l.Settles "width" ↔ Scalar.Whole clip.width ∧ Defaults.minSide ≤ clip.width ∧
      (clip.heightFor clip.width).toOption.any (Scalar.same · clip.height) = true := by
  simp [Settles, Clip.Settles, clip?, caption?, hl]

theorem Layer.settles_height (hl : l.content = .video clip) :
    l.Settles "height" ↔ Scalar.Whole clip.height ∧ Defaults.minSide ≤ clip.height ∧
      (clip.widthFor clip.height).toOption.any (Scalar.same · clip.width) = true := by
  simp [Settles, Clip.Settles, clip?, caption?, hl]

theorem Layer.settles_fontSize (hl : l.content = .text caption) :
    l.Settles "font_size" ↔
      Scalar.Whole caption.font.size ∧ Defaults.minFontSize ≤ caption.font.size := by
  simp [Settles, Caption.Settles, clip?, caption?, hl]

end

/-! ## 2. What is entered when a line is left -/

/-- What the entered text of a line makes of a layer: a change of the one field, under which the
layer stays if and only if the field settles. -/
structure Layer.Entered (l : Layer α) (field text : String) (value : Raw α) (c : Changes α) :
    Prop where
  value_eq : enteredValue field (.text text) = .ok value
  change_eq : Changes.ofList [(field, value)] = c
  named : c.otherNames = []
  touches : c.touches l.kind = true
  stays_iff : l.Stays c ↔ l.Settles field

section

variable {l : Layer α} {text : String}

/-- A name is entered as it is. -/
theorem Layer.entered_name (l : Layer α) :
    l.Entered "name" l.name (.text l.name) { name := some l.name } where
  value_eq := rfl
  change_eq := rfl
  named := rfl
  touches := by cases l.kind <;> rfl
  stays_iff := iff_of_true l.stays_name l.settles_name

/-- What a text says is entered as it is. -/
theorem Layer.entered_text {caption : Caption α} (hl : l.content = .text caption) :
    l.Entered "text" caption.text (.text caption.text) { text := some caption.text } where
  value_eq := rfl
  change_eq := rfl
  named := rfl
  touches := by simp [kind, hl, Changes.touches, Changes.touchesText]
  stays_iff := iff_of_true (stays_text hl) l.settles_text

variable [Scalar.Legible α]

/-- What can be shown is finite. -/
theorem Scalar.isFinite_of_shown {v : α} {text : String} (h : Panel.shownNumber v = .ok text) :
    isFinite v = true := by
  obtain ⟨n, hn, -⟩ := Panel.exists_of_shownNumber h
  exact Legible.isFinite_of_roundEven hn

/-- A defined number is the same as a finite one if it equals it. -/
theorem Scalar.same_defined_iff {v : α} (hv : isFinite v = true) (w : α) :
    same w v = true ∧ isUndefined w = false ↔ (w == v) = true := by
  rw [same_iff_beq hv]
  refine and_iff_left_of_imp fun h => ?_
  have hw : isFinite w = true := (Legible.isFinite_congr h).trans hv
  rw [isUndefined, Legible.beq_self_of_isFinite hw, Bool.not_true]

/-- A side that is shown and entered stays together with the other one, if the side is whole and not
below the limit, and if it brings the other one along as it is. -/
theorem Clip.settles_side_iff {side w : α} (hside : Scalar.isFinite side = true)
    (hw : (w == side) = true ↔ Scalar.Whole side) (other : α → Except Fault α) (kept : α) :
    (∃ o, other (Scalar.larger Defaults.minSide w) = .ok o ∧
        Scalar.same (Scalar.larger Defaults.minSide w) side = true ∧
        Scalar.same o kept = true) ↔
      Scalar.Whole side ∧ Defaults.minSide ≤ side ∧
        (other side).toOption.any (Scalar.same · kept) = true := by
  have hany : (other side).toOption.any (Scalar.same · kept) = true ↔
      ∃ o, other side = .ok o ∧ Scalar.same o kept = true := by
    cases other side <;> simp [Except.toOption]
  rw [hany]
  have hentered : (Scalar.larger Defaults.minSide w == side) = true ↔
      Scalar.Whole side ∧ Defaults.minSide ≤ side := Scalar.larger_beq_iff (by decide) hw
  simp only [Scalar.same_iff_beq hside]
  constructor
  · rintro ⟨o, ho, heq, hkept⟩
    obtain ⟨hwhole, hle⟩ := hentered.mp heq
    rw [Scalar.Legible.eq_of_beq hle heq] at ho
    exact ⟨hwhole, hle, o, ho, hkept⟩
  · rintro ⟨hwhole, hle, o, ho, hkept⟩
    have heq := hentered.mpr ⟨hwhole, hle⟩
    rw [← Scalar.Legible.eq_of_beq hle heq] at ho
    exact ⟨o, ho, heq, hkept⟩

/-- A number is entered as the whole one that is shown, within the limit of its field. -/
theorem Layer.exists_entered_number {v : α} {k : Int} {field : String} {c : α → Changes α}
    (h : Panel.shownNumber v = .ok text) (hk : k ∈ Defaults.wholes) (limited : α → α)
    (hvalue : ∀ w, (Raw.text text).finiteOr (Scalar.ofInt k) = .ok w →
      enteredValue field (.text text) = .ok (.real (limited w)))
    (hchange : ∀ w, Changes.ofList [(field, .real w)] = c w ∧ (c w).otherNames = [] ∧
      (c w).touches l.kind = true)
    (hstays : ∀ w, ((w == v) = true ↔ Scalar.Whole v) →
      (l.Stays (c (limited w)) ↔ l.Settles field)) :
    ∃ value c, l.Entered field text value c := by
  obtain ⟨w, hw, hwhole⟩ := Raw.exists_read_shown h hk
  obtain ⟨hofList, hnamed, htouches⟩ := hchange (limited w)
  exact ⟨_, _, hvalue w hw, hofList, hnamed, htouches, hstays w hwhole⟩

/-- A coordinate has no limit. -/
theorem Layer.exists_entered_x (h : Panel.shownNumber l.x = .ok text) :
    ∃ value c, l.Entered "x" text value c := by
  refine exists_entered_number (c := fun v => { x := some v }) h (k := 0) (by decide) (fun v => v)
    (fun w hw => ?_) (fun w => ⟨rfl, rfl, by cases l.kind <;> rfl⟩) fun w hwhole => ?_
  · simp only [enteredValue, hw]
    rfl
  · have hstays : l.Stays { x := some w } ↔
        Scalar.same w l.x = true ∧ Scalar.isUndefined w = false := by
      simpa using l.stays_place_iff (some w) none
    rw [hstays, Scalar.same_defined_iff (Scalar.isFinite_of_shown h), hwhole, settles_x]

/-- A coordinate has no limit. -/
theorem Layer.exists_entered_y (h : Panel.shownNumber l.y = .ok text) :
    ∃ value c, l.Entered "y" text value c := by
  refine exists_entered_number (c := fun v => { y := some v }) h (k := 0) (by decide) (fun v => v)
    (fun w hw => ?_) (fun w => ⟨rfl, rfl, by cases l.kind <;> rfl⟩) fun w hwhole => ?_
  · simp only [enteredValue, hw]
    rfl
  · have hstays : l.Stays { y := some w } ↔
        Scalar.same w l.y = true ∧ Scalar.isUndefined w = false := by
      simpa using l.stays_place_iff none (some w)
    rw [hstays, Scalar.same_defined_iff (Scalar.isFinite_of_shown h), hwhole, settles_y]

/-- A width brings the height along. -/
theorem Layer.exists_entered_width {clip : Clip α} (hl : l.content = .video clip)
    (h : Panel.shownNumber clip.width = .ok text) : ∃ value c, l.Entered "width" text value c := by
  refine exists_entered_number (c := fun v => { width := some (.real v) }) h (k := 50) (by decide)
    (Scalar.larger Defaults.minSide) (fun w hw => ?_) (fun w => ⟨rfl, rfl, ?_⟩) fun w hwhole => ?_
  · simp only [enteredValue, Defaults.minSide, hw]
    rfl
  · simp [kind, hl, Changes.touches, Changes.touchesVideo]
  · have hstays := stays_sides_iff hl (some (Scalar.larger Defaults.minSide w)) none
    rw [Option.map_some, Option.map_some, Scalar.larger_larger, Option.map_none, Option.map_none,
      Clip.changedSides_width] at hstays
    rw [hstays, settles_width hl]
    refine Iff.trans ?_ (Clip.settles_side_iff (Scalar.isFinite_of_shown h) hwhole clip.heightFor
      clip.height)
    cases clip.heightFor (Scalar.larger Defaults.minSide w) <;> simp [Except.map]

/-- A height brings the width along. -/
theorem Layer.exists_entered_height {clip : Clip α} (hl : l.content = .video clip)
    (h : Panel.shownNumber clip.height = .ok text) :
    ∃ value c, l.Entered "height" text value c := by
  refine exists_entered_number (c := fun v => { height := some (.real v) }) h (k := 50) (by decide)
    (Scalar.larger Defaults.minSide) (fun w hw => ?_) (fun w => ⟨rfl, rfl, ?_⟩) fun w hwhole => ?_
  · simp only [enteredValue, Defaults.minSide, hw]
    rfl
  · simp [kind, hl, Changes.touches, Changes.touchesVideo]
  · have hstays := stays_sides_iff hl none (some (Scalar.larger Defaults.minSide w))
    rw [Option.map_some, Option.map_some, Scalar.larger_larger, Option.map_none, Option.map_none,
      Clip.changedSides_height] at hstays
    rw [hstays, settles_height hl]
    refine Iff.trans ?_ (Clip.settles_side_iff (Scalar.isFinite_of_shown h) hwhole clip.widthFor
      clip.width)
    cases clip.widthFor (Scalar.larger Defaults.minSide w) <;> simp [Except.map, and_comm]

/-- The size of letters has a limit, and a default that is not the limit. -/
theorem Layer.exists_entered_fontSize {caption : Caption α} (hl : l.content = .text caption)
    (h : Panel.shownNumber caption.font.size = .ok text) :
    ∃ value c, l.Entered "font_size" text value c := by
  refine exists_entered_number (c := fun v => { fontSize := some (.real v) }) h (k := 48)
    (by decide) (Scalar.larger Defaults.minFontSize) (fun w hw => ?_) (fun w => ⟨rfl, rfl, ?_⟩)
    fun w hwhole => ?_
  · simp only [enteredValue, Defaults.fontSize, hw]
    rfl
  · simp [kind, hl, Changes.touches, Changes.touchesText]
  · have hstays := stays_fontSize_iff hl (Scalar.larger Defaults.minFontSize w)
    rw [Scalar.larger_larger, Scalar.same_iff_beq (Scalar.isFinite_of_shown h)] at hstays
    rw [hstays, settles_fontSize hl]
    exact Scalar.larger_beq_iff (k := 12) (by decide) hwhole

/-- **Whatever is put into a line is entered as a change of its field**, and the layer stays under
this change if and only if the field settles. -/
theorem Layer.exists_entered {field : String} (h : (field, .ok (.text text)) ∈ Panel.lines l) :
    ∃ value c, l.Entered field text value c := by
  unfold Panel.lines at h
  cases hl : l.content with
  | video clip =>
    simp only [hl, List.mem_cons, List.not_mem_nil, or_false, Prod.mk.injEq] at h
    rcases h with ⟨rfl, h⟩ | ⟨rfl, h⟩ | ⟨rfl, h⟩ | ⟨rfl, h⟩ | ⟨rfl, h⟩
    case inl =>
      cases h
      exact ⟨_, _, l.entered_name⟩
    all_goals obtain ⟨_, hshown, ⟨⟩⟩ := Panel.shown_of_numberSetting h
    · exact exists_entered_width hl hshown
    · exact exists_entered_height hl hshown
    · exact exists_entered_x hshown
    · exact exists_entered_y hshown
  | text caption =>
    simp only [hl, List.mem_cons, List.not_mem_nil, or_false, Prod.mk.injEq] at h
    rcases h with ⟨rfl, h⟩ | ⟨rfl, h⟩ | ⟨rfl, h⟩ | ⟨rfl, h⟩ | ⟨rfl, h⟩
    case inl =>
      cases h
      exact ⟨_, _, l.entered_name⟩
    case inr.inl =>
      cases h
      exact ⟨_, _, entered_text hl⟩
    all_goals obtain ⟨_, hshown, ⟨⟩⟩ := Panel.shown_of_numberSetting h
    · exact exists_entered_fontSize hl hshown
    · exact exists_entered_x hshown
    · exact exists_entered_y hshown

end

/-! ## 3. Leaving a line -/

namespace Panel.LayerForm

/-- **Leaving a line that was not edited keeps the session exactly if the field settles.**  Whatever
a session was asked, and whatever the form showed before, let it show the selected layer, and let
the user type nowhere.  If all of the layer can be shown, each line of the page is filled; and a
line that is filled enters the text that was put in for the layer, which the session answers by
keeping its document and telling nothing if and only if the field settles. -/
theorem leave_iff [Scalar.Legible α] {measure : Measurer α} {first : Session α}
    (hfirst : first.document.Numbered) (requests : List (Request α)) {l : Layer α}
    (hl : (first.after measure requests).document.selected? = some l)
    (history : List (Showing α)) :
    let s := first.after measure requests
    let c : Showing α := ⟨fun _ => false, some l⟩
    let f := fresh.shown (history ++ [c])
    ∀ field ∈ lineFields (.ofKind l.kind),
      let key := fieldKey (.ofKind l.kind) field
      (c.Showable → (c.text? key).isSome = true) ∧
      ∀ text, c.text? key = some text →
        f.line key = text ∧
        ∃ a, f.entry? key (.text (f.line key)) = some a ∧
          (s.perform measure a = .ok (s, []) ↔ l.Settles field) := by
  intro s c f field hfield key
  refine ⟨fun h => (Showing.isSome_text?_iff h rfl hfield).mpr rfl, fun text htext => ?_⟩
  have hnumbered : s.document.Numbered :=
    Session.after_induction hfirst fun _ _ _ _ _ _ happly hd =>
      (Document.outcome_apply happly).numbered hd
  have hmem : l ∈ s.document.layers := (Layer.find?_some hl).2
  have horigin : c.origin? key = some ⟨l.id, text⟩ := by simp [Showing.origin?, c, htext]
  have hline : f.line key = text := by
    rw [line_shown _ (fieldKey_mem_lineKeys _ _ hfield), origin?_concat, horigin]
    rfl
  have hid : f.shownId = some l.id := by
    rw [shownId_shown, lastLayer?_concat]
    rfl
  obtain ⟨value, change, entered⟩ :=
    Layer.exists_entered (Showing.mem_lines_of_text? rfl hfield htext).1
  refine ⟨hline, .enter l.id field (.text text), ?_, ?_⟩
  · unfold entry?
    rw [hline, hid, fieldOfKey_fieldKey _ _ hfield]
    rfl
  · rw [← entered.stays_iff]
    exact Session.perform_enter_iff hnumbered.ids_nodup hmem entered.value_eq entered.change_eq
      entered.named entered.touches

/-- A session with a video of four to three, its ratio locked, that lies between two pixels. -/
def lockedSession : Session Float :=
  (Session.start .empty ⟨CopyFlag.standardMs, none⟩).after .estimated [.act .addVideo,
    .act (.update "video-1" { aspectLocked := some (.ofBool false) }),
    .act (.enter "video-1" "width" (.text "400")), .act (.enter "video-1" "height" (.text "300")),
    .act (.update "video-1" { aspectLocked := some (.ofBool true) }),
    .act (.enter "video-1" "x" (.text "10.5"))]

theorem isSome_selected_lockedSession : lockedSession.document.selected?.isSome = true := by
  decide +kernel

/-- The video of this session. -/
def lockedVideo : Layer Float := lockedSession.document.selected?.get isSome_selected_lockedSession

/-- Its width settles, and brings along the height that is there. -/
theorem leave_iff_locked :
    lockedSession.document.selected? = some lockedVideo ∧
      ∃ a, entry? (fresh.shown [⟨fun _ => false, some lockedVideo⟩]) "video.width" (.text "400")
          = some a ∧
        lockedSession.perform .estimated a = .ok (lockedSession, []) := by
  have hselected : lockedSession.document.selected? = some lockedVideo := (Option.some_get _).symm
  have hkind : lockedVideo.kind = .video := by decide +kernel
  have hleave := leave_iff Document.numbered_empty _ hselected [] "width" (by decide +kernel)
  dsimp only at hleave
  rw [hkind] at hleave
  obtain ⟨hline, a, ha, hkeeps⟩ := hleave.2 "400" (by decide +kernel)
  exact ⟨hselected, a, hline ▸ ha, hkeeps.mpr (by decide +kernel)⟩

/-- Its place does not settle: it is moved to a whole pixel when the line is left. -/
theorem leave_moves :
    (lockedSession.document.selected?.map fun l => l.x == 10.5) = some true ∧
      (ofDocument lockedSession.document).form.line "video.x" = "10" ∧
      ((commitIn .estimated lockedSession "video.x" (.text "10")).toOption.map fun out =>
        (out.2.length, out.1.document.selected?.map fun l => l.x == 10)) = some (1, some true) := by
  refine ⟨?_, ?_, ?_⟩ <;> decide +kernel

end Panel.LayerForm

end Compositor
