import Compositor.Proofs.Document.Gesture
import Compositor.Proofs.Geometry.Inside

/-!
# The fields of a video after a change

In exact arithmetic a change of a video fails for two reasons only: a side is given that is no
number, or the lock is turned on for a video without height.  Otherwise the outcome is told by the
sides that the change gives, each brought up to the smallest side (`Clip.changed_eq`).  While the
ratio is kept, a side that is given alone brings the other one along, as a whole number of pixels
(`Clip.sidesFor`).
-/

namespace Compositor

/-! ## 1. Sides that are given, and sides that follow -/

namespace Exact

/-- The whole number of pixels for a side that should have the length `v`: the nearest one, and at
least the smallest side. -/
def wholeSide (v : Rat) : Rat := max 50 ⌊v + 1 / 2⌋

/-- A side that follows another one is a whole number of pixels. -/
theorem followingSide_eq (v : Rat) : followingSide v = .ok (wholeSide v) := by
  rw [followingSide, roundHalfUp_eq]
  exact congrArg Except.ok (larger_eq_max _ _)

/-- A side that follows another one is at least the smallest side. -/
theorem fifty_le_wholeSide (v : Rat) : 50 ≤ wholeSide v := le_max_left ..

/-- A side that is given as a number is brought up to the smallest one. -/
theorem sideOf_eq {raw : Raw Rat} {v : Rat} (h : raw.number = .ok v) :
    sideOf raw = .ok (max 50 v) := by
  rw [sideOf, h]
  exact congrArg Except.ok (larger_eq_max _ _)

/-- A side is taken exactly if it is a number. -/
theorem exists_sideOf_iff (raw? : Option (Raw Rat)) :
    (∃ side?, raw?.mapM sideOf = .ok side?) ↔ ∀ raw ∈ raw?, ∃ v, raw.number = .ok v := by
  cases raw? with
  | none => exact iff_of_true ⟨none, rfl⟩ fun _ h => nomatch h
  | some raw =>
    constructor
    · rintro ⟨side?, h⟩ _ ⟨⟩
      obtain ⟨side, hside, -⟩ := Fault.of_bind_eq_ok h
      obtain ⟨v, hv, -⟩ := Fault.of_bind_eq_ok hside
      exact ⟨v, hv⟩
    · intro h
      obtain ⟨v, hv⟩ := h raw rfl
      refine ⟨some (max 50 v), ?_⟩
      rw [Option.mapM_some, sideOf_eq hv]
      rfl

/-- A side that is taken is at least the smallest one. -/
theorem fifty_le_of_sideOf {raw? : Option (Raw Rat)} {side? : Option Rat}
    (h : raw?.mapM sideOf = .ok side?) : ∀ side ∈ side?, 50 ≤ side := by
  cases raw? with
  | none =>
    cases h
    exact fun _ h => nomatch h
  | some raw =>
    obtain ⟨side, hside, h⟩ := Fault.of_bind_eq_ok h
    obtain ⟨v, hv, -⟩ := Fault.of_bind_eq_ok hside
    rw [sideOf_eq hv] at hside
    cases hside
    cases h
    rintro _ ⟨⟩
    exact le_max_left ..

/-- There is a quotient only by what is not zero. -/
theorem ne_zero_of_quotient {a b q : Rat} (h : Scalar.quotient a b = .ok q) : b ≠ 0 := by
  rintro rfl
  exact nomatch h

end Exact

/-- A side that is given or stays is at least fifty or as it was. -/
theorem getD_eq_or_le {side? : Option Rat} (h : ∀ side ∈ side?, 50 ≤ side) (before : Rat) :
    side?.getD before = before ∨ 50 ≤ side?.getD before := by
  cases side? with
  | none => exact .inl rfl
  | some side => exact .inr (h side rfl)

/-- What is at least fifty or as it was is positive if it was. -/
theorem pos_of_eq_or_le {before side : Rat} (h : side = before ∨ 50 ≤ side) (hbefore : 0 < before) :
    0 < side := by
  rcases h with rfl | h
  · exact hbefore
  · linarith

/-- What is at least fifty or as it was keeps a lower bound up to fifty. -/
theorem le_of_eq_or_le {low before side : Rat} (h : side = before ∨ 50 ≤ side) (hlow : low ≤ 50)
    (hbefore : low ≤ before) : low ≤ side := by
  rcases h with rfl | h
  · exact hbefore
  · exact hlow.trans h

/-! ## 2. Videos -/

namespace Changes

/-- Whether a change turns the lock on. -/
def locks (c : Changes Rat) : Bool := c.aspectLocked.any (·.isTrue)

/-- A change that turns the lock on gives it the value true. -/
theorem exists_of_locks {c : Changes Rat} (h : c.locks = true) :
    ∃ t, c.aspectLocked = some t ∧ t.isTrue = true := by
  unfold locks at h
  cases hgiven : c.aspectLocked with
  | none =>
    rw [hgiven] at h
    exact nomatch h
  | some t =>
    rw [hgiven] at h
    exact ⟨t, rfl, h⟩

/-- A change that turns the lock on names a field of videos. -/
theorem touches_of_locks {c : Changes Rat} (h : c.locks = true) : c.touches .video = true := by
  obtain ⟨t, ht, -⟩ := exists_of_locks h
  simp [touches, touchesVideo, ht]

end Changes

namespace Clip

/-- The sides of a video after a change that gives these: while the ratio is kept, a side that is
given alone brings the other one along. -/
def sidesFor (clip : Clip Rat) (width height : Option Rat) : Extent Rat :=
  if Rect.keepsRatio clip.aspectLocked.isOn clip.aspectRatio then
    match width, height with
    | some w, none => ⟨w, Exact.wholeSide (w / clip.aspectRatio)⟩
    | none, some h => ⟨Exact.wholeSide (h * clip.aspectRatio), h⟩
    | w, h => ⟨w.getD clip.width, h.getD clip.height⟩
  else ⟨width.getD clip.width, height.getD clip.height⟩

variable {clip clip' : Clip Rat} {c : Changes Rat} {width height : Option Rat}

/-- In exact arithmetic there always are such sides. -/
theorem changedSides_eq (clip : Clip Rat) (width height : Option Rat) :
    clip.changedSides width height = .ok (clip.sidesFor width height) := by
  unfold changedSides sidesFor Rect.keepsRatio
  split
  · rename_i hkeeps
    have hratio : 0 < clip.aspectRatio := of_decide_eq_true (Bool.and_eq_true_iff.mp hkeeps).2
    cases width <;> cases height <;>
      simp [Exact.quotient_eq hratio.ne', Exact.followingSide_eq, bind, Except.bind, pure,
        Except.pure]
  · rfl

/-- **The sides after a change are as before, or at least fifty.** -/
theorem sidesFor_eq_or_le (clip : Clip Rat) (hwidth : ∀ w ∈ width, 50 ≤ w)
    (hheight : ∀ h ∈ height, 50 ≤ h) :
    ((clip.sidesFor width height).width = clip.width ∨ 50 ≤ (clip.sidesFor width height).width) ∧
    ((clip.sidesFor width height).height = clip.height ∨
      50 ≤ (clip.sidesFor width height).height) := by
  unfold sidesFor
  split
  · split
    · exact ⟨.inr (hwidth _ rfl), .inr (Exact.fifty_le_wholeSide _)⟩
    · exact ⟨.inr (Exact.fifty_le_wholeSide _), .inr (hheight _ rfl)⟩
    · exact ⟨getD_eq_or_le hwidth _, getD_eq_or_le hheight _⟩
  · exact ⟨getD_eq_or_le hwidth _, getD_eq_or_le hheight _⟩

/-- A video after a change of which these are the sides that are taken. -/
def edited (clip : Clip Rat) (c : Changes Rat) (width height : Option Rat) : Clip Rat where
  width := (clip.sidesFor width height).width
  height := (clip.sidesFor width height).height
  aspectLocked := c.aspectLocked.getD clip.aspectLocked
  aspectRatio :=
    if c.locks then clip.width / clip.height else c.aspectRatio.getD clip.aspectRatio

/-- A video is locked after a change that turns the lock on. -/
theorem isOn_edited (h : c.locks = true) :
    (clip.edited c width height).aspectLocked.isOn = true := by
  obtain ⟨t, ht, htrue⟩ := Changes.exists_of_locks h
  rw [edited, ht]
  exact Toggle.isOn_of_isTrue htrue

/-- **A change of a video succeeds** where its sides are numbers, and where there is a height to
take the ratio from if the lock is turned on. -/
theorem changed_eq (hwidth : c.width.mapM sideOf = .ok width)
    (hheight : c.height.mapM sideOf = .ok height) (hlocks : c.locks = true → clip.height ≠ 0) :
    clip.changed c = .ok (clip.edited c width height) := by
  unfold changed edited
  rw [hwidth, hheight]
  dsimp only [bind, Except.bind]
  rw [changedSides_eq]
  by_cases hturned : c.locks = true
  · rw [if_pos hturned, Exact.quotient_eq (hlocks hturned)]
    exact if_pos hturned
  · rw [if_neg hturned]
    exact if_neg hturned

/-- **And only there.** -/
theorem eq_edited_of_changed (h : clip.changed c = .ok clip') :
    ∃ width height, c.width.mapM sideOf = .ok width ∧ c.height.mapM sideOf = .ok height ∧
      (c.locks = true → clip.height ≠ 0) ∧ clip' = clip.edited c width height := by
  obtain ⟨width, hwidth, hrest⟩ := Fault.of_bind_eq_ok h
  obtain ⟨height, hheight, hrest⟩ := Fault.of_bind_eq_ok hrest
  obtain ⟨_, -, hrest⟩ := Fault.of_bind_eq_ok hrest
  have hlocks : c.locks = true → clip.height ≠ 0 := by
    intro hturned
    obtain ⟨_, hratio, -⟩ := Fault.of_bind_eq_ok ((if_pos hturned).symm.trans hrest)
    exact Exact.ne_zero_of_quotient hratio
  exact ⟨width, height, hwidth, hheight, hlocks,
    Except.ok.inj (h.symm.trans (changed_eq hwidth hheight hlocks))⟩

end Clip

/-! ## 3. Videos in a document -/

namespace Document

/-- The layer that is found under an id is a video with these fields. -/
def ShowsVideo (d : Document Rat) (id : String) (clip : Clip Rat) : Prop :=
  ∃ l, d.layer? id = some l ∧ l.content = .video clip

/-- **A change of a video's fields** is refused if it has a reserved name, and else shows what the
change makes of the video. -/
theorem exists_update_video {d : Document Rat} {id : String} {clip : Clip Rat}
    (h : d.ShowsVideo id clip) {c : Changes Rat} (hc : c.touches .video = true) :
    ∃ shown : Clip Rat → Document Rat, (∀ clip', (shown clip').ShowsVideo id clip') ∧
      d.update id c = if c.otherNames.any reservedNames.contains then .error .wrongKind
        else (clip.changed c).map shown := by
  obtain ⟨l, hl, hcontent⟩ := h
  refine ⟨fun clip' => d.replace ⟨l.id, c.name.getD l.name, c.x.getD l.x, c.y.getD l.y,
    c.visible.getD l.visible, c.zIndex.getD l.zIndex, .video clip'⟩,
    fun clip' => ⟨_, layer?_replace hl rfl, rfl⟩, ?_⟩
  have hkind : c.touches l.kind = true := by rwa [Layer.kind, hcontent]
  unfold Document.update
  rw [hl]
  dsimp only
  rw [if_pos hkind, Layer.changed, Layer.changedContent, hcontent]
  dsimp only
  cases clip.changed c <;> rfl

/-- A change of a video's fields succeeds where none of its names is reserved and the video can be
changed. -/
theorem exists_updated {d : Document Rat} {id : String} {clip : Clip Rat} (h : d.ShowsVideo id clip)
    {c : Changes Rat} (hc : c.touches .video = true)
    (hnames : c.otherNames.any reservedNames.contains = false) {width height : Option Rat}
    (hwidth : c.width.mapM sideOf = .ok width) (hheight : c.height.mapM sideOf = .ok height)
    (hlocks : c.locks = true → clip.height ≠ 0) :
    ∃ d', d.update id c = .ok d' ∧ d'.ShowsVideo id (clip.edited c width height) := by
  obtain ⟨shown, hshown, hupdate⟩ := exists_update_video h hc
  refine ⟨shown (clip.edited c width height), ?_, hshown _⟩
  rw [hupdate, hnames, Clip.changed_eq hwidth hheight hlocks]
  rfl

/-- And only there. -/
theorem showsVideo_of_update {d d' : Document Rat} {id : String} {clip : Clip Rat}
    (h : d.ShowsVideo id clip) {c : Changes Rat} (hc : c.touches .video = true)
    (hupdate : d.update id c = .ok d') :
    c.otherNames.any reservedNames.contains = false ∧
      ∃ width height, c.width.mapM sideOf = .ok width ∧ c.height.mapM sideOf = .ok height ∧
        d'.ShowsVideo id (clip.edited c width height) := by
  obtain ⟨shown, hshown, heq⟩ := exists_update_video h hc
  rw [heq] at hupdate
  split at hupdate
  · exact nomatch hupdate
  · rename_i hnames
    refine ⟨Bool.eq_false_iff.mpr hnames, ?_⟩
    cases hclip : clip.changed c with
    | error e =>
      rw [hclip] at hupdate
      exact nomatch hupdate
    | ok clip' =>
      rw [hclip] at hupdate
      cases hupdate
      obtain ⟨width, height, hwidth, hheight, -, rfl⟩ := Clip.eq_edited_of_changed hclip
      exact ⟨width, height, hwidth, hheight, hshown _⟩

end Document

end Compositor
