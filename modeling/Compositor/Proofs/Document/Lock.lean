import Compositor.Proofs.Document.Sides
import Compositor.Proofs.Geometry.Locked

/-!
# The lock of a video, when its fields are changed

While the lock of a video is on, its sides are meant to be in its ratio.  Two rules are to see to
that when fields are changed, and neither always does.

Turning the lock on takes the ratio from the size of the video, and that is the size before the
change.  If the same change gives a side as well, the ratio is that of the new size only if the two
sizes are in proportion (`locking_captures_iff`).

A side that is given brings the other one along, rounded to a whole pixel and brought up to the
smallest side.  Where it is brought up, the given side is left as it is and the ratio is lost
(`one_side_keeps_ratio_iff`).  A handle that is pulled to the same size drives the given side up as
well, and keeps it (`Extent.locked_eq`).
-/

namespace Compositor

/-! ## 1. Sides that follow, and the ratio -/

namespace Exact

/-- What is shorter than the smallest side by more than half a pixel is brought up to it. -/
theorem wholeSide_of_lt {v : Rat} (h : v < 99 / 2) : wholeSide v = 50 := by
  have hfloor : ⌊v + 1 / 2⌋ ≤ 50 := by
    refine Int.le_of_lt (Int.floor_lt.mpr ?_)
    push_cast
    linarith
  exact max_eq_left (by exact_mod_cast hfloor)

/-- **A side is rounded by half a pixel at most, unless it is brought up by more.** -/
theorem abs_wholeSide_sub_le_iff (v : Rat) : |wholeSide v - v| ≤ 1 / 2 ↔ 99 / 2 ≤ v := by
  constructor
  · intro h
    have hclose := (abs_le.mp h).2
    have hlarge := fifty_le_wholeSide v
    linarith
  · intro h
    have hfloor : 50 ≤ ⌊v + 1 / 2⌋ := Int.le_floor.mpr (by push_cast; linarith)
    have hlow := Int.floor_le (v + 1 / 2)
    have hhigh := Int.lt_floor_add_one (v + 1 / 2)
    rw [wholeSide, max_eq_right (by exact_mod_cast hfloor), abs_le]
    constructor <;> linarith

end Exact

namespace Extent

/-- The sides are in a ratio, but for half a pixel on one of them. -/
def NearRatio (ratio : Rat) (e : Extent Rat) : Prop :=
  |e.height - e.width / ratio| ≤ 1 / 2 ∨ |e.width - ratio * e.height| ≤ 1 / 2

variable {side ratio : Rat}

/-- **A height that follows a width keeps the ratio** unless it is brought up by more than half a
pixel.  It is enough to look at the height: where it is brought up by more, the width is off by
more, too. -/
theorem nearRatio_of_width_iff (hside : 50 ≤ side) (hratio : 0 < ratio) :
    NearRatio ratio ⟨side, Exact.wholeSide (side / ratio)⟩ ↔ 99 / 2 ≤ side / ratio := by
  rw [NearRatio, Exact.abs_wholeSide_sub_le_iff]
  refine or_iff_left_of_imp fun hclose => ?_
  by_contra hshort
  rw [not_le] at hshort
  rw [Exact.wholeSide_of_lt hshort] at hclose
  rw [div_lt_iff₀ hratio] at hshort
  linarith [(abs_le.mp hclose).1]

/-- **A width that follows a height keeps the ratio** unless it is brought up by more than half a
pixel. -/
theorem nearRatio_of_height_iff (hside : 50 ≤ side) (hratio : 0 < ratio) :
    NearRatio ratio ⟨Exact.wholeSide (side * ratio), side⟩ ↔ 99 / 2 ≤ side * ratio := by
  rw [NearRatio, mul_comm ratio, Exact.abs_wholeSide_sub_le_iff]
  refine or_iff_right_of_imp fun hclose => ?_
  by_contra hshort
  rw [not_le] at hshort
  rw [Exact.wholeSide_of_lt hshort] at hclose
  have hquotient : 50 / ratio ≤ side + 1 / 2 := by linarith [(abs_le.mp hclose).1]
  rw [div_le_iff₀ hratio] at hquotient
  have hlarge : 1 ≤ ratio := by linarith
  linarith [le_mul_of_one_le_right (by linarith : 0 ≤ side) hlarge]

end Extent

namespace Clip

variable {clip : Clip Rat}

/-- With the lock on, a width that is given alone brings the height along. -/
theorem sidesFor_width (hlocked : clip.aspectLocked.isOn = true) (hratio : 0 < clip.aspectRatio)
    (side : Rat) :
    clip.sidesFor (some side) none = ⟨side, Exact.wholeSide (side / clip.aspectRatio)⟩ :=
  if_pos (Bool.and_eq_true_iff.mpr ⟨hlocked, decide_eq_true hratio⟩)

/-- With the lock on, a height that is given alone brings the width along. -/
theorem sidesFor_height (hlocked : clip.aspectLocked.isOn = true) (hratio : 0 < clip.aspectRatio)
    (side : Rat) :
    clip.sidesFor none (some side) = ⟨Exact.wholeSide (side * clip.aspectRatio), side⟩ :=
  if_pos (Bool.and_eq_true_iff.mpr ⟨hlocked, decide_eq_true hratio⟩)

/-- A change that gives no side leaves both as they are. -/
theorem sidesFor_none (clip : Clip Rat) : clip.sidesFor none none = ⟨clip.width, clip.height⟩ :=
  ite_self _

end Clip

/-! ## 2. What a change does to the ratio -/

namespace Document

variable {d : Document Rat} {id : String} {clip : Clip Rat}

/-- **Which ratio is taken when the lock is turned on.**  A change that turns the lock of a video
on, and may change anything else as well, is made unless it has a reserved name or gives a side that
is no number.  The video then is locked, with the sides that were given or followed, and its ratio
is that of the sides before.  This is the ratio of its own sides if and only if they are in the
proportion of those before; so it is if no side was given. -/
theorem locking_captures_iff (hclip : d.ShowsVideo id clip) (hwidth : 0 < clip.width)
    (hheight : 0 < clip.height) {c : Changes Rat} (hlocks : c.locks = true) :
    ((∃ d', d.update id c = .ok d') ↔
      c.otherNames.any reservedNames.contains = false ∧
        (∀ raw ∈ c.width, ∃ v, raw.number = .ok v) ∧ ∀ raw ∈ c.height, ∃ v, raw.number = .ok v) ∧
    ∀ d', d.update id c = .ok d' → ∃ width height clip',
      c.width.mapM sideOf = .ok width ∧ c.height.mapM sideOf = .ok height ∧
      d'.ShowsVideo id clip' ∧ clip'.aspectLocked.isOn = true ∧
      (⟨clip'.width, clip'.height⟩ : Extent Rat) = clip.sidesFor width height ∧
      0 < clip'.width ∧ 0 < clip'.height ∧ clip'.aspectRatio = clip.width / clip.height ∧
      (clip'.aspectRatio = clip'.width / clip'.height ↔
        clip'.width * clip.height = clip.width * clip'.height) ∧
      (c.width = none → c.height = none → clip'.aspectRatio = clip'.width / clip'.height) := by
  have htouches := Changes.touches_of_locks hlocks
  constructor
  · rw [← Exact.exists_sideOf_iff, ← Exact.exists_sideOf_iff]
    constructor
    · rintro ⟨d', hd'⟩
      obtain ⟨hnames, width, height, hw, hh, -⟩ := showsVideo_of_update hclip htouches hd'
      exact ⟨hnames, ⟨width, hw⟩, ⟨height, hh⟩⟩
    · rintro ⟨hnames, ⟨width, hw⟩, ⟨height, hh⟩⟩
      obtain ⟨d', hd', -⟩ :=
        exists_updated hclip htouches hnames hw hh fun _ => hheight.ne'
      exact ⟨d', hd'⟩
  · intro d' hd'
    obtain ⟨-, width, height, hw, hh, hshown⟩ := showsVideo_of_update hclip htouches hd'
    obtain ⟨hwide, hhigh⟩ := clip.sidesFor_eq_or_le (Exact.fifty_le_of_sideOf hw)
      (Exact.fifty_le_of_sideOf hh)
    have hwidth' : 0 < (clip.sidesFor width height).width := pos_of_eq_or_le hwide hwidth
    have hheight' : 0 < (clip.sidesFor width height).height := pos_of_eq_or_le hhigh hheight
    have hratio : (clip.edited c width height).aspectRatio = clip.width / clip.height :=
      if_pos hlocks
    refine ⟨width, height, _, hw, hh, hshown, Clip.isOn_edited hlocks, rfl, hwidth', hheight',
      hratio, ?_, ?_⟩
    · rw [hratio]
      exact (div_eq_div_iff hheight.ne' hheight'.ne').trans eq_comm
    · intro hnone hnone'
      rw [hnone] at hw
      rw [hnone'] at hh
      cases hw
      cases hh
      rw [hratio]
      change _ = (clip.sidesFor none none).width / (clip.sidesFor none none).height
      rw [clip.sidesFor_none]

/-- A new video is locked, and at the same time made larger and put elsewhere: it stays a square. -/
theorem locking_captures_iff_square :
    let d := (empty : Document Rat).after .estimated [.addVideo]
    let c : Changes Rat :=
      { x := some 7, width := some (.text "400"), height := some (.whole 400),
        aspectLocked := some (.ofBool true) }
    (d.ShowsVideo "video-1" .initial ∧ 0 < (Clip.initial : Clip Rat).width ∧
      0 < (Clip.initial : Clip Rat).height ∧ c.locks = true) ∧
    ∃ d' clip', d.update "video-1" c = .ok d' ∧ d'.ShowsVideo "video-1" clip' ∧
      clip'.width = 400 ∧ clip'.aspectRatio = clip'.width / clip'.height := by
  intro d c
  have hclip : d.ShowsVideo "video-1" .initial := ⟨_, rfl, rfl⟩
  have hwidth : 0 < (Clip.initial : Clip Rat).width := by decide +kernel
  have hheight : 0 < (Clip.initial : Clip Rat).height := by decide +kernel
  have hgiven : c.width.mapM sideOf = .ok (some 400) ∧ c.height.mapM sideOf = .ok (some 400) := by
    decide +kernel
  obtain ⟨hmade, hcaptured⟩ := locking_captures_iff hclip hwidth hheight (c := c) rfl
  obtain ⟨d', hd'⟩ := hmade.mpr ⟨rfl, (Exact.exists_sideOf_iff _).mp ⟨_, hgiven.1⟩,
    (Exact.exists_sideOf_iff _).mp ⟨_, hgiven.2⟩⟩
  obtain ⟨width, height, clip', hw, hh, hshown, -, hsides, -, -, -, hiff, -⟩ := hcaptured d' hd'
  cases hw.symm.trans hgiven.1
  cases hh.symm.trans hgiven.2
  obtain ⟨hwide, hhigh⟩ := Extent.mk.inj hsides
  have hsquare : clip'.width = 400 ∧ clip'.height = 400 := ⟨hwide, hhigh⟩
  refine ⟨⟨hclip, hwidth, hheight, rfl⟩, d', clip', hd', hshown, hsquare.1, hiff.mpr ?_⟩
  rw [hsquare.1, hsquare.2]
  decide +kernel

/-- **The ratio that is taken may be that of a size which the video no longer has.**  A new video is
made four times as wide as high, and locked in the same change. -/
theorem locking_misses_new_size :
    let d := (empty : Document Rat).after .estimated [.addVideo]
    let c : Changes Rat :=
      { width := some (.whole 400), height := some (.whole 100),
        aspectLocked := some (.ofBool true) }
    ∃ d' clip', d.update "video-1" c = .ok d' ∧ d'.ShowsVideo "video-1" clip' ∧
      clip'.width = 400 ∧ clip'.height = 100 ∧ clip'.aspectRatio = 1 ∧
      clip'.aspectRatio ≠ clip'.width / clip'.height := by
  intro d c
  have hclip : d.ShowsVideo "video-1" .initial := ⟨_, rfl, rfl⟩
  have hwidth : c.width.mapM sideOf = .ok (some 400) := by decide +kernel
  have hheight : c.height.mapM sideOf = .ok (some 100) := by decide +kernel
  obtain ⟨d', hd', hshown⟩ := exists_updated hclip rfl rfl hwidth hheight fun _ => by decide +kernel
  refine ⟨d', _, hd', hshown, ?_, ?_, ?_, ?_⟩ <;> decide +kernel

/-- **What becomes of the ratio of a locked video when one side is given.**  Whatever else is
changed with it, the change is made: the side is brought up to the smallest one, the other one
follows, and neither is too short.  They are in the ratio, but for half a pixel on one of them, if
and only if the one that follows was not brought up by more.  A handle of the same video that is
pulled to any size at all keeps the ratio. -/
theorem one_side_keeps_ratio_iff (hclip : d.ShowsVideo id clip)
    (hlocked : clip.aspectLocked.isOn = true) (hratio : 0 < clip.aspectRatio) {raw : Raw Rat}
    {v : Rat} (hv : raw.number = .ok v) {c : Changes Rat}
    (hnames : c.otherNames.any reservedNames.contains = false)
    (hlocks : c.locks = true → clip.height ≠ 0) :
    (∃ d' clip', d.update id { c with width := some raw, height := none } = .ok d' ∧
      d'.ShowsVideo id clip' ∧ clip'.width = max 50 v ∧ 50 ≤ clip'.width ∧ 50 ≤ clip'.height ∧
      (Extent.NearRatio clip.aspectRatio ⟨clip'.width, clip'.height⟩ ↔
        99 / 2 ≤ max 50 v / clip.aspectRatio)) ∧
    (∃ d' clip', d.update id { c with width := none, height := some raw } = .ok d' ∧
      d'.ShowsVideo id clip' ∧ clip'.height = max 50 v ∧ 50 ≤ clip'.width ∧ 50 ≤ clip'.height ∧
      (Extent.NearRatio clip.aspectRatio ⟨clip'.width, clip'.height⟩ ↔
        99 / 2 ≤ max 50 v * clip.aspectRatio)) ∧
    ∀ (asked : Extent Rat) (byHeight : Bool), ∃ size,
      asked.locked byHeight clip.aspectRatio = .ok size ∧
        size.width = clip.aspectRatio * size.height ∧ 50 ≤ size.width ∧ 50 ≤ size.height := by
  have hside : (some raw).mapM sideOf = .ok (some (max 50 v)) := by
    rw [Option.mapM_some, Exact.sideOf_eq hv]
    rfl
  have hlarge : 50 ≤ max 50 v := le_max_left ..
  refine ⟨?_, ?_, fun asked byHeight => ?_⟩
  · obtain ⟨d', hd', hshown⟩ := exists_updated (c := { c with width := some raw, height := none })
      hclip (by simp [Changes.touches, Changes.touchesVideo]) hnames hside rfl hlocks
    refine ⟨d', _, hd', hshown, ?_⟩
    unfold Clip.edited
    rw [clip.sidesFor_width hlocked hratio]
    exact ⟨rfl, hlarge, Exact.fifty_le_wholeSide _, Extent.nearRatio_of_width_iff hlarge hratio⟩
  · obtain ⟨d', hd', hshown⟩ := exists_updated (c := { c with width := none, height := some raw })
      hclip (by simp [Changes.touches, Changes.touchesVideo]) hnames rfl hside hlocks
    refine ⟨d', _, hd', hshown, ?_⟩
    unfold Clip.edited
    rw [clip.sidesFor_height hlocked hratio]
    exact ⟨rfl, Exact.fifty_le_wholeSide _, hlarge, Extent.nearRatio_of_height_iff hlarge hratio⟩
  · have hsmall := le_max_left (Extent.leastHeight clip.aspectRatio)
      (asked.drivenHeight byHeight clip.aspectRatio)
    obtain ⟨hwide, hhigh⟩ := Extent.fifty_le_ofHeight hratio hsmall
    exact ⟨_, asked.locked_eq byHeight hratio, rfl, hwide, hhigh⟩

/-- A video of which the ratio is two gets a width and, another time, a height; it is locked once
more and put elsewhere by the same change, which also has a name that is no field's. -/
theorem one_side_keeps_ratio_iff_typed :
    let clip : Clip Rat := ⟨400, 200, .ofBool true, 2⟩
    let d := empty.append ⟨"video-1", "Video 1", 20, 20, .ofBool true, 1, .video clip⟩
    let c : Changes Rat :=
      { x := some 7, aspectLocked := some (.ofBool true), otherNames := ["opacity"] }
    (d.ShowsVideo "video-1" clip ∧ clip.aspectLocked.isOn = true ∧ 0 < clip.aspectRatio ∧
      (.text "301" : Raw Rat).number = .ok 301 ∧
      c.otherNames.any reservedNames.contains = false ∧ c.locks = true ∧ clip.height ≠ 0) ∧
    (∃ d' clip',
      d.update "video-1" { c with width := some (.text "301"), height := none } = .ok d' ∧
      d'.ShowsVideo "video-1" clip' ∧ clip'.width = 301 ∧
      Extent.NearRatio 2 ⟨clip'.width, clip'.height⟩) ∧
    ∃ d' clip',
      d.update "video-1" { c with width := none, height := some (.text "301") } = .ok d' ∧
      d'.ShowsVideo "video-1" clip' ∧ clip'.height = 301 ∧
      Extent.NearRatio 2 ⟨clip'.width, clip'.height⟩ := by
  intro clip d c
  have hclip : d.ShowsVideo "video-1" clip := ⟨_, rfl, rfl⟩
  have hratio : 0 < clip.aspectRatio := by decide +kernel
  have hnumber : (.text "301" : Raw Rat).number = .ok 301 := by decide +kernel
  have hnames : c.otherNames.any reservedNames.contains = false := by decide
  have hheight : clip.height ≠ 0 := by decide +kernel
  obtain ⟨⟨d₁, clip₁, hd₁, hshown₁, hwide, -, -, hwidth⟩,
      ⟨d₂, clip₂, hd₂, hshown₂, hhigh, -, -, hheight'⟩, -⟩ :=
    one_side_keeps_ratio_iff hclip rfl hratio hnumber hnames fun _ => hheight
  refine ⟨⟨hclip, rfl, hratio, hnumber, hnames, rfl, hheight⟩,
    ⟨d₁, clip₁, hd₁, hshown₁, hwide.trans ?_, hwidth.mpr ?_⟩,
    ⟨d₂, clip₂, hd₂, hshown₂, hhigh.trans ?_, hheight'.mpr ?_⟩⟩ <;> decide +kernel

/-- **A side that is given alone may be too short for the ratio.**  The video is asked to be sixty
wide; it is as high as the smallest side then, and no longer twice as wide as high. -/
theorem one_side_loses_ratio :
    let clip : Clip Rat := ⟨400, 200, .ofBool true, 2⟩
    let d := empty.append ⟨"video-1", "Video 1", 20, 20, .ofBool true, 1, .video clip⟩
    ∃ d' clip', d.update "video-1" { width := some (.whole 60) } = .ok d' ∧
      d'.ShowsVideo "video-1" clip' ∧ clip'.width = 60 ∧ clip'.height = 50 ∧
      ¬ Extent.NearRatio clip.aspectRatio ⟨clip'.width, clip'.height⟩ := by
  intro clip d
  have hclip : d.ShowsVideo "video-1" clip := ⟨_, rfl, rfl⟩
  have hwidth : (some (.whole 60) : Option (Raw Rat)).mapM sideOf = .ok (some 60) := by
    decide +kernel
  obtain ⟨d', hd', hshown⟩ := exists_updated (c := { width := some (.whole 60) }) hclip rfl rfl
    hwidth rfl nofun
  refine ⟨d', _, hd', hshown, ?_, ?_, ?_⟩
  · decide +kernel
  · decide +kernel
  · unfold Extent.NearRatio
    decide +kernel

end Document

end Compositor
