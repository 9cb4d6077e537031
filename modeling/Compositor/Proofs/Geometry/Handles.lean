import Compositor.Handle
import Compositor.Proofs.Geometry.Span

/-!
# Handles do not overlap

The handle at a point is the first one whose square holds the point, so it might depend on the order
in which the handles are tried.  On a video whose sides are longer than twenty it does not, because
no two squares have a point in common (`Rect.eq_of_near_anchor`); and no video is smaller than fifty.

There are twenty-eight pairs of handles, and one reason for all of them.  A handle is told by what it
pulls across and downwards (`Handle.eq_of_pulls`).  Along one axis a handle lies at the low end of
the box, in its middle or at its high end, according to what it pulls there (`Rect.anchor_eq`).  So
two handles differ in what they pull on one of the axes, and on that axis they are at least half a
side apart, which is more than two squares reach.
-/

namespace Compositor

/-! ## 1. Along one axis -/

namespace Pull

/-- How many halves of a span lie below the point at which it is pulled so. -/
def halves : Pull → Rat
  | .low => 0
  | .neither => 1
  | .high => 2

/-- Different pulls are at least one half apart. -/
theorem one_le_abs_halves_sub {p q : Pull} (h : p ≠ q) : 1 ≤ |p.halves - q.halves| := by
  cases p <;> cases q <;> first
    | exact absurd rfl h
    | norm_num [halves]

end Pull

namespace Span

/-- The point at which a span is pulled: the end that is pulled, or the middle if neither is. -/
def grip (s : Span) (p : Pull) : Rat := s.start + p.halves * (s.length / 2)

/-- Of a span longer than twenty, no point is within five of two of these points. -/
theorem eq_of_near_grip {s : Span} (hlong : 20 < s.length) {p q : Pull} {v : Rat}
    (hp : |v - s.grip p| ≤ 5) (hq : |v - s.grip q| ≤ 5) : p = q := by
  by_contra hne
  have hhalf : 10 < s.length / 2 := by linarith
  have hapart : s.length / 2 ≤ |s.grip p - s.grip q| := by
    rw [grip, grip, add_sub_add_left_eq_sub, ← sub_mul, abs_mul,
      abs_of_pos (show 0 < s.length / 2 by linarith)]
    exact le_mul_of_one_le_left (by linarith) (Pull.one_le_abs_halves_sub hne)
  have hnear : |s.grip p - s.grip q| ≤ 5 + 5 := by
    calc |s.grip p - s.grip q| ≤ |s.grip p - v| + |v - s.grip q| := abs_sub_le ..
      _ ≤ 5 + 5 := add_le_add (abs_sub_comm v _ ▸ hp) hq
  linarith

end Span

/-! ## 2. On a box -/

/-- A handle is told by what it pulls across and downwards. -/
theorem Handle.eq_of_pulls {h k : Handle} (hacross : h.across = k.across)
    (hdown : h.down = k.down) : h = k := by
  revert hacross hdown
  cases h <;> cases k <;> decide

/-- Not farther than five from a point, across and downwards. -/
def Point.Near (p q : Point Rat) : Prop := |p.x - q.x| ≤ 5 ∧ |p.y - q.y| ≤ 5

namespace Rect

/-- **A handle lies where it pulls**, across and downwards. -/
theorem anchor_eq (r : Rect Rat) (h : Handle) :
    r.anchor h = ⟨r.across.grip h.across, r.down.grip h.down⟩ := by
  have hlow : ∀ s : Span, s.grip .low = s.start := fun s => by simp [Span.grip, Pull.halves]
  have hmiddle : ∀ s : Span, s.grip .neither = s.start + s.length / 2 := fun s => by
    simp [Span.grip, Pull.halves]
  have hhigh : ∀ s : Span, s.grip .high = s.start + s.length := fun s => by
    rw [Span.grip, Pull.halves, mul_div_cancel₀ _ two_ne_zero]
  cases h <;> simp only [anchor, Handle.across, Handle.down, hlow, hmiddle, hhigh, Exact.half_eq,
    right, bottom, across, down]

/-- The square of a handle holds the points near the handle. -/
theorem containsClosed_handleSquare_iff (r : Rect Rat) (h : Handle) (p : Point Rat) :
    (r.handleSquare h).containsClosed p = true ↔ p.Near (r.anchor h) := by
  have hsquare : r.handleSquare h = ⟨(r.anchor h).x - 5, (r.anchor h).y - 5, 5 + 5, 5 + 5⟩ := by
    have hside : (Defaults.handleSide : Rat) = 5 + 5 := by decide +kernel
    have hreach : Scalar.half (5 + 5 : Rat) = 5 := by norm_num [Exact.half_eq]
    rw [handleSquare, hside, hreach]
  rw [hsquare]
  simp only [containsClosed, Bool.and_eq_true, decide_eq_true_eq]
  simp only [right, bottom, Point.Near, abs_le]
  constructor
  · rintro ⟨⟨⟨hleft, hright⟩, htop⟩, hbottom⟩
    refine ⟨⟨?_, ?_⟩, ?_, ?_⟩ <;> linarith
  · rintro ⟨⟨hleft, hright⟩, htop, hbottom⟩
    refine ⟨⟨⟨?_, ?_⟩, ?_⟩, ?_⟩ <;> linarith

/-- **No point is near two handles** of a box with sides longer than twenty. -/
theorem eq_of_near_anchor {r : Rect Rat} (hwide : 20 < r.width) (hhigh : 20 < r.height)
    {h k : Handle} {p : Point Rat} (hh : p.Near (r.anchor h)) (hk : p.Near (r.anchor k)) :
    h = k := by
  rw [anchor_eq] at hh hk
  exact Handle.eq_of_pulls (Span.eq_of_near_grip (s := r.across) hwide hh.1 hk.1)
    (Span.eq_of_near_grip (s := r.down) hhigh hh.2 hk.2)

end Rect

/-! ## 3. The handle at a point -/

/-- Where at most one element of a list fulfils a condition, the first that does is the same in every
order of the list. -/
theorem find?_eq_of_perm {β : Type} {p : β → Bool} {l l' : List β} (hperm : l'.Perm l)
    (hone : ∀ a ∈ l, ∀ b ∈ l, p a = true → p b = true → a = b) : l'.find? p = l.find? p := by
  cases hl : l.find? p with
  | none =>
    rw [List.find?_eq_none] at hl ⊢
    exact fun a ha => hl a (hperm.mem_iff.mp ha)
  | some a =>
    have ha := List.mem_of_find?_eq_some hl
    have hpa := List.find?_some hl
    obtain ⟨b, hb⟩ := Option.isSome_iff_exists.mp
      (List.find?_isSome.mpr ⟨a, hperm.mem_iff.mpr ha, hpa⟩)
    rw [hb, hone b (hperm.mem_iff.mp (List.mem_of_find?_eq_some hb)) a ha (List.find?_some hb) hpa]

namespace Layer

variable {l : Layer Rat} {clip : Clip Rat}

/-- The handles of a video are those of its box. -/
theorem mem_handles_iff (hclip : l.content = .video clip) {h : Handle} {r : Rect Rat} :
    (h, r) ∈ l.handles ↔ r = (Rect.mk l.x l.y clip.width clip.height).handleSquare h := by
  simp only [handles, hclip, List.mem_map, Prod.mk.injEq]
  constructor
  · rintro ⟨k, -, rfl, rfl⟩
    rfl
  · rintro rfl
    exact ⟨h, h.mem_all, rfl, rfl⟩

/-- A handle that is found is near. -/
theorem near_of_handleAt? (hclip : l.content = .video clip) {h : Handle} {p : Point Rat}
    (hfound : l.handleAt? p = some h) :
    p.Near ((Rect.mk l.x l.y clip.width clip.height).anchor h) := by
  obtain ⟨⟨k, r⟩, hr, rfl⟩ := Option.map_eq_some_iff.mp hfound
  have hmem := (mem_handles_iff hclip).mp (List.mem_of_find?_eq_some hr)
  have hheld := List.find?_some hr
  rw [hmem] at hheld
  exact (Rect.containsClosed_handleSquare_iff _ k p).mp hheld

/-- No handle is found exactly where none is near. -/
theorem handleAt?_eq_none_iff_near (hclip : l.content = .video clip) {p : Point Rat} :
    l.handleAt? p = none ↔
      ∀ h, ¬ p.Near ((Rect.mk l.x l.y clip.width clip.height).anchor h) := by
  rw [handleAt?, Option.map_eq_none_iff, List.find?_eq_none]
  constructor
  · intro hfree h hnear
    exact hfree _ ((mem_handles_iff hclip).mpr rfl)
      ((Rect.containsClosed_handleSquare_iff _ h p).mpr hnear)
  · rintro hfree ⟨h, r⟩ hmem hheld
    rw [mem_handles_iff hclip] at hmem
    subst hmem
    exact hfree h ((Rect.containsClosed_handleSquare_iff _ h p).mp hheld)

/-- **The handle at a point is the one that is near it.**  On a video with sides longer than twenty,
no two squares of handles have a point in common.  So a handle is found at the points near it and
nowhere else, none is found where none is near, and it makes no difference in which order the handles
are tried. -/
theorem handles_apart (hclip : l.content = .video clip) (hwide : 20 < clip.width)
    (hhigh : 20 < clip.height) :
    let box := Rect.mk l.x l.y clip.width clip.height
    (∀ h k p, (box.handleSquare h).containsClosed p = true →
      (box.handleSquare k).containsClosed p = true → h = k) ∧
    (∀ p h, l.handleAt? p = some h ↔ p.Near (box.anchor h)) ∧
    (∀ p, l.handleAt? p = none ↔ ∀ h, ¬ p.Near (box.anchor h)) ∧
    ∀ p, ∀ order : List (Handle × Rect Rat), order.Perm l.handles →
      (order.find? fun hr => hr.2.containsClosed p).map (·.1) = l.handleAt? p := by
  intro box
  have hapart : ∀ h k p, (box.handleSquare h).containsClosed p = true →
      (box.handleSquare k).containsClosed p = true → h = k := by
    intro h k p hh hk
    rw [Rect.containsClosed_handleSquare_iff] at hh hk
    exact Rect.eq_of_near_anchor hwide hhigh hh hk
  refine ⟨hapart, fun p h => ⟨near_of_handleAt? hclip, fun hnear => ?_⟩,
    fun p => handleAt?_eq_none_iff_near hclip, fun p order hperm => ?_⟩
  · cases hfound : l.handleAt? p with
    | none => exact absurd hnear ((handleAt?_eq_none_iff_near hclip).mp hfound h)
    | some k =>
      have hk := near_of_handleAt? hclip hfound
      rw [Rect.eq_of_near_anchor (r := box) hwide hhigh hk hnear]
  · have hone : ∀ a ∈ l.handles, ∀ b ∈ l.handles, a.2.containsClosed p = true →
        b.2.containsClosed p = true → a = b := by
      rintro ⟨h, r⟩ ha ⟨k, s⟩ hb hheld hheld'
      rw [mem_handles_iff hclip] at ha hb
      subst ha hb
      rw [hapart h k p hheld hheld']
    rw [handleAt?, find?_eq_of_perm hperm hone]

/-- A video little wider than twenty is grabbed at the middle of its upper edge, and beside that. -/
theorem handles_apart_narrow :
    let clip : Clip Rat := ⟨21, 22, false, 1⟩
    let l : Layer Rat := ⟨"video-1", "Clip", 40, 30, true, 1, .video clip⟩
    (20 < clip.width ∧ 20 < clip.height) ∧ l.handleAt? ⟨46, 26⟩ = some .n ∧
      ((l.handles.reverse.find? fun hr => hr.2.containsClosed ⟨46, 26⟩).map (·.1)) = some .n ∧
      l.handleAt? ⟨181 / 4, 30⟩ = none := by
  intro clip l
  have hwide : 20 < clip.width := by norm_num [clip]
  have hhigh : 20 < clip.height := by norm_num [clip]
  obtain ⟨-, hfound, hnone, horder⟩ := handles_apart (l := l) rfl hwide hhigh
  have hn : l.handleAt? ⟨46, 26⟩ = some .n := (hfound _ _).mpr (by constructor <;> decide +kernel)
  refine ⟨⟨hwide, hhigh⟩, hn, (horder _ _ (List.reverse_perm _)).trans hn, (hnone _).mpr ?_⟩
  rintro h ⟨hacross, hdown⟩
  revert hacross hdown
  cases h <;> decide +kernel

/-- At a width of twenty the squares touch, and the order counts. -/
example :
    let l : Layer Rat := ⟨"video-1", "Clip", 40, 30, true, 1, .video ⟨20, 22, false, 1⟩⟩
    l.handleAt? ⟨45, 30⟩ = some .nw ∧
      ((l.handles.reverse.find? fun hr => hr.2.containsClosed ⟨45, 30⟩).map (·.1)) = some .n := by
  decide +kernel

end Layer

end Compositor
