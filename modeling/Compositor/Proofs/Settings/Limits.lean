import Compositor.Proofs.Document.Origin
import Compositor.Proofs.Scalar.Order
import Compositor.Proofs.Session.Run
import Compositor.Proofs.View.Grid
import Compositor.Settings

/-!
# Limits of what is read from a store

Whatever is set in a session is brought within limits, so a session that starts within them stays
there (`withinLimits_after`).  What is read from a store when a session starts is not brought within
them.  A stored distance of the grid lines is a number that is cut to a whole one, and that number
may be below the smallest distance, or there may be none: an infinite and an undefined number cannot
be cut, and a whole number may be too large for a scalar.  A stored opacity is taken as it is.

So a session starts within the limits exactly if the two stored values allow it, and
`exists_withinLimits_iff` says which values do.  What is no number at all always does, since there
is a default for it.
-/

namespace Compositor

variable {α : Type} [Scalar α]

/-- The limits that the setters of a document keep. -/
structure Document.WithinLimits (d : Document α) : Prop where
  gridSize : Defaults.minGridSize ≤ d.gridSize
  opacity_nonneg : Scalar.ofInt 0 ≤ d.templateOpacity
  opacity_le_one : d.templateOpacity ≤ Scalar.ofInt 1

/-! ## 1. Sessions stay within the limits -/

/-- The larger one of the smallest distance and a number is no smaller than that distance. -/
theorem Scalar.minGridSize_le_larger [Scalar.Lawful α] (v : α) :
    Defaults.minGridSize ≤ Scalar.larger Defaults.minGridSize v :=
  Scalar.le_larger Lawful.minGridSize_le_self v

/-- A number that is moved between zero and one is an opacity. -/
theorem Scalar.opacity_clamp [Scalar.Lawful α] (v : α) :
    Scalar.ofInt 0 ≤ Scalar.clamp v (Scalar.ofInt 0) (Scalar.ofInt 1) ∧
      Scalar.clamp v (Scalar.ofInt 0) (Scalar.ofInt 1) ≤ Scalar.ofInt 1 := by
  have hzero := Lawful.opacities (Scalar.ofInt 0 : α) List.mem_cons_self
  have hone := Lawful.opacities (Scalar.ofInt 1 : α) (List.mem_cons_of_mem _ List.mem_cons_self)
  have hsmaller : Scalar.smaller (Scalar.ofInt 1) v ≤ Scalar.ofInt 1 := by
    unfold Scalar.smaller
    split
    · exact Lawful.le_of_lt ‹_›
    · exact hone.2
  unfold Scalar.clamp Scalar.larger
  split
  · exact ⟨Lawful.le_of_lt ‹_›, hsmaller⟩
  · exact hzero

/-- **An action keeps the limits**, whatever it sets. -/
theorem Document.Origin.withinLimits [Scalar.Lawful α] {d d' : Document α} {a : Action α}
    (h : Document.Origin d a d') (hd : d.WithinLimits) : d'.WithinLimits := by
  have hopacity : Scalar.ofInt 0 ≤ d'.templateOpacity ∧ d'.templateOpacity ≤ Scalar.ofInt 1 := by
    rcases h.templateOpacity with h | ⟨v, h⟩ <;> rw [h]
    · exact ⟨hd.opacity_nonneg, hd.opacity_le_one⟩
    · exact Scalar.opacity_clamp v
  refine ⟨?_, hopacity.1, hopacity.2⟩
  rcases h.gridSize with h | ⟨v, h⟩ <;> rw [h]
  · exact hd.gridSize
  · exact Scalar.minGridSize_le_larger v

/-- **A session that starts within the limits stays there.** -/
theorem Session.withinLimits_after [Scalar.Lawful α] {measure : Measurer α} {s : Session α}
    {requests : List (Request α)} (hs : s.document.WithinLimits) :
    (s.after measure requests).document.WithinLimits :=
  after_induction hs fun _ _ _ _ _ _ happly hd =>
    (Document.origin_of_apply happly).withinLimits hd

/-! ## 2. Numbers that are read -/

/-- A value is a number with a property, or no number at all. -/
def Raw.Reads (P : α → Prop) (raw : Raw α) : Prop :=
  match raw.number with
  | .ok v => P v
  | .error fault => fault = .notANumber ∨ fault = .wrongKind

/-- **What is read of a value is its number, or the default where there is none**, and nothing is
read exactly where the value has a fault for which there is no default. -/
theorem Raw.exists_numberOr_iff {P : Raw α → Prop} {raw default : Raw α} (hdefault : P default) :
    (∃ v, raw.numberOr default = .ok v ∧ P v) ↔ raw.Reads fun v => P (.real v) := by
  unfold Raw.numberOr Raw.Reads
  cases raw.number with
  | ok v => simp
  | error fault => cases fault <;> simp [hdefault]

/-- Two steps in a row lead to a result with a property exactly if the second one does from what the
first one gives. -/
theorem Fault.exists_bind_iff {β γ : Type} {x : Except Fault β} {f : β → Except Fault γ}
    {P : γ → Prop} :
    (∃ c, (x >>= f) = .ok c ∧ P c) ↔ ∃ b, x = .ok b ∧ ∃ c, f b = .ok c ∧ P c := by
  constructor
  · rintro ⟨c, h, hc⟩
    obtain ⟨b, hb, h⟩ := of_bind_eq_ok h
    exact ⟨b, hb, c, h, hc⟩
  · rintro ⟨b, rfl, c, h, hc⟩
    exact ⟨c, h, hc⟩

namespace Store

/-- The stored distance of the grid lines is no number, or one whose whole part is not below the
smallest distance. -/
def AllowsGridSize (s : Store α) : Prop :=
  (s.get Preference.gridSize.key (.real Defaults.gridSize)).Reads fun v =>
    ∃ n, Scalar.truncate v = .ok n ∧ (Defaults.minGridSize : α) ≤ Scalar.ofInt n

/-- The stored opacity is no number, or one between zero and one. -/
def AllowsOpacity (s : Store α) : Prop :=
  (s.get Preference.templateOpacity.key (.real Defaults.templateOpacity)).Reads fun v =>
    Scalar.ofInt 0 ≤ v ∧ v ≤ Scalar.ofInt 1

/-- Which stored distances are read as one that is not below the smallest. -/
theorem exists_gridSize_iff [Scalar.Lawful α] (s : Store α) :
    (∃ n, s.gridSize = .ok n ∧ (Defaults.minGridSize : α) ≤ Scalar.ofInt n) ↔
      s.AllowsGridSize :=
  Fault.exists_bind_iff.trans <| Raw.exists_numberOr_iff
    (P := fun v => ∃ n, v.toWhole = .ok n ∧ (Defaults.minGridSize : α) ≤ Scalar.ofInt n)
    ⟨20, Scalar.Lawful.truncate_gridSize, Scalar.Lawful.minGridSize_le_gridSize⟩

/-- Which stored opacities are read as one. -/
theorem exists_templateOpacity_iff [Scalar.Lawful α] (s : Store α) :
    (∃ v, s.templateOpacity = .ok v ∧ Scalar.ofInt 0 ≤ v ∧ v ≤ Scalar.ofInt 1) ↔
      s.AllowsOpacity := by
  have hdefault := Scalar.Lawful.opacities (Defaults.templateOpacity : α) (by simp)
  refine Fault.exists_bind_iff.trans <| (Raw.exists_numberOr_iff
    (P := fun v => ∃ o, v.number = .ok o ∧ Scalar.ofInt 0 ≤ o ∧ o ≤ Scalar.ofInt 1)
    ⟨_, rfl, hdefault⟩).trans ?_
  simp only [Raw.number, Except.ok.injEq, exists_eq_left']
  rfl

/-- **A session starts within the limits exactly if the two stored numbers allow it.** -/
theorem exists_withinLimits_iff [Scalar.Lawful α] (s : Store α) :
    (∃ d, s.initialDocument? = .ok d ∧ d.WithinLimits) ↔ s.AllowsGridSize ∧ s.AllowsOpacity := by
  rw [← exists_gridSize_iff, ← exists_templateOpacity_iff]
  constructor
  · rintro ⟨d, h, hd⟩
    obtain ⟨n, hn, h⟩ := Fault.of_bind_eq_ok h
    obtain ⟨v, hv, h⟩ := Fault.of_bind_eq_ok h
    cases h
    exact ⟨⟨n, hn, hd.gridSize⟩, v, hv, hd.opacity_nonneg, hd.opacity_le_one⟩
  · rintro ⟨⟨n, hn, hsize⟩, v, hv, hnonneg, hle⟩
    have hd : s.initialDocument? = .ok { (Document.empty : Document α) with
        showGrid := s.canvasSwitch .showGrid
        snapToGrid := s.canvasSwitch .snapToGrid
        gridSize := Scalar.ofInt n
        templateOpacity := v } := by
      rw [initialDocument?, hn, hv]
      rfl
    exact ⟨_, hd, hsize, hnonneg, hle⟩

/-- The canvas of a document that is read has its first size. -/
theorem canvas_of_initialDocument? {s : Store α} {d : Document α}
    (h : s.initialDocument? = .ok d) : d.canvas = .standard := by
  obtain ⟨n, -, h⟩ := Fault.of_bind_eq_ok h
  obtain ⟨v, -, h⟩ := Fault.of_bind_eq_ok h
  cases h
  rfl

end Store

/-! ## 3. Sessions that start from a store -/

/-- **A session over a store and the limits of the setters.**  A session starts within the limits
exactly if the stored distance of the grid lines and the stored opacity are no numbers or allow it.
A session that starts within them stays there: the lines of the grid are a positive step apart, and
the opacity is from zero to one and finite.  In exact arithmetic the grid of a document that was
read is painted exactly if its step is positive, and the grid of a session that started within the
limits always is. -/
theorem start_limits (s : Store Float) (t : Store Rat) :
    ((∃ d, s.initialDocument? = .ok d ∧ d.WithinLimits) ↔ s.AllowsGridSize ∧ s.AllowsOpacity) ∧
    (∀ d, s.initialDocument? = .ok d → d.WithinLimits → ∀ measure flag requests,
      let d' := ((Session.start d flag).after measure requests).document
      d'.WithinLimits ∧ Scalar.ofInt 0 < d'.gridSize ∧ d'.templateOpacity.isFinite = true) ∧
    (∀ d, t.initialDocument? = .ok d →
      ((∃ strokes, View.paintGrid d.gridSize d.canvas = .ok strokes) ↔ 0 < d.gridSize) ∧
      (d.WithinLimits → ∀ measure flag requests,
        let d' := ((Session.start d flag).after measure requests).document
        ∃ strokes, View.paintGrid d'.gridSize d'.canvas = .ok strokes)) := by
  refine ⟨s.exists_withinLimits_iff, fun d _ hd measure flag requests => ?_,
    fun d h => ⟨?_, fun hd measure flag requests => ?_⟩⟩
  · have hd' : ((Session.start d flag).after measure requests).document.WithinLimits :=
      Session.withinLimits_after hd
    exact ⟨hd', Scalar.Lawful.pos_of_minGridSize_le hd'.gridSize,
      Scalar.Lawful.isFinite_of_opacity hd'.opacity_nonneg hd'.opacity_le_one⟩
  · have hwidth : 0 ≤ d.canvas.width := by
      rw [Store.canvas_of_initialDocument? h]
      exact Int.cast_nonneg (by decide)
    exact View.exists_paintGrid_iff hwidth
  · have hd' : ((Session.start d flag).after measure requests).document.WithinLimits :=
      Session.withinLimits_after hd
    exact View.exists_paintGrid (Scalar.Lawful.pos_of_minGridSize_le hd'.gridSize) _

/-- Three stores under whose values a session does not start within the limits: an undefined number
is stored, and there is no session; a distance below the smallest one is stored, and there is one
that paints its grid too fine; zero is stored, and it never ends painting it. -/
theorem start_limits_fail :
    (⟨[("canvas/grid_size", .text "nan")]⟩ : Store Float).initialDocument? = .error .notANumber ∧
    (∃ d, (⟨[("canvas/grid_size", .text "2.5")]⟩ : Store Rat).initialDocument? = .ok d ∧
      d.gridSize = 2 ∧ ¬ d.WithinLimits) ∧
    (∃ d, (⟨[("canvas/grid_size", .whole 0)]⟩ : Store Rat).initialDocument? = .ok d ∧
      View.paintGrid d.gridSize d.canvas = .error .endless) := by
  refine ⟨rfl, ⟨_, rfl, by decide +kernel, fun h => ?_⟩, _, rfl, rfl⟩
  exact absurd h.gridSize (by decide +kernel)

/-- The values that a session of this program stores allow a session. -/
theorem start_limits_stored :
    let s : Store Float := ⟨[("canvas/grid_size", .text "40"),
      ("canvas/template_opacity", .text "0.25")]⟩
    s.AllowsGridSize ∧ s.AllowsOpacity ∧ ∃ d, s.initialDocument? = .ok d ∧ d.WithinLimits := by
  intro s
  have hsize : s.AllowsGridSize := ⟨40, rfl, by decide⟩
  have hopacity : s.AllowsOpacity := by
    refine ⟨?_, ?_⟩ <;> decide +kernel
  exact ⟨hsize, hopacity, (start_limits s .empty).1.mpr ⟨hsize, hopacity⟩⟩

end Compositor
