import Compositor.Proofs.Stacking
import Compositor.Proofs.View.Strokes
import Compositor.Scalar.Exact

/-!
# What lies on top

Three readings of the pile have to agree on what is on top: the picture, where the later strokes
cover the earlier ones, the search for the layer under the pointer, and the list of layers at the
side.  The picture goes through the pile from the bottom up, and the other two from the top down.
All three are stable sorts, so on layers of one z-index they do *not* agree; where no two z-indices
are the same, the layer that is found is the one painted last (`Stacking.layerAt_eq_some_iff_last`).

That a layer is painted shows in the picture by its box.  The strokes of a layer outline the box in
which the search looks for it, and nothing else in the picture is outlined, so the outlines are the
boxes of the painted layers in their order (`View.strokes_of_paint`).

To measure a text can fail.  The search looks at no layer below the one that it finds, so only a
failure above that one is a failure of the search.
-/

namespace Compositor

variable {α : Type} [Scalar α] {measure : Measurer α} {p : Point α}

/-! ## 1. The first and the last layer under a point -/

/-- `l` is the first of the layers whose box contains a point. -/
def FirstUnder (measure : Measurer α) (p : Point α) (layers : List (Layer α)) (l : Layer α) :
    Prop :=
  ∃ before after, layers = before ++ l :: after ∧ l.containsPoint measure p = .ok true ∧
    ∀ m ∈ before, m.containsPoint measure p = .ok false

/-- The first one of a list is at its head, or after a head that does not contain the point. -/
theorem firstUnder_cons {m l : Layer α} {rest : List (Layer α)} :
    FirstUnder measure p (m :: rest) l ↔
      m = l ∧ m.containsPoint measure p = .ok true ∨
      m.containsPoint measure p = .ok false ∧ FirstUnder measure p rest l := by
  constructor
  · rintro ⟨before, after, hsplit, hl, hbefore⟩
    cases before with
    | nil =>
      cases hsplit
      exact .inl ⟨rfl, hl⟩
    | cons _ before =>
      cases hsplit
      obtain ⟨hm, hbefore⟩ := List.forall_mem_cons.mp hbefore
      exact .inr ⟨hm, before, after, rfl, hl, hbefore⟩
  · rintro (⟨rfl, hm⟩ | ⟨hm, before, after, rfl, hl, hbefore⟩)
    · exact ⟨[], rest, rfl, hm, fun k hk => nomatch hk⟩
    · exact ⟨m :: before, after, rfl, hl, List.forall_mem_cons.mpr ⟨hm, hbefore⟩⟩

/-! ## 2. The search -/

namespace Layer

/-- The search passes over hidden layers. -/
theorem firstCovering_filter_visible (layers : List (Layer α)) :
    firstCovering measure p (layers.filter (·.visible.isOn)) = firstCovering measure p layers := by
  induction layers with
  | nil => rfl
  | cons m rest ih =>
    cases hon : m.visible.isOn with
    | true => simp only [hon, List.filter_cons_of_pos, firstCovering, ih]
    | false =>
      simp only [hon, Bool.false_eq_true, not_false_eq_true, List.filter_cons_of_neg,
        firstCovering, covers, ih]
      rfl

/-- One step of the search among visible layers. -/
theorem firstCovering_cons {m : Layer α} {rest : List (Layer α)} (hm : m.visible.isOn = true) :
    firstCovering measure p (m :: rest) = (m.containsPoint measure p).bind fun inside =>
      if inside then .ok (some m) else firstCovering measure p rest := by
  rw [firstCovering, covers, if_pos hm]
  rfl

variable {layers : List (Layer α)}

/-- The search finds the first layer under the point. -/
theorem firstCovering_eq_some_iff (hvisible : ∀ l ∈ layers, l.visible.isOn = true) {l : Layer α} :
    firstCovering measure p layers = .ok (some l) ↔ FirstUnder measure p layers l := by
  induction layers with
  | nil =>
    refine ⟨fun h => (nomatch h), ?_⟩
    rintro ⟨before, after, hsplit, -⟩
    simp at hsplit
  | cons m rest ih =>
    obtain ⟨hm, hrest⟩ := List.forall_mem_cons.mp hvisible
    rw [firstCovering_cons hm, firstUnder_cons, ← ih hrest]
    -- the box cannot be told, or the point lies outside it, or inside
    rcases m.containsPoint measure p with e | _ | _ <;> simp [Except.bind]

/-- The search fails only if the box of one of the layers cannot be told. -/
theorem exists_of_firstCovering_error (hvisible : ∀ l ∈ layers, l.visible.isOn = true) {e : Fault}
    (h : firstCovering measure p layers = .error e) :
    ∃ l ∈ layers, l.containsPoint measure p = .error e := by
  induction layers with
  | nil => exact nomatch h
  | cons m rest ih =>
    obtain ⟨hm, hrest⟩ := List.forall_mem_cons.mp hvisible
    rw [firstCovering_cons hm] at h
    rcases Fault.of_bind_eq_error h with hbox | ⟨inside, -, h⟩
    · exact ⟨m, List.mem_cons_self, hbox⟩
    · split at h
      · exact nomatch h
      · obtain ⟨l, hl, hbox⟩ := ih hrest h
        exact ⟨l, List.mem_cons_of_mem m hl, hbox⟩

end Layer

/-! ## 3. The three readings of the pile -/

/-- The visible layers of the collection are the visible ones of the list at the side. -/
theorem mem_visible_topDown {layers : List (Layer α)} {l : Layer α} :
    l ∈ (Stacking.topDown layers).filter (·.visible.isOn)
      ↔ l ∈ layers ∧ l.visible.isOn = true := by
  rw [List.mem_filter, (Stacking.topDown_perm layers).mem_iff]

namespace Stacking

variable {layers : List (Layer α)}

/-- The search goes through the visible layers of the list at the side. -/
theorem layerAt_eq_firstCovering : layerAt measure layers p
    = Layer.firstCovering measure p ((topDown layers).filter (·.visible.isOn)) :=
  (Layer.firstCovering_filter_visible _).symm

/-- What is found is the first visible layer under the point in the list at the side. -/
theorem layerAt_eq_some_iff {l : Layer α} : layerAt measure layers p = .ok (some l) ↔
    FirstUnder measure p ((topDown layers).filter (·.visible.isOn)) l := by
  rw [layerAt_eq_firstCovering,
    Layer.firstCovering_eq_some_iff fun l hl => (mem_visible_topDown.mp hl).2]

/-- The search fails only where the box of a visible layer cannot be told. -/
theorem exists_of_layerAt_error {e : Fault} (h : layerAt measure layers p = .error e) :
    ∃ l ∈ layers, l.visible.isOn = true ∧ l.containsPoint measure p = .error e := by
  rw [layerAt_eq_firstCovering] at h
  obtain ⟨l, hl, hbox⟩ :=
    Layer.exists_of_firstCovering_error (fun l hl => (mem_visible_topDown.mp hl).2) h
  obtain ⟨hmem, hon⟩ := mem_visible_topDown.mp hl
  exact ⟨l, hmem, hon, hbox⟩

end Stacking

end Compositor
