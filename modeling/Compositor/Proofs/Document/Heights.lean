import Compositor.Panel.Commit
import Compositor.Proofs.Document.Ids

/-!
# Heights in a session

New layers go above all others, copies too, and after that z-indices are only exchanged.  So no two
layers are ever at one height, provided that no change of fields names a z-index itself; the forms
and rows of the side panel never do (`entry?_not_setsHeight`).

Two further facts go into the invariant (`Stacked`).  Exchanges are keyed on ids, so the ids have to
be distinct, or three layers could take part in one.  And the heights stay between one and the
counter of ids: a layer on top is one above the highest, and the counter rises with it, whatever was
removed before.
-/

namespace Compositor

variable {α : Type}

/-- What is typed into a line of the layer form names no z-index. -/
theorem Panel.LayerForm.entry?_not_setsHeight {f : LayerForm} {key : String} {raw : Raw α}
    {a : Action α} (hkey : key ∈ LayerForm.lineKeys) (h : f.entry? key raw = some a) :
    a.setsHeight = false := by
  obtain ⟨id, -, rfl⟩ := Option.map_eq_some_iff.mp h
  have hfields : ∀ key ∈ LayerForm.lineKeys, (fieldOfKey key == "z_index") = false := by decide
  exact hfields key hkey

namespace Document

/-! ## 1. The invariant -/

/-- The heights of the layers. -/
def heights (d : Document α) : List Int := d.layers.map Layer.zIndex

/-- No two layers are at one height, and the heights are between one and the counter. -/
structure Stacked (d : Document α) : Prop where
  distinct : d.heights.Nodup
  bounded : ∀ z ∈ d.heights, 1 ≤ z ∧ z ≤ d.idCounter

/-- Heights that were there before are bounded as before. -/
theorem Stacked.of_subset {d d' : Document α} (hd : Stacked d) (hdistinct : d'.heights.Nodup)
    (hsub : d'.heights ⊆ d.heights) (hcount : d'.idCounter = d.idCounter) : Stacked d' :=
  ⟨hdistinct, fun z hz => hcount ▸ hd.bounded z (hsub hz)⟩

/-- A fresh layer is above all others, and at most one above the counter. -/
theorem Stacked.append {d : Document α} (hcounted : 0 ≤ d.idCounter) (hd : Stacked d)
    {l : Layer α} (hl : d.Fresh l) : Stacked (d.append l) := by
  have hheights : (d.append l).heights = d.heights ++ [l.zIndex] := by
    simp [heights, Document.append]
  have hbound := fun m hm => hd.bounded _ (List.mem_map_of_mem (f := Layer.zIndex) (a := m) hm)
  constructor
  · rw [hheights, List.nodup_append]
    refine ⟨hd.distinct, List.nodup_singleton _, fun z hz w hw => ?_⟩
    obtain ⟨m, hm, rfl⟩ := List.mem_map.mp hz
    have hlt := Stacking.lt_nextZ hm
    rw [List.mem_singleton.mp hw, hl.height_eq]
    omega
  · intro z hz
    have hcount : (d.append l).idCounter = d.idCounter + 1 := rfl
    rw [hheights, List.mem_append, List.mem_singleton] at hz
    rcases hz with hz | rfl
    · have := hd.bounded z hz
      omega
    · have hlow := Stacking.one_le_nextZ fun m hm => (hbound m hm).1
      have hhigh := Stacking.nextZ_le hcounted fun m hm => (hbound m hm).2
      rw [hl.height_eq]
      omega

/-- **A step keeps heights distinct and bounded, unless it sets one.** -/
theorem Outcome.stacked {d d' : Document α} {a : Action α} (h : Outcome d a d')
    (ha : a.setsHeight = false) (hids : Numbered d) (hd : Stacked d) : Stacked d' := by
  cases h with
  | added l fresh => exact hd.append hids.counted fresh
  | changed old new old_mem id_eq kind_eq height_eq =>
    have hheights : (d.replace new).heights = d.heights :=
      Layer.map_replaceIn hids.ids_nodup old_mem id_eq (height_eq ha)
    exact hd.of_subset (hheights ▸ hd.distinct) (hheights ▸ List.Subset.refl _) rfl
  | removed id =>
    have hsub : List.Sublist (d.remove id).heights d.heights :=
      (layers_remove_sublist d id).map Layer.zIndex
    exact hd.of_subset (hd.distinct.sublist hsub) hsub.subset (idCounter_remove d id)
  | exchanged l m l_mem m_mem =>
    exact hd.of_subset
      (Stacking.exchange_heights_nodup hids.ids_nodup hd.distinct l_mem m_mem)
      (Stacking.exchange_heights_subset l_mem m_mem) rfl
  | pointed => exact ⟨hd.distinct, hd.bounded⟩
  | furnished => exact ⟨hd.distinct, hd.bounded⟩

/-! ## 2. Sessions -/

variable [Scalar α]

/-- The empty document has no heights. -/
theorem stacked_empty : Stacked (empty : Document α) :=
  ⟨List.nodup_nil, fun _ hz => absurd hz List.not_mem_nil⟩

/-- Heights stay distinct and bounded in a session that sets none. -/
theorem stacked_after {measure : Measurer α} {actions : List (Action α)} {d : Document α}
    (hactions : ∀ a ∈ actions, a.setsHeight = false) (hd : Numbered d ∧ Stacked d) :
    Stacked (d.after measure actions) := by
  refine (after_induction (P := fun e => Numbered e ∧ Stacked e) hd fun e a ha he => ?_).2
  have hstep := outcome_step measure e a
  exact ⟨hstep.numbered he.1, hstep.stacked (hactions a ha) he.1 he.2⟩

/-- A fresh layer comes after the others and lies strictly above each of them. -/
theorem Fresh.above {α : Type} {d : Document α} {l : Layer α} (hl : d.Fresh l) :
    (d.append l).layers = d.layers ++ [l] ∧ ∀ m ∈ d.layers, m.zIndex < l.zIndex :=
  ⟨rfl, fun _ hm => hl.height_eq ▸ Stacking.lt_nextZ hm⟩

/-- **The heights of every session that sets none.**  They are distinct and between one and the
counter, so that of two layers one is above the other; and what is added or copied comes to lie
strictly above every layer that is there. -/
theorem session_heights (measure : Measurer α) (actions : List (Action α))
    (hactions : ∀ a ∈ actions, a.setsHeight = false) :
    let d := (empty : Document α).after measure actions
    (d.layers.map Layer.zIndex).Nodup ∧
    (∀ l ∈ d.layers, 1 ≤ l.zIndex ∧ l.zIndex ≤ d.idCounter) ∧
    (∀ l ∈ d.layers, ∀ m ∈ d.layers, l ≠ m → l.zIndex < m.zIndex ∨ m.zIndex < l.zIndex) ∧
    ((Stacking.bottomUp d.layers).Pairwise fun l m => l.zIndex < m.zIndex) ∧
    (∀ d', (d.addVideo = .ok d' ∨ d.addText = .ok d' ∨
        ∃ id, (d.layer? id).isSome ∧ d.duplicate id = .ok d') →
      ∃ l, d'.layers = d.layers ++ [l] ∧ ∀ m ∈ d.layers, m.zIndex < l.zIndex) := by
  intro d
  have hd : Stacked d := stacked_after hactions ⟨numbered_empty, stacked_empty⟩
  refine ⟨hd.distinct, fun l hl => hd.bounded _ (List.mem_map_of_mem hl), fun l hl m hm hne => ?_,
    (Stacking.bottomUp_ascending d.layers).strict hd.distinct, fun d' hd' => ?_⟩
  · have hz : l.zIndex ≠ m.zIndex := fun h => hne (List.inj_on_of_nodup_map hd.distinct hl hm h)
    omega
  · rcases hd' with h | h | ⟨id, hid, h⟩
    · obtain ⟨l, hl, rfl⟩ := eq_append_of_addVideo h
      exact ⟨l, hl.above⟩
    · obtain ⟨l, hl, rfl⟩ := eq_append_of_addText h
      exact ⟨l, hl.above⟩
    · obtain ⟨l, hl, rfl⟩ := eq_append_of_duplicate hid h
      exact ⟨l, hl.above⟩

/-- A session in which layers are raised, copied and removed. -/
theorem session_heights_restacked :
    let actions : List (Action Rat) :=
      [.addVideo, .addText, .duplicate "video-1", .raise "video-1", .remove "text-2", .addVideo]
    let d := (empty : Document Rat).after .advance10 actions
    (∀ a ∈ actions, a.setsHeight = false) ∧ d.layers.map Layer.zIndex = [2, 3, 4] ∧
      (Stacking.bottomUp d.layers).Pairwise fun l m => l.zIndex < m.zIndex :=
  ⟨by decide, by decide, (session_heights .advance10 _ (by decide)).2.2.2.1⟩

end Document

end Compositor
