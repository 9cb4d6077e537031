import Compositor.Proofs.Document.Outcome
import Compositor.Scalar.Exact
import Mathlib

/-!
# Ids in a session

Every operation on a layer names it by its id, so an id that two layers share, or that changes its
meaning in the middle of a session, would spoil all of them without a sound.  An id is the word of
the layer's kind and a number, `video-3`; the number comes from the document's counter.

The invariant is about the pairs of id and kind (`Document.tags`) and not about the layers: no
operation but the making of a new layer and the removal of an old one touches that list, so there
are only two cases to look at (`tags_step`).  What is said of removed layers needs the history as
well: `createdIds` reads it off the documents, comparing each with the one before.
-/

namespace Compositor

variable {α : Type}

/-! ## 1. How ids are spelled -/

/-- The id of a layer of this kind with the number `n`. -/
def LayerKind.idFor (kind : LayerKind) (n : Int) : String := kind.word ++ "-" ++ toString n

/-- An id can be read back: it has one kind and one number. -/
theorem LayerKind.idFor_inj {j k : LayerKind} {m n : Int} :
    j.idFor m = k.idFor n ↔ j = k ∧ m = n := by
  constructor
  · intro h
    have hchars : (j.word ++ "-" ++ toString m).toList = (k.word ++ "-" ++ toString n).toList :=
      congrArg String.toList h
    cases j <;> cases k
    · exact ⟨rfl, Int.repr_injective ((String.append_right_inj _).mp h)⟩
    · simp [LayerKind.word] at hchars
    · simp [LayerKind.word] at hchars
    · exact ⟨rfl, Int.repr_injective ((String.append_right_inj _).mp h)⟩
  · rintro ⟨rfl, rfl⟩
    rfl

/-- The id and the kind of a layer. -/
def Layer.tag (l : Layer α) : String × LayerKind := (l.id, l.kind)

namespace Document

/-- The ids and the kinds of the layers. -/
def tags (d : Document α) : List (String × LayerKind) := d.layers.map Layer.tag

/-- The ids of the layers. -/
theorem map_fst_tags (d : Document α) : d.tags.map Prod.fst = d.layers.map Layer.id := by
  rw [tags, List.map_map]
  rfl

/-- The next id is spelled with the number after the counter. -/
theorem nextId_eq (d : Document α) (kind : LayerKind) :
    d.nextId kind = kind.idFor (d.idCounter + 1) := rfl

/-! ## 2. Distinct numbers, and the steps that keep them -/

/-- Every layer has an id of its own kind with a number up to the counter, and no number twice. -/
structure Numbered (d : Document α) : Prop where
  counted : 0 ≤ d.idCounter
  spelled : ∀ t ∈ d.tags, ∃ n, 1 ≤ n ∧ n ≤ d.idCounter ∧ t.1 = t.2.idFor n
  distinct : d.tags.Pairwise fun t u => ∀ m n, t.1 = t.2.idFor m → u.1 = u.2.idFor n → m ≠ n

/-- Distinct numbers make distinct ids. -/
theorem Numbered.ids_nodup {d : Document α} (h : Numbered d) : (d.layers.map Layer.id).Nodup := by
  rw [← map_fst_tags, List.Nodup, List.pairwise_map]
  refine h.distinct.imp_of_mem fun {t u} ht hu htu heq => ?_
  obtain ⟨m, -, -, hm⟩ := h.spelled t ht
  obtain ⟨n, -, -, hn⟩ := h.spelled u hu
  have hmn : t.2 = u.2 ∧ m = n := LayerKind.idFor_inj.mp (by rw [← hm, ← hn, heq])
  exact htu m n hm hn hmn.2

/-- A change that keeps the id and the kind of a layer keeps all ids and kinds. -/
theorem tags_replace {d : Document α} (hids : (d.layers.map Layer.id).Nodup) {old new : Layer α}
    (hold : old ∈ d.layers) (hid : new.id = old.id) (hkind : new.kind = old.kind) :
    (d.replace new).tags = d.tags := by
  have htag : new.tag = old.tag := by rw [Layer.tag, Layer.tag, hid, hkind]
  exact Layer.map_replaceIn hids hold hid htag

/-- An exchange keeps all ids and kinds. -/
theorem tags_exchange (d : Document α) (l m : Layer α) :
    (Stacking.exchange d.layers l m).map Layer.tag = d.tags :=
  Stacking.map_exchange (fun _ _ => rfl) d.layers l m

/-- **What a step does to the ids.**  Either it adds one, with the next number, or it adds none. -/
theorem Outcome.tags_step {d d' : Document α} {a : Action α} (h : Outcome d a d')
    (hids : (d.layers.map Layer.id).Nodup) :
    (List.Sublist d'.tags d.tags ∧ d'.idCounter = d.idCounter) ∨
      ∃ kind, d'.tags = d.tags ++ [(d.nextId kind, kind)] ∧ d'.idCounter = d.idCounter + 1 := by
  cases h with
  | added l fresh =>
    refine .inr ⟨l.kind, ?_, rfl⟩
    simp [tags, Document.append, Layer.tag, fresh.id_eq]
  | changed old new old_mem id_eq kind_eq =>
    exact .inl ⟨by rw [tags_replace hids old_mem id_eq kind_eq], rfl⟩
  | removed id => exact .inl ⟨(layers_remove_sublist d id).map Layer.tag, idCounter_remove d id⟩
  | exchanged l m => exact .inl ⟨by rw [tags, tags_exchange], rfl⟩
  | pointed => exact .inl ⟨List.Sublist.refl _, rfl⟩
  | furnished => exact .inl ⟨List.Sublist.refl _, rfl⟩

/-- The numbers stay distinct: the new one is above the counter, and so above all others. -/
theorem Outcome.numbered {d d' : Document α} {a : Action α} (h : Outcome d a d')
    (hd : Numbered d) : Numbered d' := by
  rcases h.tags_step hd.ids_nodup with ⟨hsub, hcount⟩ | ⟨kind, htags, hcount⟩
  · exact {
      counted := hcount ▸ hd.counted
      spelled := fun t ht => hcount ▸ hd.spelled t (hsub.subset ht)
      distinct := hd.distinct.sublist hsub }
  · have hpos := hd.counted
    refine ⟨by omega, fun t ht => ?_, ?_⟩
    · rw [htags] at ht
      rcases List.mem_append.mp ht with ht | ht
      · obtain ⟨n, hlow, hhigh, hn⟩ := hd.spelled t ht
        exact ⟨n, hlow, by omega, hn⟩
      · rw [List.mem_singleton.mp ht]
        exact ⟨d.idCounter + 1, by omega, by omega, nextId_eq d kind⟩
    · rw [htags, List.pairwise_append]
      refine ⟨hd.distinct, List.pairwise_singleton _ _, fun t ht u hu m n hm hn => ?_⟩
      rw [List.mem_singleton.mp hu, nextId_eq] at hn
      obtain ⟨k, -, hk, htk⟩ := hd.spelled t ht
      have hmk := (LayerKind.idFor_inj.mp (hm.symm.trans htk)).2
      have hnk := (LayerKind.idFor_inj.mp hn).2
      omega

variable [Scalar α]

/-- The empty document has no ids. -/
theorem numbered_empty : Numbered (empty : Document α) :=
  ⟨Int.le_refl 0, fun _ ht => absurd ht List.not_mem_nil, List.Pairwise.nil⟩

/-- **Ids stay distinct in every session.** -/
theorem numbered_after (measure : Measurer α) (actions : List (Action α)) {d : Document α}
    (hd : Numbered d) : Numbered (d.after measure actions) :=
  after_induction hd fun d a _ hd => (outcome_step measure d a).numbered hd

/-! ## 3. The counter, and the ids of the past -/

/-- The counter never falls. -/
theorem idCounter_le_after (measure : Measurer α) (actions : List (Action α)) {d : Document α}
    (hd : Numbered d) : d.idCounter ≤ (d.after measure actions).idCounter := by
  have h : Numbered (d.after measure actions) ∧
      d.idCounter ≤ (d.after measure actions).idCounter := by
    refine after_induction (P := fun e => Numbered e ∧ d.idCounter ≤ e.idCounter)
      ⟨hd, Int.le_refl _⟩ fun e a _ he => ?_
    have hstep := outcome_step measure e a
    refine ⟨hstep.numbered he.1, Int.le_trans he.2 ?_⟩
    rcases hstep.tags_step he.1.ids_nodup with ⟨-, hcount⟩ | ⟨-, -, hcount⟩ <;> omega
  exact h.2

/-- The ids that one step brought: those after it less those before it, with repetitions. -/
def broughtIds {α : Type} (before after : Document α) : List String :=
  (after.layers.map Layer.id).diff (before.layers.map Layer.id)

/-- The ids of all layers that a session creates, also of those that it removes again. -/
def createdIds (measure : Measurer α) : Document α → List (Action α) → List String
  | _, [] => []
  | d, a :: rest => broughtIds d (d.step measure a) ++ createdIds measure (d.step measure a) rest

/-- A step brings at most one id, the next one. -/
theorem Outcome.broughtIds_eq {α : Type} {d d' : Document α} {a : Action α} (h : Outcome d a d')
    (hd : Numbered d) :
    (broughtIds d d' = [] ∧ d'.idCounter = d.idCounter) ∨
      ∃ kind, broughtIds d d' = [d.nextId kind] ∧ d'.idCounter = d.idCounter + 1 := by
  have hnodup := (h.numbered hd).ids_nodup
  unfold broughtIds
  rw [hnodup.sdiff_eq_filter]
  rcases h.tags_step hd.ids_nodup with ⟨hsub, hcount⟩ | ⟨kind, htags, hcount⟩
  · have hids : List.Sublist (d'.layers.map Layer.id) (d.layers.map Layer.id) := by
      rw [← map_fst_tags, ← map_fst_tags]
      exact hsub.map Prod.fst
    refine .inl ⟨List.filter_eq_nil_iff.mpr fun i hi => ?_, hcount⟩
    have hold := hids.subset hi
    simpa using hold
  · have hids : d'.layers.map Layer.id = d.layers.map Layer.id ++ [d.nextId kind] := by
      rw [← map_fst_tags, ← map_fst_tags, htags, List.map_append]
      rfl
    refine .inr ⟨kind, ?_, hcount⟩
    rw [hids] at hnodup
    have hnew : d.nextId kind ∉ d.layers.map Layer.id :=
      fun hmem => (List.nodup_append.mp hnodup).2.2 _ hmem _ (List.mem_singleton_self _) rfl
    rw [hids, List.filter_append, List.filter_eq_nil_iff.mpr (by simp), List.nil_append,
      List.filter_singleton, decide_eq_true hnew]
    rfl

/-- What a session creates has numbers above the counter with which it starts, and no id twice. -/
theorem createdIds_above (measure : Measurer α) (actions : List (Action α)) {d : Document α}
    (hd : Numbered d) :
    (∀ i ∈ createdIds measure d actions, ∃ (kind : LayerKind) (n : Int),
        d.idCounter < n ∧ i = kind.idFor n) ∧
      (createdIds measure d actions).Nodup := by
  induction actions generalizing d with
  | nil => exact ⟨fun i hi => absurd hi List.not_mem_nil, List.nodup_nil⟩
  | cons a rest ih =>
    have hstep := outcome_step measure d a
    obtain ⟨habove, hnodup⟩ := ih (hstep.numbered hd)
    rw [createdIds]
    rcases hstep.broughtIds_eq hd with ⟨hnone, hcount⟩ | ⟨kind, hone, hcount⟩
    · rw [hnone, List.nil_append]
      exact ⟨hcount ▸ habove, hnodup⟩
    · rw [hone, List.singleton_append, nextId_eq]
      refine ⟨fun i hi => ?_, List.nodup_cons.mpr ⟨fun hmem => ?_, hnodup⟩⟩
      · rcases List.mem_cons.mp hi with rfl | hi
        · exact ⟨kind, d.idCounter + 1, by omega, rfl⟩
        · obtain ⟨k, n, hn, rfl⟩ := habove i hi
          exact ⟨k, n, by omega, rfl⟩
      · -- a later id has a number above the counter that this step left behind
        obtain ⟨k, n, hn, heq⟩ := habove _ hmem
        have := (LayerKind.idFor_inj.mp heq).2
        omega

/-- Every layer was there at the start or was created. -/
theorem id_mem_createdIds (measure : Measurer α) (actions : List (Action α)) {d : Document α}
    {i : String} (hi : i ∈ (d.after measure actions).layers.map Layer.id) :
    i ∈ d.layers.map Layer.id ∨ i ∈ createdIds measure d actions := by
  induction actions generalizing d with
  | nil => exact .inl hi
  | cons a rest ih =>
    rw [createdIds, List.mem_append]
    rcases ih hi with hold | hnew
    · by_cases h : i ∈ d.layers.map Layer.id
      · exact .inl h
      · exact .inr (.inl (List.mem_diff_of_mem hold h))
    · exact .inr (.inr hnew)

/-! ## 4. The ids of a session -/

/-- **Ids in every session.**  Each layer has an id of its own kind with a number up to the counter;
no number occurs twice, so that a changed layer is put in at most one place; the counter never
falls; and no id is created twice, whatever was removed in between. -/
theorem session_ids (measure : Measurer α) (actions : List (Action α)) :
    let d := (empty : Document α).after measure actions
    (∀ l ∈ d.layers, ∃ n, 1 ≤ n ∧ n ≤ d.idCounter ∧ l.id = l.kind.idFor n) ∧
    (d.layers.Pairwise fun l m => ∀ i j, l.id = l.kind.idFor i → m.id = m.kind.idFor j → i ≠ j) ∧
    (d.layers.map Layer.id).Nodup ∧
    (∀ new, (d.replace new).layers = d.layers ∨
      ∃ before old after, d.layers = before ++ old :: after ∧ old.id = new.id ∧
        (d.replace new).layers = before ++ new :: after) ∧
    (∀ more, d.idCounter ≤ (d.after measure more).idCounter) ∧
    (createdIds measure empty actions).Nodup ∧
    (∀ l ∈ d.layers, l.id ∈ createdIds measure empty actions) := by
  intro d
  have hd : d.Numbered := numbered_after measure actions numbered_empty
  refine ⟨fun l hl => hd.spelled _ (List.mem_map_of_mem hl), List.pairwise_map.mp hd.distinct,
    hd.ids_nodup, Layer.replaceIn_cases hd.ids_nodup,
    fun more => idCounter_le_after measure more hd,
    (createdIds_above measure actions numbered_empty).2, fun l hl => ?_⟩
  rcases id_mem_createdIds measure actions (List.mem_map_of_mem hl) with h | h
  · exact absurd h List.not_mem_nil
  · exact h

/-- The number of a removed layer is not given again. -/
example :
    let actions : List (Action Rat) :=
      [.addVideo, .addText, .duplicate "video-1", .remove "text-2", .addText]
    ((empty.after .advance10 actions).layers.map Layer.id) = ["video-1", "video-3", "text-4"] ∧
      createdIds .advance10 empty actions = ["video-1", "text-2", "video-3", "text-4"] := by
  decide

end Document

end Compositor
