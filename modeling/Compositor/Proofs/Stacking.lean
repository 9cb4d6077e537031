import Compositor.Stacking
import Mathlib.Data.List.Nodup

/-!
# Facts about the pile

`Ascending` says what it is to list layers from the bottom up without naming a way to sort them: the
z-indices do not fall, and layers of one z-index stand in the order of the collection.  `bottomUp`
lists its layers in this way, and so does what is left of that list when layers are dropped.  There
is no second such list, so whatever lists the layers so is `bottomUp`.  Where no two layers are at
one height, the reading from the top down is the same list reversed (`topDown_eq_reverse`); with
layers at one height it is not, since both readings keep these in the order of the collection.

The other facts are about the two operations that change z-indices: a new layer goes above all that
are there, and an exchange leaves every field but the z-index alone.  Two layers with one id would
be changed together, so what is said about a single layer asks for distinct ids.
-/

namespace Compositor

variable {α : Type}

namespace Stacking

/-! ## 1. From the bottom up -/

/-- `sorted` lists `layers` from the bottom up, with the layers of one z-index in their order. -/
structure Ascending (layers sorted : List (Layer α)) : Prop where
  perm : sorted.Perm layers
  rising : sorted.Pairwise fun l m => l.zIndex ≤ m.zIndex
  stable : ∀ z, sorted.filter (·.zIndex == z) = layers.filter (·.zIndex == z)

/-- **From the bottom up, and stable.** -/
theorem bottomUp_ascending (layers : List (Layer α)) : Ascending layers (bottomUp layers) := by
  have htrans : ∀ a b c : Layer α, decide (a.zIndex ≤ b.zIndex) → decide (b.zIndex ≤ c.zIndex) →
      decide (a.zIndex ≤ c.zIndex) := by
    simp only [decide_eq_true_eq]
    intro a b c
    exact Int.le_trans
  have htotal : ∀ a b : Layer α,
      (decide (a.zIndex ≤ b.zIndex) || decide (b.zIndex ≤ a.zIndex)) = true := by
    simp only [Bool.or_eq_true, decide_eq_true_eq]
    intro a b
    exact Int.le_total ..
  refine ⟨bottomUp_perm layers, ?_, fun z => ?_⟩
  · exact (List.pairwise_mergeSort htrans htotal layers).imp of_decide_eq_true
  · -- the layers of height `z` are a sorted part of `layers`, which sorting keeps in one piece
    have hsorted : (layers.filter (·.zIndex == z)).Pairwise
        fun a b => decide (a.zIndex ≤ b.zIndex) = true := by
      rw [List.pairwise_iff_forall_sublist]
      intro a b hab
      have ha := (List.mem_filter.mp (hab.subset List.mem_cons_self)).2
      have hb := (List.mem_filter.mp (hab.subset (List.mem_cons_of_mem _ List.mem_cons_self))).2
      rw [beq_iff_eq] at ha hb
      exact decide_eq_true (Int.le_of_eq (ha.trans hb.symm))
    have hsub : List.Sublist (layers.filter (·.zIndex == z)) (bottomUp layers) :=
      List.sublist_mergeSort htrans htotal hsorted List.filter_sublist
    have hsub' := hsub.filter (·.zIndex == z)
    rw [List.filter_filter, List.filter_congr fun l _ => Bool.and_self _] at hsub'
    exact (hsub'.eq_of_length (((bottomUp_perm layers).filter _).length_eq).symm).symm

/-- A collection that rises lists itself from the bottom up. -/
theorem Ascending.of_rising {layers : List (Layer α)}
    (h : layers.Pairwise fun l m => l.zIndex ≤ m.zIndex) : Ascending layers layers :=
  ⟨.refl _, h, fun _ => rfl⟩

/-- Layers can be dropped before or after the others are put in order. -/
theorem Ascending.filter {layers sorted : List (Layer α)} (h : Ascending layers sorted)
    (p : Layer α → Bool) : Ascending (layers.filter p) (sorted.filter p) where
  perm := h.perm.filter p
  rising := h.rising.filter p
  stable z := by
    rw [List.filter_comm, h.stable z, List.filter_comm]

/-- Where no two layers have one z-index, each lies strictly above those before it. -/
theorem Ascending.strict {layers sorted : List (Layer α)} (h : Ascending layers sorted)
    (hheights : (layers.map Layer.zIndex).Nodup) :
    sorted.Pairwise fun l m => l.zIndex < m.zIndex := by
  have hne : sorted.Pairwise fun l m => l.zIndex ≠ m.zIndex :=
    List.pairwise_map.mp ((h.perm.map Layer.zIndex).nodup_iff.mpr hheights)
  exact (h.rising.and hne).imp fun hlm => Int.lt_iff_le_and_ne.mpr hlm

/-- A rising list is told by its layers of each height. -/
theorem eq_of_rising {as bs : List (Layer α)} (has : as.Pairwise fun l m => l.zIndex ≤ m.zIndex)
    (hbs : bs.Pairwise fun l m => l.zIndex ≤ m.zIndex)
    (h : ∀ z, as.filter (·.zIndex == z) = bs.filter (·.zIndex == z)) : as = bs := by
  have hmem : ∀ l, l ∈ as ↔ l ∈ bs := fun l => by
    simpa using congrArg (l ∈ ·) (h l.zIndex)
  induction as generalizing bs with
  | nil =>
    cases bs with
    | nil => rfl
    | cons b bs => exact absurd ((hmem b).mpr List.mem_cons_self) List.not_mem_nil
  | cons a as ih =>
    cases bs with
    | nil => exact absurd ((hmem a).mp List.mem_cons_self) List.not_mem_nil
    | cons b bs =>
      obtain ⟨hlow, has'⟩ := List.pairwise_cons.mp has
      obtain ⟨hlow', hbs'⟩ := List.pairwise_cons.mp hbs
      -- each of the two heads lies in the other list, so they have one height
      have hab : b.zIndex = a.zIndex := by
        have hb := (hmem b).mpr List.mem_cons_self
        have ha := (hmem a).mp List.mem_cons_self
        grind
      have hhead := h a.zIndex
      simp only [List.filter_cons, hab, beq_self_eq_true, if_true, List.cons.injEq] at hhead
      obtain ⟨rfl, -⟩ := hhead
      have htail : ∀ z, as.filter (·.zIndex == z) = bs.filter (·.zIndex == z) := fun z => by
        have hz := h z
        rw [List.filter_cons, List.filter_cons] at hz
        split at hz
        · exact (List.cons.inj hz).2
        · exact hz
      exact congrArg (a :: ·)
        (ih has' hbs' htail fun l => by simpa using congrArg (l ∈ ·) (htail l.zIndex))

/-- **There is one way from the bottom up.** -/
theorem Ascending.unique {layers as bs : List (Layer α)} (ha : Ascending layers as)
    (hb : Ascending layers bs) : as = bs :=
  eq_of_rising ha.rising hb.rising fun z => (ha.stable z).trans (hb.stable z).symm

/-- Layers of distinct heights rise in one way only. -/
theorem eq_of_perm_of_rising {as bs : List (Layer α)} (hperm : as.Perm bs)
    (hheights : (as.map Layer.zIndex).Nodup) (has : as.Pairwise fun l m => l.zIndex ≤ m.zIndex)
    (hbs : bs.Pairwise fun l m => l.zIndex ≤ m.zIndex) : as = bs := by
  refine List.Perm.eq_of_pairwise (fun a b ha hb hab hba => ?_) has hbs hperm
  exact List.inj_on_of_nodup_map hheights ha (hperm.mem_iff.mpr hb) (Int.le_antisymm hab hba)

/-- Layers of distinct heights can come in any order. -/
theorem Ascending.of_perm {layers layers' sorted : List (Layer α)} (h : Ascending layers sorted)
    (hperm : layers.Perm layers') (hheights : (layers.map Layer.zIndex).Nodup) :
    Ascending layers' sorted := by
  have h' := bottomUp_ascending layers'
  have hsorted : sorted = bottomUp layers' :=
    eq_of_perm_of_rising (h.perm.trans (hperm.trans h'.perm.symm))
      ((h.perm.map Layer.zIndex).nodup_iff.mpr hheights) h.rising h'.rising
  exact hsorted ▸ h'

/-- Layers can be given other heights before or after they are put in order, if each of them stays
above the same ones. -/
theorem Ascending.map {layers sorted : List (Layer α)} (h : Ascending layers sorted)
    {f : Layer α → Layer α}
    (hf : ∀ l ∈ layers, ∀ m ∈ layers, (f l).zIndex ≤ (f m).zIndex ↔ l.zIndex ≤ m.zIndex) :
    Ascending (layers.map f) (sorted.map f) where
  perm := h.perm.map f
  rising := by
    rw [List.pairwise_map]
    refine h.rising.imp_of_mem fun {l m} hl hm hlm => ?_
    exact (hf l (h.perm.mem_iff.mp hl) m (h.perm.mem_iff.mp hm)).mpr hlm
  stable z := by
    rw [List.filter_map, List.filter_map]
    by_cases hz : ∃ l ∈ layers, (f l).zIndex = z
    · obtain ⟨l, hl, rfl⟩ := hz
      -- to have the new height of `l` is to have had its old one
      have hsame : ∀ m ∈ layers, ((·.zIndex == (f l).zIndex) ∘ f) m = (m.zIndex == l.zIndex) := by
        intro m hm
        have h1 := hf l hl m hm
        have h2 := hf m hm l hl
        rw [Function.comp_apply, Bool.eq_iff_iff, beq_iff_eq, beq_iff_eq]
        omega
      rw [List.filter_congr hsame, List.filter_congr fun m hm => hsame m (h.perm.mem_iff.mp hm),
        h.stable]
    · have hnone : ∀ m ∈ layers, ¬((·.zIndex == z) ∘ f) m = true := fun m hm hmz =>
        hz ⟨m, hm, eq_of_beq hmz⟩
      rw [List.filter_eq_nil_iff.mpr hnone,
        List.filter_eq_nil_iff.mpr fun m hm => hnone m (h.perm.mem_iff.mp hm)]

/-- From the top down, the z-indices do not rise. -/
theorem topDown_falling (layers : List (Layer α)) :
    (topDown layers).Pairwise fun l m => m.zIndex ≤ l.zIndex := by
  have htrans : ∀ a b c : Layer α, decide (b.zIndex ≤ a.zIndex) → decide (c.zIndex ≤ b.zIndex) →
      decide (c.zIndex ≤ a.zIndex) := by
    simp only [decide_eq_true_eq]
    intro a b c hab hbc
    exact Int.le_trans hbc hab
  have htotal : ∀ a b : Layer α,
      (decide (b.zIndex ≤ a.zIndex) || decide (a.zIndex ≤ b.zIndex)) = true := by
    simp only [Bool.or_eq_true, decide_eq_true_eq]
    intro a b
    exact Int.le_total ..
  exact (List.pairwise_mergeSort htrans htotal layers).imp of_decide_eq_true

/-- **On distinct heights the two readings of the pile are each other's reverse.** -/
theorem topDown_eq_reverse {layers : List (Layer α)}
    (hheights : (layers.map Layer.zIndex).Nodup) : topDown layers = (bottomUp layers).reverse := by
  have hbottom := bottomUp_ascending layers
  have hperm : (bottomUp layers).Perm (topDown layers).reverse :=
    hbottom.perm.trans ((topDown_perm layers).symm.trans (List.reverse_perm _).symm)
  have hrising : (topDown layers).reverse.Pairwise fun l m => l.zIndex ≤ m.zIndex :=
    List.pairwise_reverse.mpr (topDown_falling layers)
  rw [eq_of_perm_of_rising hperm ((hbottom.perm.map Layer.zIndex).nodup_iff.mpr hheights)
    hbottom.rising hrising, List.reverse_reverse]

/-! ## 2. Above everything -/

/-- The larger of two z-indices is at least both. -/
theorem le_higher (a b : Int) : a ≤ higher a b ∧ b ≤ higher a b := by
  unfold higher
  split <;> omega

/-- The larger of two z-indices is one of them. -/
theorem higher_le {a b c : Int} (ha : a ≤ c) (hb : b ≤ c) : higher a b ≤ c := by
  unfold higher
  split <;> assumption

/-- The largest z-index on the way is at least the one at the start and all that come. -/
theorem le_foldl_higher (rest : List (Layer α)) (z : Int) :
    z ≤ rest.foldl (fun z m => higher z m.zIndex) z ∧
      ∀ l ∈ rest, l.zIndex ≤ rest.foldl (fun z m => higher z m.zIndex) z := by
  induction rest generalizing z with
  | nil => exact ⟨Int.le_refl z, fun l hl => nomatch hl⟩
  | cons m rest ih =>
    obtain ⟨hz, hrest⟩ := ih (higher z m.zIndex)
    obtain ⟨h1, h2⟩ := le_higher z m.zIndex
    rw [List.foldl_cons]
    refine ⟨Int.le_trans h1 hz, fun l hl => ?_⟩
    rcases List.mem_cons.mp hl with rfl | hl
    · exact Int.le_trans h2 hz
    · exact hrest l hl

/-- The largest z-index on the way stays under a common bound. -/
theorem foldl_higher_le {rest : List (Layer α)} {z c : Int} (hz : z ≤ c)
    (hrest : ∀ l ∈ rest, l.zIndex ≤ c) : rest.foldl (fun z m => higher z m.zIndex) z ≤ c := by
  induction rest generalizing z with
  | nil => exact hz
  | cons m rest ih =>
    exact ih (higher_le hz (hrest m List.mem_cons_self))
      fun l hl => hrest l (List.mem_cons_of_mem m hl)

/-- **A new layer goes above every layer that is there.** -/
theorem lt_nextZ {layers : List (Layer α)} {l : Layer α} (hl : l ∈ layers) :
    l.zIndex < nextZ layers := by
  cases layers with
  | nil => exact nomatch hl
  | cons first rest =>
    obtain ⟨hfirst, hrest⟩ := le_foldl_higher rest first.zIndex
    rw [nextZ, Int.lt_add_one_iff]
    rcases List.mem_cons.mp hl with rfl | hl
    · exact hfirst
    · exact hrest l hl

/-- The next z-index is at most one above a bound that is not negative. -/
theorem nextZ_le {layers : List (Layer α)} {c : Int} (hc : 0 ≤ c)
    (h : ∀ l ∈ layers, l.zIndex ≤ c) : nextZ layers ≤ c + 1 := by
  cases layers with
  | nil =>
    rw [nextZ]
    omega
  | cons first rest =>
    rw [nextZ, Int.add_le_add_iff_right]
    exact foldl_higher_le (h first List.mem_cons_self)
      fun l hl => h l (List.mem_cons_of_mem first hl)

/-- The next z-index is at least one when all others are. -/
theorem one_le_nextZ {layers : List (Layer α)} (h : ∀ l ∈ layers, 1 ≤ l.zIndex) :
    1 ≤ nextZ layers := by
  cases layers with
  | nil => exact Int.le_refl 1
  | cons first rest =>
    have hfirst : 1 ≤ first.zIndex := h first List.mem_cons_self
    have hlt : first.zIndex < nextZ (first :: rest) := lt_nextZ List.mem_cons_self
    omega

/-! ## 3. Neighbours and their exchange -/

/-- The first layer with the least key is one of the layers. -/
theorem mem_of_leastBy {key : Layer α → Int} {layers : List (Layer α)} {l : Layer α}
    (h : leastBy key layers = some l) : l ∈ layers := by
  cases layers with
  | nil => exact nomatch h
  | cons first rest =>
    cases h
    induction rest generalizing first with
    | nil => exact List.mem_singleton_self _
    | cons m rest ih =>
      rw [List.foldl_cons]
      split
      · exact List.mem_cons_of_mem _ (ih m)
      · rcases List.mem_cons.mp (ih first) with h | h
        · rw [h]
          exact List.mem_cons_self
        · exact List.mem_cons_of_mem _ (List.mem_cons_of_mem _ h)

/-- An exchange keeps whatever does not depend on the z-index. -/
theorem map_exchange {β : Type} {g : Layer α → β} (hg : ∀ l z, g { l with zIndex := z } = g l)
    (layers : List (Layer α)) (a b : Layer α) : (exchange layers a b).map g = layers.map g := by
  unfold exchange
  rw [List.map_map]
  apply List.map_congr_left
  intro l _
  simp only [Function.comp_apply]
  split
  · exact hg ..
  · split
    · exact hg ..
    · rfl

/-- Raising and lowering keep whatever does not depend on the z-index. -/
theorem map_exchangeWith {β : Type} {g : Layer α → β} (hg : ∀ l z, g { l with zIndex := z } = g l)
    (neighbour? : List (Layer α) → Layer α → Option (Layer α)) (layers : List (Layer α))
    (id : String) : (exchangeWith neighbour? layers id).map g = layers.map g := by
  unfold exchangeWith
  split
  · rfl
  · split
    · rfl
    · exact map_exchange hg layers _ _

/-- An exchange brings no z-index that was not there. -/
theorem exchange_heights_subset {layers : List (Layer α)} {a b : Layer α} (ha : a ∈ layers)
    (hb : b ∈ layers) : (exchange layers a b).map Layer.zIndex ⊆ layers.map Layer.zIndex := by
  intro z hz
  rw [exchange, List.map_map] at hz
  obtain ⟨l, hl, rfl⟩ := List.mem_map.mp hz
  simp only [Function.comp_apply]
  split
  · exact List.mem_map.mpr ⟨b, hb, rfl⟩
  · split
    · exact List.mem_map.mpr ⟨a, ha, rfl⟩
    · exact List.mem_map.mpr ⟨l, hl, rfl⟩

/-- With distinct ids an exchange gives each of the two layers the z-index of the other, and so no
two layers get the same one. -/
theorem exchange_heights_nodup {layers : List (Layer α)} {a b : Layer α}
    (hids : (layers.map Layer.id).Nodup) (hheights : (layers.map Layer.zIndex).Nodup)
    (ha : a ∈ layers) (hb : b ∈ layers) : ((exchange layers a b).map Layer.zIndex).Nodup := by
  have hid := fun {l m} => List.inj_on_of_nodup_map hids (x := l) (y := m)
  have hz := fun {l m} => List.inj_on_of_nodup_map hheights (x := l) (y := m)
  unfold exchange
  rw [List.map_map]
  refine List.Nodup.map_on (fun l hl m hm hlm => ?_) hids.of_map
  simp only [Function.comp_apply, beq_iff_eq] at hlm
  -- equal z-indices can only be those of one layer, and equal ids, too
  grind

end Stacking

/-! ## 4. One layer in the place of another -/

/-- With distinct ids, a layer put in the place of another keeps what the two agree on. -/
theorem Layer.map_replaceIn {β : Type} {g : Layer α → β} {layers : List (Layer α)}
    {old new : Layer α} (hids : (layers.map Layer.id).Nodup) (hold : old ∈ layers)
    (hid : new.id = old.id) (hg : g new = g old) :
    (Layer.replaceIn layers new).map g = layers.map g := by
  unfold Layer.replaceIn
  rw [List.map_map]
  apply List.map_congr_left
  intro l hl
  simp only [Function.comp_apply, beq_iff_eq]
  split
  · rename_i h
    rw [hg, List.inj_on_of_nodup_map hids hl hold (h.trans hid)]
  · rfl

/-- Changed layers are found where they were, if they keep their ids. -/
theorem Layer.find?_map {h : Layer α → Layer α} (hid : ∀ l, (h l).id = l.id)
    (layers : List (Layer α)) (id : String) :
    Layer.find? (layers.map h) (some id) = (Layer.find? layers (some id)).map h := by
  have hsame : ((·.id == id) ∘ h) = fun l : Layer α => l.id == id := by
    funext l
    rw [Function.comp_apply, hid]
  dsimp only [Layer.find?]
  rw [List.find?_map, hsame]

/-- A layer is found under its id if no different layer has that id. -/
theorem Layer.find?_of_alone {layers : List (Layer α)} {l : Layer α} (hl : l ∈ layers)
    (halone : ∀ m ∈ layers, m.id = l.id → m = l) : Layer.find? layers (some l.id) = some l := by
  have hsome : (Layer.find? layers (some l.id)).isSome = true :=
    List.find?_isSome.mpr ⟨l, hl, beq_self_eq_true l.id⟩
  obtain ⟨m, hm⟩ := Option.isSome_iff_exists.mp hsome
  obtain ⟨hid, hmem⟩ := Layer.find?_some hm
  rw [hm, halone m hmem (Option.some.inj hid).symm]

/-- With distinct ids each layer is found under its own. -/
theorem Layer.find?_of_mem {layers : List (Layer α)} (hids : (layers.map Layer.id).Nodup)
    {l : Layer α} (hl : l ∈ layers) : Layer.find? layers (some l.id) = some l :=
  find?_of_alone hl fun _ hm hid => List.inj_on_of_nodup_map hids hm hl hid

/-- A layer changes nothing in its own place, if no different layer has its id. -/
theorem Layer.replaceIn_of_alone {layers : List (Layer α)} {l : Layer α}
    (halone : ∀ m ∈ layers, m.id = l.id → m = l) : Layer.replaceIn layers l = layers := by
  unfold Layer.replaceIn
  conv_rhs => rw [← List.map_id layers]
  apply List.map_congr_left
  intro m hm
  split
  · rename_i hid
    exact (halone m hm (eq_of_beq hid)).symm
  · rfl

/-- A layer whose id no other has is put in the place of none. -/
theorem Layer.replaceIn_of_not_mem {layers : List (Layer α)} {new : Layer α}
    (h : new.id ∉ layers.map Layer.id) : Layer.replaceIn layers new = layers :=
  replaceIn_of_alone fun _ hm hid => absurd (hid ▸ List.mem_map_of_mem hm) h

/-- Of two layers put in one place, the later one stays. -/
theorem Layer.replaceIn_replaceIn (layers : List (Layer α)) {l m : Layer α} (hid : m.id = l.id) :
    Layer.replaceIn (Layer.replaceIn layers l) m = Layer.replaceIn layers m := by
  unfold Layer.replaceIn
  rw [List.map_map]
  apply List.map_congr_left
  intro k _
  by_cases hk : k.id = l.id <;> simp [hk, hid]

/-- A layer that was put in a place is found there. -/
theorem Layer.find?_replaceIn {layers : List (Layer α)} {id : String} {old new : Layer α}
    (hold : Layer.find? layers (some id) = some old) (hid : new.id = id) :
    Layer.find? (Layer.replaceIn layers new) (some id) = some new := by
  have hfound : old.id = id := (Option.some.inj (Layer.find?_some hold).1).symm
  have hkept : ∀ l : Layer α, (if (l.id == new.id) = true then new else l).id = l.id := by
    intro l
    by_cases h : l.id = new.id <;> simp [h]
  unfold Layer.replaceIn
  rw [Layer.find?_map hkept, hold, Option.map_some, hfound, hid, if_pos (beq_self_eq_true id)]

/-- With distinct ids a layer is put in the place of the one with its id, and in no other. -/
theorem Layer.replaceIn_append_cons {before after : List (Layer α)} {old new : Layer α}
    (hids : ((before ++ old :: after).map Layer.id).Nodup) (hid : old.id = new.id) :
    Layer.replaceIn (before ++ old :: after) new = before ++ new :: after := by
  rw [List.map_append, List.map_cons, hid, List.nodup_middle, List.nodup_cons, List.mem_append,
    not_or] at hids
  have hbefore := Layer.replaceIn_of_not_mem hids.1.1
  have hafter := Layer.replaceIn_of_not_mem hids.1.2
  unfold Layer.replaceIn at hbefore hafter ⊢
  rw [List.map_append, List.map_cons, hbefore, hafter, if_pos (by simpa using hid)]

/-- With distinct ids a layer is put in at most one place. -/
theorem Layer.replaceIn_cases {layers : List (Layer α)} (hids : (layers.map Layer.id).Nodup)
    (new : Layer α) :
    Layer.replaceIn layers new = layers ∨
      ∃ before old after, layers = before ++ old :: after ∧ old.id = new.id ∧
        Layer.replaceIn layers new = before ++ new :: after := by
  by_cases h : new.id ∈ layers.map Layer.id
  · obtain ⟨old, hold, hid⟩ := List.mem_map.mp h
    obtain ⟨before, after, rfl⟩ := List.append_of_mem hold
    exact .inr ⟨before, old, after, rfl, hid, Layer.replaceIn_append_cons hids hid⟩
  · exact .inl (Layer.replaceIn_of_not_mem h)

end Compositor
