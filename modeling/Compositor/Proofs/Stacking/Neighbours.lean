import Compositor.Proofs.Stacking

/-!
# Raising and lowering on the pile

Raising a layer looks for its neighbour among the heights, whatever gaps there are between them, and
then gives new heights to two layers of the collection, which it tells by their ids.  On the pile,
with the layers listed from the bottom up, this is one thing: the layer changes places with the one
that stands next to it (`bottomUp_exchange`).

That needs heights that are distinct, so that the least of the heights above belongs to the layer
that stands next (`above?_eq_some`), and ids that are distinct, so that no third layer gets a new
height.  Up and down are then two views of one exchange: with `l` directly below `m`, to raise `l` is
to lower `m`, and what the one has done the other undoes.
-/

namespace Compositor

variable {α : Type}

/-! ## 1. Layers at other heights -/

namespace Layer

/-- The layer at another height. -/
def atHeight (l : Layer α) (z : Int) : Layer α := { l with zIndex := z }

@[simp] theorem id_atHeight (l : Layer α) (z : Int) : (l.atHeight z).id = l.id := rfl

@[simp] theorem zIndex_atHeight (l : Layer α) (z : Int) : (l.atHeight z).zIndex = z := rfl

@[simp] theorem atHeight_atHeight (l : Layer α) (y z : Int) :
    (l.atHeight y).atHeight z = l.atHeight z := rfl

@[simp] theorem atHeight_zIndex (l : Layer α) : l.atHeight l.zIndex = l := rfl

end Layer

namespace Stacking

/-! ## 2. The layer that stands next -/

/-- The first layer with the least key has the least key. -/
theorem leastBy_le {key : Layer α → Int} {layers : List (Layer α)} {l : Layer α}
    (h : leastBy key layers = some l) : ∀ k ∈ layers, key l ≤ key k := by
  cases layers with
  | nil => simp [leastBy] at h
  | cons first rest =>
    simp only [leastBy, Option.some.injEq] at h
    subst h
    induction rest generalizing first with
    | nil => simp
    | cons m rest ih =>
      simp only [List.foldl_cons]
      split
      · rename_i hless
        have hbest := ih m
        simp only [List.mem_cons, forall_eq_or_imp] at hbest ⊢
        exact ⟨by omega, hbest⟩
      · rename_i hless
        have hbest := ih first
        simp only [List.mem_cons, forall_eq_or_imp] at hbest ⊢
        exact ⟨hbest.1, by omega, hbest.2⟩

/-- Of the layers that satisfy `p`, the one whose key is less than that of every other is found. -/
theorem leastBy_filter_eq_some {key : Layer α → Int} {p : Layer α → Bool} {layers : List (Layer α)}
    {m : Layer α} (hm : m ∈ layers) (hp : p m = true)
    (hleast : ∀ k ∈ layers, p k = true → k ≠ m → key m < key k) :
    leastBy key (layers.filter p) = some m := by
  have hmem : m ∈ layers.filter p := List.mem_filter.mpr ⟨hm, hp⟩
  cases hfound : leastBy key (layers.filter p) with
  | none =>
    cases hall : layers.filter p with
    | nil => simp [hall] at hmem
    | cons first rest => simp [hall, leastBy] at hfound
  | some l =>
    have hlow := leastBy_le hfound m hmem
    obtain ⟨hl, hpl⟩ := List.mem_filter.mp (mem_of_leastBy hfound)
    by_cases hne : l = m
    · rw [hne]
    · have hhigh := hleast l hl hpl hne
      omega

/-- Where no layer satisfies `p`, none is found. -/
theorem leastBy_filter_eq_none {key : Layer α → Int} {p : Layer α → Bool} {layers : List (Layer α)}
    (h : ∀ k ∈ layers, ¬p k = true) : leastBy key (layers.filter p) = none := by
  rw [List.filter_eq_nil_iff.mpr h]
  rfl

variable {layers below above : List (Layer α)} {l m : Layer α}

/-- Where `l` stands directly below `m`, the others stand below or above both. -/
theorem heights_of_pile (hheights : (layers.map Layer.zIndex).Nodup)
    (hpile : bottomUp layers = below ++ l :: m :: above) :
    (∀ k ∈ below, k.zIndex < l.zIndex) ∧ l.zIndex < m.zIndex ∧
      ∀ k ∈ above, m.zIndex < k.zIndex := by
  have hstrict := (bottomUp_ascending layers).strict hheights
  rw [hpile, List.pairwise_append] at hstrict
  obtain ⟨-, hupper, hcross⟩ := hstrict
  simp only [List.pairwise_cons, List.mem_cons, forall_eq_or_imp] at hupper
  refine ⟨?_, hupper.1.1, hupper.2.1⟩
  intro k hk
  exact hcross k hk l List.mem_cons_self

/-- The layers are those of the pile. -/
theorem mem_iff_of_pile (hpile : bottomUp layers = below ++ l :: m :: above) {k : Layer α} :
    k ∈ layers ↔ k ∈ below ∨ k = l ∨ k = m ∨ k ∈ above := by
  rw [← (bottomUp_perm layers).mem_iff, hpile]
  simp only [List.mem_append, List.mem_cons]

/-- **The layer next above is the one that stands next.** -/
theorem above?_eq_some (hheights : (layers.map Layer.zIndex).Nodup)
    (hpile : bottomUp layers = below ++ l :: m :: above) : above? layers l = some m := by
  obtain ⟨hbelow, hlm, habove⟩ := heights_of_pile hheights hpile
  refine leastBy_filter_eq_some ((mem_iff_of_pile hpile).mpr (by simp)) (decide_eq_true hlm) ?_
  intro k hk hlk hne
  have hlk := of_decide_eq_true hlk
  rcases (mem_iff_of_pile hpile).mp hk with hk | rfl | rfl | hk
  · have := hbelow k hk
    omega
  · omega
  · exact absurd rfl hne
  · exact habove k hk

/-- **The layer next below is the one that stands next.** -/
theorem below?_eq_some (hheights : (layers.map Layer.zIndex).Nodup)
    (hpile : bottomUp layers = below ++ l :: m :: above) : below? layers m = some l := by
  obtain ⟨hbelow, hlm, habove⟩ := heights_of_pile hheights hpile
  refine leastBy_filter_eq_some ((mem_iff_of_pile hpile).mpr (by simp)) (decide_eq_true hlm) ?_
  intro k hk hkm hne
  have hkm := of_decide_eq_true hkm
  rcases (mem_iff_of_pile hpile).mp hk with hk | rfl | rfl | hk
  · have := hbelow k hk
    omega
  · exact absurd rfl hne
  · omega
  · have := habove k hk
    omega

/-- Above the top of the pile there is no layer. -/
theorem above?_eq_none (hpile : bottomUp layers = below ++ [l]) : above? layers l = none := by
  have hrising := (bottomUp_ascending layers).rising
  rw [hpile, List.pairwise_append] at hrising
  apply leastBy_filter_eq_none
  intro k hk
  rw [← (bottomUp_perm layers).mem_iff, hpile, List.mem_append, List.mem_singleton] at hk
  rcases hk with hk | rfl
  · have := hrising.2.2 k hk l (List.mem_singleton_self l)
    simp only [decide_eq_true_eq]
    omega
  · simp

/-- Below the bottom of the pile there is no layer. -/
theorem below?_eq_none (hpile : bottomUp layers = l :: above) : below? layers l = none := by
  have hrising := (bottomUp_ascending layers).rising
  rw [hpile, List.pairwise_cons] at hrising
  apply leastBy_filter_eq_none
  intro k hk
  rw [← (bottomUp_perm layers).mem_iff, hpile, List.mem_cons] at hk
  rcases hk with rfl | hk
  · simp
  · have := hrising.1 k hk
    simp only [decide_eq_true_eq]
    omega

/-! ## 3. The exchange of two that stand next to each other -/

/-- What an exchange makes of one layer. -/
def exchanged (l m k : Layer α) : Layer α :=
  if k.id == l.id then k.atHeight m.zIndex
  else if k.id == m.id then k.atHeight l.zIndex
  else k

/-- An exchange goes through the collection. -/
theorem exchange_eq_map (layers : List (Layer α)) (l m : Layer α) :
    exchange layers l m = layers.map (exchanged l m) := rfl

/-- Of two layers with different ids, either may be named first. -/
theorem exchange_comm (hne : l.id ≠ m.id) (layers : List (Layer α)) :
    exchange layers l m = exchange layers m l := by
  rw [exchange_eq_map, exchange_eq_map]
  apply List.map_congr_left
  intro k _
  unfold exchanged
  by_cases hl : k.id = l.id
  · simp [hl, hne]
  · simp [hl]

/-- An exchange changes no field but the height, and no place in the collection. -/
theorem map_atHeight_exchange (layers : List (Layer α)) (l m : Layer α) (z : Int) :
    (exchange layers l m).map (·.atHeight z) = layers.map (·.atHeight z) :=
  map_exchange (fun _ _ => rfl) layers l m

/-- Where `l` stands directly below `m`, no third layer has the id of either. -/
theorem ids_of_pile (hids : (layers.map Layer.id).Nodup) (hheights : (layers.map Layer.zIndex).Nodup)
    (hpile : bottomUp layers = below ++ l :: m :: above) :
    l.id ≠ m.id ∧ (∀ k ∈ below, k.id ≠ l.id ∧ k.id ≠ m.id) ∧
      ∀ k ∈ above, k.id ≠ l.id ∧ k.id ≠ m.id := by
  obtain ⟨hbelow, hlm, habove⟩ := heights_of_pile hheights hpile
  -- layers at different heights are different layers, and so have different ids
  have hdiffer : ∀ j k, j ∈ layers → k ∈ layers → j.zIndex < k.zIndex → j.id ≠ k.id := by
    intro j k hj hk hjk hid
    have hsame : j = k := List.inj_on_of_nodup_map hids hj hk hid
    rw [hsame] at hjk
    omega
  have hl : l ∈ layers := (mem_iff_of_pile hpile).mpr (by simp)
  have hm : m ∈ layers := (mem_iff_of_pile hpile).mpr (by simp)
  refine ⟨hdiffer l m hl hm hlm, ?_, ?_⟩
  · intro k hk
    have hmem : k ∈ layers := (mem_iff_of_pile hpile).mpr (.inl hk)
    have hkl := hbelow k hk
    exact ⟨hdiffer k l hmem hl hkl, hdiffer k m hmem hm (by omega)⟩
  · intro k hk
    have hmem : k ∈ layers := (mem_iff_of_pile hpile).mpr (.inr (.inr (.inr hk)))
    have hmk := habove k hk
    exact ⟨(hdiffer l k hl hmem (by omega)).symm, (hdiffer m k hm hmem hmk).symm⟩

/-- An exchange gives the two layers new heights where they stand. -/
theorem map_exchanged_pile (hids : (layers.map Layer.id).Nodup)
    (hheights : (layers.map Layer.zIndex).Nodup)
    (hpile : bottomUp layers = below ++ l :: m :: above) :
    (bottomUp layers).map (exchanged l m)
      = below ++ l.atHeight m.zIndex :: m.atHeight l.zIndex :: above := by
  obtain ⟨hlm, hbelow, habove⟩ := ids_of_pile hids hheights hpile
  have hkept : ∀ rest : List (Layer α), (∀ k ∈ rest, k.id ≠ l.id ∧ k.id ≠ m.id) →
      rest.map (exchanged l m) = rest := by
    intro rest hrest
    conv_rhs => rw [← List.map_id rest]
    apply List.map_congr_left
    intro k hk
    obtain ⟨hkl, hkm⟩ := hrest k hk
    simp [exchanged, hkl, hkm]
  have hl : exchanged l m l = l.atHeight m.zIndex := by simp [exchanged]
  have hm : exchanged l m m = m.atHeight l.zIndex := by simp [exchanged, hlm.symm]
  rw [hpile, List.map_append, List.map_cons, List.map_cons, hkept below hbelow, hkept above habove,
    hl, hm]

/-- **On the pile the two layers change places**, each at the height of the other, and all others
keep theirs. -/
theorem bottomUp_exchange (hids : (layers.map Layer.id).Nodup)
    (hheights : (layers.map Layer.zIndex).Nodup)
    (hpile : bottomUp layers = below ++ l :: m :: above) :
    bottomUp (exchange layers l m)
      = below ++ m.atHeight l.zIndex :: l.atHeight m.zIndex :: above := by
  have hl : l ∈ layers := (mem_iff_of_pile hpile).mpr (by simp)
  have hm : m ∈ layers := (mem_iff_of_pile hpile).mpr (by simp)
  have hsorted := bottomUp_ascending (exchange layers l m)
  have hnodup : ((exchange layers l m).map Layer.zIndex).Nodup :=
    exchange_heights_nodup hids hheights hl hm
  have hperm : (bottomUp (exchange layers l m)).Perm
      (below ++ m.atHeight l.zIndex :: l.atHeight m.zIndex :: above) := by
    have hold := (bottomUp_perm layers).map (exchanged l m)
    rw [map_exchanged_pile hids hheights hpile] at hold
    have hswap := (List.Perm.swap (m.atHeight l.zIndex) (l.atHeight m.zIndex) above).append_left below
    exact hsorted.perm.trans (hold.symm.trans hswap)
  -- the heights along the pile are what they were
  have hrising : (below ++ m.atHeight l.zIndex :: l.atHeight m.zIndex :: above).Pairwise
      fun j k => j.zIndex ≤ k.zIndex := by
    have hold := List.pairwise_map.mpr (bottomUp_ascending layers).rising
    rw [hpile] at hold
    apply List.pairwise_map.mp
    simpa using hold
  exact eq_of_perm_of_rising hperm ((hsorted.perm.map Layer.zIndex).nodup_iff.mpr hnodup)
    hsorted.rising hrising

/-- An exchange is undone by the exchange of the two layers as they are then. -/
theorem exchange_exchange (hids : (layers.map Layer.id).Nodup) (hl : l ∈ layers) (hm : m ∈ layers)
    (hne : l.id ≠ m.id) :
    exchange (exchange layers l m) (m.atHeight l.zIndex) (l.atHeight m.zIndex) = layers := by
  rw [exchange_eq_map, exchange_eq_map, List.map_map]
  conv_rhs => rw [← List.map_id layers]
  apply List.map_congr_left
  intro k hk
  by_cases hkl : k.id = l.id
  · have hsame : k = l := List.inj_on_of_nodup_map hids hk hl hkl
    simp [exchanged, hsame, hne]
  · by_cases hkm : k.id = m.id
    · have hsame : k = m := List.inj_on_of_nodup_map hids hk hm hkm
      simp [exchanged, hsame, hne.symm]
    · simp [exchanged, hkl, hkm]

/-! ## 4. Up and down -/

/-- An id is no layer's, or that of the top of the pile, or of a layer with another directly above. -/
theorem pile_cases (layers : List (Layer α)) (id : String) :
    id ∉ layers.map Layer.id ∨
    (∃ below l, bottomUp layers = below ++ [l] ∧ l.id = id) ∨
    ∃ below l m above, bottomUp layers = below ++ l :: m :: above ∧ l.id = id := by
  by_cases hmem : id ∈ layers.map Layer.id
  · obtain ⟨l, hl, hid⟩ := List.mem_map.mp hmem
    obtain ⟨below, rest, hpile⟩ := List.append_of_mem ((bottomUp_perm layers).mem_iff.mpr hl)
    cases rest with
    | nil => exact .inr (.inl ⟨below, l, hpile, hid⟩)
    | cons m above => exact .inr (.inr ⟨below, l, m, above, hpile, hid⟩)
  · exact .inl hmem

/-- An id is no layer's, or that of the bottom of the pile, or of a layer with another directly
below. -/
theorem pile_cases_below (layers : List (Layer α)) (id : String) :
    id ∉ layers.map Layer.id ∨
    (∃ m above, bottomUp layers = m :: above ∧ m.id = id) ∨
    ∃ below l m above, bottomUp layers = below ++ l :: m :: above ∧ m.id = id := by
  by_cases hmem : id ∈ layers.map Layer.id
  · obtain ⟨m, hm, hid⟩ := List.mem_map.mp hmem
    obtain ⟨rest, above, hpile⟩ := List.append_of_mem ((bottomUp_perm layers).mem_iff.mpr hm)
    rcases List.eq_nil_or_concat rest with rfl | ⟨below, l, rfl⟩
    · exact .inr (.inl ⟨m, above, hpile, hid⟩)
    · exact .inr (.inr ⟨below, l, m, above, by simpa using hpile, hid⟩)
  · exact .inl hmem

variable {neighbour? : List (Layer α) → Layer α → Option (Layer α)}

/-- Without a layer of this id nothing is exchanged. -/
theorem exchangeWith_of_not_mem {id : String} (h : id ∉ layers.map Layer.id) :
    exchangeWith neighbour? layers id = layers := by
  unfold exchangeWith
  cases hl : Layer.find? layers (some id) with
  | none => rfl
  | some l =>
    obtain ⟨hid, hmem⟩ := Layer.find?_some hl
    cases hid
    exact absurd (List.mem_map_of_mem hmem) h

/-- Without a neighbour nothing is exchanged. -/
theorem exchangeWith_of_none (hids : (layers.map Layer.id).Nodup) (hl : l ∈ layers)
    (h : neighbour? layers l = none) : exchangeWith neighbour? layers l.id = layers := by
  rw [exchangeWith, Layer.find?_of_mem hids hl]
  dsimp only
  rw [h]

/-- A layer is exchanged with its neighbour. -/
theorem exchangeWith_of_some (hids : (layers.map Layer.id).Nodup) (hl : l ∈ layers)
    (h : neighbour? layers l = some m) :
    exchangeWith neighbour? layers l.id = exchange layers l m := by
  rw [exchangeWith, Layer.find?_of_mem hids hl]
  dsimp only
  rw [h]

/-- **To raise a layer is to exchange it with the one that stands next above.** -/
theorem raise_of_pile (hids : (layers.map Layer.id).Nodup)
    (hheights : (layers.map Layer.zIndex).Nodup)
    (hpile : bottomUp layers = below ++ l :: m :: above) :
    raise layers l.id = exchange layers l m :=
  exchangeWith_of_some hids ((mem_iff_of_pile hpile).mpr (by simp)) (above?_eq_some hheights hpile)

/-- **To lower a layer is the same exchange**, with the one that stands next below. -/
theorem lower_of_pile (hids : (layers.map Layer.id).Nodup)
    (hheights : (layers.map Layer.zIndex).Nodup)
    (hpile : bottomUp layers = below ++ l :: m :: above) :
    lower layers m.id = exchange layers l m := by
  rw [exchange_comm (ids_of_pile hids hheights hpile).1]
  exact exchangeWith_of_some hids ((mem_iff_of_pile hpile).mpr (by simp))
    (below?_eq_some hheights hpile)

/-- The id of the layer that stands highest. -/
def OnTop (layers : List (Layer α)) (id : String) : Prop :=
  ∃ below l, bottomUp layers = below ++ [l] ∧ l.id = id

/-- The id of the layer that stands lowest. -/
def AtBottom (layers : List (Layer α)) (id : String) : Prop :=
  ∃ l above, bottomUp layers = l :: above ∧ l.id = id

/-- **The top cannot rise**, and neither can a layer that is not there. -/
theorem raise_of_onTop (hids : (layers.map Layer.id).Nodup) {id : String}
    (h : OnTop layers id ∨ id ∉ layers.map Layer.id) : raise layers id = layers := by
  rcases h with ⟨below, l, hpile, rfl⟩ | habsent
  · have hl : l ∈ layers := by
      rw [← (bottomUp_perm layers).mem_iff, hpile]
      simp
    exact exchangeWith_of_none hids hl (above?_eq_none hpile)
  · exact exchangeWith_of_not_mem habsent

/-- **The bottom cannot sink**, and neither can a layer that is not there. -/
theorem lower_of_atBottom (hids : (layers.map Layer.id).Nodup) {id : String}
    (h : AtBottom layers id ∨ id ∉ layers.map Layer.id) : lower layers id = layers := by
  rcases h with ⟨l, above, hpile, rfl⟩ | habsent
  · have hl : l ∈ layers := by
      rw [← (bottomUp_perm layers).mem_iff, hpile]
      simp
    exact exchangeWith_of_none hids hl (below?_eq_none hpile)
  · exact exchangeWith_of_not_mem habsent

/-- **Either way back.**  After the exchange the two stand next to each other as before, so the layer
that went up finds the same one below it, and the layer that went down finds the same one above. -/
theorem back_of_pile (hids : (layers.map Layer.id).Nodup)
    (hheights : (layers.map Layer.zIndex).Nodup)
    (hpile : bottomUp layers = below ++ l :: m :: above) :
    lower (exchange layers l m) l.id = layers ∧ raise (exchange layers l m) m.id = layers := by
  have hl : l ∈ layers := (mem_iff_of_pile hpile).mpr (by simp)
  have hm : m ∈ layers := (mem_iff_of_pile hpile).mpr (by simp)
  have hids' : ((exchange layers l m).map Layer.id).Nodup := by rwa [map_id_exchange]
  have hheights' := exchange_heights_nodup hids hheights hl hm
  have hpile' := bottomUp_exchange hids hheights hpile
  have hundone := exchange_exchange hids hl hm (ids_of_pile hids hheights hpile).1
  exact ⟨(lower_of_pile hids' hheights' hpile').trans hundone,
    (raise_of_pile hids' hheights' hpile').trans hundone⟩

/-! ## 5. The same layers, restacked -/

/-- `layers'` has the layers of `layers` in their order, each with every field but the height, and the
same heights. -/
structure Restacked (layers layers' : List (Layer α)) : Prop where
  fields : layers'.map (·.atHeight 0) = layers.map (·.atHeight 0)
  heights : (layers'.map Layer.zIndex).Perm (layers.map Layer.zIndex)

/-- What is left as it is has been restacked. -/
theorem Restacked.refl (layers : List (Layer α)) : Restacked layers layers := ⟨rfl, .refl _⟩

/-- An exchange of two that stand next to each other restacks. -/
theorem restacked_of_pile (hids : (layers.map Layer.id).Nodup)
    (hheights : (layers.map Layer.zIndex).Nodup)
    (hpile : bottomUp layers = below ++ l :: m :: above) :
    Restacked layers (exchange layers l m) where
  fields := map_atHeight_exchange layers l m 0
  heights := by
    have hnew := (bottomUp_perm (exchange layers l m)).map Layer.zIndex
    have hold := (bottomUp_perm layers).map Layer.zIndex
    rw [bottomUp_exchange hids hheights hpile] at hnew
    rw [hpile] at hold
    -- along the pile the heights are what they were
    simp only [List.map_append, List.map_cons, Layer.zIndex_atHeight] at hnew hold
    exact hnew.symm.trans hold

/-- To raise a layer restacks. -/
theorem restacked_raise (hids : (layers.map Layer.id).Nodup)
    (hheights : (layers.map Layer.zIndex).Nodup) (id : String) :
    Restacked layers (raise layers id) := by
  rcases pile_cases layers id with habsent | htop | ⟨below, l, m, above, hpile, rfl⟩
  · rw [raise_of_onTop hids (.inr habsent)]
    exact .refl layers
  · rw [raise_of_onTop hids (.inl htop)]
    exact .refl layers
  · rw [raise_of_pile hids hheights hpile]
    exact restacked_of_pile hids hheights hpile

/-- To lower a layer restacks. -/
theorem restacked_lower (hids : (layers.map Layer.id).Nodup)
    (hheights : (layers.map Layer.zIndex).Nodup) (id : String) :
    Restacked layers (lower layers id) := by
  rcases pile_cases_below layers id with habsent | hbottom | ⟨below, l, m, above, hpile, rfl⟩
  · rw [lower_of_atBottom hids (.inr habsent)]
    exact .refl layers
  · rw [lower_of_atBottom hids (.inl hbottom)]
    exact .refl layers
  · rw [lower_of_pile hids hheights hpile]
    exact restacked_of_pile hids hheights hpile

/-- **Up and down again**: what has not been on top comes back. -/
theorem lower_raise (hids : (layers.map Layer.id).Nodup)
    (hheights : (layers.map Layer.zIndex).Nodup) {id : String} (h : ¬OnTop layers id) :
    lower (raise layers id) id = layers := by
  rcases pile_cases layers id with habsent | htop | ⟨below, l, m, above, hpile, rfl⟩
  · rw [raise_of_onTop hids (.inr habsent), lower_of_atBottom hids (.inr habsent)]
  · exact absurd htop h
  · rw [raise_of_pile hids hheights hpile, (back_of_pile hids hheights hpile).1]

/-- **Down and up again**: what has not been at the bottom comes back. -/
theorem raise_lower (hids : (layers.map Layer.id).Nodup)
    (hheights : (layers.map Layer.zIndex).Nodup) {id : String} (h : ¬AtBottom layers id) :
    raise (lower layers id) id = layers := by
  rcases pile_cases_below layers id with habsent | hbottom | ⟨below, l, m, above, hpile, rfl⟩
  · rw [lower_of_atBottom hids (.inr habsent), raise_of_onTop hids (.inr habsent)]
  · exact absurd hbottom h
  · rw [lower_of_pile hids hheights hpile, (back_of_pile hids hheights hpile).2]

/-- **Raising and lowering are the exchange of neighbours on the pile.**  Where the layers have
distinct ids and distinct heights, both keep the collection but for the heights, which go from layer
to layer; a layer that is raised changes places with the one directly above it and with no other, a
layer that is lowered with the one directly below it; at the end of the pile, or for an id that no
layer has, nothing happens; and each undoes the other. -/
theorem neighbours_change_places {layers : List (Layer α)} (hids : (layers.map Layer.id).Nodup)
    (hheights : (layers.map Layer.zIndex).Nodup) (id : String) :
    (Restacked layers (raise layers id) ∧ Restacked layers (lower layers id)) ∧
    (OnTop layers id ∨ id ∉ layers.map Layer.id → raise layers id = layers) ∧
    (¬OnTop layers id → id ∈ layers.map Layer.id →
      ∃ below l m above, bottomUp layers = below ++ l :: m :: above ∧ l.id = id ∧
        bottomUp (raise layers id)
          = below ++ m.atHeight l.zIndex :: l.atHeight m.zIndex :: above) ∧
    (AtBottom layers id ∨ id ∉ layers.map Layer.id → lower layers id = layers) ∧
    (¬AtBottom layers id → id ∈ layers.map Layer.id →
      ∃ below l m above, bottomUp layers = below ++ l :: m :: above ∧ m.id = id ∧
        bottomUp (lower layers id)
          = below ++ m.atHeight l.zIndex :: l.atHeight m.zIndex :: above) ∧
    (¬OnTop layers id → lower (raise layers id) id = layers) ∧
    (¬AtBottom layers id → raise (lower layers id) id = layers) := by
  refine ⟨⟨restacked_raise hids hheights id, restacked_lower hids hheights id⟩,
    raise_of_onTop hids, ?_, lower_of_atBottom hids, ?_, lower_raise hids hheights,
    raise_lower hids hheights⟩
  · intro htop hmem
    rcases pile_cases layers id with habsent | honTop | ⟨below, l, m, above, hpile, rfl⟩
    · exact absurd hmem habsent
    · exact absurd honTop htop
    · refine ⟨below, l, m, above, hpile, rfl, ?_⟩
      rw [raise_of_pile hids hheights hpile]
      exact bottomUp_exchange hids hheights hpile
  · intro hbottom hmem
    rcases pile_cases_below layers id with habsent | hatBottom | ⟨below, l, m, above, hpile, rfl⟩
    · exact absurd hmem habsent
    · exact absurd hatBottom hbottom
    · refine ⟨below, l, m, above, hpile, rfl, ?_⟩
      rw [lower_of_pile hids hheights hpile]
      exact bottomUp_exchange hids hheights hpile

/-- Three layers with gaps between their heights, listed in another order than they lie: the lowest
of them goes up by one and comes back. -/
theorem neighbours_change_places_gaps :
    let a : Layer Rat := ⟨"a", "A", 0, 0, true, 7, .video ⟨320, 180, false, 1⟩⟩
    let b : Layer Rat := ⟨"b", "B", 10, 20, false, -2, .video ⟨64, 64, true, 1⟩⟩
    let c : Layer Rat := ⟨"c", "C", 0, 0, true, 40, .video ⟨320, 180, false, 1⟩⟩
    (([a, b, c].map Layer.id).Nodup ∧ ([a, b, c].map Layer.zIndex).Nodup ∧
      ¬OnTop [a, b, c] "b" ∧ ¬AtBottom [a, b, c] "c") ∧
    lower (raise [a, b, c] "b") "b" = [a, b, c] ∧ raise (lower [a, b, c] "c") "c" = [a, b, c] := by
  intro a b c
  have hpile : bottomUp [a, b, c] = [b, a, c] := by
    refine eq_of_perm_of_rising ((bottomUp_perm _).trans (.swap b a [c])) ?_
      (bottomUp_ascending _).rising (by decide)
    exact ((bottomUp_perm _).map Layer.zIndex).nodup_iff.mpr (by decide)
  have hids : ([a, b, c].map Layer.id).Nodup := by decide
  have hheights : ([a, b, c].map Layer.zIndex).Nodup := by decide
  have htop : ¬OnTop [a, b, c] "b" := by
    rintro ⟨below, l, hbelow, hid⟩
    have hlast := congrArg List.getLast? (hpile.symm.trans hbelow)
    simp only [List.getLast?_cons_cons, List.getLast?_singleton, List.getLast?_concat,
      Option.some.injEq] at hlast
    rw [← hlast] at hid
    exact absurd hid (by decide)
  have hbottom : ¬AtBottom [a, b, c] "c" := by
    rintro ⟨l, above, habove, hid⟩
    have hfirst := (List.cons.inj (hpile.symm.trans habove)).1
    rw [← hfirst] at hid
    exact absurd hid (by decide)
  exact ⟨⟨hids, hheights, htop, hbottom⟩,
    (neighbours_change_places hids hheights "b").2.2.2.2.2.1 htop,
    (neighbours_change_places hids hheights "c").2.2.2.2.2.2 hbottom⟩

end Stacking

end Compositor
