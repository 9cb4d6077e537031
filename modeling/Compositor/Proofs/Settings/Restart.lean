import Compositor.Proofs.Settings.Limits

/-!
# Preferences after a restart

A keeper stores the preferences of every document that a session tells, each when it differs from
the one that was told last.  So after the first document every preference is in the store, as it was
when it last changed; and as long as it is called the same, it equals that of the session's document
(`Keeper.Holds`).  It need not be identical to it, since the two zeros are equal.

What the next session reads is not what was stored, though.  Switches are read as switches and the
opacity as a number, but the distance of the grid lines is cut to a whole number, while a session
can set it to any number.  The distance comes back exactly if it is whole.
-/

namespace Compositor

variable {α : Type}

/-! ## 1. What is found in a store -/

namespace Store

/-- Where an entry is replaced, those under other keys stay. -/
theorem lookup_map_replace_of_ne {key other : String} (hne : other ≠ key) (value : Raw α)
    (entries : List (String × Raw α)) :
    (entries.map fun e => if e.1 == key then (key, value) else e).lookup other
      = entries.lookup other := by
  induction entries with
  | nil => rfl
  | cons e rest ih =>
    obtain ⟨k, v⟩ := e
    by_cases hk : k = key
    · simp [hk, List.lookup_cons, beq_eq_false_iff_ne.mpr hne, ← ih]
    · simp [hk, List.lookup_cons, ← ih]

/-- What is stored under one key leaves the values under all others. -/
theorem find?_set_of_ne (s : Store α) {key other : String} (hne : other ≠ key) (value : Raw α) :
    (s.set key value).find? other = s.find? other := by
  have hlookup : (s.set key value).entries.lookup other = s.entries.lookup other := by
    unfold set
    split
    · exact lookup_map_replace_of_ne hne value s.entries
    · rw [List.lookup_append, List.lookup_cons, beq_eq_false_iff_ne.mpr hne]
      exact Option.or_none
  unfold find?
  rw [hlookup]

end Store

/-- No two preferences are stored under one key. -/
theorem Preference.key_injective : Function.Injective Preference.key := by
  intro p q h
  cases p <;> cases q <;> first | rfl | exact absurd h (by decide)

/-- Every preference is stored. -/
theorem Preference.mem_all (p : Preference) : p ∈ all := by
  cases p <;> decide

/-- A preference is a value. -/
theorem Preferences.value_ne_null (now : Preferences α) (p : Preference) :
    now.value p ≠ .null := by
  cases p <;> exact fun h => nomatch h

/-- After preferences were stored, each of them is found, and every other one as before. -/
theorem Store.find?_setAll (now : Preferences α) (ps : List Preference) (s : Store α)
    (p : Preference) :
    (s.setAll (ps.map fun q => (q.key, now.value q))).find? p.key
      = if p ∈ ps then some (now.value p) else s.find? p.key := by
  induction ps generalizing s with
  | nil => rfl
  | cons q rest ih =>
    have hcons : s.setAll ((q :: rest).map fun q => (q.key, now.value q))
        = (s.set q.key (now.value q)).setAll (rest.map fun q => (q.key, now.value q)) := rfl
    rw [hcons, ih]
    by_cases hrest : p ∈ rest
    · simp [hrest]
    · by_cases hpq : p = q
      · subst hpq
        rw [if_neg hrest, if_pos List.mem_cons_self,
          find?_set_self s p.key _ (now.value_ne_null p)]
      · rw [if_neg hrest, if_neg (by simp [hrest, hpq]),
          find?_set_of_ne s fun h => hpq (Preference.key_injective h)]

/-! ## 2. What a keeper has stored -/

variable [Scalar α]

/-- The preferences that were told last, and of each one a value in the store that is the same or
equal. -/
structure Keeper.Holds (k : Keeper α) (now : Preferences α) : Prop where
  last : k.last = some now
  stored : ∀ p, ∃ w : Preferences α, k.store.find? p.key = some (w.value p) ∧
    (w.value p = now.value p ∨ w.agree now p = true)

/-- Preferences that agree with others agree with what those agree with. -/
theorem Preferences.agree_trans [Scalar.Lawful α] {a b c : Preferences α} {p : Preference}
    (hab : a.agree b p = true) (hbc : b.agree c p = true) : a.agree c p = true := by
  cases p with
  | showGrid => exact beq_iff_eq.mpr ((beq_iff_eq.mp hab).trans (beq_iff_eq.mp hbc))
  | snapToGrid => exact beq_iff_eq.mpr ((beq_iff_eq.mp hab).trans (beq_iff_eq.mp hbc))
  | gridSize => exact Scalar.Lawful.beq_trans hab hbc
  | templateOpacity => exact Scalar.Lawful.beq_trans hab hbc

/-- The value of a preference decides what it agrees with. -/
theorem Preferences.agree_of_value_eq {a b c : Preferences α} {p : Preference}
    (h : a.value p = b.value p) : a.agree c p = b.agree c p := by
  cases p <;> injection h with h <;> simp only [agree, h]

/-- A keeper that follows its first document stores all preferences. -/
theorem Keeper.holds_of_first (s : Store α) (d : Document α) :
    ((Keeper.ofStore s).follow d).1.Holds (.ofDocument d) where
  last := rfl
  stored p := by
    refine ⟨.ofDocument d, ?_, .inl rfl⟩
    exact (s.find?_setAll (.ofDocument d) Preference.all p).trans (if_pos p.mem_all)

/-- **A keeper that follows a document holds its preferences**: it stores those that differ, and the
others are equal to what is stored. -/
theorem Keeper.Holds.follow [Scalar.Lawful α] {k : Keeper α} {before : Preferences α}
    (hk : k.Holds before) (d : Document α) : (k.follow d).1.Holds (.ofDocument d) where
  last := rfl
  stored p := by
    have hfind := k.store.find?_setAll (.ofDocument d)
      (Preferences.pending k.last (.ofDocument d)) p
    by_cases hp : p ∈ Preferences.pending k.last (.ofDocument d)
    · exact ⟨.ofDocument d, hfind.trans (if_pos hp), .inl rfl⟩
    · obtain ⟨w, hw, hbefore⟩ := hk.stored p
      refine ⟨w, (hfind.trans (if_neg hp)).trans hw, .inr ?_⟩
      have hagree : before.agree (.ofDocument d) p = true := by
        simpa [Preferences.pending, hk.last, p.mem_all] using hp
      rcases hbefore with hvalue | hw
      · rwa [Preferences.agree_of_value_eq hvalue]
      · exact Preferences.agree_trans hw hagree

/-- A keeper follows the documents among the events, one after the other. -/
theorem Keeper.fst_followAll (k : Keeper α) (events : List (Event α)) :
    (k.followAll events).1
      = (events.filterMap Event.document?).foldl (fun k d => (k.follow d).1) k := by
  induction events generalizing k with
  | nil => rfl
  | cons e rest ih =>
    cases e with
    | state d => exact ih (k.follow d).1
    | selection id => exact ih k
    | command text => exact ih k
    | copied yes => exact ih k

/-- A keeper that holds the preferences of a document holds those of the last one that it follows
after it. -/
theorem Keeper.Holds.foldl [Scalar.Lawful α] (ds : List (Document α)) {k : Keeper α}
    {d : Document α} (hk : k.Holds (.ofDocument d)) :
    (ds.foldl (fun k d => (k.follow d).1) k).Holds (.ofDocument (ds.getLastD d)) := by
  induction ds generalizing k d with
  | nil => exact hk
  | cons d' rest ih =>
    rw [List.foldl_cons, List.getLastD_cons]
    exact ih (hk.follow d')

/-- **After the first document that a session tells, a keeper holds the preferences of the session's
document.** -/
theorem Keeper.holds_told [Scalar.Lawful α] {measure : Measurer α} {first : Session α}
    {requests : List (Request α)} (store : Store α)
    (htold : (first.told measure requests).filterMap Event.document? ≠ []) :
    ((Keeper.ofStore store).followAll (first.told measure requests)).1.Holds
      (.ofDocument (first.after measure requests).document) := by
  rw [fst_followAll, ← Session.getLastD_told]
  cases hds : (first.told measure requests).filterMap Event.document? with
  | nil => exact absurd hds htold
  | cons d rest =>
    rw [List.foldl_cons, List.getLastD_cons]
    exact (holds_of_first store d).foldl rest

/-! ## 3. What is read of it -/

namespace Store

variable {s : Store α}

/-- A stored truth value is read as the switch that it is. -/
theorem canvasSwitch_of_find? {p : Preference} {b : Bool} (h : s.find? p.key = some (.bool b)) :
    s.canvasSwitch p = b := by
  rw [canvasSwitch, getSwitch, get, h]
  rfl

/-- A stored distance is cut to a whole number. -/
theorem gridSize_of_find? {v : α} (h : s.find? Preference.gridSize.key = some (.real v)) :
    s.gridSize = Scalar.truncate v := by
  rw [gridSize, getNumber, get, h]
  rfl

/-- A stored opacity is read as it is. -/
theorem templateOpacity_of_find? {v : α}
    (h : s.find? Preference.templateOpacity.key = some (.real v)) :
    s.templateOpacity = .ok v := by
  rw [templateOpacity, getNumber, get, h]
  rfl

end Store

/-- **What is read of a store that holds preferences**: the switches as they are, an opacity that is
the same or equal, and the distance of the grid lines cut to a whole number. -/
theorem Keeper.Holds.read [Scalar.Lawful α] {k : Keeper α} {now : Preferences α}
    (hk : k.Holds now) :
    ∃ opacity, (opacity = now.templateOpacity ∨ (opacity == now.templateOpacity) = true) ∧
      k.store.initialDocument? = (Scalar.truncate now.gridSize).map fun n =>
        { (Document.empty : Document α) with
          showGrid := now.showGrid
          snapToGrid := now.snapToGrid
          gridSize := Scalar.ofInt n
          templateOpacity := opacity } := by
  obtain ⟨shown, hshown, hshow⟩ := hk.stored .showGrid
  obtain ⟨snapping, hsnapping, hsnap⟩ := hk.stored .snapToGrid
  obtain ⟨sized, hsized, hsize⟩ := hk.stored .gridSize
  obtain ⟨dimmed, hopaque, hopacity⟩ := hk.stored .templateOpacity
  have hshow : shown.showGrid = now.showGrid :=
    hshow.elim (fun h => Raw.bool.inj h) beq_iff_eq.mp
  have hsnap : snapping.snapToGrid = now.snapToGrid :=
    hsnap.elim (fun h => Raw.bool.inj h) beq_iff_eq.mp
  have hsize : Scalar.truncate sized.gridSize = Scalar.truncate now.gridSize :=
    hsize.elim (fun h => congrArg _ (Raw.real.inj h)) Scalar.Lawful.truncate_congr
  refine ⟨dimmed.templateOpacity, hopacity.imp_left Raw.real.inj, ?_⟩
  rw [Store.initialDocument?, Store.gridSize_of_find? hsized, hsize,
    Store.templateOpacity_of_find? hopaque, Store.canvasSwitch_of_find? hshown, hshow,
    Store.canvasSwitch_of_find? hsnapping, hsnap]
  cases Scalar.truncate now.gridSize <;> rfl

/-- Whether a number is whole: it equals what it is cut to. -/
def Scalar.isWhole (v : α) : Bool := (Scalar.truncate v).toOption.any fun n => Scalar.ofInt n == v

/-- **Preferences after a restart.**  A session starts within the limits, and it tells at least one
document to the keeper of a store.  What a new session reads of the store then has the switches of
the session's last document, an opacity equal to its own, and the whole part of its distance of the
grid lines.  So all four preferences survive exactly if that distance is whole. -/
theorem restart_iff [Scalar.Lawful α] (measure : Measurer α) (flag : CopyFlag α) (s : Store α)
    (d₀ : Document α) (hlimits : d₀.WithinLimits) (requests : List (Request α))
    (htold : ((Session.start d₀ flag).told measure requests).filterMap Event.document? ≠ []) :
    let first := Session.start d₀ flag
    let last := (first.after measure requests).document
    let store := ((Keeper.ofStore s).followAll (first.told measure requests)).1.store
    (∀ n, Scalar.truncate last.gridSize = .ok n →
      ∃ d, store.initialDocument? = .ok d ∧ d.showGrid = last.showGrid ∧
        d.snapToGrid = last.snapToGrid ∧ (d.templateOpacity == last.templateOpacity) = true ∧
        d.gridSize = Scalar.ofInt n) ∧
    ((∃ d, store.initialDocument? = .ok d ∧
        ∀ p, (Preferences.ofDocument d).agree (.ofDocument last) p = true) ↔
      Scalar.isWhole last.gridSize = true) := by
  intro first last store
  have hlast : last.WithinLimits := Session.withinLimits_after hlimits
  obtain ⟨opacity, hopacity, hstore⟩ := (Keeper.holds_told s htold).read
  have hequal : (opacity == last.templateOpacity) = true :=
    hopacity.elim (fun h => h ▸ Scalar.Lawful.beq_self_of_le hlast.opacity_nonneg) id
  have hread : ∀ n, Scalar.truncate last.gridSize = .ok n → store.initialDocument? = .ok
      { (Document.empty : Document α) with
        showGrid := last.showGrid
        snapToGrid := last.snapToGrid
        gridSize := Scalar.ofInt n
        templateOpacity := opacity } :=
    fun n hn => hstore.trans (congrArg (Except.map _) hn)
  refine ⟨fun n hn => ⟨_, hread n hn, rfl, rfl, hequal, rfl⟩, ?_⟩
  unfold Scalar.isWhole
  cases hn : Scalar.truncate last.gridSize with
  | error fault =>
    have hfail : store.initialDocument? = .error fault :=
      hstore.trans (congrArg (Except.map _) hn)
    constructor
    · rintro ⟨d, hd, -⟩
      exact nomatch hfail.symm.trans hd
    · intro h
      exact nomatch h
  | ok n =>
    constructor
    · rintro ⟨d, hd, hagree⟩
      cases (hread n hn).symm.trans hd
      exact hagree .gridSize
    · intro hwhole
      refine ⟨_, hread n hn, fun p => ?_⟩
      cases p with
      | showGrid => exact beq_self_eq_true _
      | snapToGrid => exact beq_self_eq_true _
      | gridSize => exact hwhole
      | templateOpacity => exact hequal

/-- A session in which whole values are set. -/
def settingWholes : List (Request Float) := [.act (.setGridSize (.text "40")),
  .act (.setShowGrid (.bool true)), .act (.setTemplateOpacity (.text "0.3")), .generate]

/-- What is set in it is there after a restart. -/
theorem restart_iff_settingWholes :
    (Document.empty : Document Float).WithinLimits ∧
    ((Session.start .empty ⟨CopyFlag.standardMs, none⟩).told .estimated settingWholes).filterMap
      Event.document? ≠ [] ∧
    ∃ d, ((Keeper.ofStore .empty).followAll ((Session.start .empty
        ⟨CopyFlag.standardMs, none⟩).told .estimated settingWholes)).1.store.initialDocument?
        = .ok d ∧
      ∀ p, (Preferences.ofDocument d).agree (.ofDocument ((Session.start .empty
        ⟨CopyFlag.standardMs, none⟩).after .estimated settingWholes).document) p = true := by
  have hlimits : (Document.empty : Document Float).WithinLimits :=
    ⟨by decide +kernel, by decide +kernel, by decide +kernel⟩
  have htold : ((Session.start .empty ⟨CopyFlag.standardMs, none⟩).told .estimated
      settingWholes).filterMap Event.document? ≠ [] := by
    rw [← List.isEmpty_eq_false_iff]
    decide +kernel
  exact ⟨hlimits, htold, (restart_iff .estimated ⟨CopyFlag.standardMs, none⟩ .empty .empty hlimits
    settingWholes htold).2.mpr (by decide +kernel)⟩

/-- A session in which a distance of seven and a half is set: it is seven after a restart. -/
theorem restart_loses_fraction :
    let first : Session Float := Session.start .empty ⟨CopyFlag.standardMs, none⟩
    let requests : List (Request Float) := [.act (.setGridSize (.text "7.5"))]
    let last := (first.after .estimated requests).document
    let store := ((Keeper.ofStore .empty).followAll (first.told .estimated requests)).1.store
    (first.told .estimated requests).length = 1 ∧
    (last.gridSize == 7.5) = true ∧
    (store.initialDocument?.toOption.map fun d => d.gridSize == 7) = some true := by
  refine ⟨?_, ?_, ?_⟩ <;> decide +kernel

end Compositor
