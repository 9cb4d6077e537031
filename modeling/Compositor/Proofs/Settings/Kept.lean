import Compositor.Proofs.Document.Same
import Compositor.Proofs.Settings.Restart

/-!
# The store is never behind

A keeper does not look at its store when it decides what to write.  It compares the preferences of
each document that it is told with those that it was told before, and it has nothing but its own
memory for these.  So there are three places for the preferences of the canvas, the document, the
memory and the store, and they are to be the same after every step of a session, whoever else stores
something under other keys in between.

They are the same, and not only equal.  An action sets one preference at most, and where it sets
one to an equal number, the document does not differ in value, and nobody is told of it
(`Session.value_eq_of_agree`).  So what is not written is what the store has, to the last bit.
-/

namespace Compositor

variable {α : Type}

/-! ## 1. Steps of a session that is kept -/

/-- A session, and the keeper that follows it. -/
structure KeptSession (α : Type) where
  session : Session α
  keeper : Keeper α

/-- What happens to a session that is kept: it is asked for something, or something else of the
program is stored. -/
inductive Turn (α : Type) where
  | ask (r : Request α)
  | store (key : String) (value : Raw α)

/-- What is stored apart from the keeper is stored under no key of a preference. -/
def Turn.Apart : Turn α → Prop
  | .ask _ => True
  | .store key _ => ∀ p : Preference, key ≠ p.key

namespace KeptSession

variable [Scalar α]

/-- A session whose keeper has not followed anything yet. -/
def start (s : Session α) (store : Store α) : KeptSession α := ⟨s, .ofStore store⟩

/-- A session that is kept, after a step, and what the keeper has written. -/
def turn (measure : Measurer α) (k : KeptSession α) :
    Turn α → KeptSession α × List (String × Raw α)
  | .ask r =>
    let served := k.session.serve measure r
    let followed := k.keeper.followAll served.2
    (⟨served.1, followed.1⟩, followed.2)
  | .store key value => ({ k with keeper := k.keeper.set key value }, [])

/-- The documents of which a step tells. -/
def told (measure : Measurer α) (k : KeptSession α) : Turn α → List (Document α)
  | .ask r => (k.session.serve measure r).2.filterMap Event.document?
  | .store _ _ => []

/-- A session that is kept, after a run. -/
def after (measure : Measurer α) (k : KeptSession α) : List (Turn α) → KeptSession α
  | [] => k
  | t :: rest => after measure (k.turn measure t).1 rest

/-- The documents of which a run tells. -/
def toldAll (measure : Measurer α) (k : KeptSession α) : List (Turn α) → List (Document α)
  | [] => []
  | t :: rest => k.told measure t ++ toldAll measure (k.turn measure t).1 rest

/-- The preferences that the document has now. -/
def now (k : KeptSession α) : Preferences α := .ofDocument k.session.document

end KeptSession

variable [Scalar α]

/-! ## 2. The preferences that an action sets -/

/-- The preference that an action sets, if it sets one. -/
def Action.preference? : Action α → Option Preference
  | .setShowGrid _ => some .showGrid
  | .setSnapToGrid _ => some .snapToGrid
  | .setGridSize _ => some .gridSize
  | .setTemplateOpacity _ => some .templateOpacity
  | _ => none

namespace Document

variable {measure : Measurer α} {d d' : Document α} {a : Action α}

/-- A change of fields sets no preference. -/
theorem preferences_of_update {id : String} {c : Changes α} (h : d.update id c = .ok d') :
    Preferences.ofDocument d' = .ofDocument d := by
  unfold update at h
  split at h
  · exact nomatch h
  · split at h
    · cases h
      rfl
    · split at h
      · obtain ⟨l', -, h⟩ := Fault.of_bind_eq_ok h
        cases h
        rfl
      · cases h
        rfl

/-- A move of the pointer sets no preference. -/
theorem preferences_of_move {p : Point α} (h : d.move measure p = .ok d') :
    Preferences.ofDocument d' = .ofDocument d := by
  cases hl : d.movedLayer? with
  | none =>
    rw [move_of_none hl] at h
    cases h
    rfl
  | some l =>
    rw [move_of_some hl] at h
    obtain ⟨l', -, rfl⟩ := Fault.of_map_eq_ok h
    rfl

/-- A press sets no preference. -/
theorem preferences_of_press {p : Point α} (h : d.press measure p = .ok d') :
    Preferences.ofDocument d' = .ofDocument d := by
  unfold press at h
  split at h
  · cases h
    rfl
  · obtain ⟨hit, -, h⟩ := Fault.of_bind_eq_ok h
    cases hit <;> cases h <;> rfl

/-- **An action that sets no preference leaves them all alone.** -/
theorem preferences_of_apply (h : a.apply measure d = .ok d') (ha : a.preference? = none) :
    Preferences.ofDocument d' = .ofDocument d := by
  cases a with
  | addVideo =>
    obtain ⟨l, -, rfl⟩ := eq_append_of_addVideo h
    rfl
  | addText =>
    obtain ⟨l, -, rfl⟩ := eq_append_of_addText h
    rfl
  | update id c => exact preferences_of_update h
  | enter id field raw =>
    obtain ⟨value, -, h⟩ := Fault.of_bind_eq_ok h
    exact preferences_of_update h
  | duplicate id =>
    cases hid : d.layer? id with
    | none =>
      cases (duplicate_of_none hid).symm.trans h
      rfl
    | some l =>
      obtain ⟨copy, -, rfl⟩ := eq_append_of_duplicate (by rw [hid]; rfl) h
      rfl
  | remove id =>
    cases h
    unfold remove
    split <;> rfl
  | reset id =>
    cases h
    unfold reset
    split <;> rfl
  | loadTemplate path w k =>
    cases h
    unfold loadTemplate
    split <;> rfl
  | press p => exact preferences_of_press h
  | move p => exact preferences_of_move h
  | raise id | lower id | select id | clearTemplate | resetCanvas | release =>
    cases h
    rfl
  | setTemplateOpacity raw | setShowGrid raw | setSnapToGrid raw | setGridSize raw =>
    exact nomatch ha

/-- An action leaves every preference alone but the one that it sets. -/
theorem value_of_apply (h : a.apply measure d = .ok d') {p : Preference}
    (hp : a.preference? ≠ some p) :
    (Preferences.ofDocument d).value p = (Preferences.ofDocument d').value p := by
  cases ha : a.preference? with
  | none => rw [preferences_of_apply h ha]
  | some q =>
    cases a with
    | setShowGrid raw | setSnapToGrid raw =>
      cases h
      cases p <;> first | rfl | exact absurd rfl hp
    | setGridSize raw | setTemplateOpacity raw =>
      obtain ⟨v, -, h⟩ := Fault.of_bind_eq_ok h
      cases h
      cases p <;> first | rfl | exact absurd rfl hp
    | _ => cases ha

/-- **Where an action sets a preference to an equal value, it gives the same document.** -/
theorem same_of_agree [PartialEquivBEq α] (h : a.apply measure d = .ok d') {p : Preference}
    (ha : a.preference? = some p)
    (hagree : (Preferences.ofDocument d).agree (.ofDocument d') p = true) : d'.same d = true := by
  cases a with
  | setShowGrid raw =>
    cases ha
    cases h
    have hshown : d.showGrid = raw.truthy := beq_iff_eq.mp hagree
    rw [setShowGrid, ← hshown]
    exact same_self d
  | setSnapToGrid raw =>
    cases ha
    cases h
    have hsnaps : d.snapToGrid = raw.truthy := beq_iff_eq.mp hagree
    rw [setSnapToGrid, ← hsnaps]
    exact same_self d
  | setGridSize raw =>
    cases ha
    obtain ⟨v, -, h⟩ := Fault.of_bind_eq_ok h
    cases h
    have hequal : Scalar.same (Scalar.larger Defaults.minGridSize v) d.gridSize = true :=
      Bool.or_eq_true_iff.mpr (.inl (BEq.symm hagree))
    simp [same, Extent.same, hequal]
  | setTemplateOpacity raw =>
    cases ha
    obtain ⟨v, -, h⟩ := Fault.of_bind_eq_ok h
    cases h
    have hequal : Scalar.same (Scalar.clamp v (Scalar.ofInt 0) (Scalar.ofInt 1)) d.templateOpacity
        = true := Bool.or_eq_true_iff.mpr (.inl (BEq.symm hagree))
    simp [same, Extent.same, hequal]
  | _ => cases ha

end Document

/-- **A preference that stays equal where a session tells of a new document stays the same.** -/
theorem Session.value_eq_of_agree [PartialEquivBEq α] {measure : Measurer α} {s : Session α}
    {a : Action α} {d : Document α} (h : a.apply measure s.document = .ok d)
    (hkeeps : s.keeps a d = false) {p : Preference}
    (hagree : (Preferences.ofDocument s.document).agree (.ofDocument d) p = true) :
    (Preferences.ofDocument s.document).value p = (Preferences.ofDocument d).value p := by
  by_cases ha : a.preference? = some p
  · have hdefined : a.givesUndefined d = false := by
      cases a <;> first | rfl | exact nomatch ha
    rw [keeps, Document.same_of_agree h ha hagree, hdefined] at hkeeps
    exact nomatch hkeeps
  · exact Document.value_of_apply h ha

/-! ## 3. What a keeper writes -/

/-- The numbers among the preferences are defined. -/
structure Preferences.Defined (now : Preferences α) : Prop where
  gridSize : (now.gridSize == now.gridSize) = true
  templateOpacity : (now.templateOpacity == now.templateOpacity) = true

/-- What is defined agrees with itself. -/
theorem Preferences.Defined.agree_self {now : Preferences α} (h : now.Defined) (p : Preference) :
    now.agree now p = true := by
  cases p with
  | showGrid | snapToGrid => exact beq_self_eq_true _
  | gridSize => exact h.gridSize
  | templateOpacity => exact h.templateOpacity

/-- **An action leaves the preferences defined**, whatever it sets. -/
theorem Preferences.defined_of_apply [Scalar.Lawful α] {measure : Measurer α} {d d' : Document α}
    {a : Action α} (h : a.apply measure d = .ok d') (hd : (ofDocument d).Defined) :
    (ofDocument d').Defined := by
  have horigin := Document.origin_of_apply h
  constructor
  · change (d'.gridSize == d'.gridSize) = true
    rcases horigin.gridSize with hsize | ⟨v, hsize⟩ <;> rw [hsize]
    · exact hd.gridSize
    · exact Scalar.Lawful.beq_self_of_le (Scalar.minGridSize_le_larger v)
  · change (d'.templateOpacity == d'.templateOpacity) = true
    rcases horigin.templateOpacity with hopacity | ⟨v, hopacity⟩ <;> rw [hopacity]
    · exact hd.templateOpacity
    · exact Scalar.Lawful.beq_self_of_le (Scalar.opacity_clamp v).1

/-- A preference is pending unless the last one agrees with it. -/
theorem Preferences.mem_pending_iff {last : Option (Preferences α)} {now : Preferences α}
    {p : Preference} :
    p ∈ pending last now ↔ ∀ before, last = some before → before.agree now p = false := by
  cases last with
  | none => simp [pending, p.mem_all]
  | some before => simp [pending, p.mem_all]

/-- **A preference differs from the one before exactly if it is another value**, where a session
tells of a new document. -/
theorem Session.agree_eq_false_iff [Scalar.Lawful α] [PartialEquivBEq α] {measure : Measurer α}
    {s : Session α} {a : Action α} {d : Document α} (h : a.apply measure s.document = .ok d)
    (hkeeps : s.keeps a d = false) (hdefined : (Preferences.ofDocument s.document).Defined)
    {p : Preference} :
    (Preferences.ofDocument s.document).agree (.ofDocument d) p = false ↔
      (Preferences.ofDocument d).value p ≠ (Preferences.ofDocument s.document).value p := by
  constructor
  · intro hdiffers heq
    rw [← Preferences.agree_of_value_eq heq,
      (Preferences.defined_of_apply h hdefined).agree_self p] at hdiffers
    exact nomatch hdiffers
  · intro hother
    rw [Bool.eq_false_iff]
    exact fun hagree => hother (value_eq_of_agree h hkeeps hagree).symm

namespace Keeper

variable {k : Keeper α} {d : Document α}

/-- A keeper remembers these preferences, and the store has them. -/
structure Mirrors (k : Keeper α) (now : Preferences α) : Prop where
  last : k.last = some now
  stored : ∀ p : Preference, k.store.find? p.key = some (now.value p)

/-- A keeper writes the preferences that are pending, each as it is now. -/
theorem mem_written_iff {key : String} {v : Raw α} :
    (key, v) ∈ (k.follow d).2 ↔ ∃ p ∈ Preferences.pending k.last (.ofDocument d),
      key = p.key ∧ v = (Preferences.ofDocument d).value p := by
  simp only [follow, Preferences.writes, List.mem_map, Prod.mk.injEq, eq_comm]

/-- **A keeper that follows a document mirrors its preferences**, if what agrees with what it
remembers is what it has stored. -/
theorem mirrors_follow (h : ∀ before, k.last = some before → k.Mirrors before ∧
      ∀ p, before.agree (.ofDocument d) p = true →
        before.value p = (Preferences.ofDocument d).value p) :
    (k.follow d).1.Mirrors (.ofDocument d) where
  last := rfl
  stored p := by
    refine (k.store.find?_setAll (.ofDocument d) _ p).trans ?_
    split
    · rfl
    · rename_i hquiet
      -- What is not pending agrees with what is remembered, and that is what the store has.
      rw [Preferences.mem_pending_iff] at hquiet
      push Not at hquiet
      obtain ⟨before, hlast, hagree⟩ := hquiet
      obtain ⟨hmirrors, hsame⟩ := h before hlast
      rw [hmirrors.stored p, hsame p (Bool.not_eq_false _ ▸ hagree)]

/-- A keeper to whom no document is told writes nothing. -/
theorem followAll_of_untold {events : List (Event α)}
    (h : events.filterMap Event.document? = []) (k : Keeper α) :
    k.followAll events = (k, []) := by
  induction events with
  | nil => rfl
  | cons e rest ih =>
    cases e with
    | state d => exact nomatch h
    | selection id => exact ih h
    | command text => exact ih h
    | copied yes => exact ih h

/-- A keeper follows the document of which a session tells. -/
theorem followAll_eventsOf (k : Keeper α) (before d : Document α) :
    k.followAll (Session.eventsOf before d) = k.follow d := by
  unfold Session.eventsOf
  split
  · exact congrArg (Prod.mk _) (List.append_nil _)
  · exact congrArg (Prod.mk _) (List.append_nil _)

end Keeper

/-! ## 4. One step -/

/-- A request leaves the document and tells of none, or an action gives another document, which the
session takes over and tells. -/
theorem Session.serve_cases (measure : Measurer α) (s : Session α) (r : Request α) :
    ((s.serve measure r).1.document = s.document ∧
      (s.serve measure r).2.filterMap Event.document? = []) ∨
    ∃ a d, a.apply measure s.document = .ok d ∧ s.keeps a d = false ∧
      s.serve measure r = ({ s with document := d }, eventsOf s.document d) := by
  have hserved := served measure s r
  cases r with
  | act a =>
    unfold serve
    cases h : s.answer measure (.act a) with
    | error e => exact .inl ⟨rfl, rfl⟩
    | ok out =>
      obtain ⟨d, hd, ⟨-, rfl⟩ | ⟨hkeeps, rfl⟩⟩ := perform_cases h
      · exact .inl ⟨rfl, rfl⟩
      · exact .inr ⟨a, d, hd, hkeeps, rfl⟩
  | _ =>
    generalize s.serve measure _ = out at hserved ⊢
    cases hserved with
    | quiet s' events document_eq untold => exact .inl ⟨document_eq, untold⟩
    | changed a request_eq => exact nomatch request_eq

namespace KeptSession

variable {measure : Measurer α} {k : KeptSession α} {t : Turn α}

/-- What a step can do to a session that is kept, by the documents of which it tells. -/
inductive Turned (measure : Measurer α) (k : KeptSession α) :
    List (Document α) → KeptSession α × List (String × Raw α) → Prop
  /-- No one is told of a document: the preferences, the memory and the store keep them. -/
  | quiet (k' : KeptSession α) (now_eq : k'.now = k.now) (last_eq : k'.keeper.last = k.keeper.last)
      (find?_eq : ∀ p : Preference, k'.keeper.store.find? p.key = k.keeper.store.find? p.key) :
      Turned measure k [] (k', [])
  /-- An action gives another document, and the keeper follows it. -/
  | told (a : Action α) (d : Document α) (apply_ok : a.apply measure k.session.document = .ok d)
      (keeps_eq : k.session.keeps a d = false) :
      Turned measure k [d]
        (⟨{ k.session with document := d }, (k.keeper.follow d).1⟩, (k.keeper.follow d).2)

/-- **Every step is quiet, or tells of one document.** -/
theorem turned (ht : t.Apart) : Turned measure k (k.told measure t) (k.turn measure t) := by
  cases t with
  | store key value =>
    exact .quiet _ rfl rfl fun p => k.keeper.store.find?_set_of_ne (ht p).symm value
  | ask r =>
    rcases Session.serve_cases measure k.session r with
      ⟨hdocument, huntold⟩ | ⟨a, d, hd, hkeeps, hserve⟩
    · simp only [told, turn, huntold, Keeper.followAll_of_untold huntold]
      exact .quiet _ (congrArg Preferences.ofDocument hdocument) rfl fun p => rfl
    · simp only [told, turn, hserve, Session.document?_eventsOf, Keeper.followAll_eventsOf]
      exact .told a d hd hkeeps

/-! ## 5. Runs -/

/-- What holds after a run that has told of these documents: the preferences are defined, and from
the first document on the keeper mirrors them. -/
structure Current (k : KeptSession α) (told : List (Document α)) : Prop where
  defined : k.now.Defined
  unused : told = [] → k.keeper.last = none
  mirrors : told ≠ [] → k.keeper.Mirrors k.now

/-- A keeper that has not followed anything yet is up to date. -/
theorem current_start {s : Session α} (h : (Preferences.ofDocument s.document).Defined)
    (store : Store α) : (start s store).Current [] where
  defined := h
  unused _ := rfl
  mirrors h := absurd rfl h

variable {told : List (Document α)}

/-- A keeper remembers nothing before the first document, and the preferences from then on. -/
theorem Current.last_eq (hk : k.Current told) :
    k.keeper.last = if told = [] then none else some k.now := by
  split
  · exact hk.unused ‹_›
  · exact (hk.mirrors ‹_›).last

/-- **A step keeps the keeper up to date.** -/
theorem Current.turn [Scalar.Lawful α] [PartialEquivBEq α] (hk : k.Current told) (ht : t.Apart) :
    (k.turn measure t).1.Current (told ++ k.told measure t) := by
  have hturned : Turned measure k (k.told measure t) (k.turn measure t) := turned ht
  generalize k.told measure t = now, k.turn measure t = out at hturned ⊢
  cases hturned with
  | quiet k' now_eq last_eq find?_eq =>
    rw [List.append_nil]
    refine ⟨now_eq ▸ hk.defined, fun h => last_eq.trans (hk.unused h), fun h => ⟨?_, fun p => ?_⟩⟩
    · rw [last_eq, now_eq, (hk.mirrors h).last]
    · rw [find?_eq, now_eq, (hk.mirrors h).stored]
  | told a d apply_ok keeps_eq =>
    refine ⟨Preferences.defined_of_apply apply_ok hk.defined, fun h => ?_, fun _ => ?_⟩
    · exact absurd h (List.append_ne_nil_of_right_ne_nil _ (List.cons_ne_nil d []))
    · refine Keeper.mirrors_follow fun before hlast => ?_
      -- Something is remembered only after a first document, and then the keeper mirrored it.
      rw [hk.last_eq] at hlast
      split at hlast
      · exact nomatch hlast
      · cases hlast
        exact ⟨hk.mirrors ‹_›, fun p => Session.value_eq_of_agree apply_ok keeps_eq⟩

/-- **A step writes the preferences that it changes**, and all of them when it is the first one that
tells of a document. -/
theorem Current.mem_written_iff [Scalar.Lawful α] [PartialEquivBEq α] (hk : k.Current told)
    (ht : t.Apart) {key : String} {v : Raw α} :
    (key, v) ∈ (k.turn measure t).2 ↔ k.told measure t ≠ [] ∧ ∃ p : Preference, key = p.key ∧
      v = (k.turn measure t).1.now.value p ∧
      (told = [] ∨ (k.turn measure t).1.now.value p ≠ k.now.value p) := by
  have hturned : Turned measure k (k.told measure t) (k.turn measure t) := turned ht
  generalize k.told measure t = now, k.turn measure t = out at hturned ⊢
  cases hturned with
  | quiet k' now_eq last_eq find?_eq => simp
  | told a d apply_ok keeps_eq =>
    have hpending : ∀ p, p ∈ Preferences.pending k.keeper.last (.ofDocument d) ↔
        told = [] ∨ (Preferences.ofDocument d).value p ≠ k.now.value p := by
      intro p
      rw [Preferences.mem_pending_iff, hk.last_eq]
      by_cases htold : told = []
      · simp [htold]
      · have hdiffers : k.now.agree (.ofDocument d) p = false ↔
            (Preferences.ofDocument d).value p ≠ k.now.value p :=
          Session.agree_eq_false_iff apply_ok keeps_eq hk.defined
        rw [if_neg htold, or_iff_right htold]
        simpa only [Option.some.injEq, forall_eq'] using hdiffers
    rw [Keeper.mem_written_iff]
    constructor
    · rintro ⟨p, hp, hkey, hv⟩
      exact ⟨List.cons_ne_nil d [], p, hkey, hv, (hpending p).mp hp⟩
    · rintro ⟨-, p, hkey, hv, hp⟩
      exact ⟨p, (hpending p).mpr hp, hkey, hv⟩

/-- A run keeps the keeper up to date. -/
theorem Current.after [Scalar.Lawful α] [PartialEquivBEq α] {turns : List (Turn α)}
    (hk : k.Current told) (hturns : ∀ t ∈ turns, t.Apart) :
    (k.after measure turns).Current (told ++ k.toldAll measure turns) := by
  induction turns generalizing k told with
  | nil =>
    rw [toldAll, List.append_nil]
    exact hk
  | cons t rest ih =>
    rw [toldAll, ← List.append_assoc]
    exact ih (hk.turn (hturns t List.mem_cons_self))
      fun u hu => hturns u (List.mem_cons_of_mem t hu)

/-- **The store is never behind the document.**  A session starts with defined preferences, over any
store, and whatever else is stored is stored apart from the preferences.  After every run that has
told of a document, the store has the preferences of the document as they are.  And a step writes
nothing but preferences: those that it changes, and all of them when it is the first one to tell of
a document. -/
theorem store_never_behind [Scalar.Lawful α] [PartialEquivBEq α] (measure : Measurer α)
    (s : Session α) (hdefined : (Preferences.ofDocument s.document).Defined) (store : Store α)
    (turns : List (Turn α)) (hapart : ∀ t ∈ turns, t.Apart) :
    let k := (start s store).after measure turns
    let told := (start s store).toldAll measure turns
    (told ≠ [] → ∀ p : Preference, k.keeper.store.find? p.key = some (k.now.value p)) ∧
    ∀ t : Turn α, t.Apart → ∀ key v, (key, v) ∈ (k.turn measure t).2 ↔
      k.told measure t ≠ [] ∧ ∃ p : Preference, key = p.key ∧
        v = (k.turn measure t).1.now.value p ∧
        (told = [] ∨ (k.turn measure t).1.now.value p ≠ k.now.value p) := by
  intro k told
  have hcurrent : k.Current told := (current_start hdefined store).after hapart
  exact ⟨fun h => (hcurrent.mirrors h).stored, fun t ht key v => hcurrent.mem_written_iff ht⟩

/-- A video is added and the window's place is stored, and the distance of the grid lines is set to
forty.  The store has the distance, and when the grid is shown after that, only the switch is
written. -/
theorem store_never_behind_grid :
    let s : Session Rat := .start .empty ⟨CopyFlag.standardMs, none⟩
    let turns : List (Turn Rat) := [.ask (.act .addVideo), .store "ui/main_geometry" (.text ""),
      .ask (.act (.setGridSize (.text "40")))]
    let k := (start s .empty).after .estimated turns
    let shows : Turn Rat := .ask (.act (.setShowGrid (.bool true)))
    (Preferences.ofDocument s.document).Defined ∧ (∀ t ∈ turns, t.Apart) ∧ shows.Apart ∧
    k.keeper.store.find? "canvas/grid_size" = some (.real 40) ∧
    ("canvas/show_grid", .bool true) ∈ (k.turn .estimated shows).2 ∧
    ∀ v, ("canvas/grid_size", v) ∉ (k.turn .estimated shows).2 := by
  intro s turns k shows
  have hdefined : (Preferences.ofDocument s.document).Defined := ⟨by decide, by decide +kernel⟩
  have hapart : ∀ t ∈ turns, t.Apart := by
    simp only [turns, List.forall_mem_cons, Turn.Apart, true_and]
    exact ⟨fun p => by cases p <;> decide, List.forall_mem_nil _⟩
  obtain ⟨hstore, hwritten⟩ := store_never_behind .estimated s hdefined .empty turns hapart
  have htold : (start s .empty).toldAll .estimated turns ≠ [] := by
    rw [← List.isEmpty_eq_false_iff]
    decide +kernel
  have hbefore : k.now.showGrid = false ∧ k.now.gridSize = 40 := by decide +kernel
  have hafter : (k.turn .estimated shows).1.now.showGrid = true ∧
      (k.turn .estimated shows).1.now.gridSize = 40 := by decide +kernel
  refine ⟨hdefined, hapart, trivial, ?_, ?_, fun v hv => ?_⟩
  · exact (hstore htold .gridSize).trans (congrArg (some <| Raw.real ·) hbefore.2)
  · refine (hwritten shows trivial _ _).mpr ⟨?_, .showGrid, rfl, ?_, .inr ?_⟩
    · rw [← List.isEmpty_eq_false_iff]
      decide +kernel
    · exact congrArg Raw.bool hafter.1.symm
    · intro hsame
      rw [Preferences.value, Preferences.value, hafter.1, hbefore.1] at hsame
      exact nomatch hsame
  · obtain ⟨-, p, hkey, -, hchanged⟩ := (hwritten shows trivial _ _).mp hv
    obtain rfl : .gridSize = p := Preference.key_injective hkey
    rcases hchanged with hfirst | hother
    · exact htold hfirst
    · exact hother (congrArg Raw.real (hafter.2.trans hbefore.2.symm))

end KeptSession

end Compositor
