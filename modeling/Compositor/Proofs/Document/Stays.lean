import Compositor.Proofs.Document.Outcome
import Compositor.Proofs.Document.Same
import Compositor.Proofs.Stacking
import Compositor.Session

/-!
# Changes that change nothing

A session keeps its document when an action gives one that is the same by value.  When one field of
a layer is entered this is a matter of the layer alone: the session keeps its document exactly if
the layer is the same after the change (`Layer.Stays`, `Session.perform_enter_iff`).

A layer stays under a change of its name or of what it says to what it is.  It stays under a change
of a number if the number is the same after it was raised to the limit of its field; and under a
change of one side of a video if both sides are the same then, as the other side follows while the
ratio is locked (`Clip.heightFor`, `Clip.widthFor`).
-/

namespace Compositor

variable {α : Type} [Scalar α]

/-! ## 1. What a session keeps -/

/-- A change leaves a layer the same by value, and gives it no undefined number. -/
def Layer.Stays (l : Layer α) (c : Changes α) : Prop :=
  ∃ l', l.changed c = .ok l' ∧ l'.same l = true ∧ c.givesUndefined l' = false

/-- With one layer in the place of another, layers are the same as before if the two layers are. -/
theorem Layer.sameAll_replaceIn {layers : List (Layer α)} (hids : (layers.map Layer.id).Nodup)
    {old new : Layer α} (hold : old ∈ layers) (hid : new.id = old.id) :
    Layer.sameAll (Layer.replaceIn layers new) layers = new.same old := by
  induction layers with
  | nil => exact nomatch hold
  | cons m rest ih =>
    obtain ⟨hm, hrest⟩ := List.nodup_cons.mp hids
    have hcons : Layer.replaceIn (m :: rest) new
        = (if m.id == new.id then new else m) :: Layer.replaceIn rest new := rfl
    rcases List.mem_cons.mp hold with rfl | hmem
    · have hothers : Layer.replaceIn rest new = rest := replaceIn_of_not_mem (hid ▸ hm)
      rw [hcons, hid, beq_self_eq_true, if_pos rfl, hothers, Layer.sameAll, Layer.sameAll_self,
        Bool.and_true]
    · have hne : (m.id == new.id) = false :=
        beq_eq_false_iff_ne.mpr fun h => hm (h.trans hid ▸ List.mem_map_of_mem hmem)
      rw [hcons, hne, if_neg Bool.false_ne_true, Layer.sameAll, Layer.same_self, Bool.true_and,
        ih hrest hmem]

/-- With one layer in the place of another, a document is the same as before if the two layers
are. -/
theorem Document.same_replace {d : Document α} (hids : (d.layers.map Layer.id).Nodup)
    {old new : Layer α} (hold : old ∈ d.layers) (hid : new.id = old.id) :
    (d.replace new).same d = new.same old := by
  simp [Document.same, Document.replace, Layer.sameAll_replaceIn hids hold hid, Extent.same]

/-- A session keeps its document and tells nothing exactly if the action gives one that it keeps
out. -/
theorem Session.perform_eq_self_iff {measure : Measurer α} {s : Session α} {a : Action α}
    (hrefuses : refuses a = false) :
    s.perform measure a = .ok (s, []) ↔
      ∃ d, a.apply measure s.document = .ok d ∧ s.keeps a d = true := by
  have hperform : s.perform measure a = (a.apply measure s.document).map fun d =>
      if s.keeps a d then (s, []) else s.become d := by
    unfold perform
    rw [hrefuses, if_neg Bool.false_ne_true]
    cases a.apply measure s.document <;> rfl
  rw [hperform]
  cases a.apply measure s.document with
  | error fault => simp [Except.map]
  | ok d =>
    have hbecome : s.become d ≠ (s, []) := by
      intro h
      cases congrArg Prod.snd h
    cases hkeeps : s.keeps a d <;> simp [Except.map, hkeeps, hbecome]

section

variable {l : Layer α} {field : String} {raw value : Raw α} {c : Changes α}

/-- A value is entered for a layer by changing it. -/
theorem Document.enter_eq {d : Document α} (hids : (d.layers.map Layer.id).Nodup)
    (hl : l ∈ d.layers) (hvalue : enteredValue field raw = .ok value)
    (hc : Changes.ofList [(field, value)] = c) (hothers : c.otherNames = [])
    (htouches : c.touches l.kind = true) :
    d.enter l.id field raw = (l.changed c).map d.replace := by
  have hstep : d.enter l.id field raw = d.update l.id c := by
    simp [enter, hvalue, ← hc, bind, Except.bind]
  rw [hstep, update, layer?, Layer.find?_of_mem hids hl]
  simp only [hothers, htouches, List.any_nil, Bool.false_eq_true, if_false, if_true]
  cases l.changed c <;> rfl

/-- With a layer changed, a session keeps its document if the layer is the same. -/
theorem Session.keeps_replace {s : Session α} (hids : (s.document.layers.map Layer.id).Nodup)
    (hl : l ∈ s.document.layers) {a : Action α} (ha : a.change? = some (l.id, c)) {l' : Layer α}
    (hid : l'.id = l.id) :
    s.keeps a (s.document.replace l') = (l'.same l && !c.givesUndefined l') := by
  have hfound : (s.document.replace l').layer? l.id = some l' :=
    Layer.find?_replaceIn (Layer.find?_of_mem hids hl) hid
  have hundefined : a.givesUndefined (s.document.replace l') = c.givesUndefined l' := by
    simp [Action.givesUndefined, ha, hfound]
  rw [keeps, Document.same_replace hids hl hid, hundefined]

/-- **A session keeps its document when a value is entered, if and only if the layer stays.** -/
theorem Session.perform_enter_iff {measure : Measurer α} {s : Session α}
    (hids : (s.document.layers.map Layer.id).Nodup) (hl : l ∈ s.document.layers)
    (hvalue : enteredValue field raw = .ok value) (hc : Changes.ofList [(field, value)] = c)
    (hothers : c.otherNames = []) (htouches : c.touches l.kind = true) :
    s.perform measure (.enter l.id field raw) = .ok (s, []) ↔ l.Stays c := by
  have hchange : (Action.enter l.id field raw).change? = some (l.id, c) := by
    simp [Action.change?, hvalue, Except.toOption, hc]
  have hrefuses : refuses (.enter l.id field raw : Action α) = false := by
    simp [refuses, hchange, hothers]
  have happly : (Action.enter l.id field raw).apply measure s.document
      = (l.changed c).map s.document.replace :=
    Document.enter_eq hids hl hvalue hc hothers htouches
  rw [perform_eq_self_iff hrefuses, happly, Layer.Stays]
  cases hchanged : l.changed c with
  | error fault => simp [Except.map]
  | ok l' =>
    have hkeeps := keeps_replace hids hl hchange (Layer.changed_keeps hchanged).1
    simp [Except.map, hkeeps]

end

/-! ## 2. The sides of a video -/

/-- The other side that goes with a width: while the lock is on it follows, otherwise it stays. -/
def Clip.heightFor (clip : Clip α) (width : α) : Except Fault α :=
  if clip.aspectLocked.isOn && decide (Scalar.ofInt 0 < clip.aspectRatio) then
    Scalar.quotient width clip.aspectRatio >>= followingSide
  else .ok clip.height

/-- The other side that goes with a height. -/
def Clip.widthFor (clip : Clip α) (height : α) : Except Fault α :=
  if clip.aspectLocked.isOn && decide (Scalar.ofInt 0 < clip.aspectRatio) then
    followingSide (height * clip.aspectRatio)
  else .ok clip.width

/-- The sides of a video after its width was changed. -/
theorem Clip.changedSides_width (clip : Clip α) (w : α) :
    clip.changedSides (some w) none = (clip.heightFor w).map fun h => ⟨w, h⟩ := by
  unfold changedSides heightFor
  split
  · rw [Fault.map_bind]
    refine congrArg (Scalar.quotient w clip.aspectRatio >>= ·) (funext fun q => ?_)
    cases followingSide q <;> rfl
  · rfl

/-- The sides of a video after its height was changed. -/
theorem Clip.changedSides_height (clip : Clip α) (h : α) :
    clip.changedSides none (some h) = (clip.widthFor h).map fun w => ⟨w, h⟩ := by
  unfold changedSides widthFor
  split
  · dsimp only
    cases followingSide (h * clip.aspectRatio) <;> rfl
  · rfl

/-- A change of the sides alone, neither of which is below the limit. -/
theorem Clip.changed_sides (clip : Clip α) (w h : Option α) :
    clip.changed { width := w.map .real, height := h.map .real } =
      (clip.changedSides (w.map (Scalar.larger Defaults.minSide))
        (h.map (Scalar.larger Defaults.minSide))).map
        fun sides => { clip with width := sides.width, height := sides.height } := by
  cases w <;> cases h <;>
    simp [changed, sideOf, Raw.number, bind, Except.bind, pure, Except.pure, Except.map]

/-! ## 3. What a layer stays under -/

/-- A change of a name and of a place changes nothing else. -/
theorem Layer.changed_place (l : Layer α) (name : Option String) (x y : Option α) :
    l.changed { name := name, x := x, y := y } = .ok
      { l with name := name.getD l.name, x := x.getD l.x, y := y.getD l.y } := by
  obtain ⟨_, _, _, _, _, _, content⟩ := l
  cases content with
  | video clip =>
    have hsides : clip.changedSides none none = .ok ⟨clip.width, clip.height⟩ := by
      unfold Clip.changedSides
      split <;> rfl
    simp [changed, changedContent, Clip.changed, hsides, bind, Except.bind, pure, Except.pure]
  | text caption => rfl

/-- A layer stays under a change of its name to what it is. -/
theorem Layer.stays_name (l : Layer α) : l.Stays { name := some l.name } := by
  refine ⟨_, l.changed_place (some l.name) none none, l.same_self, ?_⟩
  unfold Changes.givesUndefined
  cases l.content <;> rfl

/-- A layer stays under a change of its place if each coordinate is the same, and defined. -/
theorem Layer.stays_place_iff (l : Layer α) (x y : Option α) :
    l.Stays { x := x, y := y } ↔
      (∀ v ∈ x, Scalar.same v l.x = true ∧ Scalar.isUndefined v = false) ∧
        ∀ v ∈ y, Scalar.same v l.y = true ∧ Scalar.isUndefined v = false := by
  have hundefined : ∀ l' : Layer α, Changes.givesUndefined { x := x, y := y } l'
      = (x.any Scalar.isUndefined || y.any Scalar.isUndefined) := by
    intro l'
    unfold Changes.givesUndefined
    cases l'.content <;> simp
  simp only [Layer.Stays, l.changed_place none x y, Except.ok.injEq, exists_eq_left', hundefined]
  cases x <;> cases y <;> simp [Layer.same]
  exact and_and_and_comm

/-- A text stays under a change of what it says to what it says. -/
theorem Layer.stays_text {l : Layer α} {caption : Caption α} (hl : l.content = .text caption) :
    l.Stays { text := some caption.text } := by
  have hchanged : l.changed { text := some caption.text } = .ok l := by
    obtain ⟨_, _, _, _, _, _, _⟩ := l
    cases hl
    rfl
  refine ⟨l, hchanged, l.same_self, ?_⟩
  simp [Changes.givesUndefined, hl]

/-- A text stays under a change of the size of its letters if the size is the same. -/
theorem Layer.stays_fontSize_iff {l : Layer α} {caption : Caption α}
    (hl : l.content = .text caption) (v : α) :
    l.Stays { fontSize := some (.real v) } ↔
      Scalar.same (Scalar.larger Defaults.minFontSize v) caption.font.size = true := by
  have hchanged : l.changed { fontSize := some (.real v) } = .ok { l with
      content := .text { caption with font := { caption.font with
        size := Scalar.larger Defaults.minFontSize v } } } := by
    obtain ⟨_, _, _, _, _, _, _⟩ := l
    cases hl
    rfl
  simp only [Layer.Stays, hchanged, Except.ok.injEq, exists_eq_left']
  simp [Changes.givesUndefined, Layer.same, Content.same, Font.same, hl]

/-- A video stays under a change of its sides if both sides are the same then. -/
theorem Layer.stays_sides_iff {l : Layer α} {clip : Clip α} (hl : l.content = .video clip)
    (w h : Option α) :
    l.Stays { width := w.map .real, height := h.map .real } ↔
      ∃ sides, clip.changedSides (w.map (Scalar.larger Defaults.minSide))
          (h.map (Scalar.larger Defaults.minSide)) = .ok sides ∧
        Scalar.same sides.width clip.width = true ∧
        Scalar.same sides.height clip.height = true := by
  have hchanged : l.changed { width := w.map .real, height := h.map .real } =
      (clip.changedSides (w.map (Scalar.larger Defaults.minSide))
        (h.map (Scalar.larger Defaults.minSide))).map fun sides => { l with
          content := .video { clip with width := sides.width, height := sides.height } } := by
    obtain ⟨_, _, _, _, _, _, _⟩ := l
    cases hl
    simp only [Layer.changed, Layer.changedContent, clip.changed_sides]
    cases clip.changedSides (w.map (Scalar.larger Defaults.minSide))
      (h.map (Scalar.larger Defaults.minSide)) <;> rfl
  rw [Layer.Stays, hchanged]
  cases clip.changedSides (w.map (Scalar.larger Defaults.minSide))
      (h.map (Scalar.larger Defaults.minSide)) with
  | error fault => simp [Except.map]
  | ok sides => simp [Except.map, Changes.givesUndefined, Layer.same, Content.same, hl]

end Compositor
