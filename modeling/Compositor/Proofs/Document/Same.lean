import Compositor.Action

/-!
# The same document, as values

A session compares the document that an action gives with the one it has, as values.  Two things
about that comparison carry what is said of sessions.  A document is the same as itself, whatever
numbers it holds: an undefined number differs from itself under the scalar's own comparison, and
counts as the same value here.  And two documents that are the same have undefined numbers in the
same places, so it makes no difference in which of them one looks for those that an action gave.

Only the second needs anything of the numbers: that their comparison is symmetric and transitive.
-/

namespace Compositor

variable {α : Type} [Scalar α]

/-! ## 1. Everything is the same as itself -/

/-- A number is the same as itself, the undefined one included. -/
@[simp] theorem Scalar.same_self (v : α) : Scalar.same v v = true := by
  unfold Scalar.same Scalar.isUndefined
  cases v == v <;> rfl

/-- A value that counts as a number is the same number as itself. -/
theorem Raw.sameNumber_self {v : Raw α} (h : v.numericValue?.isSome = true) :
    v.sameNumber v = true := by
  unfold sameNumber
  cases hv : v.numericValue? with
  | none =>
    rw [hv] at h
    exact absurd h Bool.false_ne_true
  | some n =>
    cases n with
    | inl m => exact beq_self_eq_true m
    | inr w => exact Scalar.same_self w

/-- A real counts as a number. -/
theorem Raw.isSome_numericValue?_real (v : α) : (real v).numericValue?.isSome = true := by
  simp only [numericValue?]
  split <;> rfl

mutual

/-- A value from outside is the same as itself. -/
@[simp] theorem Raw.same_self : ∀ v : Raw α, v.same v = true
  | .null => by rw [Raw.same]
  | .bool b => by
    rw [Raw.same]
    · exact Raw.sameNumber_self rfl
    all_goals exact nofun
  | .whole n => by
    rw [Raw.same]
    · exact Raw.sameNumber_self rfl
    all_goals exact nofun
  | .real v => by
    rw [Raw.same]
    · exact Raw.sameNumber_self (Raw.isSome_numericValue?_real v)
    all_goals exact nofun
  | .text s => by
    rw [Raw.same]
    exact beq_self_eq_true s
  | .list items => by
    rw [Raw.same]
    exact Raw.sameItems_self items
  | .object fields => by
    rw [Raw.same]
    exact Raw.sameFields_self fields

/-- Values in their order are the same as themselves. -/
theorem Raw.sameItems_self : ∀ items : List (Raw α), Raw.sameItems items items = true
  | [] => by rw [Raw.sameItems]
  | v :: rest => by rw [Raw.sameItems, Raw.same_self v, Raw.sameItems_self rest, Bool.and_self]

/-- Values under their names are the same as themselves. -/
theorem Raw.sameFields_self :
    ∀ fields : List (String × Raw α), Raw.sameFields fields fields = true
  | [] => by rw [Raw.sameFields]
  | (key, v) :: rest => by
    rw [Raw.sameFields, Raw.same_self v, Raw.sameFields_self rest, beq_self_eq_true, Bool.and_self,
      Bool.and_self]

end

/-- A toggle is the same as itself. -/
@[simp] theorem Toggle.same_self (t : Toggle α) : t.same t = true := Raw.same_self t.value

/-- A content is the same as itself. -/
@[simp] theorem Content.same_self (c : Content α) : c.same c = true := by
  cases c <;> simp [Content.same, Font.same]

/-- A layer is the same as itself. -/
@[simp] theorem Layer.same_self (l : Layer α) : l.same l = true := by simp [Layer.same]

/-- Layers in their order are the same as themselves. -/
@[simp] theorem Layer.sameAll_self (layers : List (Layer α)) : sameAll layers layers = true := by
  induction layers with
  | nil => rfl
  | cons l rest ih => rw [sameAll, same_self, ih, Bool.and_self]

/-- A gesture is the same as itself. -/
@[simp] theorem Interaction.same_self (g : Interaction α) : g.same g = true := by
  cases g <;> simp [Interaction.same, Point.same, Rect.same]

/-- **A document is the same as itself**, whatever numbers it holds. -/
@[simp] theorem Document.same_self (d : Document α) : d.same d = true := by
  simp [Document.same, Extent.same]

/-! ## 2. Where undefined numbers are -/

variable [PartialEquivBEq α]

/-- Of two same numbers both are undefined, or neither is. -/
theorem Scalar.isUndefined_eq_of_same {a b : α} (h : Scalar.same a b = true) :
    Scalar.isUndefined a = Scalar.isUndefined b := by
  rcases Bool.or_eq_true_iff.mp h with heq | hboth
  · have ha : (a == a) = true := BEq.trans heq (BEq.symm heq)
    have hb : (b == b) = true := BEq.trans (BEq.symm heq) heq
    rw [isUndefined, isUndefined, ha, hb]
  · obtain ⟨ha, hb⟩ := Bool.and_eq_true_iff.mp hboth
    rw [ha, hb]

/-- A change gives two same layers an undefined number, or neither. -/
theorem Changes.givesUndefined_eq_of_same (c : Changes α) {l m : Layer α} (h : l.same m = true) :
    c.givesUndefined l = c.givesUndefined m := by
  have hcontent : l.content.same m.content = true := (Bool.and_eq_true_iff.mp h).2
  unfold givesUndefined
  cases hl : l.content with
  | video clip =>
    cases hm : m.content with
    | video clip' =>
      rw [hl, hm] at hcontent
      have hratio := (Bool.and_eq_true_iff.mp hcontent).2
      dsimp only
      rw [Scalar.isUndefined_eq_of_same hratio]
    | text caption =>
      rw [hl, hm] at hcontent
      exact absurd hcontent Bool.false_ne_true
  | text caption =>
    cases hm : m.content with
    | video clip =>
      rw [hl, hm] at hcontent
      exact absurd hcontent Bool.false_ne_true
    | text caption' => rfl

omit [PartialEquivBEq α] in
/-- What same layers have in common, the layers with an id have in common. -/
theorem Layer.any_find?_of_sameAll {p : Layer α → Bool}
    (hp : ∀ l m : Layer α, l.same m = true → p l = p m) (id : String) {ls ms : List (Layer α)}
    (h : sameAll ls ms = true) : (find? ls (some id)).any p = (find? ms (some id)).any p := by
  induction ls generalizing ms with
  | nil =>
    cases ms with
    | nil => rfl
    | cons m ms => exact absurd h Bool.false_ne_true
  | cons l ls ih =>
    cases ms with
    | nil => exact absurd h Bool.false_ne_true
    | cons m ms =>
      obtain ⟨hlm, hrest⟩ := Bool.and_eq_true_iff.mp h
      have hids : l.id = m.id := by
        simp only [same, Bool.and_eq_true, beq_iff_eq] at hlm
        exact hlm.1.1.1.1.1.1
      have ih := ih hrest
      simp only [find?, List.find?_cons, hids] at ih ⊢
      cases m.id == id with
      | true => exact hp l m hlm
      | false => exact ih

/-- **An action gives two same documents an undefined number, or neither.** -/
theorem Action.givesUndefined_eq_of_same (a : Action α) {d e : Document α} (h : d.same e = true) :
    a.givesUndefined d = a.givesUndefined e := by
  have hlayers : Layer.sameAll d.layers e.layers = true := by
    simp only [Document.same, Bool.and_eq_true] at h
    exact h.1.1.1.1.1.1.1.1.1
  unfold givesUndefined
  cases a.change? with
  | none => rfl
  | some c =>
    exact Layer.any_find?_of_sameAll (fun _ _ => c.2.givesUndefined_eq_of_same) c.1 hlayers

end Compositor
