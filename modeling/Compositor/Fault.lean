/-!
# Why a step of the editor fails

Nothing in the editor fails silently and nothing fails without a cause.  A step is a function into
`Except Fault`, and the causes are few: a text that spells no number, a quantity too large to be a
whole number, a quotient by zero, a name that is not in a fixed list, a value of a kind for which
the step has no meaning, and a thing handed to the layer geometry that is no layer.
-/

namespace Compositor

/-- The causes for which a step of the editor fails. -/
inductive Fault where
  /-- A text that spells no number, or an undefined number where a whole one is needed. -/
  | notANumber
  /-- A number too large for the form in which it is needed. -/
  | overflow
  /-- A quotient whose divisor is zero. -/
  | divisionByZero
  /-- A handle or a preference that is not one of the known names. -/
  | unknownName
  /-- A value such as a list, where only a number or a text has a meaning. -/
  | wrongKind
  /-- A thing without a box, where a layer is needed. -/
  | foreignLayer
  /-- A repetition that never reaches its end. -/
  | endless
deriving DecidableEq, Repr, Inhabited

namespace Fault

/-- The explanation that goes with a fault, for the one fault that carries one. -/
def explanation : Fault → Option String
  | .foreignLayer => some "unknown layer type: object"
  | _ => none

/-- Two steps in a row succeed only if both do. -/
theorem of_bind_eq_ok {β γ : Type} {x : Except Fault β} {f : β → Except Fault γ} {c : γ}
    (h : (x >>= f) = .ok c) : ∃ b, x = .ok b ∧ f b = .ok c := by
  cases x with
  | error e => exact nomatch h
  | ok b => exact ⟨b, rfl, h⟩

/-- Two steps in a row fail only if one of them does. -/
theorem of_bind_eq_error {β γ : Type} {x : Except Fault β} {f : β → Except Fault γ} {e : Fault}
    (h : (x >>= f) = .error e) : x = .error e ∨ ∃ b, x = .ok b ∧ f b = .error e := by
  cases x with
  | error e' =>
    cases h
    exact .inl rfl
  | ok b => exact .inr ⟨b, rfl, h⟩

/-- What is made of the result of two steps may as well be made in the second one. -/
theorem map_bind {β γ δ : Type} (x : Except Fault β) (f : β → Except Fault γ) (g : γ → δ) :
    (x >>= f).map g = x >>= fun b => (f b).map g := by
  cases x <;> rfl

/-- A step that can fail, and one after it that cannot, fail only if the first one does. -/
theorem of_bind_pure_eq_error {β γ : Type} {x : Except Fault β} {g : β → γ} {e : Fault}
    (h : (x >>= fun b => pure (g b)) = .error e) : x = .error e :=
  (of_bind_eq_error h).resolve_right nofun

/-- What is made of a result is made only where there is one. -/
theorem of_map_eq_ok {β γ : Type} {x : Except Fault β} {g : β → γ} {v : γ}
    (h : x.map g = .ok v) : ∃ b, x = .ok b ∧ g b = v := by
  cases x with
  | error e => exact nomatch h
  | ok b => exact ⟨b, rfl, Except.ok.inj h⟩

/-- To make something of a result fails only where there is none. -/
theorem of_map_eq_error {β γ : Type} {x : Except Fault β} {g : β → γ} {e : Fault}
    (h : x.map g = .error e) : x = .error e := by
  cases x with
  | error e' =>
    cases h
    rfl
  | ok b => exact nomatch h

/-- What may be given is taken if it is given, and only then. -/
theorem cases_of_mapM {β γ : Type} {f : β → Except Fault γ} {given? : Option β}
    {taken? : Option γ} (h : given?.mapM f = .ok taken?) :
    (given? = none ∧ taken? = none) ∨
      ∃ b v, given? = some b ∧ taken? = some v ∧ f b = .ok v := by
  cases given? with
  | none =>
    cases h
    exact .inl ⟨rfl, rfl⟩
  | some b =>
    obtain ⟨v, hv, h⟩ := of_bind_eq_ok h
    cases h
    exact .inr ⟨b, v, rfl, rfl, hv⟩

/-- There is what is taken where there is what is given. -/
theorem isSome_of_mapM {β γ : Type} {f : β → Except Fault γ} {given? : Option β}
    {taken? : Option γ} (h : given?.mapM f = .ok taken?) : taken?.isSome = given?.isSome := by
  obtain ⟨rfl, rfl⟩ | ⟨b, v, rfl, rfl, -⟩ := cases_of_mapM h <;> rfl

end Fault

end Compositor
