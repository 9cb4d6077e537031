import Compositor.Document
import Compositor.Raw
import Compositor.Text.Blank
import Compositor.Text.LowerCase

/-!
# Stored settings

Settings outlive a session: a value is stored under a key, and stays there until another one is set.
What is read back may have come from an earlier version, from another program or from a file that
keeps every value as text, so each reading says what it makes of any value.

Four settings are preferences of the canvas.  A document starts from them
(`Store.initialDocument?`), and every change of them in the document is stored (`Keeper`).
-/

namespace Compositor

/-- Stored values under their keys. -/
structure Store (α : Type) where
  entries : List (String × Raw α)

namespace Store

variable {α : Type}

/-- A store without a value. -/
def empty : Store α := ⟨[]⟩

/-- The value under a key; a stored nothing counts as no value. -/
def find? (s : Store α) (key : String) : Option (Raw α) :=
  match s.entries.lookup key with
  | none | some .null => none
  | some v => some v

/-- The value under a key, or the default. -/
def get (s : Store α) (key : String) (default : Raw α) : Raw α := (s.find? key).getD default

/-- Stores a value under a key. -/
def set (s : Store α) (key : String) (value : Raw α) : Store α :=
  if s.entries.any (·.1 == key) then
    ⟨s.entries.map fun e => if e.1 == key then (key, value) else e⟩
  else ⟨s.entries ++ [(key, value)]⟩

/-- Where a key is listed, its entry is the one that is replaced. -/
theorem lookup_map_replace (key : String) (value : Raw α) :
    ∀ entries : List (String × Raw α), entries.any (·.1 == key) = true →
      (entries.map fun e => if e.1 == key then (key, value) else e).lookup key = some value
  | [], h => by simp at h
  | (k, v) :: rest, h => by
    by_cases he : k = key
    · simp [he]
    · have hk : (key == k) = false := by simpa using fun h => he h.symm
      have hr : rest.any (·.1 == key) = true := by simpa [he] using h
      have ih := lookup_map_replace key value rest hr
      simp only [beq_iff_eq] at ih
      simp [he, hk, List.lookup_cons, ih]

/-- Where a key is not listed, its entry is the one that is added. -/
theorem lookup_append_new (key : String) (value : Raw α) :
    ∀ entries : List (String × Raw α), ¬ entries.any (·.1 == key) = true →
      (entries ++ [(key, value)]).lookup key = some value
  | [], _ => by simp
  | (k, v) :: rest, h => by
    have hne : ¬ k = key := fun he => h (by simp [he])
    have hk : (key == k) = false := by simpa using fun h => hne h.symm
    have hr : ¬ rest.any (·.1 == key) = true := fun hr => h (by simp [hr])
    simp [List.lookup_cons, hk, lookup_append_new key value rest hr]

/-- A value that was stored is found again, unless it is nothing. -/
theorem find?_set_self (s : Store α) (key : String) (value : Raw α) (h : value ≠ .null) :
    (s.set key value).find? key = some value := by
  have found : (s.set key value).entries.lookup key = some value := by
    unfold set
    split
    · exact lookup_map_replace key value s.entries ‹_›
    · exact lookup_append_new key value s.entries ‹_›
  unfold find?
  rw [found]
  cases value with
  | null => exact absurd rfl h
  | _ => rfl

/-- Stores several values, one after the other. -/
def setAll (s : Store α) (values : List (String × Raw α)) : Store α :=
  values.foldl (fun s v => s.set v.1 v.2) s

end Store

/-! ## Readings -/

namespace Raw

variable {α : Type} [Scalar α]

/-- The words that stand for true. -/
def yesWords : List String := ["1", "true", "yes", "on"]

/-- The value as a switch: a text is on when it is one of a few words, in any case and with blanks
around it; every other value when it counts as true. -/
def switch : Raw α → Bool
  | .text s =>
    yesWords.contains (Text.lower (String.ofList (Text.trim Text.isBlank s.toList)))
  | raw => raw.truthy

/-- The value as a number, or `default` where it is none. -/
def numberOr (raw default : Raw α) : Except Fault (Raw α) :=
  match raw.number with
  | .ok v => .ok (.real v)
  | .error .notANumber | .error .wrongKind => .ok default
  | .error fault => .error fault

end Raw

namespace Store

variable {α : Type} [Scalar α]

/-- The value under a key as a switch. -/
def getSwitch (s : Store α) (key : String) (default : Raw α) : Bool := (s.get key default).switch

/-- The value under a key as a number. -/
def getNumber (s : Store α) (key : String) (default : Raw α) : Except Fault (Raw α) :=
  (s.get key default).numberOr default

end Store

/-! ## The preferences of the canvas -/

/-- A preference of the canvas. -/
inductive Preference where
  | showGrid
  | snapToGrid
  | gridSize
  | templateOpacity
deriving DecidableEq, Repr

namespace Preference

/-- The preferences, in the order in which they are stored. -/
def all : List Preference := [.showGrid, .snapToGrid, .gridSize, .templateOpacity]

/-- The preference's name. -/
def word : Preference → String
  | .showGrid => "show_grid"
  | .snapToGrid => "snap_to_grid"
  | .gridSize => "grid_size"
  | .templateOpacity => "template_opacity"

/-- The preference of a name. -/
def ofWord (s : String) : Except Fault Preference :=
  match all.find? (·.word == s) with
  | some p => .ok p
  | none => .error .unknownName

/-- The key under which a preference is stored. -/
def key (p : Preference) : String := "canvas/" ++ p.word

end Preference

namespace Store

variable {α : Type} [Scalar α]

/-- A stored switch of the canvas, off by default. -/
def canvasSwitch (s : Store α) (p : Preference) : Bool := s.getSwitch p.key (.bool false)

/-- The stored distance of the grid lines, a fraction being cut off. -/
def gridSize (s : Store α) : Except Fault Int := do
  let v ← s.getNumber Preference.gridSize.key (.real Defaults.gridSize)
  v.toWhole

/-- The stored opacity of templates. -/
def templateOpacity (s : Store α) : Except Fault α := do
  let v ← s.getNumber Preference.templateOpacity.key (.real Defaults.templateOpacity)
  v.number

/-- A stored preference. -/
def preference (s : Store α) : Preference → Except Fault (Raw α)
  | .showGrid => .ok (.bool (s.canvasSwitch .showGrid))
  | .snapToGrid => .ok (.bool (s.canvasSwitch .snapToGrid))
  | .gridSize => s.gridSize.map .whole
  | .templateOpacity => s.templateOpacity.map .real

/-- The document with which a session over this store starts. -/
def initialDocument? (s : Store α) : Except Fault (Document α) := do
  let size ← s.gridSize
  let opacity ← s.templateOpacity
  return { Document.empty with
    showGrid := s.canvasSwitch .showGrid
    snapToGrid := s.canvasSwitch .snapToGrid
    gridSize := Scalar.ofInt size
    templateOpacity := opacity }

end Store

/-- The preferences as a document has them. -/
structure Preferences (α : Type) where
  showGrid : Bool
  snapToGrid : Bool
  gridSize : α
  templateOpacity : α

namespace Preferences

variable {α : Type}

/-- The preferences of a document. -/
def ofDocument (d : Document α) : Preferences α :=
  ⟨d.showGrid, d.snapToGrid, d.gridSize, d.templateOpacity⟩

/-- One preference as a value to be stored. -/
def value (p : Preferences α) : Preference → Raw α
  | .showGrid => .bool p.showGrid
  | .snapToGrid => .bool p.snapToGrid
  | .gridSize => .real p.gridSize
  | .templateOpacity => .real p.templateOpacity

/-- Whether two documents agree in a preference. -/
def agree [Scalar α] (p q : Preferences α) : Preference → Bool
  | .showGrid => p.showGrid == q.showGrid
  | .snapToGrid => p.snapToGrid == q.snapToGrid
  | .gridSize => p.gridSize == q.gridSize
  | .templateOpacity => p.templateOpacity == q.templateOpacity

/-- The preferences that have to be stored, given those that were stored last: the ones that differ,
and at first all of them. -/
def pending [Scalar α] (last : Option (Preferences α)) (now : Preferences α) : List Preference :=
  match last with
  | none => Preference.all
  | some last => Preference.all.filter fun k => !last.agree now k

/-- The values that have to be stored. -/
def writes [Scalar α] (last : Option (Preferences α)) (now : Preferences α) :
    List (String × Raw α) :=
  (pending last now).map fun k => (k.key, now.value k)

end Preferences

/-! ## Keeping the preferences stored -/

/-- A store that follows the preferences of a document, with the preferences that it was given
last. -/
structure Keeper (α : Type) where
  store : Store α
  last : Option (Preferences α)

namespace Keeper

variable {α : Type}

/-- A keeper that has not followed anything yet. -/
def ofStore (s : Store α) : Keeper α := ⟨s, none⟩

/-- Stores a value under a key. -/
def set (k : Keeper α) (key : String) (value : Raw α) : Keeper α :=
  { k with store := k.store.set key value }

/-- Stores what has to be stored for a document: the keeper afterwards, and what was stored. -/
def follow [Scalar α] (k : Keeper α) (d : Document α) : Keeper α × List (String × Raw α) :=
  let now := Preferences.ofDocument d
  let writes := Preferences.writes k.last now
  (⟨k.store.setAll writes, some now⟩, writes)

end Keeper

end Compositor
