import Compositor.Proofs.Document.Restack
import Compositor.Proofs.Geometry.Inside
import Compositor.Proofs.Scalar.Order

/-!
# What a change of fields leaves alone

One operation changes every field of both kinds of layers, and it writes more than it was told to.
While the ratio of a video is kept, a side that is given alone brings the other one along, and a
change that turns the lock on sets the ratio, whatever ratio it names.  These three are the fields
that follow from others (`Layer.follows`).

So it is not enough to look at the fields one by one, as `Layer.changed` writes them.  Here the
fields are data (`Field`), and the layer after a change is told by one statement about all of them
(`Layer.Edited`): a field that follows has a value within its limits, one that is named has what its
value is taken for, and every other one is as it was.  A layer is its id and its fields
(`Layer.eq_of_value?_eq`), so nothing is left out.
-/

namespace Compositor

variable {α : Type}

/-! ## 1. The fields of a layer -/

/-- The fields of layers that a change can name. -/
inductive Field where
  | name
  | x
  | y
  | visible
  | zIndex
  | width
  | height
  | aspectLocked
  | aspectRatio
  | text
  | fontSize
  | fontFamily
  | color
  | bold
  | italic
deriving DecidableEq, Repr

/-- The value of a field, if layers of this kind have it. -/
def Layer.value? (l : Layer α) : Field → Option (Raw α)
  | .name => some (.text l.name)
  | .x => some (.real l.x)
  | .y => some (.real l.y)
  | .visible => some l.visible.value
  | .zIndex => some (.whole l.zIndex)
  | .width => l.clip?.map fun clip => .real clip.width
  | .height => l.clip?.map fun clip => .real clip.height
  | .aspectLocked => l.clip?.map fun clip => clip.aspectLocked.value
  | .aspectRatio => l.clip?.map fun clip => .real clip.aspectRatio
  | .text => l.caption?.map fun caption => .text caption.text
  | .fontSize => l.caption?.map fun caption => .real caption.font.size
  | .fontFamily => l.caption?.map fun caption => .text caption.font.family
  | .color => l.caption?.map fun caption => .text caption.color
  | .bold => l.caption?.map fun caption => caption.font.bold.value
  | .italic => l.caption?.map fun caption => caption.font.italic.value

/-- The value that a change gives for a field, if it names the field. -/
def Changes.given? (c : Changes α) : Field → Option (Raw α)
  | .name => c.name.map .text
  | .x => c.x.map .real
  | .y => c.y.map .real
  | .visible => c.visible.map (·.value)
  | .zIndex => c.zIndex.map .whole
  | .width => c.width
  | .height => c.height
  | .aspectLocked => c.aspectLocked.map (·.value)
  | .aspectRatio => c.aspectRatio.map .real
  | .text => c.text.map .text
  | .fontSize => c.fontSize
  | .fontFamily => c.fontFamily
  | .color => c.color.map .text
  | .bold => c.bold.map (·.value)
  | .italic => c.italic.map (·.value)

/-- **A layer is its id and its fields.** -/
theorem Layer.eq_of_value?_eq {l m : Layer α} (hid : l.id = m.id)
    (hvalue : ∀ f, l.value? f = m.value? f) : l = m := by
  obtain ⟨id, name, x, y, ⟨visible⟩, zIndex, content⟩ := l
  obtain ⟨id', name', x', y', ⟨visible'⟩, zIndex', content'⟩ := m
  have hplace : name = name' ∧ x = x' ∧ y = y' ∧ visible = visible' ∧ zIndex = zIndex' := by
    simpa [value?] using And.intro (hvalue .name) <| And.intro (hvalue .x) <|
      And.intro (hvalue .y) <| And.intro (hvalue .visible) (hvalue .zIndex)
  have hcontent : content = content' := by
    -- Only videos have a width, so the fields tell the kinds apart.
    cases content with
    | video clip =>
      cases content' with
      | text caption => exact nomatch hvalue .width
      | video clip' =>
        obtain ⟨width, height, ⟨locked⟩, ratio⟩ := clip
        obtain ⟨width', height', ⟨locked'⟩, ratio'⟩ := clip'
        simpa [value?, clip?] using And.intro (hvalue .width) <| And.intro (hvalue .height) <|
          And.intro (hvalue .aspectLocked) (hvalue .aspectRatio)
    | text caption =>
      cases content' with
      | video clip => exact nomatch hvalue .width
      | text caption' =>
        obtain ⟨text, ⟨family, size, ⟨bold⟩, ⟨italic⟩⟩, color⟩ := caption
        obtain ⟨text', ⟨family', size', ⟨bold'⟩, ⟨italic'⟩⟩, color'⟩ := caption'
        simpa [value?, caption?, and_assoc] using And.intro (hvalue .text) <|
          And.intro (And.intro (hvalue .fontFamily) <| And.intro (hvalue .fontSize) <|
            And.intro (hvalue .bold) (hvalue .italic)) (hvalue .color)
  obtain ⟨rfl, rfl, rfl, rfl, rfl⟩ := hplace
  rw [hcontent, show id = id' from hid]

/-- Whether there is a field is a matter of the fields there are. -/
theorem Field.exists_iff {P : Field → Prop} :
    (∃ f, P f) ↔ P .name ∨ P .x ∨ P .y ∨ P .visible ∨ P .zIndex ∨ P .width ∨ P .height ∨
      P .aspectLocked ∨ P .aspectRatio ∨ P .text ∨ P .fontSize ∨ P .fontFamily ∨ P .color ∨
      P .bold ∨ P .italic := by
  constructor
  · rintro ⟨f, h⟩
    cases f <;> simp [h]
  · rintro (h | h | h | h | h | h | h | h | h | h | h | h | h | h | h) <;> exact ⟨_, h⟩

/-- A change touches a layer of this kind exactly if it names a field of the layer. -/
theorem Changes.touches_iff (c : Changes α) (l : Layer α) :
    c.touches l.kind = true ↔ ∃ f, (l.value? f).isSome = true ∧ (c.given? f).isSome = true := by
  rw [Field.exists_iff]
  cases hcontent : l.content <;>
    simp [Layer.kind, hcontent, Layer.value?, Layer.clip?, Layer.caption?, given?, touches,
      touchesAny, touchesVideo, touchesText, or_assoc]

/-! ## 2. What a field takes -/

variable [Scalar α]

/-- What a value that is given for a field is taken for. -/
def Field.taken (raw : Raw α) : Field → Except Fault (Raw α)
  | .width | .height => (sideOf raw).map .real
  | .fontSize => (fontSizeOf raw).map .real
  | .fontFamily => .ok (.text (fontFamilyOf raw))
  | _ => .ok raw

/-- The limits of a field: no side is shorter than fifty, no letters are smaller than twelve, and no
family is unknown. -/
def Field.Admits (v : Raw α) : Field → Prop
  | .width | .height => ∃ side, v = .real side ∧ Scalar.ofInt 50 ≤ side
  | .fontSize => ∃ size, v = .real size ∧ Scalar.ofInt 12 ≤ size
  | .fontFamily => ∃ family ∈ Defaults.fontFamilies, v = .text family
  | _ => True

/-- The limits of the numbers that are given are as large as themselves. -/
class Scalar.Limited (α : Type) [Scalar α] : Prop extends Scalar.Lawful α where
  minSide_le_self : (Defaults.minSide : α) ≤ Defaults.minSide
  minFontSize_le_self : (Defaults.minFontSize : α) ≤ Defaults.minFontSize

instance : Scalar.Limited Rat where
  minSide_le_self := le_refl _
  minFontSize_le_self := le_refl _

instance : Scalar.Limited Float where
  minSide_le_self := by decide
  minFontSize_le_self := by decide

section

variable [Scalar.Limited α] {raw : Raw α}

/-- A side that is given is no shorter than fifty. -/
theorem minSide_le_of_sideOf {side : α} (h : sideOf raw = .ok side) :
    Defaults.minSide ≤ side := by
  obtain ⟨v, -, hside⟩ := Fault.of_bind_eq_ok h
  cases hside
  exact Scalar.le_larger Scalar.Limited.minSide_le_self v

/-- A side that follows is no shorter than fifty. -/
theorem minSide_le_of_followingSide {v side : α} (h : followingSide v = .ok side) :
    Defaults.minSide ≤ side := by
  obtain ⟨n, -, hside⟩ := Fault.of_bind_eq_ok h
  cases hside
  exact Scalar.le_larger Scalar.Limited.minSide_le_self _

/-- A size of letters that is given is no smaller than twelve. -/
theorem minFontSize_le_of_fontSizeOf {size : α} (h : fontSizeOf raw = .ok size) :
    Defaults.minFontSize ≤ size := by
  unfold fontSizeOf at h
  split at h
  all_goals cases h
  all_goals exact Scalar.le_larger Scalar.Limited.minFontSize_le_self _

omit [Scalar α] [Scalar.Limited α] in
/-- A family that is given is a known one. -/
theorem fontFamilyOf_mem (raw : Raw α) : fontFamilyOf raw ∈ Defaults.fontFamilies := by
  unfold fontFamilyOf
  split
  · exact Defaults.knownFamily_mem _
  · decide

/-- **What a value is taken for is within the limits of its field.** -/
theorem Field.admits_of_taken {f : Field} {v : Raw α} (h : f.taken raw = .ok v) : f.Admits v := by
  cases f with
  | width | height =>
    obtain ⟨side, hside, rfl⟩ := Fault.of_map_eq_ok h
    exact ⟨side, rfl, minSide_le_of_sideOf hside⟩
  | fontSize =>
    obtain ⟨size, hsize, rfl⟩ := Fault.of_map_eq_ok h
    exact ⟨size, rfl, minFontSize_le_of_fontSizeOf hsize⟩
  | fontFamily =>
    cases h
    exact ⟨_, fontFamilyOf_mem raw, rfl⟩
  | _ => trivial

end

/-! ## 3. A layer after a change -/

/-- Whether a field of a layer follows from others in a change: while the ratio is kept, each side
from the other one if only that is given, and the ratio if the lock is turned on. -/
def Layer.follows (l : Layer α) (c : Changes α) (f : Field) : Bool :=
  l.clip?.any fun clip =>
    match f with
    | .width => Rect.keepsRatio clip.aspectLocked.isOn clip.aspectRatio && !c.width.isSome
        && c.height.isSome
    | .height => Rect.keepsRatio clip.aspectLocked.isOn clip.aspectRatio && !c.height.isSome
        && c.width.isSome
    | .aspectRatio => c.aspectLocked.any (·.isTrue)
    | _ => false

/-- What becomes of one field when a layer is changed to another one. -/
inductive Layer.Rewritten (c : Changes α) (l l' : Layer α) (f : Field) : Prop
  /-- It is not named, or layers of this kind have no such field, and it is as it was. -/
  | kept (unnamed : c.given? f = none ∨ l.value? f = none) (free : l.follows c f = false)
      (value_eq : l'.value? f = l.value? f)
  /-- It is named, and has what its value is taken for, which is within its limits. -/
  | given (raw v : Raw α) (named : c.given? f = some raw) (free : l.follows c f = false)
      (taken_ok : f.taken raw = .ok v) (admitted : f.Admits v) (value_eq : l'.value? f = some v)
  /-- It follows from others, and has a value within its limits. -/
  | followed (v : Raw α) (bound : l.follows c f = true) (admitted : f.Admits v)
      (value_eq : l'.value? f = some v)

/-- What a layer is after a change: its id and its kind are as they were, and each of its fields is
kept, given or follows. -/
structure Layer.Edited (c : Changes α) (l l' : Layer α) : Prop where
  id_eq : l'.id = l.id
  kind_eq : l'.kind = l.kind
  rewritten : ∀ f, l.Rewritten c l' f

variable {c : Changes α}

section

variable {clip clip' : Clip α}

/-- What a change makes of a video, but for what becomes of its sides. -/
theorem Clip.exists_of_changed (h : clip.changed c = .ok clip') :
    ∃ width height, c.width.mapM sideOf = .ok width ∧ c.height.mapM sideOf = .ok height ∧
      clip.changedSides width height = .ok ⟨clip'.width, clip'.height⟩ ∧
      clip'.aspectLocked = c.aspectLocked.getD clip.aspectLocked ∧
      (c.aspectLocked.any (·.isTrue) = false →
        clip'.aspectRatio = c.aspectRatio.getD clip.aspectRatio) := by
  obtain ⟨width, hwidth, h⟩ := Fault.of_bind_eq_ok h
  obtain ⟨height, hheight, h⟩ := Fault.of_bind_eq_ok h
  obtain ⟨sides, hsides, h⟩ := Fault.of_bind_eq_ok h
  split at h
  · rename_i hlocks
    obtain ⟨ratio, -, h⟩ := Fault.of_bind_eq_ok h
    cases h
    exact ⟨width, height, hwidth, hheight, hsides, rfl, fun hopen =>
      absurd (hlocks.symm.trans hopen) Bool.noConfusion⟩
  · cases h
    exact ⟨width, height, hwidth, hheight, hsides, rfl, fun _ => rfl⟩

/-- **Each side of a video follows from the other one, or is the one that is given, or stays.** -/
theorem Clip.cases_of_changedSides {width height : Option α} {sides : Extent α}
    (h : clip.changedSides width height = .ok sides) :
    (if Rect.keepsRatio clip.aspectLocked.isOn clip.aspectRatio && !width.isSome
        && height.isSome then ∃ v, followingSide v = .ok sides.width
      else sides.width = width.getD clip.width) ∧
    (if Rect.keepsRatio clip.aspectLocked.isOn clip.aspectRatio && !height.isSome
        && width.isSome then ∃ v, followingSide v = .ok sides.height
      else sides.height = height.getD clip.height) := by
  unfold changedSides at h
  -- The lock and the ratio are asked for under the name that resizing has for them.
  change (if Rect.keepsRatio clip.aspectLocked.isOn clip.aspectRatio then _ else _) = _ at h
  cases hkeeps : Rect.keepsRatio clip.aspectLocked.isOn clip.aspectRatio with
  | false =>
    rw [hkeeps] at h
    cases h
    exact ⟨rfl, rfl⟩
  | true =>
    rw [hkeeps, if_pos rfl] at h
    cases width with
    | none =>
      cases height with
      | none =>
        cases h
        exact ⟨rfl, rfl⟩
      | some v =>
        obtain ⟨w, hw, h⟩ := Fault.of_bind_eq_ok h
        cases h
        exact ⟨⟨_, hw⟩, rfl⟩
    | some w =>
      cases height with
      | none =>
        obtain ⟨q, -, h⟩ := Fault.of_bind_eq_ok h
        obtain ⟨v, hv, h⟩ := Fault.of_bind_eq_ok h
        cases h
        exact ⟨rfl, q, hv⟩
      | some v =>
        cases h
        exact ⟨rfl, rfl⟩

end

/-! ## 4. Each field after a change -/

section

variable {l l' : Layer α} {f : Field}

omit [Scalar α] in
/-- What is given, or else stays, as a value of a field. -/
theorem some_getD_eq_or {β : Type} (g : β → Raw α) (given? : Option β) (before : β) :
    some (g (given?.getD before)) = (given?.map g).or (some (g before)) := by
  cases given? <;> rfl

variable [Scalar.Limited α]

/-- A field that is given has what its value is taken for. -/
theorem Layer.Rewritten.of_given {raw v : Raw α} (hgiven : c.given? f = some raw)
    (hfree : l.follows c f = false) (htaken : f.taken raw = .ok v) (hvalue : l'.value? f = some v) :
    l.Rewritten c l' f :=
  .given raw v hgiven hfree htaken (Field.admits_of_taken htaken) hvalue

/-- A field that takes values as they are is kept or given if it has the value that is given, or
else the one it had. -/
theorem Layer.Rewritten.of_or (hplain : ∀ raw : Raw α, f.taken raw = .ok raw)
    (hfree : l.follows c f = false) (hvalue : l'.value? f = (c.given? f).or (l.value? f)) :
    l.Rewritten c l' f := by
  cases hgiven : c.given? f with
  | none =>
    rw [hgiven] at hvalue
    exact .kept (.inl hgiven) hfree hvalue
  | some raw =>
    rw [hgiven] at hvalue
    exact .of_given hgiven hfree (hplain raw) hvalue

/-- A field that takes numbers is kept or given if it has the number that is taken, or else the one
it had. -/
theorem Layer.Rewritten.of_taken {take : Raw α → Except Fault α} {taken? : Option α}
    (htake : ∀ raw, f.taken raw = (take raw).map .real)
    (htaken : (c.given? f).mapM take = .ok taken?) (hfree : l.follows c f = false)
    (hvalue : l'.value? f = (taken?.map .real).or (l.value? f)) : l.Rewritten c l' f := by
  obtain ⟨hgiven, rfl⟩ | ⟨raw, v, hgiven, rfl, hv⟩ := Fault.cases_of_mapM htaken
  · exact .kept (.inl hgiven) hfree hvalue
  · exact .of_given hgiven hfree ((htake raw).trans (congrArg _ hv)) hvalue

/-- A side is kept or given, or follows the other one. -/
theorem Layer.Rewritten.of_side {side? : Option α} {before after : α}
    (hf : f = .width ∨ f = .height) (hside : (c.given? f).mapM sideOf = .ok side?)
    (hbefore : l.value? f = some (.real before)) (hafter : l'.value? f = some (.real after))
    (h : if l.follows c f then ∃ v, followingSide v = .ok after else after = side?.getD before) :
    l.Rewritten c l' f := by
  split at h
  · rename_i hfollows
    obtain ⟨v, hv⟩ := h
    have hlimit := minSide_le_of_followingSide hv
    refine .followed _ hfollows ?_ hafter
    rcases hf with rfl | rfl <;> exact ⟨after, rfl, hlimit⟩
  · rename_i hfree
    refine .of_taken (fun raw => ?_) hside (Bool.eq_false_iff.mpr hfree) ?_
    · rcases hf with rfl | rfl <;> rfl
    · rw [hafter, hbefore, h]
      exact some_getD_eq_or _ _ _

/-- The ratio of a video is kept or given, or follows from its sides. -/
theorem Layer.Rewritten.of_ratio {clip clip' : Clip α} (hl : l.content = .video clip)
    (hl' : l'.content = .video clip') (hratio : c.aspectLocked.any (·.isTrue) = false →
      clip'.aspectRatio = c.aspectRatio.getD clip.aspectRatio) :
    l.Rewritten c l' .aspectRatio := by
  have hvalue : l.value? .aspectRatio = some (.real clip.aspectRatio) := by
    rw [value?, clip?, hl]
    rfl
  have hvalue' : l'.value? .aspectRatio = some (.real clip'.aspectRatio) := by
    rw [value?, clip?, hl']
    rfl
  have hfollows : l.follows c .aspectRatio = c.aspectLocked.any (·.isTrue) := by
    rw [follows, clip?, hl]
    rfl
  cases hlocks : c.aspectLocked.any (·.isTrue) with
  | true => exact .followed _ (hfollows.trans hlocks) trivial hvalue'
  | false =>
    refine .of_or (fun _ => rfl) (hfollows.trans hlocks) ?_
    rw [hvalue, hvalue', hratio hlocks]
    exact some_getD_eq_or _ _ _

/-- A field that layers of both kinds have is kept or given. -/
theorem Layer.Rewritten.of_place {content' : Content α}
    (hf : f ∈ [.name, .x, .y, .visible, .zIndex]) :
    l.Rewritten c ⟨l.id, c.name.getD l.name, c.x.getD l.x, c.y.getD l.y, c.visible.getD l.visible,
      c.zIndex.getD l.zIndex, content'⟩ f := by
  have hfree : l.follows c f = false := by
    unfold follows
    cases l.clip? with
    | none => rfl
    | some clip => cases f <;> first | rfl | exact absurd hf (by decide)
  simp only [List.mem_cons, List.not_mem_nil, or_false] at hf
  rcases hf with rfl | rfl | rfl | rfl | rfl <;>
    exact .of_or (fun _ => rfl) hfree (some_getD_eq_or _ _ _)

/-- **Each field of a layer is kept, given or follows** when the layer is changed. -/
theorem Layer.edited_of_changed (h : l.changed c = .ok l') : l.Edited c l' := by
  obtain ⟨hid, hkind, -⟩ := changed_keeps h
  refine ⟨hid, hkind, fun f => ?_⟩
  obtain ⟨content', hcontent, hl⟩ := Fault.of_bind_eq_ok h
  cases hl
  obtain ⟨id, name, x, y, visible, zIndex, content⟩ := l
  cases content with
  | video clip =>
    obtain ⟨clip', hclip', hcontent⟩ := Fault.of_bind_eq_ok hcontent
    cases hcontent
    obtain ⟨width, height, hwidth, hheight, hsides, hlocked, hratio⟩ :=
      Clip.exists_of_changed hclip'
    have hgiven := Fault.isSome_of_mapM hwidth
    have hgiven' := Fault.isSome_of_mapM hheight
    cases f with
    | name | x | y | visible | zIndex => exact .of_place (by decide)
    | width =>
      refine .of_side (.inl rfl) hwidth rfl rfl ?_
      simpa [follows, clip?, hgiven, hgiven'] using (Clip.cases_of_changedSides hsides).1
    | height =>
      refine .of_side (.inr rfl) hheight rfl rfl ?_
      simpa [follows, clip?, hgiven, hgiven'] using (Clip.cases_of_changedSides hsides).2
    | aspectLocked =>
      refine .of_or (fun _ => rfl) rfl ?_
      exact (congrArg (some ·.value) hlocked).trans
        (some_getD_eq_or (·.value) c.aspectLocked clip.aspectLocked)
    | aspectRatio => exact .of_ratio rfl rfl hratio
    | text | fontSize | fontFamily | color | bold | italic => exact .kept (.inr rfl) rfl rfl
  | text caption =>
    obtain ⟨caption', hcaption', hcontent⟩ := Fault.of_bind_eq_ok hcontent
    cases hcontent
    obtain ⟨size, hsize, hcaption'⟩ := Fault.of_bind_eq_ok hcaption'
    cases hcaption'
    cases f with
    | name | x | y | visible | zIndex => exact .of_place (by decide)
    | width | height | aspectLocked | aspectRatio => exact .kept (.inr rfl) rfl rfl
    | text | color | bold | italic =>
      exact .of_or (fun _ => rfl) rfl (some_getD_eq_or _ _ _)
    | fontSize => exact .of_taken (fun _ => rfl) hsize rfl (some_getD_eq_or _ _ _)
    | fontFamily =>
      cases hfamily : c.fontFamily with
      | none => exact .kept (.inl hfamily) rfl (by simp [value?, caption?])
      | some raw =>
        refine .of_given hfamily rfl rfl ?_
        simp [value?, caption?]

omit [Scalar.Limited α] in
/-- Nothing follows in a layer of which no field is named. -/
theorem Layer.follows_eq_false (h : c.touches l.kind = false) (f : Field) :
    l.follows c f = false := by
  cases hcontent : l.content with
  | text caption => simp [follows, clip?, hcontent]
  | video clip =>
    simp only [kind, hcontent, Changes.touches, Changes.touchesVideo, Bool.or_eq_false_iff,
      Option.isSome_eq_false_iff, Option.isNone_iff_eq_none] at h
    obtain ⟨-, ⟨⟨hwidth, hheight⟩, hlocked⟩, -⟩ := h
    cases f <;> simp [follows, clip?, hcontent, hwidth, hheight, hlocked]

omit [Scalar.Limited α] in
/-- A layer of which no field is named is what it was. -/
theorem Layer.edited_self (h : c.touches l.kind = false) : l.Edited c l := by
  refine ⟨rfl, rfl, fun f => .kept ?_ (follows_eq_false h f) rfl⟩
  by_contra hnamed
  rw [not_or] at hnamed
  refine absurd ((c.touches_iff l).mpr ⟨f, ?_, ?_⟩) (Bool.eq_false_iff.mp h)
  · exact Option.isSome_iff_ne_none.mpr hnamed.2
  · exact Option.isSome_iff_ne_none.mpr hnamed.1

end

/-! ## 5. Changes that are refused -/

/-- A field of a layer for which a change is refused: the value that is given for it cannot be
taken, or it follows from others. -/
def Layer.Refuses (l : Layer α) (c : Changes α) (fault : Fault) (f : Field) : Prop :=
  (l.value? f).isSome = true ∧
    ((∃ raw, c.given? f = some raw ∧ f.taken raw = .error fault) ∨ l.follows c f = true)

/-- A number that may be given for a field is refused only if it is given and cannot be taken. -/
theorem Layer.Refuses.of_mapM {l : Layer α} {f : Field} {fault : Fault}
    {take : Raw α → Except Fault α} (hfield : (l.value? f).isSome = true)
    (htake : ∀ raw, f.taken raw = (take raw).map .real)
    (h : (c.given? f).mapM take = .error fault) : l.Refuses c fault f := by
  cases hgiven : c.given? f with
  | none =>
    rw [hgiven] at h
    exact nomatch h
  | some raw =>
    rw [hgiven] at h
    have hraw : take raw = .error fault := Fault.of_bind_pure_eq_error h
    exact ⟨hfield, .inl ⟨raw, hgiven, (htake raw).trans (congrArg _ hraw)⟩⟩

section

variable {clip : Clip α} {fault : Fault}

/-- The sides of a video are refused only where one of them follows. -/
theorem Clip.exists_of_changedSides_eq_error {width height : Option α}
    (h : clip.changedSides width height = .error fault) :
    Rect.keepsRatio clip.aspectLocked.isOn clip.aspectRatio = true ∧
      width.isSome = !height.isSome := by
  unfold changedSides at h
  change (if Rect.keepsRatio clip.aspectLocked.isOn clip.aspectRatio then _ else _) = _ at h
  split at h
  · rename_i hkeeps
    refine ⟨hkeeps, ?_⟩
    cases width <;> cases height <;> first | rfl | exact nomatch h
  · exact nomatch h

/-- **A change of a layer is refused only for one of its fields.** -/
theorem Layer.exists_refuses_of_changed {l : Layer α} (h : l.changed c = .error fault) :
    ∃ f, l.Refuses c fault f := by
  replace h : l.changedContent c = .error fault := Fault.of_bind_pure_eq_error h
  obtain ⟨id, name, x, y, visible, zIndex, content⟩ := l
  cases content with
  | text caption =>
    replace h : caption.changed c = .error fault := Fault.of_bind_pure_eq_error h
    replace h : c.fontSize.mapM fontSizeOf = .error fault := Fault.of_bind_pure_eq_error h
    exact ⟨.fontSize, .of_mapM rfl (fun _ => rfl) h⟩
  | video clip =>
    replace h : clip.changed c = .error fault := Fault.of_bind_pure_eq_error h
    obtain hside | ⟨width, hwidth, h⟩ := Fault.of_bind_eq_error h
    · exact ⟨.width, .of_mapM rfl (fun _ => rfl) hside⟩
    obtain hside | ⟨height, hheight, h⟩ := Fault.of_bind_eq_error h
    · exact ⟨.height, .of_mapM rfl (fun _ => rfl) hside⟩
    obtain hsides | ⟨sides, -, h⟩ := Fault.of_bind_eq_error h
    · obtain ⟨hkeeps, hone⟩ := Clip.exists_of_changedSides_eq_error hsides
      rw [Fault.isSome_of_mapM hwidth, Fault.isSome_of_mapM hheight] at hone
      -- The side that is not given is the one that follows.
      cases hgiven : c.height.isSome with
      | true => exact ⟨.width, rfl, .inr (by simp [follows, clip?, hkeeps, hone, hgiven])⟩
      | false => exact ⟨.height, rfl, .inr (by simp [follows, clip?, hkeeps, hone, hgiven])⟩
    split at h
    · rename_i hlocks
      exact ⟨.aspectRatio, rfl, .inr hlocks⟩
    · exact nomatch h

end

/-! ## 6. Documents -/

/-- What an update makes of a layer keeps the fields that it does not name. -/
theorem Layer.edited_of_updatedTo [Scalar.Limited α] {l l' : Layer α}
    (h : Document.updatedTo c l = .ok l') : l.Edited c l' := by
  unfold Document.updatedTo at h
  split at h
  · exact edited_of_changed h
  · rename_i huntouched
    cases h
    exact edited_self (Bool.eq_false_iff.mpr huntouched)

namespace Document

variable {d : Document α} {id : String}

/-- No layer is found under an id that none has. -/
theorem layer?_of_not_mem {α : Type} {d : Document α} {id : String}
    (h : id ∉ d.layers.map Layer.id) : d.layer? id = none := by
  refine Option.eq_none_iff_forall_ne_some.mpr fun l hl => h ?_
  obtain ⟨hmem, rfl⟩ := mem_of_layer? hl
  exact List.mem_map_of_mem hmem

/-- An update that is not refused for its names is refused only for a field of the layer that is
found. -/
theorem exists_refuses_of_edit {fault : Fault} (h : d.edit id (updatedTo c) = .error fault) :
    ∃ l ∈ d.layers, l.id = id ∧ ∃ f, l.Refuses c fault f := by
  unfold edit at h
  split at h
  · exact nomatch h
  · rename_i l hl
    refine ⟨l, (mem_of_layer? hl).1, (mem_of_layer? hl).2, Layer.exists_refuses_of_changed ?_⟩
    replace h := Fault.of_map_eq_error h
    unfold updatedTo at h
    split at h
    · exact h
    · exact nomatch h

/-- An update that names no field of the layer with the id leaves the document as it is. -/
theorem edit_of_unnamed (hids : (d.layers.map Layer.id).Nodup)
    (h : ∀ l ∈ d.layers, l.id = id → ∀ f, (l.value? f).isSome = true → c.given? f = none) :
    d.edit id (updatedTo c) = .ok d := by
  unfold edit
  split
  · rfl
  · rename_i l hl
    obtain ⟨hmem, hid⟩ := mem_of_layer? hl
    have huntouched : ¬ c.touches l.kind = true := by
      rw [c.touches_iff l]
      rintro ⟨f, hfield, hgiven⟩
      rw [h l hmem hid f hfield] at hgiven
      exact nomatch hgiven
    rw [updatedTo, if_neg huntouched]
    exact congrArg Except.ok (replace_of_mem hids hmem)

variable [Scalar.Limited α]

/-- **What a change of fields does to a document in which no two layers share an id.**  Either it is
refused, for a reserved name or for a field of the layer with the id, or it gives a document that
differs from the given one in that layer at most; each field of the layer is kept, given or follows
from others, within its limits.  Where it names no field of the layer, the document stays the
same. -/
theorem update_frame (hids : (d.layers.map Layer.id).Nodup) (id : String) (c : Changes α) :
    (∀ d', d.update id c = .ok d' →
      (id ∉ d.layers.map Layer.id → d' = d) ∧
      ∀ before l after, d.layers = before ++ l :: after → l.id = id →
        ∃ l', l.Edited c l' ∧ d' = { d with layers := before ++ l' :: after }) ∧
    (∀ fault, d.update id c = .error fault →
      c.otherNames.any reservedNames.contains = true ∨
        ∃ l ∈ d.layers, l.id = id ∧ ∃ f, l.Refuses c fault f) ∧
    ((∀ l ∈ d.layers, l.id = id → ∀ f, (l.value? f).isSome = true → c.given? f = none) →
      d.update id c =
        if c.otherNames.any reservedNames.contains then .error .wrongKind else .ok d) := by
  rw [update_eq_edit hids]
  refine ⟨fun d' h => ?_, fun fault h => ?_, fun hunnamed => by rw [edit_of_unnamed hids hunnamed]⟩
  · split at h
    · exact nomatch h
    refine ⟨fun habsent => ?_, fun before l after hlayers hl => ?_⟩
    · rw [edit, layer?_of_not_mem habsent] at h
      cases h
      rfl
    · subst hl
      -- No other layer has the id, so this is the one that is found, and its place the only one.
      have hfound : d.layer? l.id = some l :=
        Layer.find?_of_mem hids (hlayers ▸ List.mem_append_right _ List.mem_cons_self)
      rw [edit, hfound] at h
      obtain ⟨l', hupdated, rfl⟩ := Fault.of_map_eq_ok h
      have hedited := Layer.edited_of_updatedTo hupdated
      rw [hlayers] at hids
      rw [replace, hlayers, Layer.replaceIn_append_cons hids hedited.id_eq.symm]
      exact ⟨l', hedited, rfl⟩
  · split at h
    · rename_i hreserved
      exact .inl hreserved
    · exact .inr (exists_refuses_of_edit h)

/-- A locked video is made narrower and moved, and gets a color, which videos have none of; the text
above it gets a width. -/
theorem update_frame_locked :
    let video : Layer Float :=
      ⟨"video-1", "Video 1", 20, 20, .ofBool true, 1, .video ⟨400, 200, .ofBool true, 2⟩⟩
    let text : Layer Float := ⟨"text-2", "Text 1", 20, 20, .ofBool true, 2, .text .initial⟩
    let d := (empty.append video).append text
    let c : Changes Float := { x := some 7, width := some (.whole 60), color := some "#000000" }
    (d.layers.map Layer.id).Nodup ∧
    (∃ video' height, d.update "video-1" c = .ok { d with layers := [video', text] } ∧
      video.Edited c video' ∧ video.follows c .height = true ∧
      video'.value? .height = some (.real height) ∧ 50 ≤ height) ∧
    d.update "text-2" { width := some (.whole 60) } = .ok d := by
  intro video text d c
  have hids : (d.layers.map Layer.id).Nodup := by decide
  refine ⟨hids, ?_, ?_⟩
  · have hdone : (d.update "video-1" c).toOption.isSome = true := by decide +kernel
    have hfollows : video.follows c .height = true := by decide +kernel
    cases hd' : d.update "video-1" c with
    | error fault =>
      rw [hd'] at hdone
      exact nomatch hdone
    | ok d' =>
      obtain ⟨video', hedited, rfl⟩ := ((update_frame hids "video-1" c).1 d' hd').2 [] video [text]
        rfl rfl
      cases hedited.rewritten .height with
      | kept _ hfree => exact absurd (hfollows.symm.trans hfree) Bool.noConfusion
      | given _ _ _ hfree => exact absurd (hfollows.symm.trans hfree) Bool.noConfusion
      | followed v _ hadmits hvalue =>
        obtain ⟨height, rfl, hlimit⟩ := hadmits
        exact ⟨video', height, rfl, hedited, hfollows, hvalue, hlimit⟩
  · refine (update_frame hids "text-2" _).2.2 fun l hl hid f hfield => ?_
    have htext : text ∈ d.layers := List.mem_cons_of_mem _ List.mem_cons_self
    obtain rfl : l = text := List.inj_on_of_nodup_map hids hl htext hid
    cases f <;> first | rfl | exact nomatch hfield

end Document

end Compositor
