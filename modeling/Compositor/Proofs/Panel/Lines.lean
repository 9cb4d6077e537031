import Compositor.Panel.Commit
import Compositor.Scalar.Binary
import Mathlib.Data.List.Induction

/-!
# Whose text a line holds

The form of the selected layer has ten lines, which keep their texts until others are put in, and
one id, which is that of the layer shown last.  What is typed into a line, or left in it, is entered
for the layer of this id.  So it should be the text of this layer that is in the lines of the page,
and it is as long as the page is filled: each line is filled with the text of the layer whose id is
taken over at the same time.  But a line in which the user types is passed over, and so is all that
follows a number that cannot be shown, while the id is taken over all the same.

The history of a form is the list of what it was asked to show.  It says which text each line holds,
and for which layer this text was put in (`origin?`, `line_shown`).  The lines of the page own their
texts (`Owning`) if what they would enter is for the layer that it was put in for; and that is so
exactly if each line that was passed over last had got its text for the same layer before
(`owning_concat_iff`).  It is so after a whole history in which lines are passed over only while the
same layer is shown again (`owning_of_steady`).  It is not so if the user types in a line while
another layer is selected: the form then enters the one layer's text for the other.
-/

namespace Compositor.Panel

/-! ## 1. What a filling puts in -/

/-- What a filling puts in: all that stands before the first thing that cannot be shown. -/
def placed : Filling → List (String × Setting)
  | [] => []
  | (_, .error _) :: _ => []
  | (key, .ok s) :: rest => (key, s) :: placed rest

/-- A filled form has got what the filling puts in, one after the other. -/
theorem form_fill_eq {F : Type} {put : F → String → Setting → F × List Signal} (filling : Filling) :
    ∀ form, (fill put form filling).form
      = (placed filling).foldl (fun f entry => (put f entry.1 entry.2).1) form := by
  induction filling with
  | nil => intro form; rfl
  | cons entry rest ih =>
    intro form
    obtain ⟨key, shown⟩ := entry
    cases shown with
    | error fault => rfl
    | ok s => exact ih _

/-- What is put in stands in the filling. -/
theorem mem_of_mem_placed {filling : Filling} {key : String} {s : Setting}
    (h : (key, s) ∈ placed filling) : (key, .ok s) ∈ filling := by
  induction filling with
  | nil => exact nomatch h
  | cons entry rest ih =>
    obtain ⟨key', shown⟩ := entry
    cases shown with
    | error fault => exact nomatch h
    | ok s' =>
      rcases List.mem_cons.mp h with heq | hrest
      · cases heq
        exact List.mem_cons_self
      · exact List.mem_cons_of_mem _ (ih hrest)

/-- If all of a filling can be shown, all of it is put in. -/
theorem exists_mem_placed {filling : Filling} (h : fault? filling = none) {key : String}
    {shown : Except Fault Setting} (hmem : (key, shown) ∈ filling) :
    ∃ s, shown = .ok s ∧ (key, s) ∈ placed filling := by
  induction filling with
  | nil => exact nomatch hmem
  | cons entry rest ih =>
    obtain ⟨key', shown'⟩ := entry
    cases shown' with
    | error fault => exact nomatch h
    | ok s' =>
      rcases List.mem_cons.mp hmem with heq | hrest
      · cases heq
        exact ⟨s', rfl, List.mem_cons_self⟩
      · obtain ⟨s, hs, hplaced⟩ := ih h hrest
        exact ⟨s, hs, List.mem_cons_of_mem _ hplaced⟩

/-- The text that is put into a line, if a setting is one. -/
def Setting.text? : Setting → Option String
  | .text s => some s
  | _ => none

/-- The text that is put into a line last. -/
def lastText (key : String) : List (String × Setting) → Option String
  | [] => none
  | entry :: rest => (lastText key rest).or (if entry.1 = key then entry.2.text? else none)

/-- The text that is put in last is one that is put in. -/
theorem mem_of_lastText {key text : String} {entries : List (String × Setting)}
    (h : lastText key entries = some text) : (key, .text text) ∈ entries := by
  induction entries with
  | nil => exact nomatch h
  | cons entry rest ih =>
    rcases Option.or_eq_some_iff.mp h with hrest | ⟨-, hentry⟩
    · exact List.mem_cons_of_mem _ (ih hrest)
    · obtain ⟨key', s⟩ := entry
      split at hentry
      · rename_i hkey
        cases hkey
        cases s <;> cases hentry
        exact List.mem_cons_self
      · exact nomatch hentry

/-- If a text is put in, there is one that is put in last. -/
theorem isSome_lastText {key text : String} {entries : List (String × Setting)}
    (h : (key, .text text) ∈ entries) : (lastText key entries).isSome = true := by
  induction entries with
  | nil => exact nomatch h
  | cons entry rest ih =>
    rcases List.mem_cons.mp h with rfl | hrest
    · simp [lastText, Setting.text?]
    · simp [lastText, ih hrest]

/-! ## 2. The lines of a form -/

variable {α : Type} [Scalar α]

/-- The lines of the page for a layer are the lines that are filled for it. -/
theorem fields_lines (l : Layer α) :
    (lines l).map Prod.fst = LayerForm.lineFields (.ofKind l.kind) := by
  unfold lines Layer.kind
  cases l.content <;> rfl

/-- What is put into the line of a number is the number as it is shown. -/
theorem shown_of_numberSetting {v : α} {s : Setting} (h : .ok s = numberSetting v) :
    ∃ text, shownNumber v = .ok text ∧ s = .text text := by
  unfold numberSetting at h
  cases hv : shownNumber v with
  | error fault =>
    rw [hv] at h
    cases h
  | ok text =>
    rw [hv] at h
    exact ⟨text, rfl, Except.ok.inj h⟩

/-- What is put into a line is a text. -/
theorem exists_text_of_lines {l : Layer α} {field : String} {s : Setting}
    (h : (field, .ok s) ∈ lines l) : ∃ text, s = .text text := by
  have hnumber : ∀ {v : α}, .ok s = numberSetting v → ∃ text, s = .text text := fun hv =>
    (shown_of_numberSetting hv).imp fun _ => And.right
  unfold lines at h
  cases hcontent : l.content <;>
    simp only [hcontent, List.mem_cons, List.not_mem_nil, or_false, Prod.mk.injEq,
      Except.ok.injEq] at h
  · rcases h with ⟨-, rfl⟩ | ⟨-, h⟩ | ⟨-, h⟩ | ⟨-, h⟩ | ⟨-, h⟩
    case inl => exact ⟨_, rfl⟩
    all_goals exact hnumber h
  · rcases h with ⟨-, rfl⟩ | ⟨-, rfl⟩ | ⟨-, h⟩ | ⟨-, h⟩ | ⟨-, h⟩
    case inl => exact ⟨_, rfl⟩
    case inr.inl => exact ⟨_, rfl⟩
    all_goals exact hnumber h

/-- The other widgets are no lines. -/
theorem not_mem_lineKeys_of_switches {l : Layer α} {entry : String × Except Fault Setting}
    (h : entry ∈ switches l) : entry.1 ∉ LayerForm.lineKeys := by
  have hkeys : entry.1 ∈ (switches l).map Prod.fst := List.mem_map_of_mem h
  generalize entry.1 = key at hkeys
  unfold switches at hkeys
  cases hcontent : l.content <;> simp only [hcontent, List.map_cons, List.map_nil] at hkeys <;>
    revert hkeys key <;> decide

namespace LayerForm

/-- The key of a line names its field. -/
theorem fieldOfKey_fieldKey (page : Page) :
    ∀ field ∈ lineFields page, fieldOfKey (fieldKey page field) = field := by
  cases page <;> decide

/-- The lines of a page are lines. -/
theorem fieldKey_mem_lineKeys (page : Page) :
    ∀ field ∈ lineFields page, fieldKey page field ∈ lineKeys := by
  cases page <;> decide

/-- On a page each line has a field of its own. -/
theorem fieldKey_inj (page : Page) : ∀ field ∈ lineFields page, ∀ field' ∈ lineFields page,
    fieldKey page field = fieldKey page field' → field = field' := by
  cases page <;> decide

/-- A look-up after a text was put into a line. -/
theorem lookup_put (lines : List (String × String)) (key text other : String) :
    (lines.map fun l => if l.1 == key then (l.1, text) else l).lookup other
      = if other = key ∧ other ∈ lines.map Prod.fst then some text else lines.lookup other := by
  induction lines with
  | nil => simp
  | cons l lines ih =>
    obtain ⟨k, t⟩ := l
    by_cases hother : other = k
    · subst hother
      by_cases hkey : other = key <;> simp [hkey]
    · have hne : (other == k) = false := beq_eq_false_iff_ne.mpr hother
      have hput : (if k == key then (k, text) else (k, t)) = (k, if k = key then text else t) := by
        split <;> simp_all
      simp only [List.map_cons, hput, List.lookup_cons, hne, ih, List.mem_cons, hother, false_or]

/-- A line after a text was put into one. -/
theorem line_setLine (f : LayerForm) (key text other : String) :
    (f.setLine key text).line other
      = if other = key ∧ other ∈ f.lines.map Prod.fst then text else f.line other := by
  unfold line setLine
  rw [lookup_put]
  split <;> rfl

/-- A text is put into the line of its key; only the button of the colour is no line. -/
theorem receive_text {key : String} (hkey : key ≠ "text.color") (f : LayerForm) (text : String) :
    f.receive key (.text text) = f.setLine key text := by
  simp [receive]

/-- What is no text is put into no line. -/
theorem lines_receive {s : Setting} (hs : s.text? = none) (f : LayerForm) (key : String) :
    (f.receive key s).lines = f.lines := by
  unfold receive
  split
  case h_4 => split <;> rfl
  case h_7 => exact nomatch hs
  all_goals rfl

/-- A value that is put in reaches a line if it is a text and the line's. -/
theorem line_receive {f : LayerForm} {key : String} (hkey : key ∈ lineKeys)
    (hline : key ∈ f.lines.map Prod.fst) (other : String) (s : Setting) :
    (f.receive other s).line key
      = (if other = key then s.text? else none).getD (f.line key) := by
  have hcolor : key ≠ "text.color" := by
    rintro rfl
    exact absurd hkey (by decide)
  cases s with
  | text text =>
    by_cases hother : other = key
    · subst hother
      rw [receive_text hcolor, line_setLine, if_pos ⟨rfl, hline⟩, if_pos rfl]
      rfl
    · rw [if_neg hother, Option.getD_none]
      by_cases hbutton : other = "text.color"
      · subst hbutton
        rfl
      · rw [receive_text hbutton, line_setLine, if_neg fun h => hother h.1.symm]
  | _ =>
    rw [line, lines_receive rfl]
    simp [Setting.text?, line]

/-- A form has its lines, whatever is put in. -/
theorem keys_receive (f : LayerForm) (key : String) (s : Setting) :
    (f.receive key s).lines.map Prod.fst = f.lines.map Prod.fst := by
  have hset : ∀ text, (f.setLine key text).lines.map Prod.fst = f.lines.map Prod.fst := by
    intro text
    simp only [setLine, List.map_map]
    exact List.map_congr_left fun l _ => by dsimp; split <;> rfl
  cases s with
  | text text =>
    by_cases hbutton : key = "text.color"
    · subst hbutton
      rfl
    · rw [receive_text hbutton, hset]
  | _ => rw [lines_receive rfl]

/-- What values leave in a line that they are put into one after the other. -/
theorem line_foldl {key : String} (hkey : key ∈ lineKeys) (entries : List (String × Setting)) :
    ∀ f : LayerForm, key ∈ f.lines.map Prod.fst →
      (entries.foldl (fun f entry => (f.put entry.1 entry.2).1) f).line key
        = (lastText key entries).getD (f.line key) := by
  induction entries with
  | nil => intro f _; rfl
  | cons entry rest ih =>
    intro f hline
    have hkeys := keys_receive f entry.1 entry.2
    rw [List.foldl_cons, put, ih _ (hkeys ▸ hline), line_receive hkey hline, lastText]
    cases lastText key rest <;> rfl

end LayerForm

/-! ## 3. What a form was asked to show -/

/-- One layer that a form is asked to show, or none, and the lines in which the user types then. -/
structure Showing (α : Type) where
  focused : String → Bool
  layer : Option (Layer α)

/-- The text of a line, and the id of the layer for which it was put in. -/
structure Origin where
  layer : String
  text : String
deriving DecidableEq, Repr

namespace Showing

/-- The text that is put into a line. -/
def text? (c : Showing α) (key : String) : Option String :=
  lastText key (placed (layerFilling c.focused c.layer))

/-- What is put into a line, and for which layer. -/
def origin? (c : Showing α) (key : String) : Option Origin :=
  c.layer.bind fun l => (c.text? key).map fun text => ⟨l.id, text⟩

/-- The layer can be shown, with all its numbers. -/
def Showable (c : Showing α) : Prop := fault? (layerFilling c.focused c.layer) = none

instance (c : Showing α) : Decidable c.Showable :=
  inferInstanceAs (Decidable (fault? (layerFilling c.focused c.layer) = none))

/-- What is put in is put in for a layer. -/
theorem origin?_of_text? {c : Showing α} {key text : String} (h : c.text? key = some text) :
    ∃ l, c.layer = some l ∧ c.origin? key = some ⟨l.id, text⟩ := by
  cases hl : c.layer with
  | none =>
    rw [text?, hl] at h
    exact nomatch h
  | some l => exact ⟨l, rfl, by simp [origin?, hl, h]⟩

end Showing

/-- Where the text of a line comes from: the last that put one in. -/
def origin? (history : List (Showing α)) (key : String) : Option Origin :=
  history.foldl (fun held c => (c.origin? key).or held) none

theorem origin?_concat (history : List (Showing α)) (c : Showing α) (key : String) :
    origin? (history ++ [c]) key = (c.origin? key).or (origin? history key) := by
  simp [origin?]

namespace LayerForm

/-- A form after it was asked to show layers, one after the other. -/
def shown (f : LayerForm) (history : List (Showing α)) : LayerForm :=
  history.foldl (fun f c => (f.present c.focused c.layer).form) f

theorem shown_concat (f : LayerForm) (history : List (Showing α)) (c : Showing α) :
    f.shown (history ++ [c]) = ((f.shown history).present c.focused c.layer).form := by
  simp [shown]

/-- A form has its lines, whatever it shows. -/
theorem keys_shown (f : LayerForm) (history : List (Showing α)) :
    (f.shown history).lines.map Prod.fst = f.lines.map Prod.fst := by
  induction history using List.reverseRecOn with
  | nil => rfl
  | append_singleton history c ih =>
    rw [shown_concat]
    exact (form_fill (fun g : LayerForm => g.lines.map Prod.fst) keys_receive _ _).trans ih

/-- A line of a form that shows a layer holds what was put in, or what it held. -/
theorem line_present {f : LayerForm} {key : String} (hkey : key ∈ lineKeys)
    (hline : key ∈ f.lines.map Prod.fst) (c : Showing α) :
    (f.present c.focused c.layer).form.line key = (c.text? key).getD (f.line key) := by
  let turned : LayerForm := { f with shownId := c.layer.map Layer.id, blocked := widgetKeys }
  have hfill := @form_fill_eq LayerForm put (layerFilling c.focused c.layer) turned
  exact (congrArg (line · key) hfill).trans (line_foldl hkey _ turned hline)

/-- **A line holds the text that was put in last**, and none before the first. -/
theorem line_shown (history : List (Showing α)) {key : String} (hkey : key ∈ lineKeys) :
    (fresh.shown history).line key = ((origin? history key).map Origin.text).getD "" := by
  have hfresh : fresh.lines.map Prod.fst = lineKeys := by decide
  induction history using List.reverseRecOn with
  | nil =>
    have hempty : ∀ key ∈ lineKeys, fresh.line key = "" := by decide
    exact hempty key hkey
  | append_singleton history c ih =>
    have hline : key ∈ (fresh.shown history).lines.map Prod.fst := by
      rw [keys_shown, hfresh]
      exact hkey
    rw [shown_concat, line_present hkey hline, origin?_concat, ih]
    cases htext : c.text? key with
    | none => simp [Showing.origin?, htext]
    | some text =>
      obtain ⟨l, -, horigin⟩ := Showing.origin?_of_text? htext
      rw [horigin]
      rfl

/-- The form shows the page of what can be shown. -/
theorem page_present (f : LayerForm) {c : Showing α} (h : c.Showable) :
    (f.present c.focused c.layer).form.page = Page.ofLayer? c.layer := by
  unfold present turn
  dsimp only
  rw [fault_fill, show fault? (layerFilling c.focused c.layer) = none from h]
  rfl

theorem page_shown_concat (f : LayerForm) (history : List (Showing α)) {c : Showing α}
    (h : c.Showable) : (f.shown (history ++ [c])).page = Page.ofLayer? c.layer := by
  rw [shown_concat, page_present _ h]

/-- The layer that was shown last. -/
def lastLayer? {α : Type} (history : List (Showing α)) : Option (Layer α) :=
  history.getLast?.bind (·.layer)

theorem lastLayer?_concat {α : Type} (history : List (Showing α)) (c : Showing α) :
    lastLayer? (history ++ [c]) = c.layer := by
  rw [lastLayer?, List.getLast?_concat]
  rfl

/-- A form enters what is typed for the layer that was shown last. -/
theorem shownId_shown (history : List (Showing α)) :
    (fresh.shown history).shownId = (lastLayer? history).map (·.id) := by
  induction history using List.reverseRecOn with
  | nil => rfl
  | append_singleton history c ih =>
    rw [shown_concat, shownId_present, lastLayer?_concat]

end LayerForm

/-! ## 4. Which lines are filled -/

namespace Showing

open LayerForm

variable {c : Showing α} {l : Layer α} {field : String}

/-- What is put into a line is what its field is written as, and the line is not focused. -/
theorem mem_lines_of_text? (hl : c.layer = some l) (hfield : field ∈ lineFields (.ofKind l.kind))
    {text : String} (h : c.text? (fieldKey (.ofKind l.kind) field) = some text) :
    (field, .ok (.text text)) ∈ lines l ∧ c.focused (fieldKey (.ofKind l.kind) field) = false := by
  have hplaced := mem_of_mem_placed (mem_of_lastText h)
  rw [hl] at hplaced
  rcases List.mem_append.mp hplaced with hlines | hswitches
  · obtain ⟨hmem, hfocus⟩ := List.mem_filter.mp hlines
    obtain ⟨⟨field', shown⟩, hshown, heq⟩ := List.mem_map.mp hmem
    obtain ⟨hkey, rfl⟩ := Prod.mk.inj heq
    have hfield' : field' ∈ lineFields (.ofKind l.kind) :=
      fields_lines l ▸ List.mem_map_of_mem hshown
    obtain rfl := fieldKey_inj _ _ hfield' _ hfield hkey
    exact ⟨hshown, by simpa using hfocus⟩
  · exact absurd (fieldKey_mem_lineKeys _ _ hfield) (not_mem_lineKeys_of_switches hswitches)

/-- **Each line that is not focused is filled**, if all of the layer can be shown. -/
theorem isSome_text?_iff (h : c.Showable) (hl : c.layer = some l)
    (hfield : field ∈ lineFields (.ofKind l.kind)) :
    (c.text? (fieldKey (.ofKind l.kind) field)).isSome = true ↔
      c.focused (fieldKey (.ofKind l.kind) field) = false := by
  constructor
  · intro hsome
    obtain ⟨text, htext⟩ := Option.isSome_iff_exists.mp hsome
    exact (mem_lines_of_text? hl hfield htext).2
  · intro hfocus
    obtain ⟨⟨field', shown⟩, hshown, rfl⟩ := List.mem_map.mp (fields_lines l ▸ hfield)
    have hmem : (fieldKey (.ofKind l.kind) field', shown) ∈ layerFilling c.focused c.layer := by
      rw [hl]
      refine List.mem_append_left _ (List.mem_filter.mpr ⟨List.mem_map.mpr ⟨_, hshown, rfl⟩, ?_⟩)
      simpa using hfocus
    obtain ⟨s, rfl, hplaced⟩ := exists_mem_placed h hmem
    obtain ⟨text, rfl⟩ := exists_text_of_lines hshown
    exact isSome_lastText hplaced

end Showing

/-! ## 5. Whose texts the lines hold -/

namespace LayerForm

/-- The lines of the page enter the texts that were put into them, for the layers for which they
were put in. -/
def Owning (history : List (Showing α)) : Prop :=
  let f := fresh.shown history
  ∀ field ∈ lineFields f.page, ∃ o, origin? history (fieldKey f.page field) = some o ∧
    f.entry? (fieldKey f.page field) (.text (f.line (fieldKey f.page field)))
      = some (.enter o.layer field (.text o.text) : Action α)

/-- The text of a line is entered for the layer that is shown, so the two have to be one. -/
theorem owning_iff (history : List (Showing α)) :
    Owning history ↔ ∀ field ∈ lineFields (fresh.shown history).page,
      ∃ o, origin? history (fieldKey (fresh.shown history).page field) = some o ∧
        (lastLayer? history).map (·.id) = some o.layer := by
  refine forall₂_congr fun field hfield => exists_congr fun o => and_congr_right fun ho => ?_
  have hkey := fieldKey_mem_lineKeys _ _ hfield
  unfold entry?
  rw [line_shown history hkey, ho, fieldOfKey_fieldKey _ _ hfield, shownId_shown]
  cases lastLayer? history <;> simp

/-- **The lines of the page own their texts exactly if each one is filled, or was filled for the
same layer before.** -/
theorem owning_concat_iff (history : List (Showing α)) (c : Showing α) :
    Owning (history ++ [c]) ↔
      ∀ field ∈ lineFields (fresh.shown (history ++ [c])).page,
        (c.text? (fieldKey (fresh.shown (history ++ [c])).page field)).isSome = true ∨
          ∃ o, origin? history (fieldKey (fresh.shown (history ++ [c])).page field) = some o ∧
            c.layer.map (·.id) = some o.layer := by
  rw [owning_iff]
  refine forall₂_congr fun field _ => ?_
  rw [lastLayer?_concat, origin?_concat]
  cases htext : c.text? (fieldKey (fresh.shown (history ++ [c])).page field) with
  | none => simp [Showing.origin?, htext]
  | some text =>
    obtain ⟨l, hl, horigin⟩ := Showing.origin?_of_text? htext
    simp [horigin, hl]

/-- Whenever lines are passed over, it is because the user types in them while the layer that was
shown last is shown again. -/
inductive Steady : List (Showing α) → Prop
  | nil : Steady []
  | concat {history : List (Showing α)} {c : Showing α} : Steady history → c.Showable →
      (∀ l, c.layer = some l → ∀ field ∈ lineFields (.ofKind l.kind),
        c.focused (fieldKey (.ofKind l.kind) field) = true →
          ∃ l', lastLayer? history = some l' ∧ l'.id = l.id ∧ l'.kind = l.kind) →
      Steady (history ++ [c])

/-- **After a steady history the lines of the page own their texts.** -/
theorem owning_of_steady {history : List (Showing α)} (h : Steady history) :
    Owning history ∧ (fresh.shown history).page = Page.ofLayer? (lastLayer? history) := by
  induction h with
  | nil => exact ⟨fun _ hfield => absurd hfield List.not_mem_nil, rfl⟩
  | @concat history c _ hshowable hfocus ih =>
    obtain ⟨hown, hpage⟩ := ih
    have hpage' := page_shown_concat fresh history hshowable
    refine ⟨(owning_concat_iff history c).mpr fun field hfield => ?_,
      by rw [hpage', lastLayer?_concat]⟩
    rw [hpage'] at hfield ⊢
    cases hl : c.layer with
    | none =>
      rw [hl] at hfield
      exact nomatch hfield
    | some l =>
      rw [hl] at hfield
      cases hf : c.focused (fieldKey (Page.ofKind l.kind) field) with
      | false => exact .inl ((Showing.isSome_text?_iff hshowable hl hfield).mpr hf)
      | true =>
        -- the line is passed over, and holds what it held of the same layer
        obtain ⟨l', hl', hid, hkind⟩ := hfocus l hl field hfield hf
        have hsame : (fresh.shown history).page = Page.ofLayer? (some l) := by
          rw [hpage, hl', Page.ofLayer?, hkind]
          rfl
        rw [← hsame] at hfield ⊢
        obtain ⟨o, ho, hlayer⟩ := (owning_iff history).mp hown field hfield
        rw [hl'] at hlayer
        exact .inr ⟨o, ho, (congrArg some hid.symm).trans hlayer⟩

/-- **Whose text a line holds.**  Whatever a form was asked to show, and wherever the user typed
meanwhile, it enters for the layer that is shown, and each line holds what was put in last.  The
lines of the page own their texts exactly if each is filled now, or was filled for the same layer
before; and if all of the layer can be shown, each line that is not focused is filled.  So they own
them after every history in which lines are only passed over while the same layer is shown again. -/
theorem owning_history (history : List (Showing α)) (c : Showing α) :
    let f := fresh.shown (history ++ [c])
    f.shownId = c.layer.map (·.id) ∧
    (∀ key ∈ lineKeys,
      f.line key = ((origin? (history ++ [c]) key).map Origin.text).getD "") ∧
    (Owning (history ++ [c]) ↔ ∀ field ∈ lineFields f.page,
      (c.text? (fieldKey f.page field)).isSome = true ∨
        ∃ o, origin? history (fieldKey f.page field) = some o ∧
          c.layer.map (·.id) = some o.layer) ∧
    (c.Showable → f.page = Page.ofLayer? c.layer ∧ ∀ field ∈ lineFields f.page,
      ((c.text? (fieldKey f.page field)).isSome = true ↔
        c.focused (fieldKey f.page field) = false)) ∧
    (Steady (history ++ [c]) → Owning (history ++ [c])) := by
  intro f
  have hid : f.shownId = (lastLayer? (history ++ [c])).map (·.id) := shownId_shown _
  rw [lastLayer?_concat] at hid
  refine ⟨hid, fun key => line_shown _, owning_concat_iff history c, fun hshowable => ?_,
    fun h => (owning_of_steady h).1⟩
  have hpage : f.page = Page.ofLayer? c.layer := page_shown_concat fresh history hshowable
  refine ⟨hpage, fun field hfield => ?_⟩
  rw [hpage] at hfield ⊢
  cases hl : c.layer with
  | none =>
    rw [hl] at hfield
    exact nomatch hfield
  | some l =>
    rw [hl] at hfield
    exact Showing.isSome_text?_iff hshowable hl hfield

/-- A video is shown again while the user types in the line for its name: this line is passed over,
and it owns its text. -/
theorem owning_history_again :
    let video : Layer Float := ⟨"video-1", "Video 1", 20, 20, true, 1, .video .initial⟩
    let history : List (Showing Float) := [⟨fun _ => false, some video⟩]
    let again : Showing Float := ⟨(· == "video.name"), some video⟩
    again.Showable ∧ again.text? "video.name" = none ∧
      Steady (history ++ [again]) ∧ Owning (history ++ [again]) := by
  intro video history again
  have hfirst : Steady history :=
    .concat .nil (by decide +kernel) fun _ _ _ _ hfocus => absurd hfocus Bool.false_ne_true
  have hsteady : Steady (history ++ [again]) :=
    .concat hfirst (by decide +kernel) fun l hl _ _ _ => by
      cases hl
      exact ⟨video, rfl, rfl, rfl⟩
  have howning := (owning_history history again).2.2.2.2 hsteady
  exact ⟨by decide +kernel, by decide +kernel, hsteady, howning⟩

/-- Another video is selected while the user types in the line for the name of the first: its name
stays there, and would be entered for the second. -/
theorem owning_fails :
    let history : List (Showing Float) := [
      ⟨fun _ => false, some ⟨"video-1", "Video 1", 20, 20, true, 1, .video .initial⟩⟩,
      ⟨(· == "video.name"), some ⟨"video-2", "Video 2", 50, 50, true, 2, .video .initial⟩⟩]
    (fresh.shown history).shownId = some "video-2" ∧
      (fresh.shown history).line "video.name" = "Video 1" ∧ ¬ Owning history := by
  intro history
  refine ⟨by decide +kernel, by decide +kernel, fun h => ?_⟩
  obtain ⟨o, ho, hlayer⟩ := (owning_iff history).mp h "name" (by decide +kernel)
  have horigin : origin? history "video.name" = some ⟨"video-1", "Video 1"⟩ := by decide +kernel
  cases horigin.symm.trans ho
  exact absurd hlayer (by decide +kernel)

end LayerForm

end Compositor.Panel
