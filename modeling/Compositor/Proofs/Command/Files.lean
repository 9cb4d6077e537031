import Compositor.Proofs.Command.Layout
import Compositor.Proofs.Document.Confined
import Compositor.Proofs.Document.Origin
import Compositor.Proofs.Text.Spelling

/-!
# The files of a session's videos

A new video is named by a number, one more than the number of videos that are there, and the file
that stands for it in the command is named after it: `Video 2` stands for `video_2.mp4`.  Ids are
numbered by a counter, which never falls; names are numbered by a count, which falls when a video is
removed.  So a new video can have the name of one that is still there, and then the two of them
stand for one file (`video_files_shared`).

So what tells the file of a video is the number of videos among which it was added (`AddedAmong`).
The name that was given then is changed by nothing but an edit of the layer's fields, and no layer
but a copy is named in another way (`nameplates_of_apply`).  In a session without edits and copies,
two videos have one file exactly if they were added among the same number of videos (`video_files`).
-/

namespace Compositor

/-! ## 1. The file of a name with a number -/

namespace Text

/-- The capital letters lie behind the digits. -/
theorem nine_lt_capitals : ∀ run ∈ capitalRuns, 0x39 < run.first := by decide +kernel

/-- A digit has no small letter but itself. -/
theorem lowerChar_of_isDigit {c : Char} (h : c.isDigit = true) : lowerChar c = [c] := by
  have hrange : 48 ≤ c.toNat ∧ c.toNat ≤ 57 := Char.isDigit_iff_toNat.mp h
  have hnone : capitalRuns.find? (·.covers c.toNat) = none := by
    rw [List.find?_eq_none]
    intro run hrun hcovers
    have hfirst := nine_lt_capitals run hrun
    simp only [CapitalRun.covers, Bool.and_eq_true, decide_eq_true_eq] at hcovers
    omega
  have hdotted : c.toNat ≠ 0x130 := by omega
  rw [lowerChar, if_neg hdotted, hnone]

/-- Digits are in small letters, whatever stands before them. -/
theorem lowerFrom_digits {s : List Char} (h : ∀ c ∈ s, c.isDigit = true) (before : List Char) :
    lowerFrom before s = s := by
  induction s generalizing before with
  | nil => rfl
  | cons c rest ih =>
    obtain ⟨hc, hrest⟩ := List.forall_mem_cons.mp h
    have hsigma : c ≠ capitalSigma := by
      rintro rfl
      exact absurd hc (by decide)
    rw [lowerFrom, if_neg hsigma, lowerChar_of_isDigit hc, ih hrest]
    rfl

/-- A digit is not blank. -/
theorem isBlank_of_isDigit {c : Char} (h : c.isDigit = true) : isBlank c = false := by
  have hrange : 48 ≤ c.toNat ∧ c.toNat ≤ 57 := Char.isDigit_iff_toNat.mp h
  have hseparator : isSeparator c = false := by
    simp only [isSeparator, Bool.and_eq_false_iff, decide_eq_false_iff_not]
    omega
  rw [isBlank, (Bare.of_isDigit h).visible, hseparator, Bool.or_false]

/-- What is not to be replaced stays. -/
theorem squeeze_append {p : Char → Bool} {s : List Char} (h : ∀ c ∈ s, p c = false) (by_ : Char)
    (t : List Char) : squeeze p by_ (s ++ t) = s ++ squeeze p by_ t := by
  induction s with
  | nil => rfl
  | cons c rest ih =>
    obtain ⟨hc, hrest⟩ := List.forall_mem_cons.mp h
    have hcons : ∀ u, squeeze p by_ (c :: u) = c :: squeeze p by_ u := by
      intro u
      cases u <;> simp [squeeze, hc]
    rw [List.cons_append, hcons, ih hrest, List.cons_append]

/-- A single character that is to be replaced, before others that are not. -/
theorem squeeze_gap {p : Char → Bool} {gap by_ : Char} {s : List Char} (hgap : p gap = true)
    (h : ∀ c ∈ s, p c = false) (hs : s ≠ []) : squeeze p by_ (gap :: s) = by_ :: s := by
  have hrest : squeeze p by_ s = s := by simpa [squeeze] using squeeze_append h by_ []
  cases s with
  | nil => exact absurd rfl hs
  | cons c rest => simp [squeeze, hgap, h c List.mem_cons_self, hrest]

end Text

namespace Command

/-- **The file of a name with a number.** -/
theorem inputFile_numbered (n : Nat) :
    inputFile ("Video " ++ toString n) = "video_" ++ toString n ++ ".mp4" := by
  let digits := Nat.toDigits 10 n
  have hchars : (toString n).toList = digits := by simp [digits]
  have hdigits : ∀ c ∈ digits, c.isDigit = true := fun c => Text.isDigit_of_mem_toDigits
  have hblank : ∀ c ∈ digits, Text.isBlank c = false := fun c hc =>
    Text.isBlank_of_isDigit (hdigits c hc)
  have hlower : Text.lowerFrom [] ("Video ".toList ++ digits) = "video ".toList ++ digits := by
    change "video ".toList ++ Text.lowerFrom "Video ".toList.reverse digits = _
    rw [Text.lowerFrom_digits hdigits]
  have hsqueeze : Text.squeeze Text.isBlank '_' ("video ".toList ++ digits)
      = "video_".toList ++ digits := by
    have hgap : Text.squeeze Text.isBlank '_' (' ' :: digits) = '_' :: digits :=
      Text.squeeze_gap (by decide) hblank Nat.toDigits_ne_nil
    have hword : ∀ c ∈ "video".toList, Text.isBlank c = false := by
      simp [Text.isBlank, Text.isWhiteSpace, Text.isSeparator]
    calc Text.squeeze Text.isBlank '_' ("video".toList ++ ' ' :: digits)
        = "video".toList ++ '_' :: digits := by rw [Text.squeeze_append hword, hgap]
      _ = "video_".toList ++ digits := rfl
  have hfile : Text.squeeze Text.isBlank '_' (Text.lower ("Video " ++ toString n)).toList
      = ("video_" ++ toString n).toList := by
    rw [Text.lower, String.toList_ofList, String.toList_append, hchars, hlower, hsqueeze,
      String.toList_append, hchars]
  rw [inputFile, hfile, String.ofList_toList]

/-- Different numbers make different files. -/
theorem inputFile_numbered_inj {m n : Nat} :
    inputFile ("Video " ++ toString m) = inputFile ("Video " ++ toString n) ↔ m = n := by
  rw [inputFile_numbered, inputFile_numbered, String.append_left_inj, String.append_right_inj]
  exact Nat.repr_inj

/-- No such file is the template. -/
theorem inputFile_numbered_ne_template (n : Nat) :
    inputFile ("Video " ++ toString n) ≠ templateInput := by
  rw [inputFile_numbered]
  intro h
  have hchars : ("video_" ++ toString n ++ ".mp4").toList = templateInput.toList :=
    congrArg String.toList h
  simp [templateInput] at hchars

variable {α : Type} [Scalar α]

/-- Where every layer is to be seen and no video stands for the template, no input comes twice if
and only if no two videos have one file. -/
theorem nodup_inputs_iff {layers : List (Layer α)} (hvisible : ∀ l ∈ layers, l.visible.isOn = true)
    (hfiles : ∀ l ∈ layers, l.isVideo = true → inputFile l.name ≠ templateInput) (template : Bool) :
    ((visibleVideos layers).map (fun v => inputFile v.1.name)
      ++ if template then [templateInput] else []).Nodup ↔
    (layers.filter (·.isVideo)).Pairwise fun l m => inputFile l.name ≠ inputFile m.name := by
  have hall : layers.filter (fun l => l.isVideo && l.visible.isOn) = layers.filter (·.isVideo) :=
    List.filter_congr fun l hl => by rw [hvisible l hl, Bool.and_true]
  have hperm : ((visibleVideos layers).map fun v => inputFile v.1.name).Perm
      ((layers.filter (·.isVideo)).map fun l => inputFile l.name) := by
    have h := (visibleVideos_ascending layers).perm.map fun l => inputFile l.name
    rw [hall, List.map_map] at h
    exact h
  have hnot : templateInput ∉ (visibleVideos layers).map fun v => inputFile v.1.name := by
    rw [hperm.mem_iff, List.mem_map]
    rintro ⟨l, hl, hfile⟩
    obtain ⟨hl, hvideo⟩ := List.mem_filter.mp hl
    exact hfiles l hl hvideo hfile
  have htemplate : ((visibleVideos layers).map (fun v => inputFile v.1.name)
      ++ if template then [templateInput] else []).Nodup ↔
      ((visibleVideos layers).map fun v => inputFile v.1.name).Nodup := by
    cases template with
    | false => rw [if_neg Bool.false_ne_true, List.append_nil]
    | true => rw [if_pos rfl, List.nodup_append_comm, List.singleton_append, List.nodup_cons,
        and_iff_right hnot]
  rw [htemplate, hperm.nodup_iff, List.Nodup, List.pairwise_map]

/-- Where layers lie in the order of the collection, so do the files of the visible videos. -/
theorem files_of_rising {layers : List (Layer α)}
    (h : layers.Pairwise fun l m => l.zIndex ≤ m.zIndex) :
    ((visibleVideos layers).map fun v => inputFile v.1.name)
      = (layers.filter fun l => l.isVideo && l.visible.isOn).map fun l => inputFile l.name := by
  rw [← (visibleVideos_ascending layers).unique (.of_rising (h.filter _)), List.map_map]
  rfl

end Command

/-! ## 2. Names in a session -/

variable {α : Type}

/-- Whether an action changes fields of a layer, or copies one. -/
def Action.edits : Action α → Bool
  | .update _ _ | .enter _ _ _ | .duplicate _ => true
  | _ => false

/-- What a layer goes by. -/
structure Nameplate (α : Type) where
  id : String
  kind : LayerKind
  name : String
  visible : Toggle α

/-- What a layer goes by. -/
def Layer.nameplate (l : Layer α) : Nameplate α := ⟨l.id, l.kind, l.name, l.visible⟩

namespace Document

/-- What the layers go by. -/
def nameplates (d : Document α) : List (Nameplate α) := d.layers.map Layer.nameplate

/-- What the next layer of a kind goes by, with a number after its title. -/
def nextPlate (d : Document α) (title : String) (kind : LayerKind) : Nameplate α :=
  ⟨d.nextId kind, kind, title ++ toString (d.countOf kind + 1), true⟩

/-- A layer in the place of one that went by the same brings nothing new to go by. -/
theorem nameplates_replace {d : Document α} {old new : Layer α} (hold : old ∈ d.layers)
    (h : new.nameplate = old.nameplate) : (d.replace new).nameplates ⊆ d.nameplates := by
  intro x hx
  obtain ⟨l, hl, rfl⟩ := List.mem_map.mp hx
  rcases Layer.mem_replaceIn hl with rfl | hl
  · exact h ▸ List.mem_map_of_mem hold
  · exact List.mem_map_of_mem hl

/-- A layer on top goes by something more. -/
theorem nameplates_append (d : Document α) (l : Layer α) :
    (d.append l).nameplates = d.nameplates ++ [l.nameplate] := List.map_append

/-- Raised or lowered, a layer goes by what it went by. -/
theorem nameplates_exchangeWith (neighbour? : List (Layer α) → Layer α → Option (Layer α))
    (d : Document α) (id : String) :
    ({ d with layers := Stacking.exchangeWith neighbour? d.layers id } : Document α).nameplates
      ⊆ d.nameplates := by
  rw [nameplates, Stacking.map_exchangeWith fun _ _ => rfl]
  exact List.Subset.refl _

variable [Scalar α] {measure : Measurer α} {d d' : Document α}

/-- A new video goes by a number. -/
theorem exists_of_addVideo (h : d.addVideo = .ok d') :
    ∃ l, l.nameplate = d.nextPlate "Video " .video ∧ d' = d.append l := by
  obtain ⟨x, -, hx⟩ := Fault.of_bind_eq_ok h
  obtain ⟨y, -, hy⟩ := Fault.of_bind_eq_ok hx
  cases hy
  exact ⟨_, rfl, rfl⟩

/-- A new text goes by a number. -/
theorem exists_of_addText (h : d.addText = .ok d') :
    ∃ l, l.nameplate = d.nextPlate "Text " .text ∧ d' = d.append l := by
  obtain ⟨x, -, hx⟩ := Fault.of_bind_eq_ok h
  obtain ⟨y, -, hy⟩ := Fault.of_bind_eq_ok hx
  cases hy
  exact ⟨_, rfl, rfl⟩

/-- After a reset a layer goes by what it went by. -/
theorem nameplates_reset (d : Document α) (id : String) :
    (d.reset id).nameplates ⊆ d.nameplates := by
  unfold reset
  split
  · exact List.Subset.refl _
  · rename_i l hl
    have hplate : (resetLayer l).nameplate = l.nameplate := by
      unfold resetLayer Layer.nameplate Layer.kind
      split <;> simp [*]
    exact nameplates_replace (mem_of_layer? hl).1 hplate

/-- After a move a layer goes by what it went by. -/
theorem nameplates_move {p : Point α} (h : d.move measure p = .ok d') :
    d'.nameplates ⊆ d.nameplates := by
  cases hl : d.movedLayer? with
  | none =>
    rw [move_of_none hl] at h
    cases h
    exact List.Subset.refl _
  | some l =>
    rw [move_of_some hl] at h
    obtain ⟨l', hmoved, rfl⟩ := Fault.of_map_eq_ok h
    obtain ⟨r, rfl⟩ := exists_inBox_of_movedTo hmoved
    have hplate : (l.inBox r).nameplate = l.nameplate := by
      unfold Layer.inBox Layer.nameplate Layer.kind
      cases l.content <;> rfl
    exact nameplates_replace (layerId?_of_movedLayer? hl).2 hplate

/-- **What layers go by, in one step.**  An action other than an edit or a copy brings nothing new
to go by, or it adds a layer that goes by the next number of its kind. -/
theorem nameplates_of_apply {a : Action α} (ha : a.edits = false)
    (h : a.apply measure d = .ok d') :
    d'.nameplates ⊆ d.nameplates ∨
    (a = .addVideo ∧ d'.nameplates = d.nameplates ++ [d.nextPlate "Video " .video]) ∨
    (a = .addText ∧ d'.nameplates = d.nameplates ++ [d.nextPlate "Text " .text]) := by
  cases a with
  | addVideo =>
    obtain ⟨l, hl, rfl⟩ := exists_of_addVideo h
    exact .inr (.inl ⟨rfl, hl ▸ nameplates_append d l⟩)
  | addText =>
    obtain ⟨l, hl, rfl⟩ := exists_of_addText h
    exact .inr (.inr ⟨rfl, hl ▸ nameplates_append d l⟩)
  | update => exact nomatch ha
  | enter => exact nomatch ha
  | duplicate => exact nomatch ha
  | remove id =>
    cases h
    exact .inl ((layers_remove_sublist d id).map Layer.nameplate).subset
  | reset id =>
    cases h
    exact .inl (nameplates_reset d id)
  | raise id =>
    cases h
    exact .inl (nameplates_exchangeWith Stacking.above? d id)
  | lower id =>
    cases h
    exact .inl (nameplates_exchangeWith Stacking.below? d id)
  | press p =>
    rcases press_cases h with ⟨l, clip, handle, -, rfl⟩ | ⟨-, rfl⟩ | ⟨-, l, -, rfl⟩ <;>
      exact .inl (List.Subset.refl _)
  | move p => exact .inl (nameplates_move h)
  | loadTemplate path w k =>
    cases h
    unfold loadTemplate
    split <;> exact .inl (List.Subset.refl _)
  | setTemplateOpacity raw | setGridSize raw =>
    obtain ⟨v, -, hd⟩ := Fault.of_bind_eq_ok h
    cases hd
    exact .inl (List.Subset.refl _)
  | _ =>
    cases h
    exact .inl (List.Subset.refl _)

/-! ## 3. When a video was added -/

/-- A video can be added; it has this id, and there are `n` videos before it. -/
def AddsVideo (d : Document α) (id : String) (n : Nat) : Prop :=
  d.addVideo.isOk = true ∧ d.nextId .video = id ∧ d.countOf .video = n

/-- In the session, the video with this id was added among `n` others. -/
def AddedAmong (measure : Measurer α) (actions : List (Action α)) (id : String) (n : Nat) : Prop :=
  ∃ before rest, actions = before ++ .addVideo :: rest ∧
    ((empty : Document α).after measure before).AddsVideo id n

/-- A document after two parts of a session. -/
theorem after_append (measure : Measurer α) (d : Document α) (as bs : List (Action α)) :
    d.after measure (as ++ bs) = (d.after measure as).after measure bs := List.foldl_append

/-- What was added stays added. -/
theorem AddedAmong.mono {actions : List (Action α)} {id : String} {n : Nat}
    (h : AddedAmong measure actions id n) (more : List (Action α)) :
    AddedAmong measure (actions ++ more) id n := by
  obtain ⟨before, rest, rfl, hadds⟩ := h
  exact ⟨before, rest ++ more, by simp, hadds⟩

/-- What goes by this is to be seen, and a video has the name that it got when it was added. -/
def Apt (measure : Measurer α) (actions : List (Action α)) (x : Nameplate α) : Prop :=
  x.visible.isOn = true ∧ (x.kind = .video → ∃ n, AddedAmong measure actions x.id n ∧
    x.name = "Video " ++ toString (n + 1))

/-- What is apt stays apt. -/
theorem Apt.mono {actions : List (Action α)} {x : Nameplate α} (h : Apt measure actions x)
    (more : List (Action α)) : Apt measure (actions ++ more) x := by
  refine ⟨h.1, fun hvideo => ?_⟩
  obtain ⟨n, hadded, hname⟩ := h.2 hvideo
  exact ⟨n, hadded.mono more, hname⟩

/-- One more action, other than an edit or a copy, leaves all layers with an apt nameplate. -/
theorem apt_step {actions : List (Action α)} {a : Action α} (ha : a.edits = false)
    (h : ∀ x ∈ ((empty : Document α).after measure actions).nameplates, Apt measure actions x) :
    ∀ x ∈ (((empty : Document α).after measure actions).step measure a).nameplates,
      Apt measure (actions ++ [a]) x := by
  intro x hx
  unfold step at hx
  cases happly : a.apply measure ((empty : Document α).after measure actions) with
  | error fault =>
    rw [happly] at hx
    exact (h x hx).mono [a]
  | ok d' =>
    rw [happly] at hx
    rcases nameplates_of_apply ha happly with hsub | ⟨rfl, hplates⟩ | ⟨rfl, hplates⟩
    · exact (h x (hsub hx)).mono [a]
    · have hok : ((empty : Document α).after measure actions).addVideo = .ok d' := happly
      rcases List.mem_append.mp (hplates ▸ hx) with hold | hnew
      · exact (h x hold).mono [.addVideo]
      · rw [List.mem_singleton.mp hnew]
        have hadded : AddedAmong measure (actions ++ [.addVideo]) _ _ :=
          ⟨actions, [], rfl, by rw [hok]; rfl, rfl, rfl⟩
        exact ⟨rfl, fun _ => ⟨_, hadded, rfl⟩⟩
    · rcases List.mem_append.mp (hplates ▸ hx) with hold | hnew
      · exact (h x hold).mono [.addText]
      · rw [List.mem_singleton.mp hnew]
        exact ⟨rfl, fun hvideo => nomatch hvideo⟩

/-- **What layers go by, in a session.**  Without edits and copies all of it is apt. -/
theorem apt_after (measure : Measurer α) {actions : List (Action α)}
    (hactions : ∀ a ∈ actions, a.edits = false) :
    ∀ x ∈ ((empty : Document α).after measure actions).nameplates, Apt measure actions x := by
  -- from the end, since `AddedAmong` looks back on the whole session
  induction actions using List.reverseRecOn with
  | nil => exact fun x hx => absurd hx List.not_mem_nil
  | append_singleton actions a ih =>
    obtain ⟨hactions, ha⟩ := List.forall_mem_append.mp hactions
    rw [after_append]
    exact apt_step (ha a (List.mem_singleton_self a)) (ih hactions)

/-- Two places of one element in a list are the same, or one of them comes later. -/
theorem eq_or_later {β : Type} {a : β} {before₁ rest₁ before₂ rest₂ : List β}
    (h : before₁ ++ a :: rest₁ = before₂ ++ a :: rest₂) :
    before₁ = before₂ ∨ (∃ mid, before₂ = before₁ ++ a :: mid) ∨
      ∃ mid, before₁ = before₂ ++ a :: mid := by
  rcases List.append_eq_append_iff.mp h with ⟨mid, hbefore, hrest⟩ | ⟨mid, hbefore, hrest⟩
  · cases mid with
    | nil => exact .inl (by simpa using hbefore.symm)
    | cons b mid =>
      obtain ⟨rfl, -⟩ := List.cons.inj hrest
      exact .inr (.inl ⟨mid, hbefore⟩)
  · cases mid with
    | nil => exact .inl (by simpa using hbefore)
    | cons b mid =>
      obtain ⟨rfl, -⟩ := List.cons.inj hrest
      exact .inr (.inr ⟨mid, hbefore⟩)

/-- In the session, a video was added among `m` others, and later another one among `n` others. -/
def AddedBefore (measure : Measurer α) (actions : List (Action α)) (i : String) (m : Nat)
    (j : String) (n : Nat) : Prop :=
  ∃ before mid rest, actions = (before ++ .addVideo :: mid) ++ .addVideo :: rest ∧
    ((empty : Document α).after measure before).AddsVideo i m ∧
    ((empty : Document α).after measure (before ++ .addVideo :: mid)).AddsVideo j n

section

variable {actions : List (Action α)} {i j : String} {m n : Nat}

/-- Two additions are one, or one of them came later. -/
theorem AddedAmong.compare (hi : AddedAmong measure actions i m)
    (hj : AddedAmong measure actions j n) :
    (i = j ∧ m = n) ∨ AddedBefore measure actions i m j n ∨
      AddedBefore measure actions j n i m := by
  obtain ⟨before, rest, rfl, hi⟩ := hi
  obtain ⟨before', rest', hactions, hj⟩ := hj
  rcases eq_or_later hactions with rfl | ⟨mid, rfl⟩ | ⟨mid, rfl⟩
  · exact .inl ⟨hi.2.1.symm.trans hj.2.1, hi.2.2.symm.trans hj.2.2⟩
  · exact .inr (.inl ⟨before, mid, rest', hactions, hi, hj⟩)
  · exact .inr (.inr ⟨before', mid, rest, rfl, hj, hi⟩)

/-- After a video was added there is one layer more, which is a video. -/
theorem AddsVideo.after_eq {before : List (Action α)}
    (h : ((empty : Document α).after measure before).AddsVideo i n) :
    ∃ l : Layer α, l.kind = .video ∧ (empty : Document α).after measure (before ++ [.addVideo])
      = ((empty : Document α).after measure before).append l := by
  obtain ⟨hok, -, -⟩ := h
  rw [after_append]
  cases hadd : ((empty : Document α).after measure before).addVideo with
  | error fault =>
    rw [hadd] at hok
    exact nomatch hok
  | ok d' =>
    obtain ⟨l, hplate, rfl⟩ := exists_of_addVideo hadd
    refine ⟨l, congrArg Nameplate.kind hplate, ?_⟩
    change ((empty : Document α).after measure before).step measure .addVideo = _
    rw [step, Action.apply, hadd]
    rfl

/-- What is added later has another id: the counter has gone on. -/
theorem AddedBefore.ne (h : AddedBefore measure actions i m j n) : i ≠ j := by
  obtain ⟨before, mid, rest, -, hi, hj⟩ := h
  obtain ⟨l, -, hafter⟩ := hi.after_eq
  have hspent : ((empty : Document α).after measure (before ++ [.addVideo])).idCounter
      = ((empty : Document α).after measure before).idCounter + 1 := by
    rw [hafter]
    rfl
  have hcount := idCounter_le_after measure mid
    (numbered_after measure (before ++ [.addVideo]) numbered_empty)
  rintro rfl
  have hids := hi.2.1.trans hj.2.1.symm
  rw [List.append_cons, after_append, nextId_eq, nextId_eq, LayerKind.idFor_inj] at hids
  omega

/-- **A video is added once.** -/
theorem AddedAmong.unique (hm : AddedAmong measure actions i m)
    (hn : AddedAmong measure actions i n) : m = n := by
  rcases hm.compare hn with ⟨-, heq⟩ | hbefore | hbefore
  · exact heq
  · exact absurd rfl hbefore.ne
  · exact absurd rfl hbefore.ne

/-- Where no video is added among fewer videos than there were before, a later one is added among
more. -/
theorem AddedBefore.lt (h : AddedBefore measure actions i m j n)
    (hrising : ∀ earlier later rest, actions = earlier ++ later ++ .addVideo :: rest →
      ((empty : Document α).after measure earlier).countOf .video
        ≤ ((empty : Document α).after measure (earlier ++ later)).countOf .video) : m < n := by
  obtain ⟨before, mid, rest, rfl, hi, hj⟩ := h
  obtain ⟨l, hl, hafter⟩ := hi.after_eq
  have hone : ((empty : Document α).after measure (before ++ [.addVideo])).countOf .video
      = m + 1 := by
    rw [hafter, ← hi.2.2]
    simp [countOf, append, hl]
  have hcount := hrising (before ++ [.addVideo]) mid rest (by simp)
  rw [hone, ← List.append_cons, hj.2.2] at hcount
  omega

end

/-! ## 4. The files of a session -/

open Command

section

variable {actions : List (Action α)} (hactions : ∀ a ∈ actions, a.edits = false)
include hactions

/-- All layers are to be seen. -/
theorem visible_of_mem {l : Layer α}
    (hl : l ∈ ((empty : Document α).after measure actions).layers) : l.visible.isOn = true :=
  (apt_after measure hactions l.nameplate (List.mem_map_of_mem hl)).1

/-- A video has the name that it got when it was added. -/
theorem exists_addedAmong {l : Layer α}
    (hl : l ∈ ((empty : Document α).after measure actions).layers) (hvideo : l.isVideo = true) :
    ∃ n, AddedAmong measure actions l.id n ∧ l.name = "Video " ++ toString (n + 1) :=
  (apt_after measure hactions l.nameplate (List.mem_map_of_mem hl)).2 (eq_of_beq hvideo)

/-- **Two videos have one file exactly if they were added among the same number.** -/
theorem inputFile_eq_iff {l m : Layer α}
    (hl : l ∈ ((empty : Document α).after measure actions).layers) (hlvideo : l.isVideo = true)
    (hm : m ∈ ((empty : Document α).after measure actions).layers) (hmvideo : m.isVideo = true) :
    inputFile l.name = inputFile m.name ↔
      ∃ n, AddedAmong measure actions l.id n ∧ AddedAmong measure actions m.id n := by
  obtain ⟨i, hi, hlname⟩ := exists_addedAmong hactions hl hlvideo
  obtain ⟨j, hj, hmname⟩ := exists_addedAmong hactions hm hmvideo
  rw [hlname, hmname, inputFile_numbered_inj, Nat.add_right_cancel_iff]
  constructor
  · rintro rfl
    exact ⟨i, hi, hj⟩
  · rintro ⟨n, hln, hmn⟩
    exact (hi.unique hln).trans (hmn.unique hj)

end

/-- No two of the videos that a session leaves were added among the same number of videos. -/
def AddedApart (measure : Measurer α) (actions : List (Action α)) : Prop :=
  (((empty : Document α).after measure actions).layers.filter (·.isVideo)).Pairwise fun l m =>
    ¬ ∃ n, AddedAmong measure actions l.id n ∧ AddedAmong measure actions m.id n

/-- Where no video is added among fewer videos than there were before, the numbers differ. -/
theorem addedApart_of_rising {actions : List (Action α)}
    (hrising : ∀ earlier later rest, actions = earlier ++ later ++ .addVideo :: rest →
      ((empty : Document α).after measure earlier).countOf .video
        ≤ ((empty : Document α).after measure (earlier ++ later)).countOf .video) :
    AddedApart measure actions := by
  have hids := (numbered_after measure actions numbered_empty).ids_nodup
  refine ((List.pairwise_map.mp hids).filter _).imp fun {l m} hne ⟨n, hl, hm⟩ => ?_
  rcases hl.compare hm with ⟨heq, -⟩ | hbefore | hbefore
  · exact hne heq
  · exact absurd (hbefore.lt hrising) (Nat.lt_irrefl n)
  · exact absurd (hbefore.lt hrising) (Nat.lt_irrefl n)

/-- **Two videos have one file if and only if they were added among the same number of videos.**
Take any session in which no field of a layer is edited and no layer is copied.  Every video that is
left is to be seen, was added once, and has the number of videos that there were then, plus one, in
the name of its file; so two videos have one file exactly if these numbers agree.  If there is a
layer at all, the command comes about, unless one of its numbers has no whole pixels.  Its inputs
are the files of the videos, and none of them comes twice if and only if no two of the videos that
are left were added among the same number.  That is so whenever no video was added among fewer
videos than there were at some time before. -/
theorem video_files (measure : Measurer α) (fonts : FontFiles) (template : Bool)
    {actions : List (Action α)} (hactions : ∀ a ∈ actions, a.edits = false) :
    let d := (empty : Document α).after measure actions
    (∀ l ∈ d.layers, l.isVideo = true → l.visible.isOn = true ∧
      ∃ n, (∀ m, AddedAmong measure actions l.id m ↔ m = n) ∧
        inputFile l.name = "video_" ++ toString (n + 1) ++ ".mp4") ∧
    (∀ l ∈ d.layers, ∀ m ∈ d.layers, l.isVideo = true → m.isVideo = true →
      (inputFile l.name = inputFile m.name ↔
        ∃ n, AddedAmong measure actions l.id n ∧ AddedAmong measure actions m.id n)) ∧
    (d.layers ≠ [] →
      (∃ a ∈ pixelValues (visibleVideos d.layers) (visibleTexts d.layers) d.canvas, ∃ e,
        Scalar.roundHalfUp a = .error e ∧ compile fonts d.layers d.canvas template = .error e) ∨
      ∃ g : Graph, Graph.ofLayers? d.layers d.canvas template = .ok (some g) ∧
        compile fonts d.layers d.canvas template = .ok (g.render fonts) ∧
        g.inputs = (visibleVideos d.layers).map (fun v => inputFile v.1.name)
          ++ (if template then [templateInput] else []) ∧
        (g.inputs.Nodup ↔ AddedApart measure actions)) ∧
    ((∀ earlier later rest, actions = earlier ++ later ++ .addVideo :: rest →
      ((empty : Document α).after measure earlier).countOf .video
        ≤ ((empty : Document α).after measure (earlier ++ later)).countOf .video) →
      AddedApart measure actions) := by
  intro d
  have hvisible : ∀ l ∈ d.layers, l.visible.isOn = true := fun l hl => visible_of_mem hactions hl
  refine ⟨?file, fun l hl m hm hlvideo hmvideo => inputFile_eq_iff hactions hl hlvideo hm hmvideo,
    ?command, addedApart_of_rising⟩
  case file =>
    intro l hl hvideo
    obtain ⟨n, hn, hname⟩ := exists_addedAmong hactions hl hvideo
    refine ⟨hvisible l hl, n, fun m => ⟨fun hm => hm.unique hn, ?_⟩, ?_⟩
    · rintro rfl
      exact hn
    · rw [hname, inputFile_numbered]
  case command =>
    intro hlayers
    obtain ⟨l, hl⟩ := List.exists_mem_of_ne_nil d.layers hlayers
    rcases exists_graph_of_visible fonts d.canvas template ⟨l, hl, hvisible l hl⟩ with
      hfails | ⟨g, hg, hof, hcompile⟩
    · exact .inl hfails
    · obtain ⟨-, hinputs, -, -⟩ := groups_of_graphOf hg
      refine .inr ⟨g, hof, hcompile, hinputs, ?_⟩
      have hfiles : ∀ l ∈ d.layers, l.isVideo = true → inputFile l.name ≠ templateInput := by
        intro l hl hvideo
        obtain ⟨n, -, hname⟩ := exists_addedAmong hactions hl hvideo
        exact hname ▸ inputFile_numbered_ne_template (n + 1)
      rw [hinputs, nodup_inputs_iff hvisible hfiles]
      refine List.Pairwise.iff_of_mem fun {l m} hl hm => not_congr ?_
      obtain ⟨hl, hlvideo⟩ := List.mem_filter.mp hl
      obtain ⟨hm, hmvideo⟩ := List.mem_filter.mp hm
      exact inputFile_eq_iff hactions hl hlvideo hm hmvideo

/-- A video is dragged, the one above it is removed, and another one is added in its stead. -/
theorem video_files_refilled :
    let actions : List (Action Rat) := [.addVideo, .press ⟨60, 60⟩, .move ⟨90, 90⟩, .addText,
      .addVideo, .remove "video-3", .addVideo]
    let d := (empty : Document Rat).after .advance10 actions
    (∀ a ∈ actions, a.edits = false) ∧
    (d.layers.map fun l => (l.id, l.name))
      = [("video-1", "Video 1"), ("text-2", "Text 1"), ("video-4", "Video 2")] ∧
    AddedApart .advance10 actions := by
  intro actions d
  have hactions : ∀ a ∈ actions, a.edits = false := by simp [actions, Action.edits]
  have hnames : (d.layers.map fun l => (l.id, l.name))
      = [("video-1", "Video 1"), ("text-2", "Text 1"), ("video-4", "Video 2")] := by
    decide +kernel
  have hlayers : d.layers ≠ [] := fun hnil => by simp [hnil] at hnames
  have hrising : d.layers.Pairwise fun l m => l.zIndex ≤ m.zIndex := by decide +kernel
  obtain ⟨-, -, hcommand, -⟩ := video_files .advance10 systemFonts true hactions
  rcases hcommand hlayers with ⟨a, -, e, hround, -⟩ | ⟨g, -, -, hinputs, hnodup⟩
  · exact nomatch hround
  · rw [files_of_rising hrising] at hinputs
    have hfiles : g.inputs = ["video_1.mp4", "video_2.mp4", "template.png"] :=
      hinputs.trans (by decide +kernel)
    exact ⟨hactions, hnames, hnodup.mp (hfiles ▸ by decide)⟩

/-- The first one of two videos is removed, and a new one has the name of the other.  The two of
them stand for one file, which is given twice. -/
theorem video_files_shared :
    let actions : List (Action Rat) := [.addVideo, .addVideo, .remove "video-1", .addVideo]
    let d := (empty : Document Rat).after .advance10 actions
    (∀ a ∈ actions, a.edits = false) ∧
    (d.layers.map fun l => (l.id, l.isVideo, l.visible.isOn))
      = [("video-2", true, true), ("video-3", true, true)] ∧
    ∃ g, Graph.ofLayers? d.layers d.canvas d.hasTemplate = .ok (some g) ∧
      g.inputs = ["video_2.mp4", "video_2.mp4"] ∧ ¬ g.inputs.Nodup := by
  intro actions d
  have hactions : ∀ a ∈ actions, a.edits = false := by simp [actions, Action.edits]
  have hrising : d.layers.Pairwise fun l m => l.zIndex ≤ m.zIndex := by decide +kernel
  have hvisible : ∃ l ∈ d.layers, l.visible.isOn := by decide +kernel
  refine ⟨hactions, by decide +kernel, ?_⟩
  rcases exists_graph_of_visible systemFonts d.canvas d.hasTemplate hvisible with
    ⟨a, -, e, hround, -⟩ | ⟨g, hg, hof, -⟩
  · exact nomatch hround
  · obtain ⟨-, hinputs, -, -⟩ := groups_of_graphOf hg
    rw [files_of_rising hrising] at hinputs
    have hfiles : g.inputs = ["video_2.mp4", "video_2.mp4"] := hinputs.trans (by decide +kernel)
    exact ⟨g, hof, hfiles, hfiles ▸ by decide⟩

end Document

end Compositor
