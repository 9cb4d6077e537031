import Compositor.Command.Build
import Mathlib.Data.List.Nodup
import Mathlib.Data.List.Perm.Basic
import Mathlib.Data.List.Range

/-!
# How the stages of the graph are wired

A stage consumes labels, reads inputs and produces a label.  `WellFormed` says what a graph needs in
order to be run at all: labels are produced before they are consumed and never twice, each is
consumed once but for the result, and each input is read once.

Which labels a stage has depends on its place among the videos and the texts, on whether texts or a
template follow, and on nothing else.  So the wiring is first written down without the numbers that
the stages carry (`wires`).  The many cases for its labels become one once all pictures are counted
through, videos first and texts after them: the picture after `k` layers is `pictureAfter n m k`,
the stage of layer `k` consumes it and produces the next one, and all these labels differ.
-/

namespace Compositor.Command

/-! ## 1. Well-formed graphs -/

/-- A graph that can be run. -/
structure Graph.WellFormed (g : Graph) : Prop where
  /-- No label is produced twice. -/
  produced_once : (g.stages.map fun s => s.produced.word).Nodup
  /-- What a stage consumes was produced by an earlier one. -/
  consumed_earlier : ∀ before s after, g.stages = before ++ s :: after →
    ∀ l ∈ s.consumed, ∃ t ∈ before, t.produced = l
  /-- What is produced is consumed once, except the result, which is not consumed at all. -/
  consumed_once : (g.result :: g.stages.flatMap Stage.consumed).Perm (g.stages.map Stage.produced)
  /-- The last stage produces the result. -/
  result_last : ∃ s ∈ g.stages.getLast?, s.produced = g.result
  /-- Every input is read by one stage, in their order. -/
  reads_inputs : g.stages.flatMap Stage.reads = List.range g.inputs.length

/-- What a stage is connected to. -/
structure Wire where
  consumed : List Label
  reads : List Nat
  produced : Label

/-- What a stage is connected to. -/
def Stage.wire (s : Stage) : Wire := ⟨s.consumed, s.reads, s.produced⟩

/-! ## 2. Labels -/

/-- Digits alone spell the number that they were made of. -/
theorem toDigits_injective {i j : Nat} (h : Nat.toDigits 10 i = Nat.toDigits 10 j) : i = j := by
  rw [← @Nat.ofDigitChars_ten_toDigits i, h, Nat.ofDigitChars_ten_toDigits]

/-- A number has no letter among its digits. -/
theorem toDigits_ne_letters (i : Nat) {c : Char} {rest : List Char} (hc : c.isDigit = false) :
    Nat.toDigits 10 i ≠ c :: rest := by
  intro h
  have hdigit : c.isDigit = true :=
    Nat.isDigit_of_mem_toDigits (by decide) (by decide) (h ▸ List.mem_cons_self)
  rw [hc] at hdigit
  exact Bool.false_ne_true hdigit

/-- **Different labels have different names.**  The one close call is `v` before a number and
`videos`. -/
theorem Label.word_injective : Function.Injective Label.word := by
  intro a b h
  have hchars : a.word.toList = b.word.toList := congrArg String.toList h
  cases a <;> cases b <;> simp [Label.word] at hchars ⊢
  case scaled.videos => exact toDigits_ne_letters _ (by decide) hchars
  case videos.scaled => exact toDigits_ne_letters _ (by decide) hchars.symm
  all_goals exact toDigits_injective hchars

/-! ## 3. The picture after some of the layers -/

/-- The label of the picture with the first `k` layers, the videos before the texts. -/
def pictureAfter (videos texts k : Nat) : Label :=
  if k ≤ videos then labelBeforeVideo videos texts k else labelBeforeText videos texts (k - videos)

variable {n m : Nat}

/-- The picture before a video is the one with the videos below it. -/
theorem labelBeforeVideo_eq {i : Nat} (hi : i ≤ n) :
    labelBeforeVideo n m i = pictureAfter n m i := by
  rw [pictureAfter, if_pos hi]

/-- The picture after a video is the one with one more layer. -/
theorem labelAfterVideo_eq {i : Nat} (hi : i < n) :
    labelAfterVideo n m i = pictureAfter n m (i + 1) := by
  rw [pictureAfter, if_pos (Nat.succ_le_of_lt hi), labelBeforeVideo]

/-- The picture before a text is the one with all videos and the texts below it. -/
theorem labelBeforeText_eq (j : Nat) : labelBeforeText n m j = pictureAfter n m (n + j) := by
  cases j with
  | zero => rw [Nat.add_zero, pictureAfter, if_pos (Nat.le_refl n), labelBeforeText]
  | succ j => rw [pictureAfter, if_neg (by omega), Nat.add_sub_cancel_left]

/-- The picture after a text is the one with one more layer. -/
theorem labelAfterText_eq (j : Nat) : labelAfterText m j = pictureAfter n m (n + j + 1) := by
  rw [Nat.add_assoc, ← labelBeforeText_eq, labelBeforeText]

/-- The label of each picture: the first is the canvas, the last is final, and in between it is told
by the layer. -/
theorem pictureAfter_eq (k : Nat) : pictureAfter n m k =
    if k = 0 then .base
    else if k < n then .merged (k - 1)
    else if k = n then (if m = 0 then .final else .videos)
    else if k = n + m then .final
    else .captioned (k - n - 1) := by
  unfold pictureAfter
  split
  · cases k with
    | zero => rfl
    | succ i =>
      rw [labelBeforeVideo, labelAfterVideo]
      grind
  · obtain ⟨j, hj⟩ : ∃ j, k - n = j + 1 := ⟨k - n - 1, by omega⟩
    rw [hj, labelBeforeText, labelAfterText]
    grind

/-- **No two pictures on the way have one label.** -/
theorem pictureAfter_injective (n m : Nat) : Function.Injective (pictureAfter n m) := by
  intro i j h
  rw [pictureAfter_eq, pictureAfter_eq] at h
  grind

/-- With a layer at all, the picture with all layers is the final one. -/
theorem pictureAfter_all (h : 0 < n + m) : pictureAfter n m (n + m) = .final := by
  rw [pictureAfter_eq]
  grind

/-- Two videos, and then two texts. -/
example : (List.range 5).map (pictureAfter 2 2)
    = [.base, .merged 0, .videos, .captioned 0, .final] := by decide

/-- No picture on the way is a scaled video or has the template. -/
theorem pictureAfter_ne (k : Nat) :
    (∀ i, pictureAfter n m k ≠ .scaled i) ∧ pictureAfter n m k ≠ .output := by
  rw [pictureAfter_eq]
  grind

/-! ## 4. The wiring of a layout -/

/-- The wire of the stage that makes the canvas. -/
def canvasWire : Wire := ⟨[], [], .base⟩

/-- The wire of the stage that scales a video. -/
def scaleWire (i : Nat) : Wire := ⟨[], [i], .scaled i⟩

/-- The wire of the stage that lays a video over the picture. -/
def overlayWire (n m i : Nat) : Wire :=
  ⟨[pictureAfter n m i, .scaled i], [], pictureAfter n m (i + 1)⟩

/-- The wire of the stage that draws a text on the picture. -/
def captionWire (n m j : Nat) : Wire :=
  ⟨[pictureAfter n m (n + j)], [], pictureAfter n m (n + j + 1)⟩

/-- The wire of the stage that lays the template over the picture. -/
def templateWire (n m : Nat) : Wire := ⟨[pictureAfter n m (n + m)], [n], .output⟩

/-- The wires of all stages for `n` videos and `m` texts. -/
def wires (n m : Nat) (template : Bool) : List Wire :=
  canvasWire :: (List.range n).map scaleWire ++ (List.range n).map (overlayWire n m)
    ++ (List.range m).map (captionWire n m) ++ if template then [templateWire n m] else []

/-- The label of the result. -/
def resultLabel (n m : Nat) (template : Bool) : Label :=
  if template then .output else pictureAfter n m (n + m)

/-- The labels that stand for pictures, in their order. -/
def pictures (n m : Nat) : List Label := (List.range (n + m + 1)).map (pictureAfter n m)

/-- The pictures are those before the videos, those before the texts and the last one. -/
theorem pictures_eq_before (n m : Nat) :
    pictures n m = (List.range n).map (pictureAfter n m)
      ++ (List.range m).map (fun j => pictureAfter n m (n + j)) ++ [pictureAfter n m (n + m)] := by
  rw [pictures, List.range_succ, List.map_append, List.range_add, List.map_append, List.map_map]
  rfl

/-- The pictures are the canvas, those after the videos and those after the texts. -/
theorem pictures_eq_after (n m : Nat) :
    pictures n m = .base :: (List.range n).map (fun i => pictureAfter n m (i + 1))
      ++ (List.range m).map (fun j => pictureAfter n m (n + j + 1)) := by
  rw [pictures, List.range_succ_eq_map, List.map_cons, List.map_map, List.range_add,
    List.map_append, List.map_map, List.cons_append]
  rfl

/-- The labels besides the pictures. -/
def sideLabels (n : Nat) (template : Bool) : List Label :=
  (List.range n).map Label.scaled ++ if template then [.output] else []

/-- What is produced: every picture and every other label. -/
theorem produced_perm (n m : Nat) (template : Bool) :
    ((wires n m template).map Wire.produced).Perm (pictures n m ++ sideLabels n template) := by
  let scaled := (List.range n).map Label.scaled
  let merged := (List.range n).map fun i => pictureAfter n m (i + 1)
  let drawn := (List.range m).map fun j => pictureAfter n m (n + j + 1)
  let last : List Label := if template then [.output] else []
  have hproduced : (wires n m template).map Wire.produced
      = .base :: (scaled ++ (merged ++ drawn)) ++ last := by
    cases template <;> simp [wires, scaled, merged, drawn, last, Function.comp_def, canvasWire,
      scaleWire, overlayWire, captionWire, templateWire]
  have hpictures : pictures n m ++ sideLabels n template
      = .base :: ((merged ++ drawn) ++ scaled) ++ last := by
    simp [pictures_eq_after, sideLabels, scaled, merged, drawn, last]
  -- the stages come in another order than their pictures: all scaled videos are made beforehand
  rw [hproduced, hpictures]
  exact (List.perm_append_comm.cons _).append_right _

/-- What is consumed, and the result: every picture and every other label. -/
theorem consumed_perm (n m : Nat) (template : Bool) :
    (resultLabel n m template :: (wires n m template).flatMap Wire.consumed).Perm
      (pictures n m ++ sideLabels n template) := by
  let laid := (List.range n).flatMap fun i => [pictureAfter n m i, .scaled i]
  let drawn := (List.range m).map fun j => pictureAfter n m (n + j)
  have hconsumed : (wires n m template).flatMap Wire.consumed
      = laid ++ drawn ++ if template then [pictureAfter n m (n + m)] else [] := by
    cases template <;> simp [wires, laid, drawn, List.flatMap_map, canvasWire, scaleWire,
      overlayWire, captionWire, templateWire, ← List.map_eq_flatMap]
  -- each overlay takes a picture and a scaled video
  have hover : laid.Perm
      ((List.range n).map (pictureAfter n m) ++ (List.range n).map Label.scaled) := by
    have h := List.map_append_flatMap_perm (List.range n) (pictureAfter n m) fun i => [.scaled i]
    rw [← List.map_eq_flatMap] at h
    exact h.symm
  rw [hconsumed, pictures_eq_before, List.perm_iff_count]
  intro l
  have hcount := hover.count_eq l
  rw [List.count_append] at hcount
  cases template <;>
    simp only [resultLabel, sideLabels, drawn, List.count_append, List.count_cons, List.count_nil,
      if_true, Bool.false_eq_true, if_false] <;>
    omega

/-- All labels differ. -/
theorem labels_nodup (n m : Nat) (template : Bool) :
    (pictures n m ++ sideLabels n template).Nodup := by
  have hpictures : (pictures n m).Nodup := List.nodup_range.map (pictureAfter_injective n m)
  have hscaled : ((List.range n).map Label.scaled).Nodup :=
    List.nodup_range.map fun i j h => Label.scaled.inj h
  have hside : (sideLabels n template).Nodup := by
    cases template <;> simp [sideLabels, List.nodup_append, hscaled]
  refine List.nodup_append.mpr ⟨hpictures, hside, ?_⟩
  intro a ha b hb
  obtain ⟨k, -, rfl⟩ := List.mem_map.mp ha
  obtain ⟨hne, hne'⟩ := pictureAfter_ne (n := n) (m := m) k
  rcases List.mem_append.mp hb with hb | hb
  · obtain ⟨i, -, rfl⟩ := List.mem_map.mp hb
    exact hne i
  · cases template with
    | false => exact nomatch hb
    | true =>
      rw [List.mem_singleton.mp hb]
      exact hne'

/-- What is read: all inputs in their order. -/
theorem reads_wires (n m : Nat) (template : Bool) :
    (wires n m template).flatMap Wire.reads
      = List.range (n + if template then 1 else 0) := by
  have hscaled : ((List.range n).map scaleWire).flatMap Wire.reads = List.range n := by
    rw [List.flatMap_map]
    exact List.flatMap_singleton' _
  have hover : ((List.range n).map (overlayWire n m)).flatMap Wire.reads = [] := by
    simp [overlayWire]
  have hdrawn : ((List.range m).map (captionWire n m)).flatMap Wire.reads = [] := by
    simp [captionWire]
  cases template <;>
    simp [wires, canvasWire, templateWire, hscaled, hover, hdrawn, List.range_succ]

/-- The last stage produces the result. -/
theorem getLast_wires (n m : Nat) (template : Bool) :
    ((wires n m template).map Wire.produced).getLast? = some (resultLabel n m template) := by
  cases template with
  | true => simp [wires, resultLabel, templateWire, List.getLast?_cons]
  | false =>
    cases m with
    | succ j => simp [wires, resultLabel, captionWire, List.range_succ, Nat.add_assoc,
        List.getLast?_cons]
    | zero =>
      cases n with
      | succ i => simp [wires, resultLabel, overlayWire, List.range_succ, List.getLast?_cons]
      | zero => rfl

/-! ## 5. Nothing is consumed before it is produced -/

/-- Each wire consumes labels that are known or were produced before. -/
def Fed (known : List Label) : List Wire → Prop
  | [] => True
  | w :: rest => w.consumed ⊆ known ∧ Fed (w.produced :: known) rest

/-- It does no harm to know more. -/
theorem Fed.mono {known known' : List Label} {ws : List Wire} (h : Fed known ws)
    (hsub : known ⊆ known') : Fed known' ws := by
  induction ws generalizing known known' with
  | nil => trivial
  | cons w rest ih => exact ⟨List.Subset.trans h.1 hsub, ih h.2 (List.cons_subset_cons _ hsub)⟩

/-- Later wires know what the earlier ones produced. -/
theorem Fed.append {known : List Label} {as bs : List Wire} (ha : Fed known as)
    (hb : Fed (as.map Wire.produced ++ known) bs) : Fed known (as ++ bs) := by
  induction as generalizing known with
  | nil => exact hb
  | cons w rest ih =>
    refine ⟨ha.1, ih ha.2 (hb.mono ?_)⟩
    exact List.perm_middle.symm.subset

/-- Where nothing is known, each label comes from an earlier wire. -/
theorem Fed.earlier {known : List Label} {before after : List Wire} {w : Wire}
    (h : Fed known (before ++ w :: after)) {l : Label} (hl : l ∈ w.consumed) :
    l ∈ known ∨ ∃ t ∈ before, t.produced = l := by
  induction before generalizing known with
  | nil => exact .inl (h.1 hl)
  | cons t rest ih =>
    rcases ih h.2 with hk | ⟨t', ht', rfl⟩
    · rcases List.mem_cons.mp hk with rfl | hk
      · exact .inr ⟨t, List.mem_cons_self, rfl⟩
      · exact .inl hk
    · exact .inr ⟨t', List.mem_cons_of_mem t ht', rfl⟩

/-- Wires that consume only what is known can come in any order. -/
theorem fed_of_known {known : List Label} {ws : List Wire} (h : ∀ w ∈ ws, w.consumed ⊆ known) :
    Fed known ws := by
  induction ws generalizing known with
  | nil => trivial
  | cons w rest ih =>
    refine ⟨h w List.mem_cons_self, ih fun w' hw' => ?_⟩
    exact List.Subset.trans (h w' (List.mem_cons_of_mem w hw')) (List.subset_cons_self _ _)

section Chain

variable {known : List Label} (picture : Nat → Label)

/-- The last picture of a chain is known when the first one is. -/
theorem picture_known (hfirst : picture 0 ∈ known) (k : Nat) :
    picture k ∈ (List.range k).map (fun i => picture (i + 1)) ++ known := by
  cases k with
  | zero => exact hfirst
  | succ i =>
    refine List.mem_append_left _ (List.mem_map.mpr ⟨i, ?_, rfl⟩)
    exact List.mem_range.mpr (Nat.lt_succ_self i)

/-- **A chain.** Where each wire takes the picture that the one before it left, it is enough to
know the first picture and what the wires take besides. -/
theorem fed_chain {wire : Nat → Wire} {k : Nat} (hfirst : picture 0 ∈ known)
    (hconsumed : ∀ i < k, ∀ l ∈ (wire i).consumed, l = picture i ∨ l ∈ known)
    (hproduced : ∀ i, (wire i).produced = picture (i + 1)) :
    Fed known ((List.range k).map wire) := by
  induction k with
  | zero => trivial
  | succ k ih =>
    have hbefore : ((List.range k).map wire).map Wire.produced
        = (List.range k).map fun i => picture (i + 1) := by
      rw [List.map_map]
      exact List.map_congr_left fun i _ => hproduced i
    rw [List.range_succ, List.map_append]
    refine (ih fun i hi => hconsumed i (by omega)).append ⟨fun l hl => ?_, trivial⟩
    rw [hbefore]
    rcases hconsumed k (Nat.lt_succ_self k) l hl with rfl | hl
    · exact picture_known picture hfirst k
    · exact List.mem_append_right _ hl

end Chain

/-- The first picture is the canvas. -/
theorem pictureAfter_zero (n m : Nat) : pictureAfter n m 0 = .base := by
  rw [pictureAfter_eq, if_pos rfl]

/-- **What is consumed was produced before.** -/
theorem fed_wires (n m : Nat) (template : Bool) : Fed [] (wires n m template) := by
  let scaled := (List.range n).map Label.scaled
  let merged := (List.range n).map fun i => pictureAfter n m (i + 1)
  have hassoc : wires n m template = [canvasWire] ++ ((List.range n).map scaleWire
      ++ ((List.range n).map (overlayWire n m) ++ ((List.range m).map (captionWire n m)
      ++ if template then [templateWire n m] else []))) := by
    simp [wires]
  have hbase : pictureAfter n m 0 ∈ scaled ++ [.base] := by
    rw [pictureAfter_zero]
    exact List.mem_append_right _ List.mem_cons_self
  have hvideos : pictureAfter n m (n + 0) ∈ merged ++ (scaled ++ [.base]) :=
    picture_known (pictureAfter n m) hbase n
  have hscales : Fed [.base] ((List.range n).map scaleWire) := by
    refine fed_of_known fun w hw => ?_
    obtain ⟨i, -, rfl⟩ := List.mem_map.mp hw
    exact List.nil_subset _
  have hoverlays : Fed (scaled ++ [.base]) ((List.range n).map (overlayWire n m)) := by
    refine fed_chain (pictureAfter n m) hbase (fun i hi l hl => ?_) fun _ => rfl
    rcases List.mem_pair.mp hl with rfl | rfl
    · exact .inl rfl
    · exact .inr (List.mem_append_left _ (List.mem_map_of_mem (List.mem_range.mpr hi)))
  have hcaptions : Fed (merged ++ (scaled ++ [.base])) ((List.range m).map (captionWire n m)) :=
    fed_chain (fun j => pictureAfter n m (n + j)) hvideos
      (fun j _ l hl => .inl (List.mem_singleton.mp hl)) fun _ => rfl
  have htemplate : Fed (((List.range m).map (captionWire n m)).map Wire.produced
      ++ (merged ++ (scaled ++ [.base]))) (if template then [templateWire n m] else []) := by
    refine fed_of_known fun w hw l hl => ?_
    cases template with
    | false => exact nomatch hw
    | true =>
      rw [List.mem_singleton.mp hw] at hl
      rw [List.mem_singleton.mp hl, List.map_map]
      exact picture_known (fun j => pictureAfter n m (n + j)) hvideos m
  rw [hassoc]
  refine Fed.append ⟨List.nil_subset _, trivial⟩ (hscales.append ?_)
  rw [List.map_map]
  refine hoverlays.append ?_
  rw [List.map_map]
  exact hcaptions.append htemplate

/-! ## 6. From the wiring to the graph -/

/-- **A graph that is wired for some videos and texts is well-formed.** -/
theorem Graph.wellFormed_of_wires {g : Graph} {n m : Nat} {template : Bool}
    (hstages : g.stages.map Stage.wire = wires n m template)
    (hresult : g.result = resultLabel n m template)
    (hinputs : g.inputs.length = n + if template then 1 else 0) : g.WellFormed := by
  have hproduced : g.stages.map Stage.produced = (wires n m template).map Wire.produced := by
    rw [← hstages, List.map_map]
    rfl
  have hconsumed :
      g.stages.flatMap Stage.consumed = (wires n m template).flatMap Wire.consumed := by
    rw [← hstages, List.flatMap_map]
    rfl
  have hperm := produced_perm n m template
  refine ⟨?_, ?_, ?_, ?_, ?_⟩
  · have hnodup := (hperm.nodup_iff.mpr (labels_nodup n m template)).map Label.word_injective
    rw [← hproduced, List.map_map] at hnodup
    exact hnodup
  · intro before s after hsplit l hl
    have hfed := fed_wires n m template
    rw [← hstages, hsplit, List.map_append, List.map_cons] at hfed
    rcases hfed.earlier hl with h | ⟨w, hw, rfl⟩
    · exact nomatch h
    · obtain ⟨t, ht, rfl⟩ := List.mem_map.mp hw
      exact ⟨t, ht, rfl⟩
  · rw [hproduced, hconsumed, hresult]
    exact (consumed_perm n m template).trans hperm.symm
  · have hlast := getLast_wires n m template
    rw [← hproduced, List.getLast?_map, Option.map_eq_some_iff] at hlast
    obtain ⟨s, hs, hlabel⟩ := hlast
    exact ⟨s, hs, hlabel.trans hresult.symm⟩
  · rw [hinputs, ← reads_wires n m template, ← hstages, List.flatMap_map]
    rfl

end Compositor.Command
