import Compositor.CopyFlag
import Compositor.Scalar.Exact
import Mathlib.Algebra.Order.Ring.Rat
import Mathlib.Data.List.Induction
import Mathlib.Tactic.Linarith

/-!
# Asking whether a copy is acknowledged

To ask is to change the flag: who asks too late makes it forget the copy.  So what is answered
could depend on who else has asked, and when.  While the clock does not go back it never does.  A
flag that was asked answers from then on as if it had not been (`read_snd_read`), since a while that
has passed once has passed for good, and there is nothing else that asking changes.

So only copies and ends of the acknowledgement matter, and of these the last one: it is a copy, and
the while since then has not passed (`acknowledged_iff`).  All this is about exact numbers.
-/

namespace Compositor.CopyFlag

/-! ## 1. Runs -/

section

variable {α : Type} [Scalar α]

/-- The flag after it was used at several times, one after the other. -/
def usedAll (f : CopyFlag α) : List (α × Use) → CopyFlag α
  | [] => f
  | (clock, u) :: rest => (f.use clock u).1.usedAll rest

/-- What is done in two runs is done in one. -/
theorem usedAll_append (f : CopyFlag α) (uses more : List (α × Use)) :
    f.usedAll (uses ++ more) = (f.usedAll uses).usedAll more := by
  induction uses generalizing f with
  | nil => rfl
  | cons u rest ih => exact ih (f.use u.1 u.2).1

/-- What is read in two runs is read in one. -/
theorem readings_append (f : CopyFlag α) (uses more : List (α × Use)) :
    f.readings (uses ++ more) = f.readings uses ++ (f.usedAll uses).readings more := by
  induction uses generalizing f with
  | nil => rfl
  | cons u rest ih =>
    change (f.use u.1 u.2).2 ++ (f.use u.1 u.2).1.readings (rest ++ more)
      = (f.use u.1 u.2).2 ++ (f.use u.1 u.2).1.readings rest ++ _
    rw [ih, List.append_assoc]
    rfl

/-- There is one answer for each time that the flag is read. -/
theorem length_readings (f : CopyFlag α) (uses : List (α × Use)) :
    (f.readings uses).length = uses.countP (·.2 == .read) := by
  induction uses generalizing f with
  | nil => rfl
  | cons u rest ih =>
    obtain ⟨clock, u⟩ := u
    rw [readings, List.length_append, ih, List.countP_cons]
    cases u <;> simp [use, Nat.add_comm]

/-- To read a flag is to leave it as it is, or to clear it. -/
theorem snd_read_cases (f : CopyFlag α) (clock : α) :
    (f.read clock).2 = f ∨ (f.read clock).2 = f.clear := by
  unfold read
  split
  · exact .inl rfl
  · split
    · exact .inr rfl
    · exact .inl rfl

/-- A flag that does not acknowledge a copy has none after it was asked. -/
theorem markedAt_snd_read {f : CopyFlag α} {clock : α} (h : (f.read clock).1 = false) :
    (f.read clock).2.markedAt = none := by
  unfold read at h ⊢
  split at h
  · assumption
  · split at h
    · rename_i hexpired
      rw [if_pos hexpired]
      rfl
    · exact nomatch h

/-- Using a flag leaves the while as it is. -/
theorem resetMs_usedAll (f : CopyFlag α) (uses : List (α × Use)) :
    (f.usedAll uses).resetMs = f.resetMs := by
  induction uses generalizing f with
  | nil => rfl
  | cons u rest ih =>
    obtain ⟨clock, u⟩ := u
    refine (ih (f.use clock u).1).trans ?_
    cases u with
    | mark | clear => rfl
    | read =>
      change (f.read clock).2.resetMs = f.resetMs
      rcases f.snd_read_cases clock with h | h <;> rw [h]
      rfl

end

/-! ## 2. One reading -/

variable {f : CopyFlag Rat} {s t m : Rat}

/-- The while has passed when the time since the copy is no shorter. -/
theorem expired_iff : f.expired t m = true ↔ (f.resetMs : Rat) ≤ (t - m) * 1000 :=
  Exact.atLeast_iff _ _

/-- A while that has passed has passed for good. -/
theorem expired_mono (hst : s ≤ t) (h : f.expired s m = true) : f.expired t m = true := by
  rw [expired_iff] at h ⊢
  linarith

/-- **A flag that was read answers later as if it had not been.** -/
theorem read_snd_read (hst : s ≤ t) : (f.read s).2.read t = f.read t := by
  cases hmarked : f.markedAt with
  | none => simp only [read, hmarked]
  | some m =>
    cases hearly : f.expired s m with
    | true =>
      -- The reading at `s` clears the flag, and the one at `t` would have done so anyway.
      have hlate := expired_mono hst hearly
      simp only [read, hmarked, hearly, hlate, if_true, clear]
    | false => simp only [read, hmarked, hearly, Bool.false_eq_true, if_false]

/-- A flag that was read is used later as if it had not been. -/
theorem use_snd_read (hst : s ≤ t) (u : Use) : (f.read s).2.use t u = f.use t u := by
  cases u with
  | mark | clear =>
    rcases f.snd_read_cases s with h | h
    · rw [h]
    · rw [h]
      rfl
  | read => simp only [use, read_snd_read hst]

/-- **What is read after a reading is what is read without it.** -/
theorem readings_snd_read {uses : List (Rat × Use)} (hlater : ∀ u ∈ uses, s ≤ u.1) :
    (f.read s).2.readings uses = f.readings uses := by
  cases uses with
  | nil => rfl
  | cons u rest => rw [readings, readings, use_snd_read (hlater u List.mem_cons_self)]

/-! ## 3. The copy that stands -/

/-- The time of the last copy, if the acknowledgement was not ended after it.  Readings do not
matter here. -/
def standing? (uses : List (Rat × Use)) : Option Rat :=
  uses.foldl (fun standing u =>
    match u.2 with
    | .mark => some u.1
    | .clear => none
    | .read => standing) none

theorem standing?_concat (uses : List (Rat × Use)) (u : Rat × Use) :
    standing? (uses ++ [u]) = match u.2 with
      | .mark => some u.1
      | .clear => none
      | .read => standing? uses := by
  rw [standing?, List.foldl_append]
  rfl

/-- A copy stands exactly if it is followed by nothing but readings. -/
theorem standing?_eq_some_iff {uses : List (Rat × Use)} :
    standing? uses = some m ↔ ∃ earlier later, uses = earlier ++ (m, .mark) :: later ∧
      ∀ u ∈ later, u.2 = .read := by
  induction uses using List.reverseRecOn with
  | nil => simp [standing?]
  | append_singleton uses last ih =>
    rw [standing?_concat]
    constructor
    · intro h
      obtain ⟨s, u⟩ := last
      cases u with
      | mark =>
        cases h
        exact ⟨uses, [], rfl, List.forall_mem_nil _⟩
      | clear => exact nomatch h
      | read =>
        obtain ⟨earlier, later, rfl, hreads⟩ := ih.mp h
        refine ⟨earlier, later ++ [(s, .read)], by simp, ?_⟩
        simpa [or_imp, forall_and] using hreads
    · rintro ⟨earlier, later, huses, hreads⟩
      -- The last use is the copy itself, or one of the readings after it.
      rcases List.eq_nil_or_concat later with rfl | ⟨later, u, rfl⟩
      · obtain ⟨-, hlast⟩ := List.append_inj' huses rfl
        cases hlast
        rfl
      · rw [List.concat_eq_append] at huses hreads
        rw [← List.cons_append, ← List.append_assoc] at huses
        obtain ⟨rfl, hlast⟩ := List.append_inj' huses rfl
        cases hlast
        have hread : last.2 = .read := hreads last (List.mem_append_right _ List.mem_cons_self)
        rw [hread]
        exact ih.mpr ⟨earlier, later, rfl, fun u hu => hreads u (List.mem_append_left _ hu)⟩

/-- **What a flag answers is what the copy that stands makes it answer**, whoever asked before.  The
induction is from the end: a copy and an end of the acknowledgement decide alone, and a reading can
be left out. -/
theorem fst_read_usedAll (ms : Int) {uses : List (Rat × Use)} (hpast : ∀ u ∈ uses, u.1 ≤ t) :
    (((⟨ms, none⟩ : CopyFlag Rat).usedAll uses).read t).1 = true ↔
      ∃ m, standing? uses = some m ∧ (t - m) * 1000 < ms := by
  induction uses using List.reverseRecOn with
  | nil => simp [usedAll, read, standing?]
  | append_singleton uses last ih =>
    obtain ⟨s, u⟩ := last
    have hst : s ≤ t := hpast (s, u) (List.mem_append_right _ List.mem_cons_self)
    have ih := ih fun u hu => hpast u (List.mem_append_left _ hu)
    rw [usedAll_append, standing?_concat]
    generalize hflag : (⟨ms, none⟩ : CopyFlag Rat).usedAll uses = f at ih
    have hms : f.resetMs = ms := hflag ▸ resetMs_usedAll _ uses
    cases u with
    | mark =>
      have hmarked : ((f.mark s).read t).1 = !(f.mark s).expired t s := fst_read (f.mark s) t
      have hwhile : (f.mark s).expired t s = false ↔ (t - s) * 1000 < ms := by
        rw [← Bool.not_eq_true, expired_iff, not_le, ← hms]
        rfl
      change ((f.mark s).read t).1 = true ↔ _
      simp [hmarked, hwhile]
    | clear =>
      change (f.clear.read t).1 = true ↔ _
      simp [fst_read, clear]
    | read =>
      change ((f.read s).2.read t).1 = true ↔ _
      rw [read_snd_read hst]
      exact ih

/-- **Whether a copy is acknowledged.**  A flag is used at times that do not go back, and one of the
uses is a reading.  Its answer is yes exactly if there was a copy with neither a copy nor an end of
the acknowledgement after it, and the while since then has not passed.  The other readings are
answered as if this one was not there, although one that comes too late clears the flag. -/
theorem acknowledged_iff (ms : Int) {before after : List (Rat × Use)} {t : Rat}
    (hordered : ((before ++ (t, .read) :: after).map Prod.fst).Pairwise (· ≤ ·)) :
    let f : CopyFlag Rat := ⟨ms, none⟩
    (f.readings before).length = before.countP (·.2 == .read) ∧
    ∃ yes later, f.readings (before ++ (t, .read) :: after) = f.readings before ++ yes :: later ∧
      (yes = true ↔ ∃ m earlier between, before = earlier ++ (m, .mark) :: between ∧
        (∀ u ∈ between, u.2 = .read) ∧ (t - m) * 1000 < ms) ∧
      f.readings (before ++ after) = f.readings before ++ later ∧
      (yes = false → (f.usedAll (before ++ [(t, .read)])).markedAt = none) := by
  intro f
  rw [List.map_append, List.map_cons, List.pairwise_append, List.pairwise_cons] at hordered
  obtain ⟨-, ⟨hlater, -⟩, hpast⟩ := hordered
  replace hpast : ∀ u ∈ before, u.1 ≤ t := fun u hu =>
    hpast u.1 (List.mem_map_of_mem hu) t List.mem_cons_self
  replace hlater : ∀ u ∈ after, t ≤ u.1 := fun u hu => hlater u.1 (List.mem_map_of_mem hu)
  refine ⟨length_readings f before, ((f.usedAll before).read t).1,
    (f.usedAll before).readings after, ?_, ?_, readings_append f before after, fun hno => ?_⟩
  · rw [readings_append, ← readings_snd_read hlater]
    rfl
  · rw [fst_read_usedAll ms hpast]
    simp only [standing?_eq_some_iff]
    constructor
    · rintro ⟨m, ⟨earlier, between, hbefore, hreads⟩, hwhile⟩
      exact ⟨m, earlier, between, hbefore, hreads, hwhile⟩
    · rintro ⟨m, earlier, between, hbefore, hreads, hwhile⟩
      exact ⟨m, ⟨earlier, between, hbefore, hreads⟩, hwhile⟩
  · rw [usedAll_append]
    exact markedAt_snd_read hno

/-- A copy is acknowledged for two seconds.  It is asked for too late and then once more, and after
another copy in time. -/
theorem acknowledged_iff_again :
    let before : List (Rat × Use) := [(0, .mark), (3 / 2, .read), (2, .read)]
    let after : List (Rat × Use) := [(4, .mark), (11 / 2, .read)]
    ((before ++ (3, .read) :: after).map Prod.fst).Pairwise (· ≤ ·) ∧
    (⟨2000, none⟩ : CopyFlag Rat).readings (before ++ (3, .read) :: after)
      = [true, false, false, true] ∧
    (⟨2000, none⟩ : CopyFlag Rat).readings (before ++ after) = [true, false, true] := by
  intro before after
  have hordered : ((before ++ (3, .read) :: after).map Prod.fst).Pairwise (· ≤ ·) := by
    decide +kernel
  obtain ⟨-, yes, later, hall, -, hwithout, -⟩ := acknowledged_iff 2000 hordered
  have hanswers : (⟨2000, none⟩ : CopyFlag Rat).readings (before ++ (3, .read) :: after)
      = [true, false, false, true] := by decide +kernel
  have hbefore : (⟨2000, none⟩ : CopyFlag Rat).readings before = [true, false] := by
    decide +kernel
  rw [hbefore] at hall hwithout
  rw [hanswers] at hall
  cases hall
  exact ⟨hordered, hanswers, hwithout⟩

end Compositor.CopyFlag
