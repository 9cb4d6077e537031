import Compositor.Command.Text
import Compositor.Proofs.Command.Script
import Compositor.Proofs.Command.Stages
import Compositor.Scalar.Exact

/-!
# The command as words

The command that is written for a layout is a script (`toList_render`), so it is read as its words
if its quoted words are quotable.  Most of what stands between quotes is made of digits, labels and
the names of filters, which mean themselves wherever they stand (`Safe`).  The names of the videos
are not, nor what is said in the texts, their fonts and their colours: these are written as they are,
but for the apostrophes and colons of a text, to which the shell pays no attention here.

The graph is one quoted word with many such strings in it.  It does not follow from each string that
the whole is quotable, for what ends in a backslash takes the meaning from what follows; what follows
a string in the graph is always an apostrophe, a colon or a bracket, and a backslash leaves these
alone (`Divides`).  So each string counts for itself, and the words of the command come out as they
are meant if and only if every string that is written into it is literal (`read_render_iff`).
-/

namespace Compositor

namespace Shell

/-! ## 1. Texts that are put together -/

/-- Texts are literal together if they are so each, and the first leaves the second alone. -/
theorem literal_append {u v : List Char}
    (h : ∀ a ∈ u.getLast?, ∀ b ∈ v.head?, Apart a b) :
    Literal (u ++ v) ↔ Literal u ∧ Literal v := by
  constructor
  · rintro ⟨hinert, hapart⟩
    obtain ⟨hu, hv⟩ := List.forall_mem_append.mp hinert
    obtain ⟨hu', hv', -⟩ := List.isChain_append.mp hapart
    exact ⟨⟨hu, hu'⟩, ⟨hv, hv'⟩⟩
  · rintro ⟨⟨hu, hu'⟩, ⟨hv, hv'⟩⟩
    exact ⟨List.forall_mem_append.mpr ⟨hu, hv⟩, List.isChain_append.mpr ⟨hu', hv', h⟩⟩

/-- Characters that mean themselves between double quotes whatever stands beside them. -/
def Safe (u : List Char) : Prop := ∀ c ∈ u, c ∉ escapable

instance (u : List Char) : Decidable (Safe u) := List.decidableBAll (· ∉ escapable) u

theorem safe_append_iff {u v : List Char} : Safe (u ++ v) ↔ Safe u ∧ Safe v :=
  List.forall_mem_append

theorem Safe.append {u v : List Char} (hu : Safe u) (hv : Safe v) : Safe (u ++ v) :=
  safe_append_iff.mpr ⟨hu, hv⟩

theorem Safe.getLast?_ne {u : List Char} (hu : Safe u) : u.getLast? ≠ some '\\' := fun h =>
  hu '\\' (List.mem_of_getLast? h) (by decide)

/-- Safe characters are literal. -/
theorem Safe.literal {u : List Char} (hu : Safe u) : Literal u where
  inert c hc hmem := hu c hc (List.cons_subset_cons _ (List.subset_cons_self _ _) hmem)
  apart := by
    induction u with
    | nil => exact .nil
    | cons c u ih =>
      obtain ⟨hc, hu⟩ := List.forall_mem_cons.mp hu
      exact isChain_cons_of_ne (fun hslash => hc (hslash ▸ by decide)) (ih hu)

theorem Safe.quotable {u : List Char} (hu : Safe u) : Quotable u := ⟨hu.literal, hu.getLast?_ne⟩

/-- Safe characters before a text do not change what it means. -/
theorem Safe.literal_append_iff {t v : List Char} (ht : Safe t) : Literal (t ++ v) ↔ Literal v := by
  rw [literal_append fun a ha b _ hslash => absurd (hslash ▸ ha) ht.getLast?_ne]
  exact and_iff_right ht.literal

/-- Safe characters that also leave a backslash before them alone. -/
structure Divides (t : List Char) : Prop where
  safe : Safe t
  ne_nil : t ≠ []
  line : t.head? ≠ some '\n'

/-- **Texts that are divided are literal each for itself.** -/
theorem Divides.literal_iff {u t v : List Char} (ht : Divides t) :
    Literal (u ++ (t ++ v)) ↔ Literal u ∧ Literal v := by
  obtain ⟨c, t, rfl⟩ := List.exists_cons_of_ne_nil ht.ne_nil
  rw [literal_append, ht.safe.literal_append_iff]
  intro a _ b hb _
  cases hb
  have hline : c ≠ '\n' := fun h => ht.line (h ▸ rfl)
  exact mt List.mem_cons.mp (not_or.mpr ⟨hline, ht.safe c List.mem_cons_self⟩)

/-- The empty text is literal. -/
theorem literal_nil : Literal [] := ⟨nofun, .nil⟩

/-- A text before safe characters is literal for itself. -/
theorem Divides.literal_append_iff {u t : List Char} (ht : Divides t) :
    Literal (u ++ t) ↔ Literal u := by
  rw [← List.append_nil t, ht.literal_iff]
  exact and_iff_left literal_nil

/-- A text before safe characters can be quoted if it is literal. -/
theorem Divides.quotable_append_iff {u t : List Char} (ht : Divides t) :
    Quotable (u ++ t) ↔ Literal u := by
  rw [← ht.literal_append_iff]
  refine ⟨Quotable.toLiteral, fun h => ⟨h, fun hlast => ?_⟩⟩
  rw [List.getLast?_append_of_ne_nil _ ht.ne_nil] at hlast
  exact ht.safe.getLast?_ne hlast

theorem Divides.append {t v : List Char} (ht : Divides t) (hv : Safe v) : Divides (t ++ v) where
  safe := ht.safe.append hv
  ne_nil := List.append_ne_nil_of_left_ne_nil ht.ne_nil v
  line := by
    obtain ⟨c, t, rfl⟩ := List.exists_cons_of_ne_nil ht.ne_nil
    exact ht.line

end Shell

namespace Command

open Shell

/-! ## 2. The graph between its quotes -/

/-- A natural number is spelled with safe characters. -/
theorem safe_toString (n : Nat) : Safe (toString n).toList := by
  intro c hc hmem
  have hchars : (toString n).toList = Nat.toDigits 10 n := by simp
  have hdigit : c.isDigit = true :=
    Nat.isDigit_of_mem_toDigits (by decide) (by decide) (hchars ▸ hc)
  simp only [escapable, expanding, List.mem_cons, List.not_mem_nil, or_false] at hmem
  rcases hmem with rfl | rfl | rfl | rfl <;> exact absurd hdigit (by decide)

/-- A whole number is spelled with safe characters. -/
theorem safe_toString_int (n : Int) : Safe (toString n).toList := by
  cases n with
  | ofNat n => exact safe_toString n
  | negSucc n =>
    have hsign : toString (Int.negSucc n) = "-" ++ toString (n + 1) := rfl
    rw [hsign, String.toList_append]
    exact .append (by decide) (safe_toString _)

/-- A label divides texts. -/
theorem divides_bracketed (l : Label) : Divides (bracketed l).toList := by
  have hword : Safe l.word.toList := by
    cases l with
    | scaled i | merged i | captioned i =>
      rw [Label.word, String.toList_append]
      exact .append (by decide) (safe_toString i)
    | _ => decide
  rw [bracketed, String.toList_append, String.toList_append]
  exact .append (.append ⟨by decide, by decide, by decide⟩ hword) (by decide)

/-- The name of an input's picture is spelled with safe characters. -/
theorem safe_inputPicture (i : Nat) : Safe (inputPicture i).toList := by
  rw [inputPicture, String.toList_append, String.toList_append]
  exact .append (.append (by decide) (safe_toString i)) (by decide)

/-- A size is spelled with safe characters. -/
theorem safe_sizeText (w h : Int) {separator : String} (hsep : Safe separator.toList) :
    Safe (sizeText w h separator).toList := by
  rw [sizeText, String.toList_append, String.toList_append]
  exact .append (.append (safe_toString_int w) hsep) (safe_toString_int h)

/-- The strings of a drawing that are written as they are. -/
def Drawing.strings (fonts : FontFiles) (d : Drawing) : List String :=
  [escapeText d.text, fonts d.family, filterColor d.color] ++ d.variant.toList

/-- The text of a drawing, string by string. -/
theorem Drawing.toList_render (fonts : FontFiles) (d : Drawing) :
    (d.render fonts).toList = "text='".toList ++ ((escapeText d.text).toList
      ++ ("':fontfile='".toList ++ ((fonts d.family).toList
      ++ (("':fontsize=" ++ toString d.size ++ ":fontcolor=").toList ++ ((filterColor d.color).toList
      ++ ((":x=" ++ toString d.x ++ ":y=" ++ toString d.y).toList
      ++ d.variant.elim [] fun v => ":font='".toList ++ (v.toList ++ "'".toList))))))) := by
  unfold Drawing.render
  cases d.variant <;> simp

/-- A drawing is literal if its strings are. -/
theorem literal_drawing (fonts : FontFiles) (d : Drawing) :
    Literal (d.render fonts).toList ↔ ∀ s ∈ d.strings fonts, Literal s.toList := by
  have htext : Safe "text='".toList := by decide
  have hfile : Divides "':fontfile='".toList := ⟨by decide, by decide, by decide⟩
  have hsize : Divides ("':fontsize=" ++ toString d.size ++ ":fontcolor=").toList := by
    rw [String.toList_append, String.toList_append]
    exact .append (.append ⟨by decide, by decide, by decide⟩ (safe_toString_int _)) (by decide)
  have hplace : Divides (":x=" ++ toString d.x ++ ":y=" ++ toString d.y).toList := by
    rw [String.toList_append, String.toList_append, String.toList_append]
    exact .append (.append (.append ⟨by decide, by decide, by decide⟩ (safe_toString_int _))
      (by decide)) (safe_toString_int _)
  have hfont : Safe ":font='".toList := by decide
  have hquote : Divides "'".toList := ⟨by decide, by decide, by decide⟩
  rw [d.toList_render, htext.literal_append_iff, hfile.literal_iff, hsize.literal_iff,
    hplace.literal_iff]
  unfold Drawing.strings
  cases d.variant with
  | none => simp [literal_nil]
  | some v =>
    rw [Option.elim_some, hfont.literal_append_iff, hquote.literal_append_iff]
    simp

/-- A stage that draws no text is spelled with safe characters. -/
theorem safe_stage (fonts : FontFiles) {s : Stage} (h : s.drawing? = none) :
    Safe (s.render fonts).toList := by
  cases s with
  | caption u d l => exact nomatch h
  | canvas w h | scale i w h | overlay u i x y l | template u i =>
    dsimp only [Stage.render]
    simp only [String.toList_append, safe_append_iff]
    and_intros
    all_goals
      with_reducible
        first
        | apply safe_inputPicture
        | exact (divides_bracketed _).safe
        | refine safe_sizeText _ _ ?_
        | skip
    all_goals decide

/-- A stage is literal if the strings are that it draws. -/
theorem literal_stage (fonts : FontFiles) (s : Stage) :
    Literal (s.render fonts).toList
      ↔ ∀ d ∈ s.drawing?, ∀ t ∈ d.strings fonts, Literal t.toList := by
  cases s with
  | caption u d l =>
    have hbefore : Safe ("    " ++ bracketed u ++ "drawtext=").toList := by
      rw [String.toList_append, String.toList_append]
      exact .append (.append (by decide) (divides_bracketed u).safe) (by decide)
    have hafter : Divides ((bracketed l).toList ++ ";\n".toList) :=
      (divides_bracketed l).append (by decide)
    dsimp only [Stage.render]
    rw [String.toList_append, String.toList_append, String.toList_append, List.append_assoc,
      List.append_assoc, hbefore.literal_append_iff, hafter.literal_append_iff,
      literal_drawing]
    simp [Stage.drawing?]
  | canvas w h | scale i w h | overlay u i x y l | template u i =>
    exact iff_of_true (safe_stage fonts rfl).literal (by simp [Stage.drawing?])

/-- Every stage ends a line. -/
theorem getLast?_stage (fonts : FontFiles) (s : Stage) :
    (s.render fonts).toList.getLast? = some '\n' := by
  cases s
  all_goals
    dsimp only [Stage.render]
    rw [String.toList_append, List.getLast?_append]
    rfl

/-- The graph of a command as one word, lines and all. -/
def Graph.text (fonts : FontFiles) (g : Graph) : String :=
  "\n" ++ String.join (g.stages.map (Stage.render fonts)) ++ "  "

/-- The strings that some stages draw. -/
def stageStrings (fonts : FontFiles) (stages : List Stage) : List String :=
  (stages.filterMap Stage.drawing?).flatMap (Drawing.strings fonts)

/-- Some stages are literal if the strings are that they draw. -/
theorem literal_stages (fonts : FontFiles) (stages : List Stage) :
    Literal ((stages.map (Stage.render fonts)).flatMap String.toList)
      ↔ ∀ t ∈ stageStrings fonts stages, Literal t.toList := by
  unfold stageStrings
  rw [List.forall_mem_flatMap]
  induction stages with
  | nil => exact iff_of_true literal_nil nofun
  | cons s stages ih =>
    have happart : ∀ a ∈ (s.render fonts).toList.getLast?,
        ∀ b ∈ ((stages.map (Stage.render fonts)).flatMap String.toList).head?, Apart a b := by
      intro a ha b _ hslash
      rw [getLast?_stage, Option.mem_some] at ha
      exact absurd (ha.trans hslash) (by decide)
    rw [List.map_cons, List.flatMap_cons, literal_append happart, ih, literal_stage]
    cases hs : s.drawing? with
    | none => simp [hs]
    | some d => simp [hs]

/-- **The graph is quotable if the strings are literal that it draws.** -/
theorem quotable_text (fonts : FontFiles) (g : Graph) :
    Quotable (g.text fonts).toList ↔ ∀ t ∈ stageStrings fonts g.stages, Literal t.toList := by
  have hline : Safe "\n".toList := by decide
  have hend : Divides "  ".toList := ⟨by decide, by decide, by decide⟩
  rw [← literal_stages, Graph.text, String.toList_append, String.toList_append, String.toList_join,
    hend.quotable_append_iff, hline.literal_append_iff]

/-- The name of an input is quotable if it is literal. -/
theorem quotable_inputFile (name : String) :
    Quotable (inputFile name).toList ↔ Literal (inputFile name).toList := by
  have hend : Divides ".mp4".toList := ⟨by decide, by decide, by decide⟩
  rw [inputFile, String.toList_append, hend.quotable_append_iff, hend.literal_append_iff]

/-! ## 3. The command as a script -/

/-- The words of the command. -/
def Graph.words (fonts : FontFiles) (g : Graph) : List String :=
  "ffmpeg" :: g.inputs.flatMap (fun file => ["-i", file])
    ++ ["-filter_complex", g.text fonts, "-map", bracketed g.result, "-c:v", "libx264", "-pix_fmt",
      "yuv420p", "-crf", "18", "-preset", "medium", "-shortest", outputFile]

/-- The words that name some inputs, as they are written. -/
def inputParts (inputs : List String) : List Part :=
  inputs.flatMap fun file => [⟨true, .bare "-i".toList (by decide)⟩, ⟨false, .quoted file.toList⟩]

/-- The words of the command behind the inputs, as they are written. -/
def Graph.outputParts (fonts : FontFiles) (g : Graph) : List Part :=
  [⟨true, .bare "-filter_complex".toList (by decide)⟩, ⟨false, .quoted (g.text fonts).toList⟩,
    ⟨true, .bare "-map".toList (by decide)⟩, ⟨false, .quoted (bracketed g.result).toList⟩,
    ⟨true, .bare "-c:v".toList (by decide)⟩, ⟨false, .bare "libx264".toList (by decide)⟩,
    ⟨false, .bare "-pix_fmt".toList (by decide)⟩, ⟨false, .bare "yuv420p".toList (by decide)⟩,
    ⟨false, .bare "-crf".toList (by decide)⟩, ⟨false, .bare "18".toList (by decide)⟩,
    ⟨false, .bare "-preset".toList (by decide)⟩, ⟨false, .bare "medium".toList (by decide)⟩,
    ⟨true, .bare "-shortest".toList (by decide)⟩, ⟨true, .quoted outputFile.toList⟩]

/-- The words of the command behind the first, as they are written. -/
def Graph.parts (fonts : FontFiles) (g : Graph) : List Part :=
  inputParts g.inputs ++ g.outputParts fonts

/-- The parts have the words. -/
theorem map_word_parts (fonts : FontFiles) (g : Graph) :
    "ffmpeg".toList :: (g.parts fonts).map (fun p => p.written.word)
      = (g.words fonts).map String.toList := by
  simp [Graph.parts, inputParts, Graph.outputParts, Graph.words, Written.word, List.map_flatMap,
    -String.reduceToList]

/-- The line of an input. -/
def inputLine (file : String) : String := "  -i \"" ++ file ++ "\"" ++ continued

/-- To go on behind the first word and behind each input is to go on before each input and behind
all of them. -/
theorem toList_inputs (inputs : List String) :
    continued.toList ++ (String.join (inputs.map inputLine)).toList
      = (inputParts inputs).flatMap Part.text ++ continued.toList := by
  induction inputs with
  | nil => simp [inputParts]
  | cons file inputs ih =>
    have hparts : (inputParts (file :: inputs)).flatMap Part.text
        = continued.toList ++ ("  -i \"" ++ file ++ "\"").toList
          ++ (inputParts inputs).flatMap Part.text := by
      simp [inputParts, Part.text, gap, Written.text, continued]
    rw [hparts, List.append_assoc, ← ih]
    simp [inputLine]

/-- The text behind the inputs is that of the parts behind them. -/
theorem toList_output (fonts : FontFiles) (g : Graph) :
    continued.toList ++ ("  -filter_complex \"" ++ g.text fonts ++ "\"" ++ continued
        ++ "  -map \"" ++ bracketed g.result ++ "\"" ++ continued ++ "  " ++ encoderOptions ++ continued
        ++ "  -shortest" ++ continued ++ "  \"" ++ outputFile ++ "\"").toList
      = (g.outputParts fonts).flatMap Part.text := by
  simp [Graph.outputParts, Part.text, gap, Written.text, continued, encoderOptions, outputFile]

/-- **The text of the command is the script of its parts.** -/
theorem toList_render (fonts : FontFiles) (g : Graph) :
    (g.render fonts).toList = script "ffmpeg".toList (g.parts fonts) := by
  have hlines : (fun file => "  -i \"" ++ file ++ "\"" ++ continued) = inputLine := rfl
  have hopen : "  -filter_complex \"\n" = "  -filter_complex \"" ++ "\n" := by decide
  have hclose : "  \"" = "  " ++ "\"" := by decide
  rw [script, Graph.parts, List.flatMap_append, ← toList_output,
    ← List.append_assoc ((inputParts g.inputs).flatMap Part.text), ← toList_inputs]
  dsimp only [Graph.render]
  simp only [hlines, hopen, hclose, Graph.text, String.toList_append, List.append_assoc]

/-- What is written for some inputs means itself if the inputs are quotable. -/
theorem forall_inputParts_iff (inputs : List String) :
    (∀ p ∈ inputParts inputs, p.written.MeansItself) ↔ ∀ file ∈ inputs, Quotable file.toList := by
  rw [inputParts, List.forall_mem_flatMap]
  simp [Written.MeansItself]

/-- What is written behind the inputs means itself if the graph is quotable. -/
theorem forall_outputParts_iff (fonts : FontFiles) (g : Graph) :
    (∀ p ∈ g.outputParts fonts, p.written.MeansItself) ↔ Quotable (g.text fonts).toList := by
  have hresult : Quotable (bracketed g.result).toList := (divides_bracketed g.result).safe.quotable
  have houtput : Quotable outputFile.toList := by decide
  simp [Graph.outputParts, Written.MeansItself, hresult, houtput]

/-- **The text of a command is read as its words, if and only if the names of its inputs are
quotable and the strings literal that it draws.** -/
theorem read_render_iff (fonts : FontFiles) (g : Graph) :
    Shell.read (g.render fonts).toList = some [(g.words fonts).map String.toList] ↔
      (∀ file ∈ g.inputs, Quotable file.toList) ∧
        ∀ t ∈ stageStrings fonts g.stages, Literal t.toList := by
  have hfirst : Plain "ffmpeg".toList := by decide
  rw [toList_render, ← map_word_parts, read_script_iff hfirst, Graph.parts,
    List.forall_mem_append, forall_inputParts_iff, forall_outputParts_iff, quotable_text]

/-! ## 4. The command of a layout -/

variable {α : Type} [Scalar α]

/-- The strings of a text that are written into the command as they are. -/
def captionStrings (fonts : FontFiles) (c : Caption α) : List String :=
  [escapeText c.text, fonts c.font.family, filterColor c.color] ++ (fontVariant c.font).toList

/-- The strings of a layout that are written into the command as they are: the file of each video
that is seen, and for each text that is seen what it says, its font and its colour. -/
def splicedStrings (fonts : FontFiles) (layers : List (Layer α)) : List String :=
  (visibleVideos layers).map (fun v => inputFile v.1.name)
    ++ (visibleTexts layers).flatMap fun t => captionStrings fonts t.2

/-- What is drawn of a text are its strings. -/
theorem strings_of_drawing {fonts : FontFiles} {l : Layer α} {c : Caption α} {d : Drawing}
    (h : drawing l c = .ok d) : d.strings fonts = captionStrings fonts c := by
  obtain ⟨size, -, h⟩ := Fault.of_bind_eq_ok h
  obtain ⟨x, -, h⟩ := Fault.of_bind_eq_ok h
  obtain ⟨y, -, h⟩ := Fault.of_bind_eq_ok h
  cases h
  rfl

/-- The strings that the stages draw are those of the texts. -/
theorem stageStrings_eq {videos : List (Layer α × Clip α)} {texts : List (Layer α × Caption α)}
    {canvas : Extent α} (s : Groups videos texts canvas) (fonts : FontFiles) (template : Bool) :
    stageStrings fonts (s.stages template) = texts.flatMap fun t => captionStrings fonts t.2 := by
  rw [stageStrings, List.flatMap_def, List.flatMap_def, map_eq_map_of_ok (s.map_drawing template)
    fun t _ d hd => strings_of_drawing hd]

omit [Scalar α] in
/-- The file of a video and the template are quotable if the file is literal. -/
theorem quotable_inputs_iff (videos : List (Layer α × Clip α)) (template : Bool) :
    (∀ file ∈ videos.map (fun v => inputFile v.1.name)
        ++ (if template then [templateInput] else []), Quotable file.toList) ↔
      ∀ file ∈ videos.map fun v => inputFile v.1.name, Literal file.toList := by
  have htemplate : ∀ file ∈ if template then [templateInput] else [], Quotable file.toList := by
    cases template <;> decide
  rw [List.forall_mem_append, and_iff_left htemplate, List.forall_mem_map, List.forall_mem_map]
  exact forall₂_congr fun v _ => quotable_inputFile v.1.name

/-- A layout with a visible layer has a command of some groups of stages, or a number without whole
pixels. -/
theorem exists_groups_of_visible (fonts : FontFiles) {layers : List (Layer α)} (canvas : Extent α)
    (template : Bool) (hvisible : ∃ l ∈ layers, l.visible.isOn) :
    (∃ a ∈ pixelValues (visibleVideos layers) (visibleTexts layers) canvas, ∃ e,
      Scalar.roundHalfUp a = .error e ∧ compile fonts layers canvas template = .error e) ∨
    ∃ (g : Graph) (s : Groups (visibleVideos layers) (visibleTexts layers) canvas),
      Graph.ofLayers? layers canvas template = .ok (some g) ∧
      compile fonts layers canvas template = .ok (g.render fonts) ∧
      g.inputs = (visibleVideos layers).map (fun v => inputFile v.1.name)
        ++ (if template then [templateInput] else []) ∧
      g.stages = s.stages template ∧
      g.result = resultLabel (visibleVideos layers).length (visibleTexts layers).length template := by
  rcases exists_graph_of_visible fonts canvas template hvisible with
    hfails | ⟨g, hg, hof, hcompile⟩
  · exact .inl hfails
  · obtain ⟨s, hinputs, hstages, hresult⟩ := groups_of_graphOf hg
    exact .inr ⟨g, s, hof, hcompile, hinputs, hstages, hresult⟩

/-- **The words of the command of a layout with a visible layer.**  A number may have no whole
pixels, and the command fails as its rounding does.  Otherwise the text of the command is one command
of the words that it was put together of, if and only if the strings that were written into it as
they are mean themselves between double quotes: none of them has a quote, a dollar sign or a
backquote, nor a backslash before another one or the end of a line. -/
theorem compile_words (fonts : FontFiles) (layers : List (Layer α)) (canvas : Extent α)
    (template : Bool) (hvisible : ∃ l ∈ layers, l.visible.isOn) :
    (∃ a ∈ pixelValues (visibleVideos layers) (visibleTexts layers) canvas, ∃ e,
      Scalar.roundHalfUp a = .error e ∧ compile fonts layers canvas template = .error e) ∨
    ∃ g : Graph, Graph.ofLayers? layers canvas template = .ok (some g) ∧
      compile fonts layers canvas template = .ok (g.render fonts) ∧
      g.inputs = (visibleVideos layers).map (fun v => inputFile v.1.name)
        ++ (if template then [templateInput] else []) ∧
      g.result = resultLabel (visibleVideos layers).length (visibleTexts layers).length template ∧
      (Shell.read (g.render fonts).toList = some [(g.words fonts).map String.toList] ↔
        ∀ s ∈ splicedStrings fonts layers, Literal s.toList) := by
  rcases exists_groups_of_visible fonts canvas template hvisible with
    hfails | ⟨g, s, hof, hcompile, hinputs, hstages, hresult⟩
  · exact .inl hfails
  · refine .inr ⟨g, hof, hcompile, hinputs, hresult, ?_⟩
    rw [read_render_iff, hinputs, hstages, stageStrings_eq, quotable_inputs_iff, splicedStrings,
      List.forall_mem_append]

/-- One video, with capitals and blanks in its name. -/
def plainLayout : List (Layer Rat) :=
  [⟨"video-1", "Some  Clip", 40, 30, true, 1, .video ⟨320, 240, false, 1⟩⟩]

/-- Its text is one command of its words. -/
theorem compile_words_plain :
    (∃ l ∈ plainLayout, l.visible.isOn) ∧
      ∃ g : Graph, compile systemFonts plainLayout ⟨1280, 720⟩ true = .ok (g.render systemFonts) ∧
        g.inputs = ["some_clip.mp4", "template.png"] ∧
        Shell.read (g.render systemFonts).toList
          = some [(g.words systemFonts).map String.toList] := by
  have hvisible : ∃ l ∈ plainLayout, l.visible.isOn := by decide
  refine ⟨hvisible, ?_⟩
  rcases compile_words systemFonts plainLayout ⟨1280, 720⟩ true hvisible with
    ⟨a, -, e, hround, -⟩ | ⟨g, -, hg, hinputs, -, hread⟩
  · exact nomatch hround
  · exact ⟨g, hg, hinputs.trans (by decide +kernel), hread.mpr (by decide +kernel)⟩

/-- One video, with a name that ends its word and then the command. -/
def rebootLayout : List (Layer Rat) :=
  [⟨"video-1", "x\";reboot;\"", 0, 0, true, 1, .video ⟨340, 340, true, 1⟩⟩]

/-- Its text is three commands, and the second is the one in the name. -/
theorem compile_words_reboot :
    ∃ text rest, compile systemFonts rebootLayout ⟨504, 846⟩ false = .ok text ∧
      Shell.read text.toList = some [["ffmpeg".toList, "-i".toList, "x".toList],
        ["reboot".toList], ".mp4".toList :: rest] := by
  have hvisible : ∃ l ∈ rebootLayout, l.visible.isOn := by decide
  rcases exists_groups_of_visible systemFonts ⟨504, 846⟩ false hvisible with
    ⟨a, -, e, hround, -⟩ | ⟨g, s, -, hcompile, hinputs, hstages, -⟩
  · exact nomatch hround
  have hfiles : g.inputs = ["x\";reboot;\".mp4"] := hinputs.trans (by decide +kernel)
  have hnone : stageStrings systemFonts g.stages = [] := by
    rw [hstages, stageStrings_eq]
    decide +kernel
  have hparts : ∀ p ∈ g.outputParts systemFonts, p.written.MeansItself := by
    rw [forall_outputParts_iff, quotable_text, hnone]
    exact nofun
  let behind : State := ⟨.bare, [["ffmpeg".toList, "-i".toList, "x".toList], ["reboot".toList]], [],
    some ".mp4".toList⟩
  have hrun : run .start ("ffmpeg".toList ++ (inputParts g.inputs).flatMap Part.text)
      = some behind := by
    rw [hfiles]
    rfl
  obtain ⟨hmode, hcommands, hline⟩ := foldl_next (g.outputParts systemFonts) behind
  refine ⟨_, (g.outputParts systemFonts).map fun p => p.written.word, hcompile, ?_⟩
  rw [toList_render, script, Graph.parts, List.flatMap_append, ← List.append_assoc, Shell.read,
    run_append, hrun, Option.bind_some, run_parts rfl hparts, Option.bind_some,
    finish_eq hmode (by rw [hline]; exact List.cons_ne_nil _ _), hcommands, hline]
  rfl

end Command

end Compositor
