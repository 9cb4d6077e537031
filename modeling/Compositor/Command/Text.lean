import Compositor.Command.Build

/-!
# The command as text

A graph is written as one shell command over several lines.  The graph itself stands between double
quotes, each stage on a line of its own; inside it a text to be drawn stands between single quotes,
with a backslash before each single quote and each colon of its own.
-/

namespace Compositor.Command

/-- A text with a backslash before each single quote and each colon. -/
def escaped (s : List Char) : List Char :=
  s.flatMap fun c => if c == '\'' || c == ':' then ['\\', c] else [c]

/-- A text with a backslash before each single quote and each colon. -/
def escapeText (s : String) : String := String.ofList (escaped s.toList)

/-- The first `#` of a text, replaced by `0x`. -/
def hexColor : List Char → List Char
  | [] => []
  | '#' :: rest => '0' :: 'x' :: rest
  | c :: rest => c :: hexColor rest

/-- A colour as a filter takes it: `0x` in the place of `#`. -/
def filterColor (color : String) : String := String.ofList (hexColor color.toList)

/-- The file of a font family. -/
abbrev FontFiles := String → String

/-- The files of the font families in one directory. -/
def fontFilesIn (directory extension : String) : FontFiles := fun family =>
  directory ++ "/" ++ family ++ "." ++ extension

/-- The files of the font families where the system keeps them. -/
def systemFonts : FontFiles := fontFilesIn "/System/Library/Fonts" "ttf"

/-- A label where it is consumed or produced. -/
def bracketed (l : Label) : String := "[" ++ l.word ++ "]"

/-- The name of an input's picture where it is consumed. -/
def inputPicture (index : Nat) : String := "[" ++ toString index ++ ":v]"

/-- The drawing of a text as a filter takes it. -/
def Drawing.render (fonts : FontFiles) (d : Drawing) : String :=
  let parts := [
    "text='" ++ escapeText d.text ++ "'",
    "fontfile='" ++ fonts d.family ++ "'",
    "fontsize=" ++ toString d.size,
    "fontcolor=" ++ filterColor d.color,
    "x=" ++ toString d.x ++ ":y=" ++ toString d.y]
  let variant := match d.variant with
    | some v => ["font='" ++ v ++ "'"]
    | none => []
  String.intercalate ":" (parts ++ variant)

/-- A size as filters take it. -/
def sizeText (width height : Int) (separator : String) : String :=
  toString width ++ separator ++ toString height

/-- One stage as text, with the blank lines that set groups of stages apart. -/
def Stage.render (fonts : FontFiles) : Stage → String
  | .canvas w h =>
    "    color=size=" ++ sizeText w h "x" ++ ":color=black:d=1" ++ bracketed .base ++ ";\n\n"
  | .scale i w h =>
    "    " ++ inputPicture i ++ "scale=" ++ sizeText w h ":"
      ++ ":force_original_aspect_ratio=decrease,\n    pad=" ++ sizeText w h ":"
      ++ ":(ow-iw)/2:(oh-ih)/2" ++ bracketed (.scaled i) ++ ";\n\n"
  | .overlay u i x y l =>
    "    " ++ bracketed u ++ bracketed (.scaled i) ++ "overlay=" ++ sizeText x y ":"
      ++ bracketed l ++ ";\n"
  | .caption u d l =>
    "    " ++ bracketed u ++ "drawtext=" ++ d.render fonts ++ bracketed l ++ ";\n"
  | .template u i =>
    "\n    " ++ bracketed u ++ inputPicture i ++ "overlay=0:0" ++ bracketed .output ++ "\n"

/-- The file that the command writes. -/
def outputFile : String := "output.mp4"

/-- The options of the encoder. -/
def encoderOptions : String := "-c:v libx264 -pix_fmt yuv420p -crf 18 -preset medium"

/-- The end of a line that the next one continues. -/
def continued : String := " \\\n"

/-- The graph as one shell command. -/
def Graph.render (fonts : FontFiles) (g : Graph) : String :=
  "ffmpeg" ++ continued
    ++ String.join (g.inputs.map fun file => "  -i \"" ++ file ++ "\"" ++ continued)
    ++ "  -filter_complex \"\n"
    ++ String.join (g.stages.map (Stage.render fonts))
    ++ "  \"" ++ continued
    ++ "  -map \"" ++ bracketed g.result ++ "\"" ++ continued
    ++ "  " ++ encoderOptions ++ continued
    ++ "  -shortest" ++ continued
    ++ "  \"" ++ outputFile ++ "\""

/-- What stands in the place of a command for a layout that shows nothing. -/
def emptyLayoutMessage : String := "# Add at least one visible layer first"

/-- The command for a layout. -/
def compile {α : Type} [Scalar α] (fonts : FontFiles) (layers : List (Layer α))
    (canvas : Extent α) (template : Bool) : Except Fault String := do
  match ← Graph.ofLayers? layers canvas template with
  | some g => return g.render fonts
  | none => return emptyLayoutMessage

end Compositor.Command
