/-!
# Colours

The colours of the program, as `#rrggbb`, and the colour of the grid, which is black and almost
transparent.
-/

namespace Compositor.Theme

def background : String := "#1f2124"
def panel : String := "#26292e"
def panelSelected : String := "#2c3036"
def stroke : String := "#3a3f46"
def text : String := "#d6d7d9"
def textDim : String := "#aab0b7"
def accent : String := "#3fb6ff"
def success : String := "#4caf50"
def icon : String := "#bfc5cc"
def danger : String := "#e57373"
def highlighted : String := "#0c0d0e"

def canvas : String := "#f5f5f5"
def layerEdge : String := "#d4d4d8"
def videoTop : String := "#8b5cf6"
def videoBottom : String := "#6d28d9"
def selection : String := "#f59e0b"
def white : String := "#ffffff"

/-- The style of all widgets. -/
def style : String := "Fusion"

/-- The colours of widgets by their roles. -/
def palette : List (String × String) := [
  ("Window", background),
  ("Base", panel),
  ("AlternateBase", panelSelected),
  ("Text", text),
  ("WindowText", text),
  ("ButtonText", text),
  ("Button", panel),
  ("ToolTipBase", panel),
  ("ToolTipText", text),
  ("Highlight", accent),
  ("HighlightedText", highlighted)]

end Compositor.Theme
