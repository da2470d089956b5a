import LogTail.Style.Color

/-!
# Themes

A theme gives every part of the screen its color.
-/

namespace LogTail

structure Theme where
  -- Log levels
  levelError : Color
  levelWarn : Color
  levelInfo : Color
  levelDebug : Color
  levelTrace : Color
  -- Borders
  borderFocused : Color
  borderUnfocused : Color
  -- The header
  headerTitle : Color
  headerSource : Color
  headerBg : Color
  -- The status bar
  statusModeBg : Color
  statusModeFg : Color
  statusHelp : Color
  statusBg : Color
  statusStale : Color
  -- Matches
  matchBg : Color
  matchFg : Color
  activeMatchBg : Color
  activeMatchFg : Color
  -- Jumped-to and selected lines
  flashBg : Color
  selectionBg : Color
  -- The badge of unseen lines
  badgeBg : Color
  badgeFg : Color
  -- The panels at the side
  sourceCurrent : Color
  sourceSelected : Color
  lineNumber : Color
  -- Notices
  emptyState : Color
  warningMessage : Color
  -- The help
  helpBorder : Color
  helpBg : Color
  deriving DecidableEq, Repr, Inhabited

namespace Theme

/-- The sixteen colors of the terminal, and two of its own for marked lines. -/
def standard : Theme where
  levelError := .red
  levelWarn := .yellow
  levelInfo := .green
  levelDebug := .blue
  levelTrace := .darkGray
  borderFocused := .cyan
  borderUnfocused := .darkGray
  headerTitle := .green
  headerSource := .cyan
  headerBg := .darkGray
  statusModeBg := .blue
  statusModeFg := .white
  statusHelp := .darkGray
  statusBg := .black
  statusStale := .red
  matchBg := .yellow
  matchFg := .black
  activeMatchBg := .lightRed
  activeMatchFg := .black
  flashBg := .rgb 60 60 90
  selectionBg := .rgb 40 70 110
  badgeBg := .magenta
  badgeFg := .white
  sourceCurrent := .green
  sourceSelected := .yellow
  lineNumber := .darkGray
  emptyState := .darkGray
  warningMessage := .yellow
  helpBorder := .cyan
  helpBg := .black

/-- Neon on dark. -/
def cyber : Theme where
  levelError := .rgb 255 50 100
  levelWarn := .rgb 255 200 0
  levelInfo := .rgb 0 255 150
  levelDebug := .rgb 0 200 255
  levelTrace := .rgb 100 100 120
  borderFocused := .rgb 0 255 255
  borderUnfocused := .rgb 60 60 80
  headerTitle := .rgb 255 0 255
  headerSource := .rgb 0 255 255
  headerBg := .rgb 20 20 35
  statusModeBg := .rgb 255 0 255
  statusModeFg := .rgb 0 0 0
  statusHelp := .rgb 100 100 120
  statusBg := .rgb 10 10 20
  statusStale := .rgb 255 50 100
  matchBg := .rgb 0 255 255
  matchFg := .rgb 0 0 0
  activeMatchBg := .rgb 255 0 255
  activeMatchFg := .rgb 0 0 0
  flashBg := .rgb 40 0 60
  selectionBg := .rgb 0 60 80
  badgeBg := .rgb 255 0 255
  badgeFg := .rgb 0 0 0
  sourceCurrent := .rgb 0 255 150
  sourceSelected := .rgb 255 200 0
  lineNumber := .rgb 100 100 120
  emptyState := .rgb 100 100 120
  warningMessage := .rgb 255 200 0
  helpBorder := .rgb 0 255 255
  helpBg := .rgb 10 10 20

/-- Pastels on dark. -/
def dracula : Theme where
  levelError := .rgb 255 85 85
  levelWarn := .rgb 255 184 108
  levelInfo := .rgb 80 250 123
  levelDebug := .rgb 139 233 253
  levelTrace := .rgb 98 114 164
  borderFocused := .rgb 189 147 249
  borderUnfocused := .rgb 68 71 90
  headerTitle := .rgb 255 121 198
  headerSource := .rgb 139 233 253
  headerBg := .rgb 40 42 54
  statusModeBg := .rgb 189 147 249
  statusModeFg := .rgb 40 42 54
  statusHelp := .rgb 98 114 164
  statusBg := .rgb 33 34 44
  statusStale := .rgb 255 85 85
  matchBg := .rgb 241 250 140
  matchFg := .rgb 40 42 54
  activeMatchBg := .rgb 255 121 198
  activeMatchFg := .rgb 40 42 54
  flashBg := .rgb 68 71 90
  selectionBg := .rgb 68 71 90
  badgeBg := .rgb 255 121 198
  badgeFg := .rgb 40 42 54
  sourceCurrent := .rgb 80 250 123
  sourceSelected := .rgb 241 250 140
  lineNumber := .rgb 98 114 164
  emptyState := .rgb 98 114 164
  warningMessage := .rgb 255 184 108
  helpBorder := .rgb 189 147 249
  helpBg := .rgb 40 42 54

/-- Shades of gray; matches stand out by contrast. -/
def monochrome : Theme where
  levelError := .rgb 255 255 255
  levelWarn := .rgb 200 200 200
  levelInfo := .rgb 170 170 170
  levelDebug := .rgb 140 140 140
  levelTrace := .rgb 100 100 100
  borderFocused := .rgb 200 200 200
  borderUnfocused := .rgb 80 80 80
  headerTitle := .rgb 255 255 255
  headerSource := .rgb 180 180 180
  headerBg := .rgb 50 50 50
  statusModeBg := .rgb 200 200 200
  statusModeFg := .rgb 0 0 0
  statusHelp := .rgb 120 120 120
  statusBg := .rgb 30 30 30
  statusStale := .rgb 255 255 255
  matchBg := .rgb 170 170 170
  matchFg := .rgb 0 0 0
  activeMatchBg := .rgb 255 255 255
  activeMatchFg := .rgb 0 0 0
  flashBg := .rgb 70 70 70
  selectionBg := .rgb 60 60 60
  badgeBg := .rgb 200 200 200
  badgeFg := .rgb 0 0 0
  sourceCurrent := .rgb 255 255 255
  sourceSelected := .rgb 200 200 200
  lineNumber := .rgb 100 100 100
  emptyState := .rgb 120 120 120
  warningMessage := .rgb 200 200 200
  helpBorder := .rgb 180 180 180
  helpBg := .rgb 20 20 20

/-- The theme of a name, in any case; the standard one if no other has the name. No character
past ASCII is the capital of a letter of these names. -/
def byName (name : String) : Theme :=
  match name.toLower with
  | "cyber" | "futuristic" => cyber
  | "monochrome" | "mono" => monochrome
  | "dracula" => dracula
  | _ => standard

end Theme

end LogTail
