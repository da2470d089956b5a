import LogTail.Source.Duration
import LogTail.Text.Blank
import LogTail.Text.Utf8
import LogTail.Toml.Document

/-!
# Settings

The settings start from defaults; a settings file changes some, the environment overrides some of
those, and at last values that would bring polling or searching to a stop are raised.

A file that cannot be read, or holds a value of the wrong kind, counts as no file at all.
-/

namespace LogTail

/-- The settings. Times are in milliseconds. -/
structure Settings where
  /-- Lines retained in a generation. -/
  maxLines : Nat := 50000
  /-- How often the text is fetched. -/
  pollInterval : Nat := 1000
  /-- How long a fetch may take. -/
  fetchTimeout : Nat := 5000
  /-- Lines that a scan looks at in one go. -/
  scanChunk : Nat := 1000
  /-- Result cards shown at most. -/
  resultWindow : Nat := 200
  /-- Lines shown above and below a match. -/
  snippetContext : Nat := 2
  /-- How long a query must be quiet before it is searched for. -/
  debounce : Nat := 150
  /-- How far from the bottom still counts as the bottom. -/
  nearBottom : Nat := 2
  /-- Lines whose segments are remembered. -/
  segmentCache : Nat := 4096
  /-- How long a line that was jumped to stays marked. -/
  flash : Nat := 600
  /-- The name of the theme. -/
  theme : String := "default"
  /-- Where exported logs go; the current directory if not set. -/
  exportDir : Option String := none
  deriving DecidableEq, Repr, Inhabited

namespace Settings

def exportDirectory (s : Settings) : String := s.exportDir.getD "."

/-- The number under a key; a value of another kind, or below zero, is a fault. -/
def natural? (entries : Toml.Entries) (key : String) (default : Nat) : Option Nat :=
  match entries.get? key with
  | none => some default
  | some (.integer n) => if n < 0 then none else some n.toNatClampNeg
  | some _ => none

/-- The text under a key; a value of another kind is a fault. -/
def string? (entries : Toml.Entries) (key : String) : Option (Option String) :=
  match entries.get? key with
  | none => some none
  | some (.string text) => some (some text)
  | some _ => none

/-- The settings in a document. Keys that are no settings do not matter. -/
def ofEntries? (entries : Toml.Entries) : Option Settings := do
  let d : Settings := {}
  return {
    maxLines := ← natural? entries "max_lines" d.maxLines
    pollInterval := ← natural? entries "poll_interval_ms" d.pollInterval
    fetchTimeout := ← natural? entries "fetch_timeout_ms" d.fetchTimeout
    scanChunk := ← natural? entries "scan_chunk_lines" d.scanChunk
    resultWindow := ← natural? entries "result_window" d.resultWindow
    snippetContext := ← natural? entries "snippet_context" d.snippetContext
    debounce := ← natural? entries "debounce_ms" d.debounce
    nearBottom := ← natural? entries "near_bottom_lines" d.nearBottom
    segmentCache := ← natural? entries "segment_cache_capacity" d.segmentCache
    flash := ← natural? entries "flash_ms" d.flash
    theme := (← string? entries "theme").getD d.theme
    exportDir := ← string? entries "export_dir" }

def ofText? (text : String) : Option Settings := (Toml.parse? text).bind ofEntries?

/-- The settings in the bytes of a settings file, or the defaults. -/
def ofFile (bytes : Option (List UInt8)) : Settings :=
  ((bytes.bind Text.Utf8.decode?).bind ofText?).getD {}

/-- The digits as a number of at most 64 bits. -/
def number? (digits : List Char) : Option Nat :=
  if digits.isEmpty || !digits.all Char.isDigit then none
  else
    let n := Toml.ofDigits 10 digits
    if n < 0x10000000000000000 then some n else none

/-- A number in the environment: digits, with or without a plus sign, and blanks around. -/
def envNumber? (text : String) : Option Nat :=
  match (Text.trim text).toList with
  | '+' :: digits => number? digits
  | digits => number? digits

/-- Override settings from the environment. Numbers that cannot be read do not count. -/
def override (s : Settings) (env : String → Option String) : Settings :=
  let number (name : String) (old : Nat) : Nat := ((env name).bind envNumber?).getD old
  { s with
    maxLines := number "HOUND_MAX_LINES" s.maxLines
    pollInterval := number "HOUND_POLL_MS" s.pollInterval
    fetchTimeout := number "HOUND_FETCH_TIMEOUT_MS" s.fetchTimeout
    debounce := number "HOUND_DEBOUNCE_MS" s.debounce
    theme := (env "HOUND_THEME").getD s.theme }

/-- Raise what is too small to work with. -/
def sanitize (s : Settings) : Settings :=
  { s with
    maxLines := max s.maxLines 1
    pollInterval := max s.pollInterval 50
    fetchTimeout := max s.fetchTimeout 1
    scanChunk := max s.scanChunk 1
    resultWindow := max s.resultWindow 1
    segmentCache := max s.segmentCache 1 }

/-- The settings from a settings file, if there is one, and the environment. -/
def load (file : Option (List UInt8)) (env : String → Option String) : Settings :=
  ((ofFile file).override env).sanitize

end Settings

end LogTail
