import LogTail.Text.Columns
import LogTail.Text.GlyphRole

/-!
# Glyphs

A glyph is what a reader sees as one character: a base with the marks that combine with it, a
syllable of Hangul in parts, consonants that are linked to one syllable, a flag of two letters, or
pictures that are joined into one. The glyphs of a text in order are the text
(`flatten_glyphsFrom`).
-/

namespace LogTail.Text

/-- Whether a linking mark is between the end of a glyph and a consonant in it. The last character
is the first of the list. -/
def linksConsonant (glyph : List Char) : Bool :=
  (glyph.takeWhile isBetweenConsonants).any isLinker &&
    (glyph.dropWhile isBetweenConsonants).head?.any fun c => glyphRole c == .consonant

/-- Whether a glyph ends in a picture and a joiner. The last character is the first of the list. -/
def joinsPicture : List Char → Bool
  | [] => false
  | last :: before =>
    glyphRole last == .joiner &&
      (before.dropWhile fun c => glyphRole c == .mark).head?.any fun c => glyphRole c == .picture

/-- Whether a character belongs to the glyph whose characters these are, the last one first. -/
def joins (glyph : List Char) (c : Char) : Bool :=
  match glyph with
  | [] => true
  | last :: _ =>
    match glyphRole last, glyphRole c with
    | .control, _ => last == '\r' && c == '\n'
    | _, .control => false
    | .leading, .leading => true
    | .leading, .vowel _ => true
    | .leading, .trailing alone => !alone
    | .vowel _, .vowel true => true
    | .vowel _, .trailing true => true
    | .trailing _, .trailing true => true
    | _, .mark => true
    | _, .joiner => true
    | _, .spacing => true
    | .front, _ => true
    | _, .consonant => linksConsonant glyph
    | .joiner, .picture => joinsPicture glyph
    | .flag, .flag => (glyph.takeWhile fun d => glyphRole d == .flag).length % 2 = 1
    | _, _ => false

/-- The characters of each glyph of a text, behind the characters of a first one. -/
def glyphsFrom (glyph : List Char) : List Char → List (List Char)
  | [] => [glyph.reverse]
  | c :: cs =>
    if joins glyph c then glyphsFrom (c :: glyph) cs else glyph.reverse :: glyphsFrom [c] cs

structure Glyph where
  text : String
  width : Nat
  deriving DecidableEq, Repr, Inhabited

def glyphs (text : String) : List Glyph :=
  match text.toList with
  | [] => []
  | c :: cs => (glyphsFrom [c] cs).map fun glyph => ⟨String.ofList glyph, columns glyph⟩

/-! ## Small laws -/

/-- Glyphs in order are the text. -/
theorem flatten_glyphsFrom (glyph cs : List Char) :
    (glyphsFrom glyph cs).flatten = glyph.reverse ++ cs := by
  induction cs generalizing glyph with
  | nil => simp [glyphsFrom]
  | cons c cs ih =>
    by_cases h : joins glyph c
    · simp [glyphsFrom, h, ih]
    · simp [glyphsFrom, h, ih]

end LogTail.Text
