import LogTail.Text.Emoji
import LogTail.Text.Width

/-!
# The columns of a text

A text takes as many columns as its characters, except where some of them make one shape: pictures
that are joined, have a skin tone or are selected by a variation selector, flags of two halves, a
carriage return with its line feed, and the ligatures of some scripts.

The characters are gone through from the last to the first. What stands behind a character, as far
as it can matter, is a `Behind`; `Behind.before` gives the columns that the character adds, and what
then stands behind the character before it.
-/

namespace LogTail.Text

/-- Letters that may take part in a ligature with the characters before them. -/
inductive LigatureLetter where
  /-- The Hebrew lamed. -/
  | lamed
  /-- The Buginese ya. -/
  | ya
  /-- The Buginese ya, joined to a vowel i. -/
  | yaWithVowel
  /-- A consonant of Tifinagh. -/
  | tifinagh
  /-- A consonant of Tifinagh with a joiner of the script before it. -/
  | joinedTifinagh
  /-- The second letter of a Lisu tone. -/
  | lisuTone
  /-- The Old Turkic i. -/
  | orkhonI
  /-- A Khmer letter that can stand below another one. -/
  | khmer
  deriving DecidableEq, Repr

/-- What stands behind a character. -/
inductive Follower where
  /-- Nothing that could change the columns of the character. -/
  | plain
  | lineFeed
  | skinTone
  /-- One half of a flag. -/
  | flagHalf
  /-- More halves of flags. -/
  | flagHalves
  | picture
  /-- A joiner before a picture. -/
  | joiner
  /-- The frame of a key before a joiner. -/
  | joinedKey
  /-- Halves of flags before a joiner. -/
  | joinedHalf
  | joinedHalves (odd : Bool)
  /-- Tags before a joiner: either letters or digits. -/
  | joinedTags (letters digits : Nat)
  /-- An Arabic alef. -/
  | alef
  /-- A letter, with a joiner before it or without. -/
  | letter (letter : LigatureLetter) (joined : Bool)
  deriving DecidableEq, Repr

/-- What a variation selector asks for. -/
inductive Selection where
  | picture
  | text
  deriving DecidableEq, Repr

/-- What stands behind a character, and a variation selector between the two. -/
structure Behind where
  follower : Follower := .plain
  selection : Option Selection := none
  deriving DecidableEq, Repr

/-- The characters of no column that a ligature does not reach across. -/
def solidRanges : List (Nat × Nat) := [
  (0x605, 0x605), (0x890, 0x891), (0x8E2, 0x8E2), (0x9BE, 0x9BE), (0x9D7, 0x9D7), (0xB3E, 0xB3E),
  (0xB57, 0xB57), (0xBBE, 0xBBE), (0xBD7, 0xBD7), (0xCC0, 0xCC0), (0xCC2, 0xCC2), (0xCC7, 0xCC8),
  (0xCCA, 0xCCB), (0xCD5, 0xCD6), (0xD3E, 0xD3E), (0xD4E, 0xD4E), (0xD57, 0xD57), (0xDCF, 0xDCF),
  (0xDDF, 0xDDF), (0x1160, 0x11FF), (0x180E, 0x180E), (0x1B35, 0x1B35), (0x1B3B, 0x1B3B),
  (0x1B3D, 0x1B3D), (0x1B43, 0x1B43), (0x200C, 0x200D), (0x2065, 0x2069), (0x302E, 0x302F),
  (0x3164, 0x3164), (0xA8FA, 0xA8FA), (0xD7B0, 0xD7C6), (0xD7CB, 0xD7FB), (0xFF9E, 0xFFA0),
  (0xFFF0, 0xFFF8), (0x111C2, 0x111C3), (0x1133E, 0x1133E), (0x11357, 0x11357), (0x114B0, 0x114B0),
  (0x114BD, 0x114BD), (0x115AF, 0x115AF), (0x11930, 0x11930), (0x1193F, 0x1193F),
  (0x11941, 0x11941), (0x11A3A, 0x11A3A), (0x11A84, 0x11A89), (0x11D46, 0x11D46),
  (0x11F02, 0x11F02), (0x1D165, 0x1D165), (0x1D16E, 0x1D172), (0xE0000, 0xE0000),
  (0xE0002, 0xE001F), (0xE0080, 0xE00FF), (0xE01F0, 0xE0FFF)]

def isTifinagh (c : Char) : Bool :=
  (0x2D31 ≤ c.toNat && c.toNat ≤ 0x2D65) || c.toNat == 0x2D6F

def alefRanges : List (Nat × Nat) := [
  (0x622, 0x623), (0x625, 0x625), (0x627, 0x627), (0x671, 0x673), (0x675, 0x675), (0x773, 0x774),
  (0x870, 0x882)]

def lamRanges : List (Nat × Nat) := [
  (0x644, 0x644), (0x6B5, 0x6B8), (0x76A, 0x76A), (0x8A6, 0x8A6), (0x8C7, 0x8C7)]

/-- The Khmer letters that can stand below another one. -/
def khmerRanges : List (Nat × Nat) := [
  (0x1780, 0x1782), (0x1784, 0x1787), (0x1789, 0x178C), (0x178E, 0x1793), (0x1795, 0x1798),
  (0x179B, 0x179D), (0x17A0, 0x17A0), (0x17A2, 0x17A2), (0x17A7, 0x17A7), (0x17AB, 0x17AC),
  (0x17AF, 0x17AF)]

def ligatureLetter? (c : Char) : Option LigatureLetter :=
  let n := c.toNat
  if n = 0x5DC then some .lamed
  else if inRanges khmerRanges n then some .khmer
  else if n = 0x1A10 then some .ya
  else if isTifinagh c then some .tifinagh
  else if n = 0xA4FC ∨ n = 0xA4FD then some .lisuTone
  else if n = 0x10C03 then some .orkhonI
  else none

/-- What is not shown between the characters of a ligature. -/
def isUnseen (c : Char) : Bool :=
  let n := c.toNat
  n == 0x34F || n == 0x17B4 || n == 0x17B5 || (0x180B ≤ n && n ≤ 0x180D) || n == 0x180F ||
    n == 0x200D || (0xFE00 ≤ n && n ≤ 0xFE0F) || (0xE0100 ≤ n && n ≤ 0xE01EF)

/-- Whether lam and alef reach across the character: a mark that does not break joined writing. -/
def isJoinedAcross (c : Char) : Bool := charWidth c == 0 && !inRanges solidRanges c.toNat

/-- What a character is to the character before it. -/
def Follower.ofChar (c : Char) : Follower :=
  let n := c.toNat
  if n ≤ 0xA0 then if c = '\n' then .lineFeed else .plain
  else match ligatureLetter? c with
    | some l => .letter l (l == .khmer || l == .lisuTone)
    | none =>
      if inRanges alefRanges n then .alef
      else if isFlagHalf c then .flagHalf
      else if isSkinTone c then .skinTone
      else if isPicture c then .picture
      else .plain

namespace Behind

/-- A character that changes nothing with what is behind it. -/
def alone (c : Char) : Int × Behind :=
  (charWidth c,
    if c = '\ufe0f' then ⟨.plain, some .picture⟩
    else if c = '\ufe0e' then ⟨.plain, some .text⟩
    else ⟨.ofChar c, none⟩)

/-- Whether the follower can be part of a ligature of letters. -/
def isLetter (b : Behind) : Bool :=
  match b.follower with
  | .alef | .letter _ _ => true
  | _ => false

/-- With a variation selector in front. -/
def select (b : Behind) (selection : Selection) : Behind :=
  let kept := b.isLetter ||
    (selection == .picture && (b.follower == .joiner || b.follower == .joinedKey))
  ⟨if kept then b.follower else .plain, some selection⟩

/-- Without a selector that the character in front does not take. -/
def unselect (b : Behind) : Behind :=
  match b.selection with
  | some .picture => if b.isLetter then ⟨b.follower, none⟩ else {}
  | _ => ⟨b.follower, none⟩

/-- Without a selector for a picture that the selector in front replaces. -/
def dropPicture (b : Behind) : Behind := if b.selection = some .picture then b.unselect else b

/-- The columns that a character adds by a ligature with a letter, and what is then behind the
character before it. -/
def beforeLetter? (c : Char) : LigatureLetter → Bool → Option (Int × Follower)
  | l, joined =>
    if c = '\u200d' then some (0, .letter l true)
    else if isUnseen c then some (0, .letter l joined)
    else match l, joined, c.toNat with
      | .lamed, true, 0x5D0 => some (0, .plain)
      | .ya, true, 0x1A17 => some (0, .letter .yaWithVowel true)
      | .yaWithVowel, _, 0x1A15 => some (0, .plain)
      | .tifinagh, _, 0x2D7F => some (1, .letter .joinedTifinagh true)
      | .tifinagh, true, _ => if isTifinagh c then some (0, .plain) else none
      | .joinedTifinagh, _, _ => if isTifinagh c then some (-1, .plain) else none
      | .lisuTone, _, n => if 0xA4F8 ≤ n ∧ n ≤ 0xA4FB then some (0, .plain) else none
      | .orkhonI, true, 0x10C32 => some (0, .plain)
      | .khmer, _, 0x17D2 => some (-1, .plain)
      | _, _, _ => none

/-- The columns that a character adds by making one picture with tags and the joiner behind them,
and what is then behind the character before it. -/
def beforeTags? (c : Char) (letters digits : Nat) : Option (Int × Follower) :=
  let n := c.toNat
  if 0xE0061 ≤ n ∧ n ≤ 0xE007A ∧ digits = 0 ∧ letters < 6 then
    some (0, .joinedTags (letters + 1) 0)
  else if 0xE0030 ≤ n ∧ n ≤ 0xE0039 ∧ letters < 5 ∧ digits < 3 then
    some (0, .joinedTags 0 (digits + 1))
  else if n = 0x1F3F4 ∧ (3 ≤ letters ∨ digits = 3) then some (0, .picture)
  else none

/-- The columns that a character adds by making one shape with what is behind it, and what is then
behind the character before it. -/
def beforeShape? (c : Char) : Follower → Option (Int × Follower)
  | .alef =>
    if inRanges lamRanges c.toNat then some (0, .plain)
    else if isJoinedAcross c then some (0, .alef)
    else none
  | .letter l joined => beforeLetter? c l joined
  | .skinTone =>
    if c = '\u200d' then some (0, .joiner)
    else if isToneBase c then some (0, .picture)
    else none
  | .flagHalf => if isFlagHalf c then some (1, .flagHalves) else none
  | .flagHalves =>
    if c = '\u200d' then some (0, .joiner)
    else if isFlagHalf c then some (1, .flagHalves)
    else none
  | .picture => if c = '\u200d' then some (0, .joiner) else none
  | .joiner =>
    if c = '\u20e3' then some (0, .joinedKey)
    else if isFlagHalf c then some (1, .joinedHalf)
    else if isSkinTone c then some (0, .skinTone)
    else if c.toNat = 0xE007F then some (0, .joinedTags 0 0)
    else if isPicture c then some (0, .picture)
    else none
  | .joinedHalf => if isFlagHalf c then some (-1, .joinedHalves false) else none
  | .joinedHalves odd =>
    if c = '\u200d' then some (0, .joiner)
    else if isFlagHalf c then some (if odd then -1 else 3, .joinedHalves !odd)
    else none
  | .joinedTags letters digits => beforeTags? c letters digits
  | _ => none

/-- The columns that a character adds, and what is then behind the character before it. -/
def before (c : Char) (b : Behind) : Int × Behind :=
  if b.selection = some .picture ∧ isSelectable c then
    (if b.follower = .joiner ∨ b.follower = .joinedKey then 0 else 2, ⟨.picture, none⟩)
  else if c.toNat ≤ 0xA0 then
    (if c = '\r' ∧ b = ⟨.lineFeed, none⟩ then 0 else 1, ⟨.ofChar c, none⟩)
  else if c = '\ufe0f' then (0, b.dropPicture.select .picture)
  else if c = '\ufe0e' then (0, b.dropPicture.select .text)
  else if b.selection = some .text ∧ isTextSelectable c then (1, {})
  else match beforeShape? c b.unselect.follower with
    | some (columns, follower) => (columns, ⟨follower, none⟩)
    | none => alone c

end Behind

/-- The columns of some characters, and what they are to a character before them. -/
def columnsFrom (cs : List Char) : Int × Behind :=
  cs.foldr (fun c (columns, behind) =>
    let (more, behind) := behind.before c
    (columns + more, behind)) (0, {})

def columns (cs : List Char) : Nat := (columnsFrom cs).1.toNat

def textWidth (text : String) : Nat := columns text.toList

/-! ## Small laws -/

/-- A character that takes part in no shape takes one column. -/
theorem Behind.before_plain {c : Char} (h : c.toNat ≤ 0xA0) (hn : c ≠ '\n') :
    Behind.before c {} = (1, {}) := by
  simp [Behind.before, Follower.ofChar, h, hn]

/-- Characters that take part in no shape take a column each, and leave nothing behind. -/
theorem columnsFrom_plain {cs : List Char} (h : ∀ c ∈ cs, c.toNat ≤ 0xA0 ∧ c ≠ '\n') :
    columnsFrom cs = ((cs.length : Int), {}) := by
  induction cs with
  | nil => rfl
  | cons c cs ih =>
    have hc := h c (by simp)
    have hcs := ih fun d hd => h d (by simp [hd])
    simp only [columnsFrom] at hcs
    simp [columnsFrom, hcs, Behind.before_plain hc.1 hc.2]

/-- A text of characters that take part in no shape takes as many columns as it has characters. -/
theorem columns_plain {cs : List Char} (h : ∀ c ∈ cs, c.toNat ≤ 0xA0 ∧ c ≠ '\n') :
    columns cs = cs.length := by
  simp [columns, columnsFrom_plain h]

end LogTail.Text
