import LogTail.Query.Editor
import LogTail.Query.Input

/-!
# What keys do in the editor

What a key does depends on whether the control key and the alt key are held down with it. The shift
key makes no difference: the editor has no selection that it could extend.
-/

namespace LogTail

namespace Query

/-- What a key alone does in the input. -/
def Action.ofPlain? : KeyCode → Option Action
  | .char c => if c = '\n' ∨ c = '\r' then some .breakLine else some (.insert c)
  | .enter => some .breakLine
  | .tab => some .tab
  | .backspace => some .deleteBack
  | .delete => some .deleteForward
  | .up => some (.move .up)
  | .down => some (.move .down)
  | .left => some (.move .back)
  | .right => some (.move .forward)
  | .home => some (.move .head)
  | .end_ => some (.move .tail)
  | .pageUp => some .pageUp
  | .pageDown => some .pageDown
  | .escape | .function _ | .other => none

def Action.ofCtrl? : KeyCode → Option Action
  | .char 'm' => some .breakLine
  | .enter => some .breakLine
  | .char 'h' => some .deleteBack
  | .char 'd' => some .deleteForward
  | .char 'k' => some .deleteToEnd
  | .char 'j' => some .deleteToHead
  | .char 'w' => some .deleteWordBack
  | .char 'n' => some (.move .down)
  | .char 'p' => some (.move .up)
  | .char 'f' => some (.move .forward)
  | .char 'b' => some (.move .back)
  | .char 'a' | .home => some (.move .head)
  | .char 'e' | .end_ => some (.move .tail)
  | .right => some (.move .wordForward)
  | .left => some (.move .wordBack)
  | .down => some (.move .paragraphForward)
  | .up => some (.move .paragraphBack)
  | .char 'u' => some .undo
  | .char 'r' => some .redo
  | .char 'y' => some .paste
  | .char 'v' | .pageDown => some .pageDown
  | .pageUp => some .pageUp
  | _ => none

def Action.ofAlt? : KeyCode → Option Action
  | .enter => some .breakLine
  | .char 'h' | .backspace => some .deleteWordBack
  | .char 'd' | .delete => some .deleteWordForward
  | .home => some (.move .head)
  | .end_ => some (.move .tail)
  | .char '<' => some (.move .top)
  | .char '>' => some (.move .bottom)
  | .char 'f' => some (.move .wordForward)
  | .char 'b' => some (.move .wordBack)
  | .char ']' | .char 'n' => some (.move .paragraphForward)
  | .char '[' | .char 'p' => some (.move .paragraphBack)
  | .char 'v' | .pageUp => some .pageUp
  | .pageDown => some .pageDown
  | _ => none

/-- What a key does in the input when both are held down. -/
def Action.ofCtrlAlt? : KeyCode → Option Action
  | .enter => some .breakLine
  | .home | .left | .char 'b' => some (.move .head)
  | .end_ | .right | .char 'f' => some (.move .tail)
  | .up | .char 'p' => some (.move .top)
  | .down | .char 'n' => some (.move .bottom)
  | .pageUp => some .pageUp
  | .pageDown => some .pageDown
  | _ => none

def Action.ofKey? (key : Key) : Option Action :=
  match key.ctrl, key.alt with
  | false, false => Action.ofPlain? key.code
  | true, false => Action.ofCtrl? key.code
  | false, true => Action.ofAlt? key.code
  | true, true => Action.ofCtrlAlt? key.code

/-- Press a key in the input; tells whether the text was changed. -/
def Editor.press (e : Editor) (key : Key) : Bool × Editor :=
  match Action.ofKey? key with
  | some action => e.apply action
  | none => (false, e)

end Query

end LogTail
