import ResourceModel.Unicode.Composition
import ResourceModel.Unicode.Direction
import ResourceModel.Unicode.Joining
import ResourceModel.Url.NameTable
import ResourceModel.Url.Punycode

set_option autoImplicit false

/-! # Names of hosts

A name is brought into one form, small and composed, and its labels are checked one by one. A label
may be written in ASCII behind a mark of its own; what it stands for then has to be in that form
already. -/

namespace ResourceModel.Url

open Unicode

/-- The characters that no name may hold, besides blanks and controls. -/
def nameBarred : List Char :=
  ['%', '#', '/', ':', '<', '>', '?', '@', '[', '\\', ']', '^', '|']

/-- Whether a character may stand in a name. -/
def isNameChar (c : Char) : Bool :=
  0x20 < c.toNat && c.toNat ≠ 0x7F && !nameBarred.contains c

/-- Whether a character belongs to ASCII. -/
def isAscii (c : Char) : Bool :=
  c.toNat < 0x80

/-- The mark of a label that is written in ASCII. -/
def codedMark : List Char := "xn--".toList

/-- The greatest length of what follows the mark of a label that is written in ASCII. -/
def codedLimit : Nat := 2000

/-- The greatest length of a label that is still to be written in ASCII. -/
def uncodedLimit : Nat := 1000

/-- Whether a text is in the form of names and goes beyond ASCII. -/
def isSettled (label : List Char) : Bool :=
  !label.all isAscii && label.all (fun c => nameChar? c == some [c]) && canonical label == label

/-- The label that a part of a name stands for. -/
def label? (part : List Char) : Option (List Char) :=
  match Text.after? codedMark part with
  | some code =>
    if part.all isAscii && code.length ≤ codedLimit then
      (Punycode.decode? code).filter isSettled
    else none
  | none => if part.all isAscii || part.length ≤ uncodedLimit then some part else none

/-- Whether a label does not begin with a mark and has joiners only where they are felt. -/
def isLabel (label : List Char) : Bool :=
  !label.head?.any isMark && feelsJoiners [] label

/-- The form of a name; none if it is not a name. -/
def name? (text : List Char) : Option (List Char) := do
  let name := canonical (← text.mapM nameChar?).flatten
  let labels ← (Text.parts '.' name).mapM label?
  if name.all isNameChar && labels.all isLabel && keepOrder labels then some name else none

end ResourceModel.Url
