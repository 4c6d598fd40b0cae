import ResourceModel.Text.Uppercase
import ResourceModel.Unicode.Casing

set_option autoImplicit false

/-! # Lower case

The lower-case mapping of the Unicode character database (version 17): the inverse of the runs of
the upper-case mapping, with a list of letters that it is not the inverse for. A capital sigma at
the end of a word becomes the small one that stands there. -/

namespace ResourceModel.Text

/-- Ranges of letters whose lower-case letters are not those of the runs: from the first to the last
    letter, and the lower-case letter of the first. -/
def lowerRanges : List (Nat × Nat × Nat) := [
  (0x1C4, 0x1C4, 0x1C6), (0x1C5, 0x1C5, 0x1C6), (0x1C7, 0x1C7, 0x1C9), (0x1C8, 0x1C8, 0x1C9),
  (0x1CA, 0x1CA, 0x1CC), (0x1CB, 0x1CB, 0x1CC), (0x1F1, 0x1F1, 0x1F3), (0x1F2, 0x1F2, 0x1F3),
  (0x399, 0x399, 0x3B9), (0x39C, 0x39C, 0x3BC), (0x3A3, 0x3A3, 0x3C3), (0x3F4, 0x3F4, 0x3B8),
  (0x1E9E, 0x1E9E, 0xDF), (0x1F88, 0x1F8F, 0x1F80), (0x1F98, 0x1F9F, 0x1F90),
  (0x1FA8, 0x1FAF, 0x1FA0), (0x1FBC, 0x1FBC, 0x1FB3), (0x1FCC, 0x1FCC, 0x1FC3),
  (0x1FFC, 0x1FFC, 0x1FF3), (0x2126, 0x2126, 0x3C9), (0x212A, 0x212A, 0x6B),
  (0x212B, 0x212B, 0xE5), (0xA64A, 0xA64A, 0xA64B)]

/-- Whether the upper-case letters of a run hold a code point. -/
def CaseRun.holdsUpper (run : CaseRun) (code : Nat) : Bool :=
  run.upper ≤ code && code - run.upper ≤ run.last - run.first && (code - run.upper) % run.step == 0

/-- The lower-case form of a code point above those of ASCII. -/
def lowerCode (code : Nat) : Nat :=
  match lowerRanges.find? fun range => range.1 ≤ code && code ≤ range.2.1 with
  | some range => range.2.2 + (code - range.1)
  | none =>
    match caseRuns.find? (·.holdsUpper code) with
    | some run => run.first + (code - run.upper)
    | none => code

/-- The lower-case form of a character. -/
def lower (c : Char) : List Char :=
  if c.toNat < 128 then [c.toLower]
  else if c.toNat = 0x130 then ['i', Char.ofNat 0x307]
  else [Char.ofNat (lowerCode c.toNat)]

/-- The capital sigma. -/
def capitalSigma : Char := Char.ofNat 0x3A3

/-- The small sigma at the end of a word. -/
def finalSigma : Char := Char.ofNat 0x3C2

/-- The lower-case form of a text, given the text before it with its last character first. -/
def lowerFrom (before : List Char) : List Char → List Char
  | [] => []
  | c :: rest =>
    let isFinal := c = capitalSigma && Unicode.beginsCased before && !Unicode.beginsCased rest
    (if isFinal then [finalSigma] else lower c) ++ lowerFrom (c :: before) rest

end ResourceModel.Text

namespace ResourceModel

/-- A text in lower case. -/
def lowerText (text : String) : String :=
  String.ofList (Text.lowerFrom [] text.toList)

end ResourceModel
