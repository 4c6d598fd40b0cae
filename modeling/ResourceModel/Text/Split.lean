set_option autoImplicit false

/-! # Splitting and matching text

The cuts that names, references and tags are made of, on lists of characters: the parts between
separators, the text before a first separator, a leading piece, a contained piece, and the
replacement of a piece by another. -/

namespace ResourceModel.Text

/-- The parts of a text between the occurrences of `separator`; there is always at least one. -/
def parts (separator : Char) : List Char → List (List Char)
  | [] => [[]]
  | c :: rest =>
    if c = separator then [] :: parts separator rest
    else match parts separator rest with
      | [] => [[c]]
      | first :: others => (c :: first) :: others

/-- The texts before and after the first occurrence of `separator`, if there is one. -/
def cut? (separator : Char) : List Char → Option (List Char × List Char)
  | [] => none
  | c :: rest =>
    if c = separator then some ([], rest)
    else (cut? separator rest).map fun pair => (c :: pair.1, pair.2)

/-- What follows `start`, if the text begins with it. -/
def after? : List Char → List Char → Option (List Char)
  | [], text => some text
  | _ :: _, [] => none
  | s :: start, c :: text => if s = c then after? start text else none

/-- Whether `piece` stands somewhere in the text. -/
def contains (piece : List Char) : List Char → Bool
  | [] => piece.isEmpty
  | c :: rest => (after? piece (c :: rest)).isSome || contains piece rest

/-- What follows the first occurrence of `piece`, if there is one. -/
def suffixAfter? (piece : List Char) : List Char → Option (List Char)
  | [] => after? piece []
  | c :: rest =>
    match after? piece (c :: rest) with
    | some suffix => some suffix
    | none => suffixAfter? piece rest

/-- What precedes `ending`, if the text ends with it. -/
def before? (ending text : List Char) : Option (List Char) :=
  (after? ending.reverse text.reverse).map List.reverse

/-- The text with every occurrence of `piece`, read from the left, replaced by `other`. The first
    argument counts the characters of an occurrence that are still to be passed over. -/
def replaceFrom (piece other : List Char) : Nat → List Char → List Char
  | _, [] => []
  | skip + 1, _ :: rest => replaceFrom piece other skip rest
  | 0, c :: rest =>
    match after? piece (c :: rest) with
    | some _ => other ++ replaceFrom piece other (piece.length - 1) rest
    | none => c :: replaceFrom piece other 0 rest

end ResourceModel.Text

namespace ResourceModel

open Text

/-! ## On strings -/

/-- The parts of a text between the occurrences of a separator. -/
def splitParts (text : String) (separator : Char) : List String :=
  (parts separator text.toList).map String.ofList

/-- The non-empty parts of a text between the occurrences of a separator. -/
def nonEmptyParts (text : String) (separator : Char) : List String :=
  (splitParts text separator).filter (· ≠ "")

/-- The texts before and after the first occurrence of a separator. -/
def cutAt? (text : String) (separator : Char) : Option (String × String) :=
  (cut? separator text.toList).map fun pair => (String.ofList pair.1, String.ofList pair.2)

/-- What follows a leading piece. -/
def textAfter? (start text : String) : Option String :=
  (after? start.toList text.toList).map String.ofList

/-- What precedes a closing piece. -/
def textBefore? (ending text : String) : Option String :=
  (before? ending.toList text.toList).map String.ofList

/-- Whether a piece stands somewhere in the text. -/
def holds (piece text : String) : Bool :=
  contains piece.toList text.toList

/-- The text with each occurrence of a non-empty piece replaced. -/
def replacePiece (text piece other : String) : String :=
  String.ofList (replaceFrom piece.toList other.toList 0 text.toList)

end ResourceModel
