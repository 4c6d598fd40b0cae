import ResourceModel.Standard
import ResourceModel.Version

set_option autoImplicit false

/-! # Mentions

A reference in a document mentions a schema: the file name in front of its last `.json` gives the
schema id and maybe a tag. A reference without a file name, or with one that starts with `odata`,
mentions none. -/

namespace ResourceModel

/-- A schema that a reference mentions. -/
structure Mention where
  standard : Standard
  id : String
  tag : Option String
  deriving DecidableEq, Repr

namespace Mention

/-- The text before the last occurrence of a piece in a text, if there is one. -/
def beforeLast? (piece text : List Char) : Option (List Char) :=
  (Text.suffixAfter? piece.reverse text.reverse).map List.reverse

/-- The text behind the last occurrence of a character, or all of it if there is none. -/
def behindLast (c : Char) (text : List Char) : List Char :=
  (text.reverse.takeWhile (· ≠ c)).reverse

/-- The file name in a reference, without `.json` and without leading `#`. -/
def fileStem? (uri : String) : Option String :=
  (beforeLast? ".json".toList uri.toList).map fun start =>
    String.ofList ((behindLast '/' start).dropWhile (· = '#'))

/-- The schema that a reference mentions. -/
def ofUri? (uri : String) : Option Mention :=
  match fileStem? uri with
  | none => none
  | some stem =>
    if stem = "" ∨ (textAfter? "odata" stem).isSome then none
    else some ⟨Standard.ofUri uri, (splitStem stem).1, (splitStem stem).2⟩

end Mention

end ResourceModel
