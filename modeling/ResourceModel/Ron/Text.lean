import ResourceModel.Decimal.Reading
import ResourceModel.Text.Code
import ResourceModel.Text.Split

set_option autoImplicit false

/-! # Texts of RON

The gaps between tokens, with comments that may lie in each other, and the names, characters and
strings that values are made of. -/

namespace ResourceModel.Ron

/-! ## Gaps -/

/-- Whether a character may stand between tokens. -/
def isGap (c : Char) : Bool :=
  c = ' ' || c = '\t' || c = '\n' || c = '\r'

/-- Where a gap is: between comments, in a comment up to the end of the line, or in one that lies
    inside so many others and has to be closed. -/
inductive GapPart where
  | plain
  | line
  | block (outer : Nat)
  deriving DecidableEq, Repr

/-- What follows the rest of a gap; none if a comment is not closed or a slash begins none. -/
def gapEnd? : GapPart → List Char → Option (List Char)
  | .plain, '/' :: '/' :: rest => gapEnd? .line rest
  | .plain, '/' :: '*' :: rest => gapEnd? (.block 0) rest
  | .plain, '/' :: _ => none
  | .plain, c :: rest => if isGap c then gapEnd? .plain rest else some (c :: rest)
  | .line, c :: rest => gapEnd? (if c = '\n' then .plain else .line) rest
  | .block outer, '/' :: '*' :: rest => gapEnd? (.block (outer + 1)) rest
  | .block 0, '*' :: '/' :: rest => gapEnd? .plain rest
  | .block (outer + 1), '*' :: '/' :: rest => gapEnd? (.block outer) rest
  | .block outer, _ :: rest => gapEnd? (.block outer) rest
  | .block _, [] => none
  | .plain, [] => some []
  | .line, [] => some []

/-- What follows a gap. -/
def skipGap? (text : List Char) : Option (List Char) :=
  gapEnd? .plain text

/-- Whether a comma stands behind a gap, and what follows both and another gap. -/
def comma? (text : List Char) : Option (Bool × List Char) :=
  match skipGap? text with
  | some (',' :: rest) => (skipGap? rest).map fun rest => (true, rest)
  | some rest => some (false, rest)
  | none => none

/-! ## Names -/

/-- Whether a character may begin a name. -/
def beginsName (c : Char) : Bool :=
  c.isAlpha || c = '_'

/-- Whether a character may follow others in a name. -/
def isNameChar (c : Char) : Bool :=
  c.isAlphanum || c = '_'

/-- Whether a character may stand in a marked name. -/
def isMarkedChar (c : Char) : Bool :=
  isNameChar c || c = '.' || c = '+' || c = '-'

/-- The run of characters of a class that a text begins with, and what follows it. -/
def runOf (isMember : Char → Bool) (text : List Char) : String × List Char :=
  let run := text.takeWhile isMember
  (String.ofList run, text.drop run.length)

/-- Reads a name. A plain one may not run into characters that only a marked one may have. -/
def name? (text : List Char) : Option (String × List Char) :=
  match text with
  | ['r'] => none
  | 'r' :: '"' :: _ => none
  | 'r' :: '#' :: rest =>
    if rest.head?.any isMarkedChar then some (runOf isMarkedChar rest) else none
  | c :: _ =>
    let (name, rest) := runOf isNameChar text
    if beginsName c && !rest.head?.any isMarkedChar then some (name, rest) else none
  | [] => none

/-- What follows a word, if a text begins with it and no name goes on there. -/
def wordEnd? (word : String) (text : List Char) : Option (List Char) :=
  (Text.after? word.toList text).filter fun rest => !rest.head?.any isNameChar

/-! ## Characters -/

/-- Reads a code point of at most six hexadecimal digits up to the closing brace. -/
def bracedCode? (text : List Char) : Option (Char × List Char) :=
  let digits := text.takeWhile fun c => (Text.hexDigit? c).isSome
  match text.drop digits.length with
  | '\x7d' :: rest =>
    if digits.length ≤ 6 then
      ((Decimal.natural? 16 digits).bind Text.ofCode?).map fun c => (c, rest)
    else none
  | _ => none

/-- Reads what follows a backslash. -/
def escape? : List Char → Option (Char × List Char)
  | '\'' :: rest => some ('\'', rest)
  | '"' :: rest => some ('"', rest)
  | '\\' :: rest => some ('\\', rest)
  | 'n' :: rest => some ('\n', rest)
  | 'r' :: rest => some ('\r', rest)
  | 't' :: rest => some ('\t', rest)
  | '0' :: rest => some (Char.ofNat 0, rest)
  | 'x' :: a :: b :: rest => (Decimal.natural? 16 [a, b]).map fun code => (Char.ofNat code, rest)
  | 'u' :: '\x7b' :: rest => bracedCode? rest
  | _ => none

/-- Reads a character between single quotes. -/
def character? : List Char → Option (String × List Char)
  | '\'' :: '\\' :: rest =>
    match escape? rest with
    | some (c, '\'' :: rest) => some (c.toString, rest)
    | _ => none
  | '\'' :: c :: '\'' :: rest => if c = '\'' then none else some (c.toString, rest)
  | _ => none

/-! ## Strings -/

/-- Reads a string up to its closing quote. The fuel is more than the length of the text. -/
def escapedRest : Nat → List Char → Option (List Char × List Char)
  | 0, _ => none
  | _, [] => none
  | _, '"' :: rest => some ([], rest)
  | fuel + 1, c :: rest =>
    match if c = '\\' then escape? rest else some (c, rest) with
    | some (c, rest) => (escapedRest fuel rest).map fun (read, left) => (c :: read, left)
    | none => none

/-- Reads up to the first occurrence of a closing mark. -/
def rawRest (closing : List Char) : List Char → Option (List Char × List Char)
  | [] => none
  | c :: rest =>
    match Text.after? closing (c :: rest) with
    | some left => some ([], left)
    | none => (rawRest closing rest).map fun (read, left) => (c :: read, left)

/-- Reads a string: with escapes, or as it stands between quotes with as many hashes on each side.
    -/
def string? (text : List Char) : Option (String × List Char) :=
  match text with
  | '"' :: rest =>
    (escapedRest (rest.length + 1) rest).map fun (read, left) => (String.ofList read, left)
  | 'r' :: rest =>
    let hashes := rest.takeWhile (· = '#')
    match rest.drop hashes.length with
    | '"' :: rest =>
      (rawRest ('"' :: hashes) rest).map fun (read, left) => (String.ofList read, left)
    | _ => none
  | _ => none

end ResourceModel.Ron
