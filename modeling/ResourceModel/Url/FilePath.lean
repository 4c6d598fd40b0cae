import ResourceModel.Url.Percent
import ResourceModel.Text.Split

set_option autoImplicit false

/-! # Paths of files

The path of a file address grows segment by segment. Its first segment may be a drive letter, which
is written with a colon and is not left by going up. A tab or line end is not part of a path, but
what stands before it is settled by it. -/

namespace ResourceModel.Url

/-- Whether a text is a drive letter. -/
def isDrive : List Char → Bool
  | [letter, mark] => letter.isAlpha && (mark = ':' || mark = '|')
  | _ => false

/-- Whether a text is a drive letter with a colon. -/
def isSettledDrive (text : List Char) : Bool :=
  isDrive text && text.getLast? == some ':'

/-- The spellings of the dot segments that stand for the directory itself. -/
def hereSegments : List (List Char) :=
  [".", "%2e"].map String.toList

/-- The spellings of the dot segments that stand for the directory above. -/
def upSegments : List (List Char) :=
  ["..", ".%2e", "%2e.", "%2e%2e"].map String.toList

/-- Whether a segment is one of several spellings, in letters of either case. -/
def isSpelling (spellings : List (List Char)) (segment : List Char) : Bool :=
  spellings.contains (segment.map Char.toLower)

/-- The text behind the last slash. -/
def afterLastSlash (text : List Char) : List Char :=
  (text.reverse.takeWhile (· ≠ '/')).reverse

/-- Whether a text ends in a slash. -/
def endsInSlash (text : List Char) : Bool :=
  text.getLast? == some '/'

/-- Whether a character is not part of an address wherever it stands. -/
def isIgnored (c : Char) : Bool :=
  c = '\t' || c = '\n' || c = '\r'

/-- The path of a file while it is read: what is settled, where the current segment starts, and the
    characters that are read but not settled, the last one first. -/
structure FilePath where
  settled : List Char
  start : Nat
  pending : List Char

namespace FilePath

/-- A path of which a text is settled. -/
def ofSettled (text : List Char) : FilePath :=
  ⟨text, text.length, []⟩

/-- The path with everything that is read settled. -/
def settle (path : FilePath) : FilePath :=
  { path with settled := path.settled ++ encode isPathPlain path.pending.reverse, pending := [] }

/-- The text that is left when the last segment of a text is left for the directory above. A drive
    letter stays. -/
def above (text : List Char) : List Char :=
  let last := afterLastSlash text
  if isSettledDrive last then text else text.take (text.length - last.length)

/-- The text without the slash at its end, if a segment stands before it that is no drive letter and
    has a slash before it. -/
def withoutSlash (text : List Char) : List Char :=
  let before := text.dropLast
  if endsInSlash text && before.contains '/' && !isDrive (afterLastSlash before) then before
  else text

/-- Ends the current segment, behind which a slash stands or none. -/
def endSegment (path : FilePath) (slash : Bool) : FilePath :=
  let head := path.settled.take path.start
  let segment := path.settled.drop path.start
  let close : List Char := if slash then ['/'] else []
  let text :=
    if isSpelling upSegments segment then
      let text := above (withoutSlash head)
      if slash && !endsInSlash text then text ++ close else text
    else if isSpelling hereSegments segment then
      if endsInSlash head then head else head ++ ['/']
    else if path.start = 1 ∧ isDrive segment then head ++ segment.take 1 ++ ':' :: close
    else path.settled ++ close
  ofSettled text

/-- The path with a character behind it that is part of a segment. A slash goes in front of it where
    the path that is settled is nothing but a drive letter. -/
def push (path : FilePath) (c : Char) : FilePath :=
  if isSettledDrive (path.settled.drop 1) then
    ⟨path.settled ++ ['/'], path.start + 1, c :: path.pending⟩
  else { path with pending := c :: path.pending }

/-- The text of the path with that of an address behind it. -/
def read (path : FilePath) : List Char → List Char
  | [] => (path.settle.endSegment false).settled
  | c :: rest =>
    if isIgnored c then read path.settle rest
    else if c = '/' ∨ c = '\\' then read (path.settle.endSegment true) rest
    else if c = '?' ∨ c = '#' then (path.settle.endSegment false).settled
    else read (path.push c) rest

end FilePath

/-- The encoded last segment of the path of a file, of which a text is settled. -/
def lastFileSegment (settled text : List Char) : List Char :=
  afterLastSlash ((FilePath.ofSettled settled).read text)

end ResourceModel.Url
