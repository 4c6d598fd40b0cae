import ResourceModel.Json.Basic
import ResourceModel.Text.Blank
import ResourceModel.Text.Split

set_option autoImplicit false

/-! # Schema versions

A version has a tag such as `v1_7_6` and up to three numbers. Versions are compared by their
numbers, the first one first and a missing one as zero; the spelling of the tag does not count. -/

namespace ResourceModel

/-- A version of a schema. -/
structure Version where
  tag : String
  major : Nat
  minor : Nat
  patch : Nat
  deriving DecidableEq, Repr

namespace Version

/-! ## Tags -/

/-- The text without blanks around it and without one leading `v`, with underscores for dots. -/
def tagBody (raw : List Char) : List Char :=
  let trimmed := Text.trim raw
  let body := match trimmed with
    | 'v' :: rest => rest
    | text => text
  body.map fun c => if c = '.' then '_' else c

/-- The tag that a declared version is written with: `1.7.6` becomes `v1_7_6`. -/
def normalizeTag (raw : String) : String :=
  String.ofList ('v' :: tagBody raw.toList)

/-- The value of a decimal digit. -/
def digitValue (c : Char) : Nat :=
  c.toNat - '0'.toNat

/-- The number that decimal digits stand for. -/
def number (digits : List Char) : Nat :=
  digits.foldl (fun n c => n * 10 + digitValue c) 0

/-- The number of a part of a tag: at least one digit, after a plus sign if there is one, with a
    value below `2 ^ 64`. -/
def part? (text : List Char) : Option Nat :=
  let digits := match text with
    | '+' :: rest => rest
    | text => text
  if digits.isEmpty || !digits.all Char.isDigit then none
  else if number digits < Nat.pow 2 64 then some (number digits)
  else none

/-- The version with the given tag body: one to three numbers between underscores. -/
def ofBody? (body : List Char) : Option Version :=
  let tag := String.ofList ('v' :: body)
  match (Text.parts '_' body).map part? with
  | [some major] => some ⟨tag, major, 0, 0⟩
  | [some major, some minor] => some ⟨tag, major, minor, 0⟩
  | [some major, some minor, some patch] => some ⟨tag, major, minor, patch⟩
  | _ => none

/-- The version that a text spells, such as `v1_7_6`, `1.7.6` or `v1.7`. -/
def parse? (raw : String) : Option Version :=
  ofBody? (tagBody raw.toList)

/-! ## Order -/

/-- The order of two versions by their numbers. -/
def order (a b : Version) : Ordering :=
  (compare a.major b.major).then ((compare a.minor b.minor).then (compare a.patch b.patch))

/-- Whether two versions have the same numbers. -/
def same (a b : Version) : Bool :=
  a.major == b.major && a.minor == b.minor && a.patch == b.patch

end Version

/-! ## File stems -/

/-- The schema id of a file stem and what follows its first dot. -/
def splitStem (stem : String) : String × Option String :=
  match cutAt? stem '.' with
  | some (id, tag) => (id, some tag)
  | none => (stem, none)

/-- The schema id of a file stem. -/
def stemId (stem : String) : String :=
  (splitStem stem).1

/-- The version in a file stem. -/
def Version.ofStem? (stem : String) : Option Version :=
  (splitStem stem).2.bind Version.parse?

/-- The file stem of a schema id, with the tag of a version if there is one. -/
def stemOf (id : String) : Option Version → String
  | some version => id ++ "." ++ version.tag
  | none => id

end ResourceModel
