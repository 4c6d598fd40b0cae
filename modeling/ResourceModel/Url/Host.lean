import ResourceModel.Text.Split
import ResourceModel.Url.Name
import ResourceModel.Url.Percent

set_option autoImplicit false

/-! # Hosts

Which texts are hosts of an address: names, four-part addresses and bracketed eight-part
addresses. Only whether a host is well-formed matters here, not what it denotes. -/

namespace ResourceModel.Url

/-! ## Four-part addresses -/

/-- Whether every character is a digit of a base. -/
def digitsOfBase (base : Nat) (text : List Char) : Bool :=
  text.all fun c => match Text.hexDigit? c with
    | some value => value < base
    | none => false

/-- The number that digits stand for. -/
def numberOfBase (base : Nat) (text : List Char) : Nat :=
  text.foldl (fun n c => n * base + (Text.hexDigit? c).getD 0) 0

/-- A part of a four-part address: decimal, octal after `0`, or hexadecimal after `0x`. -/
def addressPart? (text : List Char) : Option Nat :=
  let read (base : Nat) (digits : List Char) : Option Nat :=
    if digitsOfBase base digits then some (numberOfBase base digits) else none
  match text with
  | [] => none
  | '0' :: 'x' :: digits => read 16 digits
  | '0' :: 'X' :: digits => read 16 digits
  | '0' :: d :: digits => read 8 (d :: digits)
  | digits => read 10 digits

/-- The parts of a name between dots, without an empty last one. -/
def labels (host : List Char) : List (List Char) :=
  let parts := Text.parts '.' host
  if parts.length > 1 ∧ parts.getLast? = some [] then parts.dropLast else parts

/-- Whether a name ends in a number and so has to be a four-part address. -/
def endsInNumber (host : List Char) : Bool :=
  match (labels host).getLast? with
  | some label => (!label.isEmpty && label.all Char.isDigit) || (addressPart? label).isSome
  | none => false

/-- Whether a name is a four-part address: the parts but the last fit into a byte, the last one
    into the bytes that are left. -/
def isAddress (host : List Char) : Bool :=
  let parts := labels host
  let numbers := parts.filterMap addressPart?
  parts.length ≤ 4 && numbers.length == parts.length &&
    numbers.dropLast.all (· ≤ 255) &&
    match numbers.getLast? with
    | some last => last < Nat.pow 256 (5 - parts.length)
    | none => false

/-! ## Eight-part addresses -/

/-- Whether a text is a group of an eight-part address. -/
def isGroup (text : List Char) : Bool :=
  1 ≤ text.length && text.length ≤ 4 && digitsOfBase 16 text

/-- Whether a text is a decimal byte without a needless zero. -/
def isDecimalByte (text : List Char) : Bool :=
  !text.isEmpty && text.length ≤ 3 && text.all Char.isDigit && numberOfBase 10 text ≤ 255 &&
    (text.length == 1 || text.head? != some '0')

/-- Whether a text is four decimal bytes, which stand for two groups. -/
def isDottedBytes (text : List Char) : Bool :=
  let parts := Text.parts '.' text
  parts.length == 4 && parts.all isDecimalByte

/-- The number of groups that a run of groups between colons has; four decimal bytes may stand at
    its end if `last`. -/
def groupCount? (last : Bool) (text : List Char) : Option Nat :=
  if text.isEmpty then some 0
  else
    let groups := Text.parts ':' text
    let final := groups.getLastD []
    if groups.dropLast.all isGroup then
      if isGroup final then some groups.length
      else if last && isDottedBytes final then some (groups.length + 1)
      else none
    else none

/-- The texts before and after the first `::`. -/
def splitGap? : List Char → Option (List Char × List Char)
  | ':' :: ':' :: rest => some ([], rest)
  | c :: rest => (splitGap? rest).map fun pair => (c :: pair.1, pair.2)
  | [] => none

/-- Whether a text is an eight-part address: eight groups, or fewer around one `::`. -/
def isGroupAddress (text : List Char) : Bool :=
  match splitGap? text with
  | some (before, after) =>
    match groupCount? false before, groupCount? true after with
    | some a, some b => a + b ≤ 7
    | _, _ => false
  | none => groupCount? true text == some 8

/-! ## Hosts -/

/-- The bracketed text, if the host is one. -/
def bracketed? (host : List Char) : Option (Option (List Char)) :=
  match host with
  | '[' :: rest => some (if rest.getLast? = some ']' then some rest.dropLast else none)
  | _ => none

/-- The form of the name that a host is, with its percent-escapes decoded. -/
def hostName? (host : List Char) : Option (List Char) :=
  (String.fromUTF8? ⟨(decodeBytes host).toArray⟩).bind fun text => name? text.toList

/-- Whether a text is a host of a web address. -/
def isHost (host : List Char) : Bool :=
  match bracketed? host with
  | some inner => inner.any isGroupAddress
  | none =>
    match hostName? host with
    | some name => !name.isEmpty && (!endsInNumber name || isAddress name)
    | none => false

/-- The characters that an unread host may not hold. -/
def opaqueBarred : List Char :=
  [Char.ofNat 0, '\t', '\n', '\r', ' ', '#', '/', ':', '<', '>', '?', '@', '[', '\\', ']', '^', '|']

/-- Whether a text is a host of an address with an unknown scheme. -/
def isOpaqueHost (host : List Char) : Bool :=
  match bracketed? host with
  | some inner => inner.any isGroupAddress
  | none => host.all fun c => !opaqueBarred.contains c

end ResourceModel.Url
