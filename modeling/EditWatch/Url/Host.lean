import EditWatch.Url.Basic
import EditWatch.Url.Domain

/-!
# EditWatch.Url.Host -- hosts

The host of a web or file address is a domain name, a number form of four bytes, or a number form
of sixteen bytes in brackets; a name whose last label is a number has to be of the second kind.
The host of any other address is either in brackets or free of the characters that have a meaning
elsewhere.
-/

namespace EditWatch.Url.Host

open EditWatch.Text

/-! ## Four bytes -/

/-- The number that digits of a base spell. -/
def readBase? (base : Nat) (cs : List Char) : Option Nat :=
  cs.foldl (fun acc c => match acc, hexValue? c with
    | some n, some d => if d < base then some (base * n + d) else none
    | _, _ => none) (some 0)

/-- The number that a part spells: hexadecimal behind `0x`, octal behind `0`, else decimal. -/
def readPart? (cs : List Char) : Option Nat :=
  match cs with
  | [] => none
  | '0' :: 'x' :: rest => readBase? 16 rest
  | '0' :: 'X' :: rest => readBase? 16 rest
  | ['0'] => some 0
  | '0' :: rest => readBase? 8 rest
  | _ => readBase? 10 cs

/-- The parts without an empty one at the end. -/
def dropEmptyLast (parts : List (List Char)) : List (List Char) :=
  if parts.getLast? = some [] then parts.dropLast else parts

/-- Whether the last part that is not empty is meant as a number. -/
def endsInNumber (parts : List (List Char)) : Bool :=
  match (dropEmptyLast parts).getLast? with
  | none => false
  | some last => (!last.isEmpty && last.all Char.isDigit) || (readPart? last).isSome

/-- Whether numbers fit into four bytes: one each, and what is left for the last. -/
def fitFourBytes (numbers : List Nat) : Bool :=
  match numbers.reverse with
  | [] => false
  | last :: others =>
    others.length ≤ 3 && others.all (· ≤ 255) && last < Nat.pow 256 (4 - others.length)

/-- Whether the parts are the number form of four bytes. -/
def isIpv4 (parts : List (List Char)) : Bool :=
  match (dropEmptyLast parts).mapM readPart? with
  | some numbers => fitFourBytes numbers
  | none => false

/-! ## Sixteen bytes -/

/-- A decimal number of one byte without leading zeros. -/
def isByte (cs : List Char) : Bool :=
  match readDecimal? cs with
  | some n => n ≤ 255 && (cs.length == 1 || cs.head? != some '0')
  | none => false

/-- Four bytes in decimal between dots. -/
def isDottedBytes (cs : List Char) : Bool :=
  let parts := pieces (· == '.') cs
  parts.length == 4 && parts.all isByte

/-- One to four hexadecimal digits. -/
def isGroup (cs : List Char) : Bool :=
  !cs.isEmpty && cs.length ≤ 4 && cs.all fun c => (hexValue? c).isSome

/-- How many groups the parts between colons amount to: the last may be four bytes in decimal,
which count for two. -/
def groupCount? (parts : List (List Char)) (lastMayBeDotted : Bool) : Option Nat :=
  match parts.reverse with
  | [] => some 0
  | last :: others =>
    if !others.all isGroup then none
    else if isGroup last then some (others.length + 1)
    else if lastMayBeDotted && isDottedBytes last then some (others.length + 2)
    else none

/-- The text before the first double colon and behind it, if there is one. -/
def splitAtGap (seen : List Char) : List Char → Option (List Char × List Char)
  | ':' :: ':' :: rest => some (seen.reverse, rest)
  | c :: rest => splitAtGap (c :: seen) rest
  | [] => none

/-- The parts of one side of a gap; no part at all if the side is empty. -/
def side (cs : List Char) : List (List Char) := if cs.isEmpty then [] else pieces (· == ':') cs

/-- Eight groups, or fewer around a gap. -/
def isIpv6 (cs : List Char) : Bool :=
  match splitAtGap [] cs with
  | none => groupCount? (pieces (· == ':') cs) true == some 8
  | some (before, behind) =>
    match groupCount? (side before) false, groupCount? (side behind) true with
    | some n, some m => n + m ≤ 7
    | _, _ => false

/-! ## Hosts -/

/-- What is wrong with a host in brackets. -/
def bracketFault? (cs : List Char) : Option Fault :=
  if cs.getLast? = some ']' ∧ isIpv6 cs.tail.dropLast then none else some .invalidIpv6

/-- What is wrong with the host of a web or file address. -/
def nameFault? (cs : List Char) : Option Fault :=
  if cs.head? = some '[' then bracketFault? cs
  else match Domain.labels? cs with
    | none => some .invalidDomain
    | some labels =>
      if labels.all List.isEmpty && labels.length == 1 then some .emptyHost
      else if endsInNumber labels && !isIpv4 labels then some .invalidIpv4
      else none

/-- The characters that the host of another address does not hold. -/
def isReserved (c : Char) : Bool :=
  ['\x00', '\t', '\n', '\r', ' ', '#', '/', ':', '<', '>', '?', '@', '[', '\\', ']', '^',
    '|'].contains c

/-- What is wrong with the host of an address that is neither a web nor a file address. -/
def plainFault? (cs : List Char) : Option Fault :=
  if cs.head? = some '[' then bracketFault? cs
  else if cs.any isReserved then some .invalidHostCharacter
  else none

end EditWatch.Url.Host
