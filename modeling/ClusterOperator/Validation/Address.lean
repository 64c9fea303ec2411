import ClusterOperator.Text.Basic
import ClusterOperator.Validation.Name

namespace ClusterOperator

/-- The families of IP addresses. -/
inductive AddressFamily where
  | v4
  | v6
deriving DecidableEq, Repr

def AddressFamily.bits : AddressFamily → Nat
  | v4 => 32
  | v6 => 128

namespace Address

def isOctet (digits : List Char) : Bool :=
  digits.length ≤ 3 && !digits.isEmpty && digits.all Char.isDigit &&
    (digits.length = 1 || digits.head? != some '0') && Digits.value digits ≤ 255

def isQuad (text : List Char) : Bool :=
  let octets := Text.cutAt (· = '.') text
  octets.length = 4 && octets.all isOctet

def isHexDigit (c : Char) : Bool :=
  c.isDigit || ('a' ≤ c && c ≤ 'f') || ('A' ≤ c && c ≤ 'F')

def isGroup (digits : List Char) : Bool :=
  1 ≤ digits.length && digits.length ≤ 4 && digits.all isHexDigit

/-- The pieces of a text between colons; an empty text has none. -/
def groups (text : List Char) : List (List Char) :=
  if text.isEmpty then [] else Text.cutAt (· = ':') text

/-- How many groups the pieces stand for, if they are groups, the last perhaps four bytes that stand
for two. -/
def countGroups? : List (List Char) → Option Nat
  | [] => some 0
  | [last] => if isGroup last then some 1 else if isQuad last then some 2 else none
  | piece :: rest => if isGroup piece then (countGroups? rest).map (· + 1) else none

def splitGap : List Char → Option (List Char × List Char)
  | ':' :: ':' :: rest => some ([], rest)
  | c :: rest => (splitGap rest).map fun (before, after) => (c :: before, after)
  | [] => none

/-- Eight groups, or fewer with one double colon that stands for the missing ones. -/
def isV6 (text : List Char) : Bool :=
  match splitGap text with
  | none => countGroups? (groups text) = some 8
  | some (before, after) =>
      (groups before).all isGroup &&
        match countGroups? (groups after) with
        | some n => (groups before).length + n ≤ 7
        | none => false

def family? (text : List Char) : Option AddressFamily :=
  if isQuad text then some .v4 else if isV6 text then some .v6 else none

/-- The length of a block's common part: digits only, and at most a byte. -/
def blockLength? (digits : List Char) : Option Nat :=
  if !digits.isEmpty ∧ digits.all Char.isDigit ∧ Digits.value digits ≤ 255 then
    some (Digits.value digits)
  else none

/-- An address, a slash and the length of the common part. -/
def isBlock (text : List Char) : Bool :=
  match Text.splitFirst '/' text with
  | none => false
  | some (address, length) =>
      match family? address, blockLength? length with
      | some family, some n => n ≤ family.bits
      | _, _ => false

end Address

namespace Limit

def checkOptionalAddress (limit : Limit) (value : String) : Verdict :=
  if value = "" ∨ (Address.family? value.toList).isSome then .ok ()
  else .error (limit.malformed value)

def checkBlock (limit : Limit) (value : String) : Verdict :=
  if Address.isBlock value.toList then .ok () else .error (limit.malformed value)

/-- No port, or one within the bounds; a missing bound is that of all ports. -/
def checkOptionalPort (limit : Limit) : Option Int → Verdict
  | none => .ok ()
  | some port =>
      let minimum := limit.minimum.getD 1
      let maximum := limit.maximum.getD 65535
      if port < minimum ∨ maximum < port then
        .error (.outOfRange limit.field port minimum maximum)
      else .ok ()

end Limit

end ClusterOperator
