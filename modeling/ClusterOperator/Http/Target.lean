import ClusterOperator.Text.Utf8

namespace ClusterOperator.Http

/-- Bytes that may stand in a path. Those that ought to be escaped but are sent as they are by some
clients are among them. -/
def isPathByte (b : UInt8) : Bool :=
  let n := b.toNat
  n = 0x21 || n = 0x22 || (0x24 ≤ n && n ≤ 0x3B) || n = 0x3D || (0x40 ≤ n && n ≤ 0x5F) ||
    (0x61 ≤ n && n ≤ 0x7E) || 0x80 ≤ n

def isQueryByte (b : UInt8) : Bool :=
  let n := b.toNat
  n = 0x21 || (0x24 ≤ n && n ≤ 0x3B) || n = 0x3D || (0x3F ≤ n && n ≤ 0x7E) || 0x80 ≤ n

def isHostByte (b : UInt8) : Bool :=
  let n := b.toNat
  n = 0x21 || n = 0x24 || (0x26 ≤ n && n ≤ 0x2E) || (0x30 ≤ n && n ≤ 0x3B) || n = 0x3D ||
    (0x40 ≤ n && n ≤ 0x5B) || n = 0x5D || n = 0x5F || (0x61 ≤ n && n ≤ 0x7A) || n = 0x7E

def isSchemeByte (b : UInt8) : Bool :=
  let n := b.toNat
  n = 0x2B || n = 0x2D || n = 0x2E || (0x30 ≤ n && n ≤ 0x39) || (0x41 ≤ n && n ≤ 0x5A) ||
    (0x61 ≤ n && n ≤ 0x7A) || n = 0x7E

def slash : UInt8 := 0x2F
def questionMark : UInt8 := 0x3F
def hash : UInt8 := 0x23
def percent : UInt8 := 0x25
def colon : UInt8 := 0x3A
def atSign : UInt8 := 0x40
def openingBracket : UInt8 := 0x5B
def closingBracket : UInt8 := 0x5D

def endsPath (b : UInt8) : Bool :=
  b = questionMark || b = hash

def endsHost (b : UInt8) : Bool :=
  b = slash || endsPath b

def longestTarget : Nat := Nat.pow 2 16 - 2

def longestScheme : Nat := 64

/-- Why a text is no target. -/
inductive Malformed where
  | empty
  | tooLong
  | schemeTooLong
  | badByte
  | badHost
  /-- The parts are no target together. -/
  | badForm
deriving DecidableEq, Repr

def Malformed.message : Malformed → String
  | empty => "empty string"
  | tooLong => "uri too long"
  | schemeTooLong => "scheme too long"
  | badByte => "invalid uri character"
  | badHost => "invalid authority"
  | badForm => "invalid format"

/-- What is known of a host after some of its bytes. What comes before a bracket or an at sign is no
port, and may hold escapes. -/
structure HostScan where
  /-- Colons since the last such byte. -/
  colons : Nat
  opened : Bool
  closed : Bool
  /-- Whether there is an escape since the last such byte. -/
  escaped : Bool
  last : Option UInt8
deriving DecidableEq, Repr

namespace HostScan

def start : HostScan :=
  ⟨0, false, false, false, none⟩

/-- The greatest number of colons in an address between brackets, and the one before a port. -/
def mostColons : Nat := 8

def next (s : HostScan) (b : UInt8) : Except Malformed HostScan :=
  let s := { s with last := some b }
  if b = colon then
    if mostColons ≤ s.colons then .error .badHost else .ok { s with colons := s.colons + 1 }
  else if b = openingBracket then
    if s.escaped || s.opened then .error .badHost else .ok { s with opened := true }
  else if b = closingBracket then
    if !s.opened || s.closed then .error .badHost
    else .ok { s with closed := true, colons := 0, escaped := false }
  else if b = atSign then .ok { s with colons := 0, escaped := false }
  else if b = percent then .ok { s with escaped := true }
  else if isHostByte b then .ok s
  else .error .badByte

def mayEnd (s : HostScan) : Bool :=
  s.opened = s.closed && s.colons ≤ 1 && s.last ≠ some atSign && !s.escaped

end HostScan

/-- Whether bytes are a host: the user in front of an at sign, the name or the address, the port. -/
def checkHost (host : List UInt8) : Except Malformed Unit := do
  let s ← host.foldlM HostScan.next .start
  if s.mayEnd then .ok () else .error .badHost

/-- A path and the query behind it. -/
structure Target where
  path : List UInt8
  /-- Empty if there is none. -/
  query : List UInt8
deriving DecidableEq, Repr, Inhabited

namespace Target

def ofPath (bytes : List UInt8) : Except Malformed Target :=
  let path := bytes.takeWhile (!endsPath ·)
  let query := match bytes.dropWhile (!endsPath ·) with
    | b :: rest => if b = questionMark then rest.takeWhile (· ≠ hash) else []
    | [] => []
  if path.all isPathByte && query.all isQueryByte then .ok ⟨path, query⟩ else .error .badByte

def afterScheme? (bytes : List UInt8) : Option (List UInt8) :=
  match bytes.dropWhile isSchemeByte with
  | 0x3A :: 0x2F :: 0x2F :: rest => some rest
  | _ => none

/-- Reads what follows a scheme. An empty path is that of the root. -/
def ofHost (bytes : List UInt8) : Except Malformed Target := do
  let host := bytes.takeWhile (!endsHost ·)
  checkHost host
  if host.isEmpty then throw .badForm
  let target ← ofPath (bytes.dropWhile (!endsHost ·))
  return if target.path.isEmpty then { target with path := [slash] } else target

/-- Reads a target that does not begin with a slash. A host alone has no path. -/
def ofAddress (bytes : List UInt8) : Except Malformed Target :=
  match afterScheme? bytes with
  | some rest =>
      if longestScheme < (bytes.takeWhile isSchemeByte).length then .error .schemeTooLong
      else ofHost rest
  | none => do
      checkHost (bytes.takeWhile (!endsHost ·))
      if bytes.any endsHost then .error .badForm else .ok ⟨[], []⟩

def parse (text : String) : Except Malformed Target :=
  let bytes := Text.Utf8.encode text
  if longestTarget < bytes.length then .error .tooLong
  else
    match bytes with
    | [] => .error .empty
    | [0x2A] => .ok ⟨[0x2A], []⟩
    | 0x2F :: _ => ofPath bytes
    | _ => ofAddress bytes

end Target

def hexByte? (b : UInt8) : Option Nat :=
  let n := b.toNat
  if 0x30 ≤ n ∧ n ≤ 0x39 then some (n - 0x30)
  else if 0x41 ≤ n ∧ n ≤ 0x46 then some (n - 0x37)
  else if 0x61 ≤ n ∧ n ≤ 0x66 then some (n - 0x57)
  else none

/-- Replaces every percent sign with two hexadecimal digits by the byte that they denote. -/
def percentDecode : List UInt8 → List UInt8
  | [] => []
  | b :: rest =>
      if b = percent then
        match rest with
        | h :: l :: more =>
            match hexByte? h, hexByte? l with
            | some high, some low => UInt8.ofNat (high * 16 + low) :: percentDecode more
            | _, _ => b :: percentDecode (h :: l :: more)
        | other => b :: percentDecode other
      else b :: percentDecode rest

def segmentText? (segment : List UInt8) : Option String :=
  (Text.Utf8.decode? (percentDecode segment)).map String.ofList

end ClusterOperator.Http
