namespace ClusterOperator.Text.Utf8

/-- One symbol of decoded input: a character, or `none` for a byte that is not part of any. -/
abbrev Symbol := Option Char

def width : Symbol → Nat
  | some c => c.utf8Size
  | none => 1

/-- The six bits that a continuation byte carries. -/
def continuation? (b : UInt8) : Option Nat :=
  if 0x80 ≤ b.toNat ∧ b.toNat < 0xC0 then some (b.toNat - 0x80) else none

/-- Two bytes encode the characters from U+0080 to U+07FF. -/
def pair? (a b : UInt8) : Option Char :=
  match continuation? b with
  | some y =>
      if 0xC2 ≤ a.toNat ∧ a.toNat < 0xE0 then
        some (Char.ofNat ((a.toNat - 0xC0) * 64 + y))
      else none
  | none => none

/-- Three bytes encode the characters from U+0800 to U+FFFF, the surrogates left out. -/
def triple? (a b c : UInt8) : Option Char :=
  match continuation? b, continuation? c with
  | some y, some z =>
      let n := (a.toNat - 0xE0) * 4096 + y * 64 + z
      if 0xE0 ≤ a.toNat ∧ a.toNat < 0xF0 ∧ 0x800 ≤ n ∧ (n < 0xD800 ∨ 0xDFFF < n) then
        some (Char.ofNat n)
      else none
  | _, _ => none

/-- Four bytes encode the characters from U+10000 to U+10FFFF. -/
def quadruple? (a b c d : UInt8) : Option Char :=
  match continuation? b, continuation? c, continuation? d with
  | some x, some y, some z =>
      let n := (a.toNat - 0xF0) * 262144 + x * 4096 + y * 64 + z
      if 0xF0 ≤ a.toNat ∧ a.toNat < 0xF5 ∧ 0x10000 ≤ n ∧ n ≤ 0x10FFFF then
        some (Char.ofNat n)
      else none
  | _, _, _ => none

/-- The character that the bytes begin with, and how many bytes it takes. -/
def first? : List UInt8 → Option (Char × Nat)
  | [] => none
  | a :: rest =>
      if a.toNat < 0x80 then some (Char.ofNat a.toNat, 1)
      else
        match rest with
        | [] => none
        | b :: rest =>
            match pair? a b with
            | some ch => some (ch, 2)
            | none =>
                match rest with
                | [] => none
                | c :: rest =>
                    match triple? a b c with
                    | some ch => some (ch, 3)
                    | none =>
                        match rest with
                        | [] => none
                        | d :: _ => (quadruple? a b c d).map (·, 4)

/-- Reads on after `done`, which holds what was read so far, last symbol first. A character of
`n + 1` bytes leaves `n` bytes to pass over. -/
def decodeAfter : List UInt8 → Nat → List Symbol → List Symbol
  | [], _, done => done.reverse
  | _ :: rest, pending + 1, done => decodeAfter rest pending done
  | a :: rest, 0, done =>
      match first? (a :: rest) with
      | some (ch, size) => decodeAfter rest (size - 1) (some ch :: done)
      | none => decodeAfter rest 0 (none :: done)

/-- Reads bytes as text. A byte that belongs to no well-formed sequence is a stray symbol. -/
def decode (bytes : List UInt8) : List Symbol :=
  decodeAfter bytes 0 []

/-- The characters of a byte sequence, if it is well-formed throughout. -/
def decode? (bytes : List UInt8) : Option (List Char) :=
  (decode bytes).mapM id

def encode (text : String) : List UInt8 :=
  text.toList.flatMap String.utf8EncodeChar

end ClusterOperator.Text.Utf8
