import ClusterOperator.Json.Numeral
import ClusterOperator.Json.Value

/-!
JSON text as far as it can be read.

`Outline.read` turns text into a tree up to the first place where its outline is broken; every
container around that place knows of the break, and nothing follows them. So a decoder that walks
the tree in order meets the problems of a document in the order of the document. Texts and numbers
that do not break the outline but have no value are kept with the reason: it only matters to a
decoder that wants the value.
-/

namespace ClusterOperator.Json

open Text.Utf8 (Symbol)

/-- A JSON document up to the break of its outline. -/
inductive Outline where
  | null
  | bool (value : Bool)
  | number (value : Except Breach Numeral)
  | text (value : Except Breach String)
  | array (items : List Outline) (stop : Option Break)
  | object (members : List (Except Breach String × Outline)) (stop : Option Break)
  /-- The place of the break. -/
  | broken (place : Break)

namespace Outline

instance : Inhabited Outline := ⟨null⟩

def stop? : Outline → Option Break
  | array _ stop => stop
  | object _ stop => stop
  | broken place => some place
  | _ => none

end Outline

mutual

/-- The outline of a value: complete, with nothing undecodable. -/
def outline : Json → Outline
  | null => .null
  | bool b => .bool b
  | int n => .number (.ok (.integer n))
  | float negative size => .number (.ok (.float negative size))
  | str s => .text (.ok s)
  | arr items => .array (outlineItems items) none
  | obj members => .object (outlineMembers members) none

def outlineItems : List Json → List Outline
  | [] => []
  | item :: items => outline item :: outlineItems items

def outlineMembers : List (String × Json) → List (Except Breach String × Outline)
  | [] => []
  | (key, value) :: members => (.ok key, outline value) :: outlineMembers members

end

def isGap : Symbol → Bool
  | some c => c = ' ' || c = '\t' || c = '\n' || c = '\r'
  | none => false

def skipGap (source : List Symbol) : List Symbol :=
  source.dropWhile isGap

/-- A piece of a JSON string. -/
inductive Piece where
  | char (c : Char)
  /-- A letter after a backslash. -/
  | short (c : Char)
  /-- A UTF-16 unit written with four digits. -/
  | unit (n : Nat)
  /-- A stray byte. -/
  | stray
  /-- The closing quote. -/
  | quote
deriving DecidableEq, Repr

def Piece.length : Piece → Nat
  | short _ => 2
  | unit _ => 6
  | _ => 1

def hexValue? (c : Char) : Option Nat :=
  if '0' ≤ c ∧ c ≤ '9' then some (c.toNat - 48)
  else if 'a' ≤ c ∧ c ≤ 'f' then some (c.toNat - 87)
  else if 'A' ≤ c ∧ c ≤ 'F' then some (c.toNat - 55)
  else none

def hexUnit? (a b c d : Char) : Option Nat := do
  let a ← hexValue? a
  let b ← hexValue? b
  let c ← hexValue? c
  let d ← hexValue? d
  some (((a * 16 + b) * 16 + c) * 16 + d)

/-- The character that a letter after a backslash stands for. -/
def shortEscape? (c : Char) : Option Char :=
  if c = '"' then some '"'
  else if c = '\\' then some '\\'
  else if c = '/' then some '/'
  else if c = 'b' then some (Char.ofNat 8)
  else if c = 'f' then some (Char.ofNat 12)
  else if c = 'n' then some '\n'
  else if c = 'r' then some '\r'
  else if c = 't' then some '\t'
  else none

/-- The break of an escape of four digits, given what follows its letter. -/
def brokenUnit (source : List Symbol) : Break :=
  let width := (source.take 4).foldl (fun n symbol => n + Text.Utf8.width symbol) 0
  let breach := if width < 4 then .before .endOfText [] else ⟨.escape, source.length, 4⟩
  ⟨breach, breach⟩

/-- Reads the pieces of a string up to its closing quote, or up to the first one that breaks the
outline; `done` holds those before, last first. -/
def readPieces : List Symbol → List Piece → List Piece × Except Break (List Symbol)
  | some '"' :: rest, done => ((.quote :: done).reverse, .ok rest)
  | some '\\' :: some 'u' :: some a :: some b :: some c :: some d :: rest, done =>
      match hexUnit? a b c d with
      | some n => readPieces rest (.unit n :: done)
      | none =>
          (done.reverse, .error (brokenUnit (some a :: some b :: some c :: some d :: rest)))
  | some '\\' :: some 'u' :: rest, done => (done.reverse, .error (brokenUnit rest))
  | some '\\' :: some c :: rest, done =>
      match shortEscape? c with
      | some _ => readPieces rest (.short c :: done)
      | none => ((.short c :: done).reverse, .error (.on .escape (some c :: rest)))
  | some '\\' :: none :: rest, done =>
      ((.short '\\' :: done).reverse, .error (.on .escape (none :: rest)))
  | [some '\\'], done => (done.reverse, .error (.on .endOfText []))
  | some c :: rest, done =>
      if c.toNat < 32 then
        ((.char c :: done).reverse,
          .error ⟨.on .control (some c :: rest), .before .control (some c :: rest)⟩)
      else readPieces rest (.char c :: done)
  | none :: rest, done => readPieces rest (.stray :: done)
  | [], done => (done.reverse, .error (.on .endOfText []))

def isLead (n : Nat) : Bool :=
  0xD800 ≤ n && n < 0xDC00

def isTrail (n : Nat) : Bool :=
  0xDC00 ≤ n && n < 0xE000

/-- The first surrogate without its partner among the pieces of a string: the flaw, how many symbols
of the string come before its place, and how many bytes beyond them it lies. The flaw is seen where
the piece after a leading surrogate shows that it is no partner; `before` counts the symbols of the
pieces so far. -/
def unpaired? (before : Nat) : List Piece → Option (Flaw × Nat × Nat)
  | [] => none
  | .unit n :: .unit m :: rest =>
      if isTrail n then some (.loneSurrogate, before + 6, 0)
      else if !isLead n then unpaired? (before + 6) (.unit m :: rest)
      else if isTrail m then unpaired? (before + 12) rest
      else some (.loneSurrogate, before + 12, 0)
  | .unit n :: rest =>
      if isTrail n then some (.loneSurrogate, before + 6, 0)
      else if !isLead n then unpaired? (before + 6) rest
      else
        match rest with
        | [] => none
        | .short _ :: _ => some (.hexEnd, before + 7, 1)
        | _ :: _ => some (.hexEnd, before + 6, 1)
  | piece :: rest => unpaired? (before + piece.length) rest

/-- The characters of the pieces after `done`, which holds those before, last first. Surrogate units
count only in pairs. -/
def joinPieces? : List Piece → List Char → Option (List Char)
  | [], done => some done.reverse
  | .quote :: _, done => some done.reverse
  | .char c :: rest, done => joinPieces? rest (c :: done)
  | .short c :: rest, done =>
      (shortEscape? c).bind fun c => joinPieces? rest (c :: done)
  | .stray :: _, _ => none
  | .unit lead :: .unit trail :: rest, done =>
      if isLead lead && isTrail trail then
        joinPieces? rest
          (Char.ofNat (0x10000 + (lead - 0xD800) * 1024 + (trail - 0xDC00)) :: done)
      else if isLead lead || isTrail lead then none
      else joinPieces? (.unit trail :: rest) (Char.ofNat lead :: done)
  | .unit n :: rest, done =>
      if isLead n || isTrail n then none else joinPieces? rest (Char.ofNat n :: done)

/-- The breach by a surrogate without its partner in a string, given its text after the opening
quote. -/
def unpairedBreach? (source : List Symbol) (pieces : List Piece) : Option Breach :=
  (unpaired? 0 pieces).map fun (flaw, before, ahead) => ⟨flaw, source.length - before, ahead⟩

/-- Reads a string after its opening quote. A reader that wants the text meets a surrogate without
its partner before a break behind it. -/
def readString (source : List Symbol) : Except Break (Except Breach String × List Symbol) :=
  match readPieces source [] with
  | (pieces, .error place) =>
      .error { place with read := (unpairedBreach? source pieces).getD place.read }
  | (pieces, .ok rest) =>
      let text := match joinPieces? pieces [] with
        | some text => .ok (String.ofList text)
        | none => .error ((unpairedBreach? source pieces).getD (.before .codePoint rest))
      .ok (text, rest)

/-- A value and what follows it; nothing follows the break of the outline. -/
abbrev Reading := Outline × Except Break (List Symbol)

def brokenAt (place : Break) : Reading :=
  (.broken place, .error place)

/-- An array that is broken off after some items, last first. -/
def brokenArray (done : List Outline) (place : Break) : Reading :=
  (.array done.reverse (some place), .error place)

/-- An object that is broken off after some members, last first. -/
def brokenObject (done : List (Except Breach String × Outline)) (place : Break) : Reading :=
  (.object done.reverse (some place), .error place)

def readWord (value : Outline) : List Char → List Symbol → Reading
  | [], rest => (value, .ok rest)
  | _ :: _, [] => brokenAt (.on .endOfValue [])
  | c :: word, symbol :: rest =>
      if symbol = some c then readWord value word rest
      else brokenAt (.on .word (symbol :: rest))

/-- Reads a value that is no container, given the symbol it begins with and what follows. -/
def readScalar (c : Char) (rest : List Symbol) : Reading :=
  if c = '"' then
    match readString rest with
    | .ok (value, rest) => (.text value, .ok rest)
    | .error place => brokenAt place
  else if c = 'n' then readWord .null ['u', 'l', 'l'] rest
  else if c = 't' then readWord (.bool true) ['r', 'u', 'e'] rest
  else if c = 'f' then readWord (.bool false) ['a', 'l', 's', 'e'] rest
  else if c = '-' ∨ c.isDigit then
    match readLiteral (some c :: rest) with
    | .ok (literal, rest) => (.number (literal.value rest), .ok rest)
    | .error place => brokenAt place
  else brokenAt (.on .value (some c :: rest))

mutual

def readValue : Nat → List Symbol → Reading
  | 0, source => brokenAt (.on .value source)
  | fuel + 1, source =>
      match skipGap source with
      | some '[' :: rest =>
          match skipGap rest with
          | [] => brokenArray [] (.on .endOfList [])
          | some ']' :: rest => (.array [] none, .ok rest)
          | rest => readItems fuel rest []
      | some '{' :: rest =>
          match skipGap rest with
          | some '}' :: rest => (.object [] none, .ok rest)
          | some '"' :: rest => readMembers fuel rest []
          | rest => brokenObject [] (.onUnlessAtEnd .key .endOfObject rest)
      | some c :: rest => readScalar c rest
      | rest => brokenAt (.onUnlessAtEnd .value .endOfValue rest)

/-- Reads the items of an array from the start of one; `done` holds those before, last first. -/
def readItems : Nat → List Symbol → List Outline → Reading
  | 0, source, done => brokenArray done (.on .value source)
  | fuel + 1, source, done =>
      match readValue fuel source with
      | (item, .error place) => brokenArray (item :: done) place
      | (item, .ok rest) =>
          match skipGap rest with
          | some ']' :: rest => (.array (item :: done).reverse none, .ok rest)
          | some ',' :: rest =>
              match skipGap rest with
              | [] => brokenArray (item :: done) (.on .endOfValue [])
              | some ']' :: rest =>
                  brokenArray (item :: done) (.apart .trailingComma .value (some ']' :: rest))
              | rest => readItems fuel rest (item :: done)
          | rest => brokenArray (item :: done) (.onUnlessAtEnd .itemComma .endOfList rest)

/-- Reads the members of an object from after the opening quote of a key; `done` holds those
before, last first. -/
def readMembers : Nat → List Symbol → List (Except Breach String × Outline) → Reading
  | 0, source, done => brokenObject done (.on .value source)
  | fuel + 1, source, done =>
      match readString source with
      | .error place => brokenObject done place
      | .ok (key, rest) =>
          match skipGap rest with
          | some ':' :: rest =>
              match readValue fuel rest with
              | (value, .error place) => brokenObject ((key, value) :: done) place
              | (value, .ok rest) =>
                  match skipGap rest with
                  | some '}' :: rest => (.object ((key, value) :: done).reverse none, .ok rest)
                  | some ',' :: rest =>
                      match skipGap rest with
                      | some '"' :: rest => readMembers fuel rest ((key, value) :: done)
                      | some '}' :: rest =>
                          brokenObject ((key, value) :: done)
                            (.apart .trailingComma .key (some '}' :: rest))
                      | [] =>
                          brokenObject ((key, value) :: done) (.apart .endOfValue .endOfObject [])
                      | rest => brokenObject ((key, value) :: done) (.on .key rest)
                  | rest =>
                      brokenObject ((key, value) :: done)
                        (.onUnlessAtEnd .memberComma .endOfObject rest)
          | rest =>
              let place := .onUnlessAtEnd .colon .endOfObject rest
              brokenObject ((key, .broken place) :: done) place

end

/-- Reads the first value of a text. Every step takes a symbol or leads to one that does, so twice
their number bounds the steps. -/
def Outline.read (source : List Symbol) : Reading :=
  readValue (2 * source.length + 2) source

end ClusterOperator.Json
