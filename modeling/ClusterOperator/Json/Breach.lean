import ClusterOperator.Text.Utf8

namespace ClusterOperator.Json

open Text.Utf8 (Symbol)

/-- What is wrong with a text. -/
inductive Flaw where
  | endOfList
  | endOfObject
  | endOfText
  | endOfValue
  /-- Something else stands where the colon after a key belongs. -/
  | colon
  /-- Something else follows an item of an array. -/
  | itemComma
  /-- Something else follows a member of an object. -/
  | memberComma
  /-- A word that names no value. -/
  | word
  /-- No value begins here. -/
  | value
  | escape
  | number
  /-- A number beyond the format of numbers. -/
  | magnitude
  /-- A stray byte in a text. -/
  | codePoint
  | control
  /-- Something else stands where a key belongs. -/
  | key
  | loneSurrogate
  /-- A leading surrogate is not followed by another escape. -/
  | hexEnd
  | trailingComma
  /-- Something follows the value, or the last item that a record takes. -/
  | trailing
  /-- More containers around each other than are read. -/
  | depth
deriving DecidableEq, Repr, Inhabited

def Flaw.message : Flaw → String
  | endOfList => "EOF while parsing a list"
  | endOfObject => "EOF while parsing an object"
  | endOfText => "EOF while parsing a string"
  | endOfValue => "EOF while parsing a value"
  | colon => "expected `:`"
  | itemComma => "expected `,` or `]`"
  | memberComma => "expected `,` or `\x7d`"
  | word => "expected ident"
  | value => "expected value"
  | escape => "invalid escape"
  | number => "invalid number"
  | magnitude => "number out of range"
  | codePoint => "invalid unicode code point"
  | control => "control character (\\u0000-\\u001F) found while parsing a string"
  | key => "key must be a string"
  | loneSurrogate => "lone leading surrogate in hex escape"
  | hexEnd => "unexpected end of hex escape"
  | trailingComma => "trailing comma"
  | trailing => "trailing characters"
  | depth => "recursion limit exceeded"

/-- A spot in a text: some bytes beyond the point that so many symbols of the text follow. -/
structure Spot where
  /-- How many symbols follow the point. -/
  left : Nat
  /-- How many bytes beyond it the spot lies, as far as there are any. -/
  ahead : Nat
deriving DecidableEq, Repr, Inhabited

namespace Spot

def before (source : List Symbol) : Spot :=
  ⟨source.length, 0⟩

def on (source : List Symbol) : Spot :=
  ⟨source.length, 1⟩

end Spot

/-- A flaw and where it lies. -/
structure Breach where
  flaw : Flaw
  spot : Spot
deriving DecidableEq, Repr, Inhabited

namespace Breach

def on (flaw : Flaw) (source : List Symbol) : Breach :=
  ⟨flaw, .on source⟩

def before (flaw : Flaw) (source : List Symbol) : Breach :=
  ⟨flaw, .before source⟩

end Breach

/-- The place where the outline of a text is broken. Who passes over a value only looks at its outline,
so the breach that is met there may be another one. -/
structure Break where
  /-- What a reader meets that wants the value. -/
  read : Breach
  /-- What a reader meets that passes over the value. -/
  passed : Breach
deriving DecidableEq, Repr, Inhabited

namespace Break

/-- A flaw that both readers meet behind the first byte of a text. -/
def on (flaw : Flaw) (source : List Symbol) : Break :=
  ⟨.on flaw source, .on flaw source⟩

/-- Two flaws behind the first byte of a text, one for either reader. -/
def apart (read passed : Flaw) (source : List Symbol) : Break :=
  ⟨.on read source, .on passed source⟩

/-- A flaw that both readers meet behind the first byte of a text, or another one at its end. -/
def onUnlessAtEnd (flaw ending : Flaw) (source : List Symbol) : Break :=
  .on (if source.isEmpty then ending else flaw) source

end Break

end ClusterOperator.Json
