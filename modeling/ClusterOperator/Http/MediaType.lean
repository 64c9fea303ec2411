import ClusterOperator.Text.Basic

namespace ClusterOperator.Http

def isTokenChar (c : Char) : Bool :=
  c.isAlphanum || "!#$%&'*+-.^_`|~".toList.contains c

/-- Characters of a quoted parameter. A backslash is one like any other. -/
def isQuotedChar (c : Char) : Bool :=
  0x20 ≤ c.toNat && c.toNat ≠ 0x7F

def isHeaderChar (c : Char) : Bool :=
  c = '\t' || (0x20 ≤ c.toNat && c.toNat < 0x7F)

/-- A media type without its parameters, in lower case. -/
structure MediaType where
  type : List Char
  subtype : List Char
  suffix : Option (List Char)
deriving DecidableEq, Repr

namespace MediaType

/-- What follows the first quote of a text, before which all characters may stand between
quotes. -/
def afterQuote? : List Char → Option (List Char)
  | [] => none
  | '"' :: rest => some rest
  | c :: rest => if isQuotedChar c then afterQuote? rest else none

/-- What follows a parameter whose value is quoted, given the text after the opening quote. The
value is not empty, so that a quote in its first place belongs to it. Only spaces may come between
the closing quote and the next semicolon. -/
def afterQuoted? : List Char → Option (List Char)
  | [] => none
  | c :: rest =>
      if !isQuotedChar c then none
      else
        (afterQuote? rest).bind fun rest =>
          match rest.dropWhile (· = ' ') with
          | [] => some []
          | c :: rest => if c = ';' then some rest else none

/-- What follows a parameter and its semicolon, given its value. Only the last value may be
empty. -/
def afterValue? : List Char → Option (List Char)
  | '"' :: rest => afterQuoted? rest
  | text =>
      match text.takeWhile isTokenChar, text.dropWhile isTokenChar with
      | _, [] => some []
      | _ :: _, ';' :: rest => some rest
      | _, _ => none

def afterParameter? (text : List Char) : Option (List Char) :=
  match text.takeWhile isTokenChar, text.dropWhile isTokenChar with
  | _ :: _, '=' :: rest => afterValue? rest
  | _, _ => none

/-- Whether the parameters after a semicolon are well-formed. Every one takes a character, so the
length of the text bounds their number. -/
def areParameters : Nat → List Char → Bool
  | bound, text =>
      match bound, text.dropWhile (· = ' ') with
      | _, [] => true
      | 0, _ => false
      | bound + 1, text => (afterParameter? text).any (areParameters bound)

/-- Cuts a subtype at its last plus sign, which does not come first. -/
def splitSuffix (subtype : List Char) : List Char × Option (List Char) :=
  let suffix := (subtype.reverse.takeWhile (· ≠ '+')).reverse
  let front := subtype.take (subtype.length - suffix.length - 1)
  if front.isEmpty || suffix.length = subtype.length then (subtype, none) else (front, some suffix)

/-- Whether a subtype may be followed by a text: by nothing, or by parameters unless it is empty. -/
def mayPrecede (subtype : List Char) : List Char → Bool
  | [] => true
  | c :: rest => c = ';' && !subtype.isEmpty && areParameters rest.length rest

def parse? (text : List Char) : Option MediaType :=
  match text.takeWhile isTokenChar, text.dropWhile isTokenChar with
  | [], _ => none
  | type, '/' :: rest =>
      let subtype := rest.takeWhile isTokenChar
      if !mayPrecede subtype (rest.dropWhile isTokenChar) then none
      else
        let (subtype, suffix) := splitSuffix (subtype.map Char.toLower)
        some ⟨type.map Char.toLower, subtype, suffix⟩
  | _, _ => none

def isJson (m : MediaType) : Bool :=
  let json := "json".toList
  m.type = "application".toList && (m.subtype = json || m.suffix = some json)

end MediaType

/-- Whether the header that names the type of a body says that it is JSON. -/
def saysJson (header : Option String) : Bool :=
  header.any fun text =>
    text.toList.all isHeaderChar && (MediaType.parse? text.toList).any (·.isJson)

end ClusterOperator.Http
