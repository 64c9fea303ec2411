import ClusterOperator.Json.Value

/-!
JSON values in YAML block style. Members stand one below the other, members of members are indented
by two, and the items of a list begin with a hyphen under the key of the list. A text is written
without quotes wherever it then reads as the same text.
-/

namespace ClusterOperator.Yaml

def reserved : List String :=
  ["null", "Null", "NULL", "true", "True", "TRUE", "false", "False", "FALSE",
    ".nan", ".NaN", ".NAN", ".inf", ".Inf", ".INF"]

/-- Whether a text reads as a number: it begins like one and has only characters of numbers. -/
def readsAsNumber (text : List Char) : Bool :=
  text.any Char.isDigit && text.all fun c => c.isDigit || "+-.eEoxabcdfABCDF_".toList.contains c

/-- Whether what follows a character lets a text stand without quotes: no colon ends a word, and no
hash begins one. -/
def isSafeAfter : Char → List Char → Bool
  | c, [] => c ≠ ':' && c ≠ ' '
  | c, d :: rest => !(c = ':' && d = ' ') && !(c = ' ' && d = '#') && isSafeAfter d rest

def isPlain (text : String) : Bool :=
  match text.toList with
  | [] => false
  | c :: rest =>
      (c.isAlphanum || c = '.' || c = '/') && (c :: rest).all (fun d => ' ' ≤ d && d ≤ '~') &&
        isSafeAfter c rest && !reserved.contains text && !readsAsNumber (c :: rest)

/-- A text in single quotes, where a quote is written twice. -/
def quote (text : String) : String :=
  String.ofList ('\'' :: text.toList.flatMap (fun c => if c = '\'' then ['\'', '\''] else [c]) ++
    ['\''])

def scalar (text : String) : String :=
  if isPlain text then text else quote text

def attach (key : String) (value : Json) (lines : List String) : List String :=
  match value with
  | .obj (_ :: _) => (key ++ ":") :: lines.map ("  " ++ ·)
  | .arr (_ :: _) => (key ++ ":") :: lines
  | _ => lines.map (key ++ ": " ++ ·)

def bullet : List String → List String
  | [] => []
  | first :: rest => ("- " ++ first) :: rest.map ("  " ++ ·)

mutual

def lines : Json → List String
  | .null => ["null"]
  | .bool true => ["true"]
  | .bool false => ["false"]
  | .int n => [toString n]
  | .float negative size => [String.ofList (Json.floating negative size)]
  | .str s => [scalar s]
  | .arr [] => ["[]"]
  | .arr (item :: items) => bullet (lines item) ++ itemLines items
  | .obj [] => ["\x7b\x7d"]
  | .obj ((key, value) :: members) =>
      attach (scalar key) value (lines value) ++ memberLines members

def itemLines : List Json → List String
  | [] => []
  | item :: items => bullet (lines item) ++ itemLines items

def memberLines : List (String × Json) → List String
  | [] => []
  | (key, value) :: members => attach (scalar key) value (lines value) ++ memberLines members

end

def document (value : Json) : String :=
  "---\n" ++ String.join ((lines value).map (· ++ "\n"))

end ClusterOperator.Yaml
