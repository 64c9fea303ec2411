import ClusterOperator.Number.Shortest

namespace ClusterOperator

/-- A JSON value. -/
inductive Json where
  | null
  | bool (value : Bool)
  | int (value : Int)
  /-- A floating-point number. -/
  | float (negative : Bool) (size : Number.Binary64)
  | str (value : String)
  | arr (items : List Json)
  | obj (members : List (String × Json))
deriving Repr

namespace Json

instance : Inhabited Json := ⟨null⟩

mutual

def isSame : Json → Json → Bool
  | null, null => true
  | bool a, bool b => a = b
  | int a, int b => a = b
  | float m a, float n b => m = n && a = b
  | str a, str b => a = b
  | arr as, arr bs => areSame as bs
  | obj as, obj bs => areSameMembers as bs
  | _, _ => false

def areSame : List Json → List Json → Bool
  | [], [] => true
  | a :: as, b :: bs => isSame a b && areSame as bs
  | _, _ => false

def areSameMembers : List (String × Json) → List (String × Json) → Bool
  | [], [] => true
  | (k, a) :: as, (l, b) :: bs => k = l && isSame a b && areSameMembers as bs
  | _, _ => false

end

mutual

theorem isSame_iff : (a b : Json) → (isSame a b = true ↔ a = b)
  | null, b => by cases b <;> simp [isSame]
  | bool _, b => by cases b <;> simp [isSame]
  | int _, b => by cases b <;> simp [isSame]
  | float _ _, b => by cases b <;> simp [isSame]
  | str _, b => by cases b <;> simp [isSame]
  | arr as, b => by cases b <;> simp [isSame, areSame_iff as]
  | obj as, b => by cases b <;> simp [isSame, areSameMembers_iff as]

theorem areSame_iff : (as bs : List Json) → (areSame as bs = true ↔ as = bs)
  | [], bs => by cases bs <;> simp [areSame]
  | a :: as, bs => by cases bs <;> simp [areSame, isSame_iff a, areSame_iff as]

theorem areSameMembers_iff :
    (as bs : List (String × Json)) → (areSameMembers as bs = true ↔ as = bs)
  | [], bs => by cases bs <;> simp [areSameMembers]
  | (k, a) :: as, bs => by
      rcases bs with _ | ⟨⟨l, b⟩, bs⟩ <;>
        simp [areSameMembers, isSame_iff a, areSameMembers_iff as]

end

instance : DecidableEq Json := fun a b => decidable_of_iff _ (isSame_iff a b)

def strs (texts : List String) : Json :=
  arr (texts.map str)

def member? (key : String) (value : Option Json) : List (String × Json) :=
  match value with
  | none => []
  | some v => [(key, v)]

def nonempty (key : String) (value : String) : List (String × Json) :=
  if value = "" then [] else [(key, str value)]

/-- A member that holds a list and is left out when the list is empty. -/
def nonemptyList (key : String) (items : List Json) : List (String × Json) :=
  if items.isEmpty then [] else [(key, arr items)]

def textAt? (key : String) : Json → Option String
  | obj members =>
      match members.lookup key with
      | some (str text) => some text
      | _ => none
  | _ => none

/-- The digit of a number below sixteen, lower case. -/
def hexDigit (n : Nat) : Char :=
  if n < 10 then Char.ofNat (48 + n) else Char.ofNat (87 + n)

/-- How one character stands in a JSON string: quotes, backslashes and controls are escaped. -/
def escape (c : Char) : List Char :=
  if c = '"' then ['\\', '"']
  else if c = '\\' then ['\\', '\\']
  else if c = '\n' then ['\\', 'n']
  else if c = '\r' then ['\\', 'r']
  else if c = '\t' then ['\\', 't']
  else if c = Char.ofNat 8 then ['\\', 'b']
  else if c = Char.ofNat 12 then ['\\', 'f']
  else if c.toNat < 32 then
    ['\\', 'u', '0', '0', hexDigit (c.toNat / 16), hexDigit (c.toNat % 16)]
  else [c]

def quote (text : String) : List Char :=
  '"' :: text.toList.flatMap escape ++ ['"']

def decimal (n : Int) : List Char :=
  if n < 0 then '-' :: Nat.toDigits 10 n.natAbs else Nat.toDigits 10 n.natAbs

def floating (negative : Bool) (size : Number.Binary64) : List Char :=
  if negative then '-' :: size.text else size.text

mutual

def chars : Json → List Char
  | null => ['n', 'u', 'l', 'l']
  | bool true => ['t', 'r', 'u', 'e']
  | bool false => ['f', 'a', 'l', 's', 'e']
  | int n => decimal n
  | float negative size => floating negative size
  | str s => quote s
  | arr [] => ['[', ']']
  | arr (item :: items) => '[' :: (chars item ++ moreItems items)
  | obj [] => ['{', '}']
  | obj ((key, value) :: members) =>
      '{' :: (quote key ++ ':' :: (chars value ++ moreMembers members))

/-- The items after the first and the closing bracket. -/
def moreItems : List Json → List Char
  | [] => [']']
  | item :: items => ',' :: (chars item ++ moreItems items)

/-- The members after the first and the closing brace. -/
def moreMembers : List (String × Json) → List Char
  | [] => ['}']
  | (key, value) :: members => ',' :: (quote key ++ ':' :: (chars value ++ moreMembers members))

end

def render (value : Json) : String :=
  String.ofList value.chars

end Json

end ClusterOperator
