/-!
# JSON values

A document as it is written: members in order, repeated ones included, and numbers as their text,
so that nothing is lost or rounded before a reader of the document decides what it accepts.
-/

set_option autoImplicit false

namespace ContractHarness

/-- A JSON value. -/
inductive Json where
  | null
  | bool (value : Bool)
  | number (text : String)
  | string (value : String)
  | array (items : List Json)
  | object (members : List (String × Json))
deriving Repr, Inhabited

namespace Json

mutual
/-- How deeply arrays and objects are nested in a value. -/
def depth : Json → Nat
  | .array items => itemsDepth items + 1
  | .object members => membersDepth members + 1
  | _ => 0

/-- The greatest depth among values. -/
def itemsDepth : List Json → Nat
  | [] => 0
  | item :: rest => max item.depth (itemsDepth rest)

/-- The greatest depth among the values of members. -/
def membersDepth : List (String × Json) → Nat
  | [] => 0
  | (_, value) :: rest => max value.depth (membersDepth rest)
end

/-- The integer that a number without fraction and exponent denotes. A minus sign in front of zero
makes it no integer. -/
def numberInt? (digits : String) : Option Int :=
  match digits.toList with
  | '-' :: rest =>
    if rest.all Char.isDigit ∧ rest ≠ ['0'] then some (-(Nat.ofDigitChars 10 rest 0 : Int))
    else none
  | rest => if rest.all Char.isDigit then some (Nat.ofDigitChars 10 rest 0 : Int) else none

/-- The natural number that a JSON number denotes. -/
def nat? : Json → Option Nat
  | .number digits => (numberInt? digits).bind fun n => if 0 ≤ n then some n.toNat else none
  | _ => none

/-- The text of a JSON string. -/
def string? : Json → Option String
  | .string value => some value
  | _ => none

/-- The truth value of a JSON boolean. -/
def bool? : Json → Option Bool
  | .bool value => some value
  | _ => none

/-- The items of a JSON array. -/
def items? : Json → Option (List Json)
  | .array items => some items
  | _ => none

/-- The value of the last member with a name. -/
def member? (name : String) : Json → Option Json
  | .object members => (members.reverse.find? (·.1 == name)).map Prod.snd
  | _ => none

/-- The value of the only member with a name; none when the member is repeated. -/
def uniqueMember? (name : String) : Json → Option Json
  | .object members =>
    match members.filter (·.1 == name) with
    | [(_, value)] => some value
    | _ => none
  | _ => none

/-- How often a member with the name occurs. -/
def memberCount (name : String) : Json → Nat
  | .object members => members.countP (·.1 == name)
  | _ => 0

/-- The members of a record by their names. An object gives each of them at most once, and others
beside them; a list gives them without names in the order of the record, and may end early. -/
def record? (names : List String) : Json → Option (String → Option Json)
  | .object members =>
    if names.all fun name => (Json.object members).memberCount name ≤ 1 then
      some fun name => (Json.object members).member? name
    else none
  | .array items =>
    if items.length ≤ names.length then some fun name => (names.zip items).lookup name else none
  | _ => none

end Json

end ContractHarness
