import ContractHarness.Abi.Encoding
import ContractHarness.Abi.TypeText
import ContractHarness.Json.Basic

/-!
# The interface of a contract

What a contract offers: its constructor, its functions and its events, each with typed parameters.
An interface is read from the list of items that compilers write. Functions and events are kept in
the order of their names, and those of one name in the order of the list.
-/

set_option autoImplicit false

namespace ContractHarness

/-- A parameter. A structured one has components, and its type text says how they are wrapped. -/
structure Param where
  name : String
  typeText : String
  components : List Param
  indexed : Bool
deriving Repr, Inhabited

/-- A function of a contract. -/
structure Method where
  name : String
  inputs : List Param
  outputs : List Param
deriving Repr, Inhabited

/-- An event of a contract. -/
structure Event where
  name : String
  inputs : List Param
  anonymous : Bool
deriving Repr, Inhabited

/-- The interface of a contract. -/
structure Interface where
  /-- The parameters of the constructor, if there is one. -/
  constructor? : Option (List Param)
  methods : List Method
  events : List Event
deriving Repr

/-- The empty interface is the interface where none is given. -/
instance : Inhabited Interface := ⟨⟨none, [], []⟩⟩

/-- The interface that offers nothing. -/
def Interface.empty : Interface := ⟨none, [], []⟩

namespace Param

mutual
/-- The type of a parameter. -/
def resolve? : Param → Option AbiType
  | ⟨_, typeText, components, _⟩ =>
    match TypeText.read? typeText with
    | none => none
    | some type =>
      if components.isEmpty then type.resolve?
      else (resolveAll? components).map fun types => type.wrap (.tuple types)

/-- The types of parameters, if all of them are known. -/
def resolveAll? : List Param → Option (List AbiType)
  | [] => some []
  | param :: params =>
    match param.resolve?, resolveAll? params with
    | some type, some types => some (type :: types)
    | _, _ => none
end

mutual
/-- A parameter in a signature: its type as it is written, with the components of a structured one
in the place of the word `tuple`. -/
def signature : Param → String
  | ⟨_, typeText, components, _⟩ =>
    if components.isEmpty then typeText
    else "(" ++ ",".intercalate (signatures components) ++ ")"
      ++ String.ofList (typeText.toList.drop "tuple".length)

/-- Parameters in a signature. -/
def signatures : List Param → List String
  | [] => []
  | param :: params => param.signature :: signatures params
end

/-- Encodes values as the parameters of a call. The values are measured against the parameters one
by one. -/
def checkAll : List Param → List AbiValue → Except EncodeError Unit
  | param :: params, value :: values =>
    match param.resolve? with
    | none => .error (.unresolved param.typeText)
    | some type =>
      if type.accepts value then checkAll params values else .error (.type type value)
  | _, _ => .ok ()

/-- Encodes values as the parameters of a call. -/
def encodeAll (params : List Param) (values : List AbiValue) : Except EncodeError Bytes :=
  if params.length ≠ values.length then .error (.count params.length values.length)
  else (checkAll params values).map fun () => AbiValue.encodeSequence values

end Param

/-- The signature of a name with parameters. -/
def signatureOf (name : String) (params : List Param) : String :=
  name ++ "(" ++ ",".intercalate (Param.signatures params) ++ ")"

/-- The four bytes that select a function. -/
abbrev Selector := BitVec 32

/-- The first four bytes of the hash of a text. -/
def Selector.ofText (hash : Bytes → Hash) (text : String) : Selector :=
  (hash (Utf8.encode text)).extractLsb' 224 32

/-- The selector of a signature. -/
def selectorOf (signature : String) : Selector :=
  .ofText keccak256 signature

/-- The bytes of a selector. -/
def Selector.toBytes (s : Selector) : Bytes :=
  Bytes.ofNat 4 s.toNat

/-- The selector of the bytes, of which the last four count. -/
def Selector.ofBytes (bytes : Bytes) : Selector :=
  BitVec.ofNat 32 (Bytes.toNat bytes)

/-- The lowercase form of a selector. -/
def Selector.hex (s : Selector) : String :=
  Hex.prefixed (Hex.ofNat 8 s.toNat)

/-- The signature of a function. -/
def Method.signature (m : Method) : String :=
  signatureOf m.name m.inputs

/-- The selector of a function. -/
def Method.selector (m : Method) : Selector :=
  selectorOf m.signature

/-- The signature of an event. -/
def Event.signature (e : Event) : String :=
  signatureOf e.name e.inputs

/-- The topic that logs of an event start with. -/
def Event.topic (e : Event) : Word :=
  keccak256 (Utf8.encode e.signature)

/-! ## Reading an interface -/

namespace Param

/-- A parameter with this name, type and components can stand in an interface. -/
def isWellFormed (name typeText : String) (components : List Param) : Bool :=
  (name.isEmpty || isIdentifier name) &&
    if components.isEmpty then (TypeText.read? typeText).isSome
    else "tuple".toList.isPrefixOf typeText.toList

/-- The name of a parameter, which may be missing. -/
def readName? : Option Json → Option String
  | none => some ""
  | some name => name.string?

/-- Whether a parameter says that it is indexed. -/
def readIndexed? : Option Json → Option (Option Bool)
  | none => some none
  | some .null => some none
  | some (.bool b) => some (some b)
  | _ => none

/-- The type that a parameter has in the source of the contract is a text, whatever it says. -/
def isSourceType : Option Json → Bool
  | none => true
  | some .null => true
  | some (.string _) => true
  | _ => false

/-- The list in which the components of a parameter stand, which may be missing. -/
def readComponentList? : Option Json → Option (List Json)
  | none => some []
  | some list => list.items?

/-- The members of the record of a parameter. -/
def recordNames : List String :=
  ["name", "type", "indexed", "internalType", "components"]

/-- Reads a parameter and the components below it, with fuel for the depth of the list. Only the
parameters of events say whether they are indexed, not their components. -/
def readWith : (fuel : Nat) → (mayBeIndexed : Bool) → Json → Option Param
  | 0, _, _ => none
  | fuel + 1, mayBeIndexed, json => do
    let member ← json.record? recordNames
    let name ← readName? (member "name")
    let typeText ← (member "type").bind Json.string?
    let indexed ← readIndexed? (member "indexed")
    let components ← (← readComponentList? (member "components")).mapM (readWith fuel false)
    if (mayBeIndexed || indexed.isNone) && isSourceType (member "internalType")
        && isWellFormed name typeText components then
      some ⟨name, typeText, components, indexed.getD false⟩
    else none

/-- Reads a parameter of an event. -/
def readEventParam? (json : Json) : Option Param :=
  readWith (json.depth + 1) true json

/-- Reads a parameter of anything but an event, which cannot be indexed. -/
def read? (json : Json) : Option Param :=
  readWith (json.depth + 1) false json

/-- Reads a list of parameters. -/
def readList? (readParam : Json → Option Param) (json : Json) : Option (List Param) :=
  json.items?.bind (·.mapM readParam)

end Param

namespace Interface

/-- The order of two names, by their characters. -/
def nameLe (a b : String) : Bool :=
  decide (a ≤ b)

/-- The name of an item, which may be empty. -/
def readName? (name : Option Json) : Option String :=
  match name.bind Json.string? with
  | some name => if name.isEmpty || isIdentifier name then some name else none
  | none => none

/-- The words for what an item does to the state of the chain and whether it takes a payment. -/
def mutabilities : List String :=
  ["pure", "view", "nonpayable", "payable"]

/-- The text is one of the words. -/
def isMutability (word : String) : Bool :=
  mutabilities.contains word

/-- Whether an item has a word for what it does to the state; none when it is not one of the known
ones. The word may be the only member of an object that has nothing for its value. -/
def readMutability? : Option Json → Option Bool
  | none => some false
  | some .null => some false
  | some (.string word) => if isMutability word then some true else none
  | some (.object [(word, .null)]) => if isMutability word then some true else none
  | some (.object [(word, .object [])]) => if isMutability word then some true else none
  | _ => none

/-- A member of an item that is on or off, and off when it is missing. -/
def readSwitch? : Option Json → Option Bool
  | none => some false
  | some .null => some false
  | some (.bool b) => some b
  | _ => none

/-- The item says in a way that can be understood what it does to the state. In the old way, in
which two switches stand in the place of the word, it cannot both take a payment and leave the state
as it is. -/
def hasMutability (json : Json) : Bool :=
  match json.record? ["stateMutability", "payable", "constant"] with
  | none => false
  | some member =>
    match readMutability? (member "stateMutability"), readSwitch? (member "payable"),
      readSwitch? (member "constant") with
    | some hasWord, some payable, some constant => hasWord || !(payable && constant)
    | _, _, _ => false

/-- What an item of the list describes. -/
inductive Item where
  | constructor (inputs : List Param)
  | method (method : Method)
  | event (event : Event)
  | fallback
  | receive
  | error

/-- What kind of thing an item describes. A list says it first. -/
def readKind? : Json → Option String
  | .array (kind :: _) => kind.string?
  | json => (json.uniqueMember? "type").bind Json.string?

/-- The members of an item that says what it does to the state, which is always an object. -/
def readStateful? (names : List String) (json : Json) : Option (String → Option Json) :=
  match json with
  | .object _ => if hasMutability json then json.record? names else none
  | _ => none

/-- Reads an item. Events and errors may also be lists of their members. -/
def readItem? (json : Json) : Option Item := do
  match ← readKind? json with
  | "constructor" =>
    let member ← readStateful? ["type", "inputs"] json
    return .constructor (← Param.readList? Param.read? (← member "inputs"))
  | "function" =>
    let member ← readStateful? ["type", "name", "inputs", "outputs"] json
    let name ← readName? (member "name")
    let inputs ← Param.readList? Param.read? (← member "inputs")
    let outputs ← Param.readList? Param.read? (← member "outputs")
    return .method ⟨name, inputs, outputs⟩
  | "event" =>
    let member ← json.record? ["type", "name", "inputs", "anonymous"]
    let name ← readName? (member "name")
    let inputs ← Param.readList? Param.readEventParam? (← member "inputs")
    return .event ⟨name, inputs, ← (← member "anonymous").bool?⟩
  | "error" =>
    let member ← json.record? ["type", "name", "inputs"]
    let _ ← readName? (member "name")
    let _ ← Param.readList? Param.read? (← member "inputs")
    return .error
  | "fallback" => (readStateful? ["type"] json).map fun _ => .fallback
  | "receive" => (readStateful? ["type"] json).map fun _ => .receive
  | _ => none

/-- The parameters of the constructors among items. -/
def constructors (items : List Item) : List (List Param) :=
  items.filterMap fun
    | .constructor inputs => some inputs
    | _ => none

/-- The functions among items. -/
def methodsOf (items : List Item) : List Method :=
  items.filterMap fun
    | .method method => some method
    | _ => none

/-- The events among items. -/
def eventsOf (items : List Item) : List Event :=
  items.filterMap fun
    | .event event => some event
    | _ => none

/-- At most one of the items is a fallback, and at most one a receiver. -/
def hasSingleHandlers (items : List Item) : Bool :=
  items.countP (fun | .fallback => true | _ => false) ≤ 1 &&
    items.countP (fun | .receive => true | _ => false) ≤ 1

/-- Reads an interface: a list of items with at most one constructor. -/
def read? (json : Json) : Option Interface := do
  let items ← (← json.items?).mapM readItem?
  let methods := (methodsOf items).mergeSort fun a b => nameLe a.name b.name
  let events := (eventsOf items).mergeSort fun a b => nameLe a.name b.name
  if !hasSingleHandlers items then none
  else match constructors items with
    | [] => return ⟨none, methods, events⟩
    | [inputs] => return ⟨some inputs, methods, events⟩
    | _ => none

end Interface

end ContractHarness
