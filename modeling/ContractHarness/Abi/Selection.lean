import ContractHarness.Abi.Interface

/-!
# Selecting a function

A function of an interface is selected by its name and the number of arguments, or by its full
signature. A name that leaves a choice is refused.
-/

set_option autoImplicit false

namespace ContractHarness

/-- Why no function is selected. -/
inductive SelectError where
  /-- No function has the signature. -/
  | noSignature (signature : String)
  /-- No function has the name. -/
  | noName (name : String)
  /-- Several functions of the name take the number of arguments. -/
  | ambiguous (name : String) (count : Nat)
  /-- No function of the name takes the number of arguments. -/
  | noOverload (name : String) (count : Nat)
  /-- Several functions have the name. -/
  | overloaded (name : String)
deriving DecidableEq, Repr

/-- The message of a selection error. -/
def SelectError.message : SelectError → String
  | .noSignature signature => s!"No function with the signature {signature} in the ABI"
  | .noName name => s!"No function named {name} in the ABI"
  | .ambiguous name count =>
    s!"The call to {name} with {count} arguments is ambiguous, use the full signature"
  | .noOverload name count => s!"No overload of {name} takes {count} arguments"
  | .overloaded name => s!"The function {name} is overloaded, use the full signature"

/-- The text is a full signature rather than a name. -/
def isSignature (method : String) : Bool :=
  method.toList.contains '('

namespace Interface

/-- The functions with a name. -/
def overloads (abi : Interface) (name : String) : List Method :=
  abi.methods.filter (·.name = name)

/-- The first function with a signature. -/
def ofSignature (abi : Interface) (signature : String) : Except SelectError Method :=
  match abi.methods.find? (·.signature = signature) with
  | some method => .ok method
  | none => .error (.noSignature signature)

/-- The function that a call of `method` with `count` arguments means. -/
def select (abi : Interface) (method : String) (count : Nat) : Except SelectError Method :=
  if isSignature method then abi.ofSignature method
  else match abi.overloads method with
    | [] => .error (.noName method)
    | overloads =>
      match overloads.filter (·.inputs.length = count) with
      | [method] => .ok method
      | [] => .error (.noOverload method count)
      | _ => .error (.ambiguous method count)

/-- The selector, under a hash, of the function that a name or a signature means. -/
def selectorBy (hash : Bytes → Hash) (abi : Interface) (method : String) :
    Except SelectError Selector :=
  if isSignature method then (abi.ofSignature method).map fun m => .ofText hash m.signature
  else match abi.overloads method with
    | [] => .error (.noName method)
    | [m] => .ok (.ofText hash m.signature)
    | _ => .error (.overloaded method)

/-- The selector of the function that a name or a signature means. -/
def selector (abi : Interface) (method : String) : Except SelectError Selector :=
  abi.selectorBy keccak256 method

end Interface

/-- Combines each byte of an identifier with the byte at its place in a hash. -/
def combineBytes (id : Bytes) (hash : Hash) : Bytes :=
  List.zipWith (· ^^^ ·) id (hash.toBytes.take 4)

/-- The identifier, under a hash, of the interface of the functions with these signatures: the first
bytes of the hashes of all signatures combined. -/
def interfaceIdBy (hash : Bytes → Hash) (signatures : List String) : Selector :=
  .ofBytes (signatures.foldl (fun id signature => combineBytes id (hash (Utf8.encode signature)))
    [0, 0, 0, 0])

/-- The identifier of an interface. -/
def interfaceId (signatures : List String) : Selector :=
  interfaceIdBy keccak256 signatures

/-- The hash under which an interface is registered by name. -/
def interfaceHash (name : String) : Hash :=
  keccak256 (Utf8.encode name)

end ContractHarness
