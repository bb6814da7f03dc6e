import ContractHarness.Node

/-!
# Requests to a node

What the harness asks of a node shows when the node keeps a record of it. The record is a part of
the world that no answer depends on, so that a recorded node answers as the node does.
-/

set_option autoImplicit false

namespace ContractHarness

variable {σ ε α : Type}

/-- What a node is asked. -/
inductive Node.Request where
  | execution (t : Transaction)
  | call (t : Transaction)
  | receipt (transaction : Hash)
  | code (address : Address)
deriving DecidableEq, Repr

/-- The outcome, with a record beside the world. -/
def Outcome.recorded (o : Outcome σ ε α) (requests : List Node.Request) :
    Outcome (σ × List Node.Request) ε α :=
  ⟨o.result, (o.world, requests), o.notices⟩

namespace Node

/-- An answer whose request is noted behind the requests before. -/
def noted (answer : Action σ ε α) (request : Request) : Action (σ × List Request) ε α :=
  answer.within Prod.fst fun world chain => (chain, world.2 ++ [request])

/-- The node with a record of what it was asked. -/
def recorded (node : Node σ) : Node (σ × List Request) where
  defaultAccount := node.defaultAccount
  execute t := noted (node.execute t) (.execution t)
  call t := noted (node.call t) (.call t)
  receipt h := noted (node.receipt h) (.receipt h)
  codeAt a := noted (node.codeAt a) (.code a)

variable {node : Node σ} {chain : σ} {requests : List Request}

/-- The recorded node has the account of the node. -/
@[simp] theorem defaultAccount_recorded : node.recorded.defaultAccount = node.defaultAccount := rfl

/-- The recorded node executes as the node does and notes the execution. -/
@[simp] theorem run_execute_recorded (t : Transaction) :
    (node.recorded.execute t).run (chain, requests) =
      ((node.execute t).run chain).recorded (requests ++ [.execution t]) := rfl

/-- The recorded node calls as the node does and notes the call. -/
@[simp] theorem run_call_recorded (t : Transaction) :
    (node.recorded.call t).run (chain, requests) =
      ((node.call t).run chain).recorded (requests ++ [.call t]) := rfl

end Node

end ContractHarness
