import ContractHarness.Deployment.Cache
import ContractHarness.Rehearsal.Registry

/-!
# Callers that take turns

A schedule rehearses what callers of a deployment cache do to each other. Each caller waits for the
outcome of one piece of work, and the work goes on whenever one of those who wait for it has a turn.
The callers have their turns in the order in which they came, over and over, until no one gets an
outcome any more.

Each piece of work needs at most three turns of its own before it is settled, and takes them all in
one turn of a caller unless it is held back at a gate.
-/

set_option autoImplicit false

namespace ContractHarness.Rehearsal

/-- The call whose answer a piece of work waits for. -/
def RegistryCall.awaitedBy? (w : Work) : Option RegistryCall :=
  match w.stage with
  | .lookingUp => some (.lookUp w.request.name w.request.key)
  | .deploying => some (.deploy w.request.name w.request.args)
  | _ => none

/-- What a caller is about. -/
inductive Waiting where
  /-- The caller has not had a turn. A demand for a new instance evicts the entry first. -/
  | toAsk (request : DeploymentRequest) (evicts : Bool)
  /-- The caller waits for work. -/
  | onWork (id : Nat)

/-- A caller of a cache. -/
structure Caller where
  name : String
  /-- The number of the cache that it asks. -/
  cache : Nat
  waiting : Waiting

/-- What a caller got: an error, or a contract with the number of those who share it. -/
structure Answer where
  caller : String
  result : Except ErrorChain (Contract × Nat)

/-- A piece of work in one of the caches. -/
abbrev WorkKey := Nat × Nat

/-- Callers, caches and the registry behind them. -/
structure Schedule where
  directory : Directory := {}
  /-- The caches, of which the last one is asked by new callers. -/
  caches : List DeploymentCache := [.empty]
  thresholds : Report.Thresholds := .default
  callers : List Caller := []
  /-- The ticket that a piece of work waits with. -/
  tickets : OrderedMap WorkKey Ticket := ∅
  /-- The work whose contracts were answered, in the order of their first answer. -/
  shared : List WorkKey := []

namespace Schedule

variable {ε : Type}

/-- A piece of work. -/
def work? (s : Schedule) (key : WorkKey) : Option Work :=
  (s.caches[key.1]?).bind (·.work? key.2)

/-- Changes a cache. -/
def updateCache (s : Schedule) (cache : Nat) (f : DeploymentCache → DeploymentCache) : Schedule :=
  { s with caches := s.caches.modify cache f }

/-- Makes the call that a stage waits for. -/
def placeCall (s : Schedule) (key : WorkKey) : Schedule :=
  match s.work? key with
  | none => s
  | some w =>
    match RegistryCall.awaitedBy? w with
    | none => s
    | some call =>
      let (ticket, directory) := s.directory.place call
      { s with directory, tickets := s.tickets.insert key ticket }

/-- Puts work back that was gone on with. -/
def putWork (s : Schedule) (key : WorkKey) (w : Work) : Schedule :=
  s.updateCache key.1 (·.update key.2 fun _ => w)

/-- Goes on with work that waits for a deployment whose answer is there. -/
def receiveDeployment (key : WorkKey) (w : Work) (number : Nat) : Action Schedule ε Unit := do
  let s ← Action.look
  let (answer, directory) := s.directory.deploy w.request.name number
  Action.change fun s => { s with directory }
  let w ← (w.deployed Directory.setAsDeployed s.thresholds answer).within
    Schedule.directory fun s directory => { s with directory }
  Action.change fun s => s.putWork key w

/-- A turn of a piece of work. -/
def turn (key : WorkKey) : Action Schedule ε Unit := do
  let s ← Action.look
  match s.work? key with
  | none => pure ()
  | some w =>
    let ticket := (s.tickets.get? key).getD ⟨none, 0⟩
    match w.stage with
    | .fresh =>
      Action.change fun s => (s.putWork key w.begin).placeCall key
    | .lookingUp =>
      if s.directory.isOpen ticket then
        let answer := s.directory.lookUp w.request.name w.request.key
        Action.change fun s => (s.putWork key (w.lookedUp answer)).placeCall key
    | .deploying =>
      if s.directory.isOpen ticket then receiveDeployment key w ticket.number
    | .settled _ => pure ()

/-- The number of those who share the contract of a piece of work. -/
def share (s : Schedule) (key : WorkKey) : Nat × Schedule :=
  match s.shared.idxOf? key with
  | some number => (number, s)
  | none => (s.shared.length, { s with shared := s.shared ++ [key] })

/-- What a caller gets when its work is settled. -/
def answer? (caller : Caller) (key : WorkKey) : Action Schedule ε (Option Answer) := fun s =>
  match (s.work? key).bind (·.stage.outcome?) with
  | none => ⟨.ok none, s, []⟩
  | some (.error chain) => ⟨.ok (some ⟨caller.name, .error chain⟩), s, []⟩
  | some (.ok contract) =>
    let (number, s) := s.share key
    ⟨.ok (some ⟨caller.name, .ok (contract, number)⟩), s, []⟩

/-- Asks the cache of a caller that has not asked yet. -/
def ask (caller : Caller) : Action Schedule ε Caller := fun s =>
  match caller.waiting with
  | .onWork _ => ⟨.ok caller, s, []⟩
  | .toAsk request evicts =>
    match s.caches[caller.cache]? with
    | none => ⟨.ok caller, s, []⟩
    | some cache =>
      let (cache, id) :=
        if evicts then (cache.evict request.slot).obtain { request with redeploy := true }
        else cache.obtain request
      ⟨.ok { caller with waiting := .onWork id }, s.updateCache caller.cache fun _ => cache, []⟩

/-- A turn of a caller: it goes away with an answer, or goes on waiting. -/
def poll (caller : Caller) : Action Schedule ε (Caller ⊕ Answer) := do
  let caller ← ask caller
  match caller.waiting with
  | .toAsk _ _ => return .inl caller
  | .onWork id =>
    let key := (caller.cache, id)
    turn key
    turn key
    turn key
    match ← answer? caller key with
    | some answer => return .inr answer
    | none => return .inl caller

/-- A turn of each of the callers: those who go on waiting, and the answers. -/
def pass : List Caller → Action Schedule ε (List Caller × List Answer)
  | [] => pure ([], [])
  | caller :: rest => do
    match ← poll caller with
    | .inl caller =>
      let (waiting, answers) ← pass rest
      return (caller :: waiting, answers)
    | .inr answer =>
      let (waiting, answers) ← pass rest
      return (waiting, answer :: answers)

/-- Turns of the callers until no one gets an answer, at most as often as `fuel` says. -/
def passes : (fuel : Nat) → List Caller → Action Schedule ε (List Caller × List Answer)
  | 0, callers => pure (callers, [])
  | fuel + 1, callers => do
    let (waiting, answers) ← pass callers
    if answers.isEmpty then return (waiting, [])
    let (waiting, more) ← passes fuel waiting
    return (waiting, answers ++ more)

/-- Lets the callers have their turns. Every round but the last answers someone, so there is one
more round than callers at most. -/
def settle : Action Schedule ε (List Answer) := do
  let callers := (← Action.look).callers
  let (waiting, answers) ← passes (callers.length + 1) callers
  Action.change fun s => { s with callers := waiting }
  return answers

/-! ## What happens between the turns -/

/-- A caller comes. -/
def come (s : Schedule) (name : String) (request : DeploymentRequest) (evicts : Bool) : Schedule :=
  let caller : Caller := ⟨name, s.caches.length - 1, .toAsk request evicts⟩
  { s with callers := s.callers ++ [caller] }

/-- The callers of a name go away. -/
def leave (s : Schedule) (name : String) : Schedule :=
  { s with callers := s.callers.filter (·.name ≠ name) }

/-- New callers ask an empty cache. -/
def renewCache (s : Schedule) : Schedule :=
  { s with caches := s.caches ++ [.empty] }

end Schedule

end ContractHarness.Rehearsal
