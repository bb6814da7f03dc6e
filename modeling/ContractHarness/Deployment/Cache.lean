import ContractHarness.Deployment.Work
import ContractHarness.OrderedMap

/-!
# The deployment cache

Whoever asks for a contract under the same name and address shares one piece of work with everyone
else who asks for it, and gets the same outcome, a failure as well as a contract. Work is numbered
in the order in which it was installed; an entry of the cache is the number of the work that answers
a name and address now.

Work leaves its entry when a new instance is demanded. From then on it is superseded: those who wait
for it still get its outcome, but what it deploys does not become the canonical instance. A demand
for a new instance is made in two steps, `evict` and `obtain`, between which others may take a turn.
-/

set_option autoImplicit false

namespace ContractHarness

/-- What a contract is cached under. -/
abbrev CacheKey := ArtifactName × AddressKey

/-- The key of a request. -/
def DeploymentRequest.slot (r : DeploymentRequest) : CacheKey :=
  (r.name, r.key)

/-- All work that was ever installed, and which of it is current. -/
structure DeploymentCache where
  works : List Work := []
  entries : OrderedMap CacheKey Nat := ∅

namespace DeploymentCache

variable {σ : Type}

/-- A cache in which nothing was asked for. -/
def empty : DeploymentCache := {}

/-- The work with a number. -/
def work? (cache : DeploymentCache) (id : Nat) : Option Work :=
  cache.works[id]?

/-- Changes the work with a number. -/
def update (cache : DeploymentCache) (id : Nat) (f : Work → Work) : DeploymentCache :=
  { cache with works := cache.works.modify id f }

/-- Marks work as superseded. -/
def supersede (cache : DeploymentCache) (id : Nat) : DeploymentCache :=
  cache.update id fun w => { w with superseded := true }

/-- Marks the work of an entry as superseded, if there is one. -/
def supersedeEntry (cache : DeploymentCache) (slot : CacheKey) : DeploymentCache :=
  match cache.entries.get? slot with
  | some id => cache.supersede id
  | none => cache

/-- Removes an entry. -/
def evict (cache : DeploymentCache) (slot : CacheKey) : DeploymentCache :=
  { cache.supersedeEntry slot with entries := cache.entries.erase slot }

/-- Installs work on a request in the place of what was there. -/
def install (cache : DeploymentCache) (r : DeploymentRequest) : DeploymentCache × Nat :=
  let superseded := cache.supersedeEntry r.slot
  ({ works := superseded.works ++ [{ request := r }]
     entries := cache.entries.insert r.slot cache.works.length }, cache.works.length)

/-- The work that answers a request: the current one, unless there is none or a new instance is
demanded. -/
def obtain (cache : DeploymentCache) (r : DeploymentRequest) : DeploymentCache × Nat :=
  match cache.entries.get? r.slot with
  | some id => if r.redeploy then cache.install r else (cache, id)
  | none => cache.install r

/-- Begins work. -/
def begin (cache : DeploymentCache) (id : Nat) : DeploymentCache :=
  cache.update id Work.begin

/-- Goes on with work when its lookup is answered. -/
def lookedUp (cache : DeploymentCache) (id : Nat) (answer : Except LookupError Contract) :
    DeploymentCache :=
  cache.update id (·.lookedUp answer)

/-- The outcome of work that is settled. -/
def outcome? (cache : DeploymentCache) (id : Nat) : Option (Except ErrorChain Contract) :=
  (cache.work? id).bind (·.stage.outcome?)

/-! ## With a registry that answers at once -/

/-- Does an action to the world beside a cache. -/
def beside {ε α : Type} (x : Action σ ε α) : Action (DeploymentCache × σ) ε α :=
  x.within Prod.snd fun world s => (world.1, s)

/-- Does what is left of the work with a number, and keeps its outcome. -/
def await (registry : Registry σ) (thresholds : Report.Thresholds) (id : Nat) (w : Work) :
    Action (DeploymentCache × σ) Failure Contract := do
  let outcome ← beside (w.finish registry thresholds).attempt
  Action.change fun world =>
    (world.1.update id fun w => { w with stage := .settled outcome }, world.2)
  .ofExcept (outcome.mapError .deployment)

/-- The contract of a request, with the number of the work that it comes from. -/
def get (registry : Registry σ) (thresholds : Report.Thresholds) (r : DeploymentRequest) :
    Action (DeploymentCache × σ) Failure (Contract × Nat) := do
  let (cache, id) := (← Action.look).1.obtain r
  Action.change fun world => (cache, world.2)
  return (← await registry thresholds id ((cache.work? id).getD { request := r }), id)

/-- A new contract for a request, with the number of the work that it comes from. -/
def redeploy (registry : Registry σ) (thresholds : Report.Thresholds) (r : DeploymentRequest) :
    Action (DeploymentCache × σ) Failure (Contract × Nat) := do
  Action.change fun world => (world.1.evict r.slot, world.2)
  get registry thresholds { r with redeploy := true }

end DeploymentCache

end ContractHarness
