import ContractHarness.Proofs.Deployment.Entries
import ContractHarness.Rehearsal.Schedule

/-!
# Interleavings of the calls of a cache

Any number of callers ask one deployment cache for contracts, and the work of the cache goes on
beside them. What happens between two points at which someone waits is one move: a locked section of
a call, or what a piece of work does with the answer of the registry until it waits for the next
one. The moves of the callers and of the work alternate in any order, the registry may answer what
it likes and when it likes, and it may change between the moves.

The registry is a world `σ` of which only `setAsDeployed` acts within a move; lookups and
deployments are asked for in one move and answered in a later one. `State.record` keeps the calls of
the registry with the number of the work that they were made for. It is read by no move.

A run is the list of its states, the last one first, so that a condition on a move can speak of what
happened before. `Step.evolves` and `Step.installed` say all that a move does to the work of a
cache; what a whole run keeps is proved from them.
-/

set_option autoImplicit false

namespace ContractHarness

open Rehearsal (RegistryCall)

variable {σ : Type}

/-! ## What becomes of a deployed contract -/

namespace Work

variable {w : Work}

/-- What work is settled with when its contract was set as deployed with a result. -/
def adopted (w : Work) (contract : Contract) :
    Except ErrorChain Unit → Except ErrorChain Contract
  | .ok () => .ok contract
  | .error e => .error (e.context s!"Failed to set {w.request.name} as deployed")

/-- A contract that does not become canonical is the result, and the world stays as it is. -/
theorem run_adopt_of_not_adopts (h : w.adopts = false)
    (set : Contract → Action σ ErrorChain Unit) (thresholds : Report.Thresholds)
    (contract : Contract) (world : σ) :
    ((w.adopt set thresholds contract).run world).result = .ok contract ∧
      ((w.adopt set thresholds contract).run world).world = world := by
  unfold adopt
  rw [h]
  exact ⟨rfl, rfl⟩

/-- A contract that is to become canonical is set as deployed, and all else is telling. -/
theorem run_adopt_of_adopts (h : w.adopts = true)
    (set : Contract → Action σ ErrorChain Unit) (thresholds : Report.Thresholds)
    (contract : Contract) (world : σ) :
    ((w.adopt set thresholds contract).run world).result =
        w.adopted contract ((set contract).run world).result ∧
      ((w.adopt set thresholds contract).run world).world = ((set contract).run world).world := by
  unfold adopt adopted
  rw [if_pos h, Action.run_bind, Action.run_context]
  cases ((set contract).run world).result with
  | ok u => exact ⟨rfl, rfl⟩
  | error e => exact ⟨rfl, rfl⟩

end Work

namespace Deployment

/-! ## States, moves and runs -/

/-- How far a call of the cache is. -/
inductive Progress where
  /-- The entry is to be evicted before a new instance is demanded. -/
  | evicting (request : DeploymentRequest)
  /-- The work that answers the request is to be obtained. -/
  | obtaining (request : DeploymentRequest)
  /-- The call waits for work. -/
  | holding (work : Nat)
  /-- The call has returned with the outcome of its work. -/
  | answered (work : Nat) (outcome : Except ErrorChain Contract)
  /-- The caller went away. -/
  | gone

/-- A cache with its callers, in front of the world of a registry. -/
structure State (σ : Type) where
  world : σ
  cache : DeploymentCache := .empty
  callers : List Progress := []
  /-- The calls of the registry, each with the number of the work that it was made for. -/
  record : List (Nat × RegistryCall) := []

/-- What happens between two points at which someone waits. -/
inductive Move (σ : Type) where
  /-- Someone calls, to get a contract or to have the old one evicted first. -/
  | come (request : DeploymentRequest) (evicts : Bool)
  /-- The first locked section of a demand for a new instance. -/
  | evict (caller : Nat)
  /-- The locked section in which a call obtains its work. -/
  | obtain (caller : Nat)
  /-- A call returns with the outcome of its work. -/
  | receive (caller : Nat)
  /-- A caller goes away. -/
  | leave (caller : Nat)
  /-- Work is begun. -/
  | begin (work : Nat)
  /-- The lookup of a piece of work is answered. -/
  | lookedUp (work : Nat) (answer : Except LookupError Contract)
  /-- The deployment of a piece of work is answered. -/
  | deployed (work : Nat) (answer : Except ErrorChain Contract)
  /-- The registry changes by itself. -/
  | elsewhere (world : σ)

namespace State

/-- Puts work back that was gone on with, and makes the call that it waits for now. -/
def proceed (s : State σ) (id : Nat) (w : Work) : State σ :=
  { s with
    cache := s.cache.update id fun _ => w
    record := s.record ++ (RegistryCall.awaitedBy? w).toList.map (id, ·) }

/-- Sets a contract as deployed for a piece of work. -/
def setAsDeployed (set : Contract → Action σ ErrorChain Unit) (id : Nat) (contract : Contract) :
    Action (State σ) ErrorChain Unit := do
  Action.change fun s => { s with record := s.record ++ [(id, .setAsDeployed contract)] }
  (set contract).within State.world fun s world => { s with world }

/-- Goes on with work whose deployment is answered. -/
def receiveDeployment (set : Contract → Action σ ErrorChain Unit)
    (thresholds : Report.Thresholds) (id : Nat) (w : Work)
    (answer : Except ErrorChain Contract) : Action (State σ) ErrorChain Unit := do
  let w ← w.deployed (setAsDeployed set id) thresholds answer
  Action.change fun s => s.proceed id w

/-- The calls of the registry that were made for a piece of work, in order. -/
def callsOf (s : State σ) (id : Nat) : List RegistryCall :=
  (s.record.filter (·.1 = id)).map Prod.snd

end State

variable (set : Contract → Action σ ErrorChain Unit) (thresholds : Report.Thresholds)

/-- The moves that can be made in a state, and where they lead. -/
inductive Step : State σ → Move σ → State σ → Prop where
  | come (s : State σ) (r : DeploymentRequest) (evicts : Bool) :
    Step s (.come r evicts)
      { s with callers := s.callers ++ [if evicts then .evicting r else .obtaining r] }
  | evict {s : State σ} {i : Nat} {r : DeploymentRequest}
    (waits : s.callers[i]? = some (.evicting r)) :
    Step s (.evict i)
      { s with
        cache := s.cache.evict r.slot
        callers := s.callers.set i (.obtaining { r with redeploy := true }) }
  | obtain {s : State σ} {i : Nat} {r : DeploymentRequest}
    (waits : s.callers[i]? = some (.obtaining r)) :
    Step s (.obtain i)
      { s with
        cache := (s.cache.obtain r).1
        callers := s.callers.set i (.holding (s.cache.obtain r).2) }
  | receive {s : State σ} {i id : Nat} {outcome : Except ErrorChain Contract}
    (waits : s.callers[i]? = some (.holding id)) (settled : s.cache.outcome? id = some outcome) :
    Step s (.receive i) { s with callers := s.callers.set i (.answered id outcome) }
  | leave (s : State σ) (i : Nat) :
    Step s (.leave i) { s with callers := s.callers.set i .gone }
  | begin {s : State σ} {id : Nat} {w : Work}
    (found : s.cache.work? id = some w) (stage : w.stage = .fresh) :
    Step s (.begin id) (s.proceed id w.begin)
  | lookedUp {s : State σ} {id : Nat} {w : Work} (answer : Except LookupError Contract)
    (found : s.cache.work? id = some w) (stage : w.stage = .lookingUp) :
    Step s (.lookedUp id answer) (s.proceed id (w.lookedUp answer))
  | deployed {s : State σ} {id : Nat} {w : Work} (answer : Except ErrorChain Contract)
    (found : s.cache.work? id = some w) (stage : w.stage = .deploying) :
    Step s (.deployed id answer) ((State.receiveDeployment set thresholds id w answer).run s).world
  | elsewhere (s : State σ) (world : σ) :
    Step s (.elsewhere world) { s with world }

/-- The runs of which every move keeps to a law, from a cache in which nothing was asked for. -/
inductive Run (law : List (State σ) → Move σ → Prop) : List (State σ) → Prop where
  | start (world : σ) : Run law [{ world }]
  | step {s s' : State σ} {past : List (State σ)} {m : Move σ} (before : Run law (s :: past))
    (made : Step set thresholds s m s') (lawful : law (s :: past) m) : Run law (s' :: s :: past)

/-- The runs of a cache in front of any registry. -/
abbrev AnyRun : List (State σ) → Prop :=
  Run set thresholds fun _ _ => True

variable {set thresholds}
variable {s s' : State σ} {m : Move σ} {id j : Nat} {w w' : Work}

/-! ## What a move does -/

namespace State

/-- To go on with work leaves the world as it is. -/
@[simp] theorem world_proceed : (s.proceed id w).world = s.world := rfl

/-- To go on with work leaves the callers as they are. -/
@[simp] theorem callers_proceed : (s.proceed id w).callers = s.callers := rfl

/-- To go on with work puts it back in its place. -/
@[simp] theorem cache_proceed : (s.proceed id w).cache = s.cache.update id fun _ => w := rfl

/-- Work that goes on makes the call that it waits for, and no other work makes a call. -/
theorem callsOf_proceed :
    (s.proceed id w).callsOf j =
      s.callsOf j ++ if id = j then (RegistryCall.awaitedBy? w).toList else [] := by
  unfold callsOf proceed
  rw [List.filter_append, List.map_append]
  cases RegistryCall.awaitedBy? w <;> by_cases h : id = j <;> simp [h]

/-- The result of work whose deployment is answered. -/
def deploymentResult (set : Contract → Action σ ErrorChain Unit) (s : State σ) (w : Work) :
    Except ErrorChain Contract → Except ErrorChain Contract
  | .ok contract =>
    if w.adopts then w.adopted contract ((set contract).run s.world).result else .ok contract
  | .error e => .error e

/-- The state in which the contract of an answered deployment is set as deployed, if it is to be. -/
def afterDeployment (set : Contract → Action σ ErrorChain Unit) (s : State σ) (id : Nat)
    (w : Work) : Except ErrorChain Contract → State σ
  | .ok contract =>
    if w.adopts then
      { s with
        world := ((set contract).run s.world).world
        record := s.record ++ [(id, .setAsDeployed contract)] }
    else s
  | .error _ => s

/-- To set a contract as deployed leaves the cache as it is. -/
@[simp] theorem cache_afterDeployment (answer : Except ErrorChain Contract) :
    (s.afterDeployment set id w answer).cache = s.cache := by
  unfold afterDeployment
  split
  · split <;> rfl
  · rfl

/-- To set a contract as deployed leaves the callers as they are. -/
@[simp] theorem callers_afterDeployment (answer : Except ErrorChain Contract) :
    (s.afterDeployment set id w answer).callers = s.callers := by
  unfold afterDeployment
  split
  · split <;> rfl
  · rfl

/-- Work whose deployment is answered adopts the contract if it is to, and is settled. -/
theorem world_receiveDeployment (hstage : w.stage = .deploying)
    (answer : Except ErrorChain Contract) :
    ((receiveDeployment set thresholds id w answer).run s).world =
      (s.afterDeployment set id w answer).proceed id
        (w.settle (s.deploymentResult set w answer)) := by
  unfold receiveDeployment Work.deployed
  rw [hstage]
  cases answer with
  | error e => rfl
  | ok contract =>
    show State.proceed ((w.adopt (setAsDeployed set id) thresholds contract).run s).world id
      (w.settle ((w.adopt (setAsDeployed set id) thresholds contract).run s).result) = _
    unfold afterDeployment deploymentResult
    cases hadopts : w.adopts with
    | false =>
      obtain ⟨hresult, hworld⟩ :=
        Work.run_adopt_of_not_adopts hadopts (setAsDeployed set id) thresholds contract s
      rw [hresult, hworld]
      rfl
    | true =>
      obtain ⟨hresult, hworld⟩ :=
        Work.run_adopt_of_adopts hadopts (setAsDeployed set id) thresholds contract s
      rw [hresult, hworld]
      rfl

end State

/-- How a move can change a piece of work that was there before it. -/
inductive Evolves (set : Contract → Action σ ErrorChain Unit) (s : State σ) (id : Nat) :
    Move σ → Work → Work → Prop where
  | stays {m : Move σ} {w w' : Work} (request : w'.request = w.request)
    (stage : w'.stage = w.stage) (mark : w.superseded = true → w'.superseded = true) :
    Evolves set s id m w w'
  | begins {w : Work} (stage : w.stage = .fresh) : Evolves set s id (.begin id) w w.begin
  | lookedUp {w : Work} (answer : Except LookupError Contract) (stage : w.stage = .lookingUp) :
    Evolves set s id (.lookedUp id answer) w (w.lookedUp answer)
  | deployed {w : Work} (answer : Except ErrorChain Contract) (stage : w.stage = .deploying) :
    Evolves set s id (.deployed id answer) w (w.settle (s.deploymentResult set w answer))

/-- A move need not change a piece of work. -/
@[simp] theorem Evolves.refl : Evolves set s id m w w := .stays rfl rfl fun h => h

/-- To begin work keeps its request. -/
theorem request_begin (w : Work) : w.begin.request = w.request := by
  unfold Work.begin
  split <;> rfl

/-- To begin work keeps its mark. -/
theorem superseded_begin (w : Work) : w.begin.superseded = w.superseded := by
  unfold Work.begin
  split <;> rfl

/-- The answer of a lookup keeps the request of the work. -/
theorem request_lookedUp (w : Work) (answer : Except LookupError Contract) :
    (w.lookedUp answer).request = w.request := by
  unfold Work.lookedUp Work.settle
  split
  · split <;> rfl
  · rfl

/-- The answer of a lookup keeps the mark of the work. -/
theorem superseded_lookedUp (w : Work) (answer : Except LookupError Contract) :
    (w.lookedUp answer).superseded = w.superseded := by
  unfold Work.lookedUp Work.settle
  split
  · split <;> rfl
  · rfl

/-- No move changes the request of work. -/
theorem Evolves.request (h : Evolves set s id m w w') : w'.request = w.request := by
  cases h with
  | stays request => exact request
  | begins => exact request_begin w
  | lookedUp answer => exact request_lookedUp w answer
  | deployed answer => rfl

/-- No move changes the key of work. -/
theorem Evolves.slot (h : Evolves set s id m w w') : w'.request.slot = w.request.slot := by
  rw [h.request]

/-- Work that is superseded stays so. -/
theorem Evolves.superseded (h : Evolves set s id m w w') (hw : w.superseded = true) :
    w'.superseded = true := by
  cases h with
  | stays _ _ mark => exact mark hw
  | begins => rw [superseded_begin, hw]
  | lookedUp answer => rw [superseded_lookedUp, hw]
  | deployed answer => exact hw

/-- Work that is settled keeps its outcome. -/
theorem Evolves.settled (h : Evolves set s id m w w') {x : Except ErrorChain Contract}
    (hw : w.stage = .settled x) : w'.stage = .settled x := by
  cases h with
  | stays _ stage => rw [stage, hw]
  | begins stage => simp [hw] at stage
  | lookedUp _ stage => simp [hw] at stage
  | deployed _ stage => simp [hw] at stage

/-- When one piece of work is gone on with, every piece of work has changed as it may. -/
theorem evolves_proceed {t : State σ} {v v' : Work} (hv : t.cache.work? j = some v)
    (hevolves : Evolves set s j m v v') (hw : t.cache.work? id = some w) :
    ∃ w', (t.proceed j v').cache.work? id = some w' ∧ Evolves set s id m w w' := by
  rw [State.cache_proceed, DeploymentCache.work?_update]
  by_cases h : j = id
  · subst h
    rw [if_pos rfl, hw]
    rw [hv, Option.some.injEq] at hw
    subst hw
    exact ⟨v', rfl, hevolves⟩
  · rw [if_neg h]
    exact ⟨w, hw, .refl⟩

/-- Marking an entry keeps a piece of work where it is, but for the mark. -/
theorem evolves_supersedeEntry {cache : DeploymentCache} {slot : CacheKey}
    (hw : cache.work? id = some w) :
    ∃ w', (cache.supersedeEntry slot).work? id = some w' ∧ Evolves set s id m w w' := by
  rw [DeploymentCache.work?_supersedeEntry, hw]
  refine ⟨_, rfl, ?_⟩
  split
  · exact .stays rfl rfl fun _ => rfl
  · exact .refl

/-- What a move does to work that is there. -/
theorem Step.evolves (step : Step set thresholds s m s') (hw : s.cache.work? id = some w) :
    ∃ w', s'.cache.work? id = some w' ∧ Evolves set s id m w w' := by
  cases step with
  | come r evicts => exact ⟨w, hw, .refl⟩
  | evict waits => exact evolves_supersedeEntry hw
  | @obtain i r waits =>
    rcases DeploymentCache.obtain_cases s.cache r with ⟨j, -, -, h⟩ | ⟨-, h⟩
    · exact ⟨w, by rw [h]; exact hw, .refl⟩
    · -- the number of the new work was free
      rw [h, DeploymentCache.work?_install,
        if_neg (Nat.ne_of_lt (DeploymentCache.lt_of_work? hw))]
      exact evolves_supersedeEntry hw
  | receive waits settled => exact ⟨w, hw, .refl⟩
  | leave i => exact ⟨w, hw, .refl⟩
  | begin found stage => exact evolves_proceed found (.begins stage) hw
  | lookedUp answer found stage => exact evolves_proceed found (.lookedUp answer stage) hw
  | deployed answer found stage =>
    rw [State.world_receiveDeployment stage]
    apply evolves_proceed _ (.deployed answer stage)
    · rw [State.cache_afterDeployment]
      exact hw
    · rw [State.cache_afterDeployment]
      exact found
  | elsewhere world => exact ⟨w, hw, .refl⟩

/-- Work that is there before a move and after it has changed as it may. -/
theorem Step.evolves_to (step : Step set thresholds s m s') (hw : s.cache.work? id = some w)
    (hw' : s'.cache.work? id = some w') : Evolves set s id m w w' := by
  obtain ⟨v, hv, h⟩ := step.evolves hw
  obtain rfl := Option.some.inj (hw'.symm.trans hv)
  exact h

/-- To go on with work adds none. -/
theorem work?_proceed_eq_none {t : State σ} {v' : Work} (h : t.cache.work? id = none)
    (hv : t.cache.work? j ≠ none) : (t.proceed j v').cache.work? id = none := by
  rw [State.cache_proceed, DeploymentCache.work?_update, if_neg, h]
  rintro rfl
  exact hv h

/-- Work that was not there before a move is what a call obtained by it, and has the next number. -/
theorem Step.installed (step : Step set thresholds s m s') (hnone : s.cache.work? id = none)
    (hw : s'.cache.work? id = some w) :
    ∃ i r, m = .obtain i ∧ s.callers[i]? = some (.obtaining r) ∧ id = s.cache.works.length ∧
      w = { request := r } ∧ (r.redeploy = true ∨ s.cache.entries.get? r.slot = none) := by
  have hmark : ∀ slot, (s.cache.supersedeEntry slot).work? id = none := by
    intro slot
    rw [DeploymentCache.work?_supersedeEntry, hnone]
    rfl
  cases step with
  | come r evicts => simp [hnone] at hw
  | evict waits => simp [DeploymentCache.work?_evict, hmark] at hw
  | @obtain i r waits =>
    rcases DeploymentCache.obtain_cases s.cache r with ⟨j, -, -, h⟩ | ⟨hnew, h⟩
    · simp [h, hnone] at hw
    · simp only [h, DeploymentCache.work?_install, hmark] at hw
      split at hw
      · next hid => exact ⟨i, r, rfl, waits, hid, (Option.some.inj hw).symm, hnew⟩
      · cases hw
  | receive waits settled => simp [hnone] at hw
  | leave i => simp [hnone] at hw
  | begin found stage =>
    rw [work?_proceed_eq_none hnone (by simp [found])] at hw
    cases hw
  | lookedUp answer found stage =>
    rw [work?_proceed_eq_none hnone (by simp [found])] at hw
    cases hw
  | deployed answer found stage =>
    rw [State.world_receiveDeployment stage,
      work?_proceed_eq_none (by simpa using hnone) (by simp [found])] at hw
    cases hw
  | elsewhere world => simp [hnone] at hw

/-- The entries change when an entry is evicted or work is obtained, and at no other time. -/
theorem Step.coherent (step : Step set thresholds s m s') (hc : s.cache.Coherent) :
    s'.cache.Coherent := by
  cases step with
  | come r evicts => exact hc
  | @evict i r waits => exact hc.evict r.slot
  | @obtain i r waits => exact hc.obtain r
  | receive waits settled => exact hc
  | leave i => exact hc
  | @begin id w found stage => exact hc.update found (request_begin w) (superseded_begin w)
  | @lookedUp id w answer found stage =>
    exact hc.update found (request_lookedUp w answer) (superseded_lookedUp w answer)
  | deployed answer found stage =>
    rw [State.world_receiveDeployment stage, State.cache_proceed, State.cache_afterDeployment]
    exact hc.update found rfl rfl
  | elsewhere world => exact hc

/-! ## What runs keep -/

variable {law : List (State σ) → Move σ → Prop} {past : List (State σ)} {u : State σ}

/-- What every move keeps holds from then on. -/
theorem Run.keeps {P : State σ → Prop} (hstep : ∀ {s m s'}, Step set thresholds s m s' → P s → P s')
    (run : Run set thresholds law (s :: past)) (hu : u ∈ s :: past) (h : P u) : P s := by
  generalize htrace : s :: past = trace at run hu
  induction run generalizing s past with
  | start world =>
    obtain ⟨rfl, rfl⟩ := List.cons.inj htrace
    obtain rfl := List.mem_singleton.mp hu
    exact h
  | step before made lawful ih =>
    obtain ⟨rfl, rfl⟩ := List.cons.inj htrace
    rcases List.mem_cons.mp hu with rfl | hu
    · exact h
    · exact hstep made (ih rfl hu)

/-- What holds of a cache in which nothing was asked for and is kept by every move holds always. -/
theorem Run.always {P : State σ → Prop} (hstart : ∀ world, P { world })
    (hstep : ∀ {s m s'}, Step set thresholds s m s' → P s → P s')
    (run : Run set thresholds law (s :: past)) : P s := by
  generalize htrace : s :: past = trace at run
  induction run generalizing s past with
  | start world =>
    obtain ⟨rfl, rfl⟩ := List.cons.inj htrace
    exact hstart world
  | step before made lawful ih =>
    obtain ⟨rfl, rfl⟩ := List.cons.inj htrace
    exact hstep made (ih rfl)

/-- What led to a state of a run is a run. -/
theorem Run.mem {trace : List (State σ)} (run : Run set thresholds law trace) (hu : u ∈ trace) :
    ∃ before, Run set thresholds law (u :: before) := by
  induction run with
  | start world =>
    obtain rfl := List.mem_singleton.mp hu
    exact ⟨[], .start world⟩
  | @step s s' past m before made lawful ih =>
    rcases List.mem_cons.mp hu with rfl | hu
    · exact ⟨s :: past, .step before made lawful⟩
    · exact ih hu

/-- The entries are always the work that is not superseded. -/
theorem Run.coherent (run : Run set thresholds law (s :: past)) : s.cache.Coherent :=
  run.always (fun _ => .empty) Step.coherent

/-- Work is never lost, stays on its request, and stays superseded. -/
theorem Run.work (run : Run set thresholds law (s :: past)) (hu : u ∈ s :: past)
    (hw : u.cache.work? id = some w) :
    ∃ w', s.cache.work? id = some w' ∧ w'.request = w.request ∧
      (w.superseded = true → w'.superseded = true) := by
  apply run.keeps (P := fun s => ∃ w', s.cache.work? id = some w' ∧ w'.request = w.request ∧
    (w.superseded = true → w'.superseded = true)) _ hu ⟨w, hw, rfl, fun h => h⟩
  rintro s m s' step ⟨v, hv, hrequest, hmark⟩
  obtain ⟨v', hv', hevolves⟩ := step.evolves hv
  exact ⟨v', hv', hevolves.request.trans hrequest, fun h => hevolves.superseded (hmark h)⟩

end Deployment

end ContractHarness
