import ContractHarness.Proofs.Artifact.Stages
import ContractHarness.Proofs.Deployment.Sharing

/-!
# Caches over one store

Any number of caches have one store behind them, which deploys through one node. A piece of work
makes a call of the store when it comes to a stage that waits for one. The store does at once what
it can do alone; the rest of the call is a task, which waits until the node has answered, and then
until the work is told. Before the node answers and before the work is told, the caches, the store
and the chain may have changed.

A site is all of this together. Each of its steps is a move of one cache, or the node answers what
one task asks, or the store and the chain change in a way that is not about the contracts that the
store knows. The ledger keeps what the node was asked, with the work that it was asked for. It is
read by no step.

`Step.docket` says all that a step can do to a piece of work, with what is kept about it, and
`Step.canonical` all that it can do to the canonical instances.
-/

set_option autoImplicit false

namespace ContractHarness

open Rehearsal (RegistryCall WorkKey)

variable {σ : Type}

namespace Deployment

/-- What the node was asked, and what it answered. -/
inductive Exchange where
  | code (address : Address) (answer : Except ErrorChain Bytes)
  | execution (transaction : Transaction) (answer : Except ErrorChain Receipt)

/-- How far a call of the store is. -/
inductive Task where
  /-- The node is to be asked for the code at the address of a handle. -/
  | code (candidate : Contract)
  /-- The lookup is answered. -/
  | found (answer : Except LookupError Contract)
  /-- The node is to execute the transaction that creates a contract. -/
  | receipt (creation : Creation)
  /-- The deployment is answered. -/
  | made (answer : Except ErrorChain Contract)

/-- A lookup that fails without the node is answered. -/
def Task.ofSought : Except LookupError Contract → Task
  | .ok c => .code c
  | .error e => .found (.error e)

/-- A deployment that fails without the node is answered. -/
def Task.ofPlanned : Except ErrorChain Creation → Task
  | .ok c => .receipt c
  | .error e => .made (.error e)

end Deployment

/-- The call that a piece of work makes at its stage, when the store has done what it can alone. -/
def Work.task? (w : Work) (workshop : Workshop σ) : Option Deployment.Task :=
  match w.stage with
  | .lookingUp => some (.ofSought (workshop.sought w.request.name w.request.key))
  | .deploying => some (.ofPlanned (workshop.planned w.request.name w.request.args))
  | .fresh | .settled _ => none

namespace Deployment

/-- The work that a move goes on with. -/
def Move.work? : Move σ → Option Nat
  | .begin id | .lookedUp id _ | .deployed id _ => some id
  | .come _ _ | .evict _ | .obtain _ | .receive _ | .leave _ | .elsewhere _ => none

/-- A cache with its callers, and the calls that it has made. -/
structure Desk where
  cache : DeploymentCache := .empty
  callers : List Progress := []
  record : List (Nat × RegistryCall) := []

/-- Caches over one store. -/
structure Site (σ : Type) where
  workshop : Workshop σ
  desks : Nat → Desk := fun _ => {}
  tasks : OrderedMap WorkKey Task := ∅
  ledger : List (WorkKey × Exchange) := []

namespace Site

/-- A store that no cache has asked for anything. -/
def start (workshop : Workshop σ) : Site σ := { workshop }

/-- One of the caches, in front of the store. -/
def state (s : Site σ) (k : Nat) : State (Workshop σ) where
  world := s.workshop
  cache := (s.desks k).cache
  callers := (s.desks k).callers
  record := (s.desks k).record

/-- Puts a cache back that has made a move. -/
def put (s : Site σ) (k : Nat) (t : State (Workshop σ)) : Site σ :=
  { s with
    workshop := t.world
    desks := fun j => if j = k then ⟨t.cache, t.callers, t.record⟩ else s.desks j }

/-- Makes the call that a piece of work waits for, if it waits for one. -/
def serve (s : Site σ) (key : WorkKey) : Site σ :=
  match (s.state key.1).cache.work? key.2 with
  | none => s
  | some w =>
    match w.task? s.workshop with
    | none => s
    | some task =>
      { s with
        workshop := s.workshop.asked w.request.name
        tasks := s.tasks.insert key task }

/-- The site when a cache has made a move. -/
def moved (s : Site σ) (k : Nat) (m : Move (Workshop σ)) (t : State (Workshop σ)) : Site σ :=
  match m.work? with
  | none => s.put k t
  | some id => (s.put k t).serve (k, id)

/-- Notes what the node has answered for a task. -/
def note (s : Site σ) (key : WorkKey) (workshop : Workshop σ) (exchange : Exchange)
    (task : Task) : Site σ :=
  { s with
    workshop
    tasks := s.tasks.insert key task
    ledger := s.ledger ++ [(key, exchange)] }

/-- Work is told what its task was answered, and the store does not change within a move. -/
def Tells (s : Site σ) (k : Nat) : Move (Workshop σ) → Prop
  | .lookedUp id answer => s.tasks.get? (k, id) = some (.found answer)
  | .deployed id answer => s.tasks.get? (k, id) = some (.made answer)
  | .elsewhere _ => False
  | _ => True

/-- What happens at a site. -/
inductive Event (σ : Type) where
  /-- A cache makes a move. -/
  | move (cache : Nat) (m : Move (Workshop σ))
  /-- The node tells the code that a task asks for. -/
  | code (key : WorkKey)
  /-- The node executes the transaction of a task. -/
  | receipt (key : WorkKey)
  /-- The store and the chain change by themselves. -/
  | elsewhere (workshop : Workshop σ)

/-- What the node answers about an address. -/
def codeAt (s : Site σ) (node : Node σ) (address : Address) :
    Outcome (Workshop σ) ErrorChain Bytes :=
  (Workshop.onChain (node.codeAt address)).run s.workshop

/-- What the node answers when it is sent the code of a contract. -/
def submit (s : Site σ) (node : Node σ) (code : Bytes) : Outcome (Workshop σ) ErrorChain Receipt :=
  (Workshop.submit node code).run s.workshop

/-- What can happen at a site, and where it leads. -/
inductive Step (node : Node σ) (thresholds : Report.Thresholds) :
    Site σ → Event σ → Site σ → Prop where
  | move {s : Site σ} {k : Nat} {m : Move (Workshop σ)} {t : State (Workshop σ)}
    (made : Deployment.Step Workshop.setAsDeployed thresholds (s.state k) m t)
    (told : s.Tells k m) : Step node thresholds s (.move k m) (s.moved k m t)
  | code {s : Site σ} {key : WorkKey} {c : Contract} (waits : s.tasks.get? key = some (.code c)) :
    Step node thresholds s (.code key)
      (s.note key (s.codeAt node c.address).world
        (.code c.address (s.codeAt node c.address).result)
        (.found (c.confirmedBy (s.codeAt node c.address).result)))
  | receipt {s : Site σ} {key : WorkKey} {c : Creation}
    (waits : s.tasks.get? key = some (.receipt c)) :
    Step node thresholds s (.receipt key)
      (s.note key (s.submit node c.code).world
        (.execution (c.transaction node.defaultAccount) (s.submit node c.code).result)
        (.made (c.createdBy (s.submit node c.code).result)))
  | elsewhere {s : Site σ} {workshop : Workshop σ}
    (held : ∀ name, workshop.holds name = s.workshop.holds name)
    (canonical : ∀ name, workshop.canonical name = s.workshop.canonical name) :
    Step node thresholds s (.elsewhere workshop) { s with workshop }

/-- A site gets from one state into another one. -/
inductive Reaches (node : Node σ) (thresholds : Report.Thresholds) : Site σ → Site σ → Prop where
  | refl (s : Site σ) : Reaches node thresholds s s
  | step {u s s' : Site σ} {e : Event σ} (before : Reaches node thresholds u s)
    (made : Step node thresholds s e s') : Reaches node thresholds u s'

end Site

/-- The world changes when the contract of current work is set as deployed, and by itself. -/
theorem Step.world_cases {set : Contract → Action σ ErrorChain Unit}
    {thresholds : Report.Thresholds} {s t : State σ} {m : Move σ}
    (step : Step set thresholds s m t) :
    (t.world = s.world ∧ ∀ id c, (id, .setAsDeployed c) ∈ t.record →
        (id, .setAsDeployed c) ∈ s.record) ∨
      (∃ id w c, m = .deployed id (.ok c) ∧ s.cache.work? id = some w ∧ w.stage = .deploying ∧
        w.adopts = true ∧ t.world = ((set c).run s.world).world ∧
        t.record = s.record ++ [(id, .setAsDeployed c)]) ∨
      ∃ world, m = .elsewhere world ∧ t = { s with world } := by
  have hsame : ∀ id c, (id, .setAsDeployed c) ∈ s.record → (id, .setAsDeployed c) ∈ s.record :=
    fun _ _ h => h
  cases step with
  | come r evicts => exact .inl ⟨rfl, hsame⟩
  | evict waits => exact .inl ⟨rfl, hsame⟩
  | obtain waits => exact .inl ⟨rfl, hsame⟩
  | receive waits settled => exact .inl ⟨rfl, hsame⟩
  | leave i => exact .inl ⟨rfl, hsame⟩
  | begin found stage => exact .inl ⟨rfl, fun _ _ => mem_record_of_proceed⟩
  | lookedUp answer found stage => exact .inl ⟨rfl, fun _ _ => mem_record_of_proceed⟩
  | @deployed id w answer found stage =>
    rw [State.world_receiveDeployment stage]
    cases answer with
    | error e => exact .inl ⟨rfl, fun _ _ => mem_record_of_proceed⟩
    | ok c =>
      cases hadopts : w.adopts with
      | false =>
        left
        have hafter : s.afterDeployment set id w (.ok c) = s := by
          simp [State.afterDeployment, hadopts]
        rw [hafter]
        exact ⟨rfl, fun _ _ => mem_record_of_proceed⟩
      | true =>
        right
        left
        refine ⟨id, w, c, rfl, found, stage, hadopts, ?_, ?_⟩
        · simp [State.afterDeployment, hadopts]
        · simp [State.afterDeployment, hadopts, State.proceed, Work.settle,
            RegistryCall.awaitedBy?]
  | elsewhere world => exact .inr (.inr ⟨world, rfl, rfl⟩)

namespace Site

variable {node : Node σ} {thresholds : Report.Thresholds}
variable {s s' u : Site σ} {e : Event σ} {k j id : Nat} {key other : WorkKey}
  {m : Move (Workshop σ)} {t : State (Workshop σ)} {name : ArtifactName}

/-- A site reaches the state that it is in. -/
theorem Reaches.here (_ : Reaches node thresholds u s) : Reaches node thresholds s s :=
  .refl s

/-- A site that reaches one state and from there another one reaches that one. -/
theorem Reaches.trans {v : Site σ} (h : Reaches node thresholds u s)
    (h' : Reaches node thresholds s v) : Reaches node thresholds u v := by
  induction h' with
  | refl => exact h
  | step before made ih => exact .step ih made

/-- A site may be described cache by cache. -/
theorem Reaches.congr {v : Site σ} (h : Reaches node thresholds u s)
    (hworkshop : s.workshop = v.workshop) (hdesks : ∀ k, s.desks k = v.desks k)
    (htasks : s.tasks = v.tasks) (hledger : s.ledger = v.ledger) :
    Reaches node thresholds u v := by
  have hsite : s = v := by
    obtain ⟨_, _, _, _⟩ := s
    obtain ⟨_, _, _, _⟩ := v
    cases hworkshop
    cases htasks
    cases hledger
    rw [Site.mk.injEq]
    exact ⟨rfl, funext hdesks, rfl, rfl⟩
  rw [← hsite]
  exact h

/-- What every step keeps holds from then on. -/
theorem Reaches.keeps {P : Site σ → Prop}
    (hstep : ∀ {s e s'}, Step node thresholds s e s' → P s → P s')
    (h : Reaches node thresholds u s) (hu : P u) : P s := by
  induction h with
  | refl => exact hu
  | step before made ih => exact hstep made ih

/-! ## Each of the caches -/

/-- A cache that is put back is in its place. -/
@[simp] theorem state_put_self : (s.put k t).state k = t := by
  simp [state, put]

/-- When a cache is put back, the others have what it has done to the store, and are otherwise as
they were. -/
theorem state_put_of_ne (h : j ≠ k) :
    (s.put k t).state j = { s.state j with world := t.world } := by
  simp [state, put, h]

/-- A call of the store changes no cache. -/
theorem desks_serve : (s.serve key).desks = s.desks := by
  unfold serve
  split
  · rfl
  · split <;> rfl

/-- A call of the store asks the node nothing. -/
theorem ledger_serve : (s.serve key).ledger = s.ledger := by
  unfold serve
  split
  · rfl
  · split <;> rfl

/-- A call of the store changes the state of a cache only by what the store has read. -/
theorem state_serve :
    (s.serve key).state k = { s.state k with world := (s.serve key).workshop } := by
  unfold state
  rw [desks_serve]

/-- The cache that moves is in the state that its move leads to, but for what the store has read. -/
theorem state_moved_self :
    (s.moved k m t).state k = { t with world := (s.moved k m t).workshop } := by
  unfold moved
  split
  · rw [state_put_self]
    rfl
  · rw [state_serve, state_put_self]

/-- The other caches have what a move has done to the store, and are otherwise as they were. -/
theorem state_moved_of_ne (h : j ≠ k) :
    (s.moved k m t).state j = { s.state j with world := (s.moved k m t).workshop } := by
  unfold moved
  split
  · exact state_put_of_ne h
  · rw [state_serve, state_put_of_ne h]

/-- A step is a move of a cache, or leaves all of it but the world as it was. -/
theorem Step.state (step : Step node thresholds s e s') (k : Nat) :
    (∃ m t, e = .move k m ∧ Deployment.Step Workshop.setAsDeployed thresholds (s.state k) m t ∧
        s'.state k = { t with world := s'.workshop }) ∨
      s'.state k = { s.state k with world := s'.workshop } := by
  cases step with
  | @move j m t made told =>
    by_cases h : k = j
    · subst h
      exact .inl ⟨m, t, rfl, made, state_moved_self⟩
    · exact .inr (state_moved_of_ne h)
  | code waits => exact .inr rfl
  | receipt waits => exact .inr rfl
  | elsewhere held canonical => exact .inr rfl

/-- Each cache goes on with a run of its own. -/
theorem Reaches.extends {past : List (State (Workshop σ))} (h : Reaches node thresholds u s)
    (run : AnyRun Workshop.setAsDeployed thresholds (u.state k :: past)) :
    ∃ later, AnyRun Workshop.setAsDeployed thresholds (s.state k :: later) ∧
      u.state k ∈ s.state k :: later := by
  induction h with
  | refl => exact ⟨past, run, List.mem_cons_self⟩
  | @step s s' e before made ih =>
    obtain ⟨later, run, hmem⟩ := ih
    have hmem := List.mem_cons_of_mem (s'.state k) hmem
    rcases made.state k with ⟨m, t, -, step, hs'⟩ | hs'
    · have run := (run.step step trivial).step (.elsewhere t s'.workshop) trivial
      rw [hs'] at hmem ⊢
      refine ⟨_, run, ?_⟩
      rcases List.mem_cons.mp hmem with h | h
      · exact h ▸ List.mem_cons_self
      · exact List.mem_cons_of_mem _ (List.mem_cons_of_mem _ h)
    · have run := run.step (.elsewhere (s.state k) s'.workshop) trivial
      rw [hs'] at hmem ⊢
      exact ⟨_, run, hmem⟩

/-- Each cache is at the end of a run. -/
theorem Reaches.run {workshop : Workshop σ} (h : Reaches node thresholds (start workshop) s)
    (k : Nat) : ∃ past, AnyRun Workshop.setAsDeployed thresholds (s.state k :: past) := by
  obtain ⟨past, run, -⟩ := h.extends (k := k) (.start workshop)
  exact ⟨past, run⟩

/-! ## What the store holds -/

/-- A call of the store changes no artifact. -/
@[simp] theorem holds_serve : (s.serve key).workshop.holds name = s.workshop.holds name := by
  unfold serve
  split
  · rfl
  · split
    · rfl
    · exact Workshop.holds_asked

/-- A call of the store changes no canonical instance before it is answered. -/
@[simp] theorem canonical_serve :
    (s.serve key).workshop.canonical name = s.workshop.canonical name := by
  unfold serve
  split
  · rfl
  · split
    · rfl
    · exact Workshop.canonical_asked

/-- The store holds the artifacts that the move left. -/
@[simp] theorem holds_moved : (s.moved k m t).workshop.holds name = t.world.holds name := by
  unfold moved
  split
  · rfl
  · exact holds_serve

/-- The store has the canonical instances that the move left. -/
@[simp] theorem canonical_moved :
    (s.moved k m t).workshop.canonical name = t.world.canonical name := by
  unfold moved
  split
  · rfl
  · exact canonical_serve

/-- A transaction changes no artifact. -/
theorem holds_submit (code : Bytes) :
    (s.submit node code).world.holds name = s.workshop.holds name := by
  unfold submit
  rw [(Workshop.run_submit code).2]
  rfl

/-- A transaction changes no canonical instance. -/
theorem canonical_submit (code : Bytes) :
    (s.submit node code).world.canonical name = s.workshop.canonical name := by
  unfold submit
  rw [(Workshop.run_submit code).2]
  rfl

/-- What the store holds of an artifact never changes. -/
theorem Step.holds (step : Step node thresholds s e s') (name : ArtifactName) :
    s'.workshop.holds name = s.workshop.holds name := by
  cases step with
  | @move k m t made told =>
    rw [holds_moved]
    rcases made.world_cases with ⟨h, -⟩ | ⟨id, w, c, -, -, -, -, h, -⟩ | ⟨world, rfl, -⟩
    · rw [h]
      rfl
    · rw [h]
      rfl
    · exact told.elim
  | code waits => rfl
  | receipt waits => exact holds_submit _
  | elsewhere held canonical => exact held name

/-- The canonical instances stay as they are, unless current work on a canonical instance is told
what was deployed for it. Then the cache of that work sets the contract as deployed, and no other
one does. -/
theorem Step.canonical (step : Step node thresholds s e s') :
    ((∀ name, s'.workshop.canonical name = s.workshop.canonical name) ∧
        ∀ k id c, (id, .setAsDeployed c) ∈ (s'.state k).record →
          (id, .setAsDeployed c) ∈ (s.state k).record) ∨
      ∃ k id w c, e = .move k (.deployed id (.ok c)) ∧
        (s.state k).cache.work? id = some w ∧ w.stage = .deploying ∧ w.adopts = true ∧
        s.tasks.get? (k, id) = some (.made (.ok c)) ∧
        (s'.state k).record = (s.state k).record ++ [(id, .setAsDeployed c)] ∧
        (∀ j, j ≠ k → (s'.state j).record = (s.state j).record) ∧
        ∀ name, s'.workshop.canonical name =
          if c.name = name then some c else s.workshop.canonical name := by
  cases step with
  | @move k m t made told =>
    have hothers : ∀ j, j ≠ k → ((s.moved k m t).state j).record = (s.state j).record := by
      intro j hj
      rw [state_moved_of_ne hj]
    have hself : ((s.moved k m t).state k).record = t.record := by rw [state_moved_self]
    rcases made.world_cases with
      ⟨h, hrecord⟩ | ⟨id, w, c, rfl, hw, hstage, hadopts, h, hrecord⟩ | ⟨world, rfl, -⟩
    · left
      constructor
      · intro name
        rw [canonical_moved, h]
        rfl
      · intro j id c hmem
        by_cases hj : j = k
        · subst hj
          rw [hself] at hmem
          exact hrecord id c hmem
        · rw [hothers j hj] at hmem
          exact hmem
    · right
      refine ⟨k, id, w, c, rfl, hw, hstage, hadopts, told, hself.trans hrecord, hothers, ?_⟩
      intro name
      rw [canonical_moved, h]
      exact Workshop.canonical_setAsDeployed c
    · exact told.elim
  | code waits => exact .inl ⟨fun _ => rfl, fun _ _ _ h => h⟩
  | receipt waits => exact .inl ⟨fun _ => canonical_submit _, fun _ _ _ h => h⟩
  | elsewhere held canonical => exact .inl ⟨canonical, fun _ _ _ h => h⟩

end Site

end Deployment

end ContractHarness
