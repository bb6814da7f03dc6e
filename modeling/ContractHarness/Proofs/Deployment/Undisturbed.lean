import ContractHarness.Proofs.Deployment.Docket

/-!
# Work that is left to itself

Each stage of a piece of work leaves something to do, which can be written as an action on the
store. A step of the site does the first part of it and leaves the rest, so that work that nobody
disturbs is settled with the result of that action and leaves the store as the action does
(`Finishes`). There is one lemma for each thing that work can wait for, from the last to the first.
What is left of new work is all that a call of a cache does for it (`finishes_of_fresh`).
-/

set_option autoImplicit false

namespace ContractHarness

variable {σ : Type}

/-! ## The ends of actions -/

/-- Two actions end in the same way, whatever notices they give. -/
structure Outcome.Agrees {ε α : Type} (o o' : Outcome σ ε α) : Prop where
  result : o.result = o'.result
  world : o.world = o'.world

section Agrees

variable {ε α β : Type} {x y : Action σ ε α} {world world' : σ}

/-- Two actions that end in the same way can be followed by the same action. -/
theorem Outcome.Agrees.bind (h : (x.run world).Agrees (y.run world')) (f : α → Action σ ε β) :
    ((x >>= f).run world).Agrees ((y >>= f).run world') := by
  obtain ⟨hresult, hworld⟩ := h
  rw [Action.run_bind, Action.run_bind]
  generalize x.run world = o at hresult hworld
  generalize y.run world' = o' at hresult hworld
  obtain ⟨result, w, notices⟩ := o
  obtain ⟨result', w', notices'⟩ := o'
  dsimp only at hresult hworld
  subst hresult hworld
  cases result with
  | ok a => exact ⟨rfl, rfl⟩
  | error e => exact ⟨rfl, rfl⟩

/-- Attempts end in the same way when what is attempted does. -/
theorem Outcome.Agrees.attempt {ε' : Type} (h : (x.run world).Agrees (y.run world')) :
    ((x.attempt : Action σ ε' _).run world).Agrees ((y.attempt : Action σ ε' _).run world') :=
  ⟨congrArg Except.ok h.result, h.world⟩

/-- A context in front of the errors does not tell apart actions that end in the same way. -/
theorem Outcome.Agrees.context {x y : Action σ ErrorChain α}
    (h : (x.run world).Agrees (y.run world')) (text : String) :
    ((x.context text).run world).Agrees ((y.context text).run world') :=
  ⟨congrArg (fun result => result.mapError (·.context text)) h.result, h.world⟩

end Agrees

namespace Work

/-- The work with an outcome. -/
def settledAs (w : Work) (x : Except ErrorChain Contract) : Work :=
  { w with stage := .settled x }

/-- What work does when its lookup is answered. -/
def afterLookUp (w : Work) (registry : Registry σ) (thresholds : Report.Thresholds)
    (answer : Except LookupError Contract) : Action σ ErrorChain Contract :=
  match w.request.settledBy answer with
  | some x => .ofExcept x
  | none => w.deploy registry thresholds

end Work

/-- What is done to a piece of work before it is settled makes no difference afterwards, if its
request and its mark stay. -/
theorem DeploymentCache.update_settledAs {cache : DeploymentCache} {id : Nat} {w w' : Work}
    (hw : cache.work? id = some w) (hrequest : w'.request = w.request)
    (hmark : w'.superseded = w.superseded) (x : Except ErrorChain Contract) :
    (cache.update id fun _ => w').update id (·.settledAs x) = cache.update id (·.settledAs x) := by
  have hsettled : w'.settledAs x = w.settledAs x := by
    unfold Work.settledAs
    rw [hrequest, hmark]
  -- only at the number itself there is something to compare
  unfold update
  congr 1
  apply List.ext_getElem?
  intro j
  rw [List.modify_modify_eq, List.getElem?_modify, List.getElem?_modify]
  by_cases hj : id = j
  · subst hj
    unfold work? at hw
    simp [hw, hsettled]
  · simp [hj]

/-- To settle work with the outcome that it has changes nothing. -/
theorem DeploymentCache.update_of_outcome {cache : DeploymentCache} {id : Nat}
    {x : Except ErrorChain Contract} (h : cache.outcome? id = some x) :
    cache.update id (·.settledAs x) = cache := by
  obtain ⟨w, hw, hstage⟩ := outcome?_eq_some_iff.mp h
  have hsettled : w.settledAs x = w := by
    unfold Work.settledAs
    rw [← hstage]
  unfold update
  congr 1
  apply List.ext_getElem?
  intro j
  rw [List.getElem?_modify]
  by_cases hj : id = j
  · subst hj
    unfold work? at hw
    simp [hw, hsettled]
  · simp [hj]

namespace Deployment.Site

variable {node : Node σ} {thresholds : Report.Thresholds} {workshop : Workshop σ}
variable {s s' t : Site σ} {e : Event σ} {k j i id : Nat} {d : Docket} {w : Work}
  {r : DeploymentRequest} {o o' : Outcome (Workshop σ) ErrorChain Contract}

/-- A move of one cache leaves the desks of the others as they are. -/
theorem desks_moved_of_ne {m : Move (Workshop σ)} {t : State (Workshop σ)} (h : j ≠ k) :
    (s.moved k m t).desks j = s.desks j := by
  have hput : (s.put k t).desks j = s.desks j := if_neg h
  unfold moved
  split
  · exact hput
  · rw [desks_serve]
    exact hput

/-- When work makes a call, the store is asked for its artifact, and is left alone otherwise. -/
theorem workshop_moved {m : Move (Workshop σ)} {t : State (Workshop σ)} (hm : m.work? = some id)
    (hw : t.cache.work? id = some w) :
    (s.moved k m t).workshop =
      if (w.task? t.world).isSome then t.world.asked w.request.name else t.world := by
  have hput : (s.put k t).workshop = t.world := rfl
  unfold moved
  rw [hm]
  unfold serve
  dsimp only
  rw [state_put_self, hw]
  dsimp only
  rw [hput]
  cases w.task? t.world with
  | none => rfl
  | some task => rfl

/-! ## Work on its own -/

/-- Nothing changes at the caches but how far one piece of work is. -/
structure Calm (k id : Nat) (s s' : Site σ) : Prop where
  callers : (s'.state k).callers = (s.state k).callers
  cache : ∀ x, (s'.state k).cache.update id (·.settledAs x) =
    (s.state k).cache.update id (·.settledAs x)
  others : ∀ j, j ≠ k → s'.desks j = s.desks j

/-- A site is calm while nothing happens. -/
theorem Calm.refl (s : Site σ) : Calm k id s s :=
  ⟨rfl, fun _ => rfl, fun _ _ => rfl⟩

/-- A site that is calm twice is calm in between and over all. -/
theorem Calm.trans (h : Calm k id s t) (h' : Calm k id t s') : Calm k id s s' := by
  refine ⟨h'.callers.trans h.callers, fun x => (h'.cache x).trans (h.cache x), ?_⟩
  intro j hj
  exact (h'.others j hj).trans (h.others j hj)

/-- The entries stay as they are. -/
theorem Calm.entries (h : Calm k id s s') :
    (s'.state k).cache.entries = (s.state k).cache.entries := by
  let x : Except ErrorChain Contract := .error (.ofText "")
  have hcache := congrArg DeploymentCache.entries (h.cache x)
  exact hcache

/-- A site is calm through a move that goes on with the one piece of work. -/
theorem calm_moved {m : Move (Workshop σ)} {t : State (Workshop σ)} {w' : Work}
    (hw : (s.state k).cache.work? id = some w) (hcallers : t.callers = (s.state k).callers)
    (hcache : t.cache = (s.state k).cache.update id fun _ => w')
    (hrequest : w'.request = w.request) (hmark : w'.superseded = w.superseded) :
    Calm k id s (s.moved k m t) := by
  refine ⟨?_, ?_, fun _ => desks_moved_of_ne⟩
  · rw [state_moved_self]
    exact hcallers
  · intro x
    rw [state_moved_self]
    exact hcache ▸ DeploymentCache.update_settledAs hw hrequest hmark x

/-- The work can be settled with the result of an action, which leaves the store as the site has
it then. -/
def Finishes (node : Node σ) (thresholds : Report.Thresholds) (s : Site σ) (k id : Nat)
    (o : Outcome (Workshop σ) ErrorChain Contract) : Prop :=
  ∃ s', Reaches node thresholds s s' ∧ Calm k id s s' ∧
    (s'.state k).cache.outcome? id = some o.result ∧ s'.workshop = o.world

/-- Work can be settled with any action that ends in the same way. -/
theorem Finishes.congr (h : Finishes node thresholds s k id o) (hagrees : o'.Agrees o) :
    Finishes node thresholds s k id o' := by
  obtain ⟨s', reaches, hcalm, houtcome, hworkshop⟩ := h
  exact ⟨s', reaches, hcalm, hagrees.result ▸ houtcome, hagrees.world ▸ hworkshop⟩

/-- Work can be settled when it can be after a step through which the site is calm. -/
theorem Finishes.before (step : Step node thresholds s e s') (hcalm : Calm k id s s')
    (h : Finishes node thresholds s' k id o) : Finishes node thresholds s k id o := by
  obtain ⟨t, reaches, hcalm', h⟩ := h
  exact ⟨t, ((Reaches.refl s).step step).trans reaches, hcalm.trans hcalm', h⟩

/-- Work that is settled is settled with its outcome. -/
theorem finishes_of_settled {x : Except ErrorChain Contract} (hd : s.docket? (k, id) = some d)
    (hstage : d.work.stage = .settled x) :
    Finishes node thresholds s k id ((Action.ofExcept x).run s.workshop) := by
  obtain ⟨hwork, -⟩ := docket?_eq_some_iff.mp hd
  refine ⟨s, .refl s, .refl s, ?_, rfl⟩
  exact DeploymentCache.outcome?_eq_some_iff.mpr ⟨d.work, hwork, hstage⟩

/-- Work whose deployment is answered has its contract set as deployed if it is to, and is
settled. -/
theorem agrees_adopt (s : State σ) (set : Contract → Action σ ErrorChain Unit) (id : Nat) (w : Work)
    (answer : Except ErrorChain Contract) :
    (((Action.ofExcept answer >>= w.adopt set thresholds).context w.request.failure).run
        s.world).Agrees
      ((Action.ofExcept (w.request.outcome (s.deploymentResult set w answer))).run
        (s.afterDeployment set id w answer).world) := by
  cases answer with
  | error e => exact ⟨rfl, rfl⟩
  | ok contract =>
    have hadopt : ((w.adopt set thresholds contract).run s.world).Agrees
        ((Action.ofExcept (s.deploymentResult set w (.ok contract))).run
          (s.afterDeployment set id w (.ok contract)).world) := by
      unfold State.deploymentResult State.afterDeployment
      cases hadopts : w.adopts with
      | false =>
        obtain ⟨hresult, hworld⟩ :=
          Work.run_adopt_of_not_adopts hadopts set thresholds contract s.world
        exact ⟨hresult, hworld⟩
      | true =>
        obtain ⟨hresult, hworld⟩ := Work.run_adopt_of_adopts hadopts set thresholds contract s.world
        exact ⟨hresult, hworld⟩
    exact hadopt.context w.request.failure

/-- What is left of work whose deployment is answered. -/
theorem finishes_of_made {answer : Except ErrorChain Contract} (hd : s.docket? (k, id) = some d)
    (hstage : d.work.stage = .deploying) (htask : d.task = some (.made answer)) :
    Finishes node thresholds s k id
      (((Action.ofExcept answer >>= d.work.adopt Workshop.setAsDeployed thresholds).context
        d.work.request.failure).run s.workshop) := by
  obtain ⟨hwork, htask', -⟩ := docket?_eq_some_iff.mp hd
  have step : Step node thresholds s _ _ := .move (.deployed answer hwork hstage)
    (htask'.trans htask)
  apply Finishes.before step
  · rw [State.world_receiveDeployment hstage]
    apply calm_moved hwork
    · rw [State.callers_proceed, State.callers_afterDeployment]
    · rw [State.cache_proceed, State.cache_afterDeployment]
    · rfl
    · rfl
  · apply (finishes_of_settled (docket?_deployed hd hstage answer) rfl).congr
    have hworkshop : (s.moved k (.deployed id answer) ((State.receiveDeployment
        Workshop.setAsDeployed thresholds id d.work answer).run (s.state k)).world).workshop =
        ((s.state k).afterDeployment Workshop.setAsDeployed id d.work answer).world := by
      have hcache : ((s.state k).afterDeployment Workshop.setAsDeployed id d.work answer).cache =
          (s.state k).cache := State.cache_afterDeployment answer
      rw [State.world_receiveDeployment hstage]
      exact workshop_moved rfl (work?_proceed_self (hcache ▸ hwork))
    have hagrees := @agrees_adopt _ thresholds (s.state k) Workshop.setAsDeployed id d.work answer
    rw [deploymentResult_eq] at hagrees
    rw [hworkshop]
    exact hagrees

/-- What is left of work whose transaction is to be executed. -/
theorem finishes_of_receipt {c : Creation} (hd : s.docket? (k, id) = some d)
    (hstage : d.work.stage = .deploying) (htask : d.task = some (.receipt c)) :
    Finishes node thresholds s k id
      (((Workshop.create node c >>= d.work.adopt Workshop.setAsDeployed thresholds).context
        d.work.request.failure).run s.workshop) := by
  obtain ⟨-, htask', -⟩ := docket?_eq_some_iff.mp hd
  have step : Step node thresholds s _ _ := .receipt (htask'.trans htask)
  apply Finishes.before step ⟨rfl, fun _ => rfl, fun _ _ => rfl⟩
  apply (finishes_of_made (docket?_note hd) hstage rfl).congr
  apply Outcome.Agrees.context
  apply Outcome.Agrees.bind
  exact ⟨(Workshop.run_create c).1, (Workshop.run_create c).2⟩

/-- What is left of work that has just come to its deployment. -/
theorem finishes_of_deploying (hd : s.docket? (k, id) = some (d.goOn workshop w))
    (hstage : w.stage = .deploying) (hworkshop : s.workshop = workshop.asked w.request.name) :
    Finishes node thresholds s k id
      (((w.deploy (Workshop.registry node) thresholds).context w.request.failure).run
        workshop) := by
  have htask : (d.goOn workshop w).task =
      some (.ofPlanned (workshop.planned w.request.name w.request.args)) := by
    unfold Docket.goOn Work.task?
    rw [hstage]
    rfl
  have hdeploy : w.deploy (Workshop.registry node) thresholds =
      Workshop.creation w.request.name w.request.args >>= fun c =>
        Workshop.create node c >>= w.adopt Workshop.setAsDeployed thresholds := by
    unfold Work.deploy
    rw [Workshop.deploy_eq, bind_assoc]
    rfl
  rw [hdeploy]
  -- the store has done its part already, when the work came to this stage
  have hcreation : ((Workshop.creation w.request.name w.request.args).run workshop).Agrees
      ((Action.ofExcept (workshop.planned w.request.name w.request.args)).run s.workshop) :=
    ⟨rfl, hworkshop.symm⟩
  cases hplanned : workshop.planned w.request.name w.request.args with
  | ok c =>
    rw [hplanned] at htask hcreation
    apply (finishes_of_receipt hd hstage htask).congr
    apply Outcome.Agrees.context
    exact hcreation.bind _
  | error e =>
    rw [hplanned] at htask hcreation
    apply (finishes_of_made hd hstage htask).congr
    apply Outcome.Agrees.context
    exact hcreation.bind _

/-- What is left of work whose lookup is answered. -/
theorem finishes_of_found {answer : Except LookupError Contract} (hd : s.docket? (k, id) = some d)
    (hstage : d.work.stage = .lookingUp) (htask : d.task = some (.found answer)) :
    Finishes node thresholds s k id
      (((d.work.afterLookUp (Workshop.registry node) thresholds answer).context
        d.work.request.failure).run s.workshop) := by
  obtain ⟨hwork, htask', -⟩ := docket?_eq_some_iff.mp hd
  have step : Step node thresholds s _ _ := .move (.lookedUp answer hwork hstage)
    (htask'.trans htask)
  apply Finishes.before step
  · exact calm_moved hwork rfl rfl (request_lookedUp _ _) (superseded_lookedUp _ _)
  have hd' := docket?_lookedUp hd answer
  unfold Work.afterLookUp
  cases hsettled : d.work.request.settledBy answer with
  | some x =>
    have hw : d.work.lookedUp answer = d.work.settle x := by
      unfold Work.lookedUp
      rw [hstage]
      dsimp only
      rw [hsettled]
    rw [hw] at hd' ⊢
    apply (finishes_of_settled hd' rfl).congr
    have hworkshop : (s.moved k (.lookedUp id answer)
        ((s.state k).proceed id (d.work.settle x))).workshop = s.workshop :=
      workshop_moved rfl (work?_proceed_self hwork)
    rw [hworkshop]
    exact ⟨rfl, rfl⟩
  | none =>
    have hw : d.work.lookedUp answer = { d.work with stage := .deploying } := by
      unfold Work.lookedUp
      rw [hstage]
      dsimp only
      rw [hsettled]
    rw [hw] at hd' ⊢
    apply finishes_of_deploying hd' rfl
    exact workshop_moved rfl (work?_proceed_self hwork)

/-- What is left of work whose lookup has come upon a handle. -/
theorem finishes_of_code {c : Contract} (hd : s.docket? (k, id) = some d)
    (hstage : d.work.stage = .lookingUp) (htask : d.task = some (.code c)) :
    Finishes node thresholds s k id
      ((((Workshop.confirm node c).attempt >>=
        d.work.afterLookUp (Workshop.registry node) thresholds).context
          d.work.request.failure).run s.workshop) := by
  obtain ⟨-, htask', -⟩ := docket?_eq_some_iff.mp hd
  have step : Step node thresholds s _ _ := .code (htask'.trans htask)
  apply Finishes.before step ⟨rfl, fun _ => rfl, fun _ _ => rfl⟩
  apply (finishes_of_found (docket?_note hd) hstage rfl).congr
  apply Outcome.Agrees.context
  rw [Action.run_bind, Action.run_attempt, Workshop.run_confirm]
  exact ⟨rfl, rfl⟩

/-- What is left of work that has just come to its lookup. -/
theorem finishes_of_lookingUp (hd : s.docket? (k, id) = some (d.goOn workshop w))
    (hstage : w.stage = .lookingUp) (hworkshop : s.workshop = workshop.asked w.request.name) :
    Finishes node thresholds s k id
      (((w.lookUp (Workshop.registry node) thresholds).context w.request.failure).run
        workshop) := by
  have htask : (d.goOn workshop w).task =
      some (.ofSought (workshop.sought w.request.name w.request.key)) := by
    unfold Docket.goOn Work.task?
    rw [hstage]
    rfl
  have hlookUp : w.lookUp (Workshop.registry node) thresholds =
      (Workshop.candidate w.request.name w.request.key >>= Workshop.confirm node).attempt >>=
        w.afterLookUp (Workshop.registry node) thresholds := by
    unfold Work.lookUp
    rw [Workshop.lookUp_eq]
    rfl
  rw [hlookUp]
  have hcandidate : ((Workshop.candidate w.request.name w.request.key).run workshop).Agrees
      ((Action.ofExcept (workshop.sought w.request.name w.request.key)).run s.workshop) :=
    ⟨rfl, hworkshop.symm⟩
  have hfound := (hcandidate.bind (Workshop.confirm node)).attempt.bind
    (w.afterLookUp (Workshop.registry node) thresholds)
  cases hsought : workshop.sought w.request.name w.request.key with
  | ok c =>
    rw [hsought] at htask hfound
    apply (finishes_of_code hd hstage htask).congr
    exact hfound.context _
  | error e =>
    rw [hsought] at htask hfound
    apply (finishes_of_found hd hstage htask).congr
    exact hfound.context _

/-- What is left of new work. -/
theorem finishes_of_fresh (hd : s.docket? (k, id) = some d) (hstage : d.work.stage = .fresh) :
    Finishes node thresholds s k id
      ((d.work.finish (Workshop.registry node) thresholds).run s.workshop) := by
  obtain ⟨hwork, -⟩ := docket?_eq_some_iff.mp hd
  have step : Step node thresholds s _ _ := .move (.begin hwork hstage) trivial
  apply Finishes.before step
  · exact calm_moved hwork rfl rfl (request_begin _) (superseded_begin _)
  have hd' := docket?_begin hd
  have hw : d.work.begin =
      { d.work with stage := if d.work.request.redeploy then .deploying else .lookingUp } := by
    unfold Work.begin
    rw [hstage]
  unfold Work.finish
  rw [hstage]
  dsimp only
  cases hr : d.work.request.redeploy with
  | true =>
    rw [hr, if_pos rfl] at hw
    rw [hw] at hd' ⊢
    rw [if_pos rfl]
    apply finishes_of_deploying hd' rfl
    exact workshop_moved rfl (work?_proceed_self hwork)
  | false =>
    rw [hr, if_neg Bool.false_ne_true] at hw
    rw [hw] at hd' ⊢
    rw [if_neg Bool.false_ne_true]
    apply finishes_of_lookingUp hd' rfl
    exact workshop_moved rfl (work?_proceed_self hwork)

end Deployment.Site

end ContractHarness
