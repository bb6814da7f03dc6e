import ContractHarness.Proofs.Deployment.Construction
import ContractHarness.Proofs.Deployment.Resolution
import ContractHarness.Proofs.Deployment.Undisturbed

/-!
# Calls one after another

A call of a cache that runs through does its work itself: it looks up and deploys through the store,
and is back with the outcome. While all other work is settled, a site can do the same step by step.
So calls that are made one after another, through any number of caches, are a run of a site
(`exists_errands`), and what holds of all runs of a site holds of them: how a request is resolved
(`get_resolves`), and which transaction a contract was created by (`errand_constructs`).
-/

set_option autoImplicit false

namespace ContractHarness

variable {σ : Type}

/-- A call obtains its work, does what is left of it, and keeps the outcome. -/
theorem DeploymentCache.run_get {registry : Registry σ} {thresholds : Report.Thresholds}
    {r : DeploymentRequest} {cache : DeploymentCache} {world : σ} {w : Work}
    {done : Outcome σ ErrorChain Contract}
    (hw : (cache.obtain r).1.work? (cache.obtain r).2 = some w)
    (hdone : (w.finish registry thresholds).run world = done) :
    ((get registry thresholds r).run (cache, world)).result =
        (done.result.mapError Failure.deployment).map (·, (cache.obtain r).2) ∧
      ((get registry thresholds r).run (cache, world)).world =
        ((cache.obtain r).1.update (cache.obtain r).2 (·.settledAs done.result), done.world) := by
  unfold get await beside
  simp only [Action.run_bind, Action.run_look, Action.run_change, Action.run_within,
    Action.run_attempt, Action.run_ofExcept, hw, Option.getD_some, hdone]
  obtain ⟨result, world', notices⟩ := done
  cases result with
  | ok c => exact ⟨rfl, rfl⟩
  | error e => exact ⟨rfl, rfl⟩

/-- A demand for a new instance is a call after the entry was evicted. -/
theorem DeploymentCache.run_redeploy {registry : Registry σ} {thresholds : Report.Thresholds}
    {r : DeploymentRequest} {cache : DeploymentCache} {world : σ} :
    ((redeploy registry thresholds r).run (cache, world)).Agrees
      ((get registry thresholds { r with redeploy := true }).run (cache.evict r.slot, world)) := by
  unfold redeploy
  rw [Action.run_bind]
  exact ⟨rfl, rfl⟩

namespace Deployment

/-- A call of one of several caches. -/
structure Errand where
  /-- The cache that is called. -/
  cache : Nat
  request : DeploymentRequest
  /-- The old entry is evicted first. -/
  redeploys : Bool

/-- What the call does to its cache and to the store. -/
def Errand.action (errand : Errand) (node : Node σ) (thresholds : Report.Thresholds) :
    Action (DeploymentCache × Workshop σ) Failure (Contract × Nat) :=
  if errand.redeploys then
    DeploymentCache.redeploy (Workshop.registry node) thresholds errand.request
  else DeploymentCache.get (Workshop.registry node) thresholds errand.request

/-- Does the call among the other caches. -/
def Errand.perform (errand : Errand) (node : Node σ) (thresholds : Report.Thresholds)
    (world : (Nat → DeploymentCache) × Workshop σ) : (Nat → DeploymentCache) × Workshop σ :=
  let o := (errand.action node thresholds).run (world.1 errand.cache, world.2)
  (fun j => if j = errand.cache then o.world.1 else world.1 j, o.world.2)

namespace Site

variable {node : Node σ} {thresholds : Report.Thresholds} {workshop : Workshop σ}
variable {s s' t : Site σ} {k i id : Nat} {r : DeploymentRequest} {slot : CacheKey} {c : Contract}

/-! ## Calls one after another -/

/-- All work of a cache is settled. -/
def Idle (s : Site σ) (k : Nat) : Prop :=
  ∀ id w, (s.state k).cache.work? id = some w → ∃ x, w.stage = .settled x

/-- A caller that comes to its work in a state is answered in a later one, and the cache and the
store are left as a call that runs through leaves them. -/
structure Answers (node : Node σ) (thresholds : Report.Thresholds) (s s' : Site σ) (k i : Nat)
    (r : DeploymentRequest) (o : Outcome (DeploymentCache × Workshop σ) Failure (Contract × Nat)) :
    Prop where
  obtains : ∃ t, Step node thresholds s (.move k (.obtain i)) t ∧ Reaches node thresholds t s'
  idle : Idle s' k
  entries : (s'.state k).cache.entries = ((s.state k).cache.obtain r).1.entries
  others : ∀ j, j ≠ k → s'.desks j = s.desks j
  world : o.world = ((s'.state k).cache, s'.workshop)
  answered : ∃ z, (s'.state k).callers =
      (s.state k).callers.set i (.answered ((s.state k).cache.obtain r).2 z) ∧
    o.result = (z.mapError .deployment).map (·, ((s.state k).cache.obtain r).2)

/-- What is left of work that was obtained while all other work was settled. -/
theorem exists_finishes (hidle : Idle s k) (hcoherent : (s.state k).cache.Coherent)
    (hcache : (t.state k).cache = ((s.state k).cache.obtain r).1) :
    ∃ w, ((s.state k).cache.obtain r).1.work? ((s.state k).cache.obtain r).2 = some w ∧
      Finishes node thresholds t k ((s.state k).cache.obtain r).2
        ((w.finish (Workshop.registry node) thresholds).run t.workshop) := by
  have hdocket : ∀ w, ((s.state k).cache.obtain r).1.work? ((s.state k).cache.obtain r).2 = some w →
      ∃ d, t.docket? (k, ((s.state k).cache.obtain r).2) = some d ∧ d.work = w := by
    intro w hw
    rw [← hcache] at hw
    exact ⟨⟨w, _, _, _⟩, docket?_eq_some_iff.mpr ⟨hw, rfl, rfl, rfl⟩, rfl⟩
  rcases hcoherent.obtained_cases r with hnew | ⟨w, hold, hw⟩
  · obtain ⟨d, hd, hwork⟩ := hdocket _ hnew
    refine ⟨_, hnew, ?_⟩
    have hfresh := @finishes_of_fresh _ node thresholds t k _ d hd (by rw [hwork])
    exact hwork ▸ hfresh
  · obtain ⟨d, hd, rfl⟩ := hdocket w hw
    obtain ⟨x, hstage⟩ := hidle _ _ hold
    refine ⟨_, hw, ?_⟩
    unfold Work.finish
    rw [hstage]
    exact finishes_of_settled hd hstage

/-- All work is settled again when the work that was obtained is. -/
theorem Idle.settledAs {x : Except ErrorChain Contract} (hidle : Idle s k)
    (hcache : (t.state k).cache = ((s.state k).cache.obtain r).1.update
      ((s.state k).cache.obtain r).2 (·.settledAs x)) : Idle t k := by
  intro j v hv
  rw [hcache, DeploymentCache.work?_update] at hv
  split at hv
  · obtain ⟨v, -, rfl⟩ := Option.map_eq_some_iff.mp hv
    exact ⟨x, rfl⟩
  · next hj =>
    obtain ⟨v', hv', hstage⟩ := DeploymentCache.exists_of_obtain hv (Ne.symm hj)
    rw [hstage]
    exact hidle j v' hv'

/-- A caller that comes to its work while all other work is settled can be answered at once. -/
theorem exists_answers (hi : (s.state k).callers[i]? = some (.obtaining r)) (hidle : Idle s k)
    (hcoherent : (s.state k).cache.Coherent) : ∃ s', Answers node thresholds s s' k i r
      ((DeploymentCache.get (Workshop.registry node) thresholds r).run
        ((s.state k).cache, s.workshop)) := by
  have obtains : Step node thresholds s _ _ := .move (.obtain hi) trivial
  generalize ht : s.moved k (.obtain i) _ = t at obtains
  have hstate : t.state k = { s.state k with
      cache := ((s.state k).cache.obtain r).1
      callers := (s.state k).callers.set i (.holding ((s.state k).cache.obtain r).2) } := by
    rw [← ht, state_moved_self]
    rfl
  have hworkshop : t.workshop = s.workshop := ht ▸ rfl
  -- the work runs through to its outcome, and only then is the caller told
  obtain ⟨w, hw, hfinishes⟩ := @exists_finishes _ node thresholds s t k r hidle hcoherent
    (congrArg State.cache hstate)
  rw [hworkshop] at hfinishes
  generalize hdone : (w.finish (Workshop.registry node) thresholds).run s.workshop = done
    at hfinishes
  obtain ⟨hresult, hworld⟩ := DeploymentCache.run_get hw hdone
  obtain ⟨u, reaches, hcalm, houtcome, hu⟩ := hfinishes
  have hcallers : (u.state k).callers[i]? = some (.holding ((s.state k).cache.obtain r).2) := by
    rw [hcalm.callers, hstate]
    exact List.getElem?_set_self (List.getElem?_eq_some_iff.mp hi).1
  have receives : Step node thresholds u _ _ := .move (.receive hcallers houtcome) trivial
  have hcache : (u.state k).cache = ((s.state k).cache.obtain r).1.update
      ((s.state k).cache.obtain r).2 (·.settledAs done.result) := by
    rw [← DeploymentCache.update_of_outcome houtcome, hcalm.cache, hstate]
  refine ⟨_, ⟨t, obtains, reaches.step receives⟩, ?_, ?_, ?_, ?_, ?_⟩
  · apply hidle.settledAs
    rw [state_moved_self]
    exact hcache
  · have hentries := hcalm.entries
    rw [hstate] at hentries
    rw [state_moved_self]
    exact hentries
  · intro j hj
    rw [desks_moved_of_ne hj, hcalm.others j hj, ← ht, desks_moved_of_ne hj]
  · rw [hworld, state_moved_self, ← hcache, ← hu]
    rfl
  · refine ⟨done.result, ?_, hresult⟩
    rw [state_moved_self]
    show (u.state k).callers.set i _ = _
    rw [hcalm.callers, hstate]
    exact List.set_set _

/-- The caches of a site, and the store. -/
def world (s : Site σ) : (Nat → DeploymentCache) × Workshop σ :=
  (fun k => (s.state k).cache, s.workshop)

/-- A call for a key that runs through, with nobody beside it, is a part of a run of the site. -/
structure Does (node : Node σ) (thresholds : Report.Thresholds) (s s' : Site σ) (k : Nat)
    (slot : CacheKey) (o : Outcome (DeploymentCache × Workshop σ) Failure (Contract × Nat)) :
    Prop where
  asks : ∃ t p, Reaches node thresholds s t ∧ Reaches node thresholds t s' ∧
    (t.state k).callers[(s.state k).callers.length]? = some p ∧ p.slot? = some slot
  idle : ∀ j, Idle s' j
  world : s'.world = (fun j => if j = k then o.world.1 else (s.state j).cache, o.world.2)
  answered : ∃ id z, (s'.state k).callers = (s.state k).callers ++ [.answered id z] ∧
    o.result = (z.mapError .deployment).map (·, id)

/-- A call that runs through leads from the one state to the other. -/
theorem Does.reaches {o : Outcome (DeploymentCache × Workshop σ) Failure (Contract × Nat)}
    (h : Does node thresholds s s' k slot o) : Reaches node thresholds s s' := by
  obtain ⟨t, p, before, after, -⟩ := h.asks
  exact before.trans after

/-- A caller can always come, which changes nothing but the callers of its cache. -/
theorem exists_comes (s : Site σ) (k : Nat) (r : DeploymentRequest) (redeploys : Bool) :
    ∃ t, Step node thresholds s (.move k (.come r redeploys)) t ∧
      (t.state k).cache = (s.state k).cache ∧ t.workshop = s.workshop ∧
      (t.state k).callers =
        (s.state k).callers ++ [if redeploys then .evicting r else .obtaining r] ∧
      ∀ j, j ≠ k → t.desks j = s.desks j := by
  refine ⟨_, .move (.come (s.state k) r redeploys) trivial, ?_, rfl, ?_, fun _ => desks_moved_of_ne⟩
  · rw [state_moved_self]
  · rw [state_moved_self]

/-- It is enough to come to the work, if only the cache is changed on the way. -/
theorem exists_does (reaches : Reaches node thresholds s t)
    (hothers : ∀ j, j ≠ k → t.desks j = s.desks j) (hidle : ∀ j, Idle s j) (hidle' : Idle t k)
    (hcoherent : (t.state k).cache.Coherent)
    (hcallers : (t.state k).callers = (s.state k).callers ++ [.obtaining r])
    {o : Outcome (DeploymentCache × Workshop σ) Failure (Contract × Nat)}
    (hagrees : o.Agrees ((DeploymentCache.get (Workshop.registry node) thresholds r).run
      ((t.state k).cache, t.workshop))) : ∃ s', Does node thresholds s s' k r.slot o := by
  have hi : (t.state k).callers[(s.state k).callers.length]? = some (.obtaining r) := by
    simp [hcallers]
  obtain ⟨s', ⟨u, obtains, after⟩, hidle', -, hothers', hworld, z, hz, hresult⟩ :=
    @exists_answers _ node thresholds t k _ r hi hidle' hcoherent
  have hcache : ∀ j, j ≠ k → (s'.state j).cache = (s.state j).cache := by
    intro j hj
    exact congrArg Desk.cache ((hothers' j hj).trans (hothers j hj))
  refine ⟨s', ⟨t, _, reaches, ((Reaches.refl t).step obtains).trans after, hi, rfl⟩, ?_, ?_, _, z,
    ?_, hagrees.result.trans hresult⟩
  · intro j
    by_cases hj : j = k
    · exact hj ▸ hidle'
    · unfold Idle
      rw [hcache j hj]
      exact hidle j
  · rw [hagrees.world, hworld]
    apply Prod.ext
    · funext j
      by_cases hj : j = k
      · simp [world, hj]
      · simp [world, hj, hcache j hj]
    · rfl
  · rw [hz, hcallers]
    simp

/-- Every call can run through while all work is settled. -/
theorem exists_does_errand (reaches : Reaches node thresholds (start workshop) s)
    (hidle : ∀ k, Idle s k) (errand : Errand) :
    ∃ s', Does node thresholds s s' errand.cache errand.request.slot
      ((errand.action node thresholds).run ((s.state errand.cache).cache, s.workshop)) := by
  obtain ⟨k, r, redeploys⟩ := errand
  obtain ⟨t, comes, hcache, hworkshop, hcallers, hothers⟩ :=
    @exists_comes _ node thresholds s k r redeploys
  have reaches' := (Reaches.refl s).step comes
  obtain ⟨past, run⟩ := (reaches.trans reaches').run k
  cases redeploys with
  | false =>
    apply exists_does reaches' hothers hidle _ run.coherent hcallers
    · rw [hcache, hworkshop]
      exact ⟨rfl, rfl⟩
    · unfold Idle
      rw [hcache]
      exact hidle k
  | true =>
    have hi : (t.state k).callers[(s.state k).callers.length]? = some (.evicting r) := by
      simp [hcallers]
    have evicts : Step node thresholds t _ _ := .move (.evict hi) trivial
    generalize hu : t.moved k _ _ = u at evicts
    have hevicted : (u.state k).cache = (s.state k).cache.evict r.slot := by
      rw [← hu, state_moved_self, ← hcache]
    have hworkshop' : u.workshop = s.workshop := by
      rw [← hworkshop, ← hu]
      rfl
    have hcallers' : (u.state k).callers =
        (s.state k).callers ++ [.obtaining { r with redeploy := true }] := by
      rw [← hu, state_moved_self]
      simp [hcallers]
    have hothers' : ∀ j, j ≠ k → u.desks j = s.desks j := by
      intro j hj
      rw [← hu, desks_moved_of_ne hj, hothers j hj]
    have reaches' := reaches'.step evicts
    obtain ⟨past, run⟩ := (reaches.trans reaches').run k
    apply exists_does reaches' hothers' hidle _ run.coherent hcallers'
    · rw [hevicted, hworkshop']
      exact DeploymentCache.run_redeploy
    · intro id w hw
      -- evicted work is marked, and stays settled
      rw [hevicted, DeploymentCache.work?_evict] at hw
      obtain ⟨v, hv, -, hstage, -⟩ := DeploymentCache.exists_of_supersedeEntry hw
      rw [hstage]
      exact hidle k id v hv

/-- Calls that run through one after another are a run of the site. -/
theorem exists_errands (errands : List Errand) :
    ∃ s, Reaches node thresholds (start workshop) s ∧ (∀ k, Idle s k) ∧
      s.world = errands.foldl (fun world errand => errand.perform node thresholds world)
        (fun _ => .empty, workshop) := by
  -- the induction is on the calls, for any site that they find
  have hfold : ∀ s, Reaches node thresholds (start workshop) s → (∀ k, Idle s k) →
      ∃ s', Reaches node thresholds (start workshop) s' ∧ (∀ k, Idle s' k) ∧
        s'.world = errands.foldl (fun world errand => errand.perform node thresholds world)
          s.world := by
    induction errands with
    | nil => exact fun s reaches hidle => ⟨s, reaches, hidle, rfl⟩
    | cons errand errands ih =>
      intro s reaches hidle
      obtain ⟨t, does⟩ := exists_does_errand reaches hidle errand
      obtain ⟨s', h⟩ := ih t (reaches.trans does.reaches) does.idle
      rw [does.world] at h
      exact ⟨s', h⟩
  refine hfold _ (.refl _) ?_
  intro k id w hw
  cases hw

/-! ## What holds of them -/

/-- A call that demands no new instance and finds no entry is resolved as it should be, and is told
of a failure by a deployment error. -/
theorem get_resolves (reaches : Reaches node thresholds (start workshop) s) (hidle : Idle s k)
    (hr : r.redeploy = false) (hnone : (s.state k).cache.entries.get? r.slot = none) :
    let o := (DeploymentCache.get (Workshop.registry node) thresholds r).run
      ((s.state k).cache, s.workshop)
    ∃ calls exchanges y, Resolves (s.circumstances node r.name) r calls exchanges y ∧
      o.result = ((r.outcome y).mapError .deployment).map (·, (s.state k).cache.works.length) ∧
      (r.key = .canonical →
        (∀ c, .setAsDeployed c ∈ calls → o.world.2.canonical r.name = some c) ∧
        ((∀ c, .setAsDeployed c ∉ calls) →
          o.world.2.canonical r.name = s.workshop.canonical r.name)) := by
  intro o
  obtain ⟨t, comes, hcache, hworkshop, hcallers, -⟩ := @exists_comes _ node thresholds s k r false
  have hi : (t.state k).callers[(s.state k).callers.length]? = some (.obtaining r) := by
    simp [hcallers]
  have hidle' : Idle t k := by
    unfold Idle
    rw [hcache]
    exact hidle
  rw [← hcache] at hnone
  have before := reaches.step comes
  obtain ⟨past, run⟩ := before.run k
  obtain ⟨s', ⟨t', obtains, after⟩, -, hentries, hothers, hworld, z, hz, hresult⟩ :=
    @exists_answers _ node thresholds t k _ r hi hidle' run.coherent
  have hinstall := DeploymentCache.obtain_of_install (r := r) (.inr hnone)
  have hcurrent : (s'.state k).cache.entries.get? r.slot =
      some (t.state k).cache.works.length := by
    rw [hentries, hinstall, DeploymentCache.entries_install]
    exact OrderedMap.get?_insert_self _ _ _
  -- the work is on its course from the beginning to the end of the call
  have first := (Reaches.refl t).step obtains
  obtain ⟨⟨d, h⟩, -⟩ := onCourse_of_obtain before obtains hi hnone
  obtain ⟨d, h⟩ := h.reaches before first after hr hcurrent (alone_of_desks hothers)
  obtain ⟨past, run⟩ := (before.trans (first.trans after)).run k
  rw [hinstall, DeploymentCache.install_number] at hz hresult
  have hanswered : (s'.state k).callers[(s.state k).callers.length]? =
      some (.answered (t.state k).cache.works.length z) := by
    rw [hz]
    exact List.getElem?_set_self (List.getElem?_eq_some_iff.mp hi).1
  obtain ⟨y, rfl, resolves⟩ := h.resolves (run.served.answered _ _ z hanswered)
  obtain ⟨-, -, hcalls, -⟩ := docket?_eq_some_iff.mp h.docket
  have hcircumstances : t.circumstances node r.name = s.circumstances node r.name := by
    unfold circumstances
    rw [hworkshop]
  rw [hcache, hworkshop] at hworld hresult
  have hend : o.world.2 = s'.workshop := congrArg Prod.snd hworld
  refine ⟨_, _, y, hcircumstances ▸ resolves, hresult, ?_⟩
  intro hkey
  rw [hend, ← hworkshop]
  constructor
  · intro c hc
    exact h.set hkey c (hcalls ▸ hc)
  · intro hc
    exact h.kept hkey fun c hmem => hc c (hcalls ▸ hmem)

/-- A contract that a call under no address returns was created by the transaction that its handle
has, if only the caches have set canonical instances. -/
theorem errand_constructs (hstart : ∀ name, workshop.canonical name = none)
    (reaches : Reaches node thresholds (start workshop) s) (hidle : ∀ k, Idle s k)
    (errand : Errand) (hkey : errand.request.key = .canonical)
    (hreturns : ((errand.action node thresholds).run
      ((s.state errand.cache).cache, s.workshop)).result = .ok (c, id)) :
    ∃ s', Reaches node thresholds s s' ∧ s'.world = errand.perform node thresholds s.world ∧
      Created s' c ∧ ∃ hash, c.construction = .ok hash := by
  obtain ⟨s', does⟩ := exists_does_errand reaches hidle errand
  obtain ⟨t, p, before, after, hasks, hslot⟩ := does.asks
  obtain ⟨id', z, hcallers, hresult⟩ := does.answered
  obtain rfl : z = .ok c := by
    rw [hreturns] at hresult
    cases z with
    | ok c' => exact congrArg Except.ok (Prod.mk.inj (Except.ok.inj hresult)).1.symm
    | error e => cases hresult
  have hanswered : (s'.state errand.cache).callers[(s.state errand.cache).callers.length]? =
      some (.answered id' (.ok c)) := by
    simp [hcallers]
  have hslot : p.slot? = some (errand.request.name, .canonical) := by
    rw [hslot, ← hkey]
    rfl
  have hcreated := created_of_answered hstart (reaches.trans before) after hasks hslot hanswered
  refine ⟨s', does.reaches, does.world, hcreated, ?_⟩
  obtain ⟨-, -, receipt, -, -, -, htransaction⟩ := hcreated
  unfold Contract.construction
  rw [htransaction]
  exact ⟨_, rfl⟩

end Site

end Deployment

end ContractHarness
