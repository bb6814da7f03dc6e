import ContractHarness.Proofs.Deployment.Interleaving

/-!
# Rehearsed callers

The callers of a schedule take turns in one fixed order, in front of a registry that is rehearsed.
Each of their turns is made up of moves, so that every state that a schedule gets into is the last
state of a run, and what holds in all runs holds for every cache of every schedule.
-/

set_option autoImplicit false

namespace ContractHarness.Deployment

open Rehearsal

variable {ε α β : Type} {k : Nat} {sch sch' : Schedule} {thresholds : Report.Thresholds}

/-- A cache of a schedule, if there is one, is at the end of a run. -/
def Shown (thresholds : Report.Thresholds) (k : Nat) (sch : Schedule) : Prop :=
  sch.caches[k]? = none ∨ ∃ s past, AnyRun Directory.setAsDeployed thresholds (s :: past) ∧
    s.world = sch.directory ∧ sch.caches[k]? = some s.cache

/-- An action leaves caches at the end of runs. -/
def Shows (thresholds : Report.Thresholds) (k : Nat) (x : Action Schedule ε α) : Prop :=
  ∀ sch, Shown thresholds k sch → Shown thresholds k (x.run sch).world

/-! ## Sequences of actions -/

/-- A result alone leaves the caches at the end of their runs. -/
theorem Shows.pure (a : α) : Shows thresholds k (Pure.pure a : Action Schedule ε α) :=
  fun _ h => h

/-- Two actions, one after the other, leave the caches at the end of runs when each of them does. -/
theorem Shows.bind {x : Action Schedule ε α} {f : α → Action Schedule ε β}
    (hx : Shows thresholds k x) (hf : ∀ a, Shows thresholds k (f a)) :
    Shows thresholds k (x >>= f) := by
  intro sch h
  have h := hx sch h
  rw [Action.run_bind]
  generalize x.run sch = o at h
  obtain ⟨result, world, notices⟩ := o
  cases result with
  | ok a => exact hf a world h
  | error e => exact h

/-- Whatever leaves a cache alone can be taken for a change of the registry. -/
theorem Shown.elsewhere (h : Shown thresholds k sch) (hcaches : sch'.caches[k]? = sch.caches[k]?) :
    Shown thresholds k sch' := by
  rcases h with hnone | ⟨s, past, run, -, hcache⟩
  · exact .inl (hcaches.trans hnone)
  · exact .inr ⟨_, _, run.step (.elsewhere s sch'.directory) trivial, rfl, hcaches.trans hcache⟩

/-! ## Turns of work -/

/-- A change of a cache puts it back changed. -/
theorem caches_updateCache_self {f : DeploymentCache → DeploymentCache} {cache : DeploymentCache}
    (h : sch.caches[k]? = some cache) : (sch.updateCache k f).caches[k]? = some (f cache) := by
  unfold Schedule.updateCache
  rw [List.getElem?_modify, h]
  simp

/-- A change of a cache changes no other one. -/
theorem caches_updateCache_ne {j : Nat} (h : j ≠ k) (f : DeploymentCache → DeploymentCache) :
    (sch.updateCache j f).caches[k]? = sch.caches[k]? := by
  unfold Schedule.updateCache
  rw [List.getElem?_modify]
  simp [h]

/-- To make a call of the registry changes no cache. -/
theorem caches_placeCall (key : WorkKey) : (sch.placeCall key).caches = sch.caches := by
  unfold Schedule.placeCall
  split
  · rfl
  · split <;> rfl

/-- A turn of work is a move of its cache. -/
theorem Shown.work {key : WorkKey} {w w' : Work} (h : Shown thresholds k sch)
    (hw : sch.work? key = some w) (hcaches : sch'.caches[k]? = (sch.putWork key w').caches[k]?)
    (made : ∀ s : State Directory, s.cache.work? key.2 = some w → s.world = sch.directory →
      ∃ m t, Step Directory.setAsDeployed thresholds s m t ∧
        t.cache = s.cache.update key.2 fun _ => w') : Shown thresholds k sch' := by
  by_cases hk : key.1 = k
  · subst hk
    rcases h with hnone | ⟨s, past, run, hworld, hcache⟩
    · unfold Schedule.work? at hw
      rw [hnone] at hw
      cases hw
    have hw : s.cache.work? key.2 = some w := by
      unfold Schedule.work? at hw
      rw [hcache] at hw
      exact hw
    obtain ⟨m, t, step, ht⟩ := made s hw hworld
    have run := run.step step trivial
    refine .inr ⟨_, _, run.step (.elsewhere t sch'.directory) trivial, rfl, ?_⟩
    rw [hcaches]
    exact (caches_updateCache_self hcache).trans (congrArg some ht.symm)
  · exact h.elsewhere (hcaches.trans (caches_updateCache_ne hk _))

/-- The result of work is the same in front of any world that is a registry. -/
theorem result_deployed {σ : Type} {w : Work} (hstage : w.stage = .deploying)
    (set : Contract → Action σ ErrorChain Unit) (answer : Except ErrorChain Contract)
    (s : State σ) :
    ((w.deployed set thresholds answer : Action σ ε Work).run s.world).result =
      .ok (w.settle (s.deploymentResult set w answer)) := by
  unfold Work.deployed
  rw [hstage]
  cases answer with
  | error e => rfl
  | ok contract =>
    show Except.ok (w.settle ((w.adopt set thresholds contract).run s.world).result) = _
    unfold State.deploymentResult
    cases hadopts : w.adopts with
    | false => rw [(Work.run_adopt_of_not_adopts hadopts set thresholds contract s.world).1]; rfl
    | true => rw [(Work.run_adopt_of_adopts hadopts set thresholds contract s.world).1]; rfl

/-- The answer of a deployment is received in one move, after the registry has deployed. -/
theorem Shown.receiveDeployment {key : WorkKey} {w : Work} (h : Shown thresholds k sch)
    (hw : sch.work? key = some w) (hstage : w.stage = .deploying) (number : Nat) :
    Shown thresholds k
      ((Schedule.receiveDeployment key w number : Action Schedule ε Unit).run sch).world := by
  let s : State Directory := { world := (sch.directory.deploy w.request.name number).2 }
  let answer := (sch.directory.deploy w.request.name number).1
  obtain ⟨directory, hrun⟩ : ∃ directory,
      ((Schedule.receiveDeployment key w number : Action Schedule ε Unit).run sch).world =
        Schedule.putWork { sch with directory } key
          (w.settle (s.deploymentResult Directory.setAsDeployed w answer)) := by
    have hresult := @result_deployed ε sch.thresholds _ w hstage Directory.setAsDeployed answer s
    unfold Schedule.receiveDeployment
    simp only [Action.run_bind, Action.run_look, Action.run_change, Action.run_within]
    generalize (w.deployed Directory.setAsDeployed sch.thresholds answer).run s.world = o at hresult
    rw [hresult]
    exact ⟨o.world, rfl⟩
  rw [hrun]
  have h : Shown thresholds k { sch with directory := s.world } := h.elsewhere rfl
  refine h.work hw rfl ?_
  intro t hw hworld
  refine ⟨_, _, .deployed answer hw hstage, ?_⟩
  rw [State.world_receiveDeployment hstage, State.cache_proceed, State.cache_afterDeployment]
  unfold State.deploymentResult
  rw [hworld]

/-- A turn of work leaves all caches at the end of runs. -/
theorem Shows.turn (key : WorkKey) :
    Shows thresholds k (Schedule.turn key : Action Schedule ε Unit) := by
  intro sch h
  unfold Schedule.turn
  rw [Action.run_bind, Action.run_look]
  dsimp only
  cases hw : sch.work? key with
  | none => exact h
  | some w =>
    dsimp only
    cases hstage : w.stage with
    | fresh =>
      show Shown thresholds k ((sch.putWork key w.begin).placeCall key)
      apply h.work hw
      · rw [caches_placeCall]
      · intro s hw _
        exact ⟨_, _, .begin hw hstage, rfl⟩
    | lookingUp =>
      dsimp only
      split
      · show Shown thresholds k ((sch.putWork key (w.lookedUp
          (sch.directory.lookUp w.request.name w.request.key))).placeCall key)
        apply h.work hw
        · rw [caches_placeCall]
        · intro s hw _
          exact ⟨_, _, .lookedUp _ hw hstage, rfl⟩
      · exact h
    | deploying =>
      dsimp only
      split
      · exact h.receiveDeployment hw hstage _
      · exact h
    | settled x => exact h

/-! ## Turns of callers -/

/-- A request obtains its work, after the entry was evicted if it is to be. -/
theorem Shown.ask {s : State Directory} {past : List (State Directory)}
    (run : AnyRun Directory.setAsDeployed thresholds (s :: past)) (r : DeploymentRequest)
    (evicts : Bool) :
    ∃ t past', AnyRun Directory.setAsDeployed thresholds (t :: past') ∧ t.world = s.world ∧
      t.cache = (if evicts then (s.cache.evict r.slot).obtain { r with redeploy := true }
        else s.cache.obtain r).1 := by
  have run := run.step (.come s r evicts) trivial
  have hlast : ∀ p : Progress, (s.callers ++ [p])[s.callers.length]? = some p := by
    intro p
    rw [List.getElem?_append_right (Nat.le_refl _), Nat.sub_self]
    rfl
  cases evicts with
  | false => exact ⟨_, _, run.step (.obtain (hlast _)) trivial, rfl, rfl⟩
  | true =>
    have run := run.step (.evict (hlast _)) trivial
    refine ⟨_, _, run.step (.obtain (r := { r with redeploy := true }) (i := s.callers.length) ?_)
      trivial, rfl, rfl⟩
    apply List.getElem?_set_self
    simp

/-- A caller that asks moves its cache as a caller may. -/
theorem Shows.ask (caller : Caller) :
    Shows thresholds k (Schedule.ask caller : Action Schedule ε Caller) := by
  intro sch h
  unfold Schedule.ask Action.run
  dsimp only
  cases hwaiting : caller.waiting with
  | onWork id => exact h
  | toAsk r evicts =>
    dsimp only
    cases hcache : sch.caches[caller.cache]? with
    | none => exact h
    | some cache =>
      by_cases hk : caller.cache = k
      · subst hk
        rcases h with hnone | ⟨s, past, run, hworld, hs⟩
        · rw [hnone] at hcache
          cases hcache
        obtain rfl := Option.some.inj (hcache.symm.trans hs)
        obtain ⟨t, past', run, htworld, htcache⟩ := Shown.ask run r evicts
        refine .inr ⟨t, past', run, htworld.trans hworld, ?_⟩
        exact (caches_updateCache_self hcache).trans (congrArg some htcache.symm)
      · exact h.elsewhere (caches_updateCache_ne hk _)

/-- A caller that gets its answer moves no cache. -/
theorem Shows.answer? (caller : Caller) (key : WorkKey) :
    Shows thresholds k (Schedule.answer? caller key : Action Schedule ε (Option Answer)) := by
  intro sch h
  unfold Schedule.answer? Action.run
  dsimp only
  split
  · exact h
  · exact h
  · unfold Schedule.share
    split
    · exact h
    · exact h.elsewhere rfl

/-- A turn of a caller is made of moves. -/
theorem Shows.poll (caller : Caller) :
    Shows thresholds k (Schedule.poll caller : Action Schedule ε (Caller ⊕ Answer)) := by
  unfold Schedule.poll
  apply (Shows.ask caller).bind
  intro caller
  split
  · exact .pure _
  · next id hwaiting =>
    apply (Shows.turn _).bind
    intro _
    apply (Shows.turn _).bind
    intro _
    apply (Shows.turn _).bind
    intro _
    apply (Shows.answer? caller _).bind
    intro answer
    cases answer with
    | some answer => exact .pure _
    | none => exact .pure _

/-- A turn of each of the callers is made of moves. -/
theorem Shows.pass (callers : List Caller) :
    Shows thresholds k (Schedule.pass callers : Action Schedule ε (List Caller × List Answer)) := by
  induction callers with
  | nil => exact .pure _
  | cons caller rest ih =>
    unfold Schedule.pass
    apply (Shows.poll caller).bind
    intro polled
    cases polled with
    | inl caller => exact ih.bind fun _ => .pure _
    | inr answer => exact ih.bind fun _ => .pure _

/-- Rounds of turns are made of moves, however many there are. -/
theorem Shows.passes (fuel : Nat) (callers : List Caller) :
    Shows thresholds k
      (Schedule.passes fuel callers : Action Schedule ε (List Caller × List Answer)) := by
  induction fuel generalizing callers with
  | zero => exact .pure _
  | succ fuel ih =>
    unfold Schedule.passes
    apply (Shows.pass callers).bind
    rintro ⟨waiting, answers⟩
    dsimp only
    split
    · exact .pure _
    · exact (ih waiting).bind fun _ => .pure _

/-- To let the callers have their turns is made of moves. -/
theorem Shows.settle :
    Shows thresholds k (Schedule.settle : Action Schedule ε (List Answer)) := by
  have hlook : Shows thresholds k (Action.look : Action Schedule ε Schedule) := fun _ h => h
  unfold Schedule.settle
  apply hlook.bind
  intro sch
  apply (Shows.passes _ sch.callers).bind
  rintro ⟨waiting, answers⟩
  intro sch h
  exact h.elsewhere rfl

/-! ## Schedules -/

/-- The schedules that can be rehearsed: callers come and go, have their turns, and are given a new
cache, and the registry is told what to answer in any way. -/
inductive Rehearsable : Schedule → Prop where
  | start (directory : Directory) (thresholds : Report.Thresholds) :
    Rehearsable { directory, thresholds }
  | come {sch : Schedule} (before : Rehearsable sch) (name : String) (r : DeploymentRequest)
    (evicts : Bool) : Rehearsable (sch.come name r evicts)
  | leave {sch : Schedule} (before : Rehearsable sch) (name : String) :
    Rehearsable (sch.leave name)
  | settle {sch : Schedule} (before : Rehearsable sch) :
    Rehearsable ((Schedule.settle : Action Schedule Empty (List Answer)).run sch).world
  | renewCache {sch : Schedule} (before : Rehearsable sch) : Rehearsable sch.renewCache
  | tell {sch : Schedule} (before : Rehearsable sch) (directory : Directory) :
    Rehearsable { sch with directory }

/-- Every cache of a schedule that can be rehearsed is at the end of a run. -/
theorem Rehearsable.shown (thresholds : Report.Thresholds) (h : Rehearsable sch) (k : Nat) :
    Shown thresholds k sch := by
  have hstart : ∀ directory, ∃ s past, AnyRun Directory.setAsDeployed thresholds (s :: past) ∧
      s.world = directory ∧ some DeploymentCache.empty = some s.cache :=
    fun directory => ⟨_, _, .start directory, rfl, rfl⟩
  induction h with
  | start directory _ =>
    cases k with
    | zero => exact .inr (hstart directory)
    | succ k => exact .inl rfl
  | come before name r evicts ih => exact ih.elsewhere rfl
  | leave before name ih => exact ih.elsewhere rfl
  | settle before ih => exact Shows.settle _ ih
  | @renewCache sch before ih =>
    unfold Schedule.renewCache
    rcases Nat.lt_trichotomy k sch.caches.length with hk | hk | hk
    · exact ih.elsewhere (List.getElem?_append_left hk)
    · subst hk
      right
      show ∃ s past, _ ∧ _ ∧ (sch.caches ++ [DeploymentCache.empty])[sch.caches.length]? = _
      rw [List.getElem?_append_right (Nat.le_refl _), Nat.sub_self]
      exact hstart sch.directory
    · left
      apply List.getElem?_eq_none
      rw [List.length_append]
      exact hk
  | tell before directory ih => exact ih.elsewhere rfl

/-- The entries of a rehearsed cache are the work that is not superseded. -/
theorem Rehearsable.coherent (h : Rehearsable sch) {cache : DeploymentCache}
    (hcache : sch.caches[k]? = some cache) : cache.Coherent := by
  rcases h.shown .default k with hnone | ⟨s, past, run, -, hs⟩
  · rw [hnone] at hcache
    cases hcache
  · obtain rfl := Option.some.inj (hcache.symm.trans hs)
    exact run.coherent

end ContractHarness.Deployment
