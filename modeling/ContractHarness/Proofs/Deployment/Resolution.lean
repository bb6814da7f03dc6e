import ContractHarness.Proofs.Deployment.Canonical
import ContractHarness.Proofs.Deployment.Course
import ContractHarness.Proofs.Deployment.Undisturbed
import ContractHarness.Rehearsal.Node

/-!
# How requests are resolved

A request that demands no new instance and finds no entry has work installed. That work runs its
course beside everything else that happens at the site: other work of the cache, other caches, and
whatever the chain does. Unless a new instance is demanded in the meantime, its callers are answered
with what `Resolves` allows, and they can be answered if the node answers.

Under no address the work relies on the canonical instance. In its own cache nobody else sets one of
that name, because the work is the only one on the key that is not superseded; of other caches this
has to be asked.
-/

set_option autoImplicit false

namespace ContractHarness.Deployment

open Rehearsal (RegistryCall WorkKey)

variable {σ : Type}

/-- The artifact that a task is about is the one that the work asked for. -/
structure Docket.Named (d : Docket) : Prop where
  receipt : ∀ c, d.task = some (.receipt c) → c.name = d.work.request.name
  made : ∀ c, d.task = some (.made (.ok c)) → c.name = d.work.request.name

namespace Docket

variable {d d' : Docket} {w : Work} {workshop : Workshop σ} {account : Address}

/-- Work that comes to a new stage calls the store for the artifact that it asked for. -/
theorem Named.goOn (h : d.Named) (hrequest : w.request = d.work.request) :
    (d.goOn workshop w).Named := by
  have htask : ∀ task, w.task? workshop = some task →
      (∀ c, task = .receipt c → c.name = w.request.name) ∧ ∀ c, task ≠ .made (.ok c) := by
    intro task htask
    unfold Work.task? at htask
    split at htask
    · obtain rfl := Option.some.inj htask
      cases workshop.sought w.request.name w.request.key <;> exact ⟨nofun, nofun⟩
    · obtain rfl := Option.some.inj htask
      unfold Workshop.planned
      split
      · exact ⟨nofun, nofun⟩
      · next artifact _ =>
        cases Workshop.creationCode w.request.name artifact w.request.args with
        | error e => exact ⟨nofun, nofun⟩
        | ok code =>
          refine ⟨?_, nofun⟩
          rintro c hc
          obtain rfl := Task.receipt.inj hc
          rfl
    · cases htask
    · cases htask
  unfold Docket.goOn
  cases hnew : w.task? workshop with
  | none =>
    constructor
    · intro c hc
      exact (h.receipt c hc).trans (congrArg _ hrequest.symm)
    · intro c hc
      exact (h.made c hc).trans (congrArg _ hrequest.symm)
  | some task =>
    obtain ⟨hreceipt, hmade⟩ := htask task hnew
    constructor
    · intro c hc
      exact hreceipt c (Option.some.inj hc)
    · intro c hc
      exact absurd (Option.some.inj hc) (hmade c)

/-- Through every step the task of a docket is about the artifact that the work asked for. -/
theorem Named.turn (h : d.Named) (turn : Turn account workshop d d') : d'.Named := by
  cases turn with
  | stays request stage mark =>
    constructor
    · intro c hc
      exact (h.receipt c hc).trans (congrArg _ request.symm)
    · intro c hc
      exact (h.made c hc).trans (congrArg _ request.symm)
  | begins stage => exact h.goOn (request_begin _)
  | lookedUp stage told => exact h.goOn (request_lookedUp _ _)
  | deployed stage told => exact ⟨h.receipt, h.made⟩
  | code asks answer => exact ⟨nofun, nofun⟩
  | @receipt creation asks answer =>
    refine ⟨nofun, ?_⟩
    intro c hc
    have hmade : creation.createdBy answer = .ok c := Task.made.inj (Option.some.inj hc)
    have hname : c.name = creation.name := by
      unfold Creation.createdBy at hmade
      split at hmade
      · cases hmade
      · split at hmade
        · cases hmade
        · obtain rfl := Except.ok.inj hmade
          rfl
    exact hname.trans (h.receipt creation asks)

end Docket

namespace Site

variable {node : Node σ} {thresholds : Report.Thresholds} {workshop : Workshop σ}
variable {s s' u u' : Site σ} {e : Event σ} {k j i id : Nat} {key : WorkKey} {d d' : Docket}
  {w : Work} {r : DeploymentRequest} {name : ArtifactName} {c : Contract}

/-- In every run the tasks are about the artifacts that were asked for. -/
theorem Reaches.named (h : Reaches node thresholds (start workshop) s)
    (hd : s.docket? key = some d) : d.Named := by
  have hall : Tidy s ∧ ∀ key d, s.docket? key = some d → d.Named := by
    apply h.keeps (P := fun s => Tidy s ∧ ∀ key d, s.docket? key = some d → d.Named)
    · rintro s e s' step ⟨htidy, hnamed⟩
      refine ⟨step.tidy htidy, ?_⟩
      intro key d' hd'
      cases hd : s.docket? key with
      | none =>
        obtain ⟨i, r, -, -, -, -, -, htask, -⟩ := step.opened htidy hd hd'
        constructor
        · intro c hc
          rw [htask] at hc
          cases hc
        · intro c hc
          rw [htask] at hc
          cases hc
      | some d =>
        obtain ⟨d'', hd'', turn⟩ := step.docket hd
        obtain rfl := Option.some.inj (hd'.symm.trans hd'')
        exact (hnamed key d hd).turn turn
    · refine ⟨fun _ _ => ⟨rfl, rfl⟩, ?_⟩
      intro key d hd
      cases hd
  exact hall.2 key d hd

/-! ## The calls of a cache -/

/-- A step adds to the calls of a cache. -/
theorem Step.record (step : Step node thresholds s e s') (k : Nat) :
    ∃ more, (s'.state k).record = (s.state k).record ++ more := by
  rcases step.state k with ⟨m, t, -, made, hs'⟩ | hs'
  · rw [hs']
    exact made.record
  · rw [hs']
    exact ⟨[], (List.append_nil _).symm⟩

/-- The calls that a cache has made since an earlier state. -/
def callsSince (u s : Site σ) (k : Nat) : List (Nat × RegistryCall) :=
  (s.state k).record.drop (u.state k).record.length

/-- The record of a cache only grows, by the calls that it makes. -/
theorem Reaches.record (h : Reaches node thresholds u s) (k : Nat) :
    (s.state k).record = (u.state k).record ++ callsSince u s k := by
  have hmore : ∃ more, (s.state k).record = (u.state k).record ++ more := by
    apply h.keeps (P := fun s => ∃ more, (s.state k).record = (u.state k).record ++ more)
    · rintro s e s' step ⟨more, hmore⟩
      obtain ⟨rest, hrest⟩ := step.record k
      refine ⟨more ++ rest, ?_⟩
      rw [hrest, hmore, List.append_assoc]
    · exact ⟨[], (List.append_nil _).symm⟩
  obtain ⟨more, hmore⟩ := hmore
  unfold callsSince
  rw [hmore, List.drop_left]

/-- The calls that a step adds to the record come last among those since an earlier state. -/
theorem Step.callsSince (h : Reaches node thresholds u s) (step : Step node thresholds s e s')
    {more : List (Nat × RegistryCall)}
    (hmore : (s'.state k).record = (s.state k).record ++ more) :
    callsSince u s' k = callsSince u s k ++ more := by
  have hs' := (h.step step).record k
  rw [hmore, h.record k, List.append_assoc] at hs'
  exact (List.append_cancel_left hs').symm

/-- No other cache has set a contract of the name as deployed since an earlier state. -/
def Alone (u s : Site σ) (k : Nat) (name : ArtifactName) : Prop :=
  ∀ j, j ≠ k → ∀ id c, (id, .setAsDeployed c) ∈ callsSince u s j → c.name ≠ name

/-- No other cache has set a contract of the name before a step if none has after it. -/
theorem Alone.before (h : Alone u s' k name) (hreaches : Reaches node thresholds u s)
    (step : Step node thresholds s e s') : Alone u s k name := by
  intro j hj id c hmem
  obtain ⟨more, hmore⟩ := step.record j
  apply h j hj id c
  rw [step.callsSince hreaches hmore]
  exact List.mem_append_left more hmem

/-- While the other caches stay as they are, none of them sets a contract. -/
theorem alone_of_desks (hothers : ∀ j, j ≠ k → s.desks j = u.desks j) : Alone u s k name := by
  intro j hj id c hmem
  have hrecord : (s.state j).record = (u.state j).record := congrArg Desk.record (hothers j hj)
  unfold callsSince at hmem
  rw [hrecord, List.drop_length] at hmem
  cases hmem

/-- It depends on the records only whether another cache has set a contract. -/
theorem Alone.congr (h : Alone u s k name)
    (hothers : ∀ j, j ≠ k → (s'.state j).record = (s.state j).record) : Alone u s' k name := by
  intro j hj id c hmem
  apply h j hj id c
  unfold callsSince at hmem ⊢
  rw [hothers j hj] at hmem
  exact hmem

/-! ## Work on its course -/

/-- What a request for an artifact finds at a site. -/
def circumstances (s : Site σ) (node : Node σ) (name : ArtifactName) : Circumstances where
  account := node.defaultAccount
  held := s.workshop.holds name
  canonical := s.workshop.canonical name

/-- The work on a request that was made in an earlier state is on its course. The canonical instance
is the contract that was set as deployed for it, or the one that there was before. -/
structure OnCourse (node : Node σ) (u s : Site σ) (key : WorkKey) (r : DeploymentRequest)
    (d : Docket) : Prop where
  docket : s.docket? key = some d
  course : AsFar (u.circumstances node r.name) r d
  set : r.key = .canonical → ∀ c, .setAsDeployed c ∈ d.calls →
    s.workshop.canonical r.name = some c
  kept : r.key = .canonical → (∀ c, .setAsDeployed c ∉ d.calls) →
    s.workshop.canonical r.name = u.workshop.canonical r.name

/-- A contract is set for a piece of work when its cache has it on record. -/
theorem setAsDeployed_mem_calls (hd : s.docket? (k, id) = some d) :
    .setAsDeployed c ∈ d.calls ↔ (id, .setAsDeployed c) ∈ (s.state k).record := by
  obtain ⟨-, -, hcalls, -⟩ := docket?_eq_some_iff.mp hd
  rw [← hcalls]
  exact mem_callsOf

/-- Work that waits for its deployment has set no contract. -/
theorem AsFar.setAsDeployed_notMem {x : Circumstances} (h : AsFar x r d)
    (hstage : d.work.stage = .deploying) : .setAsDeployed c ∉ d.calls := by
  have hlookUp : RegistryCall.setAsDeployed c ≠ r.lookUpCall := by
    unfold DeploymentRequest.lookUpCall
    cases r.key <;> simp [RegistryCall.lookUp]
  cases h with
  | sends _ _ _ _ _ | made _ _ _ _ _ => simp [hlookUp, DeploymentRequest.deployCall]
  | fresh _ stage | asks _ stage | told _ stage | settled _ stage =>
    rw [stage] at hstage
    cases hstage

/-- The work on the request is not superseded, and was not before the step. -/
theorem current_before (before : Reaches node thresholds (start workshop) s')
    (step : Step node thresholds s e s') (hd : s.docket? (k, id) = some d)
    (hcurrent : (s'.state k).cache.entries.get? r.slot = some id) : d.work.superseded = false := by
  obtain ⟨past, run⟩ := before.run k
  obtain ⟨w, hw, -, hmark⟩ := (run.coherent.current_iff _ _).mp hcurrent
  obtain ⟨d', hd', turn⟩ := step.docket hd
  obtain ⟨hw', -⟩ := docket?_eq_some_iff.mp hd'
  obtain rfl := Option.some.inj (hw.symm.trans hw')
  cases hold : d.work.superseded with
  | false => rfl
  | true =>
    rw [turn.superseded hold] at hmark
    cases hmark

/-- A step in which nothing is set as deployed for the work keeps the canonical instance as the work
leaves it. -/
theorem OnCourse.keep (h : OnCourse node u s (k, id) r d) (hd' : s'.docket? (k, id) = some d')
    (hcourse : AsFar (u.circumstances node r.name) r d')
    (hcalls : ∀ c, .setAsDeployed c ∈ d'.calls ↔ .setAsDeployed c ∈ d.calls)
    (hcanonical : r.key = .canonical →
      s'.workshop.canonical r.name = s.workshop.canonical r.name) :
    OnCourse node u s' (k, id) r d' := by
  refine ⟨hd', hcourse, ?_, ?_⟩
  · intro hkey c hc
    rw [hcanonical hkey]
    exact h.set hkey c ((hcalls c).mp hc)
  · intro hkey hnone
    rw [hcanonical hkey]
    apply h.kept hkey
    intro c hc
    exact hnone c ((hcalls c).mpr hc)

/-- A step keeps work on its course that no new instance takes the place of. -/
theorem OnCourse.step (before : Reaches node thresholds (start workshop) u)
    (reaches : Reaches node thresholds u s) (step : Step node thresholds s e s')
    (hr : r.redeploy = false) (h : OnCourse node u s (k, id) r d)
    (hcurrent : (s'.state k).cache.entries.get? r.slot = some id)
    (halone : Alone u s' k r.name) : ∃ d', OnCourse node u s' (k, id) r d' := by
  have hreaches := before.trans reaches
  obtain ⟨d', hd', turn⟩ := step.docket h.docket
  have hmark := current_before (hreaches.step step) step h.docket hcurrent
  have hheld : s.workshop.holds r.name = u.workshop.holds r.name :=
    reaches.keeps (P := fun s => s.workshop.holds r.name = u.workshop.holds r.name)
      (fun step h => (step.holds _).trans h) rfl
  have hcourse : AsFar (u.circumstances node r.name) r d' := by
    apply h.course.turn turn hr hmark hheld
    intro hcalls hkey
    apply h.kept hkey
    simp [hcalls]
  have hkept : ∀ c, .setAsDeployed c ∈ d.calls → .setAsDeployed c ∈ d'.calls := by
    intro c hc
    obtain ⟨more, hmore⟩ := step.record k
    rw [setAsDeployed_mem_calls h.docket] at hc
    rw [setAsDeployed_mem_calls hd', hmore]
    exact List.mem_append_left more hc
  rcases step.canonical with
    ⟨hsame, hrecord⟩ | ⟨l, n, v, made, -, hv, hstage, hadopts, htask, hself, hothers, hset⟩
  · refine ⟨d', h.keep hd' hcourse (fun c => ⟨?_, hkept c⟩) fun _ => hsame _⟩
    intro hc
    rw [setAsDeployed_mem_calls hd'] at hc
    rw [setAsDeployed_mem_calls h.docket]
    exact hrecord k id c hc
  obtain ⟨hvkey, hvcurrent⟩ := adopts_iff.mp hadopts
  -- the contract has the name of the work that adopts it
  have hname : made.name = v.request.name := by
    have hvd : s.docket? (l, n) = some ⟨v, _, _, _⟩ :=
      docket?_eq_some_iff.mpr ⟨hv, htask, rfl, rfl⟩
    exact (hreaches.named hvd).made made rfl
  obtain ⟨hwork, -, hcalls, -⟩ := docket?_eq_some_iff.mp h.docket
  by_cases hown : (l, n) = (k, id)
  · obtain ⟨rfl, rfl⟩ := Prod.mk.inj hown
    obtain rfl := Option.some.inj (hv.symm.trans hwork)
    have hrequest := h.course.request
    have hnone : ∀ c, .setAsDeployed c ∉ d.calls := fun c =>
      AsFar.setAsDeployed_notMem h.course hstage
    have hcalls' : ∀ c, .setAsDeployed c ∈ d'.calls ↔ c = made := by
      intro c
      rw [setAsDeployed_mem_calls hd', hself, List.mem_append,
        ← setAsDeployed_mem_calls h.docket]
      simp [hnone]
    refine ⟨d', hd', hcourse, ?_, ?_⟩
    · intro hkey c hc
      obtain rfl := (hcalls' c).mp hc
      rw [hset, hname, hrequest, if_pos rfl]
    · intro hkey hnone
      exact absurd ((hcalls' made).mpr rfl) (hnone made)
  · have hcalls' : ∀ c, .setAsDeployed c ∈ d'.calls ↔ .setAsDeployed c ∈ d.calls := by
      intro c
      refine ⟨?_, hkept c⟩
      intro hc
      rw [setAsDeployed_mem_calls hd'] at hc
      rw [setAsDeployed_mem_calls h.docket]
      by_cases hl : k = l
      · subst hl
        rw [hself, List.mem_append] at hc
        refine hc.resolve_right ?_
        intro hc
        obtain ⟨rfl, -⟩ := Prod.mk.inj (List.mem_singleton.mp hc)
        exact hown rfl
      · rw [hothers k hl] at hc
        exact hc
    refine ⟨d', h.keep hd' hcourse hcalls' ?_⟩
    intro hkey
    rw [hset, if_neg]
    -- no other cache sets the name, and no other work of this cache is current on the key
    intro hmade
    by_cases hl : l = k
    · subst hl
      obtain ⟨past, run⟩ := hreaches.run l
      have hslot : v.request.slot = d.work.request.slot := by
        unfold DeploymentRequest.slot
        rw [hvkey, ← hname, hmade, h.course.request, hkey]
      have hid := current_unique run.coherent hwork hv hslot hmark hvcurrent
      exact hown (by rw [hid])
    · have hmem : (n, .setAsDeployed made) ∈ callsSince u s' l := by
        rw [step.callsSince reaches hself]
        exact List.mem_append_right _ List.mem_cons_self
      exact halone l hl n made hmem hmade

/-! ## From a request on -/

/-- A request that finds no entry has work installed, which is at the beginning of its course. -/
theorem onCourse_of_obtain (before : Reaches node thresholds (start workshop) u)
    (obtains : Step node thresholds u (.move k (.obtain i)) u')
    (hasks : (u.state k).callers[i]? = some (.obtaining r))
    (hnone : (u.state k).cache.entries.get? r.slot = none) :
    (∃ d, OnCourse node u u' (k, (u.state k).cache.works.length) r d) ∧
      (u'.state k).callers[i]? = some (.holding (u.state k).cache.works.length) := by
  obtain ⟨past, run⟩ := before.run k
  have hfree : (u.state k).cache.work? (u.state k).cache.works.length = none :=
    List.getElem?_eq_none (Nat.le_refl _)
  obtain ⟨htask, hexchanges⟩ := before.tidy (k, (u.state k).cache.works.length)
    (docket?_eq_none_iff.mpr hfree)
  have hcalls : (u.state k).callsOf (u.state k).cache.works.length = [] := by
    have hrecorded := run.recorded (u.state k).cache.works.length
    rw [hfree] at hrecorded
    exact hrecorded
  cases obtains with
  | move made told =>
    cases made with
    | obtain waits =>
      obtain rfl := Progress.obtaining.inj (Option.some.inj (hasks.symm.trans waits))
      have hinstall := DeploymentCache.obtain_of_install (r := r) (.inr hnone)
      constructor
      · have hmove : (Move.obtain i : Move (Workshop σ)).work? ≠
            some (u.state k).cache.works.length := nofun
        refine ⟨⟨{ request := r }, none, [], []⟩, ?_, .fresh rfl rfl, ?_, fun _ _ => rfl⟩
        · rw [docket?_moved hmove, hinstall, DeploymentCache.work?_install, if_pos rfl, htask,
            hexchanges]
          exact congrArg (fun calls => some (Docket.mk _ _ calls _)) hcalls
        · intro _ c hc
          cases hc
      · rw [state_moved_self, hinstall]
        exact List.getElem?_set_self (List.getElem?_eq_some_iff.mp hasks).1

/-- An entry that there is after a step was there before it, if its work was. -/
theorem entry_before (before : Reaches node thresholds (start workshop) s)
    (step : Step node thresholds s e s') (hd : s.docket? (k, id) = some d)
    (hrequest : d.work.request = r)
    (hcurrent : (s'.state k).cache.entries.get? r.slot = some id) :
    (s.state k).cache.entries.get? r.slot = some id := by
  have hmark := current_before (before.step step) step hd hcurrent
  obtain ⟨past, run⟩ := before.run k
  obtain ⟨hwork, -⟩ := docket?_eq_some_iff.mp hd
  exact (run.coherent.current_iff _ _).mpr ⟨d.work, hwork, by rw [hrequest], hmark⟩

/-- Work stays on its course while no new instance is demanded and no other cache sets one. -/
theorem OnCourse.reaches (before : Reaches node thresholds (start workshop) u)
    (first : Reaches node thresholds u u') (after : Reaches node thresholds u' s)
    (hr : r.redeploy = false) (h : OnCourse node u u' (k, id) r d)
    (hcurrent : (s.state k).cache.entries.get? r.slot = some id)
    (halone : Alone u s k r.name) : ∃ d, OnCourse node u s (k, id) r d := by
  induction after with
  | refl => exact ⟨d, h⟩
  | @step s s' e after step ih =>
    have hreaches := first.trans after
    have hrequest : ∃ d, s.docket? (k, id) = some d ∧ d.work.request = r := by
      apply after.keeps (P := fun s => ∃ d, s.docket? (k, id) = some d ∧ d.work.request = r)
      · rintro s e s' step ⟨d, hd, hrequest⟩
        obtain ⟨d', hd', turn⟩ := step.docket hd
        exact ⟨d', hd', turn.request.trans hrequest⟩
      · exact ⟨d, h.docket, h.course.request⟩
    obtain ⟨d, hd, hrequest⟩ := hrequest
    have hcurrent' := entry_before (before.trans hreaches) step hd hrequest hcurrent
    obtain ⟨d, h⟩ := ih hcurrent' (halone.before hreaches step)
    exact h.step before hreaches step hr hcurrent halone

/-- Work on its course can always be settled. -/
theorem OnCourse.exists_finishes (h : OnCourse node u s (k, id) r d) :
    ∃ o, Finishes node thresholds s k id o := by
  have hd := h.docket
  cases h.course with
  | fresh _ stage => exact ⟨_, finishes_of_fresh hd stage⟩
  | asks _ stage => exact ⟨_, finishes_of_code hd stage rfl⟩
  | told _ stage => exact ⟨_, finishes_of_found hd stage rfl⟩
  | sends _ stage => exact ⟨_, finishes_of_receipt hd stage rfl⟩
  | made _ stage => exact ⟨_, finishes_of_made hd stage rfl⟩
  | settled _ stage => exact ⟨_, finishes_of_settled hd stage⟩

/-- Work on its course is settled as the request should be resolved. -/
theorem OnCourse.resolves {z : Except ErrorChain Contract} (h : OnCourse node u s (k, id) r d)
    (houtcome : (s.state k).cache.outcome? id = some z) : ∃ y, z = r.outcome y ∧
      Resolves (u.circumstances node r.name) r ((s.state k).callsOf id) (s.exchangesOf (k, id))
        y := by
  obtain ⟨hwork, -, hcalls, hexchanges⟩ := docket?_eq_some_iff.mp h.docket
  obtain ⟨w, hw, hstage⟩ := DeploymentCache.outcome?_eq_some_iff.mp houtcome
  obtain rfl := Option.some.inj (hwork.symm.trans hw)
  dsimp only at hcalls
  rw [hcalls, hexchanges]
  cases h.course with
  | settled _ stage _ _ resolves =>
    exact ⟨_, Stage.settled.inj (hstage.symm.trans stage), resolves⟩
  | fresh _ stage | asks _ stage | told _ stage | sends _ stage | made _ stage =>
    rw [stage] at hstage
    cases hstage

/-! ## The resolution of a request -/

/-- How a request for an artifact is resolved that was made in an earlier state. -/
structure Resolution (node : Node σ) (thresholds : Report.Thresholds) (u s : Site σ) (k i id : Nat)
    (r : DeploymentRequest) : Prop where
  /-- The caller keeps to one piece of work, unless it goes away. -/
  caller : ∃ p, (s.state k).callers[i]? = some p ∧ (p.work? = some id ∨ p = .gone)
  /-- What the caller is answered is the result of the request. -/
  answered : ∀ z, (s.state k).callers[i]? = some (.answered id z) → ∃ y, z = r.outcome y ∧
    Resolves (u.circumstances node r.name) r ((s.state k).callsOf id) (s.exchangesOf (k, id)) y
  /-- Under no address a contract that was set as deployed for the request is canonical. -/
  adopted : r.key = .canonical → ∀ c, .setAsDeployed c ∈ (s.state k).callsOf id →
    s.workshop.canonical r.name = some c
  /-- If none was, the canonical instance is the one that there was. -/
  kept : r.key = .canonical → (∀ c, .setAsDeployed c ∉ (s.state k).callsOf id) →
    s.workshop.canonical r.name = u.workshop.canonical r.name
  /-- A caller that waits can still be answered before a new instance is demanded. -/
  answerable : (s.state k).callers[i]? = some (.holding id) → ∃ s' z,
    Reaches node thresholds s s' ∧ (s'.state k).callers[i]? = some (.answered id z) ∧
      (s'.state k).cache.entries.get? r.slot = some id ∧ Alone u s' k r.name

/-- In every run of any number of caches over one store, whatever is canonical and whatever the node
answers: a request that demands no new instance and finds no entry is resolved as it should be, as
long as no new instance is demanded on its key and no other cache sets one of its name. -/
theorem resolution_of_reaches (before : Reaches node thresholds (start workshop) u)
    (obtains : Step node thresholds u (.move k (.obtain i)) u')
    (hasks : (u.state k).callers[i]? = some (.obtaining r)) (hr : r.redeploy = false)
    (hnone : (u.state k).cache.entries.get? r.slot = none)
    (after : Reaches node thresholds u' s)
    (hcurrent : (s.state k).cache.entries.get? r.slot = some (u.state k).cache.works.length)
    (halone : Alone u s k r.name) :
    Resolution node thresholds u s k i (u.state k).cache.works.length r := by
  have first : Reaches node thresholds u u' := (Reaches.refl u).step obtains
  obtain ⟨⟨d, h⟩, hholds⟩ := onCourse_of_obtain before obtains hasks hnone
  obtain ⟨d, h⟩ := h.reaches before first after hr hcurrent halone
  obtain ⟨-, -, hcalls, -⟩ := docket?_eq_some_iff.mp h.docket
  obtain ⟨past, run⟩ := (before.trans first).run k
  obtain ⟨later, run, hmem⟩ := after.extends run
  constructor
  · exact run.keeps_work hmem hholds rfl
  · intro z hz
    exact h.resolves (run.served.answered i _ z hz)
  · intro hkey c hc
    exact h.set hkey c (hcalls ▸ hc)
  · intro hkey hc
    exact h.kept hkey fun c hmem => hc c (hcalls ▸ hmem)
  · intro hi
    obtain ⟨o, hfinishes⟩ := @OnCourse.exists_finishes _ node thresholds _ _ _ _ _ _ h
    obtain ⟨t, reaches, hcalm, houtcome, -⟩ := hfinishes
    have hi' : (t.state k).callers[i]? = some (.holding _) := hcalm.callers ▸ hi
    have receives : Step node thresholds t _ _ := .move (.receive hi' houtcome) trivial
    refine ⟨_, o.result, reaches.step receives, ?_, ?_, ?_⟩
    · rw [state_moved_self]
      exact List.getElem?_set_self (List.getElem?_eq_some_iff.mp hi').1
    · rw [state_moved_self]
      exact (congrArg (fun m => m.get? r.slot) hcalm.entries).trans hcurrent
    · apply halone.congr
      intro j hj
      rw [state_moved_of_ne hj]
      exact congrArg Desk.record (hcalm.others j hj)

/-! ## A canonical instance that is gone -/

section Stale

open Rehearsal (Chain)

/-- An answer of the node is no call of a cache. -/
theorem record_note {workshop : Workshop σ} {exchange : Exchange} {task : Task} :
    ((s.note key workshop exchange task).state k).record = (s.state k).record := rfl

/-- A store that knows an instance of a token, on a chain without contracts. -/
def staleWorkshop : Workshop Chain where
  files := .folder []
  store := {
    root := ""
    paths := ∅
    loaded := OrderedMap.insert ∅ "Token" ⟨.empty, [0]⟩
    canonical := OrderedMap.insert ∅ "Token" ⟨"Token", Address.ofNat 7, .empty, none⟩ }
  chain := {}

/-- A request for a token under no address. -/
def tokenRequest : DeploymentRequest := { name := "Token", key := .canonical }

/-- There is no code at the address of the instance that is known, and a new one is deployed. -/
theorem stale_run : ∃ (u u' s : Site Chain) (c : Contract),
    Reaches Rehearsal.node .default (start staleWorkshop) u ∧
    Step Rehearsal.node .default u (.move 0 (.obtain 0)) u' ∧
    (u.state 0).callers[0]? = some (.obtaining tokenRequest) ∧
    (u.state 0).cache = .empty ∧
    Reaches Rehearsal.node .default u' s ∧
    (s.state 0).cache.entries.get? tokenRequest.slot = some 0 ∧ Alone u s 0 "Token" ∧
    (s.state 0).callers[0]? = some (.answered 0 (.ok c)) ∧
    (s.state 0).callsOf 0 = [.deployed "Token", .deploy "Token" [], .setAsDeployed c] := by
  let r := tokenRequest
  let c : Contract := ⟨"Token", Address.ofNat 1, .empty, some (BitVec.ofNat 256 1)⟩
  have before : Reaches Rehearsal.node .default (start staleWorkshop) _ := .refl _
  have before := before.step (@Step.move _ _ _ _ 0 _ _ (.come _ r false) trivial)
  have first := before.step
    (@Step.move _ _ _ _ 0 _ _ (@Deployment.Step.obtain _ _ _ _ 0 r rfl) trivial)
  have run := first.here
  have run := run.step (@Step.move _ _ _ _ 0 _ _
    (@Deployment.Step.begin _ _ _ _ 0 { request := r } rfl rfl) trivial)
  have run := run.step (@Step.code _ _ _ _ (0, 0) ⟨"Token", Address.ofNat 7, .empty, none⟩ rfl)
  have run := run.step (@Step.move _ _ _ _ 0 _ _
    (@Deployment.Step.lookedUp _ _ _ _ 0 { request := r, stage := .lookingUp }
      (.error (.noCode "Token" (Address.ofNat 7))) rfl rfl) rfl)
  have run := run.step (@Step.receipt _ _ _ _ (0, 0) ⟨"Token", .empty, [0]⟩ rfl)
  have run := run.step (@Step.move _ _ _ _ 0 _ _
    (@Deployment.Step.deployed _ _ _ _ 0 { request := r, stage := .deploying } (.ok c) rfl rfl) rfl)
  have run := run.step
    (@Step.move _ _ _ _ 0 _ _ (@Deployment.Step.receive _ _ _ _ 0 0 (.ok c) rfl rfl) trivial)
  refine ⟨_, _, _, c, before, @Step.move _ _ _ _ 0 _ _ (@Deployment.Step.obtain _ _ _ _ 0 r rfl)
    trivial, rfl, rfl, run, rfl, ?_, rfl, rfl⟩
  intro j hj id c hmem
  unfold callsSince at hmem
  have hmem := List.mem_of_mem_drop hmem
  simp only [state_moved_of_ne hj, record_note] at hmem
  cases hmem

/-- The request is resolved with the new instance, which is the canonical one from then on. -/
theorem resolution_of_stale_run : ∃ (u s : Site Chain) (c : Contract),
    (s.state 0).callers[0]? = some (.answered 0 (.ok c)) ∧
      Resolves (u.circumstances Rehearsal.node "Token") tokenRequest
        [.deployed "Token", .deploy "Token" [], .setAsDeployed c] (s.exchangesOf (0, 0)) (.ok c) ∧
      s.workshop.canonical "Token" = some c := by
  obtain ⟨u, u', s, c, before, obtains, hasks, hcache, after, hcurrent, halone, hanswered, hcalls⟩ :=
    stale_run
  have hlength : (u.state 0).cache.works.length = 0 := by
    rw [hcache]
    rfl
  have hnone : (u.state 0).cache.entries.get? tokenRequest.slot = none := by
    rw [hcache]
    rfl
  have hcurrent : (s.state 0).cache.entries.get? tokenRequest.slot =
      some (u.state 0).cache.works.length := hcurrent.trans (congrArg some hlength.symm)
  have resolution := resolution_of_reaches before obtains hasks rfl hnone after hcurrent halone
  rw [hlength] at resolution
  obtain ⟨y, hy, resolves⟩ := resolution.answered _ hanswered
  obtain rfl := ok_of_outcome hy.symm
  refine ⟨u, s, c, hanswered, hcalls ▸ resolves, ?_⟩
  apply resolution.adopted rfl
  rw [hcalls]
  simp

end Stale

end Site

end ContractHarness.Deployment
