import ContractHarness.Proofs.Deployment.Record

/-!
# Callers that share work

Callers that obtain the same work get the same outcome, however many they are and whatever happens
in the meantime. The work makes its calls of the registry once for all of them. A caller never
changes the work that it waits for: one that came before a new instance was demanded gets the
outcome of the old work, and one that has its turn afterwards gets that of the new work or of later
work.

Nothing is asked of the registry here. The statements hold for every `setAsDeployed` and for every
answer.
-/

set_option autoImplicit false

namespace ContractHarness.Deployment

open Rehearsal (RegistryCall)

variable {σ : Type} {set : Contract → Action σ ErrorChain Unit} {thresholds : Report.Thresholds}
variable {s s' u : State σ} {past : List (State σ)} {m : Move σ}
  {law : List (State σ) → Move σ → Prop}
variable {i j k id : Nat} {w : Work} {p p' : Progress} {r : DeploymentRequest}
  {x y : Except ErrorChain Contract}

/-- The work that a caller has obtained. -/
def Progress.work? : Progress → Option Nat
  | .holding id | .answered id _ => some id
  | .evicting _ | .obtaining _ | .gone => none

/-! ## What a move does to a caller -/

/-- How a move can change a caller that was there before it. -/
inductive Advances (s : State σ) (i : Nat) : Move σ → Progress → Progress → Prop where
  | stays {m : Move σ} (p : Progress) : Advances s i m p p
  | evicts (r : DeploymentRequest) :
    Advances s i (.evict i) (.evicting r) (.obtaining { r with redeploy := true })
  | obtains (r : DeploymentRequest) :
    Advances s i (.obtain i) (.obtaining r) (.holding (s.cache.obtain r).2)
  | receives {id : Nat} {x : Except ErrorChain Contract} (settled : s.cache.outcome? id = some x) :
    Advances s i (.receive i) (.holding id) (.answered id x)
  | leaves (p : Progress) : Advances s i (.leave i) p .gone

/-- A caller that has obtained work keeps to it or goes away. -/
theorem Advances.work?_or_gone (h : Advances s i m p p') (hwork : p.work? = some id) :
    p'.work? = some id ∨ p' = .gone := by
  cases h with
  | stays => exact .inl hwork
  | evicts r => cases hwork
  | obtains r => cases hwork
  | receives settled => exact .inl hwork
  | leaves => exact .inr rfl

/-- A caller that went away does not come back. -/
theorem Advances.gone (h : Advances s i m .gone p) : p = .gone := by
  cases h <;> rfl

/-- A change of one caller leaves all others as they are. -/
theorem advances_set (hp : s.callers[i]? = some p) {q q' : Progress}
    (hq : s.callers[j]? = some q) (h : Advances s j m q q') :
    ∃ p', (s.callers.set j q')[i]? = some p' ∧ Advances s i m p p' := by
  rw [List.getElem?_set]
  by_cases hij : j = i
  · subst hij
    have hlt : j < s.callers.length := (List.getElem?_eq_some_iff.mp hp).1
    rw [if_pos rfl, if_pos hlt]
    rw [hp, Option.some.injEq] at hq
    subst hq
    exact ⟨q', rfl, h⟩
  · rw [if_neg hij]
    exact ⟨p, hp, .stays p⟩

/-- Every move leaves a caller where it was or takes it on as it may. -/
theorem Step.advances (step : Step set thresholds s m s') (hp : s.callers[i]? = some p) :
    ∃ p', s'.callers[i]? = some p' ∧ Advances s i m p p' := by
  cases step with
  | come r evicts =>
    have hlt : i < s.callers.length := (List.getElem?_eq_some_iff.mp hp).1
    exact ⟨p, (List.getElem?_append_left hlt).trans hp, .stays p⟩
  | evict waits => exact advances_set hp waits (.evicts _)
  | obtain waits => exact advances_set hp waits (.obtains _)
  | receive waits settled => exact advances_set hp waits (.receives settled)
  | leave j =>
    by_cases hij : j = i
    · subst hij
      exact advances_set hp hp (.leaves p)
    · exact ⟨p, (List.getElem?_set_ne hij).trans hp, .stays p⟩
  | begin found stage => exact ⟨p, hp, .stays p⟩
  | lookedUp answer found stage => exact ⟨p, hp, .stays p⟩
  | deployed answer found stage =>
    rw [State.world_receiveDeployment stage, State.callers_proceed, State.callers_afterDeployment]
    exact ⟨p, hp, .stays p⟩
  | elsewhere world => exact ⟨p, hp, .stays p⟩

/-- A caller that is there before a move and after it was taken on as it may. -/
theorem Step.advances_to (step : Step set thresholds s m s') (hp : s.callers[i]? = some p)
    (hp' : s'.callers[i]? = some p') : Advances s i m p p' := by
  obtain ⟨q, hq, h⟩ := step.advances hp
  obtain rfl := Option.some.inj (hp'.symm.trans hq)
  exact h

/-- A caller that was not there before a move has obtained no work by it. -/
theorem Step.came (step : Step set thresholds s m s') (hnone : s.callers[i]? = none)
    (hp : s'.callers[i]? = some p) : p.work? = none := by
  have hset : ∀ j q, (s.callers.set j q)[i]? = none := by
    intro j q
    rw [List.getElem?_eq_none_iff] at hnone ⊢
    rw [List.length_set]
    exact hnone
  cases step with
  | come r evicts =>
    rw [List.getElem?_append_right (List.getElem?_eq_none_iff.mp hnone),
      List.getElem?_singleton] at hp
    split at hp
    · cases hp
      split <;> rfl
    · cases hp
  | evict waits => simp [hset] at hp
  | obtain waits => simp [hset] at hp
  | receive waits settled => simp [hset] at hp
  | leave j => simp [hset] at hp
  | begin found stage => simp [hnone] at hp
  | lookedUp answer found stage => simp [hnone] at hp
  | deployed answer found stage =>
    rw [State.world_receiveDeployment stage, State.callers_proceed, State.callers_afterDeployment,
      hnone] at hp
    cases hp
  | elsewhere world => simp [hnone] at hp

/-! ## What runs keep of a caller -/

/-- A caller that has obtained work keeps to it until it goes away. -/
theorem Run.keeps_work (run : Run set thresholds law (s :: past)) (hu : u ∈ s :: past)
    (hp : u.callers[i]? = some p) (hwork : p.work? = some id) :
    ∃ p', s.callers[i]? = some p' ∧ (p'.work? = some id ∨ p' = .gone) := by
  apply run.keeps (P := fun s => ∃ p', s.callers[i]? = some p' ∧
    (p'.work? = some id ∨ p' = .gone)) _ hu ⟨p, hp, .inl hwork⟩
  rintro s m s' step ⟨p, hp, hwork⟩
  obtain ⟨p', hp', hadvances⟩ := step.advances hp
  refine ⟨p', hp', ?_⟩
  rcases hwork with hwork | rfl
  · exact hadvances.work?_or_gone hwork
  · exact .inr hadvances.gone

/-- Work that has an outcome keeps it through every move. -/
theorem Step.outcome (step : Step set thresholds s m s') (h : s.cache.outcome? id = some x) :
    s'.cache.outcome? id = some x := by
  rw [DeploymentCache.outcome?_eq_some_iff] at h ⊢
  obtain ⟨w, hw, hstage⟩ := h
  obtain ⟨w', hw', hevolves⟩ := step.evolves hw
  exact ⟨w', hw', hevolves.settled hstage⟩

/-- Callers have obtained work that there is, and were answered with its outcome. -/
structure Served (s : State σ) : Prop where
  obtained : ∀ (i : Nat) (p : Progress) (id : Nat), s.callers[i]? = some p → p.work? = some id →
    ∃ w, s.cache.work? id = some w
  answered : ∀ (i id : Nat) (x : Except ErrorChain Contract),
    s.callers[i]? = some (Progress.answered id x) → s.cache.outcome? id = some x

/-- A move serves callers with work that there is, and with outcomes of their work. -/
theorem Step.served (step : Step set thresholds s m s') (hc : s.cache.Coherent) (h : Served s) :
    Served s' := by
  constructor
  · intro i p' id hp' hwork
    cases hp : s.callers[i]? with
    | none => rw [step.came hp hp'] at hwork; cases hwork
    | some p =>
      have hkept : p.work? = some id → ∃ w, s'.cache.work? id = some w := by
        intro hwork
        obtain ⟨w, hw⟩ := h.obtained i p id hp hwork
        obtain ⟨w', hw', -⟩ := step.evolves hw
        exact ⟨w', hw'⟩
      cases step.advances_to hp hp' with
      | stays => exact hkept hwork
      | evicts r => cases hwork
      | obtains r =>
        cases hwork
        cases step with
        | obtain waits =>
          obtain rfl := Progress.obtaining.inj (Option.some.inj (hp.symm.trans waits))
          obtain ⟨w, hw, -⟩ := hc.work?_obtain r
          exact ⟨w, hw⟩
      | receives settled => exact hkept hwork
      | leaves => cases hwork
  · intro i id x hx
    cases hp : s.callers[i]? with
    | none => cases step.came hp hx
    | some p =>
      cases step.advances_to hp hx with
      | stays => exact step.outcome (h.answered i id x hp)
      | receives settled => exact step.outcome settled

/-- In every run callers have obtained work that there is, and were answered with its outcome. -/
theorem Run.served (run : Run set thresholds law (s :: past)) : Served s := by
  apply (run.always (P := fun s => s.cache.Coherent ∧ Served s) _ _).2
  · intro world
    refine ⟨.empty, fun i p id hp => ?_, fun i id x hp => ?_⟩
    · cases hp
    · cases hp
  · rintro s m s' step ⟨hc, h⟩
    exact ⟨step.coherent hc, step.served hc h⟩

/-- What a move makes a caller obtain is work on the key of its request, and not installed earlier
than any other work on that key. -/
theorem Step.obtained (step : Step set thresholds s m s') (hc : s.cache.Coherent)
    (hp : s.callers[i]? = some p) (hnone : p.work? = none) (hp' : s'.callers[i]? = some p')
    (hwork : p'.work? = some id) :
    ∃ r w, p = .obtaining r ∧ s'.cache.work? id = some w ∧ w.request.slot = r.slot ∧
      ∀ j v, s.cache.work? j = some v → v.request.slot = r.slot → j ≤ id := by
  cases step.advances_to hp hp' with
  | stays => rw [hnone] at hwork; cases hwork
  | evicts r => cases hwork
  | obtains r =>
    cases hwork
    cases step with
    | obtain waits =>
      obtain rfl := Progress.obtaining.inj (Option.some.inj (hp.symm.trans waits))
      obtain ⟨w, hw, hslot⟩ := hc.work?_obtain r
      exact ⟨r, w, rfl, hw, hslot, fun j v hv hvslot => hc.le_obtain hv hvslot⟩
  | receives settled => cases hnone
  | leaves => cases hwork

/-- The key that a caller asks for. -/
def Progress.slot? : Progress → Option CacheKey
  | .evicting r | .obtaining r => some r.slot
  | .holding _ | .answered _ _ | .gone => none

/-- A caller that still asks for a key has obtained no work. -/
theorem work?_of_slot? {slot : CacheKey} (h : p.slot? = some slot) : p.work? = none := by
  cases p with
  | evicting r => rfl
  | obtaining r => rfl
  | holding id => cases h
  | answered id x => cases h
  | gone => cases h

/-- A caller asks for a key, has obtained work on that key, or went away. -/
def OnKey (i : Nat) (slot : CacheKey) (s : State σ) : Prop :=
  ∃ p, s.callers[i]? = some p ∧ (p.slot? = some slot ∨ p = .gone ∨
    ∃ id w, p.work? = some id ∧ s.cache.work? id = some w ∧ w.request.slot = slot)

/-- A move keeps a caller on its key. -/
theorem Step.onKey {slot : CacheKey} (step : Step set thresholds s m s') (hc : s.cache.Coherent)
    (h : OnKey i slot s) : OnKey i slot s' := by
  obtain ⟨p, hp, h⟩ := h
  obtain ⟨p', hp', hadvances⟩ := step.advances hp
  refine ⟨p', hp', ?_⟩
  have hkept : ∀ id w, s.cache.work? id = some w → w.request.slot = slot →
      ∃ w', s'.cache.work? id = some w' ∧ w'.request.slot = slot := by
    intro id w hw hslot
    obtain ⟨w', hw', hevolves⟩ := step.evolves hw
    exact ⟨w', hw', hevolves.slot.trans hslot⟩
  cases hadvances with
  | stays =>
    rcases h with h | h | ⟨id, w, hwork, hw, hslot⟩
    · exact .inl h
    · exact .inr (.inl h)
    · obtain ⟨w', hw', hslot'⟩ := hkept id w hw hslot
      exact .inr (.inr ⟨id, w', hwork, hw', hslot'⟩)
  | evicts r =>
    rcases h with h | h | ⟨id, w, hwork, -⟩
    · exact .inl h
    · cases h
    · cases hwork
  | obtains r =>
    rcases h with h | h | ⟨id, w, hwork, -⟩
    · obtain ⟨r', w, hr, hw, hslot, -⟩ := step.obtained hc hp rfl hp' rfl
      obtain rfl := Progress.obtaining.inj hr
      exact .inr (.inr ⟨_, w, rfl, hw, hslot.trans (Option.some.inj h)⟩)
    · cases h
    · cases hwork
  | receives settled =>
    rcases h with h | h | ⟨id, w, hwork, hw, hslot⟩
    · cases h
    · cases h
    · obtain ⟨w', hw', hslot'⟩ := hkept id w hw hslot
      exact .inr (.inr ⟨id, w', hwork, hw', hslot'⟩)
  | leaves => exact .inr (.inl rfl)

/-- A caller obtains work on the key that it asks for. -/
theorem Run.own_key (run : Run set thresholds law (s :: past)) (hu : u ∈ s :: past)
    {slot : CacheKey} (hp : u.callers[i]? = some p) (hslot : p.slot? = some slot)
    (hp' : s.callers[i]? = some p') (hwork : p'.work? = some id) :
    ∃ w, s.cache.work? id = some w ∧ w.request.slot = slot := by
  obtain ⟨before, hbefore⟩ := run.mem hu
  obtain ⟨-, q, hq, h⟩ := run.keeps (P := fun s => s.cache.Coherent ∧ OnKey i slot s)
    (fun step h => ⟨step.coherent h.1, step.onKey h.1 h.2⟩) hu
    ⟨hbefore.coherent, p, hp, .inl hslot⟩
  obtain rfl := Option.some.inj (hp'.symm.trans hq)
  rcases h with h | rfl | ⟨j, w, hj, hw, hslot'⟩
  · rw [work?_of_slot? h] at hwork
    cases hwork
  · cases hwork
  · rw [hwork, Option.some.injEq] at hj
    exact ⟨w, hj ▸ hw, hslot'⟩

/-- A caller has obtained no work on a key that was installed before a given one. -/
def NoneBefore (i j : Nat) (slot : CacheKey) (s : State σ) : Prop :=
  (∃ w, s.cache.work? j = some w ∧ w.request.slot = slot) ∧
    ∀ p id w, s.callers[i]? = some p → p.work? = some id → s.cache.work? id = some w →
      w.request.slot = slot → j ≤ id

/-- Through every move, a caller has obtained no work on the key that was installed before the given
one. -/
theorem Step.noneBefore {slot : CacheKey} (step : Step set thresholds s m s')
    (hc : s.cache.Coherent) (hserved : Served s) (h : NoneBefore i j slot s) :
    NoneBefore i j slot s' := by
  obtain ⟨⟨w, hw, hslot⟩, h⟩ := h
  constructor
  · obtain ⟨w', hw', hevolves⟩ := step.evolves hw
    exact ⟨w', hw', hevolves.slot.trans hslot⟩
  · intro p' id v' hp' hwork hv' hvslot
    cases hp : s.callers[i]? with
    | none => rw [step.came hp hp'] at hwork; cases hwork
    | some p =>
      cases hpwork : p.work? with
      | none =>
        obtain ⟨r, v, -, hv, hr, hlatest⟩ := step.obtained hc hp hpwork hp' hwork
        obtain rfl := Option.some.inj (hv'.symm.trans hv)
        exact hlatest j w hw (by rw [hslot, ← hr, hvslot])
      | some k =>
        rcases (step.advances_to hp hp').work?_or_gone hpwork with hkept | rfl
        · obtain rfl := Option.some.inj (hwork.symm.trans hkept)
          obtain ⟨v, hv⟩ := hserved.obtained i p id hp hpwork
          have hevolves := step.evolves_to hv hv'
          exact h p id v hp hpwork hv (hevolves.slot.symm.trans hvslot)
        · cases hwork

/-- A caller that had obtained no work when some was installed on a key will not obtain work on that
key that was installed earlier. -/
theorem Run.le_obtained (run : Run set thresholds law (s :: past)) (hu : u ∈ s :: past)
    (hnone : ∀ p, u.callers[i]? = some p → p.work? = none) (hj : u.cache.work? j = some w)
    (hp : s.callers[i]? = some p) (hwork : p.work? = some id) {v : Work}
    (hv : s.cache.work? id = some v) (hslot : v.request.slot = w.request.slot) : j ≤ id := by
  obtain ⟨before, hbefore⟩ := run.mem hu
  obtain ⟨-, -, -, h⟩ := run.keeps
    (P := fun s => s.cache.Coherent ∧ Served s ∧ NoneBefore i j w.request.slot s)
    (fun step h => ⟨step.coherent h.1, step.served h.1 h.2.1, step.noneBefore h.1 h.2.1 h.2.2⟩) hu
    ⟨hbefore.coherent, hbefore.served, ⟨w, hj, rfl⟩, fun p id v hp hwork => by
      rw [hnone p hp] at hwork
      cases hwork⟩
  exact h p id v hp hwork hv hslot

/-! ## Work is settled if the registry answers -/

/-- A run goes on to a state in which a piece of work is settled, and the callers have not moved. -/
def Settles (set : Contract → Action σ ErrorChain Unit) (thresholds : Report.Thresholds)
    (trace : List (State σ)) (callers : List Progress) (id : Nat) : Prop :=
  ∃ s' later x, AnyRun set thresholds (s' :: later) ∧ trace <:+ s' :: later ∧
    s'.callers = callers ∧ s'.cache.outcome? id = some x

/-- Work that is settled needs no move to be so. -/
theorem settles_of_settled (run : AnyRun set thresholds (s :: past))
    (hw : s.cache.work? id = some w) (hstage : w.stage = .settled x) :
    Settles set thresholds (s :: past) s.callers id :=
  ⟨s, past, x, run, List.suffix_refl _, rfl,
    DeploymentCache.outcome?_eq_some_iff.mpr ⟨w, hw, hstage⟩⟩

/-- Work can be settled when it can be after a move in which the callers stay as they are. -/
theorem Settles.before (h : Settles set thresholds (s' :: s :: past) s'.callers id)
    (hcallers : s'.callers = s.callers) : Settles set thresholds (s :: past) s.callers id := by
  obtain ⟨t, later, x, run, hsuffix, ht, houtcome⟩ := h
  exact ⟨t, later, x, run, (List.suffix_cons s' _).trans hsuffix, ht.trans hcallers, houtcome⟩

/-- Work that is gone on with is put back in its place. -/
theorem work?_proceed_self {v : Work} (hw : s.cache.work? id = some w) :
    (s.proceed id v).cache.work? id = some v := by
  rw [State.cache_proceed, DeploymentCache.work?_update, if_pos rfl, hw]
  rfl

/-- Work that waits for its deployment is settled when that is answered. -/
theorem settles_of_deploying (run : AnyRun set thresholds (s :: past))
    (hw : s.cache.work? id = some w) (hstage : w.stage = .deploying) :
    Settles set thresholds (s :: past) s.callers id := by
  have made : Step set thresholds s (.deployed id _) _ :=
    .deployed (.error (.ofText "no deployment")) hw hstage
  rw [State.world_receiveDeployment hstage] at made
  exact (settles_of_settled (run.step made trivial) (work?_proceed_self hw) rfl).before rfl

/-- Work that waits for its lookup is settled by the answer, or by that of the deployment which
follows. -/
theorem settles_of_lookingUp (run : AnyRun set thresholds (s :: past))
    (hw : s.cache.work? id = some w) (hstage : w.stage = .lookingUp) :
    Settles set thresholds (s :: past) s.callers id := by
  have made : Step set thresholds s (.lookedUp id _) _ :=
    .lookedUp (.error (.opaqueError (.ofText "no answer"))) hw hstage
  apply (settles_of_settled (run.step made trivial) (work?_proceed_self hw) _).before rfl
  · exact w.request.outcome (.error ((ErrorChain.ofText "no answer").context
      s!"Failed to look up {w.request.name}"))
  · unfold Work.lookedUp
    rw [hstage]
    rfl

/-- Whether it is superseded or not, work can always be settled. -/
theorem Run.settles (run : AnyRun set thresholds (s :: past)) (hw : s.cache.work? id = some w) :
    Settles set thresholds (s :: past) s.callers id := by
  cases hstage : w.stage with
  | settled x => exact settles_of_settled run hw hstage
  | deploying => exact settles_of_deploying run hw hstage
  | lookingUp => exact settles_of_lookingUp run hw hstage
  | fresh =>
    have run := run.step (.begin hw hstage) trivial
    have hw := work?_proceed_self (v := w.begin) hw
    have hbegin : w.begin.stage = if w.request.redeploy then .deploying else .lookingUp := by
      unfold Work.begin
      rw [hstage]
    cases hr : w.request.redeploy with
    | true => exact (settles_of_deploying run hw (by rw [hbegin, hr]; rfl)).before rfl
    | false => exact (settles_of_lookingUp run hw (by rw [hbegin, hr]; rfl)).before rfl

/-- A caller that waits for work can always be answered in the end. -/
theorem Run.answered_later (run : AnyRun set thresholds (s :: past))
    (hi : s.callers[i]? = some (.holding id)) :
    ∃ s' later x, AnyRun set thresholds (s' :: later) ∧ s :: past <:+ s' :: later ∧
      s'.callers[i]? = some (.answered id x) := by
  obtain ⟨w, hw⟩ := run.served.obtained i _ id hi rfl
  obtain ⟨t, later, x, hrun, hsuffix, hcallers, houtcome⟩ := run.settles hw
  have made : Step set thresholds t (.receive i) _ := .receive (hcallers ▸ hi) houtcome
  refine ⟨_, _, x, hrun.step made trivial, hsuffix.trans (List.suffix_cons _ _), ?_⟩
  have hlt : i < t.callers.length := (List.getElem?_eq_some_iff.mp (hcallers ▸ hi)).1
  exact List.getElem?_set_self hlt

/-! ## What callers can rely on -/

/-- What callers that share work can rely on in the last state of a run. -/
structure Shares (set : Contract → Action σ ErrorChain Unit) (thresholds : Report.Thresholds)
    (s : State σ) (past : List (State σ)) : Prop where
  /-- Callers that obtained the same work are answered with the same outcome. -/
  outcome : ∀ (i j id : Nat) x y, s.callers[i]? = some (Progress.answered id x) →
    s.callers[j]? = some (Progress.answered id y) → x = y
  /-- No call of the registry is made but for work. -/
  calls : ∀ id call, (id, call) ∈ s.record → ∃ w, s.cache.work? id = some w
  /-- Work makes one lookup at most, and none when a new instance is demanded. -/
  lookUps : ∀ id w, s.cache.work? id = some w →
    (s.callsOf id).countP RegistryCall.isLookUp ≤ if w.request.redeploy then 0 else 1
  /-- Work asks for one deployment at most. -/
  deploys : ∀ id w, s.cache.work? id = some w → (s.callsOf id).countP RegistryCall.isDeploy ≤ 1
  /-- Work is installed for a demand of a new instance, or when its key has no entry. -/
  installs : ∀ m s' id w, Step set thresholds s m s' → s.cache.work? id = none →
    s'.cache.work? id = some w → ∃ i, m = .obtain i ∧
      s.callers[i]? = some (.obtaining w.request) ∧
      (w.request.redeploy = true ∨ s.cache.entries.get? w.request.slot = none)
  /-- A request that demands no new instance gets the work of the entry, whatever its arguments. -/
  shares : ∀ (i : Nat) (r : DeploymentRequest) s' id, s.callers[i]? = some (.obtaining r) →
    r.redeploy = false → s.cache.entries.get? r.slot = some id →
    Step set thresholds s (.obtain i) s' →
      s'.cache = s.cache ∧ s'.callers[i]? = some (.holding id)
  /-- A caller obtains work on the key that it asked for. -/
  ownKey : ∀ u ∈ s :: past, ∀ (i : Nat) (p p' : Progress) slot id, u.callers[i]? = some p →
    p.slot? = some slot → s.callers[i]? = some p' → p'.work? = some id →
    ∃ w, s.cache.work? id = some w ∧ w.request.slot = slot
  /-- A caller whose turn comes after work was installed obtains none on that key that was installed
  earlier. -/
  later : ∀ u ∈ s :: past, ∀ (i j id : Nat) (p : Progress) w v,
    (∀ q, u.callers[i]? = some q → q.work? = none) → u.cache.work? j = some w →
    s.callers[i]? = some p → p.work? = some id → s.cache.work? id = some v →
    v.request.slot = w.request.slot → j ≤ id
  /-- A caller keeps to the work that it has obtained. -/
  keeps : ∀ u ∈ s :: past, ∀ (i id : Nat) (p : Progress), u.callers[i]? = some p →
    p.work? = some id → ∃ p', s.callers[i]? = some p' ∧ (p'.work? = some id ∨ p' = .gone)
  /-- A caller that waits can still be answered, whatever has happened to the entry. -/
  answered : ∀ (i id : Nat), s.callers[i]? = some (.holding id) →
    ∃ s' trace x, AnyRun set thresholds (s' :: trace) ∧ s :: past <:+ s' :: trace ∧
      s'.callers[i]? = some (.answered id x)

/-- In every run, with any callers, any answers and any order of moves, callers share work as they
can rely on. -/
theorem shares_of_run (run : AnyRun set thresholds (s :: past)) : Shares set thresholds s past where
  outcome i j id x y hi hj := by
    have hx := run.served.answered i id x hi
    have hy := run.served.answered j id y hj
    exact Option.some.inj (hx.symm.trans hy)
  calls id call h := by
    have hmade := run.recorded id
    cases hw : s.cache.work? id with
    | some w => exact ⟨w, rfl⟩
    | none =>
      rw [hw] at hmade
      rw [← mem_callsOf, hmade] at h
      cases h
  lookUps id w hw := by
    have hmade := run.recorded id
    rw [hw] at hmade
    exact hmade.countP_isLookUp
  deploys id w hw := by
    have hmade := run.recorded id
    rw [hw] at hmade
    exact hmade.countP_isDeploy
  installs m s' id w step hnone hw := by
    obtain ⟨i, r, rfl, waits, -, rfl, hnew⟩ := step.installed hnone hw
    exact ⟨i, rfl, waits, hnew⟩
  shares i r s' id hi hr hentry step := by
    cases step with
    | obtain waits =>
      obtain rfl := Progress.obtaining.inj (Option.some.inj (hi.symm.trans waits))
      rw [DeploymentCache.obtain_of_entry hentry hr]
      exact ⟨rfl, List.getElem?_set_self (List.getElem?_eq_some_iff.mp hi).1⟩
  ownKey u hu i p p' slot id := run.own_key hu
  later u hu i j id p w v hnone hj hp hwork hv := run.le_obtained hu hnone hj hp hwork hv
  keeps u hu i id p := run.keeps_work hu
  answered i id := run.answered_later

/-- Two callers share the work on a token, although they would deploy it with different arguments,
and get its error. A third one has the token deployed anew in the meantime, without a lookup. -/
theorem shared_run : ∃ (s : State Unit) (past : List (State Unit)) (e : ErrorChain) (c : Contract),
    AnyRun (fun _ => pure ()) .default (s :: past) ∧
      s.callers = [.answered 0 (.error e), .answered 0 (.error e), .answered 1 (.ok c)] ∧
      s.callsOf 0 = [.deployed "Token", .deploy "Token" []] ∧
      s.callsOf 1 = [.deploy "Token" [], .setAsDeployed c] := by
  let r : DeploymentRequest := { name := "Token", key := .canonical }
  have run : AnyRun (fun _ => pure ()) .default [{ world := () }] := .start ()
  have run := run.step (.come _ r false) trivial
  have run := run.step (.come _ { r with args := [.bool true] } false) trivial
  have run := run.step (.obtain (i := 0) rfl) trivial
  have run := run.step (.obtain (i := 1) rfl) trivial
  have run := run.step (@Step.begin _ _ _ _ 0 _ rfl rfl) trivial
  have run := run.step (.come _ r true) trivial
  have run := run.step (.evict (i := 2) rfl) trivial
  have run := run.step (@Step.lookedUp _ _ _ _ 0 _ (.error (.notDeployed "Token")) rfl rfl) trivial
  have run := run.step (.obtain (i := 2) rfl) trivial
  have run := run.step (@Step.begin _ _ _ _ 1 _ rfl rfl) trivial
  have run := run.step (@Step.deployed _ _ _ _ 0 _ (.error (.ofText "out of gas")) rfl rfl) trivial
  have run := run.step
    (@Step.deployed _ _ _ _ 1 _ (.ok ⟨"Token", Address.ofNat 2, .empty, none⟩) rfl rfl) trivial
  have run := run.step (.receive (i := 0) rfl rfl) trivial
  have run := run.step (.receive (i := 1) rfl rfl) trivial
  have run := run.step (.receive (i := 2) rfl rfl) trivial
  exact ⟨_, _, _, _, run, rfl, rfl, rfl⟩

/-- Three callers share what a run of the cache has come to. -/
theorem shares_of_shared_run : ∃ (s : State Unit) (past : List (State Unit)),
    s.callers.length = 3 ∧ Shares (fun _ => pure ()) .default s past := by
  obtain ⟨s, past, e, c, run, hcallers, -⟩ := shared_run
  exact ⟨s, past, by rw [hcallers]; rfl, shares_of_run run⟩

end ContractHarness.Deployment
