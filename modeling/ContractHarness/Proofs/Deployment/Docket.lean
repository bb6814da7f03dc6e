import ContractHarness.Proofs.Deployment.Site

/-!
# Dockets

The docket of a piece of work holds all that a site keeps about it: the work, its task, the calls
that it has made and what the node was asked for it. A step of the site concerns one docket at most,
and `Turn` says in which ways. What holds of every docket is proved by cases on a turn, whatever the
other work is doing.
-/

set_option autoImplicit false

namespace ContractHarness

open Rehearsal (RegistryCall WorkKey)

variable {σ : Type}

/-- The call that is made when work is told what was deployed for it. -/
def Work.adoption (w : Work) : Except ErrorChain Contract → List RegistryCall
  | .ok c => if w.adopts then [.setAsDeployed c] else []
  | .error _ => []

namespace Deployment

/-- All that is kept about a piece of work. -/
structure Docket where
  work : Work
  task : Option Task
  calls : List RegistryCall
  exchanges : List Exchange

namespace Docket

/-- The work has come to a stage, and makes the call that it waits for there. -/
def goOn (d : Docket) (workshop : Workshop σ) (w : Work) : Docket where
  work := w
  task := (w.task? workshop).or d.task
  calls := d.calls ++ (RegistryCall.awaitedBy? w).toList
  exchanges := d.exchanges

/-- The work is told what was deployed for it. -/
def deployed (d : Docket) (answer : Except ErrorChain Contract) : Docket :=
  { d with
    work := d.work.settle answer
    calls := d.calls ++ d.work.adoption answer }

/-- The node has answered what the task asked. -/
def answered (d : Docket) (exchange : Exchange) (task : Task) : Docket :=
  { d with
    task := some task
    exchanges := d.exchanges ++ [exchange] }

end Docket

/-- What a step can do to a docket, from an account and in front of a store. -/
inductive Turn (account : Address) (workshop : Workshop σ) : Docket → Docket → Prop where
  | stays {d : Docket} {w : Work} (request : w.request = d.work.request)
    (stage : w.stage = d.work.stage) (mark : d.work.superseded = true → w.superseded = true) :
    Turn account workshop d { d with work := w }
  | begins {d : Docket} (stage : d.work.stage = .fresh) :
    Turn account workshop d (d.goOn workshop d.work.begin)
  | lookedUp {d : Docket} {answer : Except LookupError Contract}
    (stage : d.work.stage = .lookingUp) (told : d.task = some (.found answer)) :
    Turn account workshop d (d.goOn workshop (d.work.lookedUp answer))
  | deployed {d : Docket} {answer : Except ErrorChain Contract}
    (stage : d.work.stage = .deploying) (told : d.task = some (.made answer)) :
    Turn account workshop d (d.deployed answer)
  | code {d : Docket} {c : Contract} (asks : d.task = some (.code c))
    (answer : Except ErrorChain Bytes) :
    Turn account workshop d (d.answered (.code c.address answer) (.found (c.confirmedBy answer)))
  | receipt {d : Docket} {c : Creation} (asks : d.task = some (.receipt c))
    (answer : Except ErrorChain Receipt) :
    Turn account workshop d
      (d.answered (.execution (c.transaction account) answer) (.made (c.createdBy answer)))

section Turn

variable {account : Address} {workshop : Workshop σ} {d d' : Docket}

/-- A step need not change a docket. -/
theorem Turn.refl (d : Docket) : Turn account workshop d d :=
  .stays rfl rfl fun h => h

/-- A step never changes the request of a piece of work. -/
theorem Turn.request (turn : Turn account workshop d d') : d'.work.request = d.work.request := by
  cases turn with
  | stays request stage mark => exact request
  | begins stage => exact request_begin _
  | lookedUp stage told => exact request_lookedUp _ _
  | deployed stage told => rfl
  | code asks answer => rfl
  | receipt asks answer => rfl

/-- Work that is superseded stays so. -/
theorem Turn.superseded (turn : Turn account workshop d d') (h : d.work.superseded = true) :
    d'.work.superseded = true := by
  cases turn with
  | stays request stage mark => exact mark h
  | begins stage => exact (superseded_begin _).trans h
  | lookedUp stage told => exact (superseded_lookedUp _ _).trans h
  | deployed stage told => exact h
  | code asks answer => exact h
  | receipt asks answer => exact h

end Turn

namespace Site

variable {node : Node σ} {thresholds : Report.Thresholds}
variable {s s' u : Site σ} {e : Event σ} {k j id : Nat} {key other : WorkKey}
  {m : Move (Workshop σ)} {t : State (Workshop σ)} {d d' : Docket} {w w' : Work}

/-- What the node was asked for a piece of work, in order. -/
def exchangesOf (s : Site σ) (key : WorkKey) : List Exchange :=
  (s.ledger.filter (·.1 = key)).map Prod.snd

/-- All that is kept about a piece of work. -/
def docket? (s : Site σ) (key : WorkKey) : Option Docket :=
  ((s.state key.1).cache.work? key.2).map fun work =>
    { work
      task := s.tasks.get? key
      calls := (s.state key.1).callsOf key.2
      exchanges := s.exchangesOf key }

/-! ## One docket at a time -/

/-- A docket holds the work, its task, its calls and what the node was asked for it. -/
theorem docket?_eq_some_iff :
    s.docket? key = some d ↔ (s.state key.1).cache.work? key.2 = some d.work ∧
      s.tasks.get? key = d.task ∧ (s.state key.1).callsOf key.2 = d.calls ∧
      s.exchangesOf key = d.exchanges := by
  unfold docket?
  rw [Option.map_eq_some_iff]
  constructor
  · rintro ⟨w, hw, rfl⟩
    exact ⟨hw, rfl, rfl, rfl⟩
  · rintro ⟨hw, htask, hcalls, hexchanges⟩
    refine ⟨d.work, hw, ?_⟩
    rw [htask, hcalls, hexchanges]

/-- Putting a cache back changes the work and the calls in its dockets, and nothing else of them. -/
theorem docket?_put_self :
    (s.put k t).docket? (k, id) = (t.cache.work? id).map fun work =>
      { work
        task := s.tasks.get? (k, id)
        calls := t.callsOf id
        exchanges := s.exchangesOf (k, id) } := by
  unfold docket?
  rw [state_put_self]
  rfl

/-- Putting a cache back changes no docket of another one. -/
theorem docket?_put_of_ne (h : other.1 ≠ k) : (s.put k t).docket? other = s.docket? other := by
  unfold docket?
  rw [state_put_of_ne h]
  rfl

/-- A call of one piece of work changes no task of another one. -/
theorem tasks_serve_of_ne (h : key ≠ other) :
    (s.serve key).tasks.get? other = s.tasks.get? other := by
  unfold serve
  split
  · rfl
  · split
    · rfl
    · exact (OrderedMap.get?_insert _ _ _ _).trans (if_neg h)

/-- A call of one piece of work changes no docket of another one. -/
theorem docket?_serve_of_ne (h : key ≠ other) :
    (s.serve key).docket? other = s.docket? other := by
  unfold docket? exchangesOf
  rw [state_serve, tasks_serve_of_ne h, ledger_serve]
  rfl

/-- Work that waits for a call has the task of that call. -/
theorem docket?_serve_self :
    (s.serve key).docket? key =
      (s.docket? key).map fun d => { d with task := (d.work.task? s.workshop).or d.task } := by
  unfold docket? exchangesOf
  rw [state_serve, ledger_serve, Option.map_map]
  unfold serve
  cases hw : (s.state key.1).cache.work? key.2 with
  | none => rfl
  | some w =>
    dsimp only [Option.map_some, Function.comp_apply]
    cases htask : w.task? s.workshop with
    | none => rfl
    | some task =>
      dsimp only [Option.or]
      rw [OrderedMap.get?_insert_self]
      rfl

/-- A move of one cache changes no docket of another one. -/
theorem docket?_moved_of_ne (h : other.1 ≠ k) :
    (s.moved k m t).docket? other = s.docket? other := by
  unfold moved
  split
  · exact docket?_put_of_ne h
  · next id hm =>
    rw [docket?_serve_of_ne, docket?_put_of_ne h]
    rintro rfl
    exact h rfl

/-- A move keeps the task of work that it does not go on with. -/
theorem docket?_moved (hm : m.work? ≠ some id) :
    (s.moved k m t).docket? (k, id) = (t.cache.work? id).map fun work =>
      { work
        task := s.tasks.get? (k, id)
        calls := t.callsOf id
        exchanges := s.exchangesOf (k, id) } := by
  unfold moved
  split
  · exact docket?_put_self
  · next j hj =>
    rw [docket?_serve_of_ne, docket?_put_self]
    intro h
    exact hm (hj.trans (congrArg some (Prod.mk.inj h).2))

/-- After a move that goes on with work, its docket has the call that the work waits for at its new
stage. -/
theorem docket?_moved_self (hm : m.work? = some id) :
    (s.moved k m t).docket? (k, id) = (t.cache.work? id).map fun work =>
      { work
        task := (work.task? t.world).or (s.tasks.get? (k, id))
        calls := t.callsOf id
        exchanges := s.exchangesOf (k, id) } := by
  unfold moved
  rw [hm]
  show ((s.put k t).serve (k, id)).docket? (k, id) = _
  rw [docket?_serve_self, docket?_put_self, Option.map_map]
  rfl

section Note

variable {workshop : Workshop σ} {exchange : Exchange} {task : Task}

/-- An answer for one task changes no other one. -/
theorem tasks_note_of_ne (h : key ≠ other) :
    (s.note key workshop exchange task).tasks.get? other = s.tasks.get? other :=
  (OrderedMap.get?_insert _ _ _ _).trans (if_neg h)

/-- An answer for one piece of work is not noted for another one. -/
theorem exchangesOf_note_of_ne (h : key ≠ other) :
    (s.note key workshop exchange task).exchangesOf other = s.exchangesOf other := by
  simp [exchangesOf, note, h]

/-- An answer for one piece of work changes no docket of another one. -/
theorem docket?_note_of_ne (h : key ≠ other) :
    (s.note key workshop exchange task).docket? other = s.docket? other := by
  unfold docket?
  rw [tasks_note_of_ne h, exchangesOf_note_of_ne h]
  rfl

/-- An answer is noted in the docket that it is for. -/
theorem docket?_note (hd : s.docket? key = some d) :
    (s.note key workshop exchange task).docket? key = some (d.answered exchange task) := by
  have htasks : (s.note key workshop exchange task).tasks.get? key = some task :=
    OrderedMap.get?_insert_self _ _ _
  have hexchanges : (s.note key workshop exchange task).exchangesOf key =
      s.exchangesOf key ++ [exchange] := by
    simp [exchangesOf, note]
  obtain ⟨hwork, -, hcalls, hexchanges'⟩ := docket?_eq_some_iff.mp hd
  rw [docket?_eq_some_iff, htasks, hexchanges, hexchanges']
  exact ⟨hwork, rfl, hcalls, rfl⟩

end Note

/-! ## What a step does to a docket -/

/-- Because the store never fails to set a contract as deployed, work is settled with what was
deployed for it. -/
theorem deploymentResult_eq {s : State (Workshop σ)} (answer : Except ErrorChain Contract) :
    s.deploymentResult Workshop.setAsDeployed w answer = answer := by
  cases answer with
  | error e => rfl
  | ok c => exact ite_id _

/-- Work that is told what was deployed for it calls the store once more at most, to set it as
deployed. -/
theorem callsOf_deployed {s : State σ} {set : Contract → Action σ ErrorChain Unit}
    (answer : Except ErrorChain Contract) :
    (s.afterDeployment set id w answer).callsOf id = s.callsOf id ++ w.adoption answer := by
  unfold State.afterDeployment Work.adoption
  split
  · split
    · simp [State.callsOf]
    · simp
  · simp

/-- What one piece of work is told is no call of another one. -/
theorem callsOf_deployed_of_ne {s : State σ} {set : Contract → Action σ ErrorChain Unit}
    (h : j ≠ id) (answer : Except ErrorChain Contract) :
    (s.afterDeployment set j w answer).callsOf id = s.callsOf id := by
  unfold State.afterDeployment
  split
  · split
    · simp [State.callsOf, h]
    · rfl
  · rfl

/-- A move leaves work as it is that it does not go on with, but for the mark. -/
theorem turn_of_stays {account : Address} {workshop : Workshop σ}
    (hd : s.docket? (k, id) = some d) (hm : m.work? ≠ some id)
    (hcalls : t.callsOf id = (s.state k).callsOf id) (hw : t.cache.work? id = some w)
    (hrequest : w.request = d.work.request) (hstage : w.stage = d.work.stage)
    (hmark : d.work.superseded = true → w.superseded = true) :
    ∃ d', (s.moved k m t).docket? (k, id) = some d' ∧ Turn account workshop d d' := by
  obtain ⟨-, htask, hcalls', hexchanges⟩ := docket?_eq_some_iff.mp hd
  rw [docket?_moved hm, hw, hcalls]
  dsimp only at htask hcalls'
  rw [htask, hcalls', hexchanges]
  exact ⟨_, rfl, .stays hrequest hstage hmark⟩

/-- Marking an entry leaves work as it is, but for the mark. -/
theorem turn_of_marked {account : Address} {workshop : Workshop σ} {slot : CacheKey}
    (hd : s.docket? (k, id) = some d) (hm : m.work? ≠ some id)
    (hcalls : t.callsOf id = (s.state k).callsOf id)
    (hw : t.cache.work? id = ((s.state k).cache.supersedeEntry slot).work? id) :
    ∃ d', (s.moved k m t).docket? (k, id) = some d' ∧ Turn account workshop d d' := by
  obtain ⟨hwork, -⟩ := docket?_eq_some_iff.mp hd
  rw [DeploymentCache.work?_supersedeEntry, hwork] at hw
  apply turn_of_stays hd hm hcalls hw
  · split <;> rfl
  · split <;> rfl
  · intro h
    split
    · rfl
    · exact h

section Own

variable {s : Site σ} {d : Docket}

/-- The docket of work that is begun. -/
theorem docket?_begin (hd : s.docket? (k, id) = some d) :
    (s.moved k (.begin id) ((s.state k).proceed id d.work.begin)).docket? (k, id) =
      some (d.goOn s.workshop d.work.begin) := by
  obtain ⟨hwork, htask, hcalls, hexchanges⟩ := docket?_eq_some_iff.mp hd
  dsimp only at htask hcalls
  rw [docket?_moved_self rfl, work?_proceed_self hwork, State.callsOf_proceed, if_pos rfl, hcalls,
    hexchanges, htask]
  rfl

/-- The docket of work that is told what was found for it. -/
theorem docket?_lookedUp (hd : s.docket? (k, id) = some d) (answer : Except LookupError Contract) :
    (s.moved k (.lookedUp id answer)
        ((s.state k).proceed id (d.work.lookedUp answer))).docket? (k, id) =
      some (d.goOn s.workshop (d.work.lookedUp answer)) := by
  obtain ⟨hwork, htask, hcalls, hexchanges⟩ := docket?_eq_some_iff.mp hd
  dsimp only at htask hcalls
  rw [docket?_moved_self rfl, work?_proceed_self hwork, State.callsOf_proceed, if_pos rfl, hcalls,
    hexchanges, htask]
  rfl

/-- The docket of work that is told what was deployed for it. -/
theorem docket?_deployed (hd : s.docket? (k, id) = some d) (hstage : d.work.stage = .deploying)
    (answer : Except ErrorChain Contract) :
    (s.moved k (.deployed id answer) ((State.receiveDeployment Workshop.setAsDeployed thresholds id
        d.work answer).run (s.state k)).world).docket? (k, id) = some (d.deployed answer) := by
  obtain ⟨hwork, htask, hcalls, hexchanges⟩ := docket?_eq_some_iff.mp hd
  dsimp only at htask hcalls
  have hcache : ((s.state k).afterDeployment Workshop.setAsDeployed id d.work answer).cache =
      (s.state k).cache := State.cache_afterDeployment answer
  rw [State.world_receiveDeployment hstage, deploymentResult_eq, docket?_moved_self rfl,
    work?_proceed_self (hcache ▸ hwork), State.callsOf_proceed, if_pos rfl, callsOf_deployed,
    hcalls, hexchanges, htask]
  simp [Docket.deployed, Work.task?, Work.settle, RegistryCall.awaitedBy?]

end Own

/-- What a step can do to a docket. -/
theorem Step.docket (step : Step node thresholds s e s') (hd : s.docket? key = some d) :
    ∃ d', s'.docket? key = some d' ∧ Turn node.defaultAccount s.workshop d d' := by
  have hkept : ∃ d', s.docket? key = some d' ∧ Turn node.defaultAccount s.workshop d d' :=
    ⟨d, hd, .refl d⟩
  cases step with
  | @move k m t made told =>
    by_cases hk : key.1 ≠ k
    · rw [docket?_moved_of_ne hk]
      exact hkept
    obtain ⟨j, id⟩ := key
    obtain rfl : j = k := Classical.not_not.mp hk
    obtain ⟨hwork, htask, -⟩ := docket?_eq_some_iff.mp hd
    dsimp only at hwork htask
    have hlt := DeploymentCache.lt_of_work? hwork
    -- work that another move goes on with is another piece of work
    have hother : ∀ {i : Nat} {v : Work} {r : State (Workshop σ)} {m : Move (Workshop σ)},
        m.work? = some i → i ≠ id → r.cache = (s.state j).cache →
        r.callsOf id = (s.state j).callsOf id →
        ∃ d', (s.moved j m (r.proceed i v)).docket? (j, id) = some d' ∧
          Turn node.defaultAccount s.workshop d d' := by
      intro i v r m hm hi hcache hcalls
      apply turn_of_stays hd (by simp [hm, hi]) (w := d.work)
      · rw [State.callsOf_proceed, if_neg hi, List.append_nil, hcalls]
      · rw [State.cache_proceed, DeploymentCache.work?_update, if_neg hi, hcache, hwork]
      · rfl
      · rfl
      · exact fun h => h
    cases made with
    | come r evicts => exact turn_of_stays hd nofun rfl hwork rfl rfl fun h => h
    | receive waits settled => exact turn_of_stays hd nofun rfl hwork rfl rfl fun h => h
    | leave i => exact turn_of_stays hd nofun rfl hwork rfl rfl fun h => h
    | evict waits => exact turn_of_marked hd nofun rfl rfl
    | @obtain i r waits =>
      rcases DeploymentCache.obtain_cases (s.state j).cache r with ⟨_, -, -, h⟩ | ⟨-, h⟩
      · exact turn_of_stays hd nofun rfl (by rw [h]; exact hwork) rfl rfl fun h => h
      · have hmarked : ((s.state j).cache.obtain r).1.work? id =
            ((s.state j).cache.supersedeEntry r.slot).work? id := by
          rw [h]
          exact DeploymentCache.work?_install.trans (if_neg (Nat.ne_of_lt hlt))
        exact turn_of_marked hd nofun rfl hmarked
    | @begin i v found stage =>
      by_cases hi : i = id
      · subst hi
        obtain rfl := Option.some.inj (hwork.symm.trans found)
        exact ⟨_, docket?_begin hd, .begins stage⟩
      · exact hother rfl hi rfl rfl
    | @lookedUp i v answer found stage =>
      by_cases hi : i = id
      · subst hi
        obtain rfl := Option.some.inj (hwork.symm.trans found)
        exact ⟨_, docket?_lookedUp hd answer, .lookedUp stage (htask.symm.trans told)⟩
      · exact hother rfl hi rfl rfl
    | @deployed i v answer found stage =>
      by_cases hi : i = id
      · subst hi
        obtain rfl := Option.some.inj (hwork.symm.trans found)
        exact ⟨_, docket?_deployed hd stage answer, .deployed stage (htask.symm.trans told)⟩
      · rw [State.world_receiveDeployment stage]
        exact hother rfl hi (State.cache_afterDeployment answer)
          (callsOf_deployed_of_ne hi answer)
    | elsewhere world => exact told.elim
  | @code other c waits =>
    by_cases h : other = key
    · subst h
      obtain ⟨-, htask, -⟩ := docket?_eq_some_iff.mp hd
      exact ⟨_, docket?_note hd, .code (htask.symm.trans waits) _⟩
    · rw [docket?_note_of_ne h]
      exact hkept
  | @receipt other c waits =>
    by_cases h : other = key
    · subst h
      obtain ⟨-, htask, -⟩ := docket?_eq_some_iff.mp hd
      exact ⟨_, docket?_note hd, .receipt (htask.symm.trans waits) _⟩
    · rw [docket?_note_of_ne h]
      exact hkept
  | elsewhere held canonical => exact hkept

/-! ## New dockets -/

/-- Nothing is kept but about work. -/
def Tidy (s : Site σ) : Prop :=
  ∀ key, s.docket? key = none → s.tasks.get? key = none ∧ s.exchangesOf key = []

/-- There is a docket exactly for work that there is. -/
theorem docket?_eq_none_iff :
    s.docket? key = none ↔ (s.state key.1).cache.work? key.2 = none := by
  simp [docket?]

/-- A step keeps nothing but about work. -/
theorem Step.tidy (step : Step node thresholds s e s') (h : Tidy s) : Tidy s' := by
  intro key hnone
  have hbefore : s.docket? key = none := by
    cases hd : s.docket? key with
    | none => rfl
    | some d =>
      obtain ⟨d', hd', -⟩ := step.docket hd
      rw [hnone] at hd'
      cases hd'
  obtain ⟨htask, hexchanges⟩ := h key hbefore
  cases step with
  | @move k m t made told =>
    unfold moved at hnone ⊢
    cases hm : m.work? with
    | none => exact ⟨htask, hexchanges⟩
    | some id =>
      rw [hm] at hnone
      dsimp only at hnone ⊢
      have hledger : ((s.put k t).serve (k, id)).exchangesOf key = [] := by
        unfold exchangesOf
        rw [ledger_serve]
        exact hexchanges
      refine ⟨?_, hledger⟩
      by_cases hkey : (k, id) = key
      · -- there is no work under the number, so that no call is made
        subst hkey
        rw [docket?_eq_none_iff, state_serve, state_put_self] at hnone
        unfold serve
        rw [state_put_self]
        dsimp only at hnone ⊢
        rw [hnone]
        exact htask
      · rw [tasks_serve_of_ne hkey]
        exact htask
  | @code other c waits =>
    have hne : other ≠ key := by
      rintro rfl
      rw [htask] at waits
      cases waits
    rw [tasks_note_of_ne hne, exchangesOf_note_of_ne hne]
    exact ⟨htask, hexchanges⟩
  | @receipt other c waits =>
    have hne : other ≠ key := by
      rintro rfl
      rw [htask] at waits
      cases waits
    rw [tasks_note_of_ne hne, exchangesOf_note_of_ne hne]
    exact ⟨htask, hexchanges⟩
  | elsewhere held canonical => exact ⟨htask, hexchanges⟩

/-- In every run nothing is kept but about work. -/
theorem Reaches.tidy {workshop : Workshop σ} (h : Reaches node thresholds (start workshop) s) :
    Tidy s :=
  h.keeps Step.tidy fun _ _ => ⟨rfl, rfl⟩

/-- A docket is opened when a caller obtains new work, and nothing is in it but the work. -/
theorem Step.opened (step : Step node thresholds s e s') (htidy : Tidy s)
    (hnone : s.docket? key = none) (hd : s'.docket? key = some d) :
    ∃ i r, e = .move key.1 (.obtain i) ∧ (s.state key.1).callers[i]? = some (.obtaining r) ∧
      key.2 = (s.state key.1).cache.works.length ∧
      (r.redeploy = true ∨ (s.state key.1).cache.entries.get? r.slot = none) ∧
      d.work = { request := r } ∧ d.task = none ∧ d.exchanges = [] := by
  obtain ⟨htask, hexchanges⟩ := htidy key hnone
  have hnowork := docket?_eq_none_iff.mp hnone
  obtain ⟨hwork, htask', -, hexchanges'⟩ := docket?_eq_some_iff.mp hd
  rcases step.state key.1 with ⟨m, t, rfl, made, hstate⟩ | hstate
  · rw [hstate] at hwork
    obtain ⟨i, r, rfl, hi, hid, hnew, hentry⟩ := made.installed hnowork hwork
    refine ⟨i, r, rfl, hi, hid, hentry, hnew, ?_⟩
    cases step with
    | move made told =>
      exact ⟨htask'.symm.trans htask, hexchanges'.symm.trans hexchanges⟩
  · rw [hstate] at hwork
    rw [hwork] at hnowork
    cases hnowork

end Site

end Deployment

end ContractHarness
