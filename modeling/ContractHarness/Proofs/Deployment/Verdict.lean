import ContractHarness.Proofs.Deployment.Course

/-!
# The verdict on a request

A registry may answer a lookup with a contract, with a message or with an error that tells nothing,
and it may fail to deploy a contract or to set it as deployed. `Verdict` has a case for each course
that a request can take: what the registry was called for, what it replied, and what those who wait
for the request are told. Nothing is asked of the registry, and other work may go on in between.

`Step.bears` takes a move apart as seen from one piece of work. From it follows what the work has
called and heard at each of its stages, by induction over what it hears. That the work can always be
brought to its end, whatever is replied to it, is shown by one move for each stage.
-/

set_option autoImplicit false

namespace ContractHarness.Deployment

open Rehearsal (RegistryCall)

variable {σ : Type}

/-! ## What is replied to a piece of work -/

/-- A reply of the registry. -/
inductive Reply where
  | looked (answer : Except LookupError Contract)
  | deployed (answer : Except ErrorChain Contract)
  | adopted (answer : Except ErrorChain Unit)

namespace State

/-- The reply when a deployed contract is set as deployed, if it is to be. -/
def adoptionReplies (set : Contract → Action σ ErrorChain Unit) (s : State σ) (w : Work) :
    Except ErrorChain Contract → List Reply
  | .ok contract => if w.adopts then [.adopted ((set contract).run s.world).result] else []
  | .error _ => []

/-- What is replied to a piece of work in a move. -/
def replies (set : Contract → Action σ ErrorChain Unit) (s : State σ) (id : Nat) (m : Move σ) :
    List Reply :=
  match s.cache.work? id, m with
  | some _, .lookedUp work answer => if work = id then [.looked answer] else []
  | some w, .deployed work answer =>
    if work = id then .deployed answer :: s.adoptionReplies set w answer else []
  | _, _ => []

end State

section Hearing

variable (set : Contract → Action σ ErrorChain Unit) (thresholds : Report.Thresholds)

/-- What a piece of work is replied on the way from one state to another. -/
inductive Hears (id : Nat) (s : State σ) : List Reply → State σ → Prop where
  | refl : Hears id s [] s
  | step {t u : State σ} {m : Move σ} {replies : List Reply} (before : Hears id s replies t)
    (made : Step set thresholds t m u) : Hears id s (replies ++ t.replies set id m) u

end Hearing

/-! ## The courses of a request -/

section Courses

variable (r : DeploymentRequest)

/-- What leads to a deployment: a demand for a new instance, or the message that there is no
contract. Under an address it must not be the message that this artifact has no canonical
instance. -/
inductive Opens : List RegistryCall → List Reply → Prop where
  | demanded (redeploy : r.redeploy = true) : Opens [] []
  | missing {text : String} (redeploy : r.redeploy = false)
    (other : r.key = .canonical ∨
      text ≠ s!"Trying to get deployed instance of {r.name}, but none was set.") :
    Opens [r.lookUpCall] [.looked (.error (.message text))]

/-- How a request ends: the calls that were made for it, the replies to them, and the contract or
the text of the error. -/
inductive Verdict : List RegistryCall → List Reply → Except String Contract → Prop where
  | found {c : Contract} (redeploy : r.redeploy = false) :
    Verdict [r.lookUpCall] [.looked (.ok c)] (.ok c)
  | unclear {e : ErrorChain} (redeploy : r.redeploy = false) :
    Verdict [r.lookUpCall] [.looked (.error (.opaqueError e))]
      (.error s!"Contract {r.name} not deployed: Failed to look up {r.name}: {e.text}")
  | absent {address : Address} {text : String} (redeploy : r.redeploy = false)
    (key : r.key = .at address)
    (same : text = s!"Trying to get deployed instance of {r.name}, but none was set.") :
    Verdict [r.lookUpCall] [.looked (.error (.message text))]
      (.error s!"Contract {r.name} not deployed: {text}")
  | undeployed {calls : List RegistryCall} {replies : List Reply} {e : ErrorChain}
    (opens : Opens r calls replies) :
    Verdict (calls ++ [r.deployCall]) (replies ++ [.deployed (.error e)])
      (.error s!"Contract {r.name} not deployed: {e.text}")
  | deployedAt {calls : List RegistryCall} {replies : List Reply} {address : Address} {c : Contract}
    (opens : Opens r calls replies) (key : r.key = .at address) :
    Verdict (calls ++ [r.deployCall]) (replies ++ [.deployed (.ok c)]) (.ok c)
  | unset {calls : List RegistryCall} {replies : List Reply} {c : Contract} {e : ErrorChain}
    (opens : Opens r calls replies) (key : r.key = .canonical) :
    Verdict (calls ++ [r.deployCall, .setAsDeployed c])
      (replies ++ [.deployed (.ok c), .adopted (.error e)])
      (.error s!"Contract {r.name} not deployed: Failed to set {r.name} as deployed: {e.text}")
  | canonical {calls : List RegistryCall} {replies : List Reply} {c : Contract}
    (opens : Opens r calls replies) (key : r.key = .canonical) :
    Verdict (calls ++ [r.deployCall, .setAsDeployed c])
      (replies ++ [.deployed (.ok c), .adopted (.ok ())]) (.ok c)

end Courses

variable {set : Contract → Action σ ErrorChain Unit} {thresholds : Report.Thresholds}
variable {s s' t u : State σ} {m : Move σ} {id j : Nat} {w v : Work} {r : DeploymentRequest}
  {calls : List RegistryCall} {replies more : List Reply}

/-- What is told to those who wait for a request. -/
def told (r : DeploymentRequest) (x : Except ErrorChain Contract) : Except String Contract :=
  (r.outcome x).mapError ErrorChain.text

/-- A contract is told as it is. -/
theorem told_ok (c : Contract) : told r (.ok c) = .ok c := rfl

/-- An error is told behind the name of the contract that is not deployed. -/
theorem told_error (e : ErrorChain) :
    told r (.error e) = .error s!"Contract {r.name} not deployed: {e.text}" := by
  show Except.error (e.context r.failure).text = _
  rw [ErrorChain.text_context]
  unfold DeploymentRequest.failure
  simp [toString, String.append_assoc]

/-- An error of a lookup is told as one of the lookup. -/
theorem told_unclear (e : ErrorChain) :
    told r (.error (e.context s!"Failed to look up {r.name}")) =
      .error s!"Contract {r.name} not deployed: Failed to look up {r.name}: {e.text}" := by
  rw [told_error, ErrorChain.text_context, Except.error.injEq, ← String.toList_inj]
  simp [toString]

/-- An error while a contract was set as deployed is told as such. -/
theorem told_unset (e : ErrorChain) :
    told r (.error (e.context s!"Failed to set {r.name} as deployed")) =
      .error s!"Contract {r.name} not deployed: Failed to set {r.name} as deployed: {e.text}" := by
  rw [told_error, ErrorChain.text_context, Except.error.injEq, ← String.toList_inj]
  simp [toString]

/-- The answer of a lookup is the verdict, or leads to a deployment. -/
theorem verdict_or_opens (hr : r.redeploy = false) (answer : Except LookupError Contract) :
    (∃ x, r.settledBy answer = some x ∧ Verdict r [r.lookUpCall] [.looked answer] (told r x)) ∨
      (r.settledBy answer = none ∧ Opens r [r.lookUpCall] [.looked answer]) := by
  cases answer with
  | ok c => exact .inl ⟨.ok c, rfl, .found hr⟩
  | error e =>
    cases e with
    | opaqueError e =>
      left
      refine ⟨_, rfl, ?_⟩
      rw [told_unclear]
      exact .unclear hr
    | message text =>
      cases hkey : r.key with
      | canonical =>
        exact .inr ⟨by simp [DeploymentRequest.settledBy, hkey], .missing hr (.inl hkey)⟩
      | «at» address =>
        by_cases htext : text = LookupError.notDeployedText r.name
        · left
          refine ⟨.error (.ofText text), ?_, ?_⟩
          · simp [DeploymentRequest.settledBy, LookupError.isNotDeployed, LookupError.message?,
              LookupError.chain, hkey, htext]
          · rw [told_error, ErrorChain.text_ofText]
            exact .absent hr hkey htext
        · right
          refine ⟨?_, .missing hr (.inr htext)⟩
          simp [DeploymentRequest.settledBy, LookupError.isNotDeployed, LookupError.message?, htext]

/-! ## What a move is for a piece of work -/

/-- What a move is for a piece of work that is there: the work goes on, or it is left aside with
what it has called and heard. -/
inductive Bears (set : Contract → Action σ ErrorChain Unit) (s : State σ) (id : Nat) (w : Work) :
    Move σ → State σ → Prop where
  | aside {m : Move σ} {t : State σ} {v : Work} (found : t.cache.work? id = some v)
    (request : v.request = w.request) (stage : v.stage = w.stage)
    (mark : w.superseded = true → v.superseded = true) (calls : t.callsOf id = s.callsOf id)
    (silent : s.replies set id m = []) : Bears set s id w m t
  | begins (stage : w.stage = .fresh) : Bears set s id w (.begin id) (s.proceed id w.begin)
  | lookedUp {answer : Except LookupError Contract} (stage : w.stage = .lookingUp) :
    Bears set s id w (.lookedUp id answer) (s.proceed id (w.lookedUp answer))
  | deployed {answer : Except ErrorChain Contract} (stage : w.stage = .deploying) :
    Bears set s id w (.deployed id answer)
      ((s.afterDeployment set id w answer).proceed id (w.settle (s.deploymentResult set w answer)))

/-- A move that marks an entry as superseded leaves all work with what it has called and heard. -/
theorem bears_of_supersedeEntry {slot : CacheKey} (hw : s.cache.work? id = some w)
    (hcache : ∀ v, (s.cache.supersedeEntry slot).work? id = some v → t.cache.work? id = some v)
    (hcalls : t.callsOf id = s.callsOf id) (hsilent : s.replies set id m = []) :
    Bears set s id w m t := by
  rw [DeploymentCache.work?_supersedeEntry, hw] at hcache
  have hv := hcache _ rfl
  refine .aside hv ?_ ?_ ?_ hcalls hsilent
  all_goals split <;> simp

/-- Other work that goes on leaves a piece of work aside. -/
theorem bears_of_other (hw : s.cache.work? id = some w) (hj : j ≠ id)
    (hcache : t.cache = s.cache) (hcalls : t.callsOf id = s.callsOf id)
    (hsilent : s.replies set id m = []) : Bears set s id w m (t.proceed j v) := by
  refine .aside ?_ rfl rfl (fun h => h) ?_ hsilent
  · rw [State.cache_proceed, DeploymentCache.work?_update, if_neg hj, hcache]
    exact hw
  · rw [State.callsOf_proceed, if_neg hj, List.append_nil]
    exact hcalls

/-- Every move lets a piece of work go on or leaves it aside. -/
theorem Step.bears (step : Step set thresholds s m s') (hw : s.cache.work? id = some w) :
    Bears set s id w m s' := by
  have hsame : ∀ {j : Nat} {v : Work}, s.cache.work? j = some v → j = id → v = w := by
    rintro j v hv rfl
    exact Option.some.inj (hv.symm.trans hw)
  cases step with
  | come r evicts => exact .aside hw rfl rfl (fun h => h) rfl (by simp [State.replies])
  | evict waits => exact bears_of_supersedeEntry hw (fun _ h => h) rfl (by simp [State.replies])
  | @obtain i r waits =>
    have hsilent : s.replies set id (.obtain i) = [] := by simp [State.replies]
    rcases DeploymentCache.obtain_cases s.cache r with ⟨j, -, -, h⟩ | ⟨-, h⟩
    · exact .aside (by rw [h]; exact hw) rfl rfl (fun h => h) rfl hsilent
    · have hcache : ∀ v, (s.cache.supersedeEntry r.slot).work? id = some v →
          (s.cache.obtain r).1.work? id = some v := by
        intro v hv
        -- the number of the new work was free
        rw [h, DeploymentCache.work?_install,
          if_neg (Nat.ne_of_lt (DeploymentCache.lt_of_work? hw))]
        exact hv
      exact bears_of_supersedeEntry hw hcache rfl hsilent
  | receive waits settled => exact .aside hw rfl rfl (fun h => h) rfl (by simp [State.replies])
  | leave i => exact .aside hw rfl rfl (fun h => h) rfl (by simp [State.replies])
  | @begin j v found stage =>
    by_cases hj : j = id
    · obtain rfl := hsame found hj
      subst hj
      exact .begins stage
    · exact bears_of_other hw hj rfl rfl (by simp [State.replies])
  | @lookedUp j v answer found stage =>
    by_cases hj : j = id
    · obtain rfl := hsame found hj
      subst hj
      exact .lookedUp stage
    · exact bears_of_other hw hj rfl rfl (by simp [State.replies, hw, hj])
  | @deployed j v answer found stage =>
    rw [State.world_receiveDeployment stage]
    by_cases hj : j = id
    · obtain rfl := hsame found hj
      subst hj
      exact .deployed stage
    · exact bears_of_other hw hj (State.cache_afterDeployment answer)
        (Site.callsOf_deployed_of_ne hj answer) (by simp [State.replies, hw, hj])
  | elsewhere world => exact .aside hw rfl rfl (fun h => h) rfl (by simp [State.replies])

/-- No move makes a call for work that there is not yet. -/
theorem Step.callsOf_of_none (step : Step set thresholds s m s')
    (hnone : s.cache.work? id = none) : s'.callsOf id = s.callsOf id := by
  have hother : ∀ {j : Nat} {v : Work}, s.cache.work? j = some v → j ≠ id := by
    rintro j v hv rfl
    rw [hnone] at hv
    cases hv
  cases step with
  | come r evicts => rfl
  | evict waits => rfl
  | obtain waits => rfl
  | receive waits settled => rfl
  | leave i => rfl
  | begin found stage => rw [State.callsOf_proceed, if_neg (hother found), List.append_nil]
  | lookedUp answer found stage =>
    rw [State.callsOf_proceed, if_neg (hother found), List.append_nil]
  | deployed answer found stage =>
    rw [State.world_receiveDeployment stage, State.callsOf_proceed, if_neg (hother found),
      List.append_nil, Site.callsOf_deployed_of_ne (hother found)]
  | elsewhere world => rfl

/-! ## What a piece of work has called and heard -/

/-- What work has called and heard, at the stage that it is at. -/
def Stands (w : Work) (calls : List RegistryCall) (replies : List Reply) : Prop :=
  match w.stage with
  | .fresh => calls = [] ∧ replies = []
  | .lookingUp => w.request.redeploy = false ∧ calls = [w.request.lookUpCall] ∧ replies = []
  | .deploying =>
    ∃ before, Opens w.request before replies ∧ calls = before ++ [w.request.deployCall]
  | .settled z =>
    w.superseded = false → Verdict w.request calls replies (z.mapError ErrorChain.text)

/-- What work has called and heard depends on its request and its stage, as long as it is not
superseded. -/
theorem Stands.congr (h : Stands w calls replies) (hrequest : v.request = w.request)
    (hstage : v.stage = w.stage) (hmark : w.superseded = true → v.superseded = true) :
    Stands v calls replies := by
  unfold Stands at h ⊢
  rw [hrequest, hstage]
  split at h
  · exact h
  · exact h
  · exact h
  · intro hcurrent
    have hbefore : w.superseded = false := by
      cases hw : w.superseded with
      | false => rfl
      | true => rw [hmark hw] at hcurrent; cases hcurrent
    exact h hbefore

/-- Work that begins has called for the first time. -/
theorem Stands.begin (h : Stands w calls replies) (hstage : w.stage = .fresh) :
    Stands w.begin (calls ++ (RegistryCall.awaitedBy? w.begin).toList) replies := by
  unfold Stands at h
  rw [hstage] at h
  obtain ⟨rfl, rfl⟩ := h
  unfold Work.begin
  rw [hstage]
  cases hr : w.request.redeploy with
  | true => exact ⟨[], .demanded hr, rfl⟩
  | false => exact ⟨hr, rfl, rfl⟩

/-- Work whose lookup is answered has heard the answer, and has called for a deployment if it goes
on to one. -/
theorem Stands.lookedUp (h : Stands w calls replies) (hstage : w.stage = .lookingUp)
    (answer : Except LookupError Contract) :
    Stands (w.lookedUp answer)
      (calls ++ (RegistryCall.awaitedBy? (w.lookedUp answer)).toList)
      (replies ++ [.looked answer]) := by
  unfold Stands at h
  rw [hstage] at h
  obtain ⟨hr, rfl, rfl⟩ := h
  unfold Work.lookedUp
  rw [hstage]
  rcases verdict_or_opens hr answer with ⟨x, hsettled, hverdict⟩ | ⟨hnone, hopens⟩
  · rw [hsettled]
    exact fun _ => hverdict
  · rw [hnone]
    exact ⟨_, hopens, rfl⟩

/-- Work that is not superseded sets its contract when it is on a canonical instance. -/
theorem adopts_of_current (hcurrent : w.superseded = false) :
    w.adopts = decide (w.request.key = .canonical) := by
  simp [Work.adopts, hcurrent]

/-- Work whose deployment is answered has heard the answer, and whether its contract could be set if
it was to be. -/
theorem Stands.deployed (h : Stands w calls replies) (hstage : w.stage = .deploying)
    (s : State σ) (answer : Except ErrorChain Contract) :
    Stands (w.settle (s.deploymentResult set w answer)) (calls ++ w.adoption answer)
      (replies ++ .deployed answer :: s.adoptionReplies set w answer) := by
  unfold Stands at h
  rw [hstage] at h
  obtain ⟨before, hopens, rfl⟩ := h
  intro hcurrent
  have hadopts := adopts_of_current (w := w) hcurrent
  show Verdict w.request _ _ (told w.request (s.deploymentResult set w answer))
  unfold Work.adoption State.adoptionReplies State.deploymentResult
  cases answer with
  | error e =>
    rw [told_error, List.append_nil]
    exact .undeployed hopens
  | ok c =>
    cases hkey : w.request.key with
    | «at» address =>
      have hnot : w.adopts = false := by simp [hadopts, hkey]
      simp only [hnot, Bool.false_eq_true, if_false, List.append_nil, told_ok]
      exact .deployedAt hopens hkey
    | canonical =>
      have hdoes : w.adopts = true := by simp [hadopts, hkey]
      simp only [hdoes, if_true, List.append_assoc, List.singleton_append]
      unfold Work.adopted
      cases ((set c).run s.world).result with
      | ok _ => exact .canonical hopens hkey
      | error e =>
        rw [told_unset]
        exact .unset hopens hkey

/-- Through every move a piece of work has called and heard what its stage says. -/
theorem Bears.stands (h : Bears set s id w m t) (hw : s.cache.work? id = some w)
    (hstands : Stands w (s.callsOf id) replies) :
    ∃ v, t.cache.work? id = some v ∧
      Stands v (t.callsOf id) (replies ++ s.replies set id m) := by
  cases h with
  | aside found request stage mark calls silent =>
    rw [calls, silent, List.append_nil]
    exact ⟨_, found, hstands.congr request stage mark⟩
  | begins stage =>
    refine ⟨_, work?_proceed_self hw, ?_⟩
    have hsilent : s.replies set id (.begin id) = [] := by simp [State.replies]
    rw [State.callsOf_proceed, if_pos rfl, hsilent, List.append_nil]
    exact hstands.begin stage
  | @lookedUp answer stage =>
    refine ⟨_, work?_proceed_self hw, ?_⟩
    have hheard : s.replies set id (.lookedUp id answer) = [.looked answer] := by
      simp [State.replies, hw]
    rw [State.callsOf_proceed, if_pos rfl, hheard]
    exact hstands.lookedUp stage answer
  | @deployed answer stage =>
    refine ⟨_, work?_proceed_self (by rw [State.cache_afterDeployment]; exact hw), ?_⟩
    have hheard : s.replies set id (.deployed id answer) =
        .deployed answer :: s.adoptionReplies set w answer := by
      simp [State.replies, hw]
    -- settled work waits for no call
    have hcalls : RegistryCall.awaitedBy? (w.settle (s.deploymentResult set w answer)) = none := rfl
    rw [State.callsOf_proceed, if_pos rfl, Site.callsOf_deployed, hheard, hcalls,
      Option.toList_none, List.append_nil]
    exact hstands.deployed stage s answer

/-- What is called and replied for a number, whether there is work with that number or not. -/
def Follows (id : Nat) (s : State σ) (replies : List Reply) : Prop :=
  match s.cache.work? id with
  | some w => Stands w (s.callsOf id) replies
  | none => s.callsOf id = [] ∧ replies = []

/-- Through every move a number has called and heard what its work has come to. -/
theorem Step.follows (step : Step set thresholds s m s') (h : Follows id s replies) :
    Follows id s' (replies ++ s.replies set id m) := by
  unfold Follows at h ⊢
  cases hw : s.cache.work? id with
  | some w =>
    rw [hw] at h
    obtain ⟨v, hv, hstands⟩ := (step.bears hw).stands hw h
    rw [hv]
    exact hstands
  | none =>
    rw [hw] at h
    obtain ⟨hcalls, rfl⟩ := h
    have hsilent : s.replies set id m = [] := by simp [State.replies, hw]
    rw [step.callsOf_of_none hw, hcalls, hsilent]
    cases hv : s'.cache.work? id with
    | none => exact ⟨rfl, rfl⟩
    | some v =>
      obtain ⟨i, r, -, -, -, rfl, -⟩ := step.installed hw hv
      exact ⟨rfl, rfl⟩

/-- On the way to a later state a number has called and heard what its work has come to. -/
theorem Hears.follows (heard : Hears set thresholds id s more t) (h : Follows id s replies) :
    Follows id t (replies ++ more) := by
  induction heard with
  | refl =>
    rw [List.append_nil]
    exact h
  | step before made ih =>
    rw [← List.append_assoc]
    exact made.follows ih

/-- Work that is settled and not superseded has the verdict for what it has called and heard. -/
theorem Follows.verdict {z : Except ErrorChain Contract} (h : Follows id s replies)
    (hw : s.cache.work? id = some w) (hcurrent : w.superseded = false)
    (hstage : w.stage = .settled z) :
    Verdict w.request (s.callsOf id) replies (z.mapError ErrorChain.text) := by
  have hstands : Stands w (s.callsOf id) replies := by
    unfold Follows at h
    rw [hw] at h
    exact h
  unfold Stands at hstands
  rw [hstage] at hstands
  exact hstands hcurrent

/-! ## Work can be brought to its end -/

/-- The reply is one of two that are given, unless it is about a contract that was set as
deployed. -/
def Reply.Among (looked : Except LookupError Contract) (deployed : Except ErrorChain Contract) :
    Reply → Prop
  | .looked answer => answer = looked
  | .deployed answer => answer = deployed
  | .adopted _ => True

variable {looked : Except LookupError Contract} {deployed : Except ErrorChain Contract}

/-- A piece of work can be brought to its end, when these are the answers. -/
def Ends (set : Contract → Action σ ErrorChain Unit) (thresholds : Report.Thresholds) (id : Nat)
    (looked : Except LookupError Contract) (deployed : Except ErrorChain Contract) (s : State σ)
    (w : Work) : Prop :=
  ∃ t more v z, Hears set thresholds id s more t ∧ (∀ reply ∈ more, reply.Among looked deployed) ∧
    t.cache.work? id = some v ∧ v.request = w.request ∧ v.superseded = w.superseded ∧
    v.stage = .settled z

/-- What is replied in a first move is heard before what is replied later. -/
theorem Hears.head (made : Step set thresholds s m t) (heard : Hears set thresholds id t more u) :
    Hears set thresholds id s (s.replies set id m ++ more) u := by
  induction heard with
  | refl =>
    have hone : Hears set thresholds id s ([] ++ s.replies set id m) t := .step .refl made
    rwa [List.nil_append, ← List.append_nil (s.replies set id m)] at hone
  | step before made ih =>
    rw [← List.append_assoc]
    exact ih.step made

/-- Work can be brought to its end when it can be after a move whose replies are among those that
are given. -/
theorem Ends.before (made : Step set thresholds s m t)
    (hreplies : ∀ reply ∈ s.replies set id m, reply.Among looked deployed)
    (hrequest : v.request = w.request) (hmark : v.superseded = w.superseded)
    (h : Ends set thresholds id looked deployed t v) :
    Ends set thresholds id looked deployed s w := by
  obtain ⟨u, more, v', z, heard, hmore, hv', hrequest', hmark', hstage⟩ := h
  refine ⟨u, _, v', z, heard.head made, ?_, hv', hrequest'.trans hrequest, hmark'.trans hmark,
    hstage⟩
  intro reply hreply
  rw [List.mem_append] at hreply
  rcases hreply with hreply | hreply
  · exact hreplies reply hreply
  · exact hmore reply hreply

/-- Work that is settled is at its end. -/
theorem ends_of_settled {z : Except ErrorChain Contract} (hw : s.cache.work? id = some w)
    (hstage : w.stage = .settled z) : Ends set thresholds id looked deployed s w :=
  ⟨s, [], w, z, .refl, by simp, hw, rfl, rfl, hstage⟩

/-- Work that waits for its deployment is brought to its end by the answer. -/
theorem ends_of_deploying (hw : s.cache.work? id = some w) (hstage : w.stage = .deploying) :
    Ends set thresholds id looked deployed s w := by
  have made : Step set thresholds s (.deployed id deployed) _ := .deployed deployed hw hstage
  rw [State.world_receiveDeployment hstage] at made
  have hafter : (s.afterDeployment set id w deployed).cache.work? id = some w := by
    rw [State.cache_afterDeployment]
    exact hw
  have hv := work?_proceed_self (v := w.settle (s.deploymentResult set w deployed)) hafter
  have hends : Ends set thresholds id looked deployed _ _ := ends_of_settled hv rfl
  refine Ends.before (v := w.settle _) made ?_ rfl rfl hends
  intro reply hreply
  simp only [State.replies, hw, if_true, List.mem_cons] at hreply
  rcases hreply with rfl | hreply
  · exact rfl
  · unfold State.adoptionReplies at hreply
    split at hreply
    · split at hreply
      · rw [List.mem_singleton.mp hreply]
        trivial
      · cases hreply
    · cases hreply

/-- Work that waits for its lookup is brought to its end by the answers. -/
theorem ends_of_lookingUp (hw : s.cache.work? id = some w) (hstage : w.stage = .lookingUp) :
    Ends set thresholds id looked deployed s w := by
  have made : Step set thresholds s (.lookedUp id looked) _ := .lookedUp looked hw hstage
  have hreplies : ∀ reply ∈ s.replies set id (.lookedUp id looked),
      reply.Among looked deployed := by
    intro reply hreply
    simp only [State.replies, hw, if_true, List.mem_singleton] at hreply
    rw [hreply]
    exact rfl
  have hv := work?_proceed_self (v := w.lookedUp looked) hw
  refine Ends.before made hreplies (request_lookedUp w looked) (superseded_lookedUp w looked) ?_
  cases hsettled : w.request.settledBy looked with
  | some x =>
    refine ends_of_settled (z := w.request.outcome x) hv ?_
    unfold Work.lookedUp
    rw [hstage]
    simp only [hsettled, Work.settle]
  | none =>
    refine ends_of_deploying hv ?_
    unfold Work.lookedUp
    rw [hstage]
    simp only [hsettled]

/-- Work that was not begun is brought to its end by beginning it. -/
theorem ends_of_fresh (hw : s.cache.work? id = some w) (hstage : w.stage = .fresh) :
    Ends set thresholds id looked deployed s w := by
  have made : Step set thresholds s (.begin id) _ := .begin hw hstage
  have hv := work?_proceed_self (v := w.begin) hw
  have hbegin : w.begin.stage = if w.request.redeploy then .deploying else .lookingUp := by
    unfold Work.begin
    rw [hstage]
  refine Ends.before made (by simp [State.replies]) (request_begin w) (superseded_begin w) ?_
  cases hr : w.request.redeploy with
  | true => exact ends_of_deploying hv (by rw [hbegin, hr]; rfl)
  | false => exact ends_of_lookingUp hv (by rw [hbegin, hr]; rfl)

/-- Every piece of work can be brought to its end, whatever the registry replies. -/
theorem exists_ends (hw : s.cache.work? id = some w) :
    Ends set thresholds id looked deployed s w := by
  cases hstage : w.stage with
  | fresh => exact ends_of_fresh hw hstage
  | lookingUp => exact ends_of_lookingUp hw hstage
  | deploying => exact ends_of_deploying hw hstage
  | settled z => exact ends_of_settled hw hstage

/-! ## Every request gets its verdict -/

/-- Work that is settled and was not superseded has its verdict, whatever the registry has replied.
Work that is not settled gets one, whatever the registry is going to answer. -/
theorem verdict_of_hears {world : σ} (heard : Hears set thresholds id { world } replies s)
    (hw : s.cache.work? id = some w) (hcurrent : w.superseded = false) :
    (∀ z, w.stage = .settled z →
      Verdict w.request (s.callsOf id) replies (z.mapError ErrorChain.text)) ∧
    ∀ looked deployed, ∃ t more z, Hears set thresholds id s more t ∧
      (∀ reply ∈ more, reply.Among looked deployed) ∧ t.cache.outcome? id = some z ∧
      Verdict w.request (t.callsOf id) (replies ++ more) (z.mapError ErrorChain.text) := by
  have hstart : Follows id ({ world } : State σ) [] := ⟨rfl, rfl⟩
  have hfollows : Follows id s replies := heard.follows hstart
  constructor
  · intro z hstage
    exact hfollows.verdict hw hcurrent hstage
  · intro looked deployed
    have hends : Ends set thresholds id looked deployed s w := exists_ends hw
    obtain ⟨t, more, v, z, hmore, hamong, hv, hrequest, hmark, hstage⟩ := hends
    refine ⟨t, more, z, hmore, hamong, DeploymentCache.outcome?_eq_some_iff.mpr ⟨v, hv, hstage⟩, ?_⟩
    rw [← hrequest]
    exact (hmore.follows hfollows).verdict hv (hmark.trans hcurrent) hstage

/-- Under an address, the message that another artifact has no canonical instance leads to a
deployment. -/
theorem verdict_tokenAt : ∃ (s : State Unit) (w : Work) (c : Contract) (replies : List Reply),
    Hears (fun _ => pure ()) .default 0 { world := () } replies s ∧
      s.cache.work? 0 = some w ∧ w.stage = .settled (.ok c) ∧
      replies = [.looked (.error (.notDeployed "Vault")), .deployed (.ok c)] ∧
      Verdict w.request [.instanceAt "Token" Address.zero, .deploy "Token" []] replies (.ok c) := by
  let r : DeploymentRequest := { name := "Token", key := .at Address.zero }
  have heard : Hears (fun _ => pure ()) .default 0 { world := () } [] _ := .refl
  have heard := heard.step (.come _ r false)
  have heard := heard.step (.obtain (i := 0) rfl)
  have heard := heard.step (@Step.begin _ _ _ _ 0 _ rfl rfl)
  have heard := heard.step (@Step.lookedUp _ _ _ _ 0 _ (.error (.notDeployed "Vault")) rfl rfl)
  have heard := heard.step
    (@Step.deployed _ _ _ _ 0 _ (.ok ⟨"Token", Address.zero, .empty, none⟩) rfl rfl)
  obtain ⟨hverdict, -⟩ := verdict_of_hears heard rfl rfl
  exact ⟨_, _, _, _, heard, rfl, rfl, rfl, hverdict _ rfl⟩

end ContractHarness.Deployment
