import ContractHarness.Failure
import ContractHarness.Notice

/-!
# Actions

Most of what the harness does reaches out: to a node, to the files of a build, to a registry of
deployed contracts. An action on a world of type `σ` ends with a result or an error, leaves the
world changed, and has given notices on the way. An action that fails keeps the changes and the
notices that it made before it failed, as they cannot be taken back.
-/

set_option autoImplicit false

namespace ContractHarness

/-- How an action ended. -/
structure Outcome (σ ε α : Type) where
  result : Except ε α
  world : σ
  notices : List Notice

/-- Something that is done to a world. -/
def Action (σ ε α : Type) : Type :=
  σ → Outcome σ ε α

namespace Action

variable {σ τ ε ε' α β : Type}

/-- Does the action to a world. -/
def run (x : Action σ ε α) (world : σ) : Outcome σ ε α :=
  x world

/-- Does nothing and has a result. -/
protected def pure (a : α) : Action σ ε α :=
  fun world => ⟨.ok a, world, []⟩

/-- Does nothing and fails. -/
def fail (e : ε) : Action σ ε α :=
  fun world => ⟨.error e, world, []⟩

/-- Goes on with the result of an action, unless it failed. -/
protected def bind (x : Action σ ε α) (f : α → Action σ ε β) : Action σ ε β :=
  fun world =>
    match x world with
    | ⟨.ok a, world', notices⟩ =>
      let rest := f a world'
      ⟨rest.result, rest.world, notices ++ rest.notices⟩
    | ⟨.error e, world', notices⟩ => ⟨.error e, world', notices⟩

/-- Actions one after the other. -/
instance : Monad (Action σ ε) where
  pure := Action.pure
  bind := Action.bind

/-- Goes on with the error of an action, if it failed. -/
protected def tryCatch (x : Action σ ε α) (handle : ε → Action σ ε α) : Action σ ε α :=
  fun world =>
    match x world with
    | ⟨.ok a, world', notices⟩ => ⟨.ok a, world', notices⟩
    | ⟨.error e, world', notices⟩ =>
      let rest := handle e world'
      ⟨rest.result, rest.world, notices ++ rest.notices⟩

/-- An action that fails can be followed by another one that handles the error. -/
instance : MonadExceptOf ε (Action σ ε) where
  throw := fail
  tryCatch := Action.tryCatch

/-- Gives a notice. -/
def tell (notice : Notice) : Action σ ε Unit :=
  fun world => ⟨.ok (), world, [notice]⟩

/-- The world as it is. -/
def look : Action σ ε σ :=
  fun world => ⟨.ok world, world, []⟩

/-- Changes the world. -/
def change (f : σ → σ) : Action σ ε Unit :=
  fun world => ⟨.ok (), f world, []⟩

/-- A result that needs no world. -/
def ofExcept (x : Except ε α) : Action σ ε α :=
  fun world => ⟨x, world, []⟩

/-- A result with the notices that came with it. -/
def ofJudgement (x : Except ε α × List Notice) : Action σ ε α :=
  fun world => ⟨x.1, world, x.2⟩

/-- Tells the error of an action differently. -/
def mapError (x : Action σ ε α) (f : ε → ε') : Action σ ε' α :=
  fun world =>
    let o := x world
    ⟨o.result.mapError f, o.world, o.notices⟩

/-- Puts a context in front of the error of an action. -/
def context (x : Action σ ErrorChain α) (text : String) : Action σ ErrorChain α :=
  x.mapError (·.context text)

/-- Does an action and has its end as the result, so that the error does not stop what follows. -/
def attempt (x : Action σ ε α) : Action σ ε' (Except ε α) :=
  fun world =>
    let o := x world
    ⟨.ok o.result, o.world, o.notices⟩

/-- Does an action to a part of the world. -/
def within (part : τ → σ) (replace : τ → σ → τ) (x : Action σ ε α) : Action τ ε α :=
  fun world =>
    let o := x (part world)
    ⟨o.result, replace world o.world, o.notices⟩

/-! ## What a sequence of actions does -/

/-- A result alone leaves the world as it is. -/
@[simp] theorem run_pure (a : α) (world : σ) :
    (pure a : Action σ ε α).run world = ⟨.ok a, world, []⟩ := rfl

/-- A failure alone leaves the world as it is. -/
@[simp] theorem run_throw (e : ε) (world : σ) :
    (throw e : Action σ ε α).run world = ⟨.error e, world, []⟩ := rfl

/-- The second action starts in the world that the first one leaves, and does not start at all when
the first one fails. What the first one changed and told stays in both cases. -/
theorem run_bind (x : Action σ ε α) (f : α → Action σ ε β) (world : σ) :
    (x >>= f).run world =
      match x.run world with
      | ⟨.ok a, world', notices⟩ =>
        ⟨((f a).run world').result, ((f a).run world').world,
          notices ++ ((f a).run world').notices⟩
      | ⟨.error e, world', notices⟩ => ⟨.error e, world', notices⟩ := rfl

/-- A notice leaves the world as it is. -/
@[simp] theorem run_tell (notice : Notice) (world : σ) :
    (tell notice : Action σ ε Unit).run world = ⟨.ok (), world, [notice]⟩ := rfl

/-- A result that needs no world leaves it as it is. -/
@[simp] theorem run_ofExcept (x : Except ε α) (world : σ) :
    (ofExcept x : Action σ ε α).run world = ⟨x, world, []⟩ := rfl

/-- An attempt never fails, and it changes and tells what the action does. -/
@[simp] theorem run_attempt (x : Action σ ε α) (world : σ) :
    (x.attempt : Action σ ε' (Except ε α)).run world =
      ⟨.ok (x.run world).result, (x.run world).world, (x.run world).notices⟩ := rfl

/-- To look at the world leaves it as it is. -/
@[simp] theorem run_look (world : σ) :
    (look : Action σ ε σ).run world = ⟨.ok world, world, []⟩ := rfl

/-- A change of the world has no result and tells nothing. -/
@[simp] theorem run_change (f : σ → σ) (world : σ) :
    (change f : Action σ ε Unit).run world = ⟨.ok (), f world, []⟩ := rfl

/-- A judgement tells its notices and leaves the world as it is. -/
@[simp] theorem run_ofJudgement (x : Except ε α × List Notice) (world : σ) :
    (ofJudgement x).run world = ⟨x.1, world, x.2⟩ := rfl

/-- To tell an error differently changes nothing else about an action. -/
@[simp] theorem run_mapError (x : Action σ ε α) (f : ε → ε') (world : σ) :
    (x.mapError f).run world =
      ⟨(x.run world).result.mapError f, (x.run world).world, (x.run world).notices⟩ := rfl

/-- A context is put in front of the error and changes nothing else about an action. -/
@[simp] theorem run_context (x : Action σ ErrorChain α) (text : String) (world : σ) :
    (x.context text).run world =
      ⟨(x.run world).result.mapError (·.context text), (x.run world).world,
        (x.run world).notices⟩ := rfl

/-- An action to a part of a world does to that part what it does alone. -/
@[simp] theorem run_within (part : τ → σ) (replace : τ → σ → τ) (x : Action σ ε α) (world : τ) :
    (x.within part replace).run world =
      ⟨(x.run (part world)).result, replace world (x.run (part world)).world,
        (x.run (part world)).notices⟩ := rfl

/-- An action whose result is kept is the action itself. -/
private theorem map_id (x : Action σ ε α) : id <$> x = x := by
  funext world
  show Action.bind x _ world = x world
  simp only [Action.bind]
  split <;> simp_all [Action.pure]

/-- A result at the start is handed on. -/
private theorem pure_then (a : α) (f : α → Action σ ε β) : pure a >>= f = f a := by
  funext world
  show (⟨(f a world).result, (f a world).world, [] ++ (f a world).notices⟩ : Outcome σ ε β)
    = f a world
  rw [List.nil_append]

/-- It does not matter how a sequence of three actions is grouped. -/
private theorem bind_then {γ : Type} (x : Action σ ε α) (f : α → Action σ ε β)
    (g : β → Action σ ε γ) : x >>= f >>= g = x >>= fun a => f a >>= g := by
  funext world
  show Action.bind (Action.bind x f) g world = Action.bind x (fun a => Action.bind (f a) g) world
  simp only [Action.bind]
  rcases x world with ⟨a | a, world', notices⟩
  · rfl
  · dsimp only
    rcases f a world' with ⟨b | b, world'', notices'⟩ <;> simp

/-- Sequences of actions obey the laws of a monad. -/
instance : LawfulMonad (Action σ ε) :=
  LawfulMonad.mk' (Action σ ε) map_id pure_then bind_then

end Action

end ContractHarness
