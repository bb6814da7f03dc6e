import ContractHarness.Proofs.Event.Keys
import ContractHarness.Proofs.Event.Logs
import ContractHarness.Proofs.Except

/-!
# The logs of a receipt

Decoding a receipt keeps an entry for each log: a placeholder for a log of no event, and for any
other log the name of its event with an argument for each parameter. An argument can only be missing
where the data holds nothing at all: when no parameter outside the topics has anything that would be
encoded, the data is not read, and none of these parameters is shown.
-/

set_option autoImplicit false

namespace ContractHarness

/-! ## How many values are decoded -/

namespace AbiType

variable {memory : Memory} {types : List AbiType} {values : List AbiValue}

/-- Values are decoded for all of the types. -/
theorem length_of_decodeEach {c after : Cursor} (h : decodeEach types c = .ok (values, after)) :
    values.length = types.length := by
  induction types generalizing c values after with
  | nil =>
    cases h
    rfl
  | cons type types ih =>
    rw [decodeEach] at h
    obtain ⟨first, -, h⟩ := Except.bind_ok_iff.mp h
    obtain ⟨⟨others, rest⟩, hothers, h⟩ := Except.bind_ok_iff.mp h
    cases h
    rw [List.length_cons, List.length_cons, ih hothers]

/-- There is a value for each type, unless there is nothing to decode. -/
theorem length_of_decodeSequence {data : Bytes}
    (h : decodeSequence memory types data = .ok values) :
    values.length = if allZeroSized types then 0 else types.length := by
  unfold decodeSequence at h
  by_cases hempty : allZeroSized types
  · rw [if_pos hempty] at h
    cases h
    rw [if_pos hempty]
    rfl
  · rw [if_neg hempty] at h ⊢
    dsimp only at h
    split at h
    · cases h
    · split at h
      · cases h
      · obtain ⟨⟨decoded, rest⟩, hdecoded, h⟩ := Except.bind_ok_iff.mp h
        cases h
        exact length_of_decodeEach hdecoded

end AbiType

namespace Param

variable {params : List Param} {types : List AbiType}

/-- Nothing that a value of the parameter has would be encoded. -/
def isZeroSized (param : Param) : Bool :=
  param.resolve?.any AbiType.isZeroSized

/-- A type is found for each of the parameters. -/
theorem length_of_resolveAll? (h : resolveAll? params = some types) :
    types.length = params.length := by
  induction params generalizing types with
  | nil =>
    cases h
    rfl
  | cons param params ih =>
    rw [resolveAll?] at h
    split at h
    · next type others _ hothers =>
      cases h
      rw [List.length_cons, List.length_cons, ih hothers]
    · cases h

/-- The types are without size exactly when the parameters are. -/
theorem allZeroSized_of_resolveAll? (h : resolveAll? params = some types) :
    AbiType.allZeroSized types = params.all isZeroSized := by
  induction params generalizing types with
  | nil =>
    cases h
    rfl
  | cons param params ih =>
    rw [resolveAll?] at h
    split at h
    · next type others htype hothers =>
      cases h
      have hparam : param.isZeroSized = type.isZeroSized := by
        rw [isZeroSized, htype, Option.any_some]
      rw [AbiType.allZeroSized, ih hothers, List.all_cons, hparam]
    · cases h

end Param

/-! ## One argument for each parameter -/

namespace Event

variable {memory : Memory} {event : Event} {params : List Param} {indexed body : List AbiValue}
  {position : Nat}

/-- The parameters that are shown, with their positions. When nothing of those in the data would be
encoded, the data is not read, and only those in the topics are shown. -/
def shownInputs (event : Event) : List (Param × Nat) :=
  if (event.inputsWhere false).all Param.isZeroSized then
    event.inputs.zipIdx.filter (·.1.indexed)
  else event.inputs.zipIdx

/-- A log that fits its event has a topic for each indexed parameter, and data of the types of the
others. -/
theorem decodeParts_ok {topics : List Word} {data : Bytes}
    (h : event.decodeParts memory topics data = .ok (indexed, body)) :
    ∃ types others, Param.resolveAll? (event.inputsWhere true) = some types ∧
      Param.resolveAll? (event.inputsWhere false) = some others ∧
      topics.length = types.length ∧ AbiType.decodeSequence memory others data = .ok body ∧
      indexed = List.zipWith AbiType.ofWord types topics := by
  unfold decodeParts at h
  split at h
  · next types htypes =>
    split at h
    · next others hothers =>
      dsimp only at h
      split at h
      · cases h
      · split at h
        · cases h
        · next hcount =>
          obtain ⟨values, hvalues, h⟩ := Except.bind_ok_iff.mp h
          cases h
          exact ⟨types, others, htypes, hothers, Decidable.of_not_not hcount,
            Except.mapError_ok_iff.mp hvalues, rfl⟩
    · cases h
  · cases h

/-- Every indexed parameter has a value, and so has every other one unless nothing of them would be
encoded. -/
theorem counts_of_decodeParts {topics : List Word} {data : Bytes}
    (h : event.decodeParts memory topics data = .ok (indexed, body)) :
    indexed.length = (event.inputsWhere true).length ∧
      body.length = if (event.inputsWhere false).all Param.isZeroSized then 0
        else (event.inputsWhere false).length := by
  obtain ⟨types, others, htypes, hothers, hcount, hbody, rfl⟩ := decodeParts_ok h
  have hindexed := Param.length_of_resolveAll? htypes
  have hlength := AbiType.length_of_decodeSequence hbody
  rw [Param.allZeroSized_of_resolveAll? hothers, Param.length_of_resolveAll? hothers] at hlength
  refine ⟨?_, hlength⟩
  rw [List.length_zipWith]
  omega

section Interleave

variable {param : Param} {value : AbiValue}

/-- An indexed parameter gets the first of the values from the topics. -/
theorem interleave_indexed (h : param.indexed = true) :
    interleave position (param :: params) (value :: indexed) body =
      (argumentKey position param, .ofAbi value) ::
        interleave (position + 1) params indexed body := by
  rw [interleave]
  exact h

/-- Any other parameter gets the first of the values from the data. -/
theorem interleave_body (h : param.indexed = false) :
    interleave position (param :: params) indexed (value :: body) =
      (argumentKey position param, .ofAbi value) ::
        interleave (position + 1) params indexed body := by
  rw [interleave]
  exact h

/-- A parameter outside the topics is passed over when no value from the data is left. -/
theorem interleave_passed (h : param.indexed = false) :
    interleave position (param :: params) indexed [] =
      interleave (position + 1) params indexed [] := by
  rw [interleave]
  all_goals simp [h]

end Interleave

/-- With a value for each parameter no argument is missing. -/
theorem keys_interleave (hindexed : indexed.length = (params.filter (·.indexed)).length)
    (hbody : body.length = (params.filter (!·.indexed)).length) :
    (interleave position params indexed body).map Prod.fst = keysOf (params.zipIdx position) := by
  induction params generalizing position indexed body with
  | nil => rfl
  | cons param params ih =>
    unfold keysOf at ih ⊢
    rw [List.zipIdx_cons, List.map_cons]
    cases hparam : param.indexed with
    | true =>
      rw [List.filter_cons_of_pos hparam, List.length_cons] at hindexed
      rw [List.filter_cons_of_neg (by simp [hparam])] at hbody
      obtain ⟨value, indexed, rfl⟩ := List.exists_cons_of_length_eq_add_one hindexed
      rw [interleave_indexed hparam, List.map_cons, ih (Nat.succ.inj hindexed) hbody]
    | false =>
      rw [List.filter_cons_of_neg (by simp [hparam])] at hindexed
      rw [List.filter_cons_of_pos (by simp [hparam]), List.length_cons] at hbody
      obtain ⟨value, body, rfl⟩ := List.exists_cons_of_length_eq_add_one hbody
      rw [interleave_body hparam, List.map_cons, ih hindexed (Nat.succ.inj hbody)]

/-- Without values for the others the indexed parameters are the only ones that are shown. -/
theorem keys_interleave_nil (hindexed : indexed.length = (params.filter (·.indexed)).length) :
    (interleave position params indexed []).map Prod.fst =
      keysOf ((params.zipIdx position).filter (·.1.indexed)) := by
  induction params generalizing position indexed with
  | nil => rfl
  | cons param params ih =>
    unfold keysOf at ih ⊢
    rw [List.zipIdx_cons]
    cases hparam : param.indexed with
    | true =>
      rw [List.filter_cons_of_pos hparam, List.length_cons] at hindexed
      obtain ⟨value, indexed, rfl⟩ := List.exists_cons_of_length_eq_add_one hindexed
      rw [interleave_indexed hparam, List.filter_cons_of_pos (by simpa using hparam), List.map_cons,
        List.map_cons, ih (Nat.succ.inj hindexed)]
    | false =>
      rw [List.filter_cons_of_neg (by simp [hparam])] at hindexed
      rw [interleave_passed hparam, List.filter_cons_of_neg (by simp [hparam]), ih hindexed]

/-- The decoded values stand under the keys of the parameters that are shown. -/
theorem keys_of_decodeParts {topics : List Word} {data : Bytes}
    (h : event.decodeParts memory topics data = .ok (indexed, body)) :
    (interleave 0 event.inputs indexed body).map Prod.fst = keysOf event.shownInputs := by
  obtain ⟨hindexed, hbody⟩ := counts_of_decodeParts h
  have hindexed' : indexed.length = (event.inputs.filter (·.indexed)).length := by
    simpa [inputsWhere] using hindexed
  unfold shownInputs
  by_cases hempty : (event.inputsWhere false).all Param.isZeroSized
  · rw [if_pos hempty] at hbody ⊢
    rw [List.length_eq_zero_iff.mp hbody]
    exact keys_interleave_nil hindexed'
  · rw [if_neg hempty] at hbody ⊢
    apply keys_interleave hindexed'
    simpa [inputsWhere] using hbody

/-- All parameters are shown when they are all in the topics, or when something of those in the data
is encoded. -/
theorem shownInputs_eq (h : (∀ param ∈ event.inputs, param.indexed = true) ∨
      ∃ param ∈ event.inputs, param.indexed = false ∧ param.isZeroSized = false) :
    event.shownInputs = event.inputs.zipIdx := by
  unfold shownInputs
  cases h with
  | inl hindexed =>
    split
    · rw [List.filter_eq_self]
      intro p hp
      exact hindexed p.1 (List.fst_mem_of_mem_zipIdx hp)
    · rfl
  | inr hsized =>
    obtain ⟨param, hmem, hbody, hsize⟩ := hsized
    have hinput : param ∈ event.inputsWhere false := by
      unfold inputsWhere
      rw [List.mem_filter]
      exact ⟨hmem, by simpa using hbody⟩
    rw [if_neg]
    intro hempty
    have hzero := List.all_eq_true.mp hempty param hinput
    rw [hsize] at hzero
    cases hzero

/-- The parameters that are shown keep their order and their positions. -/
theorem shownInputs_sublist (event : Event) : event.shownInputs.Sublist event.inputs.zipIdx := by
  unfold shownInputs
  split
  · exact List.filter_sublist
  · exact List.Sublist.refl _

/-! ## What an entry shows -/

/-- The entry shows the event. -/
structure ShownBy (event : Event) (entry : LogEntry) : Prop where
  name : entry.event = some event.name
  /-- There is a key for each parameter that is shown, and a key that comes again stands where it
  came first. -/
  keys : entry.args.keys = (keysOf event.shownInputs).eraseDups
  /-- Every parameter has its key, unless the data holds nothing. -/
  complete : ((∀ param ∈ event.inputs, param.indexed = true) ∨
      ∃ param ∈ event.inputs, param.indexed = false ∧ param.isZeroSized = false) →
    entry.args.keys = (keysOf event.inputs.zipIdx).eraseDups
  /-- The arguments that have a name can be told from the others. -/
  named : Distinct event.inputs →
    entry.namedOnly.args.keys = namesOf event.shownInputs ∧
      entry.namedOnly.args.entries =
        entry.args.entries.filter fun arg => arg.1 ∈ namesOf event.shownInputs

/-- An entry shows the event when it has its name, and arguments under the keys of it. -/
theorem shownBy_of_entries {entry : LogEntry} {args : List (String × EventValue)}
    (hname : entry.event = some event.name) (hargs : entry.args = .ofList args)
    (hkeys : args.map Prod.fst = keysOf event.shownInputs) : event.ShownBy entry where
  name := hname
  keys := by rw [hargs, OrderedMap.keys_ofList, hkeys]
  complete := by
    intro h
    rw [hargs, OrderedMap.keys_ofList, hkeys, shownInputs_eq h]
  named := by
    intro hdistinct
    have hsub := event.shownInputs_sublist
    have hnodup : (args.map Prod.fst).Nodup := by
      rw [hkeys]
      exact (hdistinct.nodup_keysOf 0).sublist (hsub.map _)
    have hentries : entry.args.entries = args := by
      rw [hargs, OrderedMap.entries_ofList hnodup]
    have hnames : (keysOf event.shownInputs).filter (fun key => !LogEntry.isPosition key) =
        namesOf event.shownInputs := by
      apply filter_keysOf
      intro p hp
      exact hdistinct.letters p.1 (List.fst_mem_of_mem_zipIdx (hsub.subset hp))
    constructor
    · unfold LogEntry.namedOnly
      rw [OrderedMap.keys_filterKeys, OrderedMap.keys, hentries, hkeys, hnames]
    · apply List.filter_congr
      intro arg harg
      have hkey : arg.1 ∈ keysOf event.shownInputs := by
        rw [← hkeys, ← hentries]
        exact List.mem_map_of_mem harg
      rw [← hnames]
      simp [List.mem_filter, hkey]

end Event

/-! ## One entry for each log -/

namespace Interface

variable {memory : Memory} {abi : Interface} {log : RawLog} {logs : List RawLog}
  {event other : Event} {e : LogError}

/-- The log is of the event: of those that are not anonymous and have its first topic, this is the
first one. -/
def IsOf (abi : Interface) (log : RawLog) (event : Event) : Prop :=
  log.topics.head? = some event.topic ∧ event.anonymous = false ∧
    ∃ before after, abi.events = before ++ event :: after ∧
      ∀ other ∈ before, other.anonymous = false → other.topic ≠ event.topic

/-- The log has no topic, or that of no event which is not anonymous. -/
def IsForeign (abi : Interface) (log : RawLog) : Prop :=
  ∀ event ∈ abi.events, event.anonymous = false → log.topics.head? ≠ some event.topic

/-- The log does not fit its event. -/
def Misfits (memory : Memory) (abi : Interface) (log : RawLog) (e : LogError) : Prop :=
  ∃ event, abi.IsOf log event ∧ e.event = event.name ∧
    event.decodeParts memory log.topics.tail log.data = .error e.fault

/-- The entry shows the log. -/
structure Shows (abi : Interface) (log : RawLog) (entry : LogEntry) : Prop where
  address : entry.address = log.address
  placeholder_iff : entry = .placeholder log.address ↔ abi.IsForeign log
  ofEvent : ∀ event, abi.IsOf log event → event.ShownBy entry

/-- A log is of the event that the interface finds by its first topic. -/
theorem isOf_iff : abi.IsOf log event ↔
    ∃ topics, log.topics = event.topic :: topics ∧ abi.eventOf? event.topic = some event := by
  unfold IsOf
  rw [eventOf?_eq_some_iff, List.head?_eq_some_iff]
  simp

/-- A log is of one event at most. -/
theorem IsOf.unique (h : abi.IsOf log event) (hother : abi.IsOf log other) : other = event := by
  obtain ⟨topics, htopics, hevent⟩ := isOf_iff.mp h
  obtain ⟨topics', htopics', hother⟩ := isOf_iff.mp hother
  rw [htopics] at htopics'
  rw [← (List.cons.inj htopics').1, hevent] at hother
  exact (Option.some.inj hother).symm

/-- A log of an event is not foreign to the interface. -/
theorem IsOf.not_isForeign (h : abi.IsOf log event) : ¬ abi.IsForeign log := by
  obtain ⟨htopic, hanonymous, before, after, hevents, -⟩ := h
  have hmem : event ∈ abi.events := by
    rw [hevents]
    exact List.mem_append_right _ List.mem_cons_self
  intro hforeign
  exact hforeign event hmem hanonymous htopic

/-- A log is foreign, or it is of an event and fits it, or it is of one and does not. -/
theorem decodeLog_cases (memory : Memory) (abi : Interface) (log : RawLog) :
    (abi.decodeLog memory log = .ok (.placeholder log.address) ∧ abi.IsForeign log) ∨
    ∃ event, abi.IsOf log event ∧
      ((∃ indexed body, event.decodeParts memory log.topics.tail log.data = .ok (indexed, body) ∧
        abi.decodeLog memory log = .ok ⟨log.address, some event.name,
          .ofList (Event.interleave 0 event.inputs indexed body)⟩) ∨
      ∃ fault, event.decodeParts memory log.topics.tail log.data = .error fault ∧
        abi.decodeLog memory log = .error ⟨event.name, fault⟩) := by
  obtain ⟨address, topics, data⟩ := log
  cases topics with
  | nil => exact .inl ⟨rfl, by simp [IsForeign]⟩
  | cons topic topics =>
    cases hevent : abi.eventOf? topic with
    | none =>
      have hnone := eventOf?_eq_none_iff.mp hevent
      refine .inl ⟨decodeLog_of_none hevent, ?_⟩
      intro event hmem hanonymous htopic
      exact hnone event hmem hanonymous (Option.some.inj htopic).symm
    | some event =>
      obtain ⟨rfl, -⟩ := eventOf?_eq_some_iff.mp hevent
      refine .inr ⟨event, isOf_iff.mpr ⟨topics, rfl, hevent⟩, ?_⟩
      cases hparts : event.decodeParts memory topics data with
      | error fault => exact .inr ⟨fault, hparts, decodeLog_of_error hevent hparts⟩
      | ok parts =>
        obtain ⟨indexed, body⟩ := parts
        exact .inl ⟨indexed, body, hparts, decodeLog_of_ok hevent hparts⟩

/-- A log cannot be decoded exactly when it does not fit its event, and the error says how. -/
theorem decodeLog_error_iff : abi.decodeLog memory log = .error e ↔ abi.Misfits memory log e := by
  constructor
  · intro h
    obtain ⟨hlog, -⟩ | ⟨event, hevent, ⟨_, _, -, hlog⟩ | ⟨fault, hparts, hlog⟩⟩ :=
      abi.decodeLog_cases memory log
    · cases hlog.symm.trans h
    · cases hlog.symm.trans h
    · cases hlog.symm.trans h
      exact ⟨event, hevent, rfl, hparts⟩
  · rintro ⟨event, hevent, hname, hfault⟩
    obtain ⟨-, hforeign⟩ | ⟨other, hother, ⟨_, _, hparts, -⟩ | ⟨fault, hparts, hlog⟩⟩ :=
      abi.decodeLog_cases memory log
    · exact absurd hforeign hevent.not_isForeign
    · rw [hevent.unique hother, hfault] at hparts
      cases hparts
    · rw [hevent.unique hother] at hparts hlog
      rw [hlog, ← hname, ← Except.error.inj (hfault.symm.trans hparts)]

/-- A log can be decoded exactly when there is no way in which it does not fit. -/
theorem exists_entry_iff :
    (∃ entry, abi.decodeLog memory log = .ok entry) ↔ ∀ e, ¬ abi.Misfits memory log e := by
  simp only [← decodeLog_error_iff]
  cases abi.decodeLog memory log <;> simp

/-- What is decoded from a log shows the log. -/
theorem shows_of_decodeLog {entry : LogEntry} (h : abi.decodeLog memory log = .ok entry) :
    abi.Shows log entry := by
  obtain ⟨hlog, hforeign⟩ | ⟨event, hevent, ⟨indexed, body, hparts, hlog⟩ | ⟨_, -, hlog⟩⟩ :=
    abi.decodeLog_cases memory log
  · cases hlog.symm.trans h
    constructor
    · rfl
    · exact ⟨fun _ => hforeign, fun _ => rfl⟩
    · intro event hevent
      exact absurd hforeign hevent.not_isForeign
  · cases hlog.symm.trans h
    constructor
    · rfl
    · constructor
      · intro hplaceholder
        cases congrArg LogEntry.event hplaceholder
      · intro hforeign
        exact absurd hforeign hevent.not_isForeign
    · intro other hother
      rw [hevent.unique hother]
      exact Event.shownBy_of_entries rfl rfl (Event.keys_of_decodeParts hparts)
  · cases hlog.symm.trans h

/-- What is decoded from logs shows each of them, in their order. -/
theorem shows_of_decodeLogs {entries : List LogEntry}
    (h : abi.decodeLogs memory logs = .ok entries) :
    entries.length = logs.length ∧ ∀ p ∈ logs.zip entries, abi.Shows p.1 p.2 := by
  induction logs generalizing entries with
  | nil =>
    cases h
    exact ⟨rfl, fun p hp => absurd hp List.not_mem_nil⟩
  | cons log logs ih =>
    cases hlog : abi.decodeLog memory log with
    | error e =>
      rw [decodeLogs_cons_of_error hlog] at h
      cases h
    | ok entry =>
      rw [decodeLogs_cons_of_ok hlog, Except.map_ok_iff] at h
      obtain ⟨others, hothers, rfl⟩ := h
      obtain ⟨hlength, hshows⟩ := ih hothers
      rw [List.length_cons, List.length_cons, hlength, List.zip_cons_cons, List.forall_mem_cons]
      exact ⟨rfl, shows_of_decodeLog hlog, hshows⟩

/-- Decoding logs fails with the error of the first that does not fit its event. When they all fit,
there is an entry for each, in order, which shows it. -/
theorem decodeLogs_keeps (memory : Memory) (abi : Interface) (logs : List RawLog) :
    (∀ e, abi.decodeLogs memory logs = .error e ↔
      ∃ before log after, logs = before ++ log :: after ∧
      (∀ other ∈ before, ∀ e', ¬ abi.Misfits memory other e') ∧ abi.Misfits memory log e) ∧
    ((∃ entries, abi.decodeLogs memory logs = .ok entries) ↔
      ∀ log ∈ logs, ∀ e, ¬ abi.Misfits memory log e) ∧
    ∀ entries, abi.decodeLogs memory logs = .ok entries →
      entries.length = logs.length ∧ ∀ p ∈ logs.zip entries, abi.Shows p.1 p.2 := by
  refine ⟨?_, ?_, fun entries => shows_of_decodeLogs⟩
  · intro e
    rw [decodeLogs_error_iff]
    simp only [exists_entry_iff, decodeLog_error_iff]
  · rw [decodeLogs_ok_iff]
    simp only [exists_entry_iff]

end Interface

/-! ## An event without anything in its data -/

section Marked

/-- The event has a parameter of a type without size and no other. -/
def marked : Event := ⟨"Marked", [⟨"mark", "()", [], false⟩], false⟩

/-- The interface of a contract with this one event. -/
def markings : Interface := ⟨none, [], [marked]⟩

/-- The log of an event whose only parameter is an empty tuple shows no argument. -/
theorem decodeLogs_marked :
    markings.IsOf ⟨Address.ofNat 1, [marked.topic], []⟩ marked ∧
      (∀ memory, markings.decodeLogs memory [⟨Address.ofNat 1, [marked.topic], []⟩] =
        .ok [⟨Address.ofNat 1, some "Marked", ∅⟩]) ∧
      Event.keysOf marked.inputs.zipIdx = ["mark"] := by
  have hevent : markings.eventOf? marked.topic = some marked :=
    Interface.eventOf?_eq_some_iff.mpr
      ⟨rfl, rfl, [], [], rfl, fun _ h => absurd h List.not_mem_nil⟩
  refine ⟨Interface.isOf_iff.mpr ⟨[], rfl, hevent⟩, fun memory => ?_, rfl⟩
  have hparts : marked.decodeParts memory [] [] = .ok ([], []) := rfl
  rw [Interface.decodeLogs_cons_of_ok (Interface.decodeLog_of_ok hevent hparts)]
  rfl

end Marked

end ContractHarness
