import TelemetryFabric.Library.Machine
import TelemetryFabric.Library.Slots
import TelemetryFabric.ControlPlane.AgentRegistry
import Mathlib.Data.List.Permutation

/-!
The row of one agent in PostgreSQL, under any number of registrations and heartbeats at a time. A
registration writes all of the row. A heartbeat reads the row and checks the tenant outside the
transaction in which it writes the row back; what has happened to the row in between is lost.
-/

namespace TelemetryFabric.ControlPlane
open Library

/-! ### Calls one after another -/

inductive RegistryCall where
  | register (attrs : RegisterAttrs)
  | heartbeat (attrs : HeartbeatAttrs)
  deriving DecidableEq

inductive RegistryResult where
  | ok (agent : AgentRecord)
  | error (error : RegistryError)
  deriving DecidableEq

/-- A call that has returned, with the time it took from the clock. -/
structure Served where
  call : RegistryCall
  now : Int
  result : RegistryResult
  deriving DecidableEq

/-- A call with no other one beside it: its result and the row behind it. -/
def serve (call : RegistryCall) (now : Int) (row : Option AgentRecord) : RegistryResult × Option AgentRecord :=
  match call with
  | .register attrs => (.ok (attrs.record now), some (attrs.record now))
  | .heartbeat attrs =>
      match row with
      | none => (.error .notFound, none)
      | some agent =>
          match requireSameTenant agent attrs.tenantId with
          | .error error => (.error error, some agent)
          | .ok () => (.ok (attrs.refresh now agent), some (attrs.refresh now agent))

/-- The calls return what they have returned when they are run in this order, and leave the row. -/
def InOrder (row : Option AgentRecord) : List Served → Option AgentRecord → Prop
  | [], final => final = row
  | served :: rest, final =>
      (serve served.call served.now row).1 = served.result ∧ InOrder (serve served.call served.now row).2 rest final

theorem inOrder_append {row : Option AgentRecord} {order : List Served} {middle : Option AgentRecord}
    (early : InOrder row order middle) {served : Served}
    (last : (serve served.call served.now middle).1 = served.result) :
    InOrder row (order ++ [served]) (serve served.call served.now middle).2 := by
  induction order generalizing row with
  | nil =>
    obtain rfl : middle = row := early
    exact ⟨last, rfl⟩
  | cons first rest ih => exact ⟨early.1, ih early.2⟩

instance decidableInOrder (row : Option AgentRecord) : (order : List Served) → (final : Option AgentRecord) →
    Decidable (InOrder row order final)
  | [], final => inferInstanceAs (Decidable (final = row))
  | served :: rest, final =>
      have := decidableInOrder (serve served.call served.now row).2 rest final
      inferInstanceAs (Decidable (_ ∧ _))

/-! ### Calls at a time -/

inductive RegistryPhase where
  | called (call : RegistryCall)
  | checked (attrs : HeartbeatAttrs) (agent : AgentRecord)
  | upserted (call : RegistryCall) (now : Int) (agent : AgentRecord)
  | returned (served : Served)
  | aborted (call : RegistryCall)
  deriving DecidableEq

namespace RegistryPhase

/-- The row is locked from the upsert on until the transaction ends. -/
def holdsRow : RegistryPhase → Bool
  | .upserted _ _ _ => true
  | _ => false

def served : RegistryPhase → Option Served
  | .returned served => some served
  | _ => none

end RegistryPhase

/-- The committed row, the calls, and those that have returned in the order of their last access
to the row. -/
structure RegistryState where
  row : Option AgentRecord
  calls : List RegistryPhase
  log : List Served
  deriving DecidableEq

inductive RegistryEvent where
  | begins (call : RegistryCall)
  | reads (id : Nat) (now : Int)
  | upserts (id : Nat) (now : Int)
  | commits (id : Nat)
  | aborts (id : Nat)

namespace RegistryState

def initial (row : Option AgentRecord) : RegistryState := ⟨row, [], []⟩

def goesTo (state : RegistryState) (id : Nat) (phase : RegistryPhase) : RegistryState :=
  { state with calls := state.calls.set id phase }

def returns (state : RegistryState) (id : Nat) (served : Served) : RegistryState :=
  { state with calls := state.calls.set id (.returned served), log := state.log ++ [served] }

/-- There is no next state where a statement waits for the row. -/
def step (state : RegistryState) : RegistryEvent → Option RegistryState
  | .begins call => some { state with calls := state.calls ++ [.called call] }
  | .reads id now =>
      match state.calls[id]? with
      | some (.called (.heartbeat attrs)) =>
          match state.row with
          | none => some (state.returns id ⟨.heartbeat attrs, now, .error .notFound⟩)
          | some agent =>
              match requireSameTenant agent attrs.tenantId with
              | .error error => some (state.returns id ⟨.heartbeat attrs, now, .error error⟩)
              | .ok () => some (state.goesTo id (.checked attrs agent))
      | _ => none
  | .upserts id now =>
      if state.calls.any RegistryPhase.holdsRow then none
      else
        match state.calls[id]? with
        | some (.called (.register attrs)) =>
            some (state.goesTo id (.upserted (.register attrs) now (attrs.record now)))
        | some (.checked attrs agent) =>
            some (state.goesTo id (.upserted (.heartbeat attrs) now (attrs.refresh now agent)))
        | _ => none
  | .commits id =>
      match state.calls[id]? with
      | some (.upserted call now agent) => some { (state.returns id ⟨call, now, .ok agent⟩) with row := some agent }
      | _ => none
  | .aborts id =>
      match state.calls[id]? with
      | some (.called call) | some (.upserted call _ _) => some (state.goesTo id (.aborted call))
      | some (.checked attrs _) => some (state.goesTo id (.aborted (.heartbeat attrs)))
      | _ => none

/-- `serve` is what the statements of one call come to when no other call is there. -/
theorem serve_alone (call : RegistryCall) (now : Int) (row : Option AgentRecord) :
    ∃ events state, run step (initial row) (.begins call :: events) = some state ∧
      state.row = (serve call now row).2 ∧ state.log = [⟨call, now, (serve call now row).1⟩] := by
  cases call with
  | register attrs => exact ⟨[.upserts 0 now, .commits 0], _, rfl, rfl, rfl⟩
  | heartbeat attrs =>
    cases row with
    | none => exact ⟨[.reads 0 now], _, rfl, rfl, rfl⟩
    | some agent =>
      cases checked : requireSameTenant agent attrs.tenantId with
      | error error =>
        refine ⟨[.reads 0 now], ⟨some agent, [.returned ⟨.heartbeat attrs, now, .error error⟩],
          [⟨.heartbeat attrs, now, .error error⟩]⟩, ?_, ?_, ?_⟩
        · simp [run, step, initial, returns, checked]
        · simp [serve, checked]
        · simp [serve, checked]
      | ok _ =>
        refine ⟨[.reads 0 now, .upserts 0 now, .commits 0], ⟨some (attrs.refresh now agent),
          [.returned ⟨.heartbeat attrs, now, .ok (attrs.refresh now agent)⟩],
          [⟨.heartbeat attrs, now, .ok (attrs.refresh now agent)⟩]⟩, ?_, ?_, ?_⟩
        · simp [run, step, initial, returns, goesTo, checked, RegistryPhase.holdsRow]
        · simp [serve, checked]
        · simp [serve, checked]

/-- When a heartbeat writes the row, it still is what the heartbeat has read, in all that it writes
back. -/
def Undisturbed (state : RegistryState) : RegistryEvent → Prop
  | .upserts id now => ∀ attrs agent, state.calls[id]? = some (.checked attrs agent) →
      state.row.map (attrs.refresh now) = some (attrs.refresh now agent)
  | _ => True

end RegistryState

/-! ### The invariant -/

namespace RegistryPhase

/-- A row that is written but not committed is what its call would leave, run here and alone. -/
def Sound (row : Option AgentRecord) : RegistryPhase → Prop
  | .checked attrs agent => requireSameTenant agent attrs.tenantId = .ok ()
  | .upserted call now agent => serve call now row = (.ok agent, some agent)
  | _ => True

end RegistryPhase

namespace RegistryState

variable {state next : RegistryState} {start : Option AgentRecord}

structure Serial (start : Option AgentRecord) (state : RegistryState) : Prop where
  listed : (state.calls.filterMap RegistryPhase.served).Perm state.log
  ordered : InOrder start state.log state.row
  sound : ∀ (id : Nat) phase, state.calls[id]? = some phase → phase.Sound state.row
  alone : ∀ (id other : Nat) phase otherPhase, state.calls[id]? = some phase → state.calls[other]? = some otherPhase →
    phase.holdsRow = true → otherPhase.holdsRow = true → id = other

namespace Serial

/-- A call moves on without returning, and the row stays. -/
theorem moves (serial : state.Serial start) {id : Nat} {old phase : RegistryPhase} (here : state.calls[id]? = some old)
    (before : old.served = none) (after : phase.served = none) (sound : phase.Sound state.row)
    (free : phase.holdsRow = true → ∀ (other : Nat) otherPhase, state.calls[other]? = some otherPhase →
      otherPhase.holdsRow = false) : (state.goesTo id phase).Serial start := by
  refine ⟨?_, serial.ordered, ?_, ?_⟩
  · have same : ((state.calls.set id phase).filterMap RegistryPhase.served).Perm
        (phase.served.toList ++ state.calls.filterMap RegistryPhase.served) := filterMap_set here before
    rw [after] at same
    exact same.trans serial.listed
  · intro other otherPhase found
    rcases getElem?_set_cases found with ⟨-, rfl⟩ | ⟨-, old⟩
    · exact sound
    · exact serial.sound other otherPhase old
  · intro one two onePhase twoPhase foundOne foundTwo holdsOne holdsTwo
    rcases getElem?_set_cases foundOne with ⟨atOne, rfl⟩ | ⟨-, oldOne⟩
    · rcases getElem?_set_cases foundTwo with ⟨atTwo, -⟩ | ⟨-, oldTwo⟩
      · rw [atOne, atTwo]
      · rw [free holdsOne two twoPhase oldTwo] at holdsTwo
        cases holdsTwo
    · rcases getElem?_set_cases foundTwo with ⟨-, rfl⟩ | ⟨-, oldTwo⟩
      · rw [free holdsTwo one onePhase oldOne] at holdsOne
        cases holdsOne
      · exact serial.alone one two onePhase twoPhase oldOne oldTwo holdsOne holdsTwo

/-- A call returns what it would return run here and alone, and leaves the row that it would leave.
If the row changes, the call is the one that holds it. -/
theorem returns (serial : state.Serial start) {id : Nat} {old : RegistryPhase} {served : Served}
    {row : Option AgentRecord} (here : state.calls[id]? = some old) (before : old.served = none)
    (alike : serve served.call served.now state.row = (served.result, row))
    (kept : row = state.row ∨ old.holdsRow = true) :
    Serial start { (state.returns id served) with row := row } := by
  refine ⟨?_, ?_, ?_, ?_⟩
  · have more : ((state.calls.set id (.returned served)).filterMap RegistryPhase.served).Perm
        (served :: state.calls.filterMap RegistryPhase.served) := filterMap_set here before
    exact more.trans ((serial.listed.cons served).trans (List.perm_append_singleton served state.log).symm)
  · have last : InOrder start (state.log ++ [served]) (serve served.call served.now state.row).2 :=
      inOrder_append serial.ordered (congrArg Prod.fst alike)
    rw [alike] at last
    exact last
  · intro other phase found
    rcases getElem?_set_cases found with ⟨-, rfl⟩ | ⟨different, there⟩
    · trivial
    · have sound := serial.sound other phase there
      rcases kept with rfl | holds
      · exact sound
      · cases phase with
        | upserted call now agent => exact absurd (serial.alone other id _ old there here rfl holds) different
        | checked attrs agent => exact sound
        | called _ => trivial
        | returned _ => trivial
        | aborted _ => trivial
  · intro one two onePhase twoPhase foundOne foundTwo holdsOne holdsTwo
    rcases getElem?_set_cases foundOne with ⟨-, rfl⟩ | ⟨-, oldOne⟩
    · cases holdsOne
    · rcases getElem?_set_cases foundTwo with ⟨-, rfl⟩ | ⟨-, oldTwo⟩
      · cases holdsTwo
      · exact serial.alone one two onePhase twoPhase oldOne oldTwo holdsOne holdsTwo

theorem reads (serial : state.Serial start) {id : Nat} {now : Int} (taken : state.step (.reads id now) = some next) :
    next.Serial start := by
  simp only [step] at taken
  split at taken
  next attrs here =>
    split at taken
    next missing =>
      cases taken
      exact serial.returns here rfl (by simp only [serve, missing]) (Or.inl rfl)
    next agent found =>
      split at taken
      next error refused =>
        cases taken
        refine serial.returns here rfl ?_ (Or.inl rfl)
        simp only [serve, found, refused]
      next accepted =>
        cases taken
        exact serial.moves here rfl rfl accepted fun holds => nomatch holds
  next => cases taken

theorem upserts (serial : state.Serial start) {id : Nat} {now : Int} (allowed : state.Undisturbed (.upserts id now))
    (taken : state.step (.upserts id now) = some next) : next.Serial start := by
  simp only [step] at taken
  split_ifs at taken with locked
  have free : ∀ (other : Nat) phase, state.calls[other]? = some phase → phase.holdsRow = false := by
    intro other phase found
    have none_held := List.any_eq_false.mp (by simpa using locked) phase (List.mem_of_getElem? found)
    simpa using none_held
  split at taken
  next attrs here =>
    cases taken
    exact serial.moves here rfl rfl rfl fun _ => free
  next attrs agent here =>
    cases taken
    refine serial.moves here rfl rfl ?_ fun _ => free
    obtain ⟨current, found, same⟩ := Option.map_eq_some_iff.mp (allowed attrs agent here)
    have accepted : requireSameTenant agent attrs.tenantId = .ok () := serial.sound id _ here
    have tenant : (attrs.refresh now current).tenantId = (attrs.refresh now agent).tenantId := congrArg _ same
    change current.tenantId = agent.tenantId at tenant
    have still : requireSameTenant current attrs.tenantId = .ok () := by
      rw [← accepted]
      cases attrs.tenantId with
      | none => rfl
      | some tenantId => simp only [requireSameTenant, tenant]
    simp only [RegistryPhase.Sound, serve, found, still, same]
  next => cases taken

theorem onward (serial : state.Serial start) {event : RegistryEvent} (allowed : state.Undisturbed event)
    (taken : state.step event = some next) : next.Serial start := by
  cases event with
  | begins call =>
    cases taken
    refine ⟨?_, serial.ordered, ?_, ?_⟩
    · change ((state.calls ++ [RegistryPhase.called call]).filterMap RegistryPhase.served).Perm state.log
      rw [List.filterMap_append]
      exact (List.append_nil _).symm ▸ serial.listed
    · intro id phase found
      rcases getElem?_append_singleton_cases found with rfl | old
      · trivial
      · exact serial.sound id phase old
    · intro one two onePhase twoPhase foundOne foundTwo holdsOne holdsTwo
      rcases getElem?_append_singleton_cases foundOne with rfl | oldOne
      · cases holdsOne
      · rcases getElem?_append_singleton_cases foundTwo with rfl | oldTwo
        · cases holdsTwo
        · exact serial.alone one two onePhase twoPhase oldOne oldTwo holdsOne holdsTwo
  | reads id now => exact serial.reads taken
  | upserts id now => exact serial.upserts allowed taken
  | commits id =>
    simp only [step] at taken
    split at taken
    next call now agent here =>
      cases taken
      exact serial.returns here rfl (serial.sound id _ here) (Or.inr rfl)
    next => cases taken
  | aborts id =>
    simp only [step] at taken
    split at taken
    next call here =>
      cases taken
      exact serial.moves here rfl rfl trivial fun holds => nomatch holds
    next call now agent here =>
      cases taken
      exact serial.moves here rfl rfl trivial fun holds => nomatch holds
    next attrs agent here =>
      cases taken
      exact serial.moves here rfl rfl trivial fun holds => nomatch holds
    next => cases taken

end Serial

/-- The calls that have returned have an order in which they return the same one after another, and
leave the row as it is. -/
def Serializable (start : Option AgentRecord) (state : RegistryState) : Prop :=
  ∃ order : List Served, order.Perm (state.calls.filterMap RegistryPhase.served) ∧ InOrder start order state.row

/-- A heartbeat is committed for the tenant that the agent has, and leaves what belongs to its
registration. -/
def KeepsRegistration (state : RegistryState) : Prop :=
  ∀ (id : Nat) attrs now agent, state.calls[id]? = some (.upserted (.heartbeat attrs) now agent) →
    ∃ current, state.row = some current ∧ requireSameTenant current attrs.tenantId = .ok () ∧
      agent.tenantId = current.tenantId ∧ agent.hostname = current.hostname ∧ agent.version = current.version ∧
      agent.labels = current.labels

theorem Serial.keepsRegistration (serial : state.Serial start) : state.KeepsRegistration := by
  intro id attrs now agent here
  have alike : serve (.heartbeat attrs) now state.row = (.ok agent, some agent) := serial.sound id _ here
  unfold serve at alike
  dsimp only at alike
  split at alike
  next => cases alike
  next current found =>
    split at alike
    next => cases alike
    next accepted =>
      cases alike
      exact ⟨current, found, accepted, rfl, rfl, rfl, rfl⟩

/-- In every run in which no heartbeat writes back what has changed since it was read. -/
theorem registry_serializable {start : Option AgentRecord} {state : RegistryState}
    (reached : Reaches step Undisturbed (initial start) state) :
    state.Serializable start ∧ state.KeepsRegistration := by
  have serial : state.Serial start := by
    refine reached.invariant ⟨.nil, rfl, ?_, ?_⟩ fun serial allowed taken => serial.onward allowed taken
    · intro id phase found
      cases found
    · intro id other phase otherPhase found
      cases found
  exact ⟨⟨state.log, serial.listed.symm, serial.ordered⟩, serial.keepsRegistration⟩

instance (state : RegistryState) (event : RegistryEvent) : Decidable (state.Undisturbed event) :=
  match event with
  | .upserts id now =>
      match found : state.calls[id]? with
      | some (.checked attrs agent) =>
          decidable_of_iff (state.row.map (attrs.refresh now) = some (attrs.refresh now agent)) (by
            simp only [Undisturbed, found, Option.some.injEq, RegistryPhase.checked.injEq]
            exact ⟨fun same _ _ both => both.1 ▸ both.2 ▸ same, fun all => all attrs agent ⟨rfl, rfl⟩⟩)
      | some (.called _) | some (.upserted _ _ _) | some (.returned _) | some (.aborted _) | none =>
          isTrue (by simp [Undisturbed, found])
  | .begins _ => isTrue trivial
  | .reads _ _ => isTrue trivial
  | .commits _ => isTrue trivial
  | .aborts _ => isTrue trivial

/-- A heartbeat of a tenant, with the version of its configuration and its queue. -/
def beats (tenantId : String) (configVersion : Int) (queueDepthBytes : Option Int) : RegistryCall :=
  .heartbeat ⟨"agent-1", some tenantId, some configVersion, queueDepthBytes, none⟩

def registers (tenantId : String) : RegistryCall :=
  .register ⟨"agent-1", tenantId, none, none, none, none, none, none⟩

def knownAgent : AgentRecord := ⟨"agent-1", "payments", "host", "1.0", 1, 0, 0, [], 0⟩

/-- Two heartbeats that both write all they read, a registration behind them, and a late heartbeat. -/
def quietCalls : List RegistryEvent :=
  [.begins (beats "payments" 1 (some 7)), .begins (beats "payments" 2 (some 8)), .reads 0 1, .reads 1 2, .upserts 0 3,
    .begins (registers "search"), .commits 0, .upserts 1 4, .commits 1, .upserts 2 5, .begins (beats "payments" 2 none),
    .commits 2, .reads 3 6]

theorem registry_serializable_quietCalls :
    ∃ state, run (fun state event => if Undisturbed state event then step state event else none)
        (initial (some knownAgent)) quietCalls = some state ∧
      state.log.map Served.result = [.ok { knownAgent with queueDepthBytes := 7, lastSeenAt := 3 },
        .ok { knownAgent with configVersion := 2, queueDepthBytes := 8, lastSeenAt := 4 },
        .ok ⟨"agent-1", "search", "unknown", "unknown", 0, 0, 0, [], 5⟩, .error .tenantMismatch] ∧
      state.Serializable (some knownAgent) ∧ state.KeepsRegistration := by
  have ran : (run (fun state event => if Undisturbed state event then step state event else none)
      (initial (some knownAgent)) quietCalls).map (fun state => state.log.map Served.result) =
      some [.ok { knownAgent with queueDepthBytes := 7, lastSeenAt := 3 },
        .ok { knownAgent with configVersion := 2, queueDepthBytes := 8, lastSeenAt := 4 },
        .ok ⟨"agent-1", "search", "unknown", "unknown", 0, 0, 0, [], 5⟩, .error .tenantMismatch] := by decide +kernel
  obtain ⟨state, reached, results⟩ := Option.map_eq_some_iff.mp ran
  exact ⟨state, reached, results, registry_serializable (.of_checked_run reached)⟩

/-- A heartbeat that has read the row of one tenant when the agent is registered for another. -/
def overtaken : List RegistryEvent :=
  [.begins (beats "payments" 2 (some 7)), .reads 0 1, .begins (registers "search"), .upserts 1 2, .commits 1,
    .upserts 0 3, .commits 0]

/-- The registration returns, and then the heartbeat takes its tenant away again. -/
theorem registration_undone :
    ∃ state, run step (initial (some knownAgent)) overtaken = some state ∧
      state.row = some { knownAgent with configVersion := 2, queueDepthBytes := 7, lastSeenAt := 3 } ∧
      state.log.map Served.result = [.ok ⟨"agent-1", "search", "unknown", "unknown", 0, 0, 0, [], 2⟩,
        .ok { knownAgent with configVersion := 2, queueDepthBytes := 7, lastSeenAt := 3 }] ∧
      ¬state.Serializable (some knownAgent) := by
  refine ⟨_, rfl, by decide +kernel, by decide +kernel, ?_⟩
  rintro ⟨order, same, ordered⟩
  -- the heartbeat is refused behind the registration, and before it does not leave the last row
  rcases List.perm_pair.mp same with rfl | rfl
  · exact absurd ordered (by decide +kernel)
  · exact absurd ordered (by decide +kernel)

end RegistryState

end TelemetryFabric.ControlPlane
