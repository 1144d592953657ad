import TelemetryFabric.Library.Machine
import TelemetryFabric.Library.Slots
import TelemetryFabric.ControlPlane.PipelineStore

/-!
Versions of one pipeline published through PostgreSQL by any number of calls at a time, on any
number of replicas. Each statement of a call reads the rows committed before it. A call reads the
newest version and inserts the next one in separate statements; only the primary key, and for
`put_pipeline` the lock of the tenant's row, stand between two calls that read the same one.
-/

namespace TelemetryFabric.ControlPlane
open Library

/-! ### Calls and their statements -/

inductive Publication where
  | put (config : PipelineConfig)
  | rollback (targetVersion : Int)

structure PublishCall where
  kind : Publication
  actor : String

/-- Where a call is. What it publishes is known from its first statement on. -/
inductive PublishPhase where
  | called (call : PublishCall)
  | prepared (call : PublishCall) (source : PipelineConfig)
  | numbered (call : PublishCall) (source : PipelineConfig) (version : Nat)
  | inserted (call : PublishCall) (source : PipelineConfig) (row : PipelineVersionRow)
  | returned (call : PublishCall) (source : PipelineConfig) (row : PipelineVersionRow)
  | failed (call : PublishCall)

def Publication.locksTenant : Publication → Bool
  | .put _ => true
  | .rollback _ => false

namespace PublishPhase

/-- The upsert of the tenant locks its row until the transaction ends. -/
def holdsTenant : PublishPhase → Bool
  | .prepared call _ | .numbered call _ _ | .inserted call _ _ => call.kind.locksTenant
  | _ => false

/-- An uncommitted row with the version. -/
def hasInserted (version : Nat) : PublishPhase → Bool
  | .inserted _ _ row => row.version = version
  | _ => false

end PublishPhase

structure PublishState where
  committed : List PipelineVersionRow
  calls : List PublishPhase

/-- The statements of the calls, by their numbers. An open transaction may be aborted at any time. -/
inductive PublishEvent where
  | begins (call : PublishCall)
  | prepares (id : Nat)
  | reads (id : Nat)
  | inserts (id : Nat)
  | commits (id : Nat)
  | aborts (id : Nat)

def latestVersion (rows : List PipelineVersionRow) : Nat := (rows.map PipelineVersionRow.version).foldl max 0

namespace PublishState

variable (enumerate : Entries → Entries) (sha256 : String → String) (tenantId name : String)

def initial : PublishState := ⟨[], []⟩

def goesTo (state : PublishState) (id : Nat) (phase : PublishPhase) : PublishState :=
  { state with calls := state.calls.set id phase }

/-- There is no next state where a statement waits. -/
def step (state : PublishState) : PublishEvent → Option PublishState
  | .begins call =>
      match call.kind with
      | .put config =>
          if (config.tenantId, config.name) = (tenantId, name) then
            match validate config with
            | .ok () => some { state with calls := state.calls ++ [.called call] }
            | .error _ => some { state with calls := state.calls ++ [.failed call] }
          else none
      | .rollback _ => some { state with calls := state.calls ++ [.called call] }
  | .prepares id =>
      match state.calls[id]? with
      | some (.called call) =>
          match call.kind with
          | .put config =>
              if state.calls.any PublishPhase.holdsTenant then none
              else some (state.goesTo id (.prepared call config))
          | .rollback targetVersion =>
              match state.committed.find? fun row => (row.version : Int) = targetVersion with
              | none => some (state.goesTo id (.failed call))
              | some target => some (state.goesTo id (.prepared call (pipelineFromRow target)))
      | _ => none
  | .reads id =>
      match state.calls[id]? with
      | some (.prepared call source) =>
          some (state.goesTo id (.numbered call source (latestVersion state.committed + 1)))
      | _ => none
  | .inserts id =>
      match state.calls[id]? with
      | some (.numbered call source version) =>
          match pipelineVersionRow enumerate sha256 { source with version := version } call.actor with
          | none => some (state.goesTo id (.failed call))
          | some row =>
              if state.calls.any (PublishPhase.hasInserted version) then none
              else if state.committed.any (fun other => other.version = version) then
                some (state.goesTo id (.failed call))
              else some (state.goesTo id (.inserted call source row))
      | _ => none
  | .commits id =>
      match state.calls[id]? with
      | some (.inserted call source row) => some
          { (state.goesTo id (.returned call source row)) with committed := state.committed ++ [row] }
      | _ => none
  | .aborts id =>
      match state.calls[id]? with
      | some (.called call) | some (.prepared call _) | some (.numbered call _ _) | some (.inserted call _ _) =>
          some (state.goesTo id (.failed call))
      | _ => none

end PublishState

/-! ### What calls publish -/

/-- A put publishes its configuration, a rollback that of a committed version. -/
def PublishCall.Publishes (call : PublishCall) (committed : List PipelineVersionRow) (source : PipelineConfig) : Prop :=
  match call.kind with
  | .put config => source = config
  | .rollback targetVersion => ∃ target ∈ committed, (target.version : Int) = targetVersion ∧ source = pipelineFromRow target

theorem PublishCall.Publishes.mono {call : PublishCall} {committed later : List PipelineVersionRow}
    {source : PipelineConfig} (publishes : call.Publishes committed source) (more : committed <+: later) :
    call.Publishes later source := by
  unfold PublishCall.Publishes at publishes ⊢
  split at publishes
  next => exact publishes
  next targetVersion =>
    obtain ⟨target, listed, version, same⟩ := publishes
    exact ⟨target, more.subset listed, version, same⟩

namespace PublishPhase

variable (enumerate : Entries → Entries) (sha256 : String → String)

/-- What a call knows of the committed versions. An uncommitted row has the next version, a call
that has read the newest one may be late. -/
def Sound (committed : List PipelineVersionRow) : PublishPhase → Prop
  | .called _ => True
  | .prepared call source => call.Publishes committed source
  | .numbered call source version => call.Publishes committed source ∧ 1 ≤ version ∧ version ≤ committed.length + 1
  | .inserted call source row => call.Publishes committed source ∧ row.version = committed.length + 1 ∧
      pipelineVersionRow enumerate sha256 { source with version := row.version } call.actor = some row
  | .returned call source row => call.Publishes committed source ∧ row ∈ committed ∧
      pipelineVersionRow enumerate sha256 { source with version := row.version } call.actor = some row
  | .failed _ => True

def isInserted : PublishPhase → Bool
  | .inserted _ _ _ => true
  | _ => false

variable {enumerate sha256}

/-- One more row leaves it as it is, other than for an uncommitted row. -/
theorem Sound.mono {committed : List PipelineVersionRow} {row : PipelineVersionRow} {phase : PublishPhase}
    (sound : phase.Sound enumerate sha256 committed) (other : phase.isInserted = false) :
    phase.Sound enumerate sha256 (committed ++ [row]) := by
  have more : committed <+: committed ++ [row] := List.prefix_append _ _
  cases phase with
  | called call => trivial
  | prepared call source => exact PublishCall.Publishes.mono sound more
  | numbered call source version =>
    obtain ⟨publishes, positive, bound⟩ := sound
    refine ⟨publishes.mono more, positive, ?_⟩
    rw [List.length_append, List.length_singleton]
    omega
  | inserted call source row => cases other
  | returned call source stored =>
    obtain ⟨publishes, listed, written⟩ := sound
    exact ⟨publishes.mono more, List.mem_append_left _ listed, written⟩
  | failed call => trivial

end PublishPhase

/-! ### The invariant -/

theorem pipelineVersionRow_version {enumerate : Entries → Entries} {sha256 : String → String}
    {pipeline : PipelineConfig} {actor : String} {row : PipelineVersionRow}
    (written : pipelineVersionRow enumerate sha256 pipeline actor = some row) : row.version = pipeline.version := by
  obtain ⟨payload, -, made⟩ := Option.bind_eq_some_iff.mp written
  cases made
  rfl

theorem foldl_max_range' (count : Nat) : (List.range' 1 count).foldl max 0 = count := by
  induction count with
  | zero => rfl
  | succ count ih =>
    rw [List.range'_1_concat, List.foldl_append, ih, List.foldl_cons, List.foldl_nil]
    omega

namespace PublishState

variable {enumerate : Entries → Entries} {sha256 : String → String} {tenantId name : String}
  {state next : PublishState}

/-- Where there was no uncommitted row, there is one only of the call that moves. -/
theorem set_inserted {calls : List PublishPhase} {id other : Nat} {phase found : PublishPhase}
    (none_else : ∀ (other : Nat) phase, calls[other]? = some phase → phase.isInserted = false)
    (there : (calls.set id phase)[other]? = some found) (inserted : found.isInserted = true) : other = id := by
  rcases getElem?_set_cases there with ⟨same, -⟩ | ⟨-, old⟩
  · exact same
  · rw [none_else other found old] at inserted
    cases inserted

structure Serial (enumerate : Entries → Entries) (sha256 : String → String) (state : PublishState) : Prop where
  versions : state.committed.map PipelineVersionRow.version = List.range' 1 state.committed.length
  sound : ∀ (id : Nat) phase, state.calls[id]? = some phase → phase.Sound enumerate sha256 state.committed
  alone : ∀ (id other : Nat) phase otherPhase, state.calls[id]? = some phase → state.calls[other]? = some otherPhase →
    phase.isInserted = true → otherPhase.isInserted = true → id = other
  own : ∀ (id other : Nat) call otherCall source otherSource row otherRow,
    state.calls[id]? = some (.returned call source row) →
    state.calls[other]? = some (.returned otherCall otherSource otherRow) → id ≠ other →
      row.version ≠ otherRow.version

namespace Serial

theorem latest (serial : state.Serial enumerate sha256) : latestVersion state.committed = state.committed.length := by
  unfold latestVersion
  rw [serial.versions]
  exact foldl_max_range' _

theorem version_le (serial : state.Serial enumerate sha256) {row : PipelineVersionRow} (listed : row ∈ state.committed) :
    1 ≤ row.version ∧ row.version ≤ state.committed.length := by
  have member : row.version ∈ List.range' 1 state.committed.length := by
    rw [← serial.versions]
    exact List.mem_map_of_mem listed
  rw [List.mem_range'_1] at member
  omega

/-- Every version up to the newest is committed. -/
theorem mem_of_le (serial : state.Serial enumerate sha256) {version : Nat} (positive : 1 ≤ version)
    (bound : version ≤ state.committed.length) : ∃ row ∈ state.committed, row.version = version := by
  have member : version ∈ state.committed.map PipelineVersionRow.version := by
    rw [serial.versions, List.mem_range'_1]
    omega
  exact List.mem_map.mp member

/-- A call moves on without a row of its own, and the others are where they were. -/
theorem moves (serial : state.Serial enumerate sha256) {phase : PublishPhase} {calls : List PublishPhase}
    (sound : phase.Sound enumerate sha256 state.committed) (quiet : phase.isInserted = false)
    (open_ : ∀ call source row, phase ≠ .returned call source row)
    (cases : ∀ {id : Nat} {other}, calls[id]? = some other → other = phase ∨ state.calls[id]? = some other) :
    Serial enumerate sha256 { state with calls := calls } := by
  refine ⟨serial.versions, ?_, ?_, ?_⟩
  · intro other otherPhase found
    rcases cases found with rfl | old
    · exact sound
    · exact serial.sound other otherPhase old
  · intro one two onePhase twoPhase foundOne foundTwo insertedOne insertedTwo
    rcases cases foundOne with rfl | oldOne
    · rw [quiet] at insertedOne
      cases insertedOne
    · rcases cases foundTwo with rfl | oldTwo
      · rw [quiet] at insertedTwo
        cases insertedTwo
      · exact serial.alone one two onePhase twoPhase oldOne oldTwo insertedOne insertedTwo
  · intro one two call otherCall source otherSource row otherRow foundOne foundTwo different
    rcases cases foundOne with same | oldOne
    · exact absurd same.symm (open_ call source row)
    · rcases cases foundTwo with same | oldTwo
      · exact absurd same.symm (open_ otherCall otherSource otherRow)
      · exact serial.own one two call otherCall source otherSource row otherRow oldOne oldTwo different

theorem begins (serial : state.Serial enumerate sha256) {phase : PublishPhase}
    (sound : phase.Sound enumerate sha256 state.committed) (quiet : phase.isInserted = false)
    (open_ : ∀ call source row, phase ≠ .returned call source row) :
    Serial enumerate sha256 { state with calls := state.calls ++ [phase] } := by
  apply serial.moves sound quiet open_
  exact getElem?_append_singleton_cases

theorem goesTo (serial : state.Serial enumerate sha256) {id : Nat} {phase : PublishPhase}
    (sound : phase.Sound enumerate sha256 state.committed) (quiet : phase.isInserted = false)
    (open_ : ∀ call source row, phase ≠ .returned call source row) :
    (state.goesTo id phase).Serial enumerate sha256 := by
  apply serial.moves sound quiet open_
  intro other otherPhase found
  exact (getElem?_set_cases found).imp And.right And.right

theorem fails (serial : state.Serial enumerate sha256) {id : Nat} {call : PublishCall} :
    (state.goesTo id (.failed call)).Serial enumerate sha256 :=
  serial.goesTo trivial rfl fun _ _ _ same => nomatch same

/-- The next version is inserted, as the only uncommitted row. -/
theorem inserts (serial : state.Serial enumerate sha256) {id : Nat} {call : PublishCall} {source : PipelineConfig}
    {version : Nat} {row : PipelineVersionRow} (here : state.calls[id]? = some (.numbered call source version))
    (written : pipelineVersionRow enumerate sha256 { source with version := version } call.actor = some row)
    (free : state.calls.any (PublishPhase.hasInserted version) = false)
    (absent : state.committed.any (fun other => other.version = version) = false) :
    (state.goesTo id (.inserted call source row)).Serial enumerate sha256 := by
  obtain ⟨publishes, positive, bound⟩ := serial.sound id _ here
  have named : row.version = version := pipelineVersionRow_version written
  -- an older version is taken
  have next : version = state.committed.length + 1 := by
    by_contra older
    obtain ⟨taken, listed, same⟩ := serial.mem_of_le positive (by omega)
    rw [List.any_eq_false] at absent
    exact absent taken listed (decide_eq_true same)
  -- and any other uncommitted row has the same version
  have none_else : ∀ (other : Nat) phase, state.calls[other]? = some phase → phase.isInserted = false := by
    intro other phase found
    cases phase with
    | inserted otherCall otherSource otherRow =>
      obtain ⟨-, otherVersion, -⟩ := serial.sound other _ found
      rw [List.any_eq_false] at free
      exact absurd (decide_eq_true (otherVersion.trans next.symm)) (free _ (List.mem_of_getElem? found))
    | called _ => rfl
    | prepared _ _ => rfl
    | numbered _ _ _ => rfl
    | returned _ _ _ => rfl
    | failed _ => rfl
  refine ⟨serial.versions, ?_, ?_, ?_⟩
  · intro other otherPhase found
    rcases getElem?_set_cases found with ⟨-, rfl⟩ | ⟨-, old⟩
    · exact ⟨publishes, named.trans next, named ▸ written⟩
    · exact serial.sound other otherPhase old
  · intro one two onePhase twoPhase foundOne foundTwo insertedOne insertedTwo
    exact (set_inserted none_else foundOne insertedOne).trans (set_inserted none_else foundTwo insertedTwo).symm
  · intro one two otherCall lastCall otherSource lastSource otherRow lastRow foundOne foundTwo different
    rcases getElem?_set_cases foundOne with ⟨-, same⟩ | ⟨-, oldOne⟩
    · cases same
    · rcases getElem?_set_cases foundTwo with ⟨-, same⟩ | ⟨-, oldTwo⟩
      · cases same
      · exact serial.own one two otherCall lastCall otherSource lastSource otherRow lastRow oldOne oldTwo different

/-- The uncommitted row becomes the newest. -/
theorem commits (serial : state.Serial enumerate sha256) {id : Nat} {call : PublishCall} {source : PipelineConfig}
    {row : PipelineVersionRow} (here : state.calls[id]? = some (.inserted call source row)) :
    Serial enumerate sha256 { (state.goesTo id (.returned call source row)) with committed := state.committed ++ [row] } := by
  obtain ⟨publishes, version, written⟩ := serial.sound id _ here
  have quiet : ∀ {other : Nat} {phase}, other ≠ id → state.calls[other]? = some phase → phase.isInserted = false := by
    intro other phase different found
    cases inserted : phase.isInserted with
    | false => rfl
    | true => exact absurd (serial.alone other id phase _ found here inserted rfl) different
  refine ⟨?_, ?_, ?_, ?_⟩
  · change (state.committed ++ [row]).map _ = List.range' 1 (state.committed ++ [row]).length
    rw [List.map_append, serial.versions, List.length_append, List.length_singleton, List.range'_1_concat,
      List.map_singleton, version, Nat.add_comm]
  · intro other phase found
    rcases getElem?_set_cases found with ⟨rfl, rfl⟩ | ⟨different, old⟩
    · exact ⟨publishes.mono (List.prefix_append _ _), List.mem_append_right _ (List.mem_singleton_self row), written⟩
    · exact (serial.sound other phase old).mono (quiet different old)
  · intro one two onePhase twoPhase foundOne foundTwo insertedOne insertedTwo
    rcases getElem?_set_cases foundOne with ⟨-, rfl⟩ | ⟨different, old⟩
    · cases insertedOne
    · rw [quiet different old] at insertedOne
      cases insertedOne
  · intro one two oneCall twoCall oneSource twoSource oneRow twoRow foundOne foundTwo different
    have older : ∀ {other : Nat} {otherCall otherSource otherRow},
        state.calls[other]? = some (.returned otherCall otherSource otherRow) → otherRow.version < row.version := by
      intro other otherCall otherSource otherRow found
      obtain ⟨-, listed, -⟩ := serial.sound other _ found
      have bound := serial.version_le listed
      omega
    rcases getElem?_set_cases foundOne with ⟨atOne, sameOne⟩ | ⟨-, oldOne⟩
    · rcases getElem?_set_cases foundTwo with ⟨atTwo, -⟩ | ⟨-, oldTwo⟩
      · exact absurd (atOne.trans atTwo.symm) different
      · cases sameOne
        exact (older oldTwo).ne'
    · rcases getElem?_set_cases foundTwo with ⟨-, sameTwo⟩ | ⟨-, oldTwo⟩
      · cases sameTwo
        exact (older oldOne).ne
      · exact serial.own one two oneCall twoCall oneSource twoSource oneRow twoRow oldOne oldTwo different

theorem onward (serial : state.Serial enumerate sha256) {event : PublishEvent}
    (taken : state.step enumerate sha256 tenantId name event = some next) :
    next.Serial enumerate sha256 ∧ state.committed <+: next.committed := by
  cases event with
  | begins call =>
    simp only [step] at taken
    have called : Serial enumerate sha256 { state with calls := state.calls ++ [.called call] } :=
      serial.begins trivial rfl fun _ _ _ same => nomatch same
    split at taken
    next config =>
      split_ifs at taken
      split at taken
      next =>
        cases taken
        exact ⟨called, List.prefix_refl _⟩
      next =>
        cases taken
        exact ⟨serial.begins trivial rfl (fun _ _ _ same => nomatch same), List.prefix_refl _⟩
    next =>
      cases taken
      exact ⟨called, List.prefix_refl _⟩
  | prepares id =>
    simp only [step] at taken
    split at taken
    next call here =>
      split at taken
      next config kind =>
        split_ifs at taken
        cases taken
        refine ⟨serial.goesTo ?_ rfl (fun _ _ _ same => nomatch same), List.prefix_refl _⟩
        simp only [PublishPhase.Sound, PublishCall.Publishes, kind]
      next targetVersion kind =>
        split at taken
        next =>
          cases taken
          exact ⟨serial.fails, List.prefix_refl _⟩
        next target found =>
          cases taken
          refine ⟨serial.goesTo ?_ rfl (fun _ _ _ same => nomatch same), List.prefix_refl _⟩
          have version : (target.version : Int) = targetVersion := by simpa using List.find?_some found
          simp only [PublishPhase.Sound, PublishCall.Publishes, kind]
          exact ⟨target, List.mem_of_find?_eq_some found, version, rfl⟩
    next => cases taken
  | reads id =>
    simp only [step] at taken
    split at taken
    next call source here =>
      cases taken
      have publishes : call.Publishes state.committed source := serial.sound id _ here
      refine ⟨serial.goesTo ⟨publishes, ?_, ?_⟩ rfl (fun _ _ _ same => nomatch same), List.prefix_refl _⟩
      · omega
      · rw [serial.latest]
    next => cases taken
  | inserts id =>
    simp only [step] at taken
    split at taken
    next call source version here =>
      split at taken
      next =>
        cases taken
        exact ⟨serial.fails, List.prefix_refl _⟩
      next row written =>
        split_ifs at taken with waits conflict
        · cases taken
          exact ⟨serial.fails, List.prefix_refl _⟩
        · cases taken
          exact ⟨serial.inserts here written (by simpa using waits) (by simpa using conflict), List.prefix_refl _⟩
    next => cases taken
  | commits id =>
    simp only [step] at taken
    split at taken
    next call source row here =>
      cases taken
      exact ⟨serial.commits here, List.prefix_append _ _⟩
    next => cases taken
  | aborts id =>
    simp only [step] at taken
    split at taken <;> cases taken <;> exact ⟨serial.fails, List.prefix_refl _⟩

theorem reaches {later : PublishState} (serial : state.Serial enumerate sha256)
    (reached : Reaches (step enumerate sha256 tenantId name) (fun _ _ => True) state later) :
    later.Serial enumerate sha256 ∧ state.committed <+: later.committed := by
  refine reached.invariant
    (P := fun later => later.Serial enumerate sha256 ∧ state.committed <+: later.committed)
    ⟨serial, List.prefix_refl _⟩ ?_
  intro current event next both _ taken
  obtain ⟨nextSerial, longer⟩ := both.1.onward taken
  exact ⟨nextSerial, both.2.trans longer⟩

end Serial

/-- What holds in every state: the versions count up, each call that has returned has its own, with
what it has published, and from here on no committed row is changed. -/
structure Published (enumerate : Entries → Entries) (sha256 : String → String) (tenantId name : String)
    (state : PublishState) : Prop where
  versions : state.committed.map PipelineVersionRow.version = List.range' 1 state.committed.length
  stored : ∀ (id : Nat) call source row, state.calls[id]? = some (.returned call source row) →
    row ∈ state.committed ∧ call.Publishes state.committed source ∧
      pipelineVersionRow enumerate sha256 { source with version := row.version } call.actor = some row
  own : ∀ (id other : Nat) call otherCall source otherSource row otherRow,
    state.calls[id]? = some (.returned call source row) →
    state.calls[other]? = some (.returned otherCall otherSource otherRow) → id ≠ other →
      row.version ≠ otherRow.version
  kept : ∀ later, Reaches (step enumerate sha256 tenantId name) (fun _ _ => True) state later →
    state.committed <+: later.committed

end PublishState

end TelemetryFabric.ControlPlane
