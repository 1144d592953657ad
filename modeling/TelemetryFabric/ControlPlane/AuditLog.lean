import TelemetryFabric.ControlPlane.PostgresCodec
import TelemetryFabric.Library.Machine
import TelemetryFabric.Library.NewRows

/-!
The audit log and its rows in PostgreSQL. The process keeps the events newest first and reloads
them from its state file; a sync writes all of them, and skips those whose id is in the table.
The ids are drawn from a counter that starts again with the virtual machine.
-/

namespace TelemetryFabric.ControlPlane
open Library

/-! ### Events -/

/-- A value in the metadata; booleans are terms already. -/
inductive AuditValue where
  | atom (name : String)
  | term (value : Term)

abbrev Metadata := List (MapKey × AuditValue)

/-- What `append` is called with; the action is fetched. -/
structure AuditAttrs where
  actor : Option String
  action : String
  resource : Option String
  metadata : Option Metadata

/-- Times are in microseconds. -/
structure AuditEvent where
  id : Nat
  actor : String
  action : String
  resource : String
  metadata : Metadata
  insertedAt : Int

def AuditAttrs.entry (attrs : AuditAttrs) (id : Nat) (now : Int) : AuditEvent where
  id := id
  actor := attrs.actor.getD "unknown"
  action := attrs.action
  resource := attrs.resource.getD "unknown"
  metadata := attrs.metadata.getD []
  insertedAt := now

/-! ### Rows -/

structure AuditRow where
  eventId : Nat
  actor : String
  action : String
  resource : String
  metadata : Entries
  insertedAt : Int

section Rows

variable (enumerate : Entries → Entries)

def AuditValue.normalize : AuditValue → Term
  | .atom name => .scalar (.string name)
  | .term value => normalizeJson enumerate value

/-- `atomize_json_map`. -/
def atomizeJsonMap (metadata : Metadata) : Entries :=
  mapNew (enumerate (metadata.map fun entry => (.string entry.1.text, entry.2.normalize enumerate)))

/-- Times are whole microseconds already. -/
def auditEventRow (event : AuditEvent) : AuditRow where
  eventId := event.id
  actor := event.actor
  action := event.action
  resource := event.resource
  metadata := atomizeJsonMap enumerate event.metadata
  insertedAt := event.insertedAt

/-- The insert into `audit_events`: nothing is done for an event id that is there. -/
def insertAuditEvents (table : List AuditRow) (events : List AuditEvent) : List AuditRow :=
  insertAllNew AuditRow.eventId table (events.map (auditEventRow enumerate))

end Rows

/-! ### Runs -/

/-- The log process and its state file, the integers drawn since the virtual machine was started,
the snapshot of a sync that has not written yet, and the table. What has been appended, ever and
before the snapshot, is kept beside them. -/
structure AuditState where
  events : List AuditEvent
  saved : List AuditEvent
  drawn : Nat
  snapshot : Option (List AuditEvent)
  table : List AuditRow
  appended : List AuditEvent
  before : List AuditEvent

inductive AuditCall where
  | append (attrs : AuditAttrs) (now : Int)
  /-- Something else draws a unique integer. -/
  | uniqueInteger
  | restart
  /-- `sync_once` collects its snapshot. -/
  | collect
  /-- Its transaction succeeds, or it does not. -/
  | write
  | fail

namespace AuditState

def initial : AuditState := ⟨[], [], 0, none, [], [], []⟩

/-- An event takes one integer for its id, and another one for the name of the temporary file. -/
def step (enumerate : Entries → Entries) (state : AuditState) : AuditCall → Option AuditState
  | .append attrs now =>
      let entry := attrs.entry (state.drawn + 1) now
      some { state with
        events := entry :: state.events
        saved := entry :: state.events
        drawn := state.drawn + 2
        appended := state.appended ++ [entry] }
  | .uniqueInteger => some { state with drawn := state.drawn + 1 }
  | .restart => some { state with events := state.saved, drawn := 0, snapshot := none }
  | .collect =>
      match state.snapshot with
      | none => some { state with snapshot := some state.events, before := state.appended }
      | some _ => none
  | .write =>
      match state.snapshot with
      | none => none
      | some events => some { state with
          table := insertAuditEvents enumerate state.table events
          snapshot := none }
  | .fail => some { state with snapshot := none }

end AuditState

/-- Two events with the same id are written as the same row. -/
def Identified (enumerate : Entries → Entries) (events : List AuditEvent) : Prop :=
  ∀ first ∈ events, ∀ second ∈ events, first.id = second.id →
    auditEventRow enumerate first = auditEventRow enumerate second

theorem identified_of_nodup {enumerate : Entries → Entries} {events : List AuditEvent}
    (distinct : (events.map AuditEvent.id).Nodup) : Identified enumerate events := by
  intro first member second other same
  rw [List.inj_on_of_nodup_map distinct member other same]

/-! ### Every run -/

namespace AuditState

variable {enumerate : Entries → Entries} {state next : AuditState}

/-- Nothing that was appended leaves the log, and the table only holds events that some sync has
seen, each id once. -/
structure Sound (enumerate : Entries → Entries) (state : AuditState) : Prop where
  events : state.events = state.appended.reverse
  saved : state.saved = state.events
  snapshot : ∀ events, state.snapshot = some events → events = state.before.reverse
  before : state.before <+: state.appended
  table : ∀ row ∈ state.table, ∃ event ∈ state.before, auditEventRow enumerate event = row
  nodup : (state.table.map AuditRow.eventId).Nodup

theorem sound_initial : initial.Sound enumerate :=
  ⟨rfl, rfl, (fun _ absent => nomatch absent), List.nil_prefix, (fun _ absent => nomatch absent), List.nodup_nil⟩

theorem mem_insertAuditEvents {table : List AuditRow} {events : List AuditEvent} {row : AuditRow}
    (member : row ∈ insertAuditEvents enumerate table events) :
    row ∈ table ∨ ∃ event ∈ events, auditEventRow enumerate event = row :=
  (mem_or_mem_of_insertAllNew member).imp_right List.mem_map.mp

theorem Sound.step (sound : state.Sound enumerate) {call : AuditCall} (taken : state.step enumerate call = some next) :
    next.Sound enumerate := by
  cases call with
  | append attrs now =>
    cases taken
    refine ⟨?_, rfl, sound.snapshot, sound.before.trans (List.prefix_append _ _), sound.table, sound.nodup⟩
    change _ :: state.events = (state.appended ++ [_]).reverse
    rw [List.reverse_append, sound.events]
    rfl
  | uniqueInteger =>
    cases taken
    exact ⟨sound.events, sound.saved, sound.snapshot, sound.before, sound.table, sound.nodup⟩
  | restart =>
    cases taken
    exact ⟨sound.saved.trans sound.events, rfl, (fun _ absent => nomatch absent), sound.before, sound.table, sound.nodup⟩
  | collect =>
    simp only [AuditState.step] at taken
    cases outstanding : state.snapshot with
    | some events =>
      rw [outstanding] at taken
      cases taken
    | none =>
      rw [outstanding] at taken
      cases taken
      refine ⟨sound.events, sound.saved, ?_, List.prefix_rfl, ?_, sound.nodup⟩
      · intro events same
        rw [← Option.some.inj same, sound.events]
      · intro row member
        obtain ⟨event, seen, made⟩ := sound.table row member
        exact ⟨event, sound.before.mem seen, made⟩
  | write =>
    simp only [AuditState.step] at taken
    cases outstanding : state.snapshot with
    | none =>
      rw [outstanding] at taken
      cases taken
    | some events =>
      rw [outstanding] at taken
      cases taken
      have all := sound.snapshot events outstanding
      refine ⟨sound.events, sound.saved, (fun _ absent => nomatch absent), sound.before, ?_,
        nodup_insertAllNew sound.nodup⟩
      intro row member
      rcases mem_insertAuditEvents member with old | ⟨event, listed, made⟩
      · exact sound.table row old
      · rw [all] at listed
        exact ⟨event, List.mem_reverse.mp listed, made⟩
  | fail =>
    cases taken
    exact ⟨sound.events, sound.saved, (fun _ absent => nomatch absent), sound.before, sound.table, sound.nodup⟩

theorem sound_of_reaches (reached : Reaches (AuditState.step enumerate) (fun _ _ => True) initial state) :
    state.Sound enumerate :=
  reached.invariant (P := fun state => state.Sound enumerate) sound_initial fun sound _ taken => sound.step taken

/-- A write loses no event exactly when no two of them share an id. -/
theorem Sound.written_iff (sound : state.Sound enumerate) :
    (∀ event ∈ state.before, auditEventRow enumerate event ∈
      insertAuditEvents enumerate state.table state.before.reverse) ↔ Identified enumerate state.before := by
  have listed : ∀ row, row ∈ state.before.reverse.map (auditEventRow enumerate) ↔
      ∃ event ∈ state.before, auditEventRow enumerate event = row := by
    intro row
    simp only [List.mem_map, List.mem_reverse]
  have contained := @forall_mem_insertAllNew_iff _ _ _ AuditRow.eventId state.table
    (state.before.reverse.map (auditEventRow enumerate)) sound.nodup
  constructor
  · intro written first member second other same
    have all : ∀ row ∈ state.before.reverse.map (auditEventRow enumerate),
        row ∈ insertAuditEvents enumerate state.table state.before.reverse := by
      intro row inside
      obtain ⟨event, held, made⟩ := (listed row).mp inside
      rw [← made]
      exact written event held
    have here := (listed _).mpr ⟨second, other, rfl⟩
    have there := (listed _).mpr ⟨first, member, rfl⟩
    exact contained.mp all _ here _ (List.mem_append_right _ there) same
  · intro identified event member
    apply contained.mpr
    · intro row inside another known same
      obtain ⟨first, held, made⟩ := (listed row).mp inside
      have origin : ∃ event ∈ state.before, auditEventRow enumerate event = another := by
        rcases List.mem_append.mp known with old | new
        · exact sound.table another old
        · exact (listed another).mp new
      obtain ⟨second, also, equal⟩ := origin
      rw [← made, ← equal] at same ⊢
      exact identified second also first held same
    · exact (listed _).mpr ⟨event, member, rfl⟩

/-- As long as the virtual machine runs, an integer is not drawn twice. -/
theorem identified_of_one_vm
    (reached : Reaches (AuditState.step enumerate) (fun _ call => call ≠ .restart) initial state) :
    Identified enumerate state.before := by
  have counted : state.appended.Pairwise (fun first second => first.id < second.id) ∧
      ∀ event ∈ state.appended, event.id ≤ state.drawn := by
    apply reached.invariant (P := fun state => state.appended.Pairwise (fun first second => first.id < second.id) ∧
      ∀ event ∈ state.appended, event.id ≤ state.drawn)
    · exact ⟨List.Pairwise.nil, fun _ absent => nomatch absent⟩
    · intro state call next kept running taken
      cases call with
      | append attrs now =>
        cases taken
        constructor
        · apply List.pairwise_append.mpr
          refine ⟨kept.1, List.pairwise_singleton _ _, ?_⟩
          intro event earlier new last
          rw [List.mem_singleton.mp last]
          exact Nat.lt_succ_of_le (kept.2 event earlier)
        · intro event member
          rcases List.mem_append.mp member with earlier | last
          · exact (kept.2 event earlier).trans (Nat.le_add_right _ 2)
          · rw [List.mem_singleton.mp last]
            exact Nat.le_succ _
      | uniqueInteger =>
        cases taken
        exact ⟨kept.1, fun event member => (kept.2 event member).trans (Nat.le_succ _)⟩
      | restart => exact absurd rfl running
      | collect =>
        simp only [AuditState.step] at taken
        cases outstanding : state.snapshot <;> rw [outstanding] at taken <;> cases taken
        exact kept
      | write =>
        simp only [AuditState.step] at taken
        cases outstanding : state.snapshot <;> rw [outstanding] at taken <;> cases taken
        exact kept
      | fail =>
        cases taken
        exact kept
  have sound := sound_of_reaches (reached.mono fun _ _ _ => trivial)
  have ordered := counted.1.sublist sound.before.sublist
  exact identified_of_nodup (List.pairwise_map.mpr (ordered.imp Nat.ne_of_lt))

end AuditState

/-- In every run, with whatever restarts and syncs: a sync that succeeds leaves a row for every event
that was appended before its snapshot exactly when those with the same id are the same. Repeating
it adds no row. -/
theorem audit_events_written_iff (enumerate : Entries → Entries) {state next : AuditState}
    (reached : Reaches (AuditState.step enumerate) (fun _ _ => True) .initial state)
    (written : state.step enumerate .write = some next) :
    ((∀ event ∈ state.before, auditEventRow enumerate event ∈ next.table) ↔ Identified enumerate state.before) ∧
      ∀ events, state.snapshot = some events → insertAuditEvents enumerate next.table events = next.table := by
  have sound := AuditState.sound_of_reaches reached
  simp only [AuditState.step] at written
  cases outstanding : state.snapshot with
  | none =>
    rw [outstanding] at written
    cases written
  | some events =>
    rw [outstanding] at written
    cases written
    have all := sound.snapshot events outstanding
    constructor
    · rw [all]
      exact sound.written_iff
    · intro again same
      rw [← Option.some.inj same]
      exact insertAllNew_again _ _

/-- An event of the operator, a restart, so many other draws, and an event of the system. -/
def restartedAudit (draws : Nat) : List AuditCall :=
  [.append ⟨some "operator", "pipeline.updated", some "acme/default", none⟩ 1, .restart] ++
    List.replicate draws .uniqueInteger ++ [.append ⟨some "system", "agent.registered", some "agent-1", none⟩ 2, .collect]

theorem audit_events_written_restarted :
    ∃ state next, run (AuditState.step id) .initial (restartedAudit 4) = some state ∧
      state.step id .write = some next ∧ next.table.map AuditRow.eventId = [5, 1] ∧
      ∀ event ∈ state.before, auditEventRow id event ∈ next.table := by
  refine ⟨_, _, rfl, rfl, rfl, ?_⟩
  have ran : run (AuditState.step id) .initial (restartedAudit 4) = _ := rfl
  apply (audit_events_written_iff id (.of_run (fun _ _ _ => trivial) ran) rfl).1.mpr
  exact identified_of_nodup (by decide)

/-- Without other draws the second event has the id of the first one, which is not written. -/
theorem audit_event_lost :
    ∃ state next event, run (AuditState.step id) .initial (restartedAudit 0) = some state ∧
      state.step id .write = some next ∧ event ∈ state.before ∧ event.actor = "operator" ∧
      next.table.map (fun row => (row.eventId, row.actor)) = [(1, "system")] ∧
      auditEventRow id event ∉ next.table := by
  refine ⟨_, _, _, rfl, rfl, List.mem_cons_self, rfl, rfl, ?_⟩
  intro written
  have actor := congrArg AuditRow.actor (List.mem_singleton.mp written)
  exact absurd actor (by decide)

end TelemetryFabric.ControlPlane
