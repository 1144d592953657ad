import TelemetryFabric.Library.Machine
import TelemetryFabric.Library.Windows
import TelemetryFabric.Processors.Again

/-!
A tenant rate limiter over whole runs. Every record is charged to the window its tenant has open, or
opens the next one. A window counts what it let through, windows of one tenant never overlap, and so
a second that straddles two of them holds at most twice the limit. Other tenants' records leave a
tenant's window alone.
-/

namespace TelemetryFabric.Processors
open Library TelemetryFabric.Core

namespace TenantRateLimitProcessor

variable {limiter : TenantRateLimitProcessor} {record : TelemetryRecord} {tenantId : String} {now : Nat}

/-! ### One record -/

/-- The window is charged only for a record that fits it. -/
theorem processAt_cases (limiter : TenantRateLimitProcessor) (record : TelemetryRecord) (now : Nat) :
    (∃ reason, limiter.processAt record now =
        (.ok (.drop reason), limiter.setWindow record.tenantId (limiter.window record.tenantId now))) ∨
      (saturatingAdd (limiter.window record.tenantId now).usedBytes (estimateRecordBytes record) ≤
          limiter.maxBytesPerSecond.toNat ∧
        limiter.processAt record now = (.ok (.emit record), limiter.setWindow record.tenantId
          { limiter.window record.tenantId now with
            usedBytes := saturatingAdd (limiter.window record.tenantId now).usedBytes (estimateRecordBytes record) })) := by
  by_cases large : estimateRecordBytes record > limiter.maxBytesPerSecond.toNat
  · left
    rw [processAt, if_pos large]
    exact ⟨_, rfl⟩
  · rw [processAt, if_neg large]
    by_cases full : saturatingAdd (limiter.window record.tenantId now).usedBytes (estimateRecordBytes record) >
        limiter.maxBytesPerSecond.toNat
    · left
      rw [if_pos full]
      exact ⟨_, rfl⟩
    · right
      rw [if_neg full, Nat.min_eq_right (by omega)]
      exact ⟨by omega, rfl⟩

@[simp] theorem maxBytesPerSecond_setWindow (limiter : TenantRateLimitProcessor) (tenantId : String) (window : TenantRateWindow) :
    (limiter.setWindow tenantId window).maxBytesPerSecond = limiter.maxBytesPerSecond := rfl

theorem find?_setWindow (limiter : TenantRateLimitProcessor) (tenantId other : String) (window : TenantRateWindow) :
    (limiter.setWindow tenantId window).windows.find? other =
      if other = tenantId then some window else limiter.windows.find? other := OrderedMap.find?_insert _ _ _ _

/-- The record meets the window its tenant had, or a fresh one that starts now. -/
theorem window_cases (limiter : TenantRateLimitProcessor) (tenantId : String) (now : Nat) :
    limiter.window tenantId now = ⟨now, 0⟩ ∧
        (∀ old, limiter.windows.find? tenantId = some old → old.startedAt + rateWindow ≤ now) ∨
      (limiter.windows.find? tenantId = some (limiter.window tenantId now) ∧
        now - (limiter.window tenantId now).startedAt < rateWindow) := by
  unfold window
  cases found : limiter.windows.find? tenantId with
  | none => exact .inl ⟨rfl, fun old present => nomatch present⟩
  | some old =>
    by_cases expired : now - old.startedAt ≥ rateWindow
    · left
      simp only [if_pos expired, true_and]
      intro other present
      cases present
      have : 0 < rateWindow := by decide
      omega
    · right
      simp only [if_neg expired, true_and]
      omega

end TenantRateLimitProcessor

/-! ### A run -/

/-- A record the limiter decided on, with the window it was charged to. -/
structure Arrival where
  tenantId : String
  estimatedBytes : Nat
  arrivedAt : Nat
  windowStart : Nat
  emitted : Bool
  deriving DecidableEq, Repr

/-- The limiter, the time of the last call and what arrived so far, oldest first. -/
structure Meter where
  limiter : TenantRateLimitProcessor
  clock : Nat
  arrivals : List Arrival

namespace Meter

def start (name : String) (maxBytesPerSecond : UInt64) : Meter := ⟨.new name maxBytesPerSecond, 0, []⟩

def arrival (limiter : TenantRateLimitProcessor) (record : TelemetryRecord) (now : Nat) : Arrival where
  tenantId := record.tenantId
  estimatedBytes := estimateRecordBytes record
  arrivedAt := now
  windowStart := (limiter.window record.tenantId now).startedAt
  emitted := (limiter.processAt record now).1 matches .ok (.emit _)

def receive (meter : Meter) (record : TelemetryRecord) (now : Nat) : Meter where
  limiter := (meter.limiter.processAt record now).2
  clock := now
  arrivals := meter.arrivals ++ [arrival meter.limiter record now]

def step (meter : Meter) (call : TelemetryRecord × Nat) : Option Meter := some (meter.receive call.1 call.2)

/-- The clock does not run backwards. -/
def Timely (meter : Meter) (call : TelemetryRecord × Nat) : Prop := meter.clock ≤ call.2

instance (meter : Meter) (call : TelemetryRecord × Nat) : Decidable (meter.Timely call) :=
  inferInstanceAs (Decidable (_ ≤ _))

def arrivalsOf (meter : Meter) (tenantId : String) : List Arrival :=
  meter.arrivals.filter fun arrival => arrival.tenantId == tenantId

end Meter

/-- What an arrival counts for. -/
def Arrival.emittedBytes (arrival : Arrival) : Nat := if arrival.emitted then arrival.estimatedBytes else 0

namespace Meter

/-- What the window of a tenant that starts at `startedAt` let through. -/
def emittedInWindow (meter : Meter) (tenantId : String) (startedAt : Nat) : Nat :=
  costOf Arrival.emittedBytes (fun arrival => arrival.windowStart == startedAt) (meter.arrivalsOf tenantId)

/-- What was let through of a tenant in the second that begins at `begins`. -/
def emittedInSecond (meter : Meter) (tenantId : String) (begins : Nat) : Nat :=
  costOf Arrival.emittedBytes (fun arrival => decide (begins ≤ arrival.arrivedAt ∧ arrival.arrivedAt < begins + rateWindow))
    (meter.arrivalsOf tenantId)

variable {meter : Meter} {record : TelemetryRecord} {tenantId : String} {now : Nat}

theorem arrivalsOf_receive_self (same : record.tenantId = tenantId) :
    (meter.receive record now).arrivalsOf tenantId = meter.arrivalsOf tenantId ++ [arrival meter.limiter record now] := by
  have kept : ((arrival meter.limiter record now).tenantId == tenantId) = true := beq_iff_eq.mpr same
  simp only [arrivalsOf, receive, List.filter_append, List.filter_cons, List.filter_nil, if_pos kept]

theorem arrivalsOf_receive_other (other : record.tenantId ≠ tenantId) :
    (meter.receive record now).arrivalsOf tenantId = meter.arrivalsOf tenantId := by
  have dropped : ¬((arrival meter.limiter record now).tenantId == tenantId) = true := by
    intro same
    exact other (beq_iff_eq.mp same)
  simp only [arrivalsOf, receive, List.filter_append, List.filter_cons, List.filter_nil, if_neg dropped, List.append_nil]

theorem find?_receive_other (other : record.tenantId ≠ tenantId) :
    (meter.receive record now).limiter.windows.find? tenantId = meter.limiter.windows.find? tenantId := by
  obtain ⟨reason, dropped⟩ | ⟨fits, emitted⟩ := meter.limiter.processAt_cases record now
  · simp only [receive, dropped, TenantRateLimitProcessor.find?_setWindow, if_neg (Ne.symm other)]
  · simp only [receive, emitted, TenantRateLimitProcessor.find?_setWindow, if_neg (Ne.symm other)]

@[simp] theorem maxBytesPerSecond_receive :
    (meter.receive record now).limiter.maxBytesPerSecond = meter.limiter.maxBytesPerSecond := by
  obtain ⟨reason, dropped⟩ | ⟨fits, emitted⟩ := meter.limiter.processAt_cases record now
  · simp only [receive, dropped, TenantRateLimitProcessor.maxBytesPerSecond_setWindow]
  · simp only [receive, emitted, TenantRateLimitProcessor.maxBytesPerSecond_setWindow]

/-- A window once `bytes` more have been counted in it. -/
def charged (window : TenantRateWindow) (bytes : Nat) : TenantRateWindow :=
  { window with usedBytes := saturatingAdd window.usedBytes bytes }

/-- The tenant's window afterwards: charged for the record if it was let through and fits, as it was if not. -/
theorem find?_receive_self (same : record.tenantId = tenantId) (representable : (meter.limiter.window tenantId now).usedBytes ≤ u64Max) :
    (meter.receive record now).limiter.windows.find? tenantId =
        some (charged (meter.limiter.window tenantId now) (arrival meter.limiter record now).emittedBytes) ∧
      ((arrival meter.limiter record now).emittedBytes = 0 ∨
        saturatingAdd (meter.limiter.window tenantId now).usedBytes (arrival meter.limiter record now).emittedBytes ≤
          meter.limiter.maxBytesPerSecond.toNat) := by
  subst same
  obtain ⟨reason, dropped⟩ | ⟨fits, emitted⟩ := meter.limiter.processAt_cases record now
  · have nothing : (arrival meter.limiter record now).emittedBytes = 0 := by
      simp only [Arrival.emittedBytes, arrival, dropped, Bool.false_eq_true, if_false]
    have whole : saturatingAdd (meter.limiter.window record.tenantId now).usedBytes 0 =
        (meter.limiter.window record.tenantId now).usedBytes := by
      unfold saturatingAdd
      omega
    rw [nothing, charged, whole]
    simp only [receive, dropped, TenantRateLimitProcessor.find?_setWindow, if_true, true_or, and_true]
  · have bytes : (arrival meter.limiter record now).emittedBytes = estimateRecordBytes record := by
      simp only [Arrival.emittedBytes, arrival, emitted, if_true]
    rw [bytes]
    simp only [receive, emitted, TenantRateLimitProcessor.find?_setWindow, if_true, charged, true_and]
    exact .inr fits

end Meter

/-! ### Windows and what they count -/

/-- The windows of one tenant: apart from each other, and the one that is open counts what it let
through, up to the limit. -/
structure Metered (tenantId : String) (meter : Meter) : Prop where
  unseen : meter.limiter.windows.find? tenantId = none → meter.arrivalsOf tenantId = []
  started : ∀ window, meter.limiter.windows.find? tenantId = some window → window.startedAt ≤ meter.clock
  latest : ∀ window, meter.limiter.windows.find? tenantId = some window → ∀ arrival ∈ meter.arrivalsOf tenantId,
    arrival.windowStart = window.startedAt ∨ arrival.windowStart + rateWindow ≤ window.startedAt
  counted : ∀ window, meter.limiter.windows.find? tenantId = some window →
    window.usedBytes = min meter.limiter.maxBytesPerSecond.toNat (meter.emittedInWindow tenantId window.startedAt)
  spaced : Spaced rateWindow Arrival.windowStart Arrival.arrivedAt (meter.arrivalsOf tenantId)

namespace Metered

variable {meter : Meter} {record : TelemetryRecord} {tenantId : String} {now : Nat}

theorem start (name : String) (maxBytesPerSecond : UInt64) (tenantId : String) :
    Metered tenantId (.start name maxBytesPerSecond) where
  unseen _ := rfl
  started _ found := nomatch found
  latest _ found := nomatch found
  counted _ found := nomatch found
  spaced := Spaced.nil

/-- The window the next record of the tenant meets. -/
theorem current (metered : Metered tenantId meter) (timely : meter.clock ≤ now) :
    (∀ arrival ∈ meter.arrivalsOf tenantId, arrival.windowStart = (meter.limiter.window tenantId now).startedAt ∨
        arrival.windowStart + rateWindow ≤ (meter.limiter.window tenantId now).startedAt) ∧
      ((meter.limiter.window tenantId now).startedAt ≤ now ∧ now < (meter.limiter.window tenantId now).startedAt + rateWindow) ∧
      (meter.limiter.window tenantId now).usedBytes = min meter.limiter.maxBytesPerSecond.toNat
        (meter.emittedInWindow tenantId (meter.limiter.window tenantId now).startedAt) := by
  obtain ⟨fresh, closed⟩ | ⟨stillOpen, running⟩ := meter.limiter.window_cases tenantId now
  · have past : ∀ arrival ∈ meter.arrivalsOf tenantId, arrival.windowStart + rateWindow ≤ now := by
      intro arrival member
      cases found : meter.limiter.windows.find? tenantId with
      | none =>
        rw [metered.unseen found] at member
        exact nomatch member
      | some old =>
        have before := metered.latest old found arrival member
        have ended := closed old found
        omega
    have nothing : meter.emittedInWindow tenantId now = 0 := by
      unfold Meter.emittedInWindow costOf
      rw [List.filter_eq_nil_iff.mpr]
      · rfl
      · intro arrival member here
        have before := past arrival member
        have : 0 < rateWindow := by decide
        have : arrival.windowStart = now := beq_iff_eq.mp here
        omega
    rw [fresh]
    refine ⟨fun arrival member => .inr (past arrival member), ⟨Nat.le_refl _, ?_⟩, ?_⟩
    · exact Nat.lt_add_of_pos_right (by decide)
    · simp only [nothing, Nat.min_zero]
  · have began := metered.started _ stillOpen
    exact ⟨metered.latest _ stillOpen, ⟨by omega, by omega⟩, metered.counted _ stillOpen⟩

theorem receive_self (metered : Metered tenantId meter) (timely : meter.clock ≤ now) (same : record.tenantId = tenantId) :
    Metered tenantId (meter.receive record now) := by
  obtain ⟨latest, inside, counted⟩ := metered.current timely
  have limit : meter.limiter.maxBytesPerSecond.toNat ≤ u64Max := Nat.le_of_lt_succ meter.limiter.maxBytesPerSecond.toNat_lt
  obtain ⟨found, fits⟩ := @Meter.find?_receive_self meter record tenantId now same (by omega)
  have startedAt : (Meter.arrival meter.limiter record now).windowStart = (meter.limiter.window tenantId now).startedAt := by
    rw [← same]
    rfl
  have more : (meter.receive record now).emittedInWindow tenantId (meter.limiter.window tenantId now).startedAt =
      meter.emittedInWindow tenantId (meter.limiter.window tenantId now).startedAt +
        (Meter.arrival meter.limiter record now).emittedBytes := by
    rw [Meter.emittedInWindow, Meter.arrivalsOf_receive_self same, costOf_append, costOf_singleton, startedAt]
    simp only [beq_self_eq_true, if_true]
    rfl
  constructor
  · intro missing
    rw [found] at missing
    exact nomatch missing
  · intro window present
    rw [found] at present
    cases present
    exact inside.1
  · intro window present arrival member
    rw [found] at present
    cases present
    rw [Meter.arrivalsOf_receive_self same] at member
    rcases List.mem_append.mp member with old | new
    · exact latest arrival old
    · rw [List.mem_singleton.mp new]
      exact .inl startedAt
  · intro window present
    rw [found] at present
    cases present
    show saturatingAdd _ _ = _
    rw [Meter.maxBytesPerSecond_receive]
    show _ = min _ ((meter.receive record now).emittedInWindow tenantId (meter.limiter.window tenantId now).startedAt)
    rw [more]
    unfold saturatingAdd at fits ⊢
    omega
  · rw [Meter.arrivalsOf_receive_self same]
    apply metered.spaced.append
    · rw [startedAt]
      exact inside
    · intro other member
      rw [startedAt]
      exact latest other member

theorem receive_other (metered : Metered tenantId meter) (timely : meter.clock ≤ now) (other : record.tenantId ≠ tenantId) :
    Metered tenantId (meter.receive record now) := by
  have windows : (meter.receive record now).limiter.windows.find? tenantId = meter.limiter.windows.find? tenantId :=
    Meter.find?_receive_other other
  have arrivals : (meter.receive record now).arrivalsOf tenantId = meter.arrivalsOf tenantId :=
    Meter.arrivalsOf_receive_other other
  constructor
  · rw [windows, arrivals]
    exact metered.unseen
  · rw [windows]
    intro window found
    exact Nat.le_trans (metered.started window found) timely
  · rw [windows, arrivals]
    exact metered.latest
  · rw [windows, Meter.maxBytesPerSecond_receive]
    simpa only [Meter.emittedInWindow, arrivals] using metered.counted
  · rw [arrivals]
    exact metered.spaced

theorem receive (metered : Metered tenantId meter) (timely : meter.clock ≤ now) (record : TelemetryRecord) :
    Metered tenantId (meter.receive record now) := by
  by_cases same : record.tenantId = tenantId
  · exact metered.receive_self timely same
  · exact metered.receive_other timely same

end Metered

/-- Below the largest limit nothing is lost to saturation, so no window lets more through. -/
theorem emittedInWindow_receive_le {meter : Meter} {tenantId : String} {now : Nat} (metered : Metered tenantId meter)
    (timely : meter.clock ≤ now) (record : TelemetryRecord) (below : meter.limiter.maxBytesPerSecond.toNat < u64Max)
    (bounded : ∀ startedAt, meter.emittedInWindow tenantId startedAt ≤ meter.limiter.maxBytesPerSecond.toNat)
    (startedAt : Nat) :
    (meter.receive record now).emittedInWindow tenantId startedAt ≤ meter.limiter.maxBytesPerSecond.toNat := by
  by_cases same : record.tenantId = tenantId
  · obtain ⟨-, -, counted⟩ := metered.current timely
    obtain ⟨-, fits⟩ := @Meter.find?_receive_self meter record tenantId now same (by omega)
    have here := bounded (meter.limiter.window tenantId now).startedAt
    have began : (Meter.arrival meter.limiter record now).windowStart = (meter.limiter.window tenantId now).startedAt := by
      rw [← same]
      rfl
    rw [Meter.emittedInWindow, Meter.arrivalsOf_receive_self same, costOf_append, costOf_singleton, began]
    by_cases current : (meter.limiter.window tenantId now).startedAt = startedAt
    · rw [if_pos (beq_iff_eq.mpr current), ← current]
      change meter.emittedInWindow tenantId _ + _ ≤ _
      unfold saturatingAdd at fits
      omega
    · rw [if_neg (fun equal => current (beq_iff_eq.mp equal))]
      exact bounded startedAt
  · rw [Meter.emittedInWindow, Meter.arrivalsOf_receive_other same]
    exact bounded startedAt

/-! ### Whole runs -/

section Run

variable {name : String} {maxBytesPerSecond : UInt64} {meter : Meter}

theorem maxBytesPerSecond_of_reaches (reached : Reaches Meter.step Meter.Timely (.start name maxBytesPerSecond) meter) :
    meter.limiter.maxBytesPerSecond = maxBytesPerSecond := by
  apply reached.invariant (P := fun meter => meter.limiter.maxBytesPerSecond = maxBytesPerSecond) rfl
  intro state call next same _ taken
  cases taken
  exact Meter.maxBytesPerSecond_receive.trans same

theorem metered_of_reaches (reached : Reaches Meter.step Meter.Timely (.start name maxBytesPerSecond) meter)
    (tenantId : String) : Metered tenantId meter := by
  apply reached.invariant (Metered.start name maxBytesPerSecond tenantId)
  intro state call next metered timely taken
  cases taken
  exact metered.receive timely call.1

theorem emittedInWindow_le (reached : Reaches Meter.step Meter.Timely (.start name maxBytesPerSecond) meter)
    (below : maxBytesPerSecond.toNat < u64Max) (tenantId : String) (startedAt : Nat) :
    meter.emittedInWindow tenantId startedAt ≤ maxBytesPerSecond.toNat := by
  induction reached generalizing startedAt with
  | here => exact Nat.zero_le _
  | after before timely taken ih =>
    cases taken
    have limit := maxBytesPerSecond_of_reaches before
    rw [← limit] at ih below ⊢
    exact emittedInWindow_receive_le (metered_of_reaches before tenantId) timely _ below ih startedAt

/-- Windows of a tenant start a second apart and count what they let through, up to the limit. Below the
largest limit they count all of it, none exceeds the limit and no second holds more than twice the limit. -/
theorem rate_bounded (reached : Reaches Meter.step Meter.Timely (.start name maxBytesPerSecond) meter) (tenantId : String) :
    Spaced rateWindow Arrival.windowStart Arrival.arrivedAt (meter.arrivalsOf tenantId) ∧
      (∀ window, meter.limiter.windows.find? tenantId = some window →
        window.usedBytes = min maxBytesPerSecond.toNat (meter.emittedInWindow tenantId window.startedAt)) ∧
      (maxBytesPerSecond.toNat < u64Max →
        (∀ startedAt, meter.emittedInWindow tenantId startedAt ≤ maxBytesPerSecond.toNat) ∧
        (∀ window, meter.limiter.windows.find? tenantId = some window →
          window.usedBytes = meter.emittedInWindow tenantId window.startedAt) ∧
        ∀ begins, meter.emittedInSecond tenantId begins ≤ 2 * maxBytesPerSecond.toNat) := by
  have metered := metered_of_reaches reached tenantId
  have counted := metered.counted
  rw [maxBytesPerSecond_of_reaches reached] at counted
  constructor
  · exact metered.spaced
  constructor
  · exact counted
  · intro below
    have bounded := emittedInWindow_le reached below tenantId
    constructor
    · exact bounded
    constructor
    · intro window found
      rw [counted window found, Nat.min_eq_right (bounded _)]
    · intro begins
      exact metered.spaced.costOf_interval_le bounded begins

end Run

namespace Meter

/-- The meter after the same record has arrived again and again, all at time zero. -/
def repeated (name : String) (maxBytesPerSecond : UInt64) (record : TelemetryRecord) : Nat → Meter
  | 0 => start name maxBytesPerSecond
  | count + 1 => (repeated name maxBytesPerSecond record count).receive record 0

variable {name : String} {maxBytesPerSecond : UInt64} {record : TelemetryRecord}

theorem clock_repeated (count : Nat) : (repeated name maxBytesPerSecond record count).clock = 0 := by
  cases count <;> rfl

theorem reaches_repeated (count : Nat) :
    Reaches step Timely (start name maxBytesPerSecond) (repeated name maxBytesPerSecond record count) := by
  induction count with
  | zero => exact .here
  | succ count ih =>
    have timely : Timely (repeated name maxBytesPerSecond record count) (record, 0) := by
      show _ ≤ 0
      rw [clock_repeated]
    exact .after ih timely rfl

/-- A sum that saturates never passes the largest limit. -/
theorem emittedBytes_unlimited {meter : Meter} {now : Nat} (unlimited : meter.limiter.maxBytesPerSecond.toNat = u64Max)
    (small : estimateRecordBytes record ≤ u64Max) :
    (arrival meter.limiter record now).emittedBytes = estimateRecordBytes record := by
  have fits : ¬saturatingAdd (meter.limiter.window record.tenantId now).usedBytes (estimateRecordBytes record) >
      meter.limiter.maxBytesPerSecond.toNat := by
    unfold saturatingAdd
    omega
  have emits : (meter.limiter.processAt record now).1 = .ok (.emit record) := by
    rw [TenantRateLimitProcessor.processAt, if_neg (by omega), if_neg fits]
  simp only [Arrival.emittedBytes, arrival, emits, if_true]

theorem emittedInWindow_repeated (unlimited : maxBytesPerSecond.toNat = u64Max) (small : estimateRecordBytes record ≤ u64Max)
    (count : Nat) : (repeated name maxBytesPerSecond record count).emittedInWindow record.tenantId 0 =
      count * estimateRecordBytes record := by
  induction count with
  | zero => exact (Nat.zero_mul _).symm
  | succ count ih =>
    have reached : Reaches step Timely (start name maxBytesPerSecond) (repeated name maxBytesPerSecond record count) :=
      reaches_repeated count
    have timely : (repeated name maxBytesPerSecond record count).clock ≤ 0 := by rw [clock_repeated]
    obtain ⟨-, inside, -⟩ := (metered_of_reaches reached record.tenantId).current timely
    have began : (arrival (repeated name maxBytesPerSecond record count).limiter record 0).windowStart = 0 :=
      Nat.le_zero.mp inside.1
    have limit := maxBytesPerSecond_of_reaches reached
    rw [repeated, emittedInWindow, arrivalsOf_receive_self rfl, costOf_append, costOf_singleton, began,
      emittedBytes_unlimited (by rw [limit, unlimited]) small]
    change emittedInWindow _ _ 0 + _ = _
    rw [ih, Nat.succ_mul]
    simp only [beq_self_eq_true, if_true]

end Meter

/-- A record of 40 bytes, without a body. -/
def bare : TelemetryRecord := ⟨"tenant-a", .log, 0, [], []⟩

/-- With the largest limit the sum saturates, and one window lets everything through. -/
theorem unlimited_overrun :
    Reaches Meter.step Meter.Timely (.start "tenant-rate-limit" 18446744073709551615)
        (.repeated "tenant-rate-limit" 18446744073709551615 bare (2 ^ 59)) ∧
      (18446744073709551615 : UInt64).toNat <
        (Meter.repeated "tenant-rate-limit" 18446744073709551615 bare (2 ^ 59)).emittedInWindow "tenant-a" 0 := by
  have bytes : estimateRecordBytes bare = 40 := by decide +kernel
  have total := @Meter.emittedInWindow_repeated "tenant-rate-limit" 18446744073709551615 bare rfl
    (by rw [bytes]; decide) (2 ^ 59)
  constructor
  · exact Meter.reaches_repeated (2 ^ 59)
  · change _ < Meter.emittedInWindow _ bare.tenantId 0
    rw [total, bytes]
    decide

/-- Two records at either side of a window's end. -/
def straddling : Meter :=
  ((((Meter.start "tenant-rate-limit" 80).receive bare 0).receive bare 999999999).receive bare 1000000000).receive bare 1000000000

theorem straddling_bounded :
    80 < straddling.emittedInSecond "tenant-a" 999999999 ∧ straddling.emittedInSecond "tenant-a" 999999999 ≤ 2 * 80 := by
  have reached : Reaches Meter.step Meter.Timely (.start "tenant-rate-limit" 80) straddling :=
    @Reaches.of_checked_run _ _ Meter.step Meter.Timely _
      [(bare, 0), (bare, 999999999), (bare, 1000000000), (bare, 1000000000)] _ _ rfl
  constructor
  · decide +kernel
  · exact ((rate_bounded reached "tenant-a").2.2 (by decide)).2.2 999999999

/-! ### Other tenants -/

namespace TenantRateLimitProcessor

/-- The same limit, and the same window for the tenant. -/
def Alike (tenantId : String) (first second : TenantRateLimitProcessor) : Prop :=
  first.maxBytesPerSecond = second.maxBytesPerSecond ∧ first.windows.find? tenantId = second.windows.find? tenantId

variable {tenantId : String} {first second : TenantRateLimitProcessor} {record : TelemetryRecord}

theorem Alike.processAt_self (alike : Alike tenantId first second) (same : record.tenantId = tenantId) (now : Nat) :
    (first.processAt record now).1 = (second.processAt record now).1 ∧
      Alike tenantId (first.processAt record now).2 (second.processAt record now).2 := by
  obtain ⟨limit, found⟩ := alike
  have met : first.window record.tenantId now = second.window record.tenantId now := by
    rw [same, window, window, found]
  have later : ∀ window, Alike tenantId (first.setWindow record.tenantId window) (second.setWindow record.tenantId window) := by
    intro window
    constructor
    · exact limit
    · rw [same, find?_setWindow, find?_setWindow, if_pos rfl, if_pos rfl]
  simp only [processAt, limit, met]
  split_ifs
  · exact ⟨rfl, later _⟩
  · exact ⟨rfl, later _⟩
  · exact ⟨rfl, later _⟩

theorem Alike.processAt_other (alike : Alike tenantId first second) (other : record.tenantId ≠ tenantId) (now : Nat) :
    Alike tenantId (first.processAt record now).2 second := by
  have kept : ∀ window, Alike tenantId (first.setWindow record.tenantId window) second := by
    intro window
    constructor
    · exact alike.1
    · rw [find?_setWindow, if_neg (Ne.symm other)]
      exact alike.2
  obtain ⟨reason, dropped⟩ | ⟨fits, emitted⟩ := first.processAt_cases record now
  · rw [dropped]
    exact kept _
  · rw [emitted]
    exact kept _

/-- What the limiter answers to the tenant's records of a history, in order. -/
def decisions (tenantId : String) :
    TenantRateLimitProcessor → List (TelemetryRecord × Nat) → List (Except ProcessingError ProcessDecision)
  | _, [] => []
  | limiter, (record, now) :: rest =>
      if record.tenantId = tenantId then
        (limiter.processAt record now).1 :: decisions tenantId (limiter.processAt record now).2 rest
      else decisions tenantId (limiter.processAt record now).2 rest

/-- The calls with a tenant's records. -/
def callsOf (tenantId : String) (history : List (TelemetryRecord × Nat)) : List (TelemetryRecord × Nat) :=
  history.filter fun call => call.1.tenantId = tenantId

theorem Alike.decisions_callsOf (alike : Alike tenantId first second) (history : List (TelemetryRecord × Nat)) :
    decisions tenantId first history = decisions tenantId second (callsOf tenantId history) := by
  induction history generalizing first second with
  | nil => rfl
  | cons call rest ih =>
    obtain ⟨record, now⟩ := call
    by_cases same : record.tenantId = tenantId
    · obtain ⟨decided, later⟩ := alike.processAt_self same now
      have head : callsOf tenantId ((record, now) :: rest) = (record, now) :: callsOf tenantId rest :=
        List.filter_cons_of_pos (by simpa using same)
      rw [head, decisions, decisions, if_pos same, if_pos same, decided, ih later]
    · have head : callsOf tenantId ((record, now) :: rest) = callsOf tenantId rest :=
        List.filter_cons_of_neg (by simpa using same)
      rw [head, decisions, if_neg same]
      exact ih (alike.processAt_other same now)

/-- Whatever other tenants send, and whenever, a tenant's records are decided on as if it were alone. -/
theorem tenants_independent (name : String) (maxBytesPerSecond : UInt64) (tenantId : String)
    {first second : List (TelemetryRecord × Nat)} (agree : callsOf tenantId first = callsOf tenantId second) :
    decisions tenantId (.new name maxBytesPerSecond) first = decisions tenantId (.new name maxBytesPerSecond) second := by
  have alike : Alike tenantId (.new name maxBytesPerSecond) (.new name maxBytesPerSecond) := ⟨rfl, rfl⟩
  rw [alike.decisions_callsOf first, alike.decisions_callsOf second, agree]

/-- A neighbour that uses up its own window. -/
theorem neighbour_unnoticed :
    decisions "tenant-a" (.new "tenant-rate-limit" 80)
        [(bare, 0), ({ bare with tenantId := "tenant-b" }, 1), ({ bare with tenantId := "tenant-b" }, 2000000000),
          ({ bare with tenantId := "tenant-b" }, 2000000000), (bare, 5), (bare, 6)] =
      decisions "tenant-a" (.new "tenant-rate-limit" 80) [(bare, 0), (bare, 5), (bare, 6)] :=
  tenants_independent "tenant-rate-limit" 80 "tenant-a" (by decide +kernel)

end TenantRateLimitProcessor

end TelemetryFabric.Processors
