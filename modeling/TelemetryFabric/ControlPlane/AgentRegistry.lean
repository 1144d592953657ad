import TelemetryFabric.Library.OrderedMap
import TelemetryFabric.Library.Text
import Mathlib.Data.String.Basic

/-!
The agents the control plane knows. A registration replaces all of a record, a heartbeat what
an agent reports of itself, and only for the tenant the agent is registered with.
-/

namespace TelemetryFabric.ControlPlane
open Library

/-- Times are in microseconds. -/
structure AgentRecord where
  agentId : String
  tenantId : String
  hostname : String
  version : String
  configVersion : Int
  queueDepthBytes : Int
  ingestBytesPerSecond : Int
  labels : List (String × String)
  lastSeenAt : Int
  deriving DecidableEq

structure RegisterAttrs where
  agentId : String
  tenantId : String
  hostname : Option String
  version : Option String
  configVersion : Option Int
  queueDepthBytes : Option Int
  ingestBytesPerSecond : Option Int
  labels : Option (List (String × String))
  deriving DecidableEq

/-- The tenant is looked up with `Map.get`, so it may be missing. -/
structure HeartbeatAttrs where
  agentId : String
  tenantId : Option String
  configVersion : Option Int
  queueDepthBytes : Option Int
  ingestBytesPerSecond : Option Int
  deriving DecidableEq

inductive RegistryError where
  | empty (field : String)
  | notFound
  | tenantMismatch
  deriving DecidableEq

def RegisterAttrs.record (attrs : RegisterAttrs) (now : Int) : AgentRecord where
  agentId := attrs.agentId
  tenantId := attrs.tenantId
  hostname := attrs.hostname.getD "unknown"
  version := attrs.version.getD "unknown"
  configVersion := attrs.configVersion.getD 0
  queueDepthBytes := attrs.queueDepthBytes.getD 0
  ingestBytesPerSecond := attrs.ingestBytesPerSecond.getD 0
  labels := attrs.labels.getD []
  lastSeenAt := now

def HeartbeatAttrs.refresh (attrs : HeartbeatAttrs) (now : Int) (agent : AgentRecord) : AgentRecord :=
  { agent with
    configVersion := attrs.configVersion.getD 0
    queueDepthBytes := attrs.queueDepthBytes.getD agent.queueDepthBytes
    ingestBytesPerSecond := attrs.ingestBytesPerSecond.getD agent.ingestBytesPerSecond
    lastSeenAt := now }

def requireSameTenant (agent : AgentRecord) : Option String → Except RegistryError Unit
  | none => .ok ()
  | some tenantId => if agent.tenantId = tenantId then .ok () else .error .tenantMismatch

abbrev Agents := OrderedMap String AgentRecord

def getAgent (agentId : String) (agents : Agents) : Except RegistryError AgentRecord :=
  match agents.find? agentId with
  | some agent => .ok agent
  | none => .error .notFound

/-- A registration with the record it leaves. -/
def register (attrs : RegisterAttrs) (now : Int) (agents : Agents) : AgentRecord × Agents :=
  (attrs.record now, agents.insert attrs.agentId (attrs.record now))

/-- A heartbeat and its result. -/
def heartbeat (attrs : HeartbeatAttrs) (now : Int) (agents : Agents) : Except RegistryError AgentRecord × Agents :=
  match getAgent attrs.agentId agents with
  | .error error => (.error error, agents)
  | .ok agent =>
      match requireSameTenant agent attrs.tenantId with
      | .error error => (.error error, agents)
      | .ok () => (.ok (attrs.refresh now agent), agents.insert attrs.agentId (attrs.refresh now agent))

theorem requireSameTenant_eq_ok {agent : AgentRecord} {tenantId : String} :
    requireSameTenant agent (some tenantId) = .ok () ↔ agent.tenantId = tenantId := by
  change (if agent.tenantId = tenantId then Except.ok () else Except.error RegistryError.tenantMismatch) = _ ↔ _
  split_ifs with same
  · exact ⟨fun _ => same, fun _ => rfl⟩
  · constructor
    · intro ok
      cases ok
    · intro other
      exact absurd other same

theorem getAgent_eq_ok {agentId : String} {agents : Agents} {agent : AgentRecord} :
    getAgent agentId agents = .ok agent ↔ agents.find? agentId = some agent := by
  unfold getAgent
  cases agents.find? agentId <;> simp

/-- A heartbeat that succeeds is one for the tenant of the agent, which it leaves as it is. -/
theorem heartbeat_eq_ok {attrs : HeartbeatAttrs} {now : Int} {agents after : Agents} {updated : AgentRecord}
    (done : heartbeat attrs now agents = (.ok updated, after)) :
    ∃ agent, agents.find? attrs.agentId = some agent ∧ requireSameTenant agent attrs.tenantId = .ok () ∧
      updated = attrs.refresh now agent ∧ after = agents.insert attrs.agentId updated := by
  unfold heartbeat at done
  cases found : getAgent attrs.agentId agents with
  | error error => simp [found] at done
  | ok agent =>
    simp only [found] at done
    cases same : requireSameTenant agent attrs.tenantId with
    | error error => simp [same] at done
    | ok _ =>
      simp only [same, Prod.mk.injEq, Except.ok.injEq] at done
      obtain ⟨rfl, rfl⟩ := done
      exact ⟨agent, getAgent_eq_ok.mp found, same, rfl, rfl⟩

/-- One that fails changes nothing. -/
theorem heartbeat_eq_error {attrs : HeartbeatAttrs} {now : Int} {agents after : Agents} {error : RegistryError}
    (failed : heartbeat attrs now agents = (.error error, after)) : after = agents := by
  unfold heartbeat at failed
  cases found : getAgent attrs.agentId agents with
  | error _ =>
    simp only [found, Prod.mk.injEq] at failed
    exact failed.2.symm
  | ok agent =>
    simp only [found] at failed
    cases same : requireSameTenant agent attrs.tenantId with
    | error _ =>
      simp only [same, Prod.mk.injEq] at failed
      exact failed.2.symm
    | ok _ => simp [same] at failed

end TelemetryFabric.ControlPlane
