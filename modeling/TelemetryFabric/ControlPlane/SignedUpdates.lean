import TelemetryFabric.Agent.Sha256
import TelemetryFabric.ControlPlane.HttpControl
import TelemetryFabric.ControlPlane.Responses

/-!
Updates between the two implementations of the hash functions: the control plane has the standard
ones, and an agent its own. What the control plane signs, an agent with the same key takes, as far
as the checksum and the signature go.
-/

namespace TelemetryFabric.ControlPlane
open Library

/-! ### The hash functions of the two sides -/

/-- `:crypto.hash`, in lower-case digits. -/
noncomputable def sha256 (payload : String) : String :=
  String.ofList (Sha256.hexOfBits (Sha256.sha256 (Sha256.bytesToBits (utf8 payload))))

/-- `:crypto.mac`, in lower-case digits. -/
noncomputable def hmacSha256 (key payload : String) : String :=
  String.ofList (Sha256.hexOfBits
    (Sha256.hmac Sha256.sha256 (Sha256.bytesToBits (utf8 key)) (Sha256.bytesToBits (utf8 payload))))

/-- The client of an agent, with the agent's own functions. -/
def ownClient {E : Type} (tenantId : String) (configSigningKey : Option String) (serde : Agent.Serde)
    (build : Core.ExporterConfig → Except Agent.ExporterError E) : Agent.ControlClient E where
  tenantId := tenantId
  configSigningKey := configSigningKey
  sha256Hex := fun payload => Agent.sha256Hex (utf8 payload)
  hmacSha256Hex := fun key payload => Agent.hmacSha256Hex (utf8 key) (utf8 payload)
  serde := serde
  build := build

/-! ### The checks -/

theorem hexEncode_solid (bytes : List UInt8) : ∀ c ∈ (hexEncode bytes).toList, isWhitespace c = false := by
  have digit : ∀ value < 16, isWhitespace (hexDigit value) = false := by decide
  intro c member
  unfold hexEncode at member
  rw [String.toList_ofList] at member
  obtain ⟨byte, -, either⟩ := List.mem_flatMap.mp member
  have bound := byte.toNat_lt
  simp only [List.mem_cons, List.not_mem_nil, or_false] at either
  rcases either with rfl | rfl
  · exact digit _ (by omega)
  · exact digit _ (by omega)

section Checks

variable {E : Type} {client : Agent.ControlClient E} {update : Agent.ConfigUpdate}

theorem checksum_same (same : update.checksum = client.sha256Hex update.pipelineConfig) :
    Agent.eqIgnoreAsciiCase (client.sha256Hex update.pipelineConfig) update.checksum = true := by
  rw [same]
  exact beq_self_eq_true _

/-- The digits of the keyed hash, behind the name of the algorithm, are what is expected. -/
theorem validateConfigSignature_of_signed
    (signed : update.signature = configSignature client.hmacSha256Hex client.configSigningKey update.pipelineConfig)
    (solid : ∀ key payload, ∀ c ∈ (client.hmacSha256Hex key payload).toList, isWhitespace c = false) :
    client.validateConfigSignature update = .ok () := by
  unfold Agent.ControlClient.validateConfigSignature
  rw [signed]
  cases configured : client.configSigningKey with
  | none => rfl
  | some key =>
    cases blank : isBlank key with
    | true =>
      have unused : (some key).filter (fun key => !isBlank key) = none := by simp [blank]
      simp only [unused]
    | false =>
      have used : (some key).filter (fun key => !isBlank key) = some key := by simp [blank]
      have trimmed := trim_of_solid (solid key update.pipelineConfig)
      have written : configSignature client.hmacSha256Hex (some key) update.pipelineConfig =
          some ("hmac-sha256=" ++ client.hmacSha256Hex key update.pipelineConfig) := by simp [configSignature, blank]
      simp only [used, written]
      rw [stripStart_append, Option.getD_some, trimmed, String.ofList_toList, if_pos (agent_constantTimeEqual_iff.mpr rfl)]

theorem validateConfigUpdate_of_checks
    (same : Agent.eqIgnoreAsciiCase (client.sha256Hex update.pipelineConfig) update.checksum = true)
    (signed : client.validateConfigSignature update = .ok ()) :
    client.validateConfigUpdate update =
      (Agent.parsePipelineConfig client.serde update.pipelineConfig).mapError Agent.UpdateError.file := by
  unfold Agent.ControlClient.validateConfigUpdate
  rw [if_pos same, signed]
  cases Agent.parsePipelineConfig client.serde update.pipelineConfig with
  | error error => rfl
  | ok config => rfl

end Checks

/-! ### What is signed is taken -/

/-- Both checks pass, and past them only the payload itself can be refused. -/
structure Passes {E : Type} (client : Agent.ControlClient E) (update : Agent.ConfigUpdate) : Prop where
  checksum : Agent.eqIgnoreAsciiCase (client.sha256Hex update.pipelineConfig) update.checksum = true
  signature : client.validateConfigSignature update = .ok ()
  parsed : client.validateConfigUpdate update =
    (Agent.parsePipelineConfig client.serde update.pipelineConfig).mapError Agent.UpdateError.file

theorem signedConfigUpdate_eq_some {enumerate : Entries → Entries} {sha256 : String → String}
    {hmacSha256 : String → String → String} {signingKey : Option String} {pipeline : PipelineConfig} {update : SignedUpdate}
    (built : signedConfigUpdate enumerate sha256 hmacSha256 signingKey pipeline = some update) :
    update.checksum = sha256 update.pipelineConfig ∧
      update.signature = configSignature hmacSha256 signingKey update.pipelineConfig := by
  obtain ⟨plain, written, rfl⟩ := Option.map_eq_some_iff.mp built
  obtain ⟨payload, -, same⟩ := Option.bind_eq_some_iff.mp written
  cases same
  exact ⟨rfl, rfl⟩

/-- With the same functions and the same key on both sides. -/
theorem passes_of_signed {E : Type} {client : Agent.ControlClient E} {enumerate : Entries → Entries}
    {sha256 : String → String} {hmacSha256 : String → String → String} {pipeline : PipelineConfig} {update : SignedUpdate}
    (digest : client.sha256Hex = sha256) (keyed : client.hmacSha256Hex = hmacSha256)
    (solid : ∀ key payload, ∀ c ∈ (hmacSha256 key payload).toList, isWhitespace c = false)
    (built : signedConfigUpdate enumerate sha256 hmacSha256 client.configSigningKey pipeline = some update) :
    Passes client update.received := by
  subst digest keyed
  obtain ⟨checksum, signature⟩ := signedConfigUpdate_eq_some built
  have same := checksum_same (show update.received.checksum = client.sha256Hex update.received.pipelineConfig from checksum)
  have signed := validateConfigSignature_of_signed (show update.received.signature =
    configSignature client.hmacSha256Hex client.configSigningKey update.received.pipelineConfig from signature) solid
  exact ⟨same, signed, validateConfigUpdate_of_checks same signed⟩

/-- For every message and every key, the agent's functions are the standard ones, so that an update
as the control plane builds it passes both checks of an agent with the same key. -/
theorem own_hashes_standard {E : Type} (enumerate : Entries → Entries) (signingKey : Option String) (tenantId : String)
    (serde : Agent.Serde) (build : Core.ExporterConfig → Except Agent.ExporterError E) :
    (∀ message, Agent.sha256Hex message =
      String.ofList (Sha256.hexOfBits (Sha256.sha256 (Sha256.bytesToBits message)))) ∧
    (∀ key message, Agent.hmacSha256Hex key message =
      String.ofList (Sha256.hexOfBits (Sha256.hmac Sha256.sha256 (Sha256.bytesToBits key) (Sha256.bytesToBits message)))) ∧
    ∀ pipeline update, signedConfigUpdate enumerate sha256 hmacSha256 signingKey pipeline = some update →
      Passes (ownClient tenantId signingKey serde build) update.received := by
  refine ⟨Agent.sha256Hex_eq, Agent.hmacSha256Hex_eq, ?_⟩
  intro pipeline update built
  have digest : (ownClient tenantId signingKey serde build).sha256Hex = sha256 :=
    funext fun payload => Agent.sha256Hex_eq (utf8 payload)
  have keyed : (ownClient tenantId signingKey serde build).hmacSha256Hex = hmacSha256 :=
    funext fun key => funext fun payload => Agent.hmacSha256Hex_eq (utf8 key) (utf8 payload)
  apply passes_of_signed digest keyed _ built
  intro key payload
  unfold hmacSha256
  rw [← Agent.hmacSha256Hex_eq, Agent.hmacSha256Hex, Agent.hexLower_eq]
  exact hexEncode_solid _

/-- A pipeline of one route, and its payload as it is signed. -/
theorem own_hashes_standard_acme :
    toAgentYaml id acmePipeline = some acmePayload ∧
      Passes (E := Unit) (ownClient "acme" (some "signing-key") .core fun _ => .ok ()) (SignedUpdate.received
        ⟨⟨0, acmePayload, sha256 acmePayload⟩, configSignature hmacSha256 (some "signing-key") acmePayload⟩) := by
  have written : toAgentYaml id acmePipeline = some acmePayload := by decide +kernel
  have built : signedConfigUpdate id sha256 hmacSha256 (some "signing-key") acmePipeline =
      some ⟨⟨0, acmePayload, sha256 acmePayload⟩, configSignature hmacSha256 (some "signing-key") acmePayload⟩ := by
    unfold signedConfigUpdate buildConfigUpdate
    rw [written]
    rfl
  exact ⟨written, (own_hashes_standard id (some "signing-key") "acme" .core fun _ => .ok ()).2.2 _ _ built⟩

end TelemetryFabric.ControlPlane
