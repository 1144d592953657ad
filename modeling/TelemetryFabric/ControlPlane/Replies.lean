import TelemetryFabric.ControlPlane.Exchange
import TelemetryFabric.ControlPlane.ServiceRuns
import TelemetryFabric.ControlPlane.SignedUpdates

/-!
How an agent reads what the service answers. The YAML parser takes a text of JSON for the value that
was encoded, as long as nothing in it means something else in YAML; the agent then asks for its fields.
-/

namespace TelemetryFabric.ControlPlane
open Library Library.JsonText

/-! ### Values -/

section Values

variable {F : Type} (showFloat : F → String)

mutual

/-- The value of an encoded text, by the rules of YAML. -/
def valueOf : Encodable F → Yaml
  | .nil => .null
  | .boolean value => .bool value
  | .integer value => .int value
  | .float value => .float (showFloat value)
  | .string text => .string text
  | .atom name => .string name
  | .list items => .sequence (valuesOf items)
  | .map entries =>
      .mapping (((entriesOf entries).mergeSort fun first second => decide (first.1 ≤ second.1)).map fun entry =>
        (.string entry.1, entry.2))

def valuesOf : List (Encodable F) → List Yaml
  | [] => []
  | item :: rest => valueOf item :: valuesOf rest

def entriesOf : List (MapKey × Encodable F) → List (String × Yaml)
  | [] => []
  | (key, item) :: rest => (key.text, valueOf item) :: entriesOf rest

end

/-- A character that stands for itself between quotes: no control, no line break, no byte order mark. -/
def isVerbatim (c : Char) : Bool :=
  (decide (0x20 ≤ c.toNat) && decide (c.toNat ≤ 0x7E)) ||
    (decide (0xA0 ≤ c.toNat) && decide (c.toNat ≤ 0xFFFD) && !([0x2028, 0x2029, 0xFEFF].contains c.toNat)) ||
    decide (0x10000 ≤ c.toNat)

/-- Every character stands for itself, or is written as an escape. -/
def isClear (text : String) : Bool := text.toList.all fun c => isVerbatim c || ['\n', '\r', '\t'].contains c

/-- The characters that a key and its quotes may take up. -/
def keyLimit : Nat := 1024

/-- How deep lists and maps may be nested. -/
def nestingLimit : Nat := 128

/-- Whether YAML has the same value for the text of a body: nested so deep at most, with clear texts, short
and different keys, and numbers that fit. -/
def isLegible : Nat → Encodable F → Bool
  | _, .nil => true
  | _, .boolean _ => true
  | _, .integer value => decide (-(2 ^ 63) ≤ value) && decide (value < 2 ^ 64)
  | _, .float value =>
      match Yaml.resolve (showFloat value).toList with
      | .float _ => true
      | _ => false
  | _, .string text => isClear text
  | _, .atom name => isClear name
  | 0, .list _ => false
  | depth + 1, .list items => items.all (isLegible depth)
  | 0, .map _ => false
  | depth + 1, .map entries =>
      decide ((entries.map fun entry => entry.1.text).Nodup) && entries.all fun entry =>
        isClear entry.1.text && decide ((Json.escape entry.1.text).length + 2 ≤ keyLimit) && isLegible depth entry.2

/-- What is relied on of the parser: the text of a legible body is read as its value. -/
def ReadsJson (fromStr : String → Except String Yaml) (body : Encodable F) : Prop :=
  isLegible showFloat nestingLimit body = true → ∀ text, utf8 text = Json.encode showFloat body →
    fromStr text = .ok (valueOf showFloat body)

theorem valuesOf_eq_map (items : List (Encodable F)) : valuesOf showFloat items = items.map (valueOf showFloat) := by
  induction items with
  | nil => rfl
  | cons item rest ih => rw [valuesOf, ih, List.map_cons]

theorem entriesOf_eq_map (entries : List (MapKey × Encodable F)) :
    entriesOf showFloat entries = entries.map fun entry => (entry.1.text, valueOf showFloat entry.2) := by
  induction entries with
  | nil => rfl
  | cons entry rest ih =>
    obtain ⟨key, item⟩ := entry
    rw [entriesOf, ih, List.map_cons]

/-! ### Fields -/

/-- A mapping whose keys are texts. -/
def fieldsOf (entries : List (String × Yaml)) : Yaml := .mapping (entries.map fun entry => (.string entry.1, entry.2))

theorem getField_cons (name key : String) (value : Yaml) (rest : List (String × Yaml)) :
    Agent.getField (fieldsOf ((name, value) :: rest)) key =
      if name = key then .ok value else Agent.getField (fieldsOf rest) key := by
  unfold Agent.getField fieldsOf
  by_cases same : name = key
  · simp only [List.map_cons, List.findSome?_cons, if_pos same]
  · simp only [List.map_cons, List.findSome?_cons, if_neg same]

theorem getField_of_mem {entries : List (String × Yaml)} (distinct : (entries.map Prod.fst).Nodup) {key : String} {value : Yaml}
    (member : (key, value) ∈ entries) : Agent.getField (fieldsOf entries) key = .ok value := by
  induction entries with
  | nil => exact absurd member List.not_mem_nil
  | cons entry rest ih =>
    obtain ⟨name, found⟩ := entry
    rw [List.map_cons, List.nodup_cons] at distinct
    rw [getField_cons]
    rcases List.mem_cons.mp member with same | later
    · cases same
      rw [if_pos rfl]
    · have other : name ≠ key := by
        intro same
        exact distinct.1 (List.mem_map.mpr ⟨(key, value), later, same.symm⟩)
      rw [if_neg other]
      exact ih distinct.2 later

theorem getField_of_absent {entries : List (String × Yaml)} {key : String} (absent : key ∉ entries.map Prod.fst) :
    Agent.getField (fieldsOf entries) key = .error (.control ("missing field in control response: " ++ key)) := by
  induction entries with
  | nil => rfl
  | cons entry rest ih =>
    obtain ⟨name, found⟩ := entry
    rw [List.map_cons, List.mem_cons, not_or] at absent
    rw [getField_cons, if_neg (Ne.symm absent.1)]
    exact ih absent.2

theorem valueOf_map (entries : List (MapKey × Encodable F)) :
    valueOf showFloat (.map entries) =
      fieldsOf ((entriesOf showFloat entries).mergeSort fun first second => decide (first.1 ≤ second.1)) := by
  rw [valueOf, fieldsOf]

theorem sortedNames (entries : List (MapKey × Encodable F)) :
    (((entriesOf showFloat entries).mergeSort fun first second => decide (first.1 ≤ second.1)).map Prod.fst).Perm
      (entries.map fun entry => entry.1.text) := by
  have names : (entriesOf showFloat entries).map Prod.fst = entries.map fun entry => entry.1.text := by
    rw [entriesOf_eq_map, List.map_map]
    rfl
  rw [← names]
  exact (List.mergeSort_perm _ _).map Prod.fst

/-- A field is found under its name. -/
theorem getField_valueOf {entries : List (MapKey × Encodable F)} (distinct : (entries.map fun entry => entry.1.text).Nodup)
    {key : MapKey} {item : Encodable F} (member : (key, item) ∈ entries) :
    Agent.getField (valueOf showFloat (.map entries)) key.text = .ok (valueOf showFloat item) := by
  rw [valueOf_map]
  apply getField_of_mem
  · exact (sortedNames showFloat entries).nodup_iff.mpr distinct
  · rw [List.mem_mergeSort, entriesOf_eq_map]
    exact List.mem_map.mpr ⟨(key, item), member, rfl⟩

theorem getField_valueOf_absent {entries : List (MapKey × Encodable F)} {key : String}
    (absent : key ∉ entries.map fun entry => entry.1.text) :
    Agent.getField (valueOf showFloat (.map entries)) key =
      .error (.control ("missing field in control response: " ++ key)) := by
  rw [valueOf_map]
  apply getField_of_absent
  rw [(sortedNames showFloat entries).mem_iff]
  exact absent

end Values

/-! ### Commands -/

def agentKind : CommandKind → Agent.ControlCommandKind
  | .reloadConfig => .reloadConfig
  | .drainAndRestart => .drainAndRestart
  | .pauseExports => .pauseExports
  | .resumeExports => .resumeExports

def agentStatus : CommandStatus → Agent.ControlCommandStatus
  | .pending => .pending
  | .delivered => .delivered
  | .succeeded => .succeeded
  | .failed => .failed

/-- The reason is a text. -/
def Worded {F : Type} (reason : Json F) : Prop := ∃ text, reason = .string text

def words {F : Type} : Json F → String
  | .string text => text
  | _ => ""

/-- A command as the agent is to have it. -/
def asRead {F : Type} (command : JsonCommand F) : Agent.ControlCommand :=
  ⟨command.commandId, agentKind command.kind, words command.reason, agentStatus command.status⟩

def noReason : Agent.ControlError := .control "field must be a string: reason"

section Commands

variable {F : Type} (runtime : Runtime F)

/-- What is written of a command. -/
def commandEntries (command : JsonCommand F) : List (MapKey × Encodable F) := [
  (.atom "command_id", .string command.commandId),
  (.atom "kind", .atom command.kind.text),
  (.atom "reason", JsonRequest.encodeJson runtime command.reason),
  (.atom "status", .atom command.status.text)]

theorem getField_command (command : JsonCommand F) {key : MapKey} {item : Encodable F}
    (member : (key, item) ∈ commandEntries runtime command) :
    Agent.getField (valueOf runtime.showFloat (JsonRequest.encodeCommand runtime command)) key.text =
      .ok (valueOf runtime.showFloat item) := by
  unfold JsonRequest.encodeCommand
  apply getField_valueOf
  · show ["command_id", "agent_id", "tenant_id", "kind", "reason", "status", "delivered_at", "acknowledged_at",
      "last_error"].Nodup
    decide
  · simp only [commandEntries, List.mem_cons, List.not_mem_nil, or_false] at member
    rcases member with same | same | same | same
    · rw [same]
      exact List.mem_cons_self
    · rw [same]
      simp only [List.mem_cons, true_or, or_true]
    · rw [same]
      simp only [List.mem_cons, true_or, or_true]
    · rw [same]
      simp only [List.mem_cons, true_or, or_true]

theorem getString_of_text {value : Yaml} {key text : String} (field : Agent.getField value key = .ok (.string text)) :
    Agent.getString value key = .ok text := by
  unfold Agent.getString
  rw [field]
  rfl

theorem getString_of_other {value other : Yaml} {key : String} (field : Agent.getField value key = .ok other)
    (noText : ∀ text, other ≠ .string text) :
    Agent.getString value key = .error (.control ("field must be a string: " ++ key)) := by
  unfold Agent.getString
  rw [field]
  cases other with
  | string text => exact absurd rfl (noText text)
  | _ => rfl

theorem valueOf_encodeJson_ne {reason : Json F} (other : ¬Worded reason) (text : String) :
    valueOf runtime.showFloat (JsonRequest.encodeJson runtime reason) ≠ .string text := by
  cases reason with
  | string text => exact absurd ⟨text, rfl⟩ other
  | _ => exact fun same => nomatch same

theorem parseCommand_fields (command : JsonCommand F) :
    Agent.parseCommand (valueOf runtime.showFloat (JsonRequest.encodeCommand runtime command)) =
      (Agent.getString (valueOf runtime.showFloat (JsonRequest.encodeCommand runtime command)) "reason").map
        fun reason => ⟨command.commandId, agentKind command.kind, reason, agentStatus command.status⟩ := by
  have field : ∀ {name : String} {item : Encodable F}, (MapKey.atom name, item) ∈ commandEntries runtime command →
      Agent.getField (valueOf runtime.showFloat (JsonRequest.encodeCommand runtime command)) name =
        .ok (valueOf runtime.showFloat item) := fun member => getField_command runtime command member
  have commandId := getString_of_text (field (List.mem_cons_self))
  have kind := getString_of_text (field (List.mem_cons_of_mem _ List.mem_cons_self))
  have status := getString_of_text (field (List.mem_cons_of_mem _ (List.mem_cons_of_mem _ (List.mem_cons_of_mem _
    List.mem_cons_self))))
  have kindBack : Agent.parseCommandKind command.kind.text = agentKind command.kind := by
    cases command.kind <;> decide
  have statusBack : Agent.parseCommandStatus command.status.text = agentStatus command.status := by
    cases command.status <;> decide
  unfold Agent.parseCommand Agent.getOptionalString
  rw [commandId, kind, status, ← kindBack, ← statusBack]
  cases Agent.getString (valueOf runtime.showFloat (JsonRequest.encodeCommand runtime command)) "reason" with
  | ok reason => rfl
  | error other => rfl

theorem getField_reason (command : JsonCommand F) :
    Agent.getField (valueOf runtime.showFloat (JsonRequest.encodeCommand runtime command)) "reason" =
      .ok (valueOf runtime.showFloat (JsonRequest.encodeJson runtime command.reason)) :=
  getField_command runtime command (show (MapKey.atom "reason", _) ∈ commandEntries runtime command from
    List.mem_cons_of_mem _ (List.mem_cons_of_mem _ List.mem_cons_self))

theorem parseCommand_of_worded {command : JsonCommand F} (worded : Worded command.reason) :
    Agent.parseCommand (valueOf runtime.showFloat (JsonRequest.encodeCommand runtime command)) = .ok (asRead command) := by
  obtain ⟨text, given⟩ := worded
  have reason := getField_reason runtime command
  rw [given] at reason
  rw [parseCommand_fields, getString_of_text reason, asRead, given]
  rfl

theorem parseCommand_of_other {command : JsonCommand F} (other : ¬Worded command.reason) :
    Agent.parseCommand (valueOf runtime.showFloat (JsonRequest.encodeCommand runtime command)) = .error noReason := by
  rw [parseCommand_fields, getString_of_other (getField_reason runtime command) (valueOf_encodeJson_ne runtime other)]
  rfl

/-- All of the commands are read, or none. -/
theorem mapM_parseCommand (commands : List (JsonCommand F)) :
    ((∀ command ∈ commands, Worded command.reason) →
      (commands.map fun command => valueOf runtime.showFloat (JsonRequest.encodeCommand runtime command)).mapM
        Agent.parseCommand = .ok (commands.map asRead)) ∧
    ((∃ command ∈ commands, ¬Worded command.reason) →
      (commands.map fun command => valueOf runtime.showFloat (JsonRequest.encodeCommand runtime command)).mapM
        Agent.parseCommand = .error noReason) := by
  induction commands with
  | nil => exact ⟨fun _ => rfl, fun ⟨_, member, _⟩ => absurd member List.not_mem_nil⟩
  | cons command rest ih =>
    rw [List.map_cons, List.mapM_cons]
    by_cases worded : Worded command.reason
    · rw [parseCommand_of_worded runtime worded]
      constructor
      · intro all
        have later := ih.1 fun other member => all other (List.mem_cons_of_mem _ member)
        show (List.mapM Agent.parseCommand _ >>= fun read => pure (asRead command :: read)) = _
        rw [later]
        rfl
      · rintro ⟨other, member, wordless⟩
        rcases List.mem_cons.mp member with same | later
        · rw [same] at wordless
          exact absurd worded wordless
        · show (List.mapM Agent.parseCommand _ >>= fun read => pure (asRead command :: read)) = _
          rw [ih.2 ⟨other, later, wordless⟩]
          rfl
    · rw [parseCommand_of_other runtime worded]
      exact ⟨fun all => absurd (all command List.mem_cons_self) worded, fun _ => rfl⟩

/-- The body of an answer with commands. -/
def commandsBody (commands : List (JsonCommand F)) : Encodable F :=
  .map [(.atom "commands", .list (commands.map (JsonRequest.encodeCommand runtime)))]

theorem parseCommandsResponse_valueOf (commands : List (JsonCommand F)) :
    Agent.parseCommandsResponse (valueOf runtime.showFloat (commandsBody runtime commands)) =
      (commands.map fun command => valueOf runtime.showFloat (JsonRequest.encodeCommand runtime command)).mapM
        Agent.parseCommand := by
  have field : ∀ item : Encodable F, Agent.getField (valueOf runtime.showFloat (.map [(.atom "commands", item)])) "commands" =
      .ok (valueOf runtime.showFloat item) := by
    intro item
    have listed : (MapKey.atom "commands", item) ∈ [(MapKey.atom "commands", item)] := List.mem_singleton_self _
    have distinct : ([(MapKey.atom "commands", item)].map fun entry => entry.1.text).Nodup := List.nodup_singleton "commands"
    exact getField_valueOf runtime.showFloat distinct listed
  unfold Agent.parseCommandsResponse commandsBody
  rw [field, valueOf, valuesOf_eq_map, List.map_map]
  rfl

end Commands

/-! ### Heartbeats -/

namespace JsonRequest

section Heartbeats

open Stores

variable {F : Type} [DecidableEq F] {runtime : Runtime F} {stores later : Stores runtime.enumerate} {attrs : JsonObject F}
  {reasons : Json F → Prop} {body : Encodable F}

theorem heartbeatAgent_eq_ok {agentId tenantId : String} {agent : JsonAgent F} (sound : Sound reasons stores)
    (ran : heartbeatAgent runtime agentId tenantId attrs stores = .ok agent later) :
    agent.agentId = agentId ∧ later.commands = stores.commands := by
  unfold heartbeatAgent at ran
  obtain ⟨read, _, here, ran⟩ := bind_eq_ok ran
  cases here
  obtain ⟨known, found, ran⟩ := given_bind_eq_ok ran
  obtain ⟨_, _, ran⟩ := given_bind_eq_ok ran
  have owner := (sound.agent (getAgent_eq_ok found)).1
  cases ran
  exact ⟨owner, rfl⟩

/-- What a heartbeat is answered: the commands that are due, and a reload where there is a newer
version. -/
theorem heartbeat_eq_ok {agentId : String} (sound : Sound reasons stores) (asked : attr attrs "agent_id" = .string agentId)
    (answered : heartbeat runtime attrs stores = .ok body later) :
    ∃ reload : List (JsonCommand F), (∀ command ∈ reload, command.kind = .reloadConfig ∧ Worded command.reason) ∧
      body = commandsBody runtime (handedOut runtime (stores.commandsOf agentId) ++ reload) := by
  unfold heartbeat at answered
  obtain ⟨id, named, answered⟩ := given_bind_eq_ok answered
  obtain ⟨tenantId, _, answered⟩ := given_bind_eq_ok answered
  have same : id = agentId := by
    rw [asked, requireText] at named
    split_ifs at named
    cases named
    rfl
  rw [same] at answered
  obtain ⟨agent, between, beat, answered⟩ := bind_eq_ok answered
  obtain ⟨owner, commands⟩ := heartbeatAgent_eq_ok sound beat
  obtain ⟨queued, drained, handed, answered⟩ := bind_eq_ok answered
  rw [drain_eq] at handed
  cases handed
  obtain ⟨read, last, here, answered⟩ := bind_eq_ok answered
  have same : between.commandsOf agent.agentId = stores.commandsOf agentId := by
    rw [owner, Stores.commandsOf, commands]
    rfl
  dsimp only at answered
  rw [same] at answered
  by_cases newer : runtime.newer (read.latestConfigVersion agent.tenantId) agent.configVersion = true
  · rw [if_pos newer] at answered
    cases answered
    refine ⟨_, ?_, rfl⟩
    intro command member
    rw [List.mem_singleton.mp member]
    exact ⟨rfl, _, rfl⟩
  · rw [if_neg newer] at answered
    cases answered
    exact ⟨[], fun command member => absurd member List.not_mem_nil, rfl⟩

variable (fromStr : String → Except String Yaml)

/-- What the agent makes of an answer to a heartbeat. -/
def readHeartbeat (response : Response) : Except Agent.ControlError (List Agent.ControlCommand) :=
  meant fromStr response >>= Agent.parseCommandsResponse

omit [DecidableEq F] in
theorem meant_response {body : Encodable F} (legible : isLegible runtime.showFloat nestingLimit body = true)
    (reads : ReadsJson runtime.showFloat fromStr body) :
    meant fromStr (response runtime 200 body) = .ok (valueOf runtime.showFloat body) := by
  obtain ⟨text, encoded⟩ := Json.isUtf8_encodeValue runtime.showFloat body
  have payload : (response runtime 200 body).body = utf8 text := encoded
  rw [meant, payload, fromUtf8?_utf8]
  simp only []
  rw [if_pos ⟨le_refl 200, show 200 < 300 by decide⟩, reads legible text encoded.symm]
  rfl

/-- All of the commands are read and a reload where one is due, or a single reason that is no text has
none of them read. -/
theorem readHeartbeat_answer (runtime : Runtime F) {stores later : Stores runtime.enumerate} {agentId : String} (sound : Sound reasons stores)
    (asked : attr attrs "agent_id" = .string agentId) (answered : heartbeat runtime attrs stores = .ok body later)
    (legible : isLegible runtime.showFloat nestingLimit body = true) (reads : ReadsJson runtime.showFloat fromStr body) :
    ∃ reload : List (JsonCommand F),
      ((∀ command ∈ handedOut runtime (stores.commandsOf agentId), Worded command.reason) →
        readHeartbeat fromStr (response runtime 200 body) =
          .ok ((handedOut runtime (stores.commandsOf agentId) ++ reload).map asRead)) ∧
      ((∃ command ∈ handedOut runtime (stores.commandsOf agentId), ¬Worded command.reason) →
        readHeartbeat fromStr (response runtime 200 body) = .error noReason) := by
  obtain ⟨reload, derived, same⟩ := heartbeat_eq_ok sound asked answered
  have read : readHeartbeat fromStr (response runtime 200 body) =
      Agent.parseCommandsResponse (valueOf runtime.showFloat body) := by
    rw [readHeartbeat, meant_response fromStr legible reads]
    rfl
  refine ⟨reload, ?_, ?_⟩
  · intro worded
    rw [read, same, parseCommandsResponse_valueOf]
    apply (mapM_parseCommand runtime _).1
    intro command member
    rcases List.mem_append.mp member with handed | reloads
    · exact worded command handed
    · exact (derived command reloads).2
  · rintro ⟨command, member, wordless⟩
    rw [read, same, parseCommandsResponse_valueOf]
    exact (mapM_parseCommand runtime _).2 ⟨command, List.mem_append_left _ member, wordless⟩

omit [DecidableEq F] in
/-- Whatever is handed out is a command of the queue, but for its delivery. -/
theorem sameOrder_of_handedOut {commands : List (JsonCommand F)} {command : JsonCommand F}
    (member : command ∈ handedOut runtime commands) : ∃ queued ∈ commands, command.SameOrder queued := by
  obtain ⟨queued, inside, same⟩ := List.mem_map.mp (List.mem_filter.mp member).1
  refine ⟨queued, inside, ?_⟩
  rw [← same]
  exact sameOrder_markDue runtime _ queued

end Heartbeats

/-! ### Updates -/

section Updates

open Stores

variable {F : Type} [DecidableEq F] {runtime : Runtime F} {stores later : Stores runtime.enumerate} {attrs : JsonObject F}
  {body : Encodable F}

theorem getPipeline_mem {tenantId : String} {name : Json F} {pipeline : RequestedPipeline F}
    (found : stores.getPipeline tenantId name = .ok pipeline) :
    ∃ key, ∃ stored ∈ stores.pipelines key, stored.config = pipeline := by
  unfold Stores.getPipeline Stores.versions at found
  cases name with
  | string name =>
    simp only at found
    cases listed : stores.pipelines (tenantId, name) with
    | nil =>
      rw [listed] at found
      cases found
    | cons latest older =>
      rw [listed] at found
      cases found
      refine ⟨(tenantId, name), latest, ?_, rfl⟩
      rw [listed]
      exact List.mem_cons_self
  | _ => cases found

/-- What is answered: nothing newer, or a stored version as it is written. -/
theorem configUpdate_eq_ok (answered : configUpdate runtime attrs stores = .ok body later) :
    body = .map [(.atom "update", .nil)] ∨
      ∃ key, ∃ stored ∈ stores.pipelines key, ∃ payload,
        toAgentYaml runtime.enumerate runtime.precedes runtime.showFloat runtime.charlistError stored.config = .ok payload ∧
          body = .map [(.atom "update", encodeUpdate runtime stored.config.version payload)] := by
  unfold configUpdate at answered
  obtain ⟨agentId, _, answered⟩ := given_bind_eq_ok answered
  obtain ⟨tenantId, _, answered⟩ := given_bind_eq_ok answered
  obtain ⟨read, between, here, answered⟩ := bind_eq_ok answered
  cases here
  obtain ⟨agent, _, answered⟩ := given_bind_eq_ok answered
  obtain ⟨_, _, answered⟩ := given_bind_eq_ok answered
  obtain ⟨pipeline, found, answered⟩ := given_bind_eq_ok answered
  by_cases newer : runtime.newer pipeline.version (attrOr attrs "current_version" (.integer 0)) = true
  · rw [if_pos newer] at answered
    obtain ⟨payload, written, answered⟩ := given_bind_eq_ok answered
    obtain ⟨key, stored, member, same⟩ := getPipeline_mem found
    cases answered
    refine Or.inr ⟨key, stored, member, payload, ?_, ?_⟩
    · rw [same]
      cases made : toAgentYaml runtime.enumerate runtime.precedes runtime.showFloat runtime.charlistError pipeline with
      | ok text =>
        rw [made] at written
        cases written
        rfl
      | error exception =>
        rw [made] at written
        cases written
    · rw [same]
  · rw [if_neg newer] at answered
    cases answered
    exact Or.inl rfl

omit [DecidableEq F] in
theorem getField_update (item : Encodable F) :
    Agent.getField (valueOf runtime.showFloat (.map [(.atom "update", item)])) "update" =
      .ok (valueOf runtime.showFloat item) := by
  have listed : (MapKey.atom "update", item) ∈ [(MapKey.atom "update", item)] := List.mem_singleton_self _
  have distinct : ([(MapKey.atom "update", item)].map fun entry => entry.1.text).Nodup := List.nodup_singleton "update"
  exact getField_valueOf runtime.showFloat distinct listed

/-- The update as the agent is to have it. -/
def updateAsRead (runtime : Runtime F) (version : Nat) (payload : String) : Agent.ConfigUpdate where
  version := UInt64.ofNat version
  pipelineConfig := payload
  checksum := runtime.sha256 payload
  signature := configSignature runtime.hmacSha256 runtime.signingKey payload

omit [DecidableEq F] in
theorem getField_encodeUpdate (version : Nat) (payload : String) :
    Agent.getField (valueOf runtime.showFloat (encodeUpdate runtime version payload)) "version" = .ok (.int version) ∧
    Agent.getField (valueOf runtime.showFloat (encodeUpdate runtime version payload)) "pipeline_config" = .ok (.string payload) ∧
    Agent.getField (valueOf runtime.showFloat (encodeUpdate runtime version payload)) "checksum" =
      .ok (.string (runtime.sha256 payload)) ∧
    Agent.getOptionalString (valueOf runtime.showFloat (encodeUpdate runtime version payload)) "signature" =
      configSignature runtime.hmacSha256 runtime.signingKey payload := by
  unfold encodeUpdate
  generalize configSignature runtime.hmacSha256 runtime.signingKey payload = signature
  have distinct : (([(MapKey.atom "version", Encodable.integer version), (.atom "pipeline_config", .string payload),
      (.atom "checksum", .string (runtime.sha256 payload))] ++
      (signature.map fun signature => (MapKey.atom "signature", Encodable.string signature)).toList :
        List (MapKey × Encodable F)).map fun entry => entry.1.text).Nodup := by
    cases signature with
    | none =>
      show ["version", "pipeline_config", "checksum"].Nodup
      decide
    | some signature =>
      show ["version", "pipeline_config", "checksum", "signature"].Nodup
      decide
  refine ⟨?_, ?_, ?_, ?_⟩
  · exact getField_valueOf runtime.showFloat distinct (List.mem_append_left _ List.mem_cons_self)
  · exact getField_valueOf runtime.showFloat distinct (List.mem_append_left _ (List.mem_cons_of_mem _ List.mem_cons_self))
  · exact getField_valueOf runtime.showFloat distinct (List.mem_append_left _ (List.mem_cons_of_mem _ (List.mem_cons_of_mem _
      List.mem_cons_self)))
  · cases signature with
    | some signature =>
      have field : Agent.getField (valueOf runtime.showFloat (.map _)) "signature" = .ok (.string signature) :=
        getField_valueOf runtime.showFloat distinct (List.mem_append_right _ (List.mem_singleton_self (MapKey.atom "signature", _)))
      rw [Agent.getOptionalString, getString_of_text field]
    | none =>
      have absent : "signature" ∉ ([(MapKey.atom "version", Encodable.integer version), (.atom "pipeline_config", .string payload),
          (.atom "checksum", .string (runtime.sha256 payload))] : List (MapKey × Encodable F)).map fun entry => entry.1.text := by
        show "signature" ∉ ["version", "pipeline_config", "checksum"]
        decide
      have missing := getField_valueOf_absent runtime.showFloat absent
      rw [Option.map_none, Option.toList_none, List.append_nil, Agent.getOptionalString, Agent.getString, missing]
      rfl

theorem getU64_of_int {value : Yaml} {key : String} {number : Int} (field : Agent.getField value key = .ok (.int number))
    (lower : 0 ≤ number) (upper : number < 2 ^ 64) : Agent.getU64 value key = .ok (UInt64.ofNat number.toNat) := by
  unfold Agent.getU64
  rw [field]
  exact if_pos ⟨lower, upper⟩

omit [DecidableEq F] in
theorem parseConfigUpdateResponse_nil :
    Agent.parseConfigUpdateResponse (valueOf runtime.showFloat (.map [(.atom "update", .nil)])) = .ok none := by
  unfold Agent.parseConfigUpdateResponse
  rw [getField_update]
  rfl

omit [DecidableEq F] in
theorem parseConfigUpdateResponse_encodeUpdate {version : Nat} (small : version < 2 ^ 64) (payload : String) :
    Agent.parseConfigUpdateResponse (valueOf runtime.showFloat (.map [(.atom "update", encodeUpdate runtime version payload)])) =
      .ok (some (updateAsRead runtime version payload)) := by
  obtain ⟨versioned, config, checksum, signature⟩ := @getField_encodeUpdate F runtime version payload
  have number : Agent.getU64 (valueOf runtime.showFloat (encodeUpdate runtime version payload)) "version" =
      .ok (UInt64.ofNat version) := by
    rw [getU64_of_int versioned (Int.natCast_nonneg _) (by omega), Int.toNat_natCast]
  unfold Agent.parseConfigUpdateResponse
  rw [getField_update]
  have mapping : ∃ entries, valueOf runtime.showFloat (encodeUpdate runtime version payload) = .mapping entries := ⟨_, rfl⟩
  obtain ⟨entries, same⟩ := mapping
  rw [same] at number config checksum signature ⊢
  show (do
    let version ← Agent.getU64 (.mapping entries) "version"
    let payload ← Agent.getString (.mapping entries) "pipeline_config"
    let checksum ← Agent.getString (.mapping entries) "checksum"
    return some (Agent.ConfigUpdate.mk version payload checksum (Agent.getOptionalString (.mapping entries) "signature"))) = _
  rw [number, getString_of_text config, getString_of_text checksum, signature]
  rfl

/-- What the agent makes of an answer about its configuration. -/
def readConfigUpdate (fromStr : String → Except String Yaml) (response : Response) :
    Except Agent.ControlError (Option Agent.ConfigUpdate) :=
  meant fromStr response >>= Agent.parseConfigUpdateResponse

/-- The versions of a key, as they are in the log. -/
theorem versions_of_numbered {key : String × String} {versions : List (StoredPipeline runtime.enumerate)}
    (numbered : Numbered key versions) :
    (versions.map fun stored => stored.config.version) = (List.range' 1 versions.length).reverse := by
  induction versions with
  | nil => rfl
  | cons latest older ih =>
    obtain ⟨version, -, -, rest⟩ := numbered
    rw [List.map_cons, ih rest, version, List.length_cons, List.range'_concat, List.reverse_append, Nat.one_mul,
      Nat.add_comm 1]
    rfl

/-- Every version has an event of its own. -/
theorem version_le_events {reasons : Json F → Prop} (sound : Sound reasons stores) {key : String × String}
    {stored : StoredPipeline runtime.enumerate} (member : stored ∈ stores.pipelines key) :
    stored.config.version ≤ stores.events.length := by
  have versions := versions_of_numbered (sound.numbered key)
  have bound : stored.config.version ≤ (stores.pipelines key).length := by
    have listed : stored.config.version ∈ (stores.pipelines key).map fun stored => stored.config.version :=
      List.mem_map.mpr ⟨stored, member, rfl⟩
    rw [versions, List.mem_reverse, List.mem_range'_1] at listed
    omega
  have distinct : ((stores.pipelines key).map fun stored =>
      some ("version", (.json (.integer stored.config.version) : JsonDatum F))).Nodup := by
    have numbers : ((stores.pipelines key).map fun stored => stored.config.version).Nodup := by
      rw [versions, List.nodup_reverse]
      exact List.nodup_range'
    have apart : Function.Injective fun version : Nat => some ("version", (.json (.integer version) : JsonDatum F)) := by
      intro first second same
      simpa using same
    have composed := numbers.map apart
    rw [List.map_map] at composed
    exact composed
  have logged : ((stores.pipelines key).map fun stored =>
      some ("version", (.json (.integer stored.config.version) : JsonDatum F))) ⊆
        stores.events.map fun event => event.metadata.head? := by
    intro entry inside
    obtain ⟨stored, listed, same⟩ := List.mem_map.mp inside
    obtain ⟨event, known, -, -, first⟩ := sound.published listed
    exact List.mem_map.mpr ⟨event, known, first.trans same⟩
  have count := (List.subperm_of_subset distinct logged).length_le
  rw [List.length_map, List.length_map] at count
  omega

omit [DecidableEq F] in
/-- An update from a control plane with the same functions and the same key passes the checks. -/
theorem passes_updateAsRead {E : Type} {client : Agent.ControlClient E} (sha256 : client.sha256Hex = runtime.sha256)
    (hmac : client.hmacSha256Hex = runtime.hmacSha256) (key : client.configSigningKey = runtime.signingKey)
    (solid : ∀ key payload, ∀ c ∈ (client.hmacSha256Hex key payload).toList, isWhitespace c = false)
    (version : Nat) (payload : String) : Passes client (updateAsRead runtime version payload) := by
  have written : (updateAsRead runtime version payload).signature =
      configSignature client.hmacSha256Hex client.configSigningKey (updateAsRead runtime version payload).pipelineConfig := by
    rw [hmac, key]
    rfl
  have checksum : Agent.eqIgnoreAsciiCase (client.sha256Hex (updateAsRead runtime version payload).pipelineConfig)
      (updateAsRead runtime version payload).checksum = true := checksum_same (congrFun sha256 payload).symm
  have signature := validateConfigSignature_of_signed written solid
  exact ⟨checksum, signature, validateConfigUpdate_of_checks checksum signature⟩

end Updates

/-! ### Registrations -/

section Registrations

open Stores

variable {F : Type} [DecidableEq F] {runtime : Runtime F} {stores later : Stores runtime.enumerate} {attrs : JsonObject F}
  {body : Encodable F}

/-- What is written of an agent that has been registered. -/
def registrationEntries (version : Nat) : List (MapKey × Encodable F) := [
  (.atom "accepted", .boolean true),
  (.atom "config_version", .integer version),
  (.atom "message", .string (registerMessage version))]

theorem registerAgent_eq_ok (answered : registerAgent runtime attrs stores = .ok body later) :
    ∃ tenantId, attr attrs "tenant_id" = .string tenantId ∧
      body = .map [(.atom "agent", .map (registrationEntries (stores.latestConfigVersion tenantId)))] := by
  unfold registerAgent at answered
  obtain ⟨agentId, _, answered⟩ := given_bind_eq_ok answered
  obtain ⟨tenantId, named, answered⟩ := given_bind_eq_ok answered
  obtain ⟨read, between, here, answered⟩ := bind_eq_ok answered
  cases here
  refine ⟨tenantId, ?_, ?_⟩
  · cases given : attr attrs "tenant_id" with
    | string text =>
      rw [given, requireText] at named
      split_ifs at named
      cases named
      rfl
    | _ =>
      rw [given] at named
      cases named
  · cases answered
    rfl

omit [DecidableEq F] in
theorem parseRegisterResponse_registrationEntries {version : Nat} (small : version < 2 ^ 64) :
    Agent.parseRegisterResponse (valueOf runtime.showFloat (.map [(.atom "agent", .map (registrationEntries version))])) =
      .ok ⟨true, UInt64.ofNat version, registerMessage version⟩ := by
  have outer : ∀ item : Encodable F, Agent.getField (valueOf runtime.showFloat (.map [(.atom "agent", item)])) "agent" =
      .ok (valueOf runtime.showFloat item) := by
    intro item
    have listed : (MapKey.atom "agent", item) ∈ [(MapKey.atom "agent", item)] := List.mem_singleton_self _
    have distinct : ([(MapKey.atom "agent", item)].map fun entry => entry.1.text).Nodup := List.nodup_singleton "agent"
    exact getField_valueOf runtime.showFloat distinct listed
  have distinct : ((registrationEntries version : List (MapKey × Encodable F)).map fun entry => entry.1.text).Nodup := by
    show ["accepted", "config_version", "message"].Nodup
    decide
  have field : ∀ {name : String} {item : Encodable F}, (MapKey.atom name, item) ∈ registrationEntries version →
      Agent.getField (valueOf runtime.showFloat (.map (registrationEntries version))) name =
        .ok (valueOf runtime.showFloat item) := fun member => getField_valueOf runtime.showFloat distinct member
  have accepted : Agent.getBool (valueOf runtime.showFloat (.map (registrationEntries version))) "accepted" = .ok true := by
    unfold Agent.getBool
    rw [field List.mem_cons_self]
    rfl
  have number : Agent.getU64 (valueOf runtime.showFloat (.map (registrationEntries version))) "config_version" =
      .ok (UInt64.ofNat version) := by
    have versioned := field (List.mem_cons_of_mem _ List.mem_cons_self)
    rw [getU64_of_int versioned (Int.natCast_nonneg _) (by omega), Int.toNat_natCast]
  have message := getString_of_text (field (List.mem_cons_of_mem _ (List.mem_cons_of_mem _ List.mem_cons_self)))
  unfold Agent.parseRegisterResponse
  rw [outer]
  show (do
    let accepted ← Agent.getBool (valueOf runtime.showFloat (.map (registrationEntries version))) "accepted"
    let configVersion ← Agent.getU64 (valueOf runtime.showFloat (.map (registrationEntries version))) "config_version"
    let message ← Agent.getString (valueOf runtime.showFloat (.map (registrationEntries version))) "message"
    return Agent.RegisterResponse.mk accepted configVersion message) = _
  rw [accepted, number, message]
  rfl

/-- What the agent makes of an answer to a registration. -/
def readRegistration (fromStr : String → Except String Yaml) (response : Response) :
    Except Agent.ControlError Agent.RegisterResponse :=
  meant fromStr response >>= Agent.parseRegisterResponse

/-- There are as many events as the latest version, at least. -/
theorem latestConfigVersion_le_events {reasons : Json F → Prop} (sound : Sound reasons stores) (tenantId : String) :
    stores.latestConfigVersion tenantId ≤ stores.events.length := by
  unfold Stores.latestConfigVersion
  cases listed : stores.versions tenantId (.string "default") with
  | nil => exact Nat.zero_le _
  | cons latest older =>
    have member : latest ∈ stores.pipelines (tenantId, "default") := by
      show latest ∈ stores.versions tenantId (.string "default")
      rw [listed]
      exact List.mem_cons_self
    exact version_le_events sound member

end Registrations

section Runs

open Stores

variable {F : Type} [DecidableEq F] (server : Server F) {maxBodyBytes : Nat} (faultMessage : RequestFault → String)
  {reasons : Json F → Prop} {start : Stores server.enumerate}

/-- At any time in any run of connections, the agent reads a legible answer to a heartbeat exactly if the
reason of every command that is handed out is a text: a single other reason, and it reads none of them.
Where only texts are given for reasons it reads every such answer, with everything that is handed out. -/
theorem heartbeat_of_run_is_read (sound : Sound reasons start) {connections : List Connection}
    (asks : ∀ connection ∈ connections, AsksFor server maxBodyBytes reasons connection) (connection : Connection)
    {attrs : JsonObject F} {agentId : String} (asked : attr attrs "agent_id" = .string agentId) {body : Encodable F}
    {later : Stores server.enumerate}
    (answered : heartbeat (serverDuring server connection).toRuntime attrs
      (serveAll server maxBodyBytes faultMessage start connections) = .ok body later)
    (legible : isLegible server.showFloat nestingLimit body = true)
    {fromStr : String → Except String Yaml} (reads : ReadsJson server.showFloat fromStr body) :
    ((∃ commands, readHeartbeat fromStr (response (serverDuring server connection).toRuntime 200 body) = .ok commands) ↔
      ∀ command ∈ handedOut (serverDuring server connection).toRuntime
        ((serveAll server maxBodyBytes faultMessage start connections).commandsOf agentId), Worded command.reason) ∧
    ((∀ reason, reasons reason → Worded reason) →
      ∃ commands, readHeartbeat fromStr (response (serverDuring server connection).toRuntime 200 body) = .ok commands ∧
        ∀ command ∈ handedOut (serverDuring server connection).toRuntime
          ((serveAll server maxBodyBytes faultMessage start connections).commandsOf agentId), asRead command ∈ commands) := by
  have reached := (serveAll_good server faultMessage asks ⟨sound, Grown.refl⟩).1
  obtain ⟨reload, all, none⟩ := readHeartbeat_answer fromStr (serverDuring server connection).toRuntime reached asked answered
    legible reads
  constructor
  · constructor
    · rintro ⟨commands, read⟩ command member
      by_contra wordless
      rw [none ⟨command, member, wordless⟩] at read
      cases read
    · exact fun worded => ⟨_, all worded⟩
  · intro texts
    have worded : ∀ command ∈ handedOut (serverDuring server connection).toRuntime
        ((serveAll server maxBodyBytes faultMessage start connections).commandsOf agentId), Worded command.reason := by
      intro command member
      obtain ⟨queued, inside, -, -, -, -, reason, -⟩ := sameOrder_of_handedOut member
      rw [reason]
      exact texts _ (reached.command inside).2.1
    refine ⟨_, all worded, ?_⟩
    intro command member
    exact List.mem_map.mpr ⟨command, List.mem_append_left _ member, rfl⟩

omit [DecidableEq F] in
/-- What is asked for is in the body of the request. -/
theorem asksFor_of_body {connection : Connection} (body : Bytes) {attrs : JsonObject F}
    (read : (readRequest server.text maxBodyBytes connection.requestNumber connection.reads).map ServedRequest.body = .ok body)
    (given : decodeRequest server.toRuntime body = .ok (.object attrs)) (reason : reasons (attrOr attrs "reason" (.string ""))) :
    AsksFor server maxBodyBytes reasons connection := by
  intro request others asked decoded
  rw [asked] at read
  rw [show request.body = body from Except.ok.inj read, given] at decoded
  cases decoded
  exact reason

def commanding : Connection where
  reads := [utf8 "POST /v1/agents/commands HTTP/1.1\r\nContent-Length: 56\r\n\r\n",
    utf8 "\x7b\"agent_id\":\"a\",\"kind\":\"pause_exports\",\"reason\":\"drill\"\x7d"]
  requestNumber := 8
  now := 1
  unique draw := draw
  count := 1

/-- An agent that has been registered is handed out a command. -/
theorem heartbeat_of_run_is_read_registered :
    ∃ body later, heartbeat (serverDuring plainServer registration).toRuntime [("agent_id", .string "a"), ("tenant_id", .string "t")]
        (serveAll plainServer defaultMaxBodyBytes (fun _ => "") emptyStores [registration, commanding]) = .ok body later ∧
      ∃ commands, readHeartbeat (fun _ => .ok (valueOf plainServer.showFloat body))
        (response (serverDuring plainServer registration).toRuntime 200 body) = .ok commands ∧
        ∃ command ∈ commands, command.kind = .pauseExports ∧ command.reason = "drill" := by
  have asks : ∀ connection ∈ [registration, commanding], AsksFor plainServer defaultMaxBodyBytes Worded connection := by
    have registering : AsksFor plainServer defaultMaxBodyBytes Worded registration :=
      asksFor_of_body plainServer (utf8 "\x7b\"agent_id\":\"a\",\"tenant_id\":\"t\"\x7d") (by decide +kernel) rfl
        ⟨"", rfl⟩
    have enqueuing : AsksFor plainServer defaultMaxBodyBytes Worded commanding :=
      asksFor_of_body plainServer (utf8 "\x7b\"agent_id\":\"a\",\"kind\":\"pause_exports\",\"reason\":\"drill\"\x7d")
        (by decide +kernel) rfl ⟨"drill", rfl⟩
    exact List.forall_mem_cons.mpr ⟨registering, List.forall_mem_singleton.mpr enqueuing⟩
  have returns : (match heartbeat (serverDuring plainServer registration).toRuntime
      [("agent_id", .string "a"), ("tenant_id", .string "t")]
      (serveAll plainServer defaultMaxBodyBytes (fun _ => "") emptyStores [registration, commanding]) with
    | .ok body _ => isLegible plainServer.showFloat nestingLimit body
    | .error _ _ => false) = true := by
    decide +kernel
  have handed : ((handedOut (serverDuring plainServer registration).toRuntime ((serveAll plainServer defaultMaxBodyBytes
      (fun _ => "") emptyStores [registration, commanding]).commandsOf "a")).map asRead).any (fun command =>
        decide (command.kind = .pauseExports ∧ command.reason = "drill")) = true := by
    decide +kernel
  split at returns
  next body later answered =>
    have reads : ReadsJson plainServer.showFloat (fun _ => .ok (valueOf plainServer.showFloat body)) body := fun _ _ _ => rfl
    obtain ⟨commands, done, all⟩ := (heartbeat_of_run_is_read plainServer (fun _ => "") sound_empty asks registration rfl
      answered returns reads).2 (fun _ worded => worded)
    obtain ⟨command, member, fields⟩ := List.any_eq_true.mp handed
    obtain ⟨queued, inside, same⟩ := List.mem_map.mp member
    refine ⟨body, later, answered, commands, done, asRead queued, all queued inside, ?_⟩
    rw [same]
    exact of_decide_eq_true fields
  next => cases returns

/-- At any time in any run of connections, an agent with the key of the control plane reads a legible
answer about its configuration, and takes for right what it is offered: a stored version, under its number,
as the control plane writes it. -/
theorem config_update_of_run_is_taken (sound : Sound (fun _ => True) start) (maxBodyBytes : Nat) (connections : List Connection)
    (few : (serveAll server maxBodyBytes faultMessage start connections).events.length < 2 ^ 64)
    (connection : Connection) {attrs : JsonObject F} {body : Encodable F} {later : Stores server.enumerate}
    (answered : configUpdate (serverDuring server connection).toRuntime attrs
      (serveAll server maxBodyBytes faultMessage start connections) = .ok body later)
    (legible : isLegible server.showFloat nestingLimit body = true)
    {fromStr : String → Except String Yaml} (reads : ReadsJson server.showFloat fromStr body) {E : Type}
    (client : Agent.ControlClient E) (sha256 : client.sha256Hex = server.sha256) (hmac : client.hmacSha256Hex = server.hmacSha256)
    (signingKey : client.configSigningKey = server.signingKey)
    (solid : ∀ key payload, ∀ c ∈ (client.hmacSha256Hex key payload).toList, isWhitespace c = false) :
    readConfigUpdate fromStr (response (serverDuring server connection).toRuntime 200 body) = .ok none ∨
      ∃ key, ∃ stored ∈ (serveAll server maxBodyBytes faultMessage start connections).pipelines key, ∃ update,
        readConfigUpdate fromStr (response (serverDuring server connection).toRuntime 200 body) = .ok (some update) ∧
          update.version.toNat = stored.config.version ∧
          toAgentYaml server.enumerate server.precedes server.showFloat server.charlistError stored.config =
            .ok update.pipelineConfig ∧
          Passes client update := by
  have anything : ∀ connection ∈ connections, AsksFor server maxBodyBytes (fun _ => True) connection :=
    fun _ _ _ _ _ _ => trivial
  have reached := (serveAll_good server faultMessage anything ⟨sound, Grown.refl⟩).1
  have read : readConfigUpdate fromStr (response (serverDuring server connection).toRuntime 200 body) =
      Agent.parseConfigUpdateResponse (valueOf server.showFloat body) := by
    have value : meant fromStr (response (serverDuring server connection).toRuntime 200 body) =
      .ok (valueOf server.showFloat body) := meant_response fromStr legible reads
    rw [readConfigUpdate, value]
    rfl
  rcases configUpdate_eq_ok answered with none | ⟨key, stored, member, payload, written, offered⟩
  · rw [read, none]
    exact Or.inl parseConfigUpdateResponse_nil
  · have small : stored.config.version < 2 ^ 64 := lt_of_le_of_lt (version_le_events reached member) few
    refine Or.inr ⟨key, stored, member, updateAsRead server.toRuntime stored.config.version payload, ?_, ?_, written, ?_⟩
    · rw [read, offered]
      exact parseConfigUpdateResponse_encodeUpdate small payload
    · exact UInt64.toNat_ofNat_of_lt small
    · exact passes_updateAsRead sha256 hmac signingKey solid _ payload

def publicationBody : String := "\x7b\"tenant_id\":\"t\",\"receivers\":[\x7b\"name\":\"otlp\",\"type\":\"otlp\"\x7d]," ++
  "\"exporters\":[\x7b\"name\":\"out\",\"type\":\"stdout\"\x7d],\"routes\":[\x7b\"signal\":\"traces\",\"exporters\":[\"out\"]\x7d]\x7d"

def publication : Connection where
  reads := [utf8 "POST /v1/pipelines HTTP/1.1\r\nContent-Length: 157\r\n\r\n", utf8 publicationBody]
  requestNumber := 8
  now := 1
  unique draw := draw
  count := 1

/-- The hash functions of the server, and nothing behind them. -/
def plainClient : Agent.ControlClient Unit where
  tenantId := "t"
  configSigningKey := plainServer.signingKey
  sha256Hex := plainServer.sha256
  hmacSha256Hex := plainServer.hmacSha256
  serde := .core
  build _ := .ok ()

/-- An agent and a pipeline for it. -/
theorem config_update_of_run_is_taken_published :
    ∃ body later, configUpdate (serverDuring plainServer publication).toRuntime
        [("agent_id", .string "a"), ("tenant_id", .string "t")]
        (serveAll plainServer defaultMaxBodyBytes (fun _ => "") emptyStores [registration, publication]) = .ok body later ∧
      ∃ read, readConfigUpdate (fun _ => .ok (valueOf plainServer.showFloat body))
          (response (serverDuring plainServer publication).toRuntime 200 body) = .ok read ∧
        ∀ update ∈ read, Passes plainClient update := by
  have returns : (match configUpdate (serverDuring plainServer publication).toRuntime
      [("agent_id", .string "a"), ("tenant_id", .string "t")]
      (serveAll plainServer defaultMaxBodyBytes (fun _ => "") emptyStores [registration, publication]) with
    | .ok body _ => isLegible plainServer.showFloat nestingLimit body
    | .error _ _ => false) = true := by
    decide +kernel
  have blank : ∀ key payload, ∀ c ∈ (plainClient.hmacSha256Hex key payload).toList, isWhitespace c = false :=
    fun _ _ _ member => nomatch member
  split at returns
  next body later answered =>
    have reads : ReadsJson plainServer.showFloat (fun _ => .ok (valueOf plainServer.showFloat body)) body := fun _ _ _ => rfl
    refine ⟨body, later, answered, ?_⟩
    rcases config_update_of_run_is_taken plainServer (fun _ => "") sound_empty defaultMaxBodyBytes [registration, publication]
      (by decide +kernel) publication answered returns reads plainClient rfl rfl rfl blank with nothing | offered
    · exact ⟨none, nothing, fun update member => nomatch member⟩
    · obtain ⟨key, stored, member, update, read, -, -, passes⟩ := offered
      refine ⟨some update, read, ?_⟩
      intro other same
      cases same
      exact passes
  next => cases returns

omit [DecidableEq F] in
/-- Both messages are clear, and the version fits. -/
theorem legible_registration {version : Nat} (small : version < 2 ^ 64) :
    isLegible server.showFloat nestingLimit (.map [(.atom "agent", .map (registrationEntries version))]) = true := by
  have message : isClear (registerMessage version) = true := by
    unfold registerMessage
    split_ifs <;> decide
  have clear : ∀ text ∈ ["agent", "accepted", "config_version", "message"], isClear text = true := by decide
  have short : ∀ text ∈ ["agent", "accepted", "config_version", "message"], (Json.escape text).length + 2 ≤ keyLimit := by
    decide
  simp only [List.forall_mem_cons] at clear short
  have upper : (version : Int) < 2 ^ 64 := by omega
  simp only [isLegible, nestingLimit, registrationEntries, MapKey.text, List.all_cons, List.all_nil, Bool.and_true, clear, short,
    message, upper, decide_true, Bool.true_and, Bool.and_eq_true, decide_eq_true_eq]
  have distinct : ["accepted", "config_version", "message"].Nodup := by decide
  exact ⟨decide_eq_true (List.nodup_singleton _), decide_eq_true distinct, by omega⟩

/-- At any time in any run of connections, an agent that registers is accepted and reads the latest version
of its tenant's default pipeline, and is told whether there is one. -/
theorem registration_of_run_is_read (sound : Sound (fun _ => True) start) (maxBodyBytes : Nat) (connections : List Connection)
    (few : (serveAll server maxBodyBytes faultMessage start connections).events.length < 2 ^ 64)
    (connection : Connection) {attrs : JsonObject F} {body : Encodable F} {later : Stores server.enumerate}
    (answered : registerAgent (serverDuring server connection).toRuntime attrs
      (serveAll server maxBodyBytes faultMessage start connections) = .ok body later)
    {fromStr : String → Except String Yaml} (reads : ReadsJson server.showFloat fromStr body) :
    ∃ tenantId, attr attrs "tenant_id" = .string tenantId ∧ ∃ registered : Agent.RegisterResponse,
      readRegistration fromStr (response (serverDuring server connection).toRuntime 200 body) = .ok registered ∧
        registered.accepted = true ∧
        registered.configVersion.toNat =
          (serveAll server maxBodyBytes faultMessage start connections).latestConfigVersion tenantId ∧
        registered.message = registerMessage registered.configVersion.toNat := by
  have anything : ∀ connection ∈ connections, AsksFor server maxBodyBytes (fun _ => True) connection :=
    fun _ _ _ _ _ _ => trivial
  have reached := (serveAll_good server faultMessage anything ⟨sound, Grown.refl⟩).1
  obtain ⟨tenantId, named, written⟩ := registerAgent_eq_ok answered
  have small : (serveAll server maxBodyBytes faultMessage start connections).latestConfigVersion tenantId < 2 ^ 64 :=
    lt_of_le_of_lt (latestConfigVersion_le_events reached tenantId) few
  have text : body = .map [(.atom "agent", .map (registrationEntries
      ((serveAll server maxBodyBytes faultMessage start connections).latestConfigVersion tenantId)))] := written
  have value : meant fromStr (response (serverDuring server connection).toRuntime 200 body) =
      .ok (valueOf server.showFloat body) := meant_response fromStr (text ▸ legible_registration server small) reads
  refine ⟨tenantId, named, ?_⟩
  generalize (serveAll server maxBodyBytes faultMessage start connections).latestConfigVersion tenantId = version at text small ⊢
  have back : (UInt64.ofNat version).toNat = version := UInt64.toNat_ofNat_of_lt small
  refine ⟨⟨true, UInt64.ofNat version, registerMessage version⟩, ?_, rfl, back, ?_⟩
  · rw [readRegistration, value, text]
    exact parseRegisterResponse_registrationEntries small
  · exact congrArg registerMessage back.symm

/-- The agent registers once more, behind the first version of its pipeline. -/
theorem registration_of_run_is_read_again :
    ∃ body later, registerAgent (serverDuring plainServer registration).toRuntime
        [("agent_id", .string "a"), ("tenant_id", .string "t")]
        (serveAll plainServer defaultMaxBodyBytes (fun _ => "") emptyStores [registration, publication]) = .ok body later ∧
      ∃ registered : Agent.RegisterResponse, readRegistration (fun _ => .ok (valueOf plainServer.showFloat body))
        (response (serverDuring plainServer registration).toRuntime 200 body) = .ok registered ∧
        registered.accepted = true ∧ registered.configVersion.toNat = 1 := by
  have returns : returned (registerAgent (serverDuring plainServer registration).toRuntime
      [("agent_id", .string "a"), ("tenant_id", .string "t")]
      (serveAll plainServer defaultMaxBodyBytes (fun _ => "") emptyStores [registration, publication])) = true := by
    decide +kernel
  obtain ⟨body, later, answered⟩ := eq_ok_of_returned returns
  have reads : ReadsJson plainServer.showFloat (fun _ => .ok (valueOf plainServer.showFloat body)) body := fun _ _ _ => rfl
  obtain ⟨tenantId, named, registered, read, accepted, version, -⟩ := registration_of_run_is_read plainServer (fun _ => "")
    sound_empty defaultMaxBodyBytes [registration, publication] (by decide +kernel) registration answered reads
  cases named
  have latest : (serveAll plainServer defaultMaxBodyBytes (fun _ => "") emptyStores [registration, publication]).latestConfigVersion
      "t" = 1 := by
    decide +kernel
  exact ⟨body, later, answered, registered, read, accepted, version.trans latest⟩

end Runs

end JsonRequest

end TelemetryFabric.ControlPlane
