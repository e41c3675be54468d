import Pipane.Shared.WsProtocol.ClientCommand.Codec
import Pipane.Shared.WsProtocol.ServerMessage

open javascript json pipane.jsonl_sync

namespace pipane.ws_protocol

theorem canonicalMembers_map {α : Type} {f : JsString × α → Value} (h : ∀ entry, (f entry).Canonical) :
    ∀ entries : List (JsString × α), CanonicalMembers (entries.map fun entry => (entry.1, f entry))
  | [] => trivial
  | entry :: rest => ⟨h entry, canonicalMembers_map h rest⟩

theorem canonical_recordValue {α : Type} {entries : OrderedMap JsString α} {write : α → Value}
    (h : ∀ a, (write a).Canonical) : (recordValue entries write).Canonical := by
  refine ⟨?_, canonicalMembers_map (fun entry => h entry.2) entries.entries⟩
  rw [List.map_map]
  exact entries.nodup

theorem canonical_textsValue (texts : List JsString) : (textsValue texts).Canonical :=
  canonicalItems_map (f := Value.str) (fun _ => trivial) texts

theorem canonical_timing (timing : ToolCallTiming) : timing.value.Canonical := by
  have hnames : [js "startedAt", js "completedAt"].Nodup := by decide
  refine ⟨List.Sublist.nodup ((keys_optionalMember _).cons_cons _) hnames, timing.startedCanonical, ?_⟩
  cases hcompleted : timing.completedAt with
  | none => trivial
  | some n => exact ⟨timing.completedCanonical n hcompleted, trivial⟩

theorem canonical_metadata (state : WireSessionStateMetadata) : state.value.Canonical := by
  have hnames : [js "isStreaming", js "pendingToolCalls", js "toolCallTimings", js "model", js "thinkingLevel",
      js "steeringQueue", js "error"].Nodup := by
    decide
  refine ⟨List.Sublist.nodup ?_ hnames, trivial, canonical_textsValue _, canonical_recordValue canonical_timing, ?_,
    trivial, canonical_textsValue _, canonical_optionalMember _ fun _ => trivial⟩
  · exact ((((((keys_optionalMember _).cons_cons _).cons_cons _).cons_cons _).cons_cons _).cons_cons _).cons_cons _
  · cases state.model with
    | none => trivial
    | some model => exact canonical_model model

theorem canonical_body (body : MessageBody) : body.value.Canonical := by
  have hnames : [js "hash", js "message"].Nodup := by decide
  exact ⟨hnames, trivial, body.message.canonical, trivial⟩

theorem canonical_patch (patch : Patch) : (patchValue patch).Canonical := by
  have hnames : [js "offset", js "deleteCount", js "insert"].Nodup := by decide
  exact ⟨hnames, trivial, trivial, trivial, trivial⟩

/-- The names of the members of a `session_sync` operation. -/
def WireSyncOp.names : WireSyncOp → List JsString
  | .sync (.full _ _) => [js "op", js "data", js "hash"]
  | .sync (.delta _ _ _) => [js "op", js "patches", js "hash", js "baseHash"]
  | .content _ _ _ _ => [js "op", js "hash", js "messageHashes", js "messages", js "state"]
  | .content_manifest _ _ _ _ _ => [js "op", js "hash", js "transferId", js "messageHashes", js "state", js "batchCount"]
  | .content_batch _ _ _ _ => [js "op", js "hash", js "transferId", js "batchIndex", js "messages"]
  | .not_modified _ => [js "op", js "hash"]

/-- The names that the members of a server message may have. -/
def ServerMessagePayload.names : ServerMessagePayload → List JsString
  | .success _ _ _ => [js "type", js "id", js "command", js "success", js "data"]
  | .failure _ _ _ _ => [js "type", js "id", js "command", js "success", js "code", js "error"]
  | .init _ _ _ => [js "type", js "sessionStatuses", js "steeringQueues", js "providerUsageStatuses"]
  | .pi_install_required _ _ _ _ => [js "type", js "command", js "installable", js "installing", js "message"]
  | .session_status_change _ _ => [js "type", js "sessionPath", js "status"]
  | .provider_usage _ => [js "type", js "statuses"]
  | .extension_status _ _ => [js "type", js "sessionPath", js "statuses"]
  | .extension_notification _ _ _ _ =>
    [js "type", js "sessionPath", js "operationId", js "message", js "notifyType"]
  | .session_sync _ _ op => js "type" :: js "sessionPath" :: js "revision" :: op.names
  | .control_state _ _ _ _ => [js "type", js "sessionPath", js "controlRevision", js "model", js "thinkingLevel"]
  | .session_attached _ _ _ => [js "type", js "sessionPath", js "cwd", js "firstMessage"]
  | .sessions_changed _ => [js "type", js "file"]

theorem names_op (op : WireSyncOp) : op.members.map Prod.fst = op.names := by
  cases op with
  | sync op => cases op <;> rfl
  | content | content_manifest | content_batch | not_modified => rfl

theorem names_members (payload : ServerMessagePayload) :
    (payload.members.map Prod.fst).Sublist payload.names := by
  cases payload with
  | success | failure | init | pi_install_required | session_status_change | provider_usage | extension_status
  | sessions_changed => exact List.Sublist.refl _
  | session_sync sessionPath revision op =>
    have hop : (op.members.map Prod.fst).Sublist op.names := by rw [names_op]
    exact ((hop.cons_cons _).cons_cons _).cons_cons _
  | extension_notification sessionPath operationId message notifyType =>
    rw [ServerMessagePayload.members, List.map_append, List.map_append]
    exact (((keys_optionalMember _).append (List.Sublist.refl _)).cons_cons _).cons_cons _
  | control_state sessionPath controlRevision model thinkingLevel =>
    rw [ServerMessagePayload.members, List.map_append, List.map_append]
    exact (((keys_optionalMember _).append (List.Sublist.refl _)).cons_cons _).cons_cons _
  | session_attached sessionPath cwd firstMessage =>
    rw [ServerMessagePayload.members, List.map_append, List.map_append]
    exact (((keys_optionalMember _).append (keys_optionalMember _)).cons_cons _).cons_cons _

theorem names_distinct (payload : ServerMessagePayload) :
    (js "protocolVersion" :: payload.names).Nodup ∧ js "v" ∉ js "protocolVersion" :: payload.names := by
  cases payload with
  | session_sync sessionPath revision op =>
    cases op with
    | sync op => cases op <;> exact ⟨of_decide_eq_true rfl, of_decide_eq_true rfl⟩
    | content | content_manifest | content_batch | not_modified =>
      exact ⟨of_decide_eq_true rfl, of_decide_eq_true rfl⟩
  | success | failure | init | pi_install_required | session_status_change | provider_usage | extension_status
  | extension_notification | control_state | session_attached | sessions_changed =>
    exact ⟨of_decide_eq_true rfl, of_decide_eq_true rfl⟩

theorem canonical_op (op : WireSyncOp) : CanonicalMembers op.members := by
  have hbodies : ∀ messages : List MessageBody, CanonicalItems (messages.map MessageBody.value) :=
    canonicalItems_map canonical_body
  cases op with
  | sync op =>
    cases op with
    | full data hash => exact ⟨trivial, trivial, trivial, trivial⟩
    | delta patches hash baseHash => exact ⟨trivial, canonicalItems_map canonical_patch _, trivial, trivial, trivial⟩
  | content hash messageHashes messages state =>
    exact ⟨trivial, trivial, canonical_textsValue _, hbodies _, canonical_metadata _, trivial⟩
  | content_manifest hash transferId messageHashes state batchCount =>
    exact ⟨trivial, trivial, trivial, canonical_textsValue _, canonical_metadata _, trivial, trivial⟩
  | content_batch hash transferId batchIndex messages =>
    exact ⟨trivial, trivial, trivial, trivial, hbodies _, trivial⟩
  | not_modified hash => exact ⟨trivial, trivial, trivial⟩

theorem canonical_members (payload : ServerMessagePayload) : CanonicalMembers payload.members := by
  have htext : ∀ (key : String) (value : Option JsString), CanonicalMembers (optionalMember key value .str) :=
    fun _ value => canonical_optionalMember value fun _ => trivial
  have htexts : ∀ entries : OrderedMap JsString JsString, (recordValue entries .str).Canonical :=
    fun _ => canonical_recordValue fun _ => trivial
  have htype : ∀ {type sessionPath : JsString},
      CanonicalMembers [(js "type", .str type), (js "sessionPath", .str sessionPath)] :=
    fun {_ _} => ⟨trivial, trivial, trivial⟩
  cases payload with
  | success id command data => exact ⟨trivial, trivial, trivial, trivial, data.canonical, trivial⟩
  | failure id command code error =>
    cases id <;> exact ⟨trivial, trivial, trivial, trivial, trivial, trivial, trivial⟩
  | init sessionStatuses steeringQueues providerUsageStatuses =>
    refine ⟨trivial, canonical_recordValue ?_, canonical_recordValue canonical_textsValue, htexts _, trivial⟩
    intro status
    cases status <;> trivial
  | pi_install_required command installable installing message =>
    exact ⟨trivial, trivial, trivial, trivial, trivial, trivial⟩
  | session_status_change sessionPath status => cases status <;> exact ⟨trivial, trivial, trivial, trivial⟩
  | provider_usage statuses => exact ⟨trivial, htexts _, trivial⟩
  | extension_status sessionPath statuses => exact ⟨trivial, trivial, htexts _, trivial⟩
  | extension_notification sessionPath operationId message notifyType =>
    refine canonicalMembers_append htype (canonicalMembers_append (htext _ _) ⟨trivial, ?_, trivial⟩)
    cases notifyType <;> trivial
  | session_sync sessionPath revision op => exact ⟨trivial, trivial, trivial, canonical_op op⟩
  | control_state sessionPath controlRevision model thinkingLevel =>
    have hrevision : CanonicalMembers (optionalMember "controlRevision" controlRevision natValue) :=
      canonical_optionalMember _ fun _ => trivial
    exact canonicalMembers_append htype (canonicalMembers_append hrevision ⟨model.canonical, trivial, trivial⟩)
  | session_attached sessionPath cwd firstMessage =>
    exact canonicalMembers_append htype (canonicalMembers_append (htext _ _) (htext _ _))
  | sessions_changed file => exact ⟨trivial, trivial, trivial⟩

/-- The members of a server message. -/
def messageMembers (payload : ServerMessagePayload) : List (JsString × Value) :=
  (js "protocolVersion", natValue WS_PROTOCOL_VERSION) :: payload.members

theorem canonical_message (payload : ServerMessagePayload) : (Value.obj (messageMembers payload)).Canonical := by
  refine ⟨?_, trivial, canonical_members payload⟩
  exact ((names_members payload).cons_cons _).nodup (names_distinct payload).1

theorem parse_encodeServerMessage (payload : ServerMessagePayload) :
    parse (encodeServerMessage payload.members) = some (.obj (messageMembers payload)) :=
  parse_stringify (canonical_message payload)

end pipane.ws_protocol
