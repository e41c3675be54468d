import Pipane.Server.BackendProtocolHandler.Responses
import Pipane.Server.FrameRouter
import Pipane.Shared.WsProtocol.ServerMessage.Encoding

open javascript json pipane.backend_protocol pipane.backend_protocol_handler pipane.data_channel_backend_api
  pipane.ws_protocol

namespace pipane.frame_router

/-- The keys of the objects inside a command: those of its model and of its images. -/
def nestedKeys : List JsString :=
  [js "provider", js "modelId", js "type", js "data", js "mimeType", js "uploadedPath"]

theorem keys_image (image : WireImage) : keys image.value ⊆ nestedKeys := by
  have hkeys : [js "type", js "data", js "mimeType"] ⊆ nestedKeys ∧
      [js "type", js "uploadedPath", js "mimeType"] ⊆ nestedKeys := by
    decide
  cases image with
  | inlined data mimeType => exact hkeys.1
  | uploaded uploadedPath mimeType => exact hkeys.2

theorem keys_model (model : CompactModelRef) : keys model.value ⊆ nestedKeys := by
  have hkeys : [js "provider", js "modelId"] ⊆ nestedKeys := by decide
  exact hkeys

theorem keys_texts (texts : List JsString) : keys (textsValue texts) = [] := by
  rw [List.eq_nil_iff_forall_not_mem]
  intro k hk
  obtain ⟨item, hitem, hk⟩ := mem_itemKeys.mp hk
  obtain ⟨text, -, rfl⟩ := List.mem_map.mp hitem
  cases hk

/-- Every member holds nothing but those objects. -/
def KeysNested (members : List (JsString × Value)) : Prop :=
  ∀ member ∈ members, keys member.2 ⊆ nestedKeys

theorem KeysNested.append {members more : List (JsString × Value)} (h : KeysNested members) (hmore : KeysNested more) :
    KeysNested (members ++ more) := by
  intro member hmember
  obtain hmember | hmember := List.mem_append.mp hmember
  · exact h member hmember
  · exact hmore member hmember

theorem KeysNested.cons {key : JsString} {value : Value} {members : List (JsString × Value)}
    (h : keys value ⊆ nestedKeys) (hmembers : KeysNested members) : KeysNested ((key, value) :: members) := by
  intro member hmember
  obtain rfl | hmember := List.mem_cons.mp hmember
  · exact h
  · exact hmembers member hmember

theorem KeysNested.text {key text : JsString} {members : List (JsString × Value)} (hmembers : KeysNested members) :
    KeysNested ((key, .str text) :: members) :=
  hmembers.cons (List.nil_subset _)

theorem keysNested_nil : KeysNested [] := by
  intro member hmember
  cases hmember

theorem keysNested_optional {α : Type} {key : String} {write : α → Value} (value : Option α)
    (h : ∀ a, keys (write a) ⊆ nestedKeys) : KeysNested (optionalMember key value write) := by
  cases value with
  | none => exact keysNested_nil
  | some a => exact keysNested_nil.cons (h a)

theorem keysNested_optionalMembers (fields : PromptFields) : KeysNested fields.optionalMembers := by
  refine (keysNested_optional _ fun _ => List.nil_subset _).append ?_
  refine (keysNested_optional _ fun _ => List.nil_subset _).append ?_
  refine (keysNested_optional _ fun _ => List.nil_subset _).append (keysNested_optional _ fun images => ?_)
  intro k hk
  obtain ⟨item, hitem, hk⟩ := mem_itemKeys.mp hk
  obtain ⟨image, -, rfl⟩ := List.mem_map.mp hitem
  exact keys_image image hk

theorem keysNested_fields (payload : ClientCommandPayload) : KeysNested payload.fields := by
  have htext : ∀ (key : String) (value : Option JsString), KeysNested (optionalMember key value .str) :=
    fun _ value => keysNested_optional value fun _ => List.nil_subset _
  have hnil : ([] : List JsString) ⊆ nestedKeys := List.nil_subset _
  cases payload with
  | install_pi | get_available_models | get_default_model | get_session_statuses | reload_processes =>
    exact keysNested_nil
  | abort sessionPath | hard_kill sessionPath | get_session_stats sessionPath => exact keysNested_nil.text
  | remove_steering sessionPath index => exact (keysNested_nil.cons (List.nil_subset _)).text
  | fork sessionPath entryId => exact keysNested_nil.text.text
  | set_session_name sessionPath name => exact keysNested_nil.text.text
  | compact sessionPath customInstructions => exact (htext _ _).text
  | fork_current sessionPath operationId => exact (htext _ _).text
  | steer sessionPath message operationId => exact (htext _ _).text.text
  | get_commands sessionPath cwd => exact (htext _ _).append (htext _ _)
  | fork_prompt fields => exact ((keysNested_optionalMembers fields).cons (keys_model _)).text.text
  | prompt fields cwd =>
    exact ((htext _ _).append ((keysNested_optionalMembers fields).cons (keys_model _)).text).text
  | subscribe_session command =>
    have hhashes : ∀ hashes, keys (textsValue hashes) ⊆ nestedKeys := fun hashes => by rw [keys_texts]; exact hnil
    refine ((htext _ _).append ((keysNested_optional _ hhashes).append ?_)).text
    split
    · exact keysNested_nil.cons hnil
    · exact keysNested_nil

theorem keys_command (payload : ClientCommandPayload) (id : JsString) :
    ∀ k ∈ keys (.obj (commandMembers payload id)), ¬ js "\"kind\"" <:+ quote k := by
  have hnested : ∀ k ∈ nestedKeys, ¬ js "\"kind\"" <:+ quote k := by decide
  have hnames : ∀ k ∈ js "protocolVersion" :: js "id" :: js "type" :: payload.type.fieldNames,
      ¬ js "\"kind\"" <:+ quote k := by
    cases payload.type <;> decide
  have hfields : KeysNested (commandMembers payload id) :=
    (((keysNested_fields payload).cons (List.nil_subset _)).cons (List.nil_subset _)).cons (List.nil_subset _)
  intro k hk
  obtain ⟨member, hmember, rfl | hk⟩ := mem_memberKeys.mp hk
  · exact hnames _ ((names_commandMembers payload id).subset (List.mem_map_of_mem hmember))
  · exact hnested k (hfields member hmember hk)

theorem isBackendProtocolFrame_command (payload : ClientCommandPayload) (id : JsString) :
    isBackendProtocolFrame (encodeClientCommand payload id) = false := by
  rw [Bool.eq_false_iff]
  intro h
  obtain ⟨-, k, hk, hsuffix⟩ := keys_of_gate (canonical_command payload id) h
  exact keys_command payload id k hk hsuffix

theorem lookup_eq_none_of_not_mem {members : List (JsString × Value)} {key : JsString}
    (h : key ∉ members.map Prod.fst) : members.lookup key = none := by
  rw [List.lookup_eq_none_iff]
  intro member hmember
  rw [bne_iff_ne]
  rintro rfl
  exact h (List.mem_map_of_mem hmember)

theorem decodeBackendResponse_unversioned {raw : JsString} {members : List (JsString × Value)}
    (hparse : parse raw = some (.obj members)) (hversion : members.lookup (js "v") = none)
    (response : BackendResponseFrame) : decodeBackendResponse raw ≠ .ok response := by
  have henvelope : ∃ error, parseEnvelope raw = .error error := by
    unfold parseEnvelope
    split
    · exact ⟨_, rfl⟩
    · have hget : (Value.obj members).get? (js "v") = none := hversion
      rw [hparse]
      simp only [isRecord, hget, Option.any_none, Bool.false_eq_true, not_true_eq_false, not_false_eq_true, if_true,
        if_false]
      exact ⟨_, rfl⟩
  obtain ⟨error, henvelope⟩ := henvelope
  unfold decodeBackendResponse
  rw [henvelope]
  exact fun h => by cases h

theorem handleFrame_message (client : DataChannelBackendApi) (message : ServerMessagePayload) :
    client.handleFrame (encodeServerMessage message.members) = client := by
  have hversion : (messageMembers message).lookup (js "v") = none := by
    refine lookup_eq_none_of_not_mem fun hmem => ?_
    exact (names_distinct message).2 (((names_members message).cons_cons _).subset hmem)
  have hrefused := decodeBackendResponse_unversioned (parse_encodeServerMessage message) hversion
  unfold DataChannelBackendApi.handleFrame
  split
  · rfl
  · split
    · rfl
    · rename_i response hresponse
      exact absurd hresponse (hrefused response)

/-- What a response carries: a result, which may be `undefined`, or an error with a declared code. -/
inductive ResponseBody
  | result (value : Option SerializableValue)
  | failed (error : BackendApiErrorPayload) (declared : error.code ∈ BACKEND_ERROR_CODES)

def ResponseBody.outcome : ResponseBody → Except BackendApiErrorPayload (Option Value)
  | .result value => .ok (value.map (·.value))
  | .failed error _ => .error error

/-- The frame of a response to a request. -/
def ResponseBody.frame (body : ResponseBody) (request : BackendRequestFrame) : JsString :=
  encodeBackendResponse request.id request.method body.outcome

/-- What the client settles a request with. -/
def ResponseBody.delivered : ResponseBody → Option (Except BackendApiErrorPayload Value)
  | .result value => value.map fun value => .ok value.value
  | .failed error _ => some (.error error)

/-- The response settles the request that is pending under its id. -/
def Handles (client : DataChannelBackendApi) (request : BackendRequestFrame) (body : ResponseBody) : Prop :=
  ∃ delivered, body.delivered = some delivered ∧ client.handleFrame (body.frame request) =
    { pending := client.pending.erase request.id
      settled := client.settled ++ [(request.id, settlement delivered)] }

/-- The response names its request and its method, has a result or an error with a message, and fits a frame. -/
def Handleable (request : BackendRequestFrame) (body : ResponseBody) : Prop :=
  request.id ≠ [] ∧ request.method ≠ [] ∧
    match body with
    | .result none => False
    | .result (some value) => Fits request value.value
    | .failed error _ => error.message ≠ [] ∧ Fits request error.value

/-- The members that a response ends with. -/
def ResponseBody.rest : ResponseBody → List (JsString × Value)
  | .result none => [(js "success", .bool true)]
  | .result (some value) => [(js "success", .bool true), (js "result", value.value)]
  | .failed error _ => [(js "success", .bool false), (js "error", error.value)]

theorem frame_eq (body : ResponseBody) (request : BackendRequestFrame) :
    body.frame request = stringify (.obj (responseMembers request.id request.method body.rest)) := by
  cases body with
  | result value => cases value <;> rfl
  | failed error declared => rfl

theorem canonical_body (body : ResponseBody) (id method : JsString) :
    (Value.obj (responseMembers id method body.rest)).Canonical := by
  cases body with
  | result value =>
    cases value with
    | none => exact canonical_undefined
    | some value => exact canonical_success value.canonical
  | failed error declared => exact canonical_failure error

theorem decode_nameless {request : BackendRequestFrame} (h : request.id = [] ∨ request.method = [])
    (body : ResponseBody) (response : BackendResponseFrame) :
    decodeBackendResponse (body.frame request) ≠ .ok response := by
  unfold decodeBackendResponse
  rw [frame_eq, parseEnvelope_response (canonical_body body _ _)]
  split
  · exact fun h => by cases h
  · rename_i value hvalue
    split at hvalue
    · cases hvalue
    · cases hvalue
      obtain ⟨hid, hmethod, -⟩ := get?_response request.id request.method body.rest
      dsimp only
      rw [hid, hmethod]
      obtain hempty | hempty := h
      · rw [hempty]
        exact fun h => by cases h
      · rw [hempty]
        split
        · rename_i hnone _
          cases hnone
        · exact fun h => by cases h

/-- The client decodes exactly the responses that it can handle. -/
theorem decode_frame (request : BackendRequestFrame) (body : ResponseBody) :
    (Handleable request body → ∃ delivered, body.delivered = some delivered ∧
      decodeBackendResponse (body.frame request) =
        .ok { id := request.id, method := request.method, outcome := delivered }) ∧
    (¬ Handleable request body → ∀ response, decodeBackendResponse (body.frame request) ≠ .ok response) := by
  by_cases hnames : request.id ≠ [] ∧ request.method ≠ []
  · obtain ⟨hid, hmethod⟩ := hnames
    cases body with
    | result value =>
      cases value with
      | none => exact ⟨fun h => absurd h.2.2 id, fun _ => decode_undefined hid hmethod⟩
      | some value =>
        have hdecode : decodeBackendResponse ((ResponseBody.result (some value)).frame request) = _ :=
          decode_success hid hmethod value
        constructor
        · exact fun h => ⟨_, rfl, hdecode.trans (if_pos h.2.2)⟩
        · intro h response
          have hfits : ¬ Fits request value.value := fun hfits => h ⟨hid, hmethod, hfits⟩
          rw [hdecode, if_neg hfits]
          exact fun hok => by cases hok
    | failed error declared =>
      have hdecode : decodeBackendResponse ((ResponseBody.failed error declared).frame request) = _ :=
        decode_error hid hmethod declared
      constructor
      · rintro ⟨-, -, hmessage, hfits⟩
        refine ⟨_, rfl, hdecode.trans ?_⟩
        rw [if_neg (not_not_intro hfits), if_neg hmessage]
      · intro h response
        rw [hdecode]
        split
        · exact fun hok => by cases hok
        · rename_i hfits
          rw [not_not] at hfits
          split
          · exact fun hok => by cases hok
          · rename_i hmessage
            exact absurd ⟨hid, hmethod, hmessage, hfits⟩ h
  · refine ⟨fun h => absurd ⟨h.1, h.2.1⟩ hnames, fun _ => decode_nameless ?_ body⟩
    by_contra hnot
    rw [not_or] at hnot
    exact hnames hnot

theorem isBackendProtocolFrame_body (request : BackendRequestFrame) (body : ResponseBody) :
    isBackendProtocolFrame (body.frame request) = true :=
  isBackendProtocolFrame_response _ _ _

theorem handles_iff {client : DataChannelBackendApi} {request : BackendRequestFrame} (body : ResponseBody)
    (hpending : client.pending.get? request.id = some { method := request.method }) :
    Handles client request body ↔ Handleable request body := by
  obtain ⟨haccepted, hrefused⟩ := decode_frame request body
  unfold Handles DataChannelBackendApi.handleFrame
  rw [if_neg (not_not_intro (isBackendProtocolFrame_body request body))]
  constructor
  · rintro ⟨delivered, -, hhandled⟩
    by_contra hnot
    split at hhandled
    · have hlength := congrArg (fun client : DataChannelBackendApi => client.settled.length) hhandled
      simp at hlength
    · rename_i response hresponse
      exact hrefused hnot response hresponse
  · intro h
    obtain ⟨delivered, hdelivered, hdecode⟩ := haccepted h
    refine ⟨delivered, hdelivered, ?_⟩
    rw [hdecode]
    simp only [hpending, ne_eq, not_true_eq_false, if_false]
    cases delivered <;> rfl

variable {ρ : Type}

/-- Commands go to the application listeners, and requests and responses to the semantic ones, whatever texts they
    carry; the client of the semantic API leaves every message of the application protocol alone, and the gate takes a
    message for a frame of the other protocol only for the keys of its objects; and a response settles its request if
    and only if it has an id, a method, a result or an error with a message, and fits a frame. -/
theorem frames_demultiplexed (routed : RoutedConnections ρ) (client : DataChannelBackendApi)
    (command : ClientCommandPayload) (id : JsString) (message : ServerMessagePayload)
    (request answered : BackendRequestFrame) (body : ResponseBody) :
    routed.onMessage (encodeClientCommand command id) =
      { routed with application := routed.application.emitMessage (encodeClientCommand command id) } ∧
    routed.onMessage (encodeBackendRequest request) =
      { routed with semantic := routed.semantic.emitMessage (encodeBackendRequest request) } ∧
    routed.onMessage (body.frame answered) =
      { routed with semantic := routed.semantic.emitMessage (body.frame answered) } ∧
    client.handleFrame (encodeServerMessage message.members) = client ∧
    (isBackendProtocolFrame (encodeServerMessage message.members) = true →
      (∃ k ∈ keys (.obj (messageMembers message)), js "\"v\"" <:+ quote k) ∧
        ∃ k ∈ keys (.obj (messageMembers message)), js "\"kind\"" <:+ quote k) ∧
    (client.pending.get? answered.id = some { method := answered.method } →
      (Handles client answered body ↔ Handleable answered body)) := by
  refine ⟨?_, ?_, ?_, handleFrame_message client message, keys_of_gate (canonical_message message), handles_iff body⟩
  · rw [RoutedConnections.onMessage, isBackendProtocolFrame_command, if_neg (by decide)]
  · rw [RoutedConnections.onMessage, isBackendProtocolFrame_request, if_pos rfl]
  · rw [RoutedConnections.onMessage, isBackendProtocolFrame_body, if_pos rfl]

/-- A client that waits for the sessions. -/
def waitingClient : DataChannelBackendApi where
  pending := OrderedMap.empty.set listSessions.id { method := listSessions.method }
  settled := []

theorem frames_demultiplexed_listSessions :
    Handles waitingClient listSessions (.result (some ⟨.arr [], trivial⟩)) := by
  have hfits : Fits listSessions (.arr []) := by decide +kernel
  have hroutes := frames_demultiplexed (⟨⟨[], []⟩, ⟨[], []⟩⟩ : RoutedConnections Unit) waitingClient .install_pi
    (js "req_1") (.sessions_changed []) listSessions listSessions (.result (some ⟨.arr [], trivial⟩))
  exact (hroutes.2.2.2.2.2 rfl).mpr ⟨by decide, by decide, hfits⟩

/-- The response with an empty error message, which the server sends, is not handled. -/
theorem empty_message_is_not_handled :
    waitingClient.pending.get? listSessions.id = some { method := listSessions.method } ∧
      ¬ Handles waitingClient listSessions
        (.failed { code := js "internal_error", message := [] } (by decide)) := by
  refine ⟨rfl, fun h => ?_⟩
  obtain ⟨-, -, hmessage, -⟩ := (handles_iff _ rfl).mp h
  exact hmessage rfl

end pipane.frame_router
