import Pipane.Server.BackendProtocolHandler
import Pipane.Client.DataChannelBackendApi
import Pipane.Lib.Json.ByteLength
import Pipane.Shared.BackendProtocol.Gate

open javascript json pipane.backend_protocol pipane.data_channel_backend_api

namespace pipane.backend_protocol_handler

/-- The codes of a `LocalBackendApiError`. -/
inductive LocalBackendApiErrorCode
  | invalidRequest
  | notFound
  | forbidden
  | conflict
  | internalError

def LocalBackendApiErrorCode.text : LocalBackendApiErrorCode → JsString
  | .invalidRequest => js "invalid_request"
  | .notFound => js "not_found"
  | .forbidden => js "forbidden"
  | .conflict => js "conflict"
  | .internalError => js "internal_error"

/-- What the API throws; `other` is anything but an `Error`, with its `String(error)`. -/
inductive ThrownError
  | localBackendApiError (code : LocalBackendApiErrorCode) (message : JsString)
  | error (message : JsString)
  | other (text : JsString)

def toApiError : ThrownError → BackendApiErrorPayload
  | .localBackendApiError code message => { code := code.text, message }
  | .error message => { code := js "internal_error", message }
  | .other text => { code := js "internal_error", message := text }

/-- A value that `JSON.stringify` can write, with `undefined` left out. -/
structure SerializableValue where
  value : Value
  canonical : value.Canonical

/-- What the API answers a dispatch with; `none` is `undefined`. -/
inductive ApiOutcome
  | returned (result : Option SerializableValue)
  | threw (error : ThrownError)

def ApiOutcome.response : ApiOutcome → Except BackendApiErrorPayload (Option Value)
  | .returned result => .ok (result.map (·.value))
  | .threw error => .error (toApiError error)

/-- The frame that `execute` ends with. -/
def executed (request : BackendRequestFrame) (outcome : ApiOutcome) : JsString :=
  encodeBackendResponse request.id request.method outcome.response

/-- The JSON texts of the id, of the method and of what the response carries fit a frame: the rest of the frame takes
    66 bytes. -/
def Fits (request : BackendRequestFrame) (body : Value) : Prop :=
  jsonBytes (.str request.id) + jsonBytes (.str request.method) + jsonBytes body + 66 ≤
    BACKEND_PROTOCOL_MAX_FRAME_BYTES

instance (request : BackendRequestFrame) (body : Value) : Decidable (Fits request body) := by
  unfold Fits
  infer_instance

/-- There is a result, or an error with a message, and it fits a frame. -/
def Deliverable (request : BackendRequestFrame) : ApiOutcome → Prop
  | .returned none => False
  | .returned (some result) => Fits request result.value
  | .threw error => (toApiError error).message ≠ [] ∧ Fits request (toApiError error).value

theorem canonical_apiError (error : BackendApiErrorPayload) : error.value.Canonical := by
  refine ⟨?_, trivial, trivial, trivial⟩
  simp only [List.map_cons, List.map_nil]
  decide

/-- The members of a response, in the order in which they are written. -/
def responseMembers (id method : JsString) (rest : List (JsString × Value)) : List (JsString × Value) :=
  [(js "v", .num (.int BACKEND_PROTOCOL_VERSION)), (js "kind", .str (js "response")), (js "id", .str id),
    (js "method", .str method)] ++ rest

theorem canonical_response {id method : JsString} {rest : List (JsString × Value)}
    (hnodup : ([js "v", js "kind", js "id", js "method"] ++ rest.map Prod.fst).Nodup) (h : CanonicalMembers rest) :
    (Value.obj (responseMembers id method rest)).Canonical := by
  refine ⟨?_, trivial, trivial, trivial, trivial, h⟩
  rw [responseMembers, List.map_append]
  exact hnodup

theorem canonical_success {id method : JsString} {result : Value} (h : result.Canonical) :
    (Value.obj (responseMembers id method [(js "success", .bool true), (js "result", result)])).Canonical := by
  refine canonical_response ?_ ⟨trivial, h, trivial⟩
  simp only [List.map_cons, List.map_nil]
  decide

theorem canonical_undefined {id method : JsString} :
    (Value.obj (responseMembers id method [(js "success", .bool true)])).Canonical := by
  refine canonical_response ?_ ⟨trivial, trivial⟩
  simp only [List.map_cons, List.map_nil]
  decide

theorem canonical_failure {id method : JsString} (error : BackendApiErrorPayload) :
    (Value.obj (responseMembers id method [(js "success", .bool false), (js "error", error.value)])).Canonical := by
  refine canonical_response ?_ ⟨trivial, canonical_apiError error, trivial⟩
  simp only [List.map_cons, List.map_nil]
  decide

theorem jsonBytes_response {id method : JsString} {rest : List (JsString × Value)}
    (h : (Value.obj (responseMembers id method rest)).Canonical) :
    jsonBytes (.obj (responseMembers id method rest)) =
      jsonBytes (.str id) + jsonBytes (.str method) + 41 + (rest.map memberBytes).sum := by
  have hkeys : jsonBytes (.str (js "v")) = 3 ∧ jsonBytes (.str (js "kind")) = 6 ∧
      jsonBytes (.str (js "id")) = 4 ∧ jsonBytes (.str (js "method")) = 8 := by
    decide +kernel
  have hvalues : jsonBytes (.num (.int BACKEND_PROTOCOL_VERSION)) = 1 ∧ jsonBytes (.str (js "response")) = 10 := by
    decide +kernel
  obtain ⟨hv, hkind, hid, hmethod⟩ := hkeys
  obtain ⟨hversion, hresponse⟩ := hvalues
  rw [jsonBytes_obj (by simp [responseMembers]) h, responseMembers, List.map_append, List.sum_append]
  simp only [memberBytes, List.map_cons, List.map_nil, List.sum_cons, List.sum_nil, hv, hkind, hid, hmethod, hversion,
    hresponse]
  omega

theorem jsonBytes_success {id method : JsString} {result : Value} (h : result.Canonical) :
    jsonBytes (.obj (responseMembers id method [(js "success", .bool true), (js "result", result)])) =
      jsonBytes (.str id) + jsonBytes (.str method) + jsonBytes result + 66 := by
  have hconstants : jsonBytes (.str (js "success")) = 9 ∧ jsonBytes (.bool true) = 4 ∧
      jsonBytes (.str (js "result")) = 8 := by
    decide +kernel
  obtain ⟨hsuccess, htrue, hresult⟩ := hconstants
  rw [jsonBytes_response (canonical_success h)]
  simp only [memberBytes, List.map_cons, List.map_nil, List.sum_cons, List.sum_nil, hsuccess, htrue, hresult]
  omega

theorem jsonBytes_failure {id method : JsString} (error : BackendApiErrorPayload) :
    jsonBytes (.obj (responseMembers id method [(js "success", .bool false), (js "error", error.value)])) =
      jsonBytes (.str id) + jsonBytes (.str method) + jsonBytes error.value + 66 := by
  have hconstants : jsonBytes (.str (js "success")) = 9 ∧ jsonBytes (.bool false) = 5 ∧
      jsonBytes (.str (js "error")) = 7 := by
    decide +kernel
  obtain ⟨hsuccess, hfalse, herror⟩ := hconstants
  rw [jsonBytes_response (canonical_failure error)]
  simp only [memberBytes, List.map_cons, List.map_nil, List.sum_cons, List.sum_nil, hsuccess, hfalse, herror]
  omega

theorem parseEnvelope_response {id method : JsString} {rest : List (JsString × Value)}
    (h : (Value.obj (responseMembers id method rest)).Canonical) :
    parseEnvelope (stringify (.obj (responseMembers id method rest))) =
      if BACKEND_PROTOCOL_MAX_FRAME_BYTES < jsonBytes (.obj (responseMembers id method rest)) then
        .error { code := js "invalid_request", message := js "Backend frame exceeds the size limit" }
      else .ok (.obj (responseMembers id method rest)) := by
  unfold parseEnvelope jsonBytes
  split
  · rfl
  · rw [parse_stringify h]
    rfl

theorem nonEmptyString?_eq_some {value : Option Value} {s : JsString} :
    nonEmptyString? value = some s ↔ value = some (.str s) ∧ s ≠ [] := by
  unfold nonEmptyString?
  split
  · rename_i t
    by_cases hempty : t = []
    · subst hempty
      simp
    · rw [if_neg hempty]
      constructor
      · intro h
        cases h
        exact ⟨rfl, hempty⟩
      · rintro ⟨h, -⟩
        cases h
        rfl
  · rename_i hother
    simp only [reduceCtorEq, false_iff, not_and]
    intro h
    exact absurd h (hother s)

theorem decodeBackendRequest_names {raw : JsString} {request : BackendRequestFrame}
    (h : decodeBackendRequest raw = .ok request) : request.id ≠ [] ∧ request.method ≠ [] := by
  unfold decodeBackendRequest at h
  split at h
  · cases h
  · dsimp only at h
    split at h
    · rename_i hid hmethod _
      split at h
      · cases h
      · split at h
        · cases h
        · split at h
          · cases h
          · cases h
            exact ⟨(nonEmptyString?_eq_some.mp hid).2, (nonEmptyString?_eq_some.mp hmethod).2⟩
    · cases h

/-- The response that the client takes a frame for, if it takes it. -/
def ApiOutcome.delivered : ApiOutcome → Option (Except BackendApiErrorPayload Value)
  | .returned none => none
  | .returned (some result) => some (.ok result.value)
  | .threw error => some (.error (toApiError error))

variable {request : BackendRequestFrame}

theorem nonEmptyString?_str {s : JsString} (h : s ≠ []) : nonEmptyString? (some (.str s)) = some s :=
  nonEmptyString?_eq_some.mpr ⟨rfl, h⟩

theorem get?_response (id method : JsString) (rest : List (JsString × Value)) :
    (Value.obj (responseMembers id method rest)).get? (js "id") = some (.str id) ∧
      (Value.obj (responseMembers id method rest)).get? (js "method") = some (.str method) ∧
      isStr (js "response") ((Value.obj (responseMembers id method rest)).get? (js "kind")) = true := by
  refine ⟨rfl, rfl, ?_⟩
  exact isStr_iff.mpr rfl

theorem decode_success (hid : request.id ≠ []) (hmethod : request.method ≠ []) (result : SerializableValue) :
    decodeBackendResponse (executed request (.returned (some result))) =
      if Fits request result.value then
        .ok { id := request.id, method := request.method, outcome := .ok result.value }
      else
        .invalid { code := js "invalid_request", message := js "Backend frame exceeds the size limit" } none [] := by
  have hencoded : executed request (.returned (some result)) = stringify (.obj (responseMembers request.id
      request.method [(js "success", .bool true), (js "result", result.value)])) := rfl
  unfold decodeBackendResponse
  rw [hencoded, parseEnvelope_response (canonical_success result.canonical), jsonBytes_success result.canonical]
  by_cases hfits : Fits request result.value
  · obtain ⟨hgetId, hgetMethod, hkind⟩ := get?_response request.id request.method
      [(js "success", .bool true), (js "result", result.value)]
    have hsuccess : (Value.obj (responseMembers request.id request.method
        [(js "success", .bool true), (js "result", result.value)])).get? (js "success") = some (.bool true) := rfl
    have hresult : (Value.obj (responseMembers request.id request.method
        [(js "success", .bool true), (js "result", result.value)])).get? (js "result") = some result.value := rfl
    rw [if_pos hfits, if_neg (Nat.not_lt.mpr hfits)]
    simp only [hgetId, hgetMethod, hkind, hsuccess, hresult, nonEmptyString?_str hid, nonEmptyString?_str hmethod,
      not_true_eq_false, if_false, if_true]
  · rw [if_neg hfits, if_pos (Nat.not_le.mp hfits)]

theorem decode_undefined (hid : request.id ≠ []) (hmethod : request.method ≠ []) :
    ∀ response, decodeBackendResponse (executed request (.returned none)) ≠ .ok response := by
  have hencoded : executed request (.returned none) =
      stringify (.obj (responseMembers request.id request.method [(js "success", .bool true)])) := rfl
  unfold decodeBackendResponse
  rw [hencoded, parseEnvelope_response canonical_undefined]
  intro response
  split
  · exact fun h => by cases h
  · rename_i value hvalue
    split at hvalue
    · cases hvalue
    · cases hvalue
      obtain ⟨hgetId, hgetMethod, hkind⟩ := get?_response request.id request.method [(js "success", .bool true)]
      have hsuccess : (Value.obj (responseMembers request.id request.method
          [(js "success", .bool true)])).get? (js "success") = some (.bool true) := rfl
      have hresult : (Value.obj (responseMembers request.id request.method
          [(js "success", .bool true)])).get? (js "result") = none := rfl
      simp only [hgetId, hgetMethod, hkind, hsuccess, hresult, nonEmptyString?_str hid, nonEmptyString?_str hmethod,
        not_true_eq_false, if_false, if_true]
      exact fun h => by cases h

theorem toApiError_code (error : ThrownError) : (toApiError error).code ∈ BACKEND_ERROR_CODES := by
  have hinternal : js "internal_error" ∈ BACKEND_ERROR_CODES := by decide
  have hcodes : ∀ code : LocalBackendApiErrorCode, code.text ∈ BACKEND_ERROR_CODES := by
    intro code
    cases code <;> decide
  cases error with
  | localBackendApiError code message => exact hcodes code
  | error message => exact hinternal
  | other text => exact hinternal

theorem apiError?_value {payload : BackendApiErrorPayload} (hcode : payload.code ∈ BACKEND_ERROR_CODES) :
    apiError? (some payload.value) = if payload.message = [] then none else some payload := by
  have hgetCode : (Value.obj [(js "code", .str payload.code), (js "message", .str payload.message)]).get?
      (js "code") = some (.str payload.code) := rfl
  have hgetMessage : (Value.obj [(js "code", .str payload.code), (js "message", .str payload.message)]).get?
      (js "message") = some (.str payload.message) := rfl
  simp only [apiError?, BackendApiErrorPayload.value, hgetCode, hgetMessage, string?]
  by_cases hmessage : payload.message = []
  · rw [if_pos hmessage, hmessage]
    rfl
  · rw [if_neg hmessage, nonEmptyString?_str hmessage]
    simp only [hcode, if_true]

/-- A failed response with any declared code. -/
theorem decode_error (hid : request.id ≠ []) (hmethod : request.method ≠ []) {payload : BackendApiErrorPayload}
    (hcode : payload.code ∈ BACKEND_ERROR_CODES) :
    decodeBackendResponse (encodeBackendResponse request.id request.method (.error payload)) =
      if ¬ Fits request payload.value then
        .invalid { code := js "invalid_request", message := js "Backend frame exceeds the size limit" } none []
      else if payload.message = [] then
        .invalid { code := js "invalid_request", message := js "Failed response is missing a valid error" }
          (some request.id) request.method
      else .ok { id := request.id, method := request.method, outcome := .error payload } := by
  have hencoded : encodeBackendResponse request.id request.method (.error payload) = stringify (.obj (responseMembers
      request.id request.method [(js "success", .bool false), (js "error", payload.value)])) := rfl
  unfold decodeBackendResponse
  rw [hencoded, parseEnvelope_response (canonical_failure _), jsonBytes_failure]
  by_cases hfits : Fits request payload.value
  · obtain ⟨hgetId, hgetMethod, hkind⟩ := get?_response request.id request.method
      [(js "success", .bool false), (js "error", payload.value)]
    have hsuccess : (Value.obj (responseMembers request.id request.method
        [(js "success", .bool false), (js "error", payload.value)])).get? (js "success") = some (.bool false) := rfl
    have herror : (Value.obj (responseMembers request.id request.method
        [(js "success", .bool false), (js "error", payload.value)])).get? (js "error") = some payload.value := rfl
    rw [if_neg (not_not_intro hfits), if_neg (Nat.not_lt.mpr hfits)]
    simp only [hgetId, hgetMethod, hkind, hsuccess, herror, nonEmptyString?_str hid, nonEmptyString?_str hmethod,
      not_true_eq_false, if_false, Bool.false_eq_true, apiError?_value hcode]
    by_cases hmessage : payload.message = []
    · simp only [hmessage, if_true]
    · simp only [hmessage, if_false]
  · rw [if_pos hfits, if_pos (Nat.not_le.mp hfits)]

theorem decode_failure (hid : request.id ≠ []) (hmethod : request.method ≠ []) (error : ThrownError) :
    decodeBackendResponse (executed request (.threw error)) =
      if ¬ Fits request (toApiError error).value then
        .invalid { code := js "invalid_request", message := js "Backend frame exceeds the size limit" } none []
      else if (toApiError error).message = [] then
        .invalid { code := js "invalid_request", message := js "Failed response is missing a valid error" }
          (some request.id) request.method
      else .ok { id := request.id, method := request.method, outcome := .error (toApiError error) } :=
  decode_error hid hmethod (toApiError_code error)

theorem decode_executed (hid : request.id ≠ []) (hmethod : request.method ≠ []) {outcome : ApiOutcome}
    (h : Deliverable request outcome) : ∃ delivered, outcome.delivered = some delivered ∧
      decodeBackendResponse (executed request outcome) =
        .ok { id := request.id, method := request.method, outcome := delivered } := by
  cases outcome with
  | returned result =>
    cases result with
    | none => exact absurd h id
    | some result => exact ⟨_, rfl, (decode_success hid hmethod result).trans (if_pos h)⟩
  | threw error =>
    refine ⟨_, rfl, (decode_failure hid hmethod error).trans ?_⟩
    rw [if_neg (not_not_intro h.2), if_neg h.1]

theorem decode_refused (hid : request.id ≠ []) (hmethod : request.method ≠ []) {outcome : ApiOutcome}
    (h : ¬ Deliverable request outcome) (response : BackendResponseFrame) :
    decodeBackendResponse (executed request outcome) ≠ .ok response := by
  cases outcome with
  | returned result =>
    cases result with
    | none => exact decode_undefined hid hmethod response
    | some result =>
      have hfits : ¬ Fits request result.value := h
      rw [decode_success hid hmethod, if_neg hfits]
      exact fun hok => by cases hok
  | threw error =>
    rw [decode_failure hid hmethod]
    split
    · exact fun hok => by cases hok
    · rename_i hfits
      rw [not_not] at hfits
      split
      · exact fun hok => by cases hok
      · rename_i hmessage
        exact absurd ⟨hmessage, hfits⟩ h

/-- How the client settles a request with an outcome. -/
def settlement : Except BackendApiErrorPayload Value → Settlement
  | .ok result => .resolve result
  | .error error => .reject error

/-- The frame settles the pending request of the client with the outcome. -/
def Settles (client : DataChannelBackendApi) (request : BackendRequestFrame) (outcome : ApiOutcome) : Prop :=
  ∃ delivered, outcome.delivered = some delivered ∧ client.handleFrame (executed request outcome) =
    { pending := client.pending.erase request.id
      settled := client.settled ++ [(request.id, settlement delivered)] }

/-- The response to a request is accepted by the client, with the same id and method, and settles the request that
    is pending there, if and only if the API returned a value or threw an error with a message, and the frame with
    it is not larger than three mebibytes. -/
theorem wire_agreement {raw : JsString} {request : BackendRequestFrame}
    (hrequest : decodeBackendRequest raw = .ok request) (outcome : ApiOutcome) :
    ((∃ response, decodeBackendResponse (executed request outcome) = .ok response ∧ response.id = request.id ∧
        response.method = request.method) ↔ Deliverable request outcome) ∧
      ∀ client : DataChannelBackendApi, client.pending.get? request.id = some { method := request.method } →
        (Settles client request outcome ↔ Deliverable request outcome) := by
  obtain ⟨hid, hmethod⟩ := decodeBackendRequest_names hrequest
  refine ⟨?_, ?_⟩
  · constructor
    · rintro ⟨response, hresponse, -, -⟩
      by_contra hnot
      exact decode_refused hid hmethod hnot response hresponse
    · intro h
      obtain ⟨delivered, -, hdecode⟩ := decode_executed hid hmethod h
      exact ⟨_, hdecode, rfl, rfl⟩
  · intro client hpending
    have hframe : isBackendProtocolFrame (executed request outcome) = true := isBackendProtocolFrame_response _ _ _
    constructor
    · rintro ⟨delivered, -, hsettles⟩
      by_contra hnot
      unfold DataChannelBackendApi.handleFrame at hsettles
      rw [if_neg (not_not_intro hframe)] at hsettles
      split at hsettles
      · have hlength := congrArg (fun client : DataChannelBackendApi => client.settled.length) hsettles
        simp at hlength
      · rename_i response hresponse
        exact decode_refused hid hmethod hnot response hresponse
    · intro h
      obtain ⟨delivered, hdelivered, hdecode⟩ := decode_executed hid hmethod h
      refine ⟨delivered, hdelivered, ?_⟩
      unfold DataChannelBackendApi.handleFrame
      rw [if_neg (not_not_intro hframe), hdecode]
      simp only [hpending, ne_eq, not_true_eq_false, if_false]
      cases delivered <;> rfl

theorem isRecord_of_validateParams {method : JsString} {params : Value} (h : validateParams method params = true) :
    isRecord (some params) = true := by
  cases params with
  | obj members => rfl
  | null | bool _ | num _ | str _ | arr _ =>
    simp only [validateParams, hasOnlyKeys, Bool.false_and, ite_self] at h
    cases h

/-- A request that the client writes is read back as itself. -/
theorem decodeBackendRequest_encodeBackendRequest (hid : request.id ≠ [])
    (hmethod : isBackendMethod request.method = true) (hparams : validateParams request.method request.params = true)
    (hcanonical : request.params.Canonical)
    (hfits : (textEncode (encodeBackendRequest request)).length ≤ BACKEND_PROTOCOL_MAX_FRAME_BYTES) :
    decodeBackendRequest (encodeBackendRequest request) = .ok request := by
  have hnames : request.method ≠ [] := by
    rintro hempty
    rw [hempty] at hmethod
    exact absurd hmethod (by decide)
  have hframe : (Value.obj (frameMembers (js "request") [(js "id", .str request.id),
      (js "method", .str request.method), (js "params", request.params)])).Canonical := by
    refine ⟨?_, trivial, trivial, trivial, trivial, hcanonical, trivial⟩
    simp only [frameMembers, List.map_cons, List.map_nil]
    decide
  have henvelope : parseEnvelope (encodeBackendRequest request) = .ok (.obj (frameMembers (js "request")
      [(js "id", .str request.id), (js "method", .str request.method), (js "params", request.params)])) := by
    unfold parseEnvelope
    rw [if_neg (Nat.not_lt.mpr hfits)]
    have hparse : parse (encodeBackendRequest request) = some _ := parse_stringify hframe
    rw [hparse]
    rfl
  unfold decodeBackendRequest
  rw [henvelope]
  have hgetId : (Value.obj (frameMembers (js "request") [(js "id", .str request.id),
      (js "method", .str request.method), (js "params", request.params)])).get? (js "id") =
        some (.str request.id) := rfl
  have hgetMethod : (Value.obj (frameMembers (js "request") [(js "id", .str request.id),
      (js "method", .str request.method), (js "params", request.params)])).get? (js "method") =
        some (.str request.method) := rfl
  have hgetParams : (Value.obj (frameMembers (js "request") [(js "id", .str request.id),
      (js "method", .str request.method), (js "params", request.params)])).get? (js "params") =
        some request.params := rfl
  have hkind : isStr (js "request") ((Value.obj (frameMembers (js "request") [(js "id", .str request.id),
      (js "method", .str request.method), (js "params", request.params)])).get? (js "kind")) = true :=
    isStr_iff.mpr rfl
  simp only [hgetId, hgetMethod, hgetParams, hkind, nonEmptyString?_str hid, nonEmptyString?_str hnames, hmethod,
    hparams, isRecord_of_validateParams hparams, not_true_eq_false, or_self, if_false]

/-- A request for the sessions, as the client writes it. -/
def listSessions : BackendRequestFrame where
  id := js "api_1"
  method := js "sessions.list"
  params := .obj []

theorem decode_listSessions :
    decodeBackendRequest (encodeBackendRequest listSessions) = .ok listSessions :=
  decodeBackendRequest_encodeBackendRequest (by decide) (by decide) (by decide) ⟨List.nodup_nil, trivial⟩
    (by decide +kernel)

theorem wire_agreement_listSessions :
    ∃ response, decodeBackendResponse (executed listSessions (.returned (some ⟨.arr [], trivial⟩))) =
      .ok response ∧ response.id = listSessions.id ∧ response.method = listSessions.method := by
  refine (wire_agreement decode_listSessions _).1.mpr ?_
  have hfits : Fits listSessions (.arr []) := by decide +kernel
  exact hfits

/-- The API rejects with an empty message: the client refuses the response. -/
theorem empty_message_is_refused :
    decodeBackendRequest (encodeBackendRequest listSessions) = .ok listSessions ∧
      ¬ ∃ response, decodeBackendResponse (executed listSessions (.threw (.error []))) = .ok response ∧
        response.id = listSessions.id ∧ response.method = listSessions.method := by
  refine ⟨decode_listSessions, ?_⟩
  rintro ⟨response, hresponse, -, -⟩
  have hundelivered : ¬ Deliverable listSessions (.threw (.error [])) := by
    rintro ⟨hmessage, -⟩
    exact hmessage rfl
  exact decode_refused (by decide) (by decide) hundelivered response hresponse

end pipane.backend_protocol_handler
