import Pipane.Lib.Json.RoundTrip
import Pipane.Shared.WsProtocol.ClientCommand.Shape

open javascript json checks

namespace pipane.ws_protocol

variable {α : Type} {key : String} {write : α → Value} {rest : List (JsString × Value)}

theorem keys_optionalMember (value : Option α) :
    ((optionalMember key value write).map Prod.fst).Sublist [js key] := by
  cases value with
  | none => exact List.nil_sublist _
  | some value => exact List.Sublist.refl _

/-- What the browser attaches: a file of an image type, and where it was uploaded. -/
def WireImage.Sendable : WireImage → Prop
  | .inlined _ mimeType => mimeType ≠ []
  | .uploaded uploadedPath mimeType => uploadedPath ≠ [] ∧ mimeType ≠ []

/-- What the browser sends of a prompt: `toCompactModelRef` refuses empty names, operation ids are UUIDs, and revisions
    are counted. -/
structure PromptFields.Sendable (fields : PromptFields) : Prop where
  provider : fields.model.provider ≠ []
  modelId : fields.model.modelId ≠ []
  operationId : ∀ id ∈ fields.operationId, IsOperationId id
  controlRevision : ∀ revision ∈ fields.controlRevision, isSafeInteger revision = true
  images : ∀ images ∈ fields.images, ∀ image ∈ images, image.Sendable

/-- What the browser sends: the hashes that it cached are those of the server, and at most as many as the server
    takes, and a fork starts at an entry that the server listed. -/
def ClientCommandPayload.Sendable : ClientCommandPayload → Prop
  | .subscribe_session command =>
    (∀ hash ∈ command.cachedStateHash, isContentHash hash = true) ∧
      ∀ hashes ∈ command.knownMessageHashes, hashes.length ≤ MAX_KNOWN_SESSION_MESSAGE_HASHES ∧
        ∀ hash ∈ hashes, isContentHash hash = true
  | .prompt fields _ | .fork_prompt fields => fields.Sendable
  | .steer _ _ operationId | .fork_current _ operationId => ∀ id ∈ operationId, IsOperationId id
  | .remove_steering _ index => isSafeInteger index = true
  | .fork _ entryId => entryId ≠ []
  | _ => True

/-- The members that a type of command may have after its envelope. -/
def ClientCommandType.fieldNames : ClientCommandType → List JsString
  | .install_pi | .get_available_models | .get_default_model | .get_session_statuses | .reload_processes => []
  | .subscribe_session => [js "sessionPath", js "cachedStateHash", js "knownMessageHashes", js "segmentedContent"]
  | .prompt =>
    [js "sessionPath", js "cwd", js "message", js "model", js "operationId", js "thinkingLevel", js "controlRevision",
      js "images"]
  | .fork_prompt =>
    [js "sessionPath", js "message", js "model", js "operationId", js "thinkingLevel", js "controlRevision",
      js "images"]
  | .steer => [js "sessionPath", js "message", js "operationId"]
  | .remove_steering => [js "sessionPath", js "index"]
  | .abort | .hard_kill | .get_session_stats => [js "sessionPath"]
  | .compact => [js "sessionPath", js "customInstructions"]
  | .fork => [js "sessionPath", js "entryId"]
  | .fork_current => [js "sessionPath", js "operationId"]
  | .set_session_name => [js "sessionPath", js "name"]
  | .get_commands => [js "sessionPath", js "cwd"]

theorem names_optionalMembers (fields : PromptFields) : (fields.optionalMembers.map Prod.fst).Sublist
    [js "operationId", js "thinkingLevel", js "controlRevision", js "images"] := by
  unfold PromptFields.optionalMembers
  rw [List.map_append, List.map_append, List.map_append]
  exact (keys_optionalMember _).append ((keys_optionalMember _).append
    ((keys_optionalMember _).append (keys_optionalMember _)))

theorem names_fields (payload : ClientCommandPayload) :
    (payload.fields.map Prod.fst).Sublist payload.type.fieldNames := by
  have hoptional : ∀ {α : Type} (key : String) (value : Option α) (write : α → Value),
      ((optionalMember key value write).map Prod.fst).Sublist [js key] := fun _ value _ => keys_optionalMember value
  cases payload with
  | install_pi | get_available_models | get_default_model | get_session_statuses | reload_processes =>
    exact List.Sublist.refl _
  | abort sessionPath | hard_kill sessionPath | get_session_stats sessionPath => exact List.Sublist.refl _
  | remove_steering sessionPath index => exact List.Sublist.refl _
  | fork sessionPath entryId => exact List.Sublist.refl _
  | set_session_name sessionPath name => exact List.Sublist.refl _
  | compact sessionPath customInstructions => exact (hoptional _ _ _).cons_cons _
  | fork_current sessionPath operationId => exact (hoptional _ _ _).cons_cons _
  | steer sessionPath message operationId => exact ((hoptional _ _ _).cons_cons _).cons_cons _
  | get_commands sessionPath cwd =>
    rw [ClientCommandPayload.fields, List.map_append]
    exact (hoptional _ _ _).append (hoptional _ _ _)
  | fork_prompt fields => exact (((names_optionalMembers fields).cons_cons _).cons_cons _).cons_cons _
  | prompt fields cwd =>
    rw [ClientCommandPayload.fields, List.map_cons, List.map_append]
    exact ((hoptional _ _ _).append (((names_optionalMembers fields).cons_cons _).cons_cons _)).cons_cons _
  | subscribe_session command =>
    rw [ClientCommandPayload.fields, List.map_cons, List.map_append, List.map_append]
    refine ((hoptional _ _ _).append ((hoptional _ _ _).append ?_)).cons_cons _
    split
    · exact List.Sublist.refl _
    · exact List.nil_sublist _

theorem names_commandMembers (payload : ClientCommandPayload) (id : JsString) :
    ((commandMembers payload id).map Prod.fst).Sublist
      (js "protocolVersion" :: js "id" :: js "type" :: payload.type.fieldNames) :=
  (((names_fields payload).cons_cons _).cons_cons _).cons_cons _

theorem canonicalMembers_append : ∀ {members more : List (JsString × Value)}, CanonicalMembers members →
    CanonicalMembers more → CanonicalMembers (members ++ more)
  | [], _, _, hmore => hmore
  | _ :: _, _, hmembers, hmore => ⟨hmembers.1, canonicalMembers_append hmembers.2 hmore⟩

theorem canonicalItems_map {β : Type} {f : β → Value} (h : ∀ b, (f b).Canonical) :
    ∀ items : List β, CanonicalItems (items.map f)
  | [] => trivial
  | b :: rest => ⟨h b, canonicalItems_map h rest⟩

theorem canonical_optionalMember (value : Option α) (h : ∀ a, (write a).Canonical) :
    CanonicalMembers (optionalMember key value write) := by
  cases value with
  | none => trivial
  | some a => exact ⟨h a, trivial⟩

theorem canonical_image (image : WireImage) : image.value.Canonical := by
  have hnames : [js "type", js "data", js "mimeType"].Nodup ∧ [js "type", js "uploadedPath", js "mimeType"].Nodup := by
    decide
  cases image with
  | inlined data mimeType => exact ⟨hnames.1, trivial, trivial, trivial, trivial⟩
  | uploaded uploadedPath mimeType => exact ⟨hnames.2, trivial, trivial, trivial, trivial⟩

theorem canonical_model (model : CompactModelRef) : model.value.Canonical := by
  have hnames : [js "provider", js "modelId"].Nodup := by decide
  exact ⟨hnames, trivial, trivial, trivial⟩

theorem canonical_optionalMembers (fields : PromptFields) : CanonicalMembers fields.optionalMembers := by
  refine canonicalMembers_append (canonical_optionalMember _ fun _ => trivial) ?_
  refine canonicalMembers_append (canonical_optionalMember _ fun _ => trivial) ?_
  refine canonicalMembers_append (canonical_optionalMember _ fun _ => trivial) ?_
  exact canonical_optionalMember _ fun images => canonicalItems_map canonical_image images

theorem canonical_fields (payload : ClientCommandPayload) : CanonicalMembers payload.fields := by
  have htext : ∀ (key : String) (value : Option JsString), CanonicalMembers (optionalMember key value .str) :=
    fun _ value => canonical_optionalMember value fun _ => trivial
  cases payload with
  | install_pi | get_available_models | get_default_model | get_session_statuses | reload_processes => trivial
  | abort sessionPath | hard_kill sessionPath | get_session_stats sessionPath => exact ⟨trivial, trivial⟩
  | remove_steering sessionPath index => exact ⟨trivial, trivial, trivial⟩
  | fork sessionPath entryId => exact ⟨trivial, trivial, trivial⟩
  | set_session_name sessionPath name => exact ⟨trivial, trivial, trivial⟩
  | compact sessionPath customInstructions => exact ⟨trivial, htext _ _⟩
  | fork_current sessionPath operationId => exact ⟨trivial, htext _ _⟩
  | steer sessionPath message operationId => exact ⟨trivial, trivial, htext _ _⟩
  | get_commands sessionPath cwd => exact canonicalMembers_append (htext _ _) (htext _ _)
  | fork_prompt fields => exact ⟨trivial, trivial, canonical_model _, canonical_optionalMembers fields⟩
  | prompt fields cwd =>
    exact ⟨trivial, canonicalMembers_append (htext _ _)
      ⟨trivial, canonical_model _, canonical_optionalMembers fields⟩⟩
  | subscribe_session command =>
    refine ⟨trivial, canonicalMembers_append (htext _ _) (canonicalMembers_append ?_ ?_)⟩
    · have htexts : ∀ hashes, (textsValue hashes).Canonical :=
        fun hashes => canonicalItems_map (f := Value.str) (fun _ => trivial) hashes
      exact canonical_optionalMember _ htexts
    · split
      · exact ⟨trivial, trivial⟩
      · trivial

theorem canonical_command (payload : ClientCommandPayload) (id : JsString) :
    (Value.obj (commandMembers payload id)).Canonical := by
  refine ⟨(names_commandMembers payload id).nodup ?_, trivial, trivial, trivial, canonical_fields payload⟩
  cases payload.type <;> decide

end pipane.ws_protocol
