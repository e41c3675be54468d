import Mathlib.Data.List.Sort
import Pipane.Lib.Json.Coerce
import Pipane.Lib.Json.Weight
import Pipane.Lib.LinkWalk
import Pipane.Lib.OrderedMap
import Pipane.Lib.Path

open javascript json posix_path

namespace pipane.session_tool_paths

structure SuccessfulToolPath where
  path : JsString
  toolName : JsString
  mutatesFile : Bool
deriving DecidableEq

def PATH_ACTIVITY_TOOLS : List JsString :=
  [js "edit", js "hypa_find", js "hypa_grep", js "hypa_ls", js "hypa_read", js "read", js "write"]

def FILE_MUTATION_TOOLS : List JsString :=
  [js "edit", js "write"]

/-- The text under a key; `none` where the value there is no string. -/
def textField (key : JsString) (value : Value) : Option JsString :=
  match value.get? key with
  | some (.str text) => some text
  | _ => none

/-- The arguments of a call as an object, parsed where they came as a text. -/
def parseToolArguments : Option Value → Option Value
  | some (.obj members) => some (.obj members)
  | some (.str text) =>
    match parse text with
    | some (.obj members) => some (.obj members)
    | _ => none
  | _ => none

/-- `toLowerCase` of a letter of the tool names; no other unit lowers to one of them alone. -/
def toLowerCase (name : JsString) : JsString :=
  name.map fun u => if 0x41 ≤ u.toNat ∧ u.toNat ≤ 0x5A then u + 0x20 else u

/-- `toolName.toLowerCase().split(".").pop() ?? ""` -/
def shortName (toolName : JsString) : JsString :=
  ((toLowerCase toolName).splitOn DOT).getLastD []

/-- The path that one call is about. -/
def toolPath (processCwd : Names) (toolName : JsString) (args : Value) (cwd : JsString) : List SuccessfulToolPath :=
  let shortName := shortName toolName
  let candidate := ((textField (js "path") args).or (textField (js "file_path") args)).getD []
  if shortName ∉ PATH_ACTIVITY_TOOLS then []
  else if candidate = [] ∨ 0 ∈ candidate then []
  else if ¬ isAbsolute candidate ∧ cwd = [] then []
  else
    [{ path := resolve processCwd [if cwd = [] then [SLASH] else cwd, candidate]
       toolName := shortName
       mutatesFile := FILE_MUTATION_TOOLS.contains shortName }]

theorem weight_parseToolArguments {raw args : Value} (h : parseToolArguments (some raw) = some args) :
    args.weight ≤ raw.weight := by
  cases raw with
  | obj members =>
    cases h
    exact le_rfl
  | str text =>
    rw [parseToolArguments] at h
    split at h
    · rename_i members hparse
      cases h
      exact (weight_lt_of_parse hparse).le
    · cases h
  | _ => cases h

/-- A call of several tools has the paths of each of them. -/
def extractToolPaths (processCwd : Names) (toolName rawArguments : Option Value) (cwd : JsString) :
    List SuccessfulToolPath :=
  match toolName with
  | some (.str toolName) =>
    match hargs : parseToolArguments rawArguments with
    | none => []
    | some args =>
      match huses : args.get? (js "tool_uses") with
      | some (.arr uses) =>
        uses.attach.flatMap fun use =>
          extractToolPaths processCwd (use.1.get? (js "recipient_name")) (use.1.get? (js "parameters")) cwd
      | _ => toolPath processCwd toolName args cwd
  | _ => []
termination_by rawArguments.elim 0 Value.weight
decreasing_by
  obtain ⟨raw, rfl⟩ : ∃ raw, rawArguments = some raw := by
    cases rawArguments with
    | none => cases hargs
    | some raw => exact ⟨raw, rfl⟩
  have hargument := weight_parseToolArguments hargs
  have huse := weight_lt_of_mem use.2
  have harray := weight_lt_of_get huses
  cases hparameters : use.1.get? (js "parameters") with
  | none =>
    simp only [Option.elim]
    omega
  | some parameters =>
    have hinner := weight_lt_of_get hparameters
    simp only [Option.elim]
    omega

/-- An entry that takes part in the branches, with its id. -/
structure SessionEntry where
  value : Value
  id : JsString

/-- `lookup?.type !== "session" && typeof lookup?.id === "string"` -/
def sessionEntry? (entry : Value) : Option SessionEntry :=
  if isStr (js "session") (entry.get? (js "type")) then none
  else (textField (js "id") entry).map fun id => ⟨entry, id⟩

def sessionEntries (entries : List Value) : List SessionEntry :=
  entries.filterMap sessionEntry?

/-- `new Map(sessionEntries.map((entry) => [entry.id, entry]))` -/
def byId (entries : List SessionEntry) : OrderedMap JsString SessionEntry :=
  entries.foldl (fun map entry => map.set entry.id entry) {}

def parentOf (entries : List SessionEntry) (entry : SessionEntry) : Option SessionEntry :=
  (textField (js "parentId") entry.value).bind (byId entries).get?

/-- The loop that follows the parent links from the last entry. -/
def branchWalk (entries : List SessionEntry) : link_walk.Walk SessionEntry JsString :=
  link_walk.run SessionEntry.id (parentOf entries) entries.length ⟨entries.getLast?, [], []⟩

def buildActiveSessionEntries (entries : List Value) : List SessionEntry :=
  (branchWalk (sessionEntries entries)).passed.reverse

/-- A tool call with the paths it is about, or the result of one. -/
inductive Occurrence
  | call (id : JsString) (paths : List SuccessfulToolPath)
  | result (id : JsString) (isError : Bool)

def Occurrence.id : Occurrence → JsString
  | .call id _ => id
  | .result id _ => id

def chunkCall (processCwd : Names) (cwd : JsString) (chunk : Value) : Option Occurrence :=
  if isStr (js "toolCall") (chunk.get? (js "type")) then
    (textField (js "id") chunk).map fun id =>
      .call id (extractToolPaths processCwd (chunk.get? (js "name")) (chunk.get? (js "arguments")) cwd)
  else none

def messageOccurrences (processCwd : Names) (cwd : JsString) (message : Value) : List Occurrence :=
  match isStr (js "assistant") (message.get? (js "role")), message.get? (js "content") with
  | true, some (.arr content) => content.filterMap (chunkCall processCwd cwd)
  | _, _ =>
    if isStr (js "toolResult") (message.get? (js "role")) then
      match textField (js "toolCallId") message with
      | some id => [.result id (match message.get? (js "isError") with | some (.bool isError) => isError | _ => false)]
      | none => []
    else []

/-- What an entry of the branch says about tool calls, in order. -/
def entryOccurrences (processCwd : Names) (cwd : JsString) (entry : SessionEntry) : List Occurrence :=
  if isStr (js "message") (entry.value.get? (js "type")) then
    ((entry.value.get? (js "message")).map (messageOccurrences processCwd cwd)).getD []
  else []

/-- The state of the loop over the branch. -/
structure Extraction where
  pending : OrderedMap JsString (List SuccessfulToolPath) := {}
  successful : List SuccessfulToolPath := []

def Extraction.visit (extraction : Extraction) : Occurrence → Extraction
  | .call id paths => { extraction with pending := extraction.pending.set id paths }
  | .result id isError =>
    { pending := extraction.pending.erase id
      successful := extraction.successful ++ if isError then [] else (extraction.pending.get? id).getD [] }

def extractSuccessfulToolPaths (processCwd : Names) (entries : List Value) (cwd : JsString) : List SuccessfulToolPath :=
  ((buildActiveSessionEntries entries).foldl
    (fun extraction entry => (entryOccurrences processCwd cwd entry).foldl Extraction.visit extraction) {}).successful

end pipane.session_tool_paths
