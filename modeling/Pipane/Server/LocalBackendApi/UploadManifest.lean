import Pipane.Lib.BufferText
import Pipane.Lib.Json.Coerce
import Pipane.Lib.Json.RoundTrip
import Pipane.Lib.Sha256
import Pipane.Server.LocalBackendApi.UploadName

open javascript json

namespace pipane.local_backend_api

def UPLOAD_MANIFEST_VERSION : Int := 1

/-- The largest time that `Date.now()` can give. -/
def MAX_TIME_MS : Nat := 8640000000000000

inductive UploadState
  | active
  | completed
deriving DecidableEq

def UploadState.text : UploadState → JsString
  | .active => js "active"
  | .completed => js "completed"

structure StoredUploadManifest where
  uploadId : JsString
  state : UploadState
  fileName : JsString
  mimeType : JsString
  size : Nat
  path : JsString
  createdAt : Nat
  updatedAt : Nat
  digest : Option JsString := none
deriving DecidableEq

def natural (n : Nat) : Value :=
  .num (.int n)

def digestMember : Option JsString → List (JsString × Value)
  | none => []
  | some digest => [(js "digest", .str digest)]

/-- The object that is written for a manifest; a completed one lists its path earlier. -/
def StoredUploadManifest.members (manifest : StoredUploadManifest) : List (JsString × Value) :=
  [(js "version", .num (.int UPLOAD_MANIFEST_VERSION)), (js "uploadId", .str manifest.uploadId),
      (js "state", .str manifest.state.text)] ++
    (match manifest.state with
    | .active => [(js "fileName", .str manifest.fileName), (js "mimeType", .str manifest.mimeType),
        (js "size", natural manifest.size), (js "path", .str manifest.path)]
    | .completed => [(js "path", .str manifest.path), (js "fileName", .str manifest.fileName),
        (js "mimeType", .str manifest.mimeType), (js "size", natural manifest.size)]) ++
    [(js "createdAt", natural manifest.createdAt), (js "updatedAt", natural manifest.updatedAt)] ++
    digestMember manifest.digest

/-- The content of a manifest file. -/
def encodeUploadManifest (manifest : StoredUploadManifest) : List UInt8 :=
  textEncode (stringify (.obj manifest.members) ++ js "\n")

/-- A property that is a string and not empty. -/
def requiredText (value : Value) (key : String) : Option JsString :=
  match value.get? (js key) with
  | some (.str text) => if text = [] then none else some text
  | _ => none

/-- A property that is a safe integer and not negative. -/
def requiredNatural (value : Value) (key : String) : Option Nat :=
  match value.get? (js key) with
  | some (.num (.int n)) => if isSafeInteger n && decide (0 ≤ n) then some n.toNat else none
  | _ => none

/-- `/^[a-f0-9]{64}$/u` -/
def isDigestText (text : JsString) : Bool :=
  text.length = 64 && text.all fun u => (0x30 ≤ u.toNat && u.toNat ≤ 0x39) || (0x61 ≤ u.toNat && u.toNat ≤ 0x66)

def uploadState? (value : Value) : Option UploadState :=
  if isStr (js "active") (value.get? (js "state")) then some .active
  else if isStr (js "completed") (value.get? (js "state")) then some .completed
  else none

/-- A digest may be missing. -/
def digest? (value : Value) : Option (Option JsString) :=
  match value.get? (js "digest") with
  | none => some none
  | some (.str text) => if isDigestText text then some (some text) else none
  | some _ => none

/-- What `readUploadManifest` makes of the content of a manifest file. -/
def readUploadManifest (content : List UInt8) : Option StoredUploadManifest := do
  let value ← parse (bufferText content)
  if ¬ (value.get? (js "version")).any (·.isInt UPLOAD_MANIFEST_VERSION) then none
  else
    let state ← uploadState? value
    let uploadId ← requiredText value "uploadId"
    let fileName ← requiredText value "fileName"
    let mimeType ← requiredText value "mimeType"
    let size ← requiredNatural value "size"
    let path ← requiredText value "path"
    let createdAt ← requiredNatural value "createdAt"
    let updatedAt ← requiredNatural value "updatedAt"
    let digest ← digest? value
    return { uploadId, state, fileName, mimeType, size, path, createdAt, updatedAt, digest }

/-- What the server writes as a manifest. -/
structure StoredUploadManifest.Valid (manifest : StoredUploadManifest) : Prop where
  uploadId : manifest.uploadId ≠ []
  fileName : manifest.fileName ≠ []
  mimeType : manifest.mimeType ≠ []
  path : manifest.path ≠ []
  size : manifest.size ≤ MAX_TIME_MS
  createdAt : manifest.createdAt ≤ MAX_TIME_MS
  updatedAt : manifest.updatedAt ≤ MAX_TIME_MS
  digest : ∀ digest ∈ manifest.digest, isDigestText digest = true

/-- The keys of a manifest, in order. -/
private def manifestKeys (state : UploadState) (digested : Bool) : List JsString :=
  [js "version", js "uploadId", js "state"] ++
    (match state with
    | .active => [js "fileName", js "mimeType", js "size", js "path"]
    | .completed => [js "path", js "fileName", js "mimeType", js "size"]) ++
    [js "createdAt", js "updatedAt"] ++ if digested then [js "digest"] else []

theorem canonical_members (manifest : StoredUploadManifest) : (Value.obj manifest.members).Canonical := by
  have hkeys : manifest.members.map Prod.fst = manifestKeys manifest.state manifest.digest.isSome := by
    rw [StoredUploadManifest.members]
    cases manifest.state <;> cases manifest.digest <;> rfl
  have hnodup : ∀ state digested, (manifestKeys state digested).Nodup := by
    intro state digested
    cases state <;> cases digested <;> decide
  refine ⟨by rw [hkeys]; exact hnodup _ _, canonicalMembers_iff.mpr ?_⟩
  rw [StoredUploadManifest.members]
  cases manifest.state <;> cases manifest.digest <;>
    simp [digestMember, natural, Value.Canonical, Number.Canonical]

theorem parse_line {value : Value} (h : value.Canonical) : parse (stringify value ++ js "\n") = some value := by
  have hvalue := parseValue_stringify value ((stringify value ++ js "\n").length + 1) (js "\n") h
    (by rw [List.length_append]; omega) (delimited_cons (by decide))
  rw [parse, hvalue]
  rfl

theorem requiredText_of_get? {value : Value} {key : String} {text : JsString}
    (h : value.get? (js key) = some (.str text)) (hne : text ≠ []) : requiredText value key = some text := by
  rw [requiredText, h]
  exact if_neg hne

theorem requiredNatural_of_get? {value : Value} {key : String} {n : Nat}
    (h : value.get? (js key) = some (natural n)) (hn : n ≤ MAX_TIME_MS) : requiredNatural value key = some n := by
  have hsafe : (isSafeInteger (n : Int) && decide (0 ≤ (n : Int))) = true := by
    simp only [isSafeInteger, MAX_TIME_MS, Bool.and_eq_true, decide_eq_true_eq] at hn ⊢
    omega
  rw [requiredNatural, h]
  exact if_pos hsafe

theorem parse_encodeUploadManifest (manifest : StoredUploadManifest) :
    parse (bufferText (encodeUploadManifest manifest)) = some (.obj manifest.members) := by
  have hwell : WellFormed (stringify (.obj manifest.members) ++ js "\n") :=
    (wellFormed_stringify _ (canonical_members manifest)).append ⟨_, rfl⟩
  rw [encodeUploadManifest, bufferText_textEncode hwell, parse_line (canonical_members manifest)]

/-- What the server writes as a manifest it reads back. -/
theorem readUploadManifest_encode {manifest : StoredUploadManifest} (h : manifest.Valid) :
    readUploadManifest (encodeUploadManifest manifest) = some manifest := by
  rw [readUploadManifest, parse_encodeUploadManifest]
  obtain ⟨uploadId, state, fileName, mimeType, size, path, createdAt, updatedAt, digest⟩ := manifest
  let value : Value := .obj (StoredUploadManifest.members
    ⟨uploadId, state, fileName, mimeType, size, path, createdAt, updatedAt, digest⟩)
  have hversion : ¬ ¬ (value.get? (js "version")).any (·.isInt UPLOAD_MANIFEST_VERSION) = true := by
    cases state <;> exact not_not.mpr rfl
  have hstate : uploadState? value = some state := by
    cases state <;> rfl
  have hid : requiredText value "uploadId" = some uploadId := by
    cases state <;> exact requiredText_of_get? rfl h.uploadId
  have hname : requiredText value "fileName" = some fileName := by
    cases state <;> exact requiredText_of_get? rfl h.fileName
  have htype : requiredText value "mimeType" = some mimeType := by
    cases state <;> exact requiredText_of_get? rfl h.mimeType
  have hsize : requiredNatural value "size" = some size := by
    cases state <;> exact requiredNatural_of_get? rfl h.size
  have hpath : requiredText value "path" = some path := by
    cases state <;> exact requiredText_of_get? rfl h.path
  have hcreated : requiredNatural value "createdAt" = some createdAt := by
    cases state <;> exact requiredNatural_of_get? rfl h.createdAt
  have hupdated : requiredNatural value "updatedAt" = some updatedAt := by
    cases state <;> exact requiredNatural_of_get? rfl h.updatedAt
  have hdigest : digest? value = some digest := by
    cases digest with
    | none => cases state <;> rfl
    | some digest =>
      have hsame : digest? value = if isDigestText digest then some (some digest) else none := by
        cases state <;> rfl
      rw [hsame, if_pos (h.digest digest rfl)]
  simp only [Option.bind_eq_bind, Option.bind_some]
  rw [if_neg hversion, hstate, hid, hname, htype, hsize, hpath, hcreated, hupdated, hdigest]
  rfl

end pipane.local_backend_api
