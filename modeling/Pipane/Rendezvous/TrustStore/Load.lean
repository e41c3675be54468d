import Pipane.Rendezvous.TrustStore

open javascript json durable pipane.trust_protocol pipane.node_trust_crypto

namespace pipane.trust_store

def STORE_VERSION : Int := 1

def strings (texts : List JsString) : Value :=
  .arr (texts.map .str)

def integer (n : Int) : Value :=
  .num (.int n)

/-- A record as JSON. -/
def recordValue {α : Type} (record : OrderedMap JsString α) (entry : α → Value) : Value :=
  .obj (record.mapValues fun _ => entry).entries

def StoredAccount.value (account : StoredAccount) : Value :=
  .obj [(js "accountId", .str account.accountId), (js "deviceIds", strings account.deviceIds),
    (js "backendIds", strings account.backendIds), (js "createdAt", integer account.createdAt)]

def StoredDevice.value (device : StoredDevice) : Value :=
  .obj ([(js "deviceId", .str device.deviceId), (js "publicKey", .str device.publicKey),
    (js "accountId", .str device.accountId), (js "createdAt", integer device.createdAt)] ++
    property "revokedAt" (device.revokedAt.map integer))

def BackendRevocation.value (revocation : BackendRevocation) : Value :=
  .obj [(js "accountId", .str revocation.accountId), (js "revokedAt", integer revocation.revokedAt)]

def PairingCompletion.value (completion : PairingCompletion) : Value :=
  .obj [(js "pairId", .str completion.pairId), (js "ticketId", .str completion.ticketId),
    (js "accountId", .str completion.accountId), (js "deviceId", .str completion.deviceId),
    (js "backendId", .str completion.backendId), (js "completedAt", integer completion.completedAt)]

def StoredDeviceInvite.value (invite : StoredDeviceInvite) : Value :=
  .obj [(js "inviteId", .str invite.inviteId), (js "secretHash", .str invite.secretHash),
    (js "accountId", .str invite.accountId), (js "createdByDeviceId", .str invite.createdByDeviceId),
    (js "createdAt", integer invite.createdAt), (js "expiresAt", integer invite.expiresAt)]

/-- What the file holds after the state was written. -/
def StoredTrustState.value (state : StoredTrustState) : Value :=
  .obj [(js "version", integer STORE_VERSION), (js "accounts", recordValue state.accounts StoredAccount.value),
    (js "devices", recordValue state.devices StoredDevice.value),
    (js "backendOwners", recordValue state.backendOwners .str),
    (js "backendRevocations", recordValue state.backendRevocations BackendRevocation.value),
    (js "pairingCompletions", recordValue state.pairingCompletions PairingCompletion.value),
    (js "deviceInvites", recordValue state.deviceInvites StoredDeviceInvite.value),
    (js "usedTickets", recordValue state.usedTickets integer)]

def isRecord : Option Value → Bool
  | some (.obj _) => true
  | _ => false

def isRecordOf (value : Option Value) (predicate : Value → JsString → Bool) : Bool :=
  match value with
  | some (.obj members) => members.all fun member => predicate member.2 member.1
  | _ => false

def isNonEmptyString (value : Option Value) : Bool :=
  (nonEmptyString? value).isSome

def isStringArray : Option Value → Bool
  | some (.arr items) => items.all fun item => isNonEmptyString (some item)
  | _ => false

def isNonNegativeInteger (value : Option Value) : Bool :=
  (nonNegativeInteger? value).isSome

/-- `invite.expiresAt > invite.createdAt` of two integers. -/
def exceeds (later earlier : Option Value) : Bool :=
  match later, earlier with
  | some (.num (.int later)), some (.num (.int earlier)) => earlier < later
  | _, _ => false

def isTrustState (value : Value) : Bool :=
  (value.get? (js "version")).any (·.isInt STORE_VERSION) &&
  isRecordOf (value.get? (js "accounts")) (fun account key =>
    isRecord (some account) && isStr key (account.get? (js "accountId")) &&
    isStringArray (account.get? (js "deviceIds")) && isStringArray (account.get? (js "backendIds")) &&
    isNonNegativeInteger (account.get? (js "createdAt"))) &&
  isRecordOf (value.get? (js "devices")) (fun device key =>
    isRecord (some device) && isStr key (device.get? (js "deviceId")) &&
    isNonEmptyString (device.get? (js "publicKey")) && isNonEmptyString (device.get? (js "accountId")) &&
    isNonNegativeInteger (device.get? (js "createdAt")) &&
    ((device.get? (js "revokedAt")).isNone || isNonNegativeInteger (device.get? (js "revokedAt")))) &&
  isRecordOf (value.get? (js "backendOwners")) (fun accountId _ => isNonEmptyString (some accountId)) &&
  ((value.get? (js "backendRevocations")).isNone ||
    isRecordOf (value.get? (js "backendRevocations")) (fun revocation _ =>
      isRecord (some revocation) && isNonEmptyString (revocation.get? (js "accountId")) &&
      isNonNegativeInteger (revocation.get? (js "revokedAt")))) &&
  isRecordOf (value.get? (js "pairingCompletions")) (fun completion key =>
    isRecord (some completion) && isStr key (completion.get? (js "pairId")) &&
    isNonEmptyString (completion.get? (js "ticketId")) && isNonEmptyString (completion.get? (js "accountId")) &&
    isNonEmptyString (completion.get? (js "deviceId")) && isNonEmptyString (completion.get? (js "backendId")) &&
    isNonNegativeInteger (completion.get? (js "completedAt"))) &&
  ((value.get? (js "deviceInvites")).isNone ||
    isRecordOf (value.get? (js "deviceInvites")) (fun invite key =>
      isRecord (some invite) && isStr key (invite.get? (js "inviteId")) &&
      isNonEmptyString (invite.get? (js "secretHash")) && isNonEmptyString (invite.get? (js "accountId")) &&
      isNonEmptyString (invite.get? (js "createdByDeviceId")) &&
      isNonNegativeInteger (invite.get? (js "createdAt")) && isNonNegativeInteger (invite.get? (js "expiresAt")) &&
      exceeds (invite.get? (js "expiresAt")) (invite.get? (js "createdAt")))) &&
  isRecordOf (value.get? (js "usedTickets")) (fun expiresAt _ => isNonNegativeInteger (some expiresAt))

/-- A thrown error of `deriveDeviceId` makes the references inconsistent. -/
def hasConsistentReferences (crypto : NodeCrypto) (state : StoredTrustState) : Bool :=
  state.devices.values.all (fun device =>
    (match deriveDeviceId crypto device.publicKey with
      | .ok deviceId => deviceId = device.deviceId
      | .error _ => false) &&
    (state.accounts.get? device.accountId).any fun account => device.deviceId ∈ account.deviceIds) &&
  state.accounts.values.all (fun account =>
    account.deviceIds.all (fun deviceId =>
      (state.devices.get? deviceId).map (·.accountId) = some account.accountId) &&
    account.backendIds.all fun backendId => state.backendOwners.get? backendId = some account.accountId) &&
  state.backendOwners.entries.all (fun owner =>
    (state.accounts.get? owner.2).any fun account => owner.1 ∈ account.backendIds) &&
  state.deviceInvites.values.all fun invite =>
    (state.accounts.get? invite.accountId).isSome &&
    (state.devices.get? invite.createdByDeviceId).map (·.accountId) = some invite.accountId

/-- Whether the next start accepts the file to which this state was written. -/
def loads (crypto : NodeCrypto) (state : StoredTrustState) : Bool :=
  isTrustState state.value && hasConsistentReferences crypto state

/-! The two checks as statements about the records. -/

def NonNegative (n : Int) : Prop :=
  0 ≤ n ∧ n ≤ 9007199254740991

def StoredAccount.Ok (key : JsString) (account : StoredAccount) : Prop :=
  account.accountId = key ∧ [] ∉ account.deviceIds ∧ [] ∉ account.backendIds ∧ NonNegative account.createdAt

def StoredDevice.Ok (key : JsString) (device : StoredDevice) : Prop :=
  device.deviceId = key ∧ device.publicKey ≠ [] ∧ device.accountId ≠ [] ∧ NonNegative device.createdAt ∧
    ∀ revokedAt, device.revokedAt = some revokedAt → NonNegative revokedAt

def PairingCompletion.Ok (key : JsString) (completion : PairingCompletion) : Prop :=
  completion.pairId = key ∧ completion.ticketId ≠ [] ∧ completion.accountId ≠ [] ∧ completion.deviceId ≠ [] ∧
    completion.backendId ≠ [] ∧ NonNegative completion.completedAt

def StoredDeviceInvite.Ok (key : JsString) (invite : StoredDeviceInvite) : Prop :=
  invite.inviteId = key ∧ invite.secretHash ≠ [] ∧ invite.accountId ≠ [] ∧ invite.createdByDeviceId ≠ [] ∧
    NonNegative invite.createdAt ∧ NonNegative invite.expiresAt ∧ invite.createdAt < invite.expiresAt

/-- `isTrustState` of a written state. -/
structure StoredTrustState.WellTyped (state : StoredTrustState) : Prop where
  accounts : ∀ id account, state.accounts.get? id = some account → account.Ok id
  devices : ∀ id device, state.devices.get? id = some device → device.Ok id
  owners : ∀ id accountId, state.backendOwners.get? id = some accountId → accountId ≠ []
  revocations : ∀ id revocation, state.backendRevocations.get? id = some revocation →
    revocation.accountId ≠ [] ∧ NonNegative revocation.revokedAt
  completions : ∀ id completion, state.pairingCompletions.get? id = some completion → completion.Ok id
  invites : ∀ id invite, state.deviceInvites.get? id = some invite → invite.Ok id
  tickets : ∀ id expiresAt, state.usedTickets.get? id = some expiresAt → NonNegative expiresAt

/-- `hasConsistentReferences`. -/
structure StoredTrustState.Consistent (crypto : NodeCrypto) (state : StoredTrustState) : Prop where
  derived : ∀ id device, state.devices.get? id = some device →
    deriveDeviceId crypto device.publicKey = .ok device.deviceId
  listed : ∀ id device, state.devices.get? id = some device →
    ∃ account, state.accounts.get? device.accountId = some account ∧ device.deviceId ∈ account.deviceIds
  members : ∀ id account, state.accounts.get? id = some account → ∀ deviceId ∈ account.deviceIds,
    ∃ device, state.devices.get? deviceId = some device ∧ device.accountId = account.accountId
  owned : ∀ id account, state.accounts.get? id = some account → ∀ backendId ∈ account.backendIds,
    state.backendOwners.get? backendId = some account.accountId
  owners : ∀ id accountId, state.backendOwners.get? id = some accountId →
    ∃ account, state.accounts.get? accountId = some account ∧ id ∈ account.backendIds
  invites : ∀ id invite, state.deviceInvites.get? id = some invite →
    (∃ account, state.accounts.get? invite.accountId = some account) ∧
      ∃ device, state.devices.get? invite.createdByDeviceId = some device ∧ device.accountId = invite.accountId

theorem isRecordOf_recordValue {α : Type} (record : OrderedMap JsString α) (entry : α → Value)
    (predicate : Value → JsString → Bool) :
    isRecordOf (some (recordValue record entry)) predicate = true ↔
      ∀ id a, record.get? id = some a → predicate (entry a) id = true := by
  simp only [isRecordOf, recordValue, OrderedMap.mapValues, List.all_map, List.all_eq_true]
  constructor
  · intro h id a hget
    exact h (id, a) (OrderedMap.mem_entries_iff.mpr hget)
  · rintro h ⟨id, a⟩ hmem
    exact h id a (OrderedMap.mem_entries_iff.mp hmem)

theorem isNonEmptyString_str (s : JsString) : isNonEmptyString (some (.str s)) = true ↔ s ≠ [] := by
  by_cases h : s = []
  · simp [isNonEmptyString, nonEmptyString?, h]
  · simp [isNonEmptyString, nonEmptyString?, h]

theorem isNonNegativeInteger_integer (n : Int) :
    isNonNegativeInteger (some (integer n)) = true ↔ NonNegative n := by
  have hcheck : (isSafeInteger n = true ∧ 0 ≤ n) ↔ NonNegative n := by
    simp only [isSafeInteger, NonNegative, Bool.and_eq_true, decide_eq_true_eq]
    omega
  simp only [isNonNegativeInteger, nonNegativeInteger?, integer]
  by_cases h : NonNegative n
  · simp [hcheck.mpr h, h]
  · rw [if_neg fun hboth => h (hcheck.mp hboth)]
    simp [h]

theorem isStringArray_strings (texts : List JsString) :
    isStringArray (some (strings texts)) = true ↔ [] ∉ texts := by
  simp only [isStringArray, strings, List.all_map, List.all_eq_true, Function.comp_apply, isNonEmptyString_str]
  constructor
  · exact fun h hmem => h [] hmem rfl
  · exact fun h text hmem heq => h (heq ▸ hmem)

theorem isStr_str (s t : JsString) : isStr s (some (.str t)) = true ↔ t = s := by
  simp [isStr, Value.isStr]

theorem exceeds_integer (later earlier : Int) :
    exceeds (some (integer later)) (some (integer earlier)) = true ↔ earlier < later := by
  simp [exceeds, integer]

section

variable (key : JsString)

theorem account_check (account : StoredAccount) :
    (isRecord (some account.value) && isStr key (account.value.get? (js "accountId")) &&
      isStringArray (account.value.get? (js "deviceIds")) && isStringArray (account.value.get? (js "backendIds")) &&
      isNonNegativeInteger (account.value.get? (js "createdAt"))) = true ↔ account.Ok key := by
  have haccountId : account.value.get? (js "accountId") = some (.str account.accountId) := rfl
  have hdeviceIds : account.value.get? (js "deviceIds") = some (strings account.deviceIds) := rfl
  have hbackendIds : account.value.get? (js "backendIds") = some (strings account.backendIds) := rfl
  have hcreatedAt : account.value.get? (js "createdAt") = some (integer account.createdAt) := rfl
  have hrecord : isRecord (some account.value) = true := rfl
  simp only [haccountId, hdeviceIds, hbackendIds, hcreatedAt, hrecord, Bool.and_eq_true, isStr_str,
    isStringArray_strings, isNonNegativeInteger_integer, StoredAccount.Ok, true_and, and_assoc]

theorem device_check (device : StoredDevice) :
    (isRecord (some device.value) && isStr key (device.value.get? (js "deviceId")) &&
      isNonEmptyString (device.value.get? (js "publicKey")) && isNonEmptyString (device.value.get? (js "accountId")) &&
      isNonNegativeInteger (device.value.get? (js "createdAt")) &&
      ((device.value.get? (js "revokedAt")).isNone ||
        isNonNegativeInteger (device.value.get? (js "revokedAt")))) = true ↔ device.Ok key := by
  have hdeviceId : device.value.get? (js "deviceId") = some (.str device.deviceId) := rfl
  have hpublicKey : device.value.get? (js "publicKey") = some (.str device.publicKey) := rfl
  have haccountId : device.value.get? (js "accountId") = some (.str device.accountId) := rfl
  have hcreatedAt : device.value.get? (js "createdAt") = some (integer device.createdAt) := rfl
  have hrevokedAt : device.value.get? (js "revokedAt") = device.revokedAt.map integer := by
    cases hrevoked : device.revokedAt with
    | none =>
      simp only [StoredDevice.value, hrevoked]
      rfl
    | some revokedAt =>
      simp only [StoredDevice.value, hrevoked]
      rfl
  have hrecord : isRecord (some device.value) = true := rfl
  rw [hdeviceId, hpublicKey, haccountId, hcreatedAt, hrevokedAt, hrecord]
  simp only [Bool.and_eq_true, Bool.or_eq_true, isStr_str, isNonEmptyString_str, isNonNegativeInteger_integer,
    StoredDevice.Ok, true_and, and_assoc]
  cases device.revokedAt with
  | none => simp
  | some revokedAt => simp [isNonNegativeInteger_integer]

theorem revocation_check (revocation : BackendRevocation) :
    (isRecord (some revocation.value) && isNonEmptyString (revocation.value.get? (js "accountId")) &&
      isNonNegativeInteger (revocation.value.get? (js "revokedAt"))) = true ↔
      revocation.accountId ≠ [] ∧ NonNegative revocation.revokedAt := by
  have haccountId : revocation.value.get? (js "accountId") = some (.str revocation.accountId) := rfl
  have hrevokedAt : revocation.value.get? (js "revokedAt") = some (integer revocation.revokedAt) := rfl
  have hrecord : isRecord (some revocation.value) = true := rfl
  simp only [haccountId, hrevokedAt, hrecord, Bool.and_eq_true, isNonEmptyString_str, isNonNegativeInteger_integer,
    true_and]

theorem completion_check (completion : PairingCompletion) :
    (isRecord (some completion.value) && isStr key (completion.value.get? (js "pairId")) &&
      isNonEmptyString (completion.value.get? (js "ticketId")) &&
      isNonEmptyString (completion.value.get? (js "accountId")) &&
      isNonEmptyString (completion.value.get? (js "deviceId")) &&
      isNonEmptyString (completion.value.get? (js "backendId")) &&
      isNonNegativeInteger (completion.value.get? (js "completedAt"))) = true ↔ completion.Ok key := by
  have hpairId : completion.value.get? (js "pairId") = some (.str completion.pairId) := rfl
  have hticketId : completion.value.get? (js "ticketId") = some (.str completion.ticketId) := rfl
  have haccountId : completion.value.get? (js "accountId") = some (.str completion.accountId) := rfl
  have hdeviceId : completion.value.get? (js "deviceId") = some (.str completion.deviceId) := rfl
  have hbackendId : completion.value.get? (js "backendId") = some (.str completion.backendId) := rfl
  have hcompletedAt : completion.value.get? (js "completedAt") = some (integer completion.completedAt) := rfl
  have hrecord : isRecord (some completion.value) = true := rfl
  simp only [hpairId, hticketId, haccountId, hdeviceId, hbackendId, hcompletedAt, hrecord, Bool.and_eq_true,
    isStr_str, isNonEmptyString_str, isNonNegativeInteger_integer, PairingCompletion.Ok, true_and, and_assoc]

theorem invite_check (invite : StoredDeviceInvite) :
    (isRecord (some invite.value) && isStr key (invite.value.get? (js "inviteId")) &&
      isNonEmptyString (invite.value.get? (js "secretHash")) && isNonEmptyString (invite.value.get? (js "accountId")) &&
      isNonEmptyString (invite.value.get? (js "createdByDeviceId")) &&
      isNonNegativeInteger (invite.value.get? (js "createdAt")) &&
      isNonNegativeInteger (invite.value.get? (js "expiresAt")) &&
      exceeds (invite.value.get? (js "expiresAt")) (invite.value.get? (js "createdAt"))) = true ↔ invite.Ok key := by
  have hinviteId : invite.value.get? (js "inviteId") = some (.str invite.inviteId) := rfl
  have hsecretHash : invite.value.get? (js "secretHash") = some (.str invite.secretHash) := rfl
  have haccountId : invite.value.get? (js "accountId") = some (.str invite.accountId) := rfl
  have hcreatedBy : invite.value.get? (js "createdByDeviceId") = some (.str invite.createdByDeviceId) := rfl
  have hcreatedAt : invite.value.get? (js "createdAt") = some (integer invite.createdAt) := rfl
  have hexpiresAt : invite.value.get? (js "expiresAt") = some (integer invite.expiresAt) := rfl
  have hrecord : isRecord (some invite.value) = true := rfl
  simp only [hinviteId, hsecretHash, haccountId, hcreatedBy, hcreatedAt, hexpiresAt, hrecord, Bool.and_eq_true,
    isStr_str, isNonEmptyString_str, isNonNegativeInteger_integer, exceeds_integer, StoredDeviceInvite.Ok, true_and,
    and_assoc]

end

theorem isTrustState_value (state : StoredTrustState) : isTrustState state.value = true ↔ state.WellTyped := by
  have hversion : state.value.get? (js "version") = some (integer STORE_VERSION) := rfl
  have haccounts : state.value.get? (js "accounts") = some (recordValue state.accounts StoredAccount.value) := rfl
  have hdevices : state.value.get? (js "devices") = some (recordValue state.devices StoredDevice.value) := rfl
  have howners : state.value.get? (js "backendOwners") = some (recordValue state.backendOwners .str) := rfl
  have hrevocations : state.value.get? (js "backendRevocations") =
    some (recordValue state.backendRevocations BackendRevocation.value) := rfl
  have hcompletions : state.value.get? (js "pairingCompletions") =
    some (recordValue state.pairingCompletions PairingCompletion.value) := rfl
  have hinvites : state.value.get? (js "deviceInvites") =
    some (recordValue state.deviceInvites StoredDeviceInvite.value) := rfl
  have htickets : state.value.get? (js "usedTickets") = some (recordValue state.usedTickets integer) := rfl
  have hinteger : (integer STORE_VERSION).isInt STORE_VERSION = true := rfl
  rw [isTrustState, hversion, haccounts, hdevices, howners, hrevocations, hcompletions, hinvites, htickets]
  rw [Option.any_some, hinteger, Option.isNone_some, Option.isNone_some, Bool.true_and, Bool.false_or, Bool.false_or]
  rw [Bool.and_eq_true, Bool.and_eq_true, Bool.and_eq_true, Bool.and_eq_true, Bool.and_eq_true, Bool.and_eq_true,
    isRecordOf_recordValue, isRecordOf_recordValue, isRecordOf_recordValue, isRecordOf_recordValue,
    isRecordOf_recordValue, isRecordOf_recordValue, isRecordOf_recordValue]
  simp only [account_check, device_check, revocation_check, completion_check, invite_check, isNonEmptyString_str,
    isNonNegativeInteger_integer]
  constructor
  · rintro ⟨⟨⟨⟨⟨⟨haccounts, hdevices⟩, howners⟩, hrevocations⟩, hcompletions⟩, hinvites⟩, htickets⟩
    exact ⟨haccounts, hdevices, howners, hrevocations, hcompletions, hinvites, htickets⟩
  · rintro ⟨haccounts, hdevices, howners, hrevocations, hcompletions, hinvites, htickets⟩
    exact ⟨⟨⟨⟨⟨⟨haccounts, hdevices⟩, howners⟩, hrevocations⟩, hcompletions⟩, hinvites⟩, htickets⟩

theorem hasConsistentReferences_iff (crypto : NodeCrypto) (state : StoredTrustState) :
    hasConsistentReferences crypto state = true ↔ state.Consistent crypto := by
  have hderives : ∀ device : StoredDevice,
      (match deriveDeviceId crypto device.publicKey with
        | .ok deviceId => decide (deviceId = device.deviceId)
        | .error _ => false) = true ↔ deriveDeviceId crypto device.publicKey = .ok device.deviceId := by
    intro device
    cases deriveDeviceId crypto device.publicKey with
    | ok deviceId => simp
    | error message => simp
  simp only [hasConsistentReferences, Bool.and_eq_true, List.all_eq_true, Option.any_eq_true, decide_eq_true_eq,
    Option.isSome_iff_exists, hderives, Option.map_eq_some_iff]
  constructor
  · rintro ⟨⟨⟨hdevices, haccounts⟩, howners⟩, hinvites⟩
    refine ⟨fun id device h => (hdevices device (OrderedMap.mem_values_of_get? h)).1,
      fun id device h => (hdevices device (OrderedMap.mem_values_of_get? h)).2,
      fun id account h => (haccounts account (OrderedMap.mem_values_of_get? h)).1,
      fun id account h => (haccounts account (OrderedMap.mem_values_of_get? h)).2,
      fun id accountId h => howners (id, accountId) (OrderedMap.mem_entries_iff.mpr h),
      fun id invite h => hinvites invite (OrderedMap.mem_values_of_get? h)⟩
  · rintro ⟨hderived, hlisted, hmembers, howned, howners, hinvites⟩
    refine ⟨⟨⟨?_, ?_⟩, ?_⟩, ?_⟩
    · intro device hdevice
      obtain ⟨id, hget⟩ := OrderedMap.exists_of_mem_values hdevice
      exact ⟨hderived id device hget, hlisted id device hget⟩
    · intro account haccount
      obtain ⟨id, hget⟩ := OrderedMap.exists_of_mem_values haccount
      exact ⟨hmembers id account hget, howned id account hget⟩
    · rintro ⟨id, accountId⟩ howner
      exact howners id accountId (OrderedMap.mem_entries_iff.mp howner)
    · intro invite hinvite
      obtain ⟨id, hget⟩ := OrderedMap.exists_of_mem_values hinvite
      exact hinvites id invite hget

theorem loads_iff (crypto : NodeCrypto) (state : StoredTrustState) :
    loads crypto state = true ↔ state.WellTyped ∧ state.Consistent crypto := by
  rw [loads, Bool.and_eq_true, isTrustState_value, hasConsistentReferences_iff]

/-- A run of the trust store over the starts of its process. -/
inductive Event
  | request (request : Request)
  | restart

/-- A restart reads the file. Where the loader refuses the file the process does not come up, and nothing happens. -/
def next (options : TrustStoreOptions) (store : RendezvousTrustStore) : Event → RendezvousTrustStore
  | .request request => afterCall options store request
  | .restart => if loads options.crypto store.disk then store.restarted ∅ else store

end pipane.trust_store
