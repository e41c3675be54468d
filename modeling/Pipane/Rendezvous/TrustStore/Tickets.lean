import Pipane.Lib.Json.RoundTrip
import Pipane.Rendezvous.TrustStore.Authority
import Pipane.Server.BackendTrustStore.UsedTickets

open javascript json durable transition pipane.trust_protocol pipane.node_trust_crypto
open pipane.backend_trust_store (Remembers)

namespace pipane.trust_store

/-- The rendezvous and one backend, with the claims that the ticket key signed, the tickets that were accepted and
    marked as used so far, and the latest time at which the backend dropped expired tickets. -/
structure TicketHistory where
  rendezvous : RendezvousTrustStore
  backend : backend_trust_store.BackendTrustStore
  signed : List JsString := []
  accepted : List ConnectionTicketClaims := []
  marked : List ConnectionTicketClaims := []
  prunedAt : Option Int := none

inductive TicketEvent
  | rendezvous (event : Event)
  | backend (event : backend_trust_store.Event)

def signedBy : Option Reply → List JsString
  | some (.ticket issued) => [encodeClaims issued.claims]
  | _ => []

def acceptedBy (call : Call) (reply : Option Reply) : List ConnectionTicketClaims :=
  match call, reply with
  | .consumeRouteTicket _, some (.claims claims) => [claims]
  | _, _ => []

def markedBy (call : backend_trust_store.Call) (reply : Option backend_trust_store.Reply) :
    List ConnectionTicketClaims :=
  match call, reply with
  | .markTicketUsed claims, some _ => [claims]
  | _, _ => []

def observe (options : TrustStoreOptions) (history : TicketHistory) : TicketEvent → TicketHistory
  | .rendezvous (.request request) =>
    let reply := replyOf options history.rendezvous request
    { history with
      rendezvous := afterCall options history.rendezvous request
      signed := signedBy reply ++ history.signed
      accepted := acceptedBy request.call reply ++ history.accepted }
  | .rendezvous .restart => { history with rendezvous := next options history.rendezvous .restart }
  | .backend (.request request) =>
    let reply := backend_trust_store.replyOf options.crypto history.backend request
    { history with
      backend := backend_trust_store.afterCall options.crypto history.backend request
      marked := markedBy request.call reply ++ history.marked
      prunedAt := if backend_trust_store.prunes request.call then some (backend_trust_store.meeting history.backend request).tick.clock
        else history.prunedAt }
  | .backend .restart =>
    { history with backend := backend_trust_store.next options.crypto history.backend .restart }

/-- The claims of a ticket by their encoding. -/
def claimsOf (encodedClaims : JsString) : Option ConnectionTicketClaims :=
  match decodeClaims encodedClaims with
  | .ok value => parseConnectionTicketClaims value
  | .error _ => none

/-- The claims of a ticket that the rendezvous signed. -/
def FromSigned (signed : List JsString) (claims : ConnectionTicketClaims) : Prop :=
  ∃ encodedClaims ∈ signed, claimsOf encodedClaims = some claims

/-- What `JSON.parse` makes of a request body. -/
structure Parsed (request : DeviceChallengeRequest) : Prop where
  backendId : ∀ value, request.backendId = some value → value.Canonical
  connectionId : ∀ value, request.connectionId = some value → value.Canonical
  pairId : ∀ value, request.pairId = some value → value.Canonical

/-- Request bodies were parsed, a signature that verifies under the ticket key was made with it, and the backend
    marks tickets whose signature it verified. -/
def Genuine (options : TrustStoreOptions) (history : TicketHistory) : TicketEvent → Prop
  | .rendezvous (.request request) =>
    match request.call with
    | .createChallenge body => Parsed body
    | .consumeRouteTicket ticket => ∀ encodedClaims signature, splitTicket ticket = some (encodedClaims, signature) →
        verifyDeviceSignature options.crypto options.ticketPublicKey (connectionTicketSignaturePayload encodedClaims)
          signature = true → encodedClaims ∈ history.signed
    | _ => True
  | .backend (.request request) =>
    match request.call with
    | .markTicketUsed claims => FromSigned history.signed claims
    | _ => True
  | _ => True

/-- A ticket that is found unexpired has not expired either when the used tickets are looked through, and a ticket
    that is marked as used had not expired when the backend last dropped tickets. -/
def InTime (options : TrustStoreOptions) (history : TicketHistory) : TicketEvent → Prop
  | .rendezvous (.request request) =>
    match request.call with
    | .consumeRouteTicket ticket => ∀ claims,
        verifyConnectionTicket options.crypto ticket options.ticketPublicKey
          (meeting history.rendezvous request).tick.clock = .ok claims →
        (meeting history.rendezvous request).tick.tick.clock < claims.expiresAt
    | _ => True
  | .backend (.request request) =>
    match request.call with
    | .markTicketUsed claims => ∀ time, history.prunedAt = some time → time < claims.expiresAt
    | _ => True
  | _ => True

/-- No ticket id was accepted twice, and none was marked twice. -/
def SingleUse (history : TicketHistory) : Prop :=
  (history.accepted.map (·.ticketId)).Nodup ∧ (history.marked.map (·.ticketId)).Nodup

section

variable {options : TrustStoreOptions}

theorem canonicalMembers_append {xs ys : List (JsString × Value)} (hxs : CanonicalMembers xs)
    (hys : CanonicalMembers ys) : CanonicalMembers (xs ++ ys) := by
  induction xs with
  | nil => exact hys
  | cons member xs ih => exact ⟨hxs.1, ih hxs.2⟩

theorem canonical_property {name : String} {value : Option Value}
    (h : ∀ v, value = some v → v.Canonical) : CanonicalMembers (property name value) := by
  cases value with
  | none => exact trivial
  | some v => exact ⟨h v rfl, trivial⟩

theorem keys_property (name : String) (value : Option Value) :
    ((property name value).map Prod.fst).Sublist [js name] := by
  cases value with
  | none => exact List.nil_sublist _
  | some v => exact List.Sublist.refl _

/-- The names of the properties of claims, in the order in which they are written. -/
private def claimNames : List String :=
  ["version", "kind", "ticketId", "backendId", "connectionId", "deviceId", "devicePublicKey", "accountId", "pairId",
    "issuedAt", "expiresAt"]

theorem claimsValue_canonical {kind : ConnectionTicketKind} {ticketId devicePublicKey : JsString}
    {challenge : DeviceChallenge} {accountId : Option JsString} {pairId : Option Value} {issuedAt expiresAt : Int}
    (hbackendId : ∀ v, challenge.backendId = some v → v.Canonical)
    (hconnectionId : ∀ v, challenge.connectionId = some v → v.Canonical)
    (hpairId : ∀ v, pairId = some v → v.Canonical) :
    (claimsValue kind ticketId challenge devicePublicKey accountId pairId issuedAt expiresAt).Canonical := by
  have hstr : ∀ (s : JsString) (v : Value), some (.str s) = some v → v.Canonical := by
    rintro s v h
    cases h
    exact trivial
  have hint : ∀ (n : Int) (v : Value), some (.num (.int n)) = some v → v.Canonical := by
    rintro n v h
    cases h
    exact trivial
  have haccountId : ∀ v, accountId.map Value.str = some v → v.Canonical := by
    intro v h
    cases accountId with
    | none => cases h
    | some id =>
      cases h
      exact trivial
  constructor
  · refine List.Sublist.nodup ?_ (show (claimNames.map js).Nodup by decide)
    simp only [List.map_append]
    exact ((((((((((keys_property _ _).append (keys_property _ _)).append (keys_property _ _)).append
      (keys_property _ _)).append (keys_property _ _)).append (keys_property _ _)).append (keys_property _ _)).append
      (keys_property _ _)).append (keys_property _ _)).append (keys_property _ _)).append (keys_property _ _)
  · exact canonicalMembers_append (canonicalMembers_append (canonicalMembers_append (canonicalMembers_append
      (canonicalMembers_append (canonicalMembers_append (canonicalMembers_append (canonicalMembers_append
      (canonicalMembers_append (canonicalMembers_append (canonical_property (hint _)) (canonical_property (hstr _)))
      (canonical_property (hstr _))) (canonical_property hbackendId)) (canonical_property hconnectionId))
      (canonical_property (hstr _))) (canonical_property (hstr _))) (canonical_property haccountId))
      (canonical_property hpairId)) (canonical_property (hint _))) (canonical_property (hint _))

theorem decodeClaims_encodeClaims {value : Value} (h : value.Canonical) :
    decodeClaims (encodeClaims value) = .ok value := by
  unfold decodeClaims encodeClaims
  rw [base64.decodeUrl_encodeUrl, if_neg (by simp), bufferText_textEncode (wellFormed_stringify value h),
    parse_stringify h]
  rfl

theorem decimal_injective {m n : Nat} (h : decimal m = decimal n) : m = n := by
  rw [← digitsValue_decimal m, h, digitsValue_decimal]

/-- The tickets that were signed, by the number that their id was drawn with. -/
structure SignedOk (signed : List JsString) (drawn : Nat) : Prop where
  issued : ∃ issued : List (Nat × Value), signed = issued.map (fun ticket => encodeClaims ticket.2) ∧
    (issued.map Prod.fst).Nodup ∧ ∀ ticket ∈ issued, ticket.1 < drawn ∧ ticket.2.Canonical ∧
      ticket.2.get? (js "ticketId") = some (.str (TICKET_ID_PREFIX ++ decimal ticket.1))

theorem SignedOk.later {signed : List JsString} {drawn later : Nat} (h : SignedOk signed drawn) (hlater : drawn ≤ later) :
    SignedOk signed later := by
  obtain ⟨issued, hsigned, hnodup, hissued⟩ := h.issued
  refine ⟨issued, hsigned, hnodup, fun ticket hticket => ?_⟩
  exact ⟨(hissued ticket hticket).1.trans_le hlater, (hissued ticket hticket).2⟩

theorem SignedOk.cons {signed : List JsString} {drawn later n : Nat} {value : Value} (h : SignedOk signed drawn)
    (hn : drawn ≤ n) (hlater : n < later) (hcanonical : value.Canonical)
    (hid : value.get? (js "ticketId") = some (.str (TICKET_ID_PREFIX ++ decimal n))) :
    SignedOk (encodeClaims value :: signed) later := by
  obtain ⟨issued, rfl, hnodup, hissued⟩ := h.issued
  refine ⟨(n, value) :: issued, rfl, ?_, ?_⟩
  · rw [List.map_cons, List.nodup_cons]
    refine ⟨fun hmem => ?_, hnodup⟩
    obtain ⟨ticket, hticket, hsame⟩ := List.mem_map.mp hmem
    have hdrawn := (hissued ticket hticket).1
    omega
  · intro ticket hticket
    obtain rfl | hticket := List.mem_cons.mp hticket
    · exact ⟨hlater, hcanonical, hid⟩
    · exact ⟨(hissued ticket hticket).1.trans (hn.trans_lt hlater), (hissued ticket hticket).2⟩

/-- Signed tickets with the same id have the same claims. -/
theorem SignedOk.unique {signed : List JsString} {drawn : Nat} (h : SignedOk signed drawn)
    {claims other : ConnectionTicketClaims} (hclaims : FromSigned signed claims) (hother : FromSigned signed other)
    (hsame : claims.ticketId = other.ticketId) : claims = other := by
  obtain ⟨issued, rfl, hnodup, hissued⟩ := h.issued
  -- The number of a signed ticket is the one in the id of its claims.
  have hnumber : ∀ claims, FromSigned (issued.map fun ticket => encodeClaims ticket.2) claims →
      ∃ ticket ∈ issued, parseConnectionTicketClaims ticket.2 = some claims ∧
        claims.ticketId = TICKET_ID_PREFIX ++ decimal ticket.1 := by
    rintro claims ⟨encodedClaims, hmem, hclaims⟩
    obtain ⟨ticket, hticket, rfl⟩ := List.mem_map.mp hmem
    obtain ⟨-, hcanonical, hid⟩ := hissued ticket hticket
    rw [claimsOf, decodeClaims_encodeClaims hcanonical] at hclaims
    have hparsed := (parseConnectionTicketClaims_some hclaims).2
    rw [hid] at hparsed
    refine ⟨ticket, hticket, hclaims, ?_⟩
    injection hparsed with hparsed
    injection hparsed with hparsed
    exact hparsed.symm
  obtain ⟨ticket, hticket, hparse, hid⟩ := hnumber claims hclaims
  obtain ⟨ticket', hticket', hparse', hid'⟩ := hnumber other hother
  have hnumbers : ticket.1 = ticket'.1 := by
    rw [hid, hid'] at hsame
    exact decimal_injective (List.append_cancel_left hsame)
  have hequal := List.inj_on_of_nodup_map hnodup hticket hticket' hnumbers
  rw [hequal, hparse'] at hparse
  exact (Option.some.inj hparse).symm

theorem used_pruned {state : StoredTrustState} {time expiresAt : Int} {id : JsString}
    (hget : state.usedTickets.get? id = some expiresAt) (htime : time < expiresAt) :
    (state.pruned time).usedTickets.get? id = some expiresAt := by
  change (state.usedTickets.filter fun expiresAt => time < expiresAt).get? id = some expiresAt
  rw [OrderedMap.get?_filter, hget, Option.filter_some, if_pos (by simpa using htime)]

theorem Swept.used {before after : RendezvousTrustStore} {state : StoredTrustState} (h : Swept before after state)
    {id : JsString} {expiresAt : Int} (hexpiry : after.clock < expiresAt)
    (hget : before.state.usedTickets.get? id = some expiresAt) : state.usedTickets.get? id = some expiresAt := by
  obtain rfl | ⟨time, -, htime, rfl⟩ := h
  · exact hget
  · exact used_pruned hget (htime.trans_lt hexpiry)

theorem Effect.used {before : RendezvousTrustStore} {limit : Int} {call : Call} {state : StoredTrustState}
    (h : Effect options before limit call state) {id : JsString} {expiresAt : Int} (hexpiry : limit < expiresAt)
    (hget : before.state.usedTickets.get? id = some expiresAt) : state.usedTickets.get? id = some expiresAt := by
  cases h with
  | @ticketUsed ticket claims verified unused read =>
    have hkept := used_pruned hget (read.2.trans_lt hexpiry)
    have hne : id ≠ claims.ticketId := by
      rintro rfl
      rw [unused] at hkept
      cases hkept
    change ((before.state.pruned before.tick.tick.clock).usedTickets.set claims.ticketId claims.expiresAt).get? id = _
    rw [OrderedMap.get?_set_ne hne]
    exact hkept
  | paired kind pair named unconfirmed owner accountIds accounts devices time => exact hget
  | invited answered active drawn created later => exact hget
  | accepted answered pairId invited unexpired proved unknown known created => exact hget
  | deviceRevoked answered active known same time => exact hget
  | backendRevoked answered active owned known time => exact hget
  | backendDisowned answered active owned unknown time => exact hget

theorem Ran.remembers {before after : RendezvousTrustStore} {call : Call} {returned : Bool}
    (h : Ran options before call after returned) {claims : ConnectionTicketClaims}
    (hexpiry : after.clock < claims.expiresAt)
    (hbefore : Remembers before.state.usedTickets before.disk.usedTickets claims) :
    Remembers after.state.usedTickets after.disk.usedTickets claims := by
  have hstate : after.state.usedTickets.get? claims.ticketId = some claims.expiresAt := by
    obtain hswept | heffect := h.stored.swept_or_effect
    · exact hswept.used hexpiry hbefore.1
    · exact heffect.used hexpiry hbefore.1
  have hdisk : after.disk = before.disk ∨ Swept before after after.disk ∨ after.disk = after.state := by
    cases h.stored with
    | swept returned state disk => exact disk.imp_right .inr
    | saved effect disk => exact .inr (.inr disk)
    | unsaved effect failed disk => exact or_left_comm.mp disk
  refine ⟨hstate, ?_⟩
  obtain hdisk | hdisk | hdisk := hdisk
  · rw [hdisk]
    exact hbefore.2
  · exact hdisk.used hexpiry hbefore.1
  · rw [hdisk]
    exact hstate

section

variable (options) (store : RendezvousTrustStore) (request : Request)

/-- A call signs no claims, or those of a ticket that it issues. -/
theorem signedBy_cases : signedBy (replyOf options store request) = [] ∨
    ∃ issued, signedBy (replyOf options store request) = [encodeClaims issued.claims] ∧
      Issued (meeting store request) (afterCall options store request) issued := by
  cases hreply : replyOf options store request with
  | none => exact .inl rfl
  | some result =>
    cases hcall : request.call with
    | issuePairingTicket challengeId signature =>
      obtain ⟨issued, rfl, hissued, -⟩ := replied Reply.ticket (by rw [hcall]; rfl)
        (issuePairingTicket_outcome challengeId signature) hreply
      exact .inr ⟨issued, rfl, hissued⟩
    | issueConnectionTicket challengeId signature =>
      obtain ⟨issued, rfl, hissued, -⟩ := replied Reply.ticket (by rw [hcall]; rfl)
        (issueConnectionTicket_outcome challengeId signature) hreply
      exact .inr ⟨issued, rfl, hissued⟩
    | createChallenge body =>
      obtain ⟨_, rfl⟩ := reply_eq options store request Reply.challenge (by rw [hcall]; rfl) hreply
      exact .inl rfl
    | verifyTicket ticket =>
      obtain ⟨_, rfl⟩ := reply_eq options store request Reply.claims (by rw [hcall]; rfl) hreply
      exact .inl rfl
    | consumeRouteTicket ticket =>
      obtain ⟨_, rfl⟩ := reply_eq options store request Reply.claims (by rw [hcall]; rfl) hreply
      exact .inl rfl
    | confirmPairing claims =>
      obtain ⟨_, rfl⟩ := reply_eq options store request Reply.confirmation (by rw [hcall]; rfl) hreply
      exact .inl rfl
    | listAuthorizedBackendIds challengeId signature =>
      obtain ⟨_, rfl⟩ := reply_eq options store request Reply.backendIds (by rw [hcall]; rfl) hreply
      exact .inl rfl
    | createDeviceInvite challengeId signature =>
      obtain ⟨_, rfl⟩ := reply_eq options store request Reply.invite (by rw [hcall]; rfl) hreply
      exact .inl rfl
    | acceptDeviceInvite challengeId signature inviteId secret =>
      obtain ⟨_, rfl⟩ := reply_eq options store request Reply.acceptance (by rw [hcall]; rfl) hreply
      exact .inl rfl
    | revokeDevice challengeId signature =>
      obtain ⟨_, rfl⟩ := reply_eq options store request Reply.revocation (by rw [hcall]; rfl) hreply
      exact .inl rfl
    | revokeBackend challengeId signature =>
      obtain ⟨_, rfl⟩ := reply_eq options store request Reply.revocation (by rw [hcall]; rfl) hreply
      exact .inl rfl

/-- A call accepts no ticket, or the one that it consumes. -/
theorem acceptedBy_cases : acceptedBy request.call (replyOf options store request) = [] ∨
    ∃ ticket claims, request.call = .consumeRouteTicket ticket ∧
      acceptedBy request.call (replyOf options store request) = [claims] ∧
      verifyConnectionTicket options.crypto ticket options.ticketPublicKey (meeting store request).tick.clock =
        .ok claims ∧
      (store.state.pruned (meeting store request).tick.tick.clock).usedTickets.get? claims.ticketId = none ∧
      Remembers (afterCall options store request).state.usedTickets (afterCall options store request).disk.usedTickets
        claims := by
  cases hcall : request.call with
  | consumeRouteTicket ticket =>
    cases hreply : replyOf options store request with
    | none => exact .inl rfl
    | some result =>
      obtain ⟨claims, rfl, hverified, hunused, hstate, hdisk, -⟩ := replied Reply.claims
        (by rw [hcall]; rfl) (consumeRouteTicket_outcome ticket) hreply
      have hused : (afterCall options store request).state.usedTickets.get? claims.ticketId =
          some claims.expiresAt := by
        rw [hstate]
        exact OrderedMap.get?_set_self _ _ _
      refine .inr ⟨ticket, claims, rfl, rfl, hverified, hunused, hused, ?_⟩
      rw [hdisk]
      exact hused
  | createChallenge body => exact .inl rfl
  | issuePairingTicket challengeId signature => exact .inl rfl
  | issueConnectionTicket challengeId signature => exact .inl rfl
  | verifyTicket ticket => exact .inl rfl
  | confirmPairing claims => exact .inl rfl
  | listAuthorizedBackendIds challengeId signature => exact .inl rfl
  | createDeviceInvite challengeId signature => exact .inl rfl
  | acceptDeviceInvite challengeId signature inviteId secret => exact .inl rfl
  | revokeDevice challengeId signature => exact .inl rfl
  | revokeBackend challengeId signature => exact .inl rfl

end

/-- The context of a challenge that claims copy. -/
structure CanonicalContext (challenge : DeviceChallenge) : Prop where
  backendId : ∀ value, challenge.backendId = some value → value.Canonical
  connectionId : ∀ value, challenge.connectionId = some value → value.Canonical
  pairId : ∀ value, challenge.pairId = some value → value.Canonical

/-- An accepted ticket was signed, and is remembered as used until it expires. -/
structure RendezvousOk (history : TicketHistory) : Prop where
  signed : SignedOk history.signed history.rendezvous.drawn
  challenges : ∀ id challenge, history.rendezvous.memory.get? id = some challenge → CanonicalContext challenge
  fromSigned : ∀ claims ∈ history.accepted, FromSigned history.signed claims
  remembered : ∀ claims ∈ history.accepted, claims.expiresAt ≤ history.rendezvous.clock ∨
    Remembers history.rendezvous.state.usedTickets history.rendezvous.disk.usedTickets claims
  once : (history.accepted.map (·.ticketId)).Nodup

theorem FromSigned.append {signed : List JsString} {claims : ConnectionTicketClaims} (h : FromSigned signed claims)
    (more : List JsString) : FromSigned (more ++ signed) claims := by
  obtain ⟨encodedClaims, hmem, hclaims⟩ := h
  exact ⟨encodedClaims, List.mem_append_right _ hmem, hclaims⟩

theorem RendezvousOk.fresh {history : TicketHistory} (h : RendezvousOk history) {request : Request}
    (hintime : InTime options history (.rendezvous (.request request))) {ticket : JsString}
    {claims : ConnectionTicketClaims} (hcall : request.call = .consumeRouteTicket ticket)
    (hverified : verifyConnectionTicket options.crypto ticket options.ticketPublicKey
      (meeting history.rendezvous request).tick.clock = .ok claims)
    (hunused : (history.rendezvous.state.pruned (meeting history.rendezvous request).tick.tick.clock).usedTickets.get?
      claims.ticketId = none) (hsigned : FromSigned history.signed claims) :
    claims.ticketId ∉ history.accepted.map (·.ticketId) := by
  intro hmem
  obtain ⟨earlier, hearlier, hsame⟩ := List.mem_map.mp hmem
  obtain rfl := h.signed.unique (h.fromSigned earlier hearlier) hsigned hsame
  obtain ⟨-, -, -, -, -, -, -, hunexpired⟩ := verifyConnectionTicket_ok hverified
  have hlater : history.rendezvous.clock ≤ (meeting history.rendezvous request).tick.clock :=
    (meeting history.rendezvous request).clock_le_tick
  obtain hexpired | hremembers := h.remembered earlier hearlier
  · omega
  · simp only [InTime, hcall] at hintime
    rw [used_pruned hremembers.1 (hintime earlier hverified)] at hunused
    cases hunused

theorem RendezvousOk.request {history : TicketHistory} (h : RendezvousOk history) {request : Request}
    (hgenuine : Genuine options history (.rendezvous (.request request)))
    (hintime : InTime options history (.rendezvous (.request request))) :
    RendezvousOk (observe options history (.rendezvous (.request request))) := by
  have hran := ran options history.rendezvous request
  have hsigned : SignedOk (signedBy (replyOf options history.rendezvous request) ++ history.signed)
      (afterCall options history.rendezvous request).drawn := by
    obtain hnone | ⟨issued, hissued, hticket⟩ := signedBy_cases options history.rendezvous request
    · rw [hnone]
      exact h.signed.later hran.drawn
    · obtain ⟨kind, n, challengeId, challenge, deviceId, devicePublicKey, accountId, pairId, issuedAt, expiresAt, hn,
        hlater, hopened, hpairId, hclaims⟩ := hticket.claims
      have hcontext := h.challenges challengeId challenge hopened
      rw [hissued]
      refine h.signed.cons hn hlater ?_ ?_
      · rw [hclaims]
        refine claimsValue_canonical hcontext.backendId hcontext.connectionId ?_
        obtain rfl | rfl := hpairId
        · rintro value hnone
          cases hnone
        · exact hcontext.pairId
      · rw [hclaims]
        rfl
  have hremembered : ∀ claims ∈ history.accepted,
      claims.expiresAt ≤ (afterCall options history.rendezvous request).clock ∨
        Remembers (afterCall options history.rendezvous request).state.usedTickets
          (afterCall options history.rendezvous request).disk.usedTickets claims := by
    intro claims hclaims
    by_cases hexpired : claims.expiresAt ≤ (afterCall options history.rendezvous request).clock
    · exact .inl hexpired
    · obtain hbefore | hbefore := h.remembered claims hclaims
      · exact absurd (hbefore.trans hran.clock) hexpired
      · exact .inr (hran.remembers (not_le.mp hexpired) hbefore)
  have hchallenges : ∀ id challenge, (afterCall options history.rendezvous request).memory.get? id = some challenge →
      CanonicalContext challenge := by
    intro id challenge hget
    obtain hbefore | ⟨body, hcall, hopened⟩ := hran.memory id challenge hget
    · exact h.challenges id challenge hbefore
    · simp only [Genuine, hcall] at hgenuine
      exact ⟨hopened.backendId ▸ hgenuine.backendId, hopened.connectionId ▸ hgenuine.connectionId,
        hopened.pairId ▸ hgenuine.pairId⟩
  obtain hnone | ⟨ticket, claims, hcall, haccepted, hverified, hunused, hused⟩ :=
    acceptedBy_cases options history.rendezvous request
  · have haccepted : (observe options history (.rendezvous (.request request))).accepted = history.accepted := by
      simp only [observe, hnone, List.nil_append]
    refine ⟨hsigned, hchallenges, ?_, ?_, ?_⟩
    · rw [haccepted]
      exact fun claims hclaims => (h.fromSigned claims hclaims).append _
    · rw [haccepted]
      exact hremembered
    · rw [haccepted]
      exact h.once
  · have haccepted : (observe options history (.rendezvous (.request request))).accepted =
        claims :: history.accepted := by
      simp only [observe, haccepted, List.cons_append, List.nil_append]
    have hfrom : FromSigned history.signed claims := by
      obtain ⟨encodedClaims, signature, value, hsplit, hdecode, hparse, hverify, -⟩ := verifyConnectionTicket_ok hverified
      simp only [Genuine, hcall] at hgenuine
      refine ⟨encodedClaims, hgenuine encodedClaims signature hsplit hverify, ?_⟩
      rw [claimsOf, hdecode]
      exact hparse
    refine ⟨hsigned, hchallenges, ?_, ?_, ?_⟩
    · rw [haccepted]
      intro accepted hmem
      obtain rfl | hmem := List.mem_cons.mp hmem
      · exact hfrom.append _
      · exact (h.fromSigned accepted hmem).append _
    · rw [haccepted]
      intro accepted hmem
      obtain rfl | hmem := List.mem_cons.mp hmem
      · exact .inr hused
      · exact hremembered accepted hmem
    · rw [haccepted, List.map_cons, List.nodup_cons]
      exact ⟨h.fresh hintime hcall hverified hunused hfrom, h.once⟩

theorem RendezvousOk.restart {history : TicketHistory} (h : RendezvousOk history) :
    RendezvousOk (observe options history (.rendezvous .restart)) := by
  unfold observe next
  dsimp only
  split
  · refine ⟨h.signed, ?_, h.fromSigned, fun claims hclaims => ?_, h.once⟩
    · rintro id challenge hget
      cases hget
    · refine (h.remembered claims hclaims).imp_right fun hremembers => ?_
      exact ⟨hremembers.2, hremembers.2⟩
  · exact h

end

section

variable {options : TrustStoreOptions}

/-- A marked ticket was signed, and is remembered as used until it has expired when the backend drops tickets. -/
structure BackendOk (history : TicketHistory) : Prop where
  fromSigned : ∀ claims ∈ history.marked, FromSigned history.signed claims
  remembered : ∀ claims ∈ history.marked, (∃ time, history.prunedAt = some time ∧ claims.expiresAt ≤ time) ∨
    Remembers history.backend.state.usedTickets history.backend.disk.usedTickets claims
  prunedAt : ∀ time, history.prunedAt = some time → time ≤ history.backend.clock
  once : (history.marked.map (·.ticketId)).Nodup

theorem markedBy_cases (crypto : NodeCrypto) (store : backend_trust_store.BackendTrustStore)
    (request : backend_trust_store.Request) :
    markedBy request.call (backend_trust_store.replyOf crypto store request) = [] ∨
      ∃ claims, request.call = .markTicketUsed claims ∧
        markedBy request.call (backend_trust_store.replyOf crypto store request) = [claims] ∧
        store.state.usedTickets.get? claims.ticketId = none ∧
        Remembers (backend_trust_store.afterCall crypto store request).state.usedTickets
          (backend_trust_store.afterCall crypto store request).disk.usedTickets claims := by
  cases hcall : request.call with
  | markTicketUsed claims =>
    cases hreply : backend_trust_store.replyOf crypto store request with
    | none => exact .inl rfl
    | some reply =>
      obtain ⟨hunused, hused⟩ := backend_trust_store.marked hcall hreply
      exact .inr ⟨claims, rfl, rfl, hunused, hused⟩
  | createPairing ttlMs => exact .inl rfl
  | listActivePairings => exact .inl rfl
  | consumePairing pairId secret => exact .inl rfl
  | authorizeTicket claims => exact .inl rfl
  | completePairing accountId => exact .inl rfl
  | applyRevocation accountId deviceId => exact .inl rfl

theorem BackendOk.request {history : TicketHistory} (h : BackendOk history)
    (hsigned : SignedOk history.signed history.rendezvous.drawn) {request : backend_trust_store.Request}
    (hgenuine : Genuine options history (.backend (.request request)))
    (hintime : InTime options history (.backend (.request request))) :
    BackendOk (observe options history (.backend (.request request))) := by
  have hkept := backend_trust_store.kept options.crypto history.backend request
  -- The time of the last pruning, in this call or before it.
  have hpruned : ∀ time, history.prunedAt = some time →
      ∃ later, (observe options history (.backend (.request request))).prunedAt = some later ∧ time ≤ later := by
    intro time htime
    by_cases hprunes : backend_trust_store.prunes request.call = true
    · refine ⟨(backend_trust_store.meeting history.backend request).tick.clock, if_pos hprunes, ?_⟩
      exact (h.prunedAt time htime).trans (backend_trust_store.meeting history.backend request).clock_le_tick
    · exact ⟨time, (if_neg hprunes).trans htime, le_refl _⟩
  have hprunedAt : ∀ time, (observe options history (.backend (.request request))).prunedAt = some time →
      time ≤ (backend_trust_store.afterCall options.crypto history.backend request).clock := by
    intro time htime
    by_cases hprunes : backend_trust_store.prunes request.call = true
    · refine hkept.swept time ?_
      rw [backend_trust_store.horizonOf, if_pos hprunes]
      exact ((if_pos hprunes).symm.trans htime)
    · exact (h.prunedAt time ((if_neg hprunes).symm.trans htime)).trans hkept.clock
  have hremembered : ∀ claims ∈ history.marked,
      (∃ time, (observe options history (.backend (.request request))).prunedAt = some time ∧ claims.expiresAt ≤ time) ∨
        Remembers (backend_trust_store.afterCall options.crypto history.backend request).state.usedTickets
          (backend_trust_store.afterCall options.crypto history.backend request).disk.usedTickets claims := by
    intro claims hclaims
    obtain ⟨time, htime, hexpired⟩ | hremembers := h.remembered claims hclaims
    · obtain ⟨later, hlater, hle⟩ := hpruned time htime
      exact .inl ⟨later, hlater, hexpired.trans hle⟩
    · by_cases hexpired : ∃ time, backend_trust_store.horizonOf
          (backend_trust_store.meeting history.backend request) request.call = some time ∧ claims.expiresAt ≤ time
      · obtain ⟨time, htime, hexpired⟩ := hexpired
        left
        refine ⟨time, ?_, hexpired⟩
        unfold backend_trust_store.horizonOf at htime
        split at htime
        · rename_i hprunes
          exact (if_pos hprunes).trans htime
        · cases htime
      · refine .inr (hkept.used claims (fun time htime => ?_) hremembers)
        exact not_le.mp fun hle => hexpired ⟨time, htime, hle⟩
  obtain hnone | ⟨claims, hcall, hmarked, hunused, hused⟩ := markedBy_cases options.crypto history.backend request
  · have hmarked : (observe options history (.backend (.request request))).marked = history.marked := by
      simp only [observe, hnone, List.nil_append]
    refine ⟨?_, ?_, hprunedAt, ?_⟩
    · rw [hmarked]
      exact h.fromSigned
    · rw [hmarked]
      exact hremembered
    · rw [hmarked]
      exact h.once
  · have hmarked : (observe options history (.backend (.request request))).marked = claims :: history.marked := by
      simp only [observe, hmarked, List.cons_append, List.nil_append]
    simp only [Genuine, hcall] at hgenuine
    simp only [InTime, hcall] at hintime
    refine ⟨?_, ?_, hprunedAt, ?_⟩
    · rw [hmarked]
      intro marked hmem
      obtain rfl | hmem := List.mem_cons.mp hmem
      · exact hgenuine
      · exact h.fromSigned marked hmem
    · rw [hmarked]
      intro marked hmem
      obtain rfl | hmem := List.mem_cons.mp hmem
      · exact .inr hused
      · exact hremembered marked hmem
    · rw [hmarked, List.map_cons, List.nodup_cons]
      refine ⟨fun hmem => ?_, h.once⟩
      obtain ⟨earlier, hearlier, hsame⟩ := List.mem_map.mp hmem
      obtain rfl := hsigned.unique (h.fromSigned earlier hearlier) hgenuine hsame
      obtain ⟨time, htime, hexpired⟩ | hremembers := h.remembered earlier hearlier
      · have hunexpired := hintime time htime
        omega
      · rw [hremembers.1] at hunused
        cases hunused

theorem BackendOk.restart {history : TicketHistory} (h : BackendOk history) :
    BackendOk (observe options history (.backend .restart)) := by
  refine ⟨h.fromSigned, fun claims hclaims => ?_, h.prunedAt, h.once⟩
  exact (h.remembered claims hclaims).imp_right fun hremembers => ⟨hremembers.2, hremembers.2⟩

/-- Both stores keep track of their tickets. -/
structure TicketsOk (history : TicketHistory) : Prop where
  rendezvous : RendezvousOk history
  backend : BackendOk history

theorem TicketsOk.observe {history : TicketHistory} (h : TicketsOk history) {event : TicketEvent}
    (hgenuine : Genuine options history event) (hintime : InTime options history event) :
    TicketsOk (observe options history event) := by
  cases event with
  | rendezvous event =>
    cases event with
    | request request =>
      refine ⟨h.rendezvous.request hgenuine hintime, ?_, h.backend.remembered, h.backend.prunedAt, h.backend.once⟩
      exact fun claims hclaims => (h.backend.fromSigned claims hclaims).append _
    | restart =>
      exact ⟨h.rendezvous.restart, h.backend.fromSigned, h.backend.remembered, h.backend.prunedAt, h.backend.once⟩
  | backend event =>
    have hrendezvous : ∀ event, RendezvousOk (trust_store.observe options history (.backend event)) := by
      intro event
      cases event with
      | request request => exact ⟨h.rendezvous.signed, h.rendezvous.challenges, h.rendezvous.fromSigned,
          h.rendezvous.remembered, h.rendezvous.once⟩
      | restart => exact ⟨h.rendezvous.signed, h.rendezvous.challenges, h.rendezvous.fromSigned,
          h.rendezvous.remembered, h.rendezvous.once⟩
    refine ⟨hrendezvous event, ?_⟩
    cases event with
    | request request => exact h.backend.request h.rendezvous.signed hgenuine hintime
    | restart => exact h.backend.restart

/-- Two stores that have not signed, accepted or marked anything. -/
structure NewHistory (history : TicketHistory) : Prop where
  memory : history.rendezvous.memory = ∅
  signed : history.signed = []
  accepted : history.accepted = []
  marked : history.marked = []
  prunedAt : history.prunedAt = none

theorem NewHistory.ok {history : TicketHistory} (h : NewHistory history) : TicketsOk history := by
  obtain ⟨hmemory, hsigned, haccepted, hmarked, hprunedAt⟩ := h
  refine ⟨⟨?_, ?_, ?_, ?_, ?_⟩, ⟨?_, ?_, ?_, ?_⟩⟩
  · rw [hsigned]
    exact ⟨[], rfl, List.nodup_nil, fun ticket hticket => absurd hticket List.not_mem_nil⟩
  · rw [hmemory]
    rintro id challenge hget
    cases hget
  · simp [haccepted]
  · simp [haccepted]
  · simp [haccepted]
  · simp [hmarked]
  · simp [hmarked]
  · simp [hprunedAt]
  · simp [hmarked]

/-- In every run in which no ticket expires between its check and the pruning before it is looked up, and none is marked
    after the backend dropped it, no ticket id is accepted twice and none is marked twice. -/
theorem tickets_used_once (start : TicketHistory) (hstart : NewHistory start) (events : List TicketEvent)
    (hgenuine : EveryStep (observe options) start (Genuine options) events)
    (hintime : EveryStep (observe options) start (InTime options) events) :
    Always (observe options) start SingleUse events := by
  have hboth : EveryStep (observe options) start
      (fun history event => Genuine options history event ∧ InTime options history event) events :=
    fun before event hextends => ⟨hgenuine before event hextends, hintime before event hextends⟩
  have hok : Always (observe options) start TicketsOk events :=
    always_of_everyStep hstart.ok (fun _ _ h hgood => h.observe hgood.1 hgood.2) hboth
  exact fun before hbefore => ⟨(hok before hbefore).rendezvous.once, (hok before hbefore).backend.once⟩

end

private def newHistory : TicketHistory where
  rendezvous := freshStore 1
  backend := { state := {}, disk := {}, memory := (), clock := 1, drawn := 0,
               circumstances := { ticks := [], pruned := .written, saved := .written } }

private def pairRequest : DeviceChallengeRequest where
  purpose := some (.str (js "pair"))
  backendId := some (.str (js "b_x"))
  connectionId := some (.str (js "c_0"))
  pairId := some (.str (js "pair_0"))
  devicePublicKey := some (.str (js "QUJD"))

private def openedChallenge : DeviceChallenge where
  challengeId := js "ch_0"
  nonce := js "1"
  purpose := .pair
  deviceId := js "d_QUJD"
  devicePublicKey := js "QUJD"
  backendId := some (.str (js "b_x"))
  connectionId := some (.str (js "c_0"))
  pairId := some (.str (js "pair_0"))
  targetDeviceId := none
  expiresAt := 120001

private def issuedClaims : Value :=
  claimsValue .pairing (js "t_2") openedChallenge (js "QUJD") none (some (.str (js "pair_0"))) 1 120001

private def issuedTicket : JsString :=
  encodeClaims issuedClaims ++ 0x2E ::
    plainOptions.sign 3 (textEncode (connectionTicketSignaturePayload (encodeClaims issuedClaims)))

private def signedChallenge : JsString :=
  plainSignature (js "QUJD") (deviceChallengePayload openedChallenge)

private def consuming (ticks : List Nat) : TicketEvent :=
  .rendezvous (.request ⟨.consumeRouteTicket issuedTicket, ⟨ticks, .written, .written⟩⟩)

private def issuing : List TicketEvent :=
  [.rendezvous (.request { call := .createChallenge pairRequest }),
    .rendezvous (.request { call := .issuePairingTicket (js "ch_0") signedChallenge })]

theorem parsed_pairRequest : Parsed pairRequest := by
  refine ⟨fun value h => ?_, fun value h => ?_, fun value h => ?_⟩
  · cases h
    exact trivial
  · cases h
    exact trivial
  · cases h
    exact trivial

theorem encodedClaims_of_split {encodedClaims signature : JsString}
    (hsplit : splitTicket issuedTicket = some (encodedClaims, signature)) :
    encodedClaims = encodeClaims issuedClaims := by
  have hissued : (splitTicket issuedTicket).map Prod.fst = some (encodeClaims issuedClaims) := by
    decide +kernel
  rw [hsplit] at hissued
  exact Option.some.inj hissued

theorem expiresAt_issuedTicket {now : Int} {claims : ConnectionTicketClaims}
    (h : verifyConnectionTicket plainOptions.crypto issuedTicket plainOptions.ticketPublicKey now = .ok claims) :
    claims.expiresAt = 120001 := by
  obtain ⟨encodedClaims, signature, value, hsplit, hdecode, hparse, -⟩ := verifyConnectionTicket_ok h
  have hclaims : claimsOf encodedClaims = some claims := by
    rw [claimsOf, hdecode]
    exact hparse
  have hissued : (claimsOf (encodeClaims issuedClaims)).map (·.expiresAt) = some 120001 := by
    decide +kernel
  rw [← encodedClaims_of_split hsplit, hclaims] at hissued
  exact Option.some.inj hissued

theorem genuine_consuming {history : TicketHistory} (ticks : List Nat)
    (hsigned : encodeClaims issuedClaims ∈ history.signed) : Genuine plainOptions history (consuming ticks) := by
  intro encodedClaims signature hsplit _
  rwa [encodedClaims_of_split hsplit]

theorem run_issuing : (run (observe plainOptions) newHistory issuing).signed = [encodeClaims issuedClaims] ∧
    (run (observe plainOptions) newHistory issuing).rendezvous.clock = 1 := by
  decide +kernel

theorem mem_signed : encodeClaims issuedClaims ∈ (run (observe plainOptions) newHistory issuing).signed := by
  rw [run_issuing.1]
  exact List.mem_singleton_self _

/-- A ticket that is issued and consumed. -/
theorem tickets_used_once_pairing :
    Always (observe plainOptions) newHistory SingleUse (issuing ++ [consuming [0, 119999]]) := by
  refine tickets_used_once newHistory ⟨rfl, rfl, rfl, rfl, rfl⟩ _ ?_ ?_
  · simp only [issuing, List.cons_append, List.nil_append, everyStep_cons]
    exact ⟨parsed_pairRequest, trivial, genuine_consuming _ mem_signed, everyStep_nil⟩
  · simp only [issuing, List.cons_append, List.nil_append, everyStep_cons]
    refine ⟨trivial, trivial, fun claims h => ?_, everyStep_nil⟩
    rw [expiresAt_issuedTicket h]
    change (run (observe plainOptions) newHistory issuing).rendezvous.clock + _ + _ < _
    rw [run_issuing.2]
    decide

/-- The clock passes the expiry of a used ticket between the check and the pruning, and the ticket is accepted again. -/
theorem expiring_ticket_accepted_twice :
    EveryStep (observe plainOptions) newHistory (Genuine plainOptions)
        (issuing ++ [consuming [], consuming [119999, 1]]) ∧
      ¬ Always (observe plainOptions) newHistory SingleUse (issuing ++ [consuming [], consuming [119999, 1]]) := by
  constructor
  · simp only [issuing, List.cons_append, List.nil_append, everyStep_cons]
    exact ⟨parsed_pairRequest, trivial, genuine_consuming _ mem_signed,
      genuine_consuming _ (List.mem_append_right _ mem_signed), everyStep_nil⟩
  · intro halways
    have honce := halways.last.1
    revert honce
    decide +kernel

end pipane.trust_store
