import Pipane.Server.BackendTrustStore

open javascript json durable pipane.trust_protocol pipane.node_trust_crypto

namespace pipane.backend_trust_store

/-- Memory and disk both hold the ticket as used. -/
def Remembers (state disk : OrderedMap JsString Int) (claims : ConnectionTicketClaims) : Prop :=
  state.get? claims.ticketId = some claims.expiresAt ∧ disk.get? claims.ticketId = some claims.expiresAt

/-- The store that a request meets. -/
def meeting (store : BackendTrustStore) (request : Request) : BackendTrustStore :=
  { store with circumstances := request.circumstances }

/-- The calls that drop what has expired. -/
def prunes : Call → Bool
  | .createPairing ttlMs => isPairingLifetime ttlMs
  | .listActivePairings => true
  | .authorizeTicket _ => true
  | _ => false

/-- The time at which a call drops what has expired. -/
def horizonOf (before : BackendTrustStore) (call : Call) : Option Int :=
  if prunes call then some before.tick.clock else none

/-- Tickets that are unexpired beyond the horizon, the time at which a call dropped expired ones, stay used. -/
structure Kept (horizon : Option Int) (before after : BackendTrustStore) : Prop where
  clock : before.clock ≤ after.clock
  swept : ∀ time, horizon = some time → time ≤ after.clock
  used : ∀ claims : ConnectionTicketClaims, (∀ time, horizon = some time → time < claims.expiresAt) →
    Remembers before.state.usedTickets before.disk.usedTickets claims →
    Remembers after.state.usedTickets after.disk.usedTickets claims

namespace Kept

variable {horizon : Option Int} {before mid after : BackendTrustStore}

theorem refl (store : BackendTrustStore) : Kept none store store := by
  refine ⟨le_refl _, fun time h => ?_, fun _ _ h => h⟩
  cases h

theorem trans (hfirst : Kept horizon before mid) (hsecond : Kept none mid after) : Kept horizon before after := by
  refine ⟨hfirst.clock.trans hsecond.clock, fun time h => (hfirst.swept time h).trans hsecond.clock, ?_⟩
  intro claims hunexpired hremembers
  refine hsecond.used claims (fun time h => ?_) (hfirst.used claims hunexpired hremembers)
  cases h

theorem tick (h : Kept horizon before after) : Kept horizon before after.tick := by
  refine h.trans ⟨after.clock_le_tick, fun time h => ?_, fun _ _ h => h⟩
  cases h

theorem draw (h : Kept horizon before after) : Kept horizon before after.draw := by
  refine h.trans ⟨le_refl _, fun time h => ?_, fun _ _ h => h⟩
  cases h

end Kept

theorem save_kept {horizon : Option Int} {before store : BackendTrustStore} {state : StoredBackendTrust}
    (h : Kept horizon before store)
    (hused : ∀ claims : ConnectionTicketClaims, store.state.usedTickets.get? claims.ticketId = some claims.expiresAt →
      state.usedTickets.get? claims.ticketId = some claims.expiresAt) :
    Outcome (do setState state; persist) store
      (fun _ after => Kept horizon before after ∧ after.state = state ∧ after.disk = state) (Kept horizon before) := by
  have hkept : ∀ disk : StoredBackendTrust, disk = store.disk ∨ disk = state →
      Kept horizon before { store with state := state, disk := disk } := by
    intro disk hdisk
    refine h.trans ⟨le_refl _, fun time h => (by cases h), fun claims _ hremembers => ⟨hused claims hremembers.1, ?_⟩⟩
    obtain rfl | rfl := hdisk
    · exact hremembers.2
    · exact hused claims hremembers.1
  unfold setState persist
  rw [outcome.bind_iff, outcome.modify_iff, outcome.bind_iff, outcome.get_iff, write_iff]
  exact ⟨fun _ => ⟨hkept _ (.inr rfl), rfl, rfl⟩, fun _ => hkept _ (.inl rfl), fun _ => hkept _ (.inr rfl)⟩

theorem prune_kept (before : BackendTrustStore) :
    Outcome prune before (fun _ after => Kept (some before.tick.clock) before after ∧
        after.state = before.state.pruned before.tick.clock)
      (Kept (some before.tick.clock) before) := by
  have hused : ∀ claims : ConnectionTicketClaims,
      (∀ time, some before.tick.clock = some time → time < claims.expiresAt) →
      before.state.usedTickets.get? claims.ticketId = some claims.expiresAt →
      (before.state.pruned before.tick.clock).usedTickets.get? claims.ticketId = some claims.expiresAt := by
    intro claims hunexpired hget
    change (before.state.usedTickets.filter fun expiresAt => before.tick.clock < expiresAt).get? claims.ticketId = _
    rw [OrderedMap.get?_filter, hget, Option.filter_some, if_pos (by simpa using hunexpired _ rfl)]
  have hkept : ∀ disk : StoredBackendTrust, disk = before.disk ∨ disk = before.state.pruned before.tick.clock →
      Kept (some before.tick.clock) before
        { before.tick with state := before.state.pruned before.tick.clock, disk := disk } := by
    intro disk hdisk
    refine ⟨before.clock_le_tick, fun time h => (Option.some.inj h).ge, fun claims hunexpired hremembers => ?_⟩
    refine ⟨hused claims hunexpired hremembers.1, ?_⟩
    obtain rfl | rfl := hdisk
    · exact hremembers.2
    · exact hused claims hunexpired hremembers.1
  unfold prune setState
  simp only [outcome.bind_iff, now_iff, outcome.modify_iff, outcome.get_iff, outcome.ite_iff, write_iff,
    outcome.pure_iff]
  refine ⟨fun _ => ⟨?_, ?_, ?_⟩, fun _ => ?_⟩
  · exact fun _ => ⟨hkept _ (.inr rfl), rfl⟩
  · exact fun _ => hkept _ (.inl rfl)
  · exact fun _ => hkept _ (.inr rfl)
  · exact ⟨hkept _ (.inl rfl), rfl⟩

section

variable {crypto : NodeCrypto} {before : BackendTrustStore}

/-- What every operation but `markTicketUsed` establishes. -/
private def Keeps {α : Type} (op : BackendTrustOp α) (horizon : Option Int) (before : BackendTrustStore) : Prop :=
  Outcome op before (fun _ after => Kept horizon before after) (Kept horizon before)

theorem keeps_save {horizon : Option Int} {store : BackendTrustStore} {state : StoredBackendTrust}
    (h : Kept horizon before store) (hused : state.usedTickets = store.state.usedTickets) :
    Outcome (do setState state; persist) store (fun _ after => Kept horizon before after) (Kept horizon before) := by
  refine outcome.mono (save_kept h fun claims hget => ?_) (fun _ _ hkept => hkept.1) fun _ hkept => hkept
  rw [hused]
  exact hget

theorem createPairing_keeps (ttlMs : Int) :
    Keeps (createPairing crypto ttlMs) (horizonOf before (.createPairing ttlMs)) before := by
  unfold Keeps createPairing horizonOf prunes
  rw [outcome.guard_iff]
  refine ⟨fun hinvalid => ?_, fun hvalid => ?_⟩
  · rw [if_neg hinvalid]
    exact Kept.refl before
  · rw [if_pos (not_not.mp hvalid)]
    refine outcome.bind (prune_kept before) (fun _ h => h) ?_
    rintro _ store ⟨hkept, -⟩
    have hrandom : ∀ (post : JsString → BackendTrustStore → Prop) (failed : BackendTrustStore → Prop)
        (store : BackendTrustStore), Outcome randomText store post failed ↔ post (decimal store.drawn) store.draw :=
      fun _ _ _ => Iff.rfl
    rw [outcome.bind_iff, hrandom, outcome.bind_iff, hrandom, outcome.bind_iff, now_iff, outcome.bind_iff,
      outcome.get_iff]
    have hsave : ∀ state : StoredBackendTrust, state.usedTickets = store.state.usedTickets →
        ∀ capability : PairingCapability, Outcome (do setState state; persist; return capability) store.draw.draw.tick
          (fun _ after => Kept (some before.tick.clock) before after) (Kept (some before.tick.clock) before) := by
      intro state hused capability
      have hkeeps := keeps_save hkept.draw.draw.tick hused
      simp only [outcome.bind_iff, outcome.pure_iff] at hkeeps ⊢
      exact hkeeps
    refine hsave _ ?_ _
    rfl

theorem activePairings_keeps (pairings : List StoredPairing) {horizon : Option Int} {store : BackendTrustStore}
    (h : Kept horizon before store) :
    Outcome (activePairings pairings) store (fun _ after => Kept horizon before after) (Kept horizon before) := by
  induction pairings generalizing store with
  | nil => exact h
  | cons pairing rest ih =>
    unfold activePairings
    rw [outcome.ite_iff]
    refine ⟨fun _ => ih h, fun _ => ?_⟩
    rw [outcome.bind_iff, now_iff]
    refine outcome.bind (ih h.tick) (fun _ hkept => hkept) fun active after hkept => ?_
    rw [outcome.ite_iff]
    exact ⟨fun _ => hkept, fun _ => hkept⟩

theorem listActivePairings_keeps : Keeps listActivePairings (horizonOf before .listActivePairings) before := by
  unfold Keeps listActivePairings horizonOf prunes
  rw [if_pos rfl]
  refine outcome.bind (prune_kept before) (fun _ h => h) ?_
  rintro _ store ⟨hkept, -⟩
  rw [outcome.bind_iff, outcome.get_iff]
  exact activePairings_keeps _ hkept

theorem consumePairing_keeps (pairId secret : JsString) :
    Keeps (consumePairing crypto pairId secret) none before := by
  have hkept := (Kept.refl before).tick
  unfold Keeps consumePairing
  rw [outcome.bind_iff, outcome.get_iff]
  cases hpairing : before.state.pairings.get? pairId with
  | none =>
    simp only [hpairing]
    exact Kept.refl before
  | some pairing =>
    simp only [hpairing]
    rw [outcome.bind_iff, now_iff, outcome.guard_iff]
    refine ⟨fun _ => hkept, fun _ => ?_⟩
    rw [outcome.guard_iff]
    refine ⟨fun _ => hkept, fun _ => ?_⟩
    rw [outcome.guard_iff]
    refine ⟨fun _ => hkept, fun _ => ?_⟩
    rw [outcome.bind_iff, now_iff]
    exact keeps_save hkept.tick rfl

theorem authorizeTicket_keeps (claims : ConnectionTicketClaims) :
    Keeps (authorizeTicket claims) (horizonOf before (.authorizeTicket claims)) before := by
  unfold Keeps authorizeTicket horizonOf prunes
  rw [if_pos rfl]
  refine outcome.bind (prune_kept before) (fun _ h => h) ?_
  rintro _ store ⟨hkept, -⟩
  rw [outcome.bind_iff, outcome.get_iff, outcome.guard_iff]
  refine ⟨fun _ => hkept, fun _ => ?_⟩
  split
  · exact hkept
  · exact hkept

theorem completePairing_keeps (accountId : JsString) : Keeps (completePairing accountId) none before := by
  unfold Keeps completePairing
  rw [outcome.bind_iff, outcome.get_iff, outcome.guard_iff]
  exact ⟨fun _ => Kept.refl before, fun _ => keeps_save (Kept.refl before) rfl⟩

theorem applyRevocation_keeps (accountId : JsString) (deviceId : Option JsString) :
    Keeps (applyRevocation accountId deviceId) none before := by
  unfold Keeps applyRevocation
  rw [outcome.bind_iff, outcome.get_iff, outcome.ite_iff]
  refine ⟨fun _ => Kept.refl before, fun _ => ?_⟩
  have hdisowned : Outcome (do setState { before.state with ownerAccountId := none }; persist) before
      (fun _ after => Kept none before after) (Kept none before) := keeps_save (Kept.refl before) rfl
  cases deviceId with
  | none => exact hdisowned
  | some deviceId =>
    dsimp only
    rw [outcome.ite_iff]
    refine ⟨fun _ => hdisowned, fun _ => ?_⟩
    rw [outcome.bind_iff, now_iff]
    exact keeps_save (Kept.refl before).tick rfl

theorem markTicketUsed_outcome (claims : ConnectionTicketClaims) :
    Outcome (markTicketUsed claims) before
      (fun _ after => Kept none before after ∧ before.state.usedTickets.get? claims.ticketId = none ∧
        Remembers after.state.usedTickets after.disk.usedTickets claims)
      (Kept none before) := by
  unfold markTicketUsed
  rw [outcome.bind_iff, outcome.get_iff, outcome.guard_iff]
  refine ⟨fun _ => Kept.refl before, fun hunused => ?_⟩
  have hunused : before.state.usedTickets.get? claims.ticketId = none := by simpa using hunused
  refine outcome.mono (save_kept (Kept.refl before) fun other hget => ?_) ?_ fun _ hkept => hkept
  · change (before.state.usedTickets.set claims.ticketId claims.expiresAt).get? other.ticketId = _
    rw [OrderedMap.get?_set_ne, hget]
    intro hsame
    rw [hsame, hunused] at hget
    cases hget
  · rintro _ after ⟨hkept, hstate, hdisk⟩
    have hused : after.state.usedTickets.get? claims.ticketId = some claims.expiresAt := by
      rw [hstate]
      exact OrderedMap.get?_set_self _ _ _
    refine ⟨hkept, hunused, hused, ?_⟩
    rw [hdisk, ← hstate]
    exact hused

theorem perform_kept (crypto : NodeCrypto) (before : BackendTrustStore) (call : Call) :
    Outcome (perform crypto call) before (fun _ after => Kept (horizonOf before call) before after)
      (Kept (horizonOf before call) before) := by
  have hdone : ∀ {α : Type} {op : BackendTrustOp α} {horizon : Option Int} (reply : α → Reply),
      Outcome op before (fun _ after => Kept horizon before after) (Kept horizon before) →
      Outcome (do return reply (← op)) before (fun _ after => Kept horizon before after) (Kept horizon before) := by
    intro α op horizon reply h
    rw [outcome.bind_iff]
    exact h
  cases call with
  | createPairing ttlMs => exact hdone .capability (createPairing_keeps ttlMs)
  | listActivePairings => exact hdone .pairings listActivePairings_keeps
  | consumePairing pairId secret => exact hdone (fun _ => .done) (consumePairing_keeps pairId secret)
  | authorizeTicket claims => exact hdone (fun _ => .done) (authorizeTicket_keeps claims)
  | markTicketUsed claims =>
    exact hdone (fun _ => .done) (outcome.mono (markTicketUsed_outcome claims) (fun _ _ h => h.1) fun _ h => h)
  | completePairing accountId => exact hdone (fun _ => .done) (completePairing_keeps accountId)
  | applyRevocation accountId deviceId => exact hdone (fun _ => .done) (applyRevocation_keeps accountId deviceId)

end

theorem kept (crypto : NodeCrypto) (store : BackendTrustStore) (request : Request) :
    Kept (horizonOf (meeting store request) request.call) store (afterCall crypto store request) := by
  have houtcome := perform_kept crypto (meeting store request) request.call
  change Outcome (perform crypto request.call) { store with circumstances := request.circumstances } _ _ at houtcome
  have hkept : ∀ after, Kept (horizonOf (meeting store request) request.call) (meeting store request) after →
      Kept (horizonOf (meeting store request) request.call) store after :=
    fun after h => ⟨h.clock, h.swept, h.used⟩
  unfold afterCall serve
  cases hresult : perform crypto request.call { store with circumstances := request.circumstances } with
  | ok reply after =>
    have h := outcome.ok houtcome hresult
    exact hkept after h
  | error message after =>
    have h := outcome.error houtcome hresult
    exact hkept after h

/-- A ticket that a call marks was not used before it, and is remembered after it. -/
theorem marked {crypto : NodeCrypto} {store : BackendTrustStore} {request : Request} {claims : ConnectionTicketClaims}
    {reply : Reply} (hcall : request.call = .markTicketUsed claims) (hreply : replyOf crypto store request = some reply) :
    store.state.usedTickets.get? claims.ticketId = none ∧
      Remembers (afterCall crypto store request).state.usedTickets (afterCall crypto store request).disk.usedTickets
        claims := by
  have houtcome : Outcome (perform crypto request.call) { store with circumstances := request.circumstances }
      (fun _ after => store.state.usedTickets.get? claims.ticketId = none ∧
        Remembers after.state.usedTickets after.disk.usedTickets claims) (fun _ => True) := by
    rw [hcall, perform, outcome.bind_iff]
    exact outcome.mono (markTicketUsed_outcome claims) (fun _ _ h => h.2) fun _ _ => trivial
  unfold replyOf afterCall serve at *
  cases hresult : perform crypto request.call { store with circumstances := request.circumstances } with
  | ok reply after =>
    have h := outcome.ok houtcome hresult
    exact h
  | error message after =>
    rw [hresult] at hreply
    cases hreply

end pipane.backend_trust_store
