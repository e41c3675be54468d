import Mathlib.Data.List.TakeWhile
import Pipane.Client.TurnRelay
import Pipane.Lib.Checks
import Pipane.Lib.Json.RoundTrip
import Pipane.Server.BackendWebRtc
import Pipane.Server.IceServers

open javascript json checks
open pipane.rendezvous_protocol

namespace pipane.ice_servers

/-! The URL of a relay that the wire accepts is one that the conversion reads. -/

theorem matchTransport_of_transportEnd {text : JsString} (h : (transportEnd text).isSome) :
    (matchTransport text).isSome := by
  rw [transportEnd] at h
  rw [matchTransport]
  by_cases htext : text = []
  · rw [if_pos htext]
    rfl
  rw [if_neg htext] at h ⊢
  cases hafter : afterFolded (js "?transport=") text with
  | none =>
    rw [hafter] at h
    cases h
  | some transport =>
    rw [hafter] at h
    dsimp only at h ⊢
    by_cases hname : transport.map foldUnit = js "udp" ∨ transport.map foldUnit = js "tcp"
    · rw [if_pos hname]
      rfl
    · rw [if_neg hname] at h
      cases h

theorem portEnd_of_ne {text : JsString} (h : text.head? ≠ some 0x3A) :
    portEnd text = (transportEnd text).map fun transport => (none, transport) := by
  rw [portEnd.eq_def]
  split
  · exact absurd rfl h
  · rfl

theorem matchPort_of_ne {text : JsString} (h : text.head? ≠ some 0x3A) :
    matchPort text = (matchTransport text).map fun transport => (none, transport) := by
  rw [matchPort.eq_def]
  split
  · exact absurd rfl h
  · rfl

theorem matchPort_of_portEnd {text : JsString} (h : (portEnd text).isSome) : (matchPort text).isSome := by
  by_cases hcolon : text.head? = some 0x3A
  · cases text with
    | nil => cases hcolon
    | cons u rest =>
      cases Option.some.inj hcolon
      rw [portEnd] at h
      rw [matchPort]
      split at h
      · rename_i hdigits
        have hne : rest.takeWhile isDigitUnit ≠ [] := by
          rw [← List.length_pos_iff]
          exact hdigits.1
        rw [Option.isSome_map] at h
        rw [if_neg hne, Option.isSome_map]
        exact matchTransport_of_transportEnd h
      · cases h
  · rw [portEnd_of_ne hcolon, Option.isSome_map] at h
    rw [matchPort_of_ne hcolon, Option.isSome_map]
    exact matchTransport_of_transportEnd h

theorem foldUnit_eq_question {u : UInt16} (h : foldUnit u = 0x3F) : u = 0x3F := by
  rw [foldUnit] at h
  split at h
  · rename_i hletter
    have hnat := congrArg UInt16.toNat h
    rw [UInt16.toNat_add] at hnat
    change (u.toNat + 32) % 65536 = 63 at hnat
    omega
  split at h
  · exact absurd h (by decide)
  · exact h

theorem head_of_portEnd {text : JsString} (h : (portEnd text).isSome) (u : UInt16) (hu : text.head? = some u) :
    isTurnHostUnit u = false := by
  by_cases hcolon : text.head? = some 0x3A
  · rw [hcolon, Option.some.injEq] at hu
    rw [← hu]
    rfl
  · rw [portEnd_of_ne hcolon, Option.isSome_map, transportEnd] at h
    cases text with
    | nil => cases hu
    | cons v rest =>
      cases Option.some.inj hu
      rw [if_neg (List.cons_ne_nil _ _), afterFolded] at h
      split at h
      · rename_i transport hafter
        split at hafter
        · rename_i hliteral
          have hhead := congrArg List.head? hliteral
          rw [List.head?_map, List.head?_take, if_neg (by decide)] at hhead
          rw [foldUnit_eq_question (Option.some.inj hhead)]
          rfl
        · cases hafter
      · cases h

theorem takeWhile_turnHost {text : JsString} (h : (portEnd (text.drop (text.takeWhile isHostUnit).length)).isSome) :
    text.takeWhile isTurnHostUnit = text.takeWhile isHostUnit := by
  have hsplit := List.takeWhile_append_dropWhile (p := isHostUnit) (l := text)
  have hdrop : text.drop (text.takeWhile isHostUnit).length = text.dropWhile isHostUnit := by
    have hwhole := congrArg (List.drop (text.takeWhile isHostUnit).length) hsplit
    rw [List.drop_left] at hwhole
    exact hwhole.symm
  rw [hdrop] at h
  have hhost : ∀ u ∈ text.takeWhile isHostUnit, isTurnHostUnit u = true := by
    intro u hu
    have := List.mem_takeWhile_imp hu
    simp only [isHostUnit, Bool.and_eq_true, decide_eq_true_eq] at this
    simp only [isTurnHostUnit, Bool.and_eq_true, decide_eq_true_eq]
    exact ⟨this.2, this.1.1.2⟩
  conv_lhs => rw [← hsplit]
  rw [List.takeWhile_append_of_pos hhost]
  have hrest : (text.dropWhile isHostUnit).takeWhile isTurnHostUnit = [] := by
    cases hrest : text.dropWhile isHostUnit with
    | nil => rfl
    | cons u rest =>
      rw [hrest] at h
      rw [List.takeWhile_cons_of_neg]
      rw [head_of_portEnd h u rfl]
      exact Bool.false_ne_true
  rw [hrest, List.append_nil]

theorem matchHost_of_hostEnd {text : JsString} (h : (hostEnd text).isSome) : (matchHost text).isSome := by
  rw [hostEnd, Option.isSome_or, Bool.or_eq_true] at h
  rw [matchHost, Option.isSome_or, Bool.or_eq_true]
  rcases h with h | h
  · left
    obtain ⟨matched, hmatched⟩ := Option.isSome_iff_exists.mp h
    obtain ⟨after, hafter, hport⟩ := Option.bind_eq_some_iff.mp hmatched
    rw [hafter, Option.bind_some, Option.isSome_map]
    exact matchPort_of_portEnd (by rw [hport]; rfl)
  · right
    dsimp only at h ⊢
    split at h
    · cases h
    rename_i hne
    rw [takeWhile_turnHost h, if_neg hne, Option.isSome_map]
    exact matchPort_of_portEnd h

/-- The scheme of a URL up to its colon, its letters folded. -/
def scheme (url : JsString) : JsString :=
  (url.takeWhile (· ≠ 0x3A)).map foldUnit

theorem matchTurnUrl_of_matchIceServerUrl {url : JsString} (h : (matchIceServerUrl url).isSome)
    (hscheme : scheme url ≠ js "stun") : (matchTurnUrl url).isSome := by
  rw [matchIceServerUrl] at h
  rw [matchTurnUrl, ← scheme]
  rw [← scheme] at h
  split at h
  · rename_i hicescheme
    rw [if_pos (hicescheme.resolve_left hscheme)]
    cases hrest : url.drop (url.takeWhile (· ≠ 0x3A)).length with
    | nil =>
      rw [hrest] at h
      cases h
    | cons u rest =>
      rw [hrest] at h
      by_cases hcolon : u = 0x3A
      · subst hcolon
        change ((hostEnd (afterSlashes rest)).map _).isSome = true at h
        change (((matchHost (afterSlashes rest)).or (matchHost rest)).map _).isSome = true
        rw [Option.isSome_map] at h ⊢
        rw [Option.isSome_or, matchHost_of_hostEnd h, Bool.true_or]
      · split at h
        · rename_i heq
          exact absurd (List.cons.inj heq).1 hcolon
        · cases h
  · cases h

theorem matchTurnUrl_stun {url : JsString} (hscheme : scheme url = js "stun") : matchTurnUrl url = none := by
  rw [matchTurnUrl, ← scheme, hscheme, if_neg (by decide)]

/-! The conversion of whole lists. -/

/-- A URL that has the scheme of STUN begins with it in lower case. -/
def PlainStun (url : Value) : Prop :=
  ∀ text, url = .str text → scheme text = js "stun" → js "stun:" <+: text

def urlsOf (servers : List Value) : List Value :=
  servers.flatMap fun server => (serverUrls server).getD []

theorem toNodeIceServer_iff (server : Value) {url : Value} (h : isIceServerUrl url = true) :
    (∃ converted, toNodeIceServer server url = .ok converted) ↔ PlainStun url := by
  cases url with
  | str text =>
    simp only [isIceServerUrl, Bool.and_eq_true] at h
    have hmatch : (matchIceServerUrl text).isSome := by
      cases hmatched : matchIceServerUrl text with
      | none =>
        rw [hmatched] at h
        exact absurd h.2 Bool.false_ne_true
      | some matched => rfl
    rw [toNodeIceServer]
    constructor
    · rintro ⟨converted, hconverted⟩ other hother hstun
      cases hother
      rw [matchTurnUrl_stun hstun] at hconverted
      split at hconverted
      · rename_i hprefix
        exact List.isPrefixOf_iff_prefix.mp hprefix
      · cases hconverted
    · intro hplain
      by_cases hstun : scheme text = js "stun"
      · rw [if_pos (List.isPrefixOf_iff_prefix.mpr (hplain text rfl hstun))]
        exact ⟨_, rfl⟩
      · obtain ⟨matched, hmatched⟩ := Option.isSome_iff_exists.mp (matchTurnUrl_of_matchIceServerUrl hmatch hstun)
        rw [hmatched]
        split
        · exact ⟨_, rfl⟩
        · exact ⟨_, rfl⟩
  | _ => cases h

theorem isIceServer_urls {server : Value} (h : isIceServer server = true) :
    ∃ urls, serverUrls server = some urls ∧ (∀ url ∈ urls, isIceServerUrl url = true) ∧
      (server.get? (js "urls") = some (.arr urls) ∨ ∃ text, urls = [.str text] ∧ server.get? (js "urls") = some (.str text)) := by
  simp only [isIceServer, Bool.and_eq_true] at h
  obtain ⟨-, h⟩ := h
  cases hurls : serverUrls server with
  | none =>
    rw [hurls] at h
    cases h
  | some urls =>
    rw [hurls] at h
    simp only [Bool.and_eq_true] at h
    refine ⟨urls, rfl, List.all_eq_true.mp h.2, ?_⟩
    rw [serverUrls] at hurls
    split at hurls
    · rename_i text hget
      cases hurls
      exact .inr ⟨text, rfl, hget⟩
    · rename_i list hget
      cases hurls
      exact .inl hget
    · cases hurls

/-- A list that the wire accepts is converted exactly where its STUN URLs are plain. -/
theorem toNodeIceServers_iff {servers : List Value} (h : isIceServers (some (.arr servers)) = true) :
    (∃ converted, toNodeIceServers servers = .ok converted) ↔ ∀ url ∈ urlsOf servers, PlainStun url := by
  simp only [isIceServers, Bool.and_eq_true, List.all_eq_true] at h
  have hmap : (∃ converted, toNodeIceServers servers = .ok converted) ↔
      ∀ server ∈ servers, ∃ converted, toNodeServers server = .ok converted := by
    rw [← exists_mapM_eq_ok]
    constructor
    · rintro ⟨converted, hconverted⟩
      obtain ⟨results, hresults, -⟩ := map_eq_ok.mp hconverted
      exact ⟨results, hresults⟩
    · rintro ⟨results, hresults⟩
      exact ⟨results.flatten, map_eq_ok.mpr ⟨results, hresults, rfl⟩⟩
  rw [hmap, urlsOf]
  simp only [List.forall_mem_flatMap]
  refine forall₂_congr fun server hserver => ?_
  obtain ⟨urls, hurls, hall, hget | ⟨text, rfl, hget⟩⟩ := isIceServer_urls (h.2 server hserver)
  · rw [toNodeServers, hget, hurls, Option.getD_some, exists_mapM_eq_ok]
    exact forall₂_congr fun url hurl => toNodeIceServer_iff server (hall url hurl)
  · rw [toNodeServers, hget, hurls, Option.getD_some]
    dsimp only
    rw [exists_mapM_eq_ok]
    exact forall₂_congr fun url hurl => toNodeIceServer_iff server (hall url hurl)

/-! The lists of a browser. -/

open pipane.turn_relay

/-- A STUN URL that names a transport. -/
def stunTransport : Value → Bool
  | .str url => (matchIceServerUrl url).any fun matched => matched.scheme.map lowerUnit = js "stun" && matched.transport
  | _ => false

theorem isIceServerUrl_eq (url : Value) : isIceServerUrl url = (isIceUrl url && !stunTransport url) := by
  cases url with
  | str text =>
    rw [isIceServerUrl, isIceUrl, stunTransport]
    cases matchIceServerUrl text with
    | none => simp [MAX_ICE_URL_LENGTH]
    | some matched =>
      simp only [MAX_ICE_URL_LENGTH, Option.any_some, Bool.and_assoc]
      rw [Bool.and_comm (isPort matched.port)]
      rfl
  | _ => rfl

theorem optional_cases {value : Option Value} {bound : Nat} (h : isOptionalBoundedString value bound = true) :
    value = none ∨ ∃ text, value = some (.str text) ∧ text ≠ [] := by
  cases value with
  | none => exact .inl rfl
  | some value =>
    cases value with
    | str text =>
      simp only [isOptionalBoundedString, Bool.and_eq_true, decide_eq_true_eq] at h
      exact .inr ⟨text, rfl, h.1⟩
    | _ => cases h

/-- A record that the browser keeps: it meets every check of the wire but the one on the transport of STUN. -/
structure Kept (server : Value) : Prop where
  urls : ∃ urls, serverUrls server = some urls ∧ urls ≠ [] ∧ urls.length ≤ 8 ∧ ∀ url ∈ urls, isIceUrl url = true
  isRecord : isRecord server = true
  username : isOptionalBoundedString (server.get? (js "username")) MAX_ICE_USERNAME_LENGTH = true
  credential : isOptionalBoundedString (server.get? (js "credential")) MAX_ICE_CREDENTIAL_LENGTH = true
  relay : hasTurnUrl server = true →
    truthy (server.get? (js "username")) = true ∧ truthy (server.get? (js "credential")) = true
  canonical : server.Canonical

theorem isTurnUrl_eq {urls : List Value} (h : ∀ url ∈ urls, isIceUrl url = true) :
    urls.any turn_relay.isTurnUrl = urls.any rendezvous_protocol.isTurnUrl := by
  rw [Bool.eq_iff_iff, List.any_eq_true, List.any_eq_true]
  refine exists_congr fun url => and_congr_right fun hurl => ?_
  have hice := h url hurl
  cases url with
  | str text => rw [turn_relay.isTurnUrl, rendezvous_protocol.isTurnUrl, hice, Bool.true_and]
  | _ => cases hice

/-- The members of a kept record. -/
def members (given : Value) (username credential : List (JsString × Value)) : List (JsString × Value) :=
  (js "urls", given) :: (username ++ credential)

theorem stringMember_of_none {key : String} {entry : Value} (h : entry.get? (js key) = none) :
    stringMember key entry = [] := by
  rw [stringMember, h]

theorem stringMember_of_str {key : String} {entry : Value} {text : JsString}
    (h : entry.get? (js key) = some (.str text)) : stringMember key entry = [(js key, .str text)] := by
  rw [stringMember, h]

theorem canonical_given {entry given : Value} {urls : List Value} (hurls : serverUrls entry = some urls)
    (hgiven : entry.get? (js "urls") = some given) (hall : ∀ url ∈ urls, isIceUrl url = true) : given.Canonical := by
  rw [serverUrls, hgiven] at hurls
  cases given with
  | str text => trivial
  | arr items =>
    cases hurls
    refine canonicalItems_iff.mpr fun url hurl => ?_
    have hice := hall url hurl
    cases url with
    | str text => trivial
    | _ => cases hice
  | _ => cases hurls

theorem kept_of_validateIceServer {entry server : Value} (h : validateIceServer entry = .ok server) :
    Kept server ∧ hasTurnUrl server = ((serverUrls entry).any fun urls => urls.any turn_relay.isTurnUrl) := by
  rw [validateIceServer] at h
  split at h
  · cases h
  split at h
  · rename_i urls given hurls hgiven
    split at h
    · cases h
    rename_i hshape
    split at h
    · cases h
    rename_i htexts
    split at h
    · cases h
    rename_i hrelay
    cases h
    simp only [not_or, Bool.not_eq_false, not_lt] at hshape htexts
    obtain ⟨hne, hlength, hall⟩ := hshape
    obtain ⟨huser, hcredential⟩ := htexts
    rw [List.all_eq_true] at hall
    have hturn := isTurnUrl_eq hall
    have hsame : ∀ username credential, serverUrls (.obj (members given username credential)) = some urls := by
      intro username credential
      rw [serverUrls, hgiven] at hurls
      exact hurls
    have hcanonical := canonical_given hurls hgiven hall
    have hhas : ∀ username credential, hasTurnUrl (.obj (members given username credential)) =
        urls.any turn_relay.isTurnUrl := by
      intro username credential
      rw [hasTurnUrl, hsame, Option.any_some, hturn]
    rw [hurls, Option.any_some]
    refine ⟨?_, hhas _ _⟩
    have hkeys : [js "urls", js "username", js "credential"].Nodup := by decide
    have hurl : [js "urls"].Nodup := by decide
    have hurlUser : [js "urls", js "username"].Nodup := by decide
    have hurlCredential : [js "urls", js "credential"].Nodup := by decide
    rcases optional_cases huser with hu | ⟨user, hu, hune⟩ <;>
      rcases optional_cases hcredential with hc | ⟨credential, hc, hcne⟩ <;>
        rw [hu] at huser <;> rw [hc] at hcredential
    · rw [stringMember_of_none hu, stringMember_of_none hc] at hrelay ⊢
      refine ⟨⟨urls, hsame [] [], hne, hlength, hall⟩, rfl, rfl, rfl, fun hany => ?_, hurl, hcanonical, trivial⟩
      exact absurd ⟨(hhas [] []).symm.trans hany, .inl rfl⟩ hrelay
    · rw [stringMember_of_none hu, stringMember_of_str hc] at hrelay ⊢
      refine ⟨⟨urls, hsame [] _, hne, hlength, hall⟩, rfl, rfl, hcredential, fun hany => ?_, hurlCredential,
        hcanonical, trivial, trivial⟩
      exact absurd ⟨(hhas [] _).symm.trans hany, .inl rfl⟩ hrelay
    · rw [stringMember_of_str hu, stringMember_of_none hc] at hrelay ⊢
      refine ⟨⟨urls, hsame _ [], hne, hlength, hall⟩, rfl, huser, rfl, fun hany => ?_, hurlUser, hcanonical,
        trivial, trivial⟩
      exact absurd ⟨(hhas _ []).symm.trans hany, .inr rfl⟩ hrelay
    · rw [stringMember_of_str hu, stringMember_of_str hc] at hrelay ⊢
      refine ⟨⟨urls, hsame _ _, hne, hlength, hall⟩, rfl, huser, hcredential, fun _ => ⟨?_, ?_⟩, hkeys, hcanonical,
        trivial, trivial, trivial⟩
      · change (Value.str user).truthy = true
        simpa [Value.truthy] using hune
      · change (Value.str credential).truthy = true
        simpa [Value.truthy] using hcne
  · cases h

/-- A list that the browser keeps and sends: from a list of records, or as a static profile. -/
def ClientList (servers : List Value) : Prop :=
  (∃ value, validateIceServers value true = .ok servers) ∨ ∃ value, validateTurnRelayProfile value = .ok (.static servers)

/-- The hub accepts the connection request that carries a list. -/
def HubAccepts (servers : List Value) : Prop :=
  ∀ backendId ticket, backendId ≠ [] → ticket ≠ [] →
    ∃ command, decodeBrowserCommand (connectCommand backendId ticket servers) = .ok command

theorem validateIceServers_ok {value : Option Value} {servers : List Value}
    (h : validateIceServers value true = .ok servers) :
    servers ≠ [] ∧ servers.length ≤ 8 ∧ (∀ server ∈ servers, Kept server) ∧ servers.any hasTurnUrl = true := by
  rw [validateIceServers.eq_def] at h
  split at h
  · rename_i entries
    split at h
    · cases h
    rename_i hlength
    simp only [not_or, not_lt] at hlength
    obtain ⟨result, hresult, h⟩ := bind_eq_ok.mp h
    split at h
    · cases h
    rename_i hturn
    cases h
    simp only [true_and, not_not] at hturn
    have hall := mapM_eq_ok.mp hresult
    have hlengths := hall.length_eq
    refine ⟨?_, by omega, ?_, ?_⟩
    · rintro rfl
      exact hlength.1 (List.length_eq_zero_iff.mp hlengths)
    · intro server hserver
      obtain ⟨entry, -, hentry⟩ := forall₂_exists_right hall.flip hserver
      exact (kept_of_validateIceServer hentry).1
    · obtain ⟨entry, hentry, hany⟩ := List.any_eq_true.mp hturn
      obtain ⟨server, hserver, hvalid⟩ := forall₂_exists_right hall hentry
      exact List.any_eq_true.mpr ⟨server, hserver, (kept_of_validateIceServer hvalid).2.trans hany⟩
  · cases h

theorem validateTurnRelayProfile_static {value : Value} {servers : List Value}
    (h : validateTurnRelayProfile value = .ok (.static servers)) :
    validateIceServers (value.get? (js "iceServers")) true = .ok servers := by
  rw [validateTurnRelayProfile] at h
  split at h
  · cases h
  split at h
  · obtain ⟨application, -, h⟩ := bind_eq_ok.mp h
    split at h
    · split at h <;> cases h
    · cases h
  split at h
  · obtain ⟨urls, -, h⟩ := bind_eq_ok.mp h
    split at h
    · split at h
      · cases h
      split at h
      · split at h <;> cases h
      · cases h
    · cases h
  split at h
  · obtain ⟨kept, hkept, h⟩ := bind_eq_ok.mp h
    cases h
    exact hkept
  · cases h

theorem isIceServer_iff_of_kept {server : Value} (h : Kept server) :
    isIceServer server = true ↔ ∀ url ∈ (serverUrls server).getD [], stunTransport url = false := by
  obtain ⟨⟨urls, hurls, hne, hlength, hall⟩, hrecord, husername, hcredential, -, -⟩ := h
  rw [isIceServer, hrecord, husername, hcredential, hurls, Option.getD_some]
  simp only [Bool.true_and, Bool.and_eq_true, decide_eq_true_eq, List.all_eq_true]
  have hurl : (∀ url ∈ urls, isIceServerUrl url = true) ↔ ∀ url ∈ urls, stunTransport url = false := by
    refine forall₂_congr fun url hurl => ?_
    rw [isIceServerUrl_eq, hall url hurl, Bool.true_and, Bool.not_eq_true']
  rw [hurl]
  exact ⟨And.right, fun hplain => ⟨⟨by simpa using hne, hlength⟩, hplain⟩⟩

/-- What the hub asks of the servers of a browser beyond what the browser has checked. -/
theorem isSupplementalIceServers_iff {servers : List Value} (hlength : servers.length ≤ 8)
    (hkept : ∀ server ∈ servers, Kept server) (hturn : servers.any hasTurnUrl = true) :
    isSupplementalIceServers (some (.arr servers)) = true ↔ ∀ url ∈ urlsOf servers, stunTransport url = false := by
  have hrelay : servers.all (fun server => !hasTurnUrl server ||
      truthy (server.get? (js "username")) && truthy (server.get? (js "credential"))) = true := by
    rw [List.all_eq_true]
    intro server hserver
    cases hany : hasTurnUrl server with
    | false => rfl
    | true =>
      obtain ⟨husername, hcredential⟩ := (hkept server hserver).relay hany
      rw [husername, hcredential]
      rfl
  rw [isSupplementalIceServers, hturn, hrelay, Bool.and_true, Bool.and_true, isIceServers, Bool.and_eq_true,
    decide_eq_true_eq, List.all_eq_true, urlsOf]
  simp only [List.forall_mem_flatMap]
  have hbound : servers.length ≤ MAX_ICE_SERVERS := hlength
  rw [and_iff_right hbound]
  exact forall₂_congr fun server hserver => isIceServer_iff_of_kept (hkept server hserver)

/-- The message that carries a list decodes exactly where the hub accepts the list. -/
theorem decode_connectCommand {servers : List Value} {backendId ticket : JsString} (hne : servers ≠ [])
    (hkept : ∀ server ∈ servers, Kept server) (hbackend : backendId ≠ []) (hticket : ticket ≠ []) :
    (∃ command, decodeBrowserCommand (connectCommand backendId ticket servers) = .ok command) ↔
      isSupplementalIceServers (some (.arr servers)) = true := by
  have hitems : CanonicalItems servers := canonicalItems_iff.mpr fun server hserver => (hkept server hserver).canonical
  have hkeys : [js "protocolVersion", js "type", js "backendId", js "ticket", js "iceServers"].Nodup := by decide
  let message : Value := .obj [(js "protocolVersion", .num (.int RENDEZVOUS_PROTOCOL_VERSION)),
    (js "type", .str (js "connect_backend")), (js "backendId", .str backendId), (js "ticket", .str ticket),
    (js "iceServers", .arr servers)]
  have hparse : parse (connectCommand backendId ticket servers) = some message := by
    rw [connectCommand, if_neg hne]
    exact parse_stringify ⟨hkeys, trivial, trivial, trivial, trivial, hitems, trivial⟩
  have henvelope : parseEnvelope (connectCommand backendId ticket servers) = .ok (js "connect_backend", message) := by
    rw [parseEnvelope, hparse]
    rfl
  have hbackendId : string? message "backendId" = some backendId := if_neg hbackend
  have hticketText : string? message "ticket" = some ticket := if_neg hticket
  have hsupplemental : supplementalIceServers? message = if h : isIceServers (some (.arr servers)) = true then
      if isSupplementalIceServers (some (.arr servers)) then some (some ⟨servers, h⟩) else none
      else none := rfl
  rw [decodeBrowserCommand, henvelope]
  simp only [bind, Except.bind, if_true, hbackendId, hticketText, hsupplemental, Option.bind]
  by_cases hsup : isSupplementalIceServers (some (.arr servers)) = true
  · have hice : isIceServers (some (.arr servers)) = true := by
      rw [isSupplementalIceServers, Bool.and_eq_true] at hsup
      exact hsup.1
    rw [dif_pos hice, if_pos hsup]
    exact iff_of_true ⟨_, rfl⟩ hsup
  · refine iff_of_false ?_ hsup
    rintro ⟨command, hcommand⟩
    split at hcommand
    · cases hcommand
    · rename_i heq
      split at heq
      · cases heq
      · cases heq

theorem hubAccepts_iff {servers : List Value} (h : ClientList servers) :
    HubAccepts servers ↔ ∀ url ∈ urlsOf servers, stunTransport url = false := by
  have hvalid : ∃ value, validateIceServers value true = .ok servers := by
    rcases h with h | ⟨value, h⟩
    · exact h
    · exact ⟨_, validateTurnRelayProfile_static h⟩
  obtain ⟨value, hvalue⟩ := hvalid
  obtain ⟨hne, hlength, hkept, hturn⟩ := validateIceServers_ok hvalue
  rw [← isSupplementalIceServers_iff hlength hkept hturn]
  constructor
  · intro haccepts
    have hsome : js "b" ≠ [] := by decide
    exact (decode_connectCommand hne hkept hsome hsome).mp (haccepts _ _ hsome hsome)
  · intro hsup backendId ticket hbackend hticket
    exact (decode_connectCommand hne hkept hbackend hticket).mpr hsup

/-! The peer of an accepted request. -/

open pipane.backend_webrtc

variable {options : BackendWebRtcManagerOptions}

theorem allocated_removePeer (manager : BackendWebRtcManager options) (connectionId : JsString) :
    (manager.removePeer connectionId).allocated = manager.allocated := by
  rw [BackendWebRtcManager.removePeer]
  split
  · rfl
  · dsimp only
    split
    · rfl
    · rw [BackendWebRtcManager.clearTimeout.eq_def]
      split <;> rfl

theorem get?_removePeer_ne (manager : BackendWebRtcManager options) {connectionId other : JsString}
    (h : other ≠ connectionId) : (manager.removePeer connectionId).peers.get? other = manager.peers.get? other := by
  rw [BackendWebRtcManager.removePeer]
  split
  · rfl
  · dsimp only
    split
    · exact OrderedMap.get?_erase_ne h
    · rw [BackendWebRtcManager.clearTimeout.eq_def]
      split <;> exact OrderedMap.get?_erase_ne h

/-- The servers of a request are read by `toNodeIceServers` unless there are none. -/
def converts (servers : List Value) : Bool :=
  servers = [] || (toNodeIceServers servers).isOk

/-- The wire reads a scheme in any case, the conversion reads that of STUN in lower case only. -/
example : isIceServers (some (.arr [.obj [(js "urls", .str (js "STUN:s.example"))]])) = true ∧
    converts [.obj [(js "urls", .str (js "STUN:s.example"))]] = false := by
  decide +kernel

/-- What `createPeer` meets: the conversion throws where the constructor of the library would. -/
def met (surroundings : Surroundings) (servers : List Value) : Surroundings :=
  { surroundings with peerThrows := surroundings.peerThrows || !converts servers }

/-- Every accepted request that carries a list leaves one new peer under its connection, and no other peer changes. -/
def CreatesOnePeer (servers : List Value) : Prop :=
  ∀ (options : BackendWebRtcManagerOptions) (surroundings : Surroundings) (manager : BackendWebRtcManager options)
    (request : BackendConnectionRequest) (opened : VerifiedRequest options),
    request.iceServers = servers → surroundings.peerThrows = false →
      BackendWebRtcManager.openRequest options surroundings request = .ok opened →
        let created := manager.createPeer (met surroundings servers) request
        created.peers.get? request.connectionId = some manager.allocated ∧
          created.states.get? manager.allocated = some { opened } ∧ created.allocated = manager.allocated + 1 ∧
            ∀ other ≠ request.connectionId, created.peers.get? other = manager.peers.get? other

theorem createsOnePeer_of_converts {servers : List Value} (h : converts servers = true) : CreatesOnePeer servers := by
  intro options surroundings manager request opened hservers hthrows hopened
  have hopens : BackendWebRtcManager.openRequest options (met surroundings servers) request = .ok opened := hopened
  have hmet : ¬ (met surroundings servers).peerThrows = true := by
    rw [met, hthrows, h]
    exact Bool.false_ne_true
  have hcreated : manager.createPeer (met surroundings servers) request =
      { manager.removePeer request.connectionId with
        peers := (manager.removePeer request.connectionId).peers.set request.connectionId manager.allocated
        states := (manager.removePeer request.connectionId).states.set manager.allocated { opened }
        allocated := manager.allocated + 1 } := by
    rw [BackendWebRtcManager.createPeer, hopens]
    dsimp only
    rw [if_neg hmet, allocated_removePeer]
  rw [hcreated]
  refine ⟨OrderedMap.get?_set_self _ _ _, OrderedMap.get?_set_self _ _ _, rfl, fun other hother => ?_⟩
  exact (OrderedMap.get?_set_ne hother _).trans (get?_removePeer_ne manager hother)

/-- The three checks of a list agree: the hub takes what a browser keeps, and what the wire takes is converted and
    leads to one peer. -/
def Agree (servers : List Value) : Prop :=
  (ClientList servers → HubAccepts servers) ∧
    (isIceServers (some (.arr servers)) = true →
      (∃ converted, toNodeIceServers servers = .ok converted) ∧ CreatesOnePeer servers)

theorem agree_iff (servers : List Value) :
    Agree servers ↔
      (ClientList servers → ∀ url ∈ urlsOf servers, stunTransport url = false) ∧
        (isIceServers (some (.arr servers)) = true → ∀ url ∈ urlsOf servers, PlainStun url) := by
  rw [Agree]
  refine and_congr (forall_congr' hubAccepts_iff) (forall_congr' fun hwire => ?_)
  rw [← toNodeIceServers_iff hwire]
  refine and_iff_left_of_imp ?_
  rintro ⟨converted, hconverted⟩
  apply createsOnePeer_of_converts
  rw [converts, hconverted]
  exact Bool.or_true _

/-- A browser keeps a STUN server that names a transport beside a relay, and the hub refuses the list. -/
def namedTransport : List Value :=
  [.obj [(js "urls", .arr [.str (js "turn:t.example")]), (js "username", .str (js "u")),
      (js "credential", .str (js "c"))],
    .obj [(js "urls", .str (js "stun:s.example?transport=udp"))]]

theorem namedTransport_disagrees : ¬ Agree namedTransport := by
  intro hagree
  have hclient : ClientList namedTransport := by
    exact .inl ⟨some (.arr namedTransport), by rfl⟩
  have hurls : urlsOf namedTransport =
      [.str (js "turn:t.example"), .str (js "stun:s.example?transport=udp")] := by rfl
  have hplain := (hubAccepts_iff hclient).mp (hagree.1 hclient) (.str (js "stun:s.example?transport=udp"))
    (by rw [hurls]; exact List.mem_cons_of_mem _ (List.mem_singleton_self _))
  exact absurd hplain (by decide +kernel)

end pipane.ice_servers
