import Pipane.Shared.BackendProtocol.Codec
import Pipane.Lib.Json.Tokens

open javascript json

namespace pipane.backend_protocol

/-- The members of a frame, in the order in which `encodeBackendFrame` writes them. -/
def frameMembers (kind : JsString) (rest : List (JsString × Value)) : List (JsString × Value) :=
  (js "v", .num (.int BACKEND_PROTOCOL_VERSION)) :: (js "kind", .str kind) :: rest

theorem startsVersion_version (text : JsString) : startsVersion (js "\"v\":2," ++ text) = true := by
  rfl

theorem startsKind_kind {kind : JsString} (hkind : kind ∈ [js "request", js "response", js "event"])
    (text : JsString) : startsKind (js "\"kind\":" ++ (quote kind ++ text)) = true := by
  simp only [List.mem_cons, List.not_mem_nil, or_false] at hkind
  obtain rfl | rfl | rfl := hkind <;> rfl

theorem stringify_frame (kind : JsString) (member : JsString × Value) (rest : List (JsString × Value)) :
    ∃ text, stringify (.obj (frameMembers kind (member :: rest))) =
      js "\x7b\"v\":2," ++ (js "\"kind\":" ++ (quote kind ++ text)) := by
  refine ⟨0x2C :: (stringifyMembers (member :: rest) ++ [0x7D]), ?_⟩
  have hversion : stringify (.num (.int BACKEND_PROTOCOL_VERSION)) = js "2" := by decide +kernel
  have hkeys : quote (js "v") = js "\"v\"" ∧ quote (js "kind") = js "\"kind\"" := by decide
  rw [frameMembers, stringify, stringifyMembers, stringifyMembers, hversion, hkeys.1, hkeys.2, stringify]
  have hopen : js "\x7b\"v\":2," = 0x7B :: (js "\"v\"" ++ 0x3A :: (js "2" ++ [0x2C])) := by decide
  have hcolon : js "\"kind\":" = js "\"kind\"" ++ [0x3A] := by decide
  rw [hopen, hcolon]
  simp only [List.cons_append, List.append_assoc, List.nil_append]

theorem isBackendProtocolFrame_frame {kind : JsString} (hkind : kind ∈ [js "request", js "response", js "event"])
    (member : JsString × Value) (rest : List (JsString × Value)) :
    isBackendProtocolFrame (stringify (.obj (frameMembers kind (member :: rest)))) = true := by
  obtain ⟨text, htext⟩ := stringify_frame kind member rest
  have hkept : ∃ kept, (stringify (.obj (frameMembers kind (member :: rest)))).take 128 =
      js "\x7b\"v\":2," ++ (js "\"kind\":" ++ (quote kind ++ kept)) := by
    refine ⟨text.take (128 - 7 - 7 - (quote kind).length), ?_⟩
    have hlength : (js "\x7b\"v\":2,").length = 7 ∧ (js "\"kind\":").length = 7 := by decide
    have hshort : (quote kind).length ≤ 10 := by
      simp only [List.mem_cons, List.not_mem_nil, or_false] at hkind
      obtain rfl | rfl | rfl := hkind <;> decide
    rw [htext, List.take_append, List.take_append, List.take_append, hlength.1, hlength.2,
      List.take_of_length_le (by omega), List.take_of_length_le (by omega), List.take_of_length_le (by omega)]
  obtain ⟨kept, hkept⟩ := hkept
  simp only [isBackendProtocolFrame, hkept, Bool.and_eq_true, List.any_eq_true, List.mem_tails]
  constructor
  · refine ⟨js "\"v\":2," ++ (js "\"kind\":" ++ (quote kind ++ kept)), ⟨[0x7B], ?_⟩, startsVersion_version _⟩
    rfl
  · exact ⟨_, ⟨js "\x7b\"v\":2,", rfl⟩, startsKind_kind hkind kept⟩

theorem isBackendProtocolFrame_request (request : BackendRequestFrame) :
    isBackendProtocolFrame (encodeBackendRequest request) = true :=
  isBackendProtocolFrame_frame (by simp) _ _

theorem isBackendProtocolFrame_response (id method : JsString)
    (outcome : Except BackendApiErrorPayload (Option Value)) :
    isBackendProtocolFrame (encodeBackendResponse id method outcome) = true := by
  unfold encodeBackendResponse
  split <;> exact isBackendProtocolFrame_frame (by simp) _ _

theorem eq_append_of_dropPrefix? {name text rest : JsString}
    (h : text.dropPrefix? (0x22 :: name ++ [0x22]) = some rest) : text = 0x22 :: name ++ 0x22 :: rest := by
  obtain ⟨start, rfl, hstart⟩ := List.dropPrefix?_eq_some_iff.mp h
  rw [eq_of_beq hstart, List.append_assoc, List.singleton_append]

/-- A test for a member name that stands at some place in the first code units of a text. -/
theorem key_of_test {v : Value} (hv : v.Canonical) {name : JsString} (hne : name ≠ [])
    (hletters : ∀ u ∈ name, IsLetter u) {test : JsString → Bool}
    (htest : ∀ text, test text = true →
      ∃ rest, text = 0x22 :: name ++ 0x22 :: rest ∧ (rest.dropWhile javascript.isWhitespace).head? = some 0x3A)
    {n : Nat} (h : ((stringify v).take n).tails.any test = true) :
    ∃ k ∈ keys v, 0x22 :: name ++ [0x22] <:+ quote k := by
  obtain ⟨text, htext, hpasses⟩ := List.any_eq_true.mp h
  obtain ⟨front, hfront⟩ := (List.mem_tails _ _).mp htext
  obtain ⟨rest, rfl, hcolon⟩ := htest text hpasses
  have hfull : stringify v = front ++ 0x22 :: name ++ 0x22 :: (rest ++ (stringify v).drop n) := by
    rw [← List.cons_append, ← List.append_assoc (front ++ 0x22 :: name), List.append_assoc front, hfront,
      List.take_append_drop]
  have hspace : ([0x2C, 0x5D, 0x7D] : List UInt16).all (fun u => javascript.isWhitespace u = false) = true := by decide
  refine member_name_of_key hv hne hletters hfull (fun u hu => of_decide_eq_true (List.all_eq_true.mp hspace u hu)) ?_
  rw [List.dropWhile_append]
  cases hspace : rest.dropWhile javascript.isWhitespace with
  | nil =>
    rw [hspace] at hcolon
    cases hcolon
  | cons u more =>
    rw [hspace] at hcolon
    exact hcolon

theorem startsVersion_name {text : JsString} (h : startsVersion text = true) :
    ∃ rest, text = 0x22 :: js "v" ++ 0x22 :: rest ∧
      (rest.dropWhile javascript.isWhitespace).head? = some 0x3A := by
  unfold startsVersion at h
  split at h
  · cases h
  · rename_i rest hrest
    refine ⟨rest, eq_append_of_dropPrefix? hrest, ?_⟩
    split at h
    · rename_i more hmore
      rw [hmore, List.head?_cons]
    · cases h

theorem startsKind_name {text : JsString} (h : startsKind text = true) :
    ∃ rest, text = 0x22 :: js "kind" ++ 0x22 :: rest ∧
      (rest.dropWhile javascript.isWhitespace).head? = some 0x3A := by
  unfold startsKind at h
  split at h
  · cases h
  · rename_i rest hrest
    refine ⟨rest, eq_append_of_dropPrefix? hrest, ?_⟩
    split at h
    · rename_i more hmore
      rw [hmore, List.head?_cons]
    · cases h

theorem keys_of_gate {v : Value} (hv : v.Canonical) (h : isBackendProtocolFrame (stringify v) = true) :
    (∃ k ∈ keys v, js "\"v\"" <:+ quote k) ∧ ∃ k ∈ keys v, js "\"kind\"" <:+ quote k := by
  have hletters : (∀ u ∈ js "v", IsLetter u) ∧ ∀ u ∈ js "kind", IsLetter u := by
    have hall : (js "v").all (fun u => IsLetter u) = true ∧ (js "kind").all (fun u => IsLetter u) = true := by
      decide
    exact ⟨fun u hu => of_decide_eq_true (List.all_eq_true.mp hall.1 u hu),
      fun u hu => of_decide_eq_true (List.all_eq_true.mp hall.2 u hu)⟩
  rw [isBackendProtocolFrame, Bool.and_eq_true] at h
  constructor
  · exact key_of_test hv (by decide) hletters.1 (fun _ => startsVersion_name) h.1
  · exact key_of_test hv (by decide) hletters.2 (fun _ => startsKind_name) h.2

end pipane.backend_protocol
