import Pipane.Lib.Base64

namespace base64

/-- The URL-safe alphabet differs in the last two digits. -/
def urlUnit (u : UInt16) : UInt16 :=
  if u = 0x2B then 0x2D else if u = 0x2F then 0x5F else u

/-- `Buffer.toString("base64url")`: no padding. -/
def encodeUrl (bytes : List UInt8) : JsString :=
  ((encode bytes).filter fun u => u ≠ pad).map urlUnit

/-- The six-bit value of a unit of either alphabet. -/
def urlSextet (u : UInt16) : Option Nat :=
  if u = 0x2D then some 62 else if u = 0x5F then some 63 else decodeSextet u

/-- The bytes of a sequence of six-bit values; what does not fill a byte is dropped. -/
def joinSextets : List Nat → List UInt8
  | p :: q :: r :: s :: rest =>
    UInt8.ofNat (p * 4 + q / 16) :: UInt8.ofNat (q % 16 * 16 + r / 4) :: UInt8.ofNat (r % 4 * 64 + s) ::
      joinSextets rest
  | [p, q, r] => [UInt8.ofNat (p * 4 + q / 16), UInt8.ofNat (q % 16 * 16 + r / 4)]
  | [p, q] => [UInt8.ofNat (p * 4 + q / 16)]
  | _ => []

/-- `Buffer.from(text, "base64url")`: units outside the alphabets are skipped. -/
def decodeUrl (text : JsString) : List UInt8 :=
  joinSextets (text.filterMap urlSextet)

theorem urlSextet_urlUnit {n : Nat} (h : n < 64) : urlSextet (urlUnit (encodeSextet n)) = some n := by
  interval_cases n <;> rfl

theorem byte_eq {a : UInt8} {n : Nat} (h : n = a.toNat) : UInt8.ofNat n = a := by
  rw [h, UInt8.ofNat_toNat]

theorem filter_sextet {n : Nat} (h : n < 64) (rest : JsString) :
    (encodeSextet n :: rest).filter (fun u => u ≠ pad) = encodeSextet n :: rest.filter fun u => u ≠ pad := by
  rw [List.filter_cons_of_pos (by simpa using encodeSextet_ne_pad h)]

theorem sextets_cons {n : Nat} (h : n < 64) (rest : JsString) :
    (((encodeSextet n :: rest).filter fun u => u ≠ pad).map urlUnit).filterMap urlSextet =
      n :: ((rest.filter fun u => u ≠ pad).map urlUnit).filterMap urlSextet := by
  rw [filter_sextet h, List.map_cons, List.filterMap_cons, urlSextet_urlUnit h]

theorem sextets_pad (rest : JsString) :
    (((pad :: rest).filter fun u => u ≠ pad).map urlUnit).filterMap urlSextet =
      ((rest.filter fun u => u ≠ pad).map urlUnit).filterMap urlSextet := by
  rw [List.filter_cons_of_neg (by simp)]

theorem decodeUrl_encodeUrl (bytes : List UInt8) : decodeUrl (encodeUrl bytes) = bytes := by
  unfold decodeUrl encodeUrl
  induction bytes using encode.induct with
  | case1 => rfl
  | case2 a =>
    have ha := a.toNat_lt
    rw [encode, sextets_cons (by omega), sextets_cons (by omega), sextets_pad, sextets_pad]
    simp only [List.filter_nil, List.map_nil, List.filterMap_nil, joinSextets]
    rw [byte_eq (show _ = a.toNat by omega)]
  | case3 a b =>
    have ha := a.toNat_lt
    have hb := b.toNat_lt
    rw [encode, sextets_cons (by omega), sextets_cons (by omega), sextets_cons (by omega), sextets_pad]
    simp only [List.filter_nil, List.map_nil, List.filterMap_nil, joinSextets]
    rw [byte_eq (show _ = a.toNat by omega), byte_eq (show _ = b.toNat by omega)]
  | case4 a b c rest ih =>
    have ha := a.toNat_lt
    have hb := b.toNat_lt
    have hc := c.toNat_lt
    rw [encode, sextets_cons (by omega), sextets_cons (by omega), sextets_cons (by omega), sextets_cons (by omega),
      joinSextets, ih]
    rw [byte_eq (show _ = a.toNat by omega), byte_eq (show _ = b.toNat by omega), byte_eq (show _ = c.toNat by omega)]

end base64
