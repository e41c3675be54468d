import Pipane.Lib.JsString
import Mathlib.Tactic.FinCases

namespace base64

/-- The code unit of a six-bit value in the standard alphabet. -/
def encodeSextet (n : Nat) : UInt16 :=
  if n < 26 then UInt16.ofNat (65 + n)
  else if n < 52 then UInt16.ofNat (71 + n)
  else if n < 62 then UInt16.ofNat (n - 4)
  else if n = 62 then 43
  else 47

/-- The six-bit value of a code unit, for the units of `[A-Za-z0-9+/]` only. -/
def decodeSextet (u : UInt16) : Option Nat :=
  let n := u.toNat
  if 65 ≤ n ∧ n ≤ 90 then some (n - 65)
  else if 97 ≤ n ∧ n ≤ 122 then some (n - 71)
  else if 48 ≤ n ∧ n ≤ 57 then some (n + 4)
  else if n = 43 then some 62
  else if n = 47 then some 63
  else none

/-- The padding unit `=`. -/
def pad : UInt16 := 61

/-- `btoa` of the binary string that holds the given bytes. -/
def encode : List UInt8 → JsString
  | [] => []
  | [a] => [encodeSextet (a.toNat / 4), encodeSextet (a.toNat % 4 * 16), pad, pad]
  | [a, b] =>
    [encodeSextet (a.toNat / 4), encodeSextet (a.toNat % 4 * 16 + b.toNat / 16),
      encodeSextet (b.toNat % 16 * 4), pad]
  | a :: b :: c :: rest =>
    encodeSextet (a.toNat / 4) :: encodeSextet (a.toNat % 4 * 16 + b.toNat / 16) ::
      encodeSextet (b.toNat % 16 * 4 + c.toNat / 64) :: encodeSextet (c.toNat % 64) :: encode rest

/-- The bytes of a quantum that ends in `=` or `==`; its trailing bits are dropped. -/
def decodeFinal (w x y : UInt16) : Option (List UInt8) := do
  let p ← decodeSextet w
  let q ← decodeSextet x
  if y = pad then
    return [UInt8.ofNat (p * 4 + q / 16)]
  else
    let r ← decodeSextet y
    return [UInt8.ofNat (p * 4 + q / 16), UInt8.ofNat (q % 16 * 16 + r / 4)]

/-- `atob` on the texts of full or padded quanta, `none` on every other text. -/
def decode : JsString → Option (List UInt8)
  | [] => some []
  | w :: x :: y :: z :: rest =>
    if z = pad then
      if rest = [] then decodeFinal w x y else none
    else do
      let p ← decodeSextet w
      let q ← decodeSextet x
      let r ← decodeSextet y
      let s ← decodeSextet z
      let bytes ← decode rest
      return UInt8.ofNat (p * 4 + q / 16) :: UInt8.ofNat (q % 16 * 16 + r / 4) ::
        UInt8.ofNat (r % 4 * 64 + s) :: bytes
  | _ => none

theorem decodeSextet_encodeSextet {n : Nat} (h : n < 64) : decodeSextet (encodeSextet n) = some n := by
  interval_cases n <;> rfl

theorem encodeSextet_ne_pad {n : Nat} (h : n < 64) : encodeSextet n ≠ pad := by
  interval_cases n <;> decide

/-- A code unit of the padded alphabet: printable ASCII other than the quote and the backslash. -/
def IsTextUnit (u : UInt16) : Prop :=
  43 ≤ u.toNat ∧ u.toNat ≤ 122 ∧ u.toNat ≠ 92

theorem isTextUnit_encodeSextet {n : Nat} (h : n < 64) : IsTextUnit (encodeSextet n) := by
  unfold IsTextUnit
  interval_cases n <;> decide

theorem isTextUnit_pad : IsTextUnit pad := by
  unfold IsTextUnit
  decide

theorem byte_eq_ofNat {a : UInt8} {n : Nat} (h : n = a.toNat) : UInt8.ofNat n = a := by
  subst h
  exact UInt8.ofNat_toNat

/-- Decoding an encoded byte sequence gives it back. -/
theorem decode_encode (bytes : List UInt8) : decode (encode bytes) = some bytes := by
  induction bytes using encode.induct with
  | case1 => rfl
  | case2 a =>
    have ha := a.toNat_lt
    have hlast : UInt8.ofNat (a.toNat / 4 * 4 + a.toNat % 4 * 16 / 16) = a := byte_eq_ofNat (by omega)
    simp only [encode, decode, if_true, decodeFinal,
      decodeSextet_encodeSextet (show a.toNat / 4 < 64 by omega),
      decodeSextet_encodeSextet (show a.toNat % 4 * 16 < 64 by omega), Option.pure_def,
      Option.bind_eq_bind, Option.bind_some, hlast]
  | case3 a b =>
    have ha := a.toNat_lt
    have hb := b.toNat_lt
    have hfirst : UInt8.ofNat (a.toNat / 4 * 4 + (a.toNat % 4 * 16 + b.toNat / 16) / 16) = a :=
      byte_eq_ofNat (by omega)
    have hsecond : UInt8.ofNat ((a.toNat % 4 * 16 + b.toNat / 16) % 16 * 16 + b.toNat % 16 * 4 / 4) = b :=
      byte_eq_ofNat (by omega)
    have hpad := encodeSextet_ne_pad (show b.toNat % 16 * 4 < 64 by omega)
    simp only [encode, decode, if_true, decodeFinal, if_neg hpad,
      decodeSextet_encodeSextet (show a.toNat / 4 < 64 by omega),
      decodeSextet_encodeSextet (show a.toNat % 4 * 16 + b.toNat / 16 < 64 by omega),
      decodeSextet_encodeSextet (show b.toNat % 16 * 4 < 64 by omega), Option.pure_def,
      Option.bind_eq_bind, Option.bind_some, hfirst, hsecond]
  | case4 a b c rest ih =>
    have ha := a.toNat_lt
    have hb := b.toNat_lt
    have hc := c.toNat_lt
    have hfirst : UInt8.ofNat (a.toNat / 4 * 4 + (a.toNat % 4 * 16 + b.toNat / 16) / 16) = a :=
      byte_eq_ofNat (by omega)
    have hsecond : UInt8.ofNat ((a.toNat % 4 * 16 + b.toNat / 16) % 16 * 16 +
        (b.toNat % 16 * 4 + c.toNat / 64) / 4) = b := byte_eq_ofNat (by omega)
    have hthird : UInt8.ofNat ((b.toNat % 16 * 4 + c.toNat / 64) % 4 * 64 + c.toNat % 64) = c :=
      byte_eq_ofNat (by omega)
    have hpad := encodeSextet_ne_pad (show c.toNat % 64 < 64 by omega)
    simp only [encode, decode, if_neg hpad, ih,
      decodeSextet_encodeSextet (show a.toNat / 4 < 64 by omega),
      decodeSextet_encodeSextet (show a.toNat % 4 * 16 + b.toNat / 16 < 64 by omega),
      decodeSextet_encodeSextet (show b.toNat % 16 * 4 + c.toNat / 64 < 64 by omega),
      decodeSextet_encodeSextet (show c.toNat % 64 < 64 by omega), Option.pure_def,
      Option.bind_eq_bind, Option.bind_some, hfirst, hsecond, hthird]

theorem length_encode (bytes : List UInt8) : (encode bytes).length = (bytes.length + 2) / 3 * 4 := by
  induction bytes using encode.induct with
  | case1 => rfl
  | case2 a => simp [encode]
  | case3 a b => simp [encode]
  | case4 a b c rest ih =>
    simp only [encode, List.length_cons, ih]
    omega

theorem isTextUnit_of_mem_encode (bytes : List UInt8) : ∀ u ∈ encode bytes, IsTextUnit u := by
  induction bytes using encode.induct with
  | case1 => simp [encode]
  | case2 a =>
    have ha := a.toNat_lt
    simp only [encode, List.mem_cons, List.not_mem_nil, or_false]
    rintro u (rfl | rfl | rfl | rfl)
    · exact isTextUnit_encodeSextet (by omega)
    · exact isTextUnit_encodeSextet (by omega)
    · exact isTextUnit_pad
    · exact isTextUnit_pad
  | case3 a b =>
    have ha := a.toNat_lt
    have hb := b.toNat_lt
    simp only [encode, List.mem_cons, List.not_mem_nil, or_false]
    rintro u (rfl | rfl | rfl | rfl)
    · exact isTextUnit_encodeSextet (by omega)
    · exact isTextUnit_encodeSextet (by omega)
    · exact isTextUnit_encodeSextet (by omega)
    · exact isTextUnit_pad
  | case4 a b c rest ih =>
    have ha := a.toNat_lt
    have hb := b.toNat_lt
    have hc := c.toNat_lt
    simp only [encode, List.mem_cons]
    rintro u (rfl | rfl | rfl | rfl | hu)
    · exact isTextUnit_encodeSextet (by omega)
    · exact isTextUnit_encodeSextet (by omega)
    · exact isTextUnit_encodeSextet (by omega)
    · exact isTextUnit_encodeSextet (by omega)
    · exact ih u hu

end base64
