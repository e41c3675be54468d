import Mathlib.Data.Nat.NthRoot.Defs
import Mathlib.Data.Nat.Prime.Basic
import Mathlib.Data.List.Range

/-! SHA-256 as FIPS 180-4 defines it, for messages of whole bytes. -/

namespace sha256

/-- The words of the algorithm. -/
abbrev Word := BitVec 32

/-- `ROTR^n(x)`. -/
def ROTR (n : Nat) (x : Word) : Word := x >>> n ||| x <<< (32 - n)

/-- `SHR^n(x)`. -/
def SHR (n : Nat) (x : Word) : Word := x >>> n

def Ch (x y z : Word) : Word := (x &&& y) ^^^ (~~~x &&& z)

def Maj (x y z : Word) : Word := (x &&& y) ^^^ (x &&& z) ^^^ (y &&& z)

/-- `Σ₀`. -/
def bigSigma0 (x : Word) : Word := ROTR 2 x ^^^ ROTR 13 x ^^^ ROTR 22 x

/-- `Σ₁`. -/
def bigSigma1 (x : Word) : Word := ROTR 6 x ^^^ ROTR 11 x ^^^ ROTR 25 x

/-- `σ₀`. -/
def smallSigma0 (x : Word) : Word := ROTR 7 x ^^^ ROTR 18 x ^^^ SHR 3 x

/-- `σ₁`. -/
def smallSigma1 (x : Word) : Word := ROTR 17 x ^^^ ROTR 19 x ^^^ SHR 10 x

/-- The first sixty-four primes. -/
def primes : List Nat :=
  (List.range 312).filter fun n => 2 ≤ n && (List.range n).all fun d => d < 2 || n % d != 0

/-- The first thirty-two bits of the fractional part of the `k`-th root of `n`. -/
def fractionalRoot (k n : Nat) : Word :=
  BitVec.ofNat 32 (Nat.nthRoot k (n * 2 ^ (32 * k)))

/-- The constants `K₀, …, K₆₃`: cube roots of the first sixty-four primes. -/
def K (t : Nat) : Word :=
  fractionalRoot 3 (primes.getD t 0)

/-- The eight words of a hash value, and the eight working variables. -/
structure State where
  a : Word
  b : Word
  c : Word
  d : Word
  e : Word
  f : Word
  g : Word
  h : Word
deriving DecidableEq

/-- `H⁽⁰⁾`: square roots of the first eight primes. -/
def initial : State where
  a := fractionalRoot 2 2
  b := fractionalRoot 2 3
  c := fractionalRoot 2 5
  d := fractionalRoot 2 7
  e := fractionalRoot 2 11
  f := fractionalRoot 2 13
  g := fractionalRoot 2 17
  h := fractionalRoot 2 19

/-- The message schedule of a block. -/
def W (M : Nat → Word) (t : Nat) : Word :=
  if t < 16 then M t
  else smallSigma1 (W M (t - 2)) + W M (t - 7) + smallSigma0 (W M (t - 15)) + W M (t - 16)
termination_by t
decreasing_by all_goals omega

/-- One round. -/
def round (w : Nat → Word) (v : State) (t : Nat) : State :=
  let T1 := v.h + bigSigma1 v.e + Ch v.e v.f v.g + K t + w t
  let T2 := bigSigma0 v.a + Maj v.a v.b v.c
  { a := T1 + T2, b := v.a, c := v.b, d := v.c, e := v.d + T1, f := v.e, g := v.f, h := v.g }

/-- The hash value after a block. -/
def compress (H : State) (M : Nat → Word) : State :=
  let v := (List.range 64).foldl (round (W M)) H
  { a := v.a + H.a, b := v.b + H.b, c := v.c + H.c, d := v.d + H.d
    e := v.e + H.e, f := v.f + H.f, g := v.g + H.g, h := v.h + H.h }

/-- The big-endian bytes of a number, `width` of them. -/
def bigEndian : Nat → Nat → List UInt8
  | 0, _ => []
  | width + 1, n => bigEndian width (n / 256) ++ [UInt8.ofNat n]

/-- The least number of zero bytes after which eight bytes are left in the last block. -/
def zeros (length : Nat) : Nat :=
  (64 + 55 - length % 64) % 64

/-- The padded message: a one bit, zero bits, and the number of bits in 64 bits. -/
def pad (message : List UInt8) : List UInt8 :=
  message ++ [0x80] ++ List.replicate (zeros message.length) 0 ++ bigEndian 8 (message.length * 8)

/-- The big-endian word at an offset. -/
def wordAt (bytes : List UInt8) (offset : Nat) : Word :=
  BitVec.ofNat 32 ((bytes.getD offset 0).toNat * 2 ^ 24 + (bytes.getD (offset + 1) 0).toNat * 2 ^ 16 +
    (bytes.getD (offset + 2) 0).toNat * 2 ^ 8 + (bytes.getD (offset + 3) 0).toNat)

/-- The words of a block. -/
def block (padded : List UInt8) (i t : Nat) : Word :=
  wordAt padded (i * 64 + t * 4)

/-- The hash value of a message. -/
def digest (message : List UInt8) : State :=
  (List.range ((pad message).length / 64)).foldl (fun H i => compress H (block (pad message) i)) initial

/-- The words of a hash value, in order. -/
def State.words (H : State) : List Word :=
  [H.a, H.b, H.c, H.d, H.e, H.f, H.g, H.h]

theorem primes_spec : primes.length = 64 ∧ ∀ n, n ∈ primes ↔ n < 312 ∧ n.Prime := by
  refine ⟨by decide +kernel, fun n => ?_⟩
  rw [primes, List.mem_filter, List.mem_range]
  refine and_congr_right fun _ => ?_
  rw [Bool.and_eq_true, decide_eq_true_eq, List.all_eq_true, Nat.prime_def_lt]
  refine and_congr_right fun htwo => ?_
  constructor
  · intro hall d hlt hdvd
    have hcase := hall d (List.mem_range.mpr hlt)
    rw [Bool.or_eq_true, decide_eq_true_eq, bne_iff_ne] at hcase
    obtain hsmall | hrest := hcase
    · have hpos := Nat.pos_of_dvd_of_pos hdvd (by omega)
      omega
    · exact absurd (Nat.mod_eq_zero_of_dvd hdvd) hrest
  · intro hprime d hd
    rw [Bool.or_eq_true, decide_eq_true_eq, bne_iff_ne]
    by_cases hsmall : d < 2
    · exact .inl hsmall
    · refine .inr fun hzero => ?_
      have hone := hprime d (List.mem_range.mp hd) (Nat.dvd_of_mod_eq_zero hzero)
      omega

theorem W_of_lt {M : Nat → Word} {t : Nat} (h : t < 16) : W M t = M t := by
  rw [W, if_pos h]

theorem W_of_le {M : Nat → Word} {t : Nat} (h : 16 ≤ t) :
    W M t = smallSigma1 (W M (t - 2)) + W M (t - 7) + smallSigma0 (W M (t - 15)) + W M (t - 16) := by
  rw [W, if_neg (Nat.not_lt.mpr h)]

end sha256
