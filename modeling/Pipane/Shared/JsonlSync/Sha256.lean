import Pipane.Lib.JsString
import Pipane.Lib.Sha256
import Mathlib.Data.List.GetD

open javascript

namespace pipane.jsonl_sync

/-! The pure JavaScript SHA-256. Its numbers are integers, exact up to `2 ^ 53`, and its bit operators work on their
residues modulo `2 ^ 32`. -/

def bits (v : Int) : BitVec 32 := BitVec.ofInt 32 v

/-- `v >>> n`. -/
def ushr (v : Int) (n : Nat) : Int := (bits v >>> n).toNat

/-- `v << n`. -/
def shl (v : Int) (n : Nat) : Int := (bits v <<< n).toInt

/-- `v | w`. -/
def bor (v w : Int) : Int := (bits v ||| bits w).toInt

/-- `v & w`. -/
def band (v w : Int) : Int := (bits v &&& bits w).toInt

/-- `v ^ w`. -/
def bxor (v w : Int) : Int := (bits v ^^^ bits w).toInt

/-- `~v`. -/
def bnot (v : Int) : Int := (~~~bits v).toInt

def K : List Int := [
  0x428a2f98, 0x71374491, 0xb5c0fbcf, 0xe9b5dba5, 0x3956c25b, 0x59f111f1, 0x923f82a4, 0xab1c5ed5,
  0xd807aa98, 0x12835b01, 0x243185be, 0x550c7dc3, 0x72be5d74, 0x80deb1fe, 0x9bdc06a7, 0xc19bf174,
  0xe49b69c1, 0xefbe4786, 0x0fc19dc6, 0x240ca1cc, 0x2de92c6f, 0x4a7484aa, 0x5cb0a9dc, 0x76f988da,
  0x983e5152, 0xa831c66d, 0xb00327c8, 0xbf597fc7, 0xc6e00bf3, 0xd5a79147, 0x06ca6351, 0x14292967,
  0x27b70a85, 0x2e1b2138, 0x4d2c6dfc, 0x53380d13, 0x650a7354, 0x766a0abb, 0x81c2c92e, 0x92722c85,
  0xa2bfe8a1, 0xa81a664b, 0xc24b8b70, 0xc76c51a3, 0xd192e819, 0xd6990624, 0xf40e3585, 0x106aa070,
  0x19a4c116, 0x1e376c08, 0x2748774c, 0x34b0bcb5, 0x391c0cb3, 0x4ed8aa4a, 0x5b9cca4f, 0x682e6ff3,
  0x748f82ee, 0x78a5636f, 0x84c87814, 0x8cc70208, 0x90befffa, 0xa4506ceb, 0xbef9a3f7, 0xc67178f2]

def rr (v : Int) (n : Nat) : Int :=
  bor (ushr v n) (shl v (32 - n))

/-- `array.set(bytes, offset)`. -/
def setBytes (array : List UInt8) (offset : Nat) (bytes : List UInt8) : List UInt8 :=
  array.take offset ++ bytes ++ array.drop (offset + bytes.length)

/-- `dv.setUint32(offset, v, false)`, which takes `v` modulo `2 ^ 32`. -/
def setUint32 (array : List UInt8) (offset v : Nat) : List UInt8 :=
  setBytes array offset
    [UInt8.ofNat (v / 2 ^ 24), UInt8.ofNat (v / 2 ^ 16), UInt8.ofNat (v / 2 ^ 8), UInt8.ofNat v]

/-- `dv.getInt32(offset, false)`. -/
def getInt32 (array : List UInt8) (offset : Nat) : Int :=
  (BitVec.ofNat 32 ((array.getD offset 0).toNat * 2 ^ 24 + (array.getD (offset + 1) 0).toNat * 2 ^ 16 +
    (array.getD (offset + 2) 0).toNat * 2 ^ 8 + (array.getD (offset + 3) 0).toNat)).toInt

def padded (bytes : List UInt8) : List UInt8 :=
  let bitLen := bytes.length * 8
  let padded := List.replicate ((bytes.length + 9 + 63) / 64 * 64) 0
  let padded := setBytes padded 0 bytes
  let padded := setBytes padded bytes.length [0x80]
  let padded := setUint32 padded (padded.length - 4) bitLen
  if 0xffffffff < bitLen then setUint32 padded (padded.length - 8) (bitLen / 0x100000000) else padded

def scheduleWord (w : List Int) (i : Nat) : Int :=
  let s0 := bxor (bxor (rr (w.getD (i - 15) 0) 7) (rr (w.getD (i - 15) 0) 18)) (ushr (w.getD (i - 15) 0) 3)
  let s1 := bxor (bxor (rr (w.getD (i - 2) 0) 17) (rr (w.getD (i - 2) 0) 19)) (ushr (w.getD (i - 2) 0) 10)
  bor (w.getD (i - 16) 0 + s0 + w.getD (i - 7) 0 + s1) 0

/-- The array `w` of a block, which every block writes anew from the front. -/
def schedule (padded : List UInt8) (off : Nat) : List Int :=
  (List.range' 16 48).foldl (fun w i => w ++ [scheduleWord w i])
    ((List.range 16).map fun i => getInt32 padded (off + i * 4))

/-- `[a, b, c, d, e, f, g, h]` and `[h0, h1, h2, h3, h4, h5, h6, h7]`. -/
structure Variables where
  a : Int
  b : Int
  c : Int
  d : Int
  e : Int
  f : Int
  g : Int
  h : Int
deriving DecidableEq

def round (w : List Int) (v : Variables) (i : Nat) : Variables :=
  let S1 := bxor (bxor (rr v.e 6) (rr v.e 11)) (rr v.e 25)
  let ch := bxor (band v.e v.f) (band (bnot v.e) v.g)
  let t1 := bor (v.h + S1 + ch + K.getD i 0 + w.getD i 0) 0
  let S0 := bxor (bxor (rr v.a 2) (rr v.a 13)) (rr v.a 22)
  let maj := bxor (bxor (band v.a v.b) (band v.a v.c)) (band v.b v.c)
  let t2 := bor (S0 + maj) 0
  { a := bor (t1 + t2) 0, b := v.a, c := v.b, d := v.c, e := bor (v.d + t1) 0, f := v.e, g := v.f, h := v.g }

/-- The body of the loop over the blocks. -/
def hashBlock (padded : List UInt8) (h : Variables) (off : Nat) : Variables :=
  let v := (List.range 64).foldl (round (schedule padded off)) h
  { a := bor (h.a + v.a) 0, b := bor (h.b + v.b) 0, c := bor (h.c + v.c) 0, d := bor (h.d + v.d) 0
    e := bor (h.e + v.e) 0, f := bor (h.f + v.f) 0, g := bor (h.g + v.g) 0, h := bor (h.h + v.h) 0 }

def initialHash : Variables where
  a := 0x6a09e667
  b := 0xbb67ae85
  c := 0x3c6ef372
  d := 0xa54ff53a
  e := 0x510e527f
  f := 0x9b05688c
  g := 0x1f83d9ab
  h := 0x5be0cd19

def hexDigit (n : Nat) : UInt16 :=
  if n < 10 then UInt16.ofNat (48 + n) else UInt16.ofNat (87 + n)

/-- `n.toString(16)`. -/
def toString16 (n : Nat) : JsString :=
  if n < 16 then [hexDigit n] else toString16 (n / 16) ++ [hexDigit (n % 16)]
termination_by n

/-- `s.padStart(length, "0")`. -/
def padStart (s : JsString) (length : Nat) : JsString :=
  List.replicate (length - s.length) 48 ++ s

def sha256js (str : JsString) : JsString :=
  let padded := padded (textEncode str)
  let h := (List.range (padded.length / 64)).foldl (fun h i => hashBlock padded h (i * 64)) initialHash
  [h.a, h.b, h.c, h.d, h.e, h.f, h.g, h.h].flatMap fun v => padStart (toString16 (ushr v 0).toNat) 8

/-- A number in so many lowercase hexadecimal digits. -/
def lowercaseHex : Nat → Nat → JsString
  | 0, _ => []
  | width + 1, n => lowercaseHex width (n / 16) ++ [hexDigit (n % 16)]

@[simp] theorem bits_toInt (x : BitVec 32) : bits x.toInt = x :=
  BitVec.ofInt_toInt

@[simp] theorem bits_ushr (v : Int) (n : Nat) : bits (ushr v n) = bits v >>> n := by
  rw [ushr, bits, BitVec.ofInt_natCast, BitVec.ofNat_toNat, BitVec.setWidth_eq]

@[simp] theorem bits_bor (v w : Int) : bits (bor v w) = bits v ||| bits w :=
  bits_toInt _

@[simp] theorem bits_band (v w : Int) : bits (band v w) = bits v &&& bits w :=
  bits_toInt _

@[simp] theorem bits_bxor (v w : Int) : bits (bxor v w) = bits v ^^^ bits w :=
  bits_toInt _

@[simp] theorem bits_bnot (v : Int) : bits (bnot v) = ~~~bits v :=
  bits_toInt _

@[simp] theorem bits_add (v w : Int) : bits (v + w) = bits v + bits w :=
  BitVec.ofInt_add v w

@[simp] theorem bits_bor_zero (v : Int) : bits (bor v 0) = bits v := by
  rw [bits_bor]
  exact BitVec.or_zero

@[simp] theorem bits_rr (v : Int) (n : Nat) : bits (rr v n) = sha256.ROTR n (bits v) := by
  rw [rr, bits_bor, bits_ushr, shl, bits_toInt]
  rfl

@[simp] theorem bits_getInt32 (array : List UInt8) (offset : Nat) :
    bits (getInt32 array offset) = sha256.wordAt array offset :=
  bits_toInt _

theorem bits_K (t : Nat) (ht : t < 64) : bits (K.getD t 0) = sha256.K t := by
  have htable : K.map bits = sha256.primes.map (sha256.fractionalRoot 3) := by decide +kernel
  have hlength : t < K.length := ht
  have hprimes : t < sha256.primes.length := by
    rw [sha256.primes_spec.1]
    exact ht
  have hentry := congrArg (fun table => table.getD t 0) htable
  simp only [List.getD_eq_getElem?_getD, List.getElem?_map, List.getElem?_eq_getElem hlength,
    List.getElem?_eq_getElem hprimes, Option.map_some, Option.getD_some] at hentry
  rw [sha256.K, List.getD_eq_getElem _ _ hlength, List.getD_eq_getElem _ _ hprimes]
  exact hentry

/-- The residues of the variables. -/
def Variables.state (v : Variables) : sha256.State where
  a := bits v.a
  b := bits v.b
  c := bits v.c
  d := bits v.d
  e := bits v.e
  f := bits v.f
  g := bits v.g
  h := bits v.h

theorem state_initialHash : initialHash.state = sha256.initial := by
  decide +kernel

theorem bits_scheduleWord (w : List Int) (i : Nat) : bits (scheduleWord w i) =
    bits (w.getD (i - 16) 0) + sha256.smallSigma0 (bits (w.getD (i - 15) 0)) + bits (w.getD (i - 7) 0) +
      sha256.smallSigma1 (bits (w.getD (i - 2) 0)) := by
  simp only [scheduleWord, bits_bor_zero, bits_add, bits_bxor, bits_rr, bits_ushr, sha256.smallSigma0,
    sha256.smallSigma1, sha256.SHR]

/-- The loop that extends the schedule writes the words of the standard. -/
theorem bits_extended {w : List Int} {M : Nat → sha256.Word} (hlength : w.length = 16)
    (hwords : ∀ t < 16, bits (w.getD t 0) = M t) (n : Nat) :
    ((List.range' 16 n).foldl (fun w i => w ++ [scheduleWord w i]) w).length = 16 + n ∧
      ∀ t < 16 + n, bits (((List.range' 16 n).foldl (fun w i => w ++ [scheduleWord w i]) w).getD t 0) =
        sha256.W M t := by
  induction n with
  | zero =>
    refine ⟨hlength, fun t ht => ?_⟩
    rw [sha256.W_of_lt ht]
    exact hwords t ht
  | succ n ih =>
    obtain ⟨hcount, hbits⟩ := ih
    rw [List.range'_concat, List.foldl_append, Nat.one_mul]
    generalize (List.range' 16 n).foldl (fun w i => w ++ [scheduleWord w i]) w = written at hcount hbits
    change (written ++ [scheduleWord written (16 + n)]).length = _ ∧ _
    refine ⟨by rw [List.length_append, List.length_singleton, hcount, Nat.add_assoc], fun t ht => ?_⟩
    change bits ((written ++ [scheduleWord written (16 + n)]).getD t 0) = _
    by_cases hlast : t = 16 + n
    · subst hlast
      have hword : (written ++ [scheduleWord written (16 + n)]).getD (16 + n) 0 = scheduleWord written (16 + n) := by
        rw [← hcount, List.getD_eq_getElem?_getD, List.getElem?_concat_length, Option.getD_some]
      rw [hword, bits_scheduleWord, sha256.W_of_le (by omega), hbits _ (by omega), hbits _ (by omega),
        hbits _ (by omega), hbits _ (by omega)]
      ac_rfl
    · have hkept : (written ++ [scheduleWord written (16 + n)]).getD t 0 = written.getD t 0 := by
        rw [List.getD_eq_getElem?_getD, List.getElem?_append_left (by omega), List.getD_eq_getElem?_getD]
      rw [hkept]
      exact hbits t (by omega)

theorem bits_schedule (padded : List UInt8) (i t : Nat) (ht : t < 64) :
    bits ((schedule padded (i * 64)).getD t 0) = sha256.W (sha256.block padded i) t := by
  refine (bits_extended (by simp) (fun t ht => ?_) 48).2 t ht
  rw [List.getD_eq_getElem?_getD, List.getElem?_map, List.getElem?_range ht, Option.map_some, Option.getD_some,
    bits_getInt32]
  rfl

theorem state_round {w : List Int} {W : Nat → sha256.Word} {t : Nat} (ht : t < 64)
    (hw : bits (w.getD t 0) = W t) (v : Variables) : (round w v t).state = sha256.round W v.state t := by
  simp only [round, Variables.state, sha256.round, bits_bor_zero, bits_add, bits_bxor, bits_band, bits_bnot, bits_rr,
    bits_K t ht, hw, sha256.bigSigma0, sha256.bigSigma1, sha256.Ch, sha256.Maj]

theorem state_rounds {w : List Int} {W : Nat → sha256.Word} (hw : ∀ t < 64, bits (w.getD t 0) = W t) (v : Variables)
    {n : Nat} (hn : n ≤ 64) :
    ((List.range n).foldl (round w) v).state = (List.range n).foldl (sha256.round W) v.state := by
  induction n with
  | zero => rfl
  | succ n ih =>
    rw [List.range_succ, List.foldl_append, List.foldl_append, ← ih (by omega)]
    exact state_round hn (hw n hn) _

theorem state_hashBlock (padded : List UInt8) (h : Variables) (i : Nat) :
    (hashBlock padded h (i * 64)).state = sha256.compress h.state (sha256.block padded i) := by
  have hrounds := state_rounds (bits_schedule padded i) h (Nat.le_refl 64)
  rw [sha256.compress, ← hrounds]
  simp only [hashBlock, Variables.state, bits_bor_zero, bits_add, BitVec.add_comm]

theorem state_blocks (padded : List UInt8) (h : Variables) (n : Nat) :
    ((List.range n).foldl (fun h i => hashBlock padded h (i * 64)) h).state =
      (List.range n).foldl (fun H i => sha256.compress H (sha256.block padded i)) h.state := by
  induction n with
  | zero => rfl
  | succ n ih =>
    rw [List.range_succ, List.foldl_append, List.foldl_append, ← ih]
    exact state_hashBlock padded _ n

theorem setBytes_middle (front : List UInt8) {middle back bytes : List UInt8} (h : middle.length = bytes.length) :
    setBytes (front ++ middle ++ back) front.length bytes = front ++ bytes ++ back := by
  rw [setBytes, List.append_assoc front, List.take_left, ← h, ← List.length_append, ← List.append_assoc,
    List.drop_left]

theorem bigEndian_four (v : Nat) : sha256.bigEndian 4 v =
    [UInt8.ofNat (v / 2 ^ 24), UInt8.ofNat (v / 2 ^ 16), UInt8.ofNat (v / 2 ^ 8), UInt8.ofNat v] := by
  simp [sha256.bigEndian, Nat.div_div_eq_div_mul]

theorem bigEndian_eight (v : Nat) :
    sha256.bigEndian 8 v = sha256.bigEndian 4 (v / 0x100000000) ++ sha256.bigEndian 4 v := by
  simp [sha256.bigEndian, Nat.div_div_eq_div_mul]

theorem setUint32_middle (front : List UInt8) {middle back : List UInt8} (h : middle.length = 4) (v : Nat) :
    setUint32 (front ++ middle ++ back) front.length v = front ++ sha256.bigEndian 4 v ++ back := by
  rw [bigEndian_four]
  exact setBytes_middle front h

theorem length_setUint32 {array : List UInt8} {offset v : Nat} (h : offset + 4 ≤ array.length) :
    (setUint32 array offset v).length = array.length := by
  rw [setUint32, setBytes, List.length_append, List.length_append, List.length_take, List.length_drop]
  change min offset array.length + 4 + (array.length - (offset + 4)) = array.length
  omega

theorem setUint32_bitLen (front : List UInt8) (bitLen : Nat) :
    (if 0xffffffff < bitLen then
      setUint32 (setUint32 (front ++ List.replicate 8 0) (front.length + 4) bitLen) front.length (bitLen / 0x100000000)
    else setUint32 (front ++ List.replicate 8 0) (front.length + 4) bitLen) =
      front ++ sha256.bigEndian 8 bitLen := by
  have hlow : setUint32 (front ++ List.replicate 8 0) (front.length + 4) bitLen =
      front ++ List.replicate 4 0 ++ sha256.bigEndian 4 bitLen := by
    have hwrite := @setUint32_middle (front ++ List.replicate 4 0) (List.replicate 4 0) [] List.length_replicate bitLen
    rw [List.length_append, List.length_replicate, List.append_nil, List.append_nil, List.append_assoc,
      List.replicate_append_replicate] at hwrite
    exact hwrite
  rw [bigEndian_eight, hlow]
  split
  · rw [setUint32_middle front List.length_replicate, List.append_assoc]
  · rename_i hsmall
    have hzero : bitLen / 0x100000000 = 0 := by omega
    rw [hzero, List.append_assoc]
    rfl

/-- The padding of the code is the padding of the standard, at every length. -/
theorem padded_eq_pad (bytes : List UInt8) : padded bytes = sha256.pad bytes := by
  have hcount : (bytes.length + 9 + 63) / 64 * 64 = bytes.length + (1 + (sha256.zeros bytes.length + 8)) := by
    unfold sha256.zeros
    omega
  have hcopied : setBytes (List.replicate ((bytes.length + 9 + 63) / 64 * 64) 0) 0 bytes =
      bytes ++ List.replicate (1 + (sha256.zeros bytes.length + 8)) 0 := by
    rw [hcount, List.replicate_add, ← List.nil_append (List.replicate bytes.length 0)]
    exact setBytes_middle [] List.length_replicate
  have hmarked : setBytes (bytes ++ List.replicate (1 + (sha256.zeros bytes.length + 8)) 0) bytes.length [0x80] =
      bytes ++ [0x80] ++ List.replicate (sha256.zeros bytes.length) 0 ++ List.replicate 8 0 := by
    have hsame : (List.replicate 1 (0 : UInt8)).length = [(0x80 : UInt8)].length := rfl
    rw [List.replicate_add, ← List.append_assoc, setBytes_middle bytes hsame, List.replicate_add, ← List.append_assoc]
  have hlength : (bytes ++ [0x80] ++ List.replicate (sha256.zeros bytes.length) 0 ++ List.replicate 8 0 : List UInt8).length =
      (bytes ++ [0x80] ++ List.replicate (sha256.zeros bytes.length) 0 : List UInt8).length + 8 := by
    rw [List.length_append, List.length_replicate]
  have hbits := setUint32_bitLen (bytes ++ [0x80] ++ List.replicate (sha256.zeros bytes.length) 0) (bytes.length * 8)
  unfold padded sha256.pad
  rw [← hbits]
  simp only [hcopied, hmarked]
  generalize (bytes ++ [0x80] ++ List.replicate (sha256.zeros bytes.length) 0 : List UInt8) = front at hlength ⊢
  have hlow : (front ++ List.replicate 8 0).length - 4 = front.length + 4 := by omega
  have hhigh : (front ++ List.replicate 8 0).length - 8 = front.length := by omega
  rw [hlow, length_setUint32 (by omega), hhigh]

theorem padStart_concat (s : JsString) (u : UInt16) (length : Nat) :
    padStart (s ++ [u]) (length + 1) = padStart s length ++ [u] := by
  rw [padStart, padStart, List.length_append, List.length_singleton, Nat.add_sub_add_right, List.append_assoc]

theorem lowercaseHex_zero (width : Nat) : lowercaseHex width 0 = List.replicate width 48 := by
  induction width with
  | zero => rfl
  | succ width ih =>
    rw [lowercaseHex, ih, List.replicate_succ']
    rfl

theorem padStart_toString16 {width n : Nat} (hwidth : 0 < width) (hn : n < 16 ^ width) :
    padStart (toString16 n) width = lowercaseHex width n := by
  induction width generalizing n with
  | zero => cases hwidth
  | succ width ih =>
    rw [toString16, lowercaseHex]
    split
    · rename_i hsmall
      rw [Nat.div_eq_of_lt hsmall, Nat.mod_eq_of_lt hsmall, lowercaseHex_zero]
      rfl
    · rename_i hlarge
      have hdigits : n / 16 < 16 ^ width := by
        rw [Nat.div_lt_iff_lt_mul (by decide), ← Nat.pow_succ]
        exact hn
      have hrest : 0 < width := by
        refine Nat.pos_of_ne_zero fun hzero => hlarge ?_
        subst hzero
        exact hn
      rw [padStart_concat, ih hrest hdigits]

theorem ushr_zero (v : Int) : (ushr v 0).toNat = (bits v).toNat := by
  rw [ushr, BitVec.ushiftRight_zero]
  rfl

theorem padStart_word (v : Int) : padStart (toString16 (ushr v 0).toNat) 8 = lowercaseHex 8 (bits v).toNat := by
  rw [ushr_zero, padStart_toString16 (by decide) (bits v).isLt]

theorem length_lowercaseHex (width n : Nat) : (lowercaseHex width n).length = width := by
  induction width generalizing n with
  | zero => rfl
  | succ width ih => rw [lowercaseHex, List.length_append, ih, List.length_singleton]

theorem mem_lowercaseHex {width n : Nat} {u : UInt16} (h : u ∈ lowercaseHex width n) : ∃ d < 16, u = hexDigit d := by
  induction width generalizing n with
  | zero => cases h
  | succ width ih =>
    rw [lowercaseHex] at h
    obtain hrest | hlast := List.mem_append.mp h
    · exact ih hrest
    · exact ⟨n % 16, Nat.mod_lt _ (by decide), List.mem_singleton.mp hlast⟩

theorem length_sha256js (str : JsString) : (sha256js str).length = 64 := by
  simp only [sha256js, padStart_word, List.flatMap_cons, List.flatMap_nil, List.length_append, length_lowercaseHex,
    List.length_nil]

theorem mem_sha256js {str : JsString} {u : UInt16} (h : u ∈ sha256js str) : ∃ d < 16, u = hexDigit d := by
  simp only [sha256js, padStart_word] at h
  obtain ⟨v, -, hv⟩ := List.mem_flatMap.mp h
  exact mem_lowercaseHex hv

/-- The pure JavaScript hash is SHA-256 of the UTF-8 encoding in lowercase hexadecimal. -/
theorem sha256js_eq (str : JsString) :
    sha256js str = (sha256.digest (textEncode str)).words.flatMap fun x => lowercaseHex 8 x.toNat := by
  have hblocks := state_blocks (padded (textEncode str)) initialHash ((padded (textEncode str)).length / 64)
  rw [state_initialHash, padded_eq_pad] at hblocks
  rw [sha256.digest, ← hblocks, sha256js, padded_eq_pad]
  simp only [padStart_word]
  rfl

example : sha256js (js "abc") = js "ba7816bf8f01cfea414140de5dae2223b00361a396177a9cb410ff61f20015ad" := by
  decide +kernel

end pipane.jsonl_sync
