import Mathlib.Data.List.Basic
import Mathlib.Data.UInt
import Mathlib.Tactic.IntervalCases

/-- A JavaScript string: its sequence of UTF-16 code units. -/
abbrev JsString := List UInt16

instance : LawfulBEq JsString := inferInstance

namespace javascript

/-- The UTF-16 encoding of one Unicode scalar value. -/
def encodeScalar (c : Char) : JsString :=
  if c.toNat < 0x10000 then
    [UInt16.ofNat c.toNat]
  else
    [UInt16.ofNat (0xD800 + (c.toNat - 0x10000) / 0x400),
      UInt16.ofNat (0xDC00 + (c.toNat - 0x10000) % 0x400)]

/-- The string that holds exactly the given scalar values. -/
def ofScalars (cs : List Char) : JsString :=
  cs.flatMap encodeScalar

/-- A string literal. -/
def js (s : String) : JsString :=
  ofScalars s.toList

def isHighSurrogate (u : UInt16) : Bool :=
  0xD800 ≤ u.toNat && u.toNat ≤ 0xDBFF

def isLowSurrogate (u : UInt16) : Bool :=
  0xDC00 ≤ u.toNat && u.toNat ≤ 0xDFFF

/-- The scalar value that a surrogate pair encodes. -/
def pairScalar (high low : UInt16) : Char :=
  Char.ofNat (0x10000 + (high.toNat - 0xD800) * 0x400 + (low.toNat - 0xDC00))

/-- A code unit outside a pair; a lone surrogate becomes U+FFFD. -/
def unitScalar (u : UInt16) : Char :=
  if isHighSurrogate u || isLowSurrogate u then Char.ofNat 0xFFFD else Char.ofNat u.toNat

/-- The conversion to scalar values that `TextEncoder` performs first. -/
def toScalars : JsString → List Char
  | [] => []
  | [u] => [unitScalar u]
  | u :: v :: rest =>
    if isHighSurrogate u && isLowSurrogate v then
      pairScalar u v :: toScalars rest
    else
      unitScalar u :: toScalars (v :: rest)

/-- `new TextEncoder().encode(s)`. -/
def textEncode (s : JsString) : List UInt8 :=
  (toScalars s).flatMap String.utf8EncodeChar

/-- The byte order mark that a `TextDecoder` without `ignoreBOM` drops. -/
def stripBom : List Char → List Char
  | [] => []
  | c :: cs => if c = Char.ofNat 0xFEFF then cs else c :: cs

/-- `new TextDecoder("utf-8", { fatal: true }).decode(bytes)`; `none` is the thrown `TypeError`. -/
def textDecodeFatal (bytes : List UInt8) : Option JsString :=
  bytes.toByteArray.utf8Decode?.map fun cs => ofScalars (stripBom cs.toList)

/-- A string without lone surrogates. -/
def WellFormed (s : JsString) : Prop :=
  ∃ cs, s = ofScalars cs

/-- The white space and line terminators that `trim` removes. -/
def isWhitespace (u : UInt16) : Bool :=
  u.toNat ∈ [0x09, 0x0A, 0x0B, 0x0C, 0x0D, 0x20, 0xA0, 0x1680, 0x2028, 0x2029, 0x202F, 0x205F, 0x3000, 0xFEFF] ||
    (0x2000 ≤ u.toNat && u.toNat ≤ 0x200A)

/-- `s.trim()`. -/
def trim (s : JsString) : JsString :=
  ((s.dropWhile isWhitespace).reverse.dropWhile isWhitespace).reverse

def base36Digit (n : Nat) : UInt16 :=
  if n < 10 then UInt16.ofNat (48 + n) else UInt16.ofNat (87 + n)

/-- `n.toString(36)`. -/
def base36 (n : Nat) : JsString :=
  if n < 36 then [base36Digit n] else base36 (n / 36) ++ [base36Digit (n % 36)]
termination_by n

@[simp] theorem ofScalars_nil : ofScalars [] = [] := rfl

@[simp] theorem ofScalars_cons (c : Char) (cs : List Char) :
    ofScalars (c :: cs) = encodeScalar c ++ ofScalars cs := by
  simp [ofScalars]

theorem ofScalars_append (cs ds : List Char) : ofScalars (cs ++ ds) = ofScalars cs ++ ofScalars ds := by
  simp [ofScalars]

theorem WellFormed.append {s t : JsString} (hs : WellFormed s) (ht : WellFormed t) : WellFormed (s ++ t) := by
  obtain ⟨cs, rfl⟩ := hs
  obtain ⟨ds, rfl⟩ := ht
  exact ⟨cs ++ ds, (ofScalars_append cs ds).symm⟩

theorem toNat_ofNat_unit {n : Nat} (h : n < 65536) : (UInt16.ofNat n).toNat = n := by
  simp only [UInt16.toNat_ofNat']
  omega

theorem char_toNat_valid (c : Char) :
    c.toNat < 0xD800 ∨ (0xDFFF < c.toNat ∧ c.toNat < 0x110000) := by
  exact c.valid

theorem unitScalar_ofNat {c : Char} (h : c.toNat < 0x10000) :
    unitScalar (UInt16.ofNat c.toNat) = c := by
  have hvalid := char_toNat_valid c
  have hunit := toNat_ofNat_unit h
  have hlone : (isHighSurrogate (UInt16.ofNat c.toNat) || isLowSurrogate (UInt16.ofNat c.toNat)) = false := by
    simp only [isHighSurrogate, isLowSurrogate, hunit, Bool.or_eq_false_iff, Bool.and_eq_false_iff,
      decide_eq_false_iff_not]
    omega
  simp only [unitScalar, hlone, Bool.false_eq_true, if_false, hunit, Char.ofNat_toNat]

theorem isHighSurrogate_bmp {c : Char} (h : c.toNat < 0x10000) :
    isHighSurrogate (UInt16.ofNat c.toNat) = false := by
  have hvalid := char_toNat_valid c
  simp only [isHighSurrogate, toNat_ofNat_unit h, Bool.and_eq_false_iff, decide_eq_false_iff_not]
  omega

/-- A scalar value at the front of a string is read back before the rest. -/
theorem toScalars_encodeScalar_append (c : Char) (rest : JsString) :
    toScalars (encodeScalar c ++ rest) = c :: toScalars rest := by
  by_cases hsmall : c.toNat < 0x10000
  · simp only [encodeScalar, if_pos hsmall, List.cons_append, List.nil_append]
    cases rest with
    | nil => simp [toScalars, unitScalar_ofNat hsmall]
    | cons v rest =>
      simp [toScalars, isHighSurrogate_bmp hsmall, unitScalar_ofNat hsmall]
  · have hvalid := char_toNat_valid c
    have hhigh : (UInt16.ofNat (0xD800 + (c.toNat - 0x10000) / 0x400)).toNat =
        0xD800 + (c.toNat - 0x10000) / 0x400 := toNat_ofNat_unit (by omega)
    have hlow : (UInt16.ofNat (0xDC00 + (c.toNat - 0x10000) % 0x400)).toNat =
        0xDC00 + (c.toNat - 0x10000) % 0x400 := toNat_ofNat_unit (by omega)
    have hpair : (isHighSurrogate (UInt16.ofNat (0xD800 + (c.toNat - 0x10000) / 0x400)) &&
        isLowSurrogate (UInt16.ofNat (0xDC00 + (c.toNat - 0x10000) % 0x400))) = true := by
      simp only [isHighSurrogate, isLowSurrogate, hhigh, hlow, Bool.and_eq_true, decide_eq_true_eq]
      omega
    have hscalar : pairScalar (UInt16.ofNat (0xD800 + (c.toNat - 0x10000) / 0x400))
        (UInt16.ofNat (0xDC00 + (c.toNat - 0x10000) % 0x400)) = c := by
      have hsum : 0x10000 + (0xD800 + (c.toNat - 0x10000) / 0x400 - 0xD800) * 0x400 +
          (0xDC00 + (c.toNat - 0x10000) % 0x400 - 0xDC00) = c.toNat := by omega
      simp only [pairScalar, hhigh, hlow, hsum, Char.ofNat_toNat]
    simp only [encodeScalar, if_neg hsmall, List.cons_append, List.nil_append, toScalars, hpair,
      if_true, hscalar]

@[simp] theorem toScalars_ofScalars (cs : List Char) : toScalars (ofScalars cs) = cs := by
  induction cs with
  | nil => rfl
  | cons c cs ih => rw [ofScalars_cons, toScalars_encodeScalar_append, ih]

theorem textEncode_append_of_wellFormed {s : JsString} (hs : WellFormed s) (t : JsString) :
    textEncode (s ++ t) = textEncode s ++ textEncode t := by
  obtain ⟨cs, rfl⟩ := hs
  have hscalars : toScalars (ofScalars cs ++ t) = cs ++ toScalars t := by
    induction cs with
    | nil => rfl
    | cons c cs ih => rw [ofScalars_cons, List.append_assoc, toScalars_encodeScalar_append, ih]; rfl
  simp [textEncode, hscalars]

theorem toNat_ofNat_ascii {u : UInt16} (h : u.toNat < 128) :
    (Char.ofNat u.toNat).toNat = u.toNat := by
  have hvalid : u.toNat.isValidChar := .inl (by omega)
  rw [Char.ofNat, dif_pos hvalid]
  rfl

theorem ofScalars_ascii {s : JsString} (h : ∀ u ∈ s, u.toNat < 128) :
    ofScalars (s.map fun u => Char.ofNat u.toNat) = s := by
  induction s with
  | nil => rfl
  | cons u s ih =>
    have hchar := toNat_ofNat_ascii (h u List.mem_cons_self)
    have hu := h u List.mem_cons_self
    rw [List.map_cons, ofScalars_cons, ih fun v hv => h v (List.mem_cons_of_mem _ hv), encodeScalar, hchar,
      if_pos (by omega), UInt16.ofNat_toNat]
    rfl

theorem ascii_of_all {s : JsString} (h : s.all (fun u => decide (u.toNat < 128)) = true) :
    ∀ u ∈ s, u.toNat < 128 := by
  simpa using h

theorem wellFormed_ascii {s : JsString} (h : ∀ u ∈ s, u.toNat < 128) : WellFormed s :=
  ⟨_, (ofScalars_ascii h).symm⟩

theorem length_textEncode_ascii {s : JsString} (h : ∀ u ∈ s, u.toNat < 128) :
    (textEncode s).length = s.length := by
  have hscalars : toScalars s = s.map fun u => Char.ofNat u.toNat := by
    rw [← toScalars_ofScalars (s.map fun u => Char.ofNat u.toNat), ofScalars_ascii h]
  rw [textEncode, hscalars]
  induction s with
  | nil => rfl
  | cons u s ih =>
    have hu := h u List.mem_cons_self
    have hchar := toNat_ofNat_ascii hu
    have hone : (Char.ofNat u.toNat).utf8Size = 1 := by
      rw [Char.utf8Size_eq_one_iff, UInt32.le_iff_toNat_le]
      change (Char.ofNat u.toNat).toNat ≤ 127
      omega
    have htail : ∀ v ∈ s, v.toNat < 128 := fun v hv => h v (List.mem_cons_of_mem _ hv)
    rw [List.map_cons, List.flatMap_cons, List.length_append, String.length_utf8EncodeChar, hone, List.length_cons,
      ih htail ?_]
    · omega
    · rw [← toScalars_ofScalars (s.map fun u => Char.ofNat u.toNat), ofScalars_ascii htail]

theorem wellFormed_nil : WellFormed [] := ⟨[], rfl⟩

theorem wellFormed_unit {u : UInt16} (h : (isHighSurrogate u || isLowSurrogate u) = false) : WellFormed [u] := by
  have hu := u.toNat_lt
  simp only [isHighSurrogate, isLowSurrogate, Bool.or_eq_false_iff, Bool.and_eq_false_iff,
    decide_eq_false_iff_not] at h
  have hvalid : u.toNat.isValidChar := by
    rcases Nat.lt_or_ge u.toNat 0xD800 with hlow | hhigh
    · exact .inl hlow
    · exact .inr ⟨by omega, by omega⟩
  have hchar : (Char.ofNat u.toNat).toNat = u.toNat := by
    rw [Char.ofNat, dif_pos hvalid]
    rfl
  refine ⟨[Char.ofNat u.toNat], ?_⟩
  rw [ofScalars_cons, encodeScalar, hchar, if_pos (by omega), UInt16.ofNat_toNat]
  rfl

theorem wellFormed_pair {u v : UInt16} (hu : isHighSurrogate u = true) (hv : isLowSurrogate v = true) :
    WellFormed [u, v] := by
  simp only [isHighSurrogate, Bool.and_eq_true, decide_eq_true_eq] at hu
  simp only [isLowSurrogate, Bool.and_eq_true, decide_eq_true_eq] at hv
  have hvalid : (0x10000 + (u.toNat - 0xD800) * 0x400 + (v.toNat - 0xDC00)).isValidChar :=
    .inr ⟨by omega, by omega⟩
  have hchar : (pairScalar u v).toNat = 0x10000 + (u.toNat - 0xD800) * 0x400 + (v.toNat - 0xDC00) := by
    rw [pairScalar, Char.ofNat, dif_pos hvalid]
    rfl
  have hhigh : 0xD800 + ((pairScalar u v).toNat - 0x10000) / 0x400 = u.toNat := by omega
  have hlow : 0xDC00 + ((pairScalar u v).toNat - 0x10000) % 0x400 = v.toNat := by omega
  refine ⟨[pairScalar u v], ?_⟩
  rw [ofScalars_cons, encodeScalar, if_neg (by omega), hhigh, hlow, UInt16.ofNat_toNat, UInt16.ofNat_toNat]
  rfl

theorem textDecodeFatal_textEncode {s : JsString} (hs : WellFormed s)
    (hbom : s.head? ≠ some 0xFEFF) : textDecodeFatal (textEncode s) = some s := by
  obtain ⟨cs, rfl⟩ := hs
  have hbytes : (textEncode (ofScalars cs)).toByteArray = cs.utf8Encode := by
    simp [textEncode, List.utf8Encode]
  have hstrip : stripBom cs = cs := by
    cases cs with
    | nil => rfl
    | cons c cs =>
      by_cases hc : c = Char.ofNat 0xFEFF
      · subst hc
        exact absurd rfl hbom
      · simp only [stripBom, if_neg hc]
  simp only [textDecodeFatal, hbytes, List.utf8Decode?_utf8Encode, Option.map_some, hstrip]

theorem base36_of_lt {n : Nat} (h : n < 36) : base36 n = [base36Digit n] := by
  rw [base36, if_pos h]

theorem base36_of_le {n : Nat} (h : 36 ≤ n) : base36 n = base36 (n / 36) ++ [base36Digit (n % 36)] := by
  rw [base36, if_neg (by omega)]

theorem base36Digit_injective {m n : Nat} (hm : m < 36) (hn : n < 36)
    (h : base36Digit m = base36Digit n) : m = n := by
  have hvalue : ∀ k < 36, (base36Digit k).toNat = if k < 10 then 48 + k else 87 + k := by decide
  have heq := congrArg UInt16.toNat h
  rw [hvalue m hm, hvalue n hn] at heq
  split at heq <;> split at heq <;> omega

theorem base36_ne_nil (n : Nat) : base36 n ≠ [] := by
  by_cases hn : n < 36
  · simp [base36_of_lt hn]
  · simp [base36_of_le (show 36 ≤ n by omega)]

theorem base36_injective {m n : Nat} (h : base36 m = base36 n) : m = n := by
  induction m using Nat.strong_induction_on generalizing n with
  | _ m ih =>
    have hlength {k : Nat} (hk : 36 ≤ k) : 2 ≤ (base36 k).length := by
      have hpos := List.length_pos_iff.mpr (base36_ne_nil (k / 36))
      rw [base36_of_le hk, List.length_append, List.length_singleton]
      omega
    by_cases hm : m < 36
    · by_cases hn : n < 36
      · rw [base36_of_lt hm, base36_of_lt hn, List.cons.injEq] at h
        exact base36Digit_injective hm hn h.1
      · have htwo := hlength (show 36 ≤ n by omega)
        rw [← h, base36_of_lt hm, List.length_singleton] at htwo
        omega
    · by_cases hn : n < 36
      · have htwo := hlength (show 36 ≤ m by omega)
        rw [h, base36_of_lt hn, List.length_singleton] at htwo
        omega
      · rw [base36_of_le (Nat.le_of_not_lt hm), base36_of_le (Nat.le_of_not_lt hn)] at h
        obtain ⟨hquotient, hdigit⟩ := List.append_inj' h rfl
        have hq := ih (m / 36) (by omega) hquotient
        have hr := base36Digit_injective (Nat.mod_lt m (by decide)) (Nat.mod_lt n (by decide))
          (List.cons.inj hdigit).1
        omega

end javascript
