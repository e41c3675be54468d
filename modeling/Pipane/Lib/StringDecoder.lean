import Pipane.Lib.BufferText

namespace javascript

def LF : UInt16 := 0x0A

def CR : UInt16 := 0x0D

/-- The line feed as a byte, which no other character of UTF-8 contains. -/
def LF_BYTE : UInt8 := 0x0A

/-- What one byte completes, with the character that misses bytes after it. -/
def utf8Byte (pending : Option Utf8Pending) (byte : UInt8) : List Char × Option Utf8Pending :=
  match pending with
  | none =>
    match utf8Lead byte with
    | .inl c => ([c], none)
    | .inr begun => ([], some begun)
  | some p =>
    if p.lower ≤ byte ∧ byte ≤ p.upper then
      let codePoint := p.codePoint * 64 + byte.toNat % 64
      if p.missing = 1 then ([Char.ofNat codePoint], none)
      else ([], some ⟨p.missing - 1, codePoint, 0x80, 0xBF⟩)
    else
      match utf8Lead byte with
      | .inl c => ([replacement, c], none)
      | .inr begun => ([replacement], some begun)

/-- The state of a `StringDecoder("utf8")`: a character that misses bytes. -/
abbrev StringDecoder := Option Utf8Pending

namespace StringDecoder

def chars (self : StringDecoder) : List UInt8 → List Char × StringDecoder
  | [] => ([], self)
  | byte :: rest =>
    let (begun, self) := utf8Byte self byte
    let (more, self) := chars self rest
    (begun ++ more, self)

def write (self : StringDecoder) (chunk : List UInt8) : JsString × StringDecoder :=
  (ofScalars (self.chars chunk).1, (self.chars chunk).2)

def finish (self : StringDecoder) : JsString :=
  if self.isSome then ofScalars [replacement] else []

end StringDecoder

/-- A sequence of bytes as text, with U+FFFD for every maximal part that begins no character. -/
def utf8Text (bytes : List UInt8) : JsString :=
  ofScalars (utf8Lossy none bytes)

theorem utf8Lossy_cons (pending : Option Utf8Pending) (byte : UInt8) (rest : List UInt8) :
    utf8Lossy pending (byte :: rest) = (utf8Byte pending byte).1 ++ utf8Lossy (utf8Byte pending byte).2 rest := by
  rw [utf8Lossy.eq_def, utf8Byte.eq_def]
  cases pending with
  | none =>
    dsimp only
    cases utf8Lead byte <;> rfl
  | some p =>
    dsimp only
    split
    · split <;> rfl
    · cases utf8Lead byte <;> rfl

theorem chars_append (pending : StringDecoder) (bytes more : List UInt8) :
    pending.chars (bytes ++ more) =
      ((pending.chars bytes).1 ++ ((pending.chars bytes).2.chars more).1, ((pending.chars bytes).2.chars more).2) := by
  induction bytes generalizing pending with
  | nil => rfl
  | cons byte bytes ih =>
    rw [List.cons_append, StringDecoder.chars, StringDecoder.chars]
    dsimp only
    rw [ih, List.append_assoc]

theorem utf8Lossy_append (pending : StringDecoder) (bytes rest : List UInt8) :
    utf8Lossy pending (bytes ++ rest) = (pending.chars bytes).1 ++ utf8Lossy (pending.chars bytes).2 rest := by
  induction bytes generalizing pending with
  | nil => rfl
  | cons byte bytes ih =>
    rw [List.cons_append, utf8Lossy_cons, ih, ← List.append_assoc]
    rfl

theorem write_append_text (pending : StringDecoder) (chunk rest : List UInt8) :
    (pending.write chunk).1 ++ ofScalars (utf8Lossy (pending.write chunk).2 rest) =
      ofScalars (utf8Lossy pending (chunk ++ rest)) := by
  rw [utf8Lossy_append, ofScalars_append]
  rfl

theorem finish_eq (pending : StringDecoder) : pending.finish = ofScalars (utf8Lossy pending []) := by
  cases pending <;> rfl

/-! Line feeds. -/

/-- The bytes that a character misses keep it apart from the line feed. -/
structure Utf8Pending.Ok (pending : Utf8Pending) : Prop where
  continuing : 0x80 ≤ pending.lower.toNat ∧ pending.upper.toNat ≤ 0xBF
  last : pending.missing = 1 → 2 ≤ pending.codePoint
  more : pending.missing ≠ 1 → 2 ≤ pending.codePoint * 64 + pending.lower.toNat % 64

/-- No character is missing bytes that could hide a line feed. -/
def StringDecoder.Ok (pending : StringDecoder) : Prop :=
  ∀ p, pending = some p → p.Ok

theorem eq_of_ofNat {n : Nat} (h : Char.ofNat n = '\n') : n = 10 := by
  by_cases valid : n.isValidChar
  · rw [Char.ofNat, dif_pos valid] at h
    exact congrArg Char.toNat h
  · rw [Char.ofNat, dif_neg valid] at h
    cases congrArg Char.toNat h

theorem ok_of_utf8Lead {byte : UInt8} {begun : Utf8Pending} (h : utf8Lead byte = .inr begun) : begun.Ok := by
  rw [utf8Lead] at h
  split at h
  · cases h
  split at h
  · cases h
    refine ⟨⟨Nat.le_refl _, Nat.le_refl _⟩, fun _ => ?_, fun hne => absurd rfl hne⟩
    dsimp only
    omega
  split at h
  · cases h
    refine ⟨⟨?_, ?_⟩, fun hne => (by cases hne), fun _ => ?_⟩
    · dsimp only
      split <;> decide
    · dsimp only
      split <;> decide
    · dsimp only
      split
      · have hlower : (0xA0 : UInt8).toNat % 64 = 32 := by decide
        omega
      · omega
  split at h
  · cases h
    refine ⟨⟨?_, ?_⟩, fun hne => (by cases hne), fun _ => ?_⟩
    · dsimp only
      split <;> decide
    · dsimp only
      split <;> decide
    · dsimp only
      split
      · have hlower : (0x90 : UInt8).toNat % 64 = 16 := by decide
        omega
      · omega
  · cases h

theorem notLineFeed_of_utf8Lead {byte : UInt8} {c : Char} (hbyte : byte ≠ LF_BYTE) (h : utf8Lead byte = .inl c) :
    c ≠ '\n' := by
  rw [utf8Lead] at h
  split at h
  · rename_i hascii
    cases h
    intro hc
    apply hbyte
    exact UInt8.toNat_inj.mp (eq_of_ofNat hc)
  split at h
  · cases h
  split at h
  · cases h
  split at h
  · cases h
  · cases h
    decide

theorem ok_utf8Byte {pending : StringDecoder} (h : pending.Ok) (byte : UInt8) :
    StringDecoder.Ok (utf8Byte pending byte).2 := by
  intro q hq
  rw [utf8Byte.eq_def] at hq
  cases pending with
  | none =>
    dsimp only at hq
    split at hq
    · cases hq
    · rename_i begun hbegun
      cases hq
      exact ok_of_utf8Lead hbegun
  | some p =>
    have hp := h p rfl
    dsimp only at hq
    split at hq
    · rename_i hbounds
      split at hq
      · cases hq
      · rename_i hmissing
        cases hq
        have hmore := hp.more hmissing
        obtain ⟨hlower, hupper⟩ := hp.continuing
        have hle : p.lower.toNat ≤ byte.toNat := hbounds.1
        have hge : byte.toNat ≤ p.upper.toNat := hbounds.2
        refine ⟨⟨Nat.le_refl _, Nat.le_refl _⟩, fun _ => ?_, fun _ => ?_⟩
        · dsimp only
          omega
        · dsimp only
          omega
    · split at hq
      · cases hq
      · rename_i begun hbegun
        cases hq
        exact ok_of_utf8Lead hbegun

theorem notLineFeed_of_utf8Byte {pending : StringDecoder} (h : pending.Ok) {byte : UInt8} (hbyte : byte ≠ LF_BYTE) :
    '\n' ∉ (utf8Byte pending byte).1 := by
  have hreplacement : replacement ≠ '\n' := by decide
  intro hmem
  rw [utf8Byte.eq_def] at hmem
  cases pending with
  | none =>
    dsimp only at hmem
    split at hmem
    · rename_i c hc
      exact notLineFeed_of_utf8Lead hbyte hc (List.mem_singleton.mp hmem).symm
    · cases hmem
  | some p =>
    have hp := h p rfl
    dsimp only at hmem
    split at hmem
    · rename_i hbounds
      split at hmem
      · rename_i hmissing
        have hlast := hp.last hmissing
        have hcode := eq_of_ofNat (List.mem_singleton.mp hmem).symm
        omega
      · cases hmem
    · split at hmem
      · rename_i c hc
        rcases List.mem_pair.mp hmem with heq | heq
        · exact hreplacement heq.symm
        · exact notLineFeed_of_utf8Lead hbyte hc heq.symm
      · exact hreplacement (List.mem_singleton.mp hmem).symm

theorem utf8Byte_lineFeed {pending : StringDecoder} (h : pending.Ok) :
    utf8Byte pending LF_BYTE = (if pending.isSome then [replacement, '\n'] else ['\n'], none) := by
  have hlead : utf8Lead LF_BYTE = .inl '\n' := rfl
  rw [utf8Byte.eq_def]
  cases pending with
  | none =>
    dsimp only
    rw [hlead]
    rfl
  | some p =>
    dsimp only
    rw [if_neg, hlead]
    · rfl
    · rintro ⟨hle, -⟩
      have hlower := (h p rfl).continuing.1
      have hle' : p.lower.toNat ≤ LF_BYTE.toNat := hle
      have hlf : LF_BYTE.toNat = 10 := rfl
      omega

/-! Text between line feeds. -/

theorem notLineFeed_utf8Lossy {pending : StringDecoder} (h : pending.Ok) {bytes : List UInt8} (hbytes : LF_BYTE ∉ bytes) :
    '\n' ∉ utf8Lossy pending bytes := by
  induction bytes generalizing pending with
  | nil =>
    cases pending with
    | none => exact List.not_mem_nil
    | some p =>
      change '\n' ∉ [replacement]
      decide
  | cons byte bytes ih =>
    rw [utf8Lossy_cons, List.mem_append, not_or]
    obtain ⟨hne, hrest⟩ := not_or.mp (mt List.mem_cons.mpr hbytes)
    exact ⟨notLineFeed_of_utf8Byte h (Ne.symm hne), ih (ok_utf8Byte h byte) hrest⟩

theorem utf8Lossy_lineFeed {pending : StringDecoder} (h : pending.Ok) (bytes rest : List UInt8) :
    utf8Lossy pending (bytes ++ LF_BYTE :: rest) = utf8Lossy pending bytes ++ '\n' :: utf8Lossy none rest := by
  induction bytes generalizing pending with
  | nil =>
    rw [List.nil_append, utf8Lossy_cons, utf8Byte_lineFeed h]
    cases pending <;> rfl
  | cons byte bytes ih =>
    rw [List.cons_append, utf8Lossy_cons, utf8Lossy_cons, ih (ok_utf8Byte h byte), List.append_assoc]

theorem mem_encodeScalar_lineFeed {c : Char} : LF ∈ encodeScalar c ↔ c = '\n' := by
  constructor
  · intro h
    rw [encodeScalar] at h
    have hvalid := c.valid
    split at h
    · rename_i hsmall
      have hunit := congrArg UInt16.toNat (List.mem_singleton.mp h)
      rw [UInt16.toNat_ofNat_of_lt' (by simpa using hsmall)] at hunit
      exact Char.toNat_inj.mp hunit.symm
    · rename_i hlarge
      have hbound : c.toNat < 0x110000 := by
        rcases hvalid with hlow | ⟨-, hhigh⟩
        · exact absurd hlow (by change ¬ c.toNat < 0xD800; omega)
        · exact hhigh
      have hlf : LF.toNat = 10 := rfl
      rcases List.mem_pair.mp h with heq | heq
      · have hunit := congrArg UInt16.toNat heq
        rw [UInt16.toNat_ofNat_of_lt' (by simp only [UInt16.size]; omega)] at hunit
        omega
      · have hunit := congrArg UInt16.toNat heq
        rw [UInt16.toNat_ofNat_of_lt' (by simp only [UInt16.size]; omega)] at hunit
        omega
  · rintro rfl
    decide

theorem notLineFeed_ofScalars {cs : List Char} (h : '\n' ∉ cs) : LF ∉ ofScalars cs := by
  intro hmem
  obtain ⟨c, hc, hlf⟩ := List.mem_flatMap.mp hmem
  rw [mem_encodeScalar_lineFeed.mp hlf] at hc
  exact h hc

theorem ok_none : StringDecoder.Ok none := fun _ h => by cases h

theorem notLineFeed_utf8Text {bytes : List UInt8} (h : LF_BYTE ∉ bytes) : LF ∉ utf8Text bytes :=
  notLineFeed_ofScalars (notLineFeed_utf8Lossy ok_none h)

theorem utf8Text_lineFeed (bytes rest : List UInt8) :
    utf8Text (bytes ++ LF_BYTE :: rest) = utf8Text bytes ++ LF :: utf8Text rest := by
  rw [utf8Text, utf8Lossy_lineFeed ok_none, ofScalars_append, ofScalars_cons]
  rfl

theorem utf8Byte_ne_nil {pending : StringDecoder} (byte : UInt8) :
    (utf8Byte pending byte).1 ≠ [] ∨ (utf8Byte pending byte).2.isSome := by
  rw [utf8Byte.eq_def]
  cases pending with
  | none =>
    dsimp only
    cases utf8Lead byte with
    | inl c => exact .inl (List.cons_ne_nil _ _)
    | inr begun => exact .inr rfl
  | some p =>
    dsimp only
    split
    · split
      · exact .inl (List.cons_ne_nil _ _)
      · exact .inr rfl
    · cases utf8Lead byte <;> exact .inl (List.cons_ne_nil _ _)

theorem utf8Lossy_ne_nil {pending : StringDecoder} {bytes : List UInt8} (h : pending.isSome ∨ bytes ≠ []) :
    utf8Lossy pending bytes ≠ [] := by
  induction bytes generalizing pending with
  | nil =>
    rcases h with h | h
    · rw [utf8Lossy, if_pos h]
      exact List.cons_ne_nil _ _
    · exact absurd rfl h
  | cons byte bytes ih =>
    rw [utf8Lossy_cons]
    rcases @utf8Byte_ne_nil pending byte with hne | hsome
    · exact List.append_ne_nil_of_left_ne_nil hne _
    · exact List.append_ne_nil_of_right_ne_nil _ (ih (.inl hsome))

theorem encodeScalar_ne_nil (c : Char) : encodeScalar c ≠ [] := by
  rw [encodeScalar]
  split <;> exact List.cons_ne_nil _ _

theorem utf8Text_eq_nil_iff {bytes : List UInt8} : utf8Text bytes = [] ↔ bytes = [] := by
  constructor
  · intro h
    by_contra hne
    have hchars := @utf8Lossy_ne_nil none bytes (.inr hne)
    obtain ⟨c, cs, hcs⟩ := List.exists_cons_of_ne_nil hchars
    rw [utf8Text, hcs, ofScalars_cons] at h
    exact encodeScalar_ne_nil c (List.append_eq_nil_iff.mp h).1
  · rintro rfl
    rfl

end javascript
