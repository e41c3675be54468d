import Pipane.Lib.JsString

namespace javascript

/-- A character that misses continuation bytes, the next of which must lie between the two bounds. -/
structure Utf8Pending where
  missing : Nat
  codePoint : Nat
  lower : UInt8
  upper : UInt8

def replacement : Char := Char.ofNat 0xFFFD

/-- What a byte outside a sequence stands for or begins. -/
def utf8Lead (byte : UInt8) : Char ⊕ Utf8Pending :=
  let n := byte.toNat
  if n < 0x80 then .inl (Char.ofNat n)
  else if 0xC2 ≤ n ∧ n ≤ 0xDF then .inr ⟨1, n - 0xC0, 0x80, 0xBF⟩
  else if 0xE0 ≤ n ∧ n ≤ 0xEF then
    .inr ⟨2, n - 0xE0, if n = 0xE0 then 0xA0 else 0x80, if n = 0xED then 0x9F else 0xBF⟩
  else if 0xF0 ≤ n ∧ n ≤ 0xF4 then
    .inr ⟨3, n - 0xF0, if n = 0xF0 then 0x90 else 0x80, if n = 0xF4 then 0x8F else 0xBF⟩
  else .inl replacement

/-- The characters of a byte sequence, with U+FFFD for every maximal part that begins no character. -/
def utf8Lossy (pending : Option Utf8Pending) : List UInt8 → List Char
  | [] => if pending.isSome then [replacement] else []
  | byte :: rest =>
    match pending with
    | none =>
      match utf8Lead byte with
      | .inl c => c :: utf8Lossy none rest
      | .inr begun => utf8Lossy (some begun) rest
    | some p =>
      if p.lower ≤ byte ∧ byte ≤ p.upper then
        let codePoint := p.codePoint * 64 + byte.toNat % 64
        if p.missing = 1 then Char.ofNat codePoint :: utf8Lossy none rest
        else utf8Lossy (some ⟨p.missing - 1, codePoint, 0x80, 0xBF⟩) rest
      else
        match utf8Lead byte with
        | .inl c => replacement :: c :: utf8Lossy none rest
        | .inr begun => replacement :: utf8Lossy (some begun) rest

/-- `Buffer.toString("utf8")`. -/
def bufferText (bytes : List UInt8) : JsString :=
  match bytes.toByteArray.utf8Decode? with
  | some cs => ofScalars cs.toList
  | none => ofScalars (utf8Lossy none bytes)

theorem bufferText_textEncode {s : JsString} (hs : WellFormed s) : bufferText (textEncode s) = s := by
  obtain ⟨cs, rfl⟩ := hs
  have hbytes : (textEncode (ofScalars cs)).toByteArray = cs.utf8Encode := by
    simp [textEncode, List.utf8Encode]
  simp only [bufferText, hbytes, List.utf8Decode?_utf8Encode]

end javascript
