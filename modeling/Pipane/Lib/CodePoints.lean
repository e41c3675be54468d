import Mathlib.Data.List.TakeWhile
import Pipane.Lib.JsString

namespace javascript

/-- `Array.from(text)`: the code points of a text, a surrogate without its partner for itself. -/
def codePoints : JsString → List JsString
  | [] => []
  | [u] => [[u]]
  | u :: v :: rest =>
    if isHighSurrogate u && isLowSurrogate v then [u, v] :: codePoints rest else [u] :: codePoints (v :: rest)

/-- Drops code points from the end until what is left has at most `maxBytes` bytes. -/
def truncateCharacters (maxBytes : Nat) (characters : List JsString) : List JsString :=
  if 0 < characters.length ∧ maxBytes < (textEncode characters.flatten).length then
    truncateCharacters maxBytes characters.dropLast
  else characters
termination_by characters.length
decreasing_by
  simp only [List.length_dropLast]
  omega

def truncateUtf8 (value : JsString) (maxBytes : Nat) : JsString :=
  (truncateCharacters maxBytes (codePoints value)).flatten

@[simp] theorem flatten_codePoints (text : JsString) : (codePoints text).flatten = text := by
  fun_induction codePoints text with
  | case1 => rfl
  | case2 u => rfl
  | case3 u v rest hpair ih => simp [ih]
  | case4 u v rest hpair ih => simp [ih]

theorem toScalars_cons {u : UInt16} {rest : JsString}
    (h : ∀ v, rest.head? = some v → (isHighSurrogate u && isLowSurrogate v) = false) :
    toScalars (u :: rest) = unitScalar u :: toScalars rest := by
  cases rest with
  | nil => rfl
  | cons v rest =>
    rw [toScalars, if_neg]
    rw [h v rfl]
    exact Bool.false_ne_true

theorem toScalars_append (first : JsString) {second : JsString}
    (h : ∀ v, second.head? = some v → isLowSurrogate v = false) :
    toScalars (first ++ second) = toScalars first ++ toScalars second := by
  fun_induction toScalars first with
  | case1 => rfl
  | case2 u =>
    rw [List.singleton_append, toScalars_cons]
    · rfl
    · intro v hv
      rw [h v hv, Bool.and_false]
  | case3 u v rest hpair ih =>
    rw [List.cons_append, List.cons_append, toScalars, if_pos hpair, ih]
    rfl
  | case4 u v rest hpair ih =>
    rw [List.cons_append, List.cons_append, toScalars, if_neg hpair, ← List.cons_append, ih]
    rfl

theorem textEncode_append {first second : JsString} (h : ∀ v, second.head? = some v → isLowSurrogate v = false) :
    textEncode (first ++ second) = textEncode first ++ textEncode second := by
  rw [textEncode, toScalars_append first h, List.flatMap_append]
  rfl

theorem codePoints_append_cons (front : JsString) {u : UInt16} (back : JsString) (hhigh : isHighSurrogate u = false)
    (hlow : isLowSurrogate u = false) : codePoints (front ++ u :: back) = codePoints front ++ [u] :: codePoints back := by
  have hcons : codePoints (u :: back) = [u] :: codePoints back := by
    cases back with
    | nil => rfl
    | cons v back =>
      rw [codePoints, if_neg]
      rw [hhigh]
      exact Bool.false_ne_true
  fun_induction codePoints front with
  | case1 => exact hcons
  | case2 v =>
    rw [List.singleton_append, codePoints, if_neg, hcons]
    · rfl
    · rw [hlow, Bool.and_false]
      exact Bool.false_ne_true
  | case3 v w rest hpair ih =>
    rw [List.cons_append, List.cons_append, codePoints, if_pos hpair, ih]
    rfl
  | case4 v w rest hpair ih =>
    rw [List.cons_append, List.cons_append, codePoints, if_neg hpair, ← List.cons_append, ih]
    rfl

theorem head?_flatten_take (u : UInt16) (rest : JsString) (k : Nat) :
    ((codePoints (u :: rest)).take k).flatten.head? = none ∨ ((codePoints (u :: rest)).take k).flatten.head? = some u := by
  cases k with
  | zero => exact .inl rfl
  | succ k =>
    right
    cases rest with
    | nil => rfl
    | cons v rest =>
      rw [codePoints]
      split <;> rfl

theorem textEncode_take_codePoints (text : JsString) (k : Nat) :
    textEncode ((codePoints text).take k).flatten = ((codePoints text).take k).flatMap textEncode := by
  fun_induction codePoints text generalizing k with
  | case1 => simp [textEncode, toScalars]
  | case2 u => cases k <;> simp [textEncode, toScalars]
  | case3 u v rest hpair ih =>
    cases k with
    | zero => rfl
    | succ k =>
      have hpairs : textEncode [u, v] = String.utf8EncodeChar (pairScalar u v) := by
        simp [textEncode, toScalars, hpair]
      rw [List.take_succ_cons, List.flatten_cons, List.flatMap_cons, ← ih k, hpairs]
      simp [textEncode, toScalars, hpair]
  | case4 u v rest hpair ih =>
    cases k with
    | zero => rfl
    | succ k =>
      have hone : textEncode [u] = String.utf8EncodeChar (unitScalar u) := by
        simp [textEncode, toScalars]
      rw [List.take_succ_cons, List.flatten_cons, List.flatMap_cons, ← ih k, hone, List.singleton_append, textEncode,
        toScalars_cons]
      · rfl
      · intro w hw
        rcases head?_flatten_take v rest k with hnone | hsome
        · rw [hnone] at hw
          cases hw
        · rw [hsome, Option.some.injEq] at hw
          rw [← hw]
          exact Bool.eq_false_iff.mpr hpair

theorem length_textEncode_le_of_mem_codePoints {text point : JsString} (h : point ∈ codePoints text) :
    (textEncode point).length ≤ 4 := by
  have hchar (c : Char) : (String.utf8EncodeChar c).length ≤ 4 := by
    rw [String.length_utf8EncodeChar]
    exact Char.utf8Size_le_four c
  fun_induction codePoints text with
  | case1 => cases h
  | case2 u =>
    rw [List.mem_singleton.mp h]
    simpa [textEncode, toScalars] using hchar (unitScalar u)
  | case3 u v rest hpair ih =>
    rcases List.mem_cons.mp h with rfl | h
    · simpa [textEncode, toScalars, hpair] using hchar (pairScalar u v)
    · exact ih h
  | case4 u v rest hpair ih =>
    rcases List.mem_cons.mp h with rfl | h
    · simpa [textEncode, toScalars] using hchar (unitScalar u)
    · exact ih h

/-- The number of bytes of the first `k` code points. -/
def bytesOfTake (text : JsString) (k : Nat) : Nat :=
  (textEncode ((codePoints text).take k).flatten).length

theorem bytesOfTake_mono (text : JsString) {i k : Nat} (h : i ≤ k) : bytesOfTake text i ≤ bytesOfTake text k := by
  obtain ⟨d, rfl⟩ := Nat.exists_eq_add_of_le h
  rw [bytesOfTake, bytesOfTake, textEncode_take_codePoints, textEncode_take_codePoints, List.take_add,
    List.flatMap_append, List.length_append]
  exact Nat.le_add_right _ _

theorem bytesOfTake_succ_le (text : JsString) (k : Nat) : bytesOfTake text (k + 1) ≤ bytesOfTake text k + 4 := by
  rw [bytesOfTake, bytesOfTake, textEncode_take_codePoints, textEncode_take_codePoints]
  by_cases hk : k < (codePoints text).length
  · rw [List.take_succ_eq_append_getElem hk, List.flatMap_append, List.length_append, List.flatMap_singleton]
    exact Nat.add_le_add_left (length_textEncode_le_of_mem_codePoints (List.getElem_mem hk)) _
  · rw [List.take_of_length_le (by omega), List.take_of_length_le (by omega)]
    omega

/-- Truncation keeps the first code points, as many as fit. -/
theorem truncateCharacters_eq (text : JsString) (maxBytes : Nat) :
    ∃ k ≤ (codePoints text).length, truncateUtf8 text maxBytes = ((codePoints text).take k).flatten ∧
      bytesOfTake text k ≤ maxBytes ∧ (k < (codePoints text).length → maxBytes < bytesOfTake text (k + 1)) := by
  have hstep : ∀ n ≤ (codePoints text).length,
      (n < (codePoints text).length → maxBytes < bytesOfTake text (n + 1)) →
      ∃ k ≤ (codePoints text).length, truncateCharacters maxBytes ((codePoints text).take n) = (codePoints text).take k ∧
        bytesOfTake text k ≤ maxBytes ∧ (k < (codePoints text).length → maxBytes < bytesOfTake text (k + 1)) := by
    intro n
    induction n with
    | zero =>
      intro hn hnext
      refine ⟨0, hn, ?_, Nat.zero_le _, hnext⟩
      rw [List.take_zero, truncateCharacters]
      rfl
    | succ n ih =>
      intro hn hnext
      have hlength : ((codePoints text).take (n + 1)).length = n + 1 := by
        rw [List.length_take]
        omega
      rw [truncateCharacters, hlength]
      by_cases hlong : maxBytes < (textEncode ((codePoints text).take (n + 1)).flatten).length
      · have hdrop : ((codePoints text).take (n + 1)).dropLast = (codePoints text).take n := by
          rw [List.dropLast_eq_take, hlength, List.take_take]
          congr 1
          omega
        rw [if_pos ⟨Nat.succ_pos n, hlong⟩, hdrop]
        exact ih (by omega) fun _ => hlong
      · rw [if_neg fun h => hlong h.2]
        exact ⟨n + 1, hn, rfl, Nat.le_of_not_lt hlong, hnext⟩
  obtain ⟨k, hk, heq, hbytes, hnext⟩ := hstep _ le_rfl fun h => absurd h (Nat.lt_irrefl _)
  rw [List.take_length] at heq
  exact ⟨k, hk, by rw [truncateUtf8, heq], hbytes, hnext⟩

theorem length_truncateUtf8_le (text : JsString) (maxBytes : Nat) :
    (textEncode (truncateUtf8 text maxBytes)).length ≤ maxBytes := by
  obtain ⟨k, -, heq, hbytes, -⟩ := truncateCharacters_eq text maxBytes
  rw [heq]
  exact hbytes

theorem prefix_truncateUtf8 (text : JsString) (maxBytes : Nat) : truncateUtf8 text maxBytes <+: text := by
  obtain ⟨k, -, heq, -, -⟩ := truncateCharacters_eq text maxBytes
  refine ⟨((codePoints text).drop k).flatten, ?_⟩
  rw [heq, ← List.flatten_append, List.take_append_drop, flatten_codePoints]

theorem truncateUtf8_eq_self {text : JsString} {maxBytes : Nat}
    (h : (textEncode (truncateUtf8 text maxBytes)).length + 4 ≤ maxBytes) : truncateUtf8 text maxBytes = text := by
  obtain ⟨k, hk, heq, -, hnext⟩ := truncateCharacters_eq text maxBytes
  rcases Nat.lt_or_eq_of_le hk with hlt | rfl
  · have hbytes := hnext hlt
    have hsucc := bytesOfTake_succ_le text k
    rw [heq] at h
    change bytesOfTake text k + 4 ≤ maxBytes at h
    omega
  · rw [heq, List.take_length, flatten_codePoints]

theorem truncateUtf8_of_fits {text : JsString} {maxBytes : Nat} (h : (textEncode text).length ≤ maxBytes) :
    truncateUtf8 text maxBytes = text := by
  obtain ⟨k, hk, heq, -, hnext⟩ := truncateCharacters_eq text maxBytes
  rcases Nat.lt_or_eq_of_le hk with hlt | rfl
  · have hover := hnext hlt
    have hmono : bytesOfTake text (k + 1) ≤ bytesOfTake text (codePoints text).length :=
      bytesOfTake_mono text (by omega)
    have hall : bytesOfTake text (codePoints text).length = (textEncode text).length := by
      rw [bytesOfTake, List.take_length, flatten_codePoints]
    omega
  · rw [heq, List.take_length, flatten_codePoints]

theorem truncateUtf8_ne_nil {text : JsString} {maxBytes : Nat} (hne : text ≠ []) (h : 4 ≤ maxBytes) :
    truncateUtf8 text maxBytes ≠ [] := by
  intro hnil
  refine hne ?_
  rw [← hnil]
  refine (truncateUtf8_eq_self ?_).symm
  rw [hnil]
  simpa [textEncode, toScalars] using h

/-- A unit that is no surrogate is kept where it fits together with all that stands before it. -/
theorem mem_truncateUtf8_iff {text : JsString} {maxBytes : Nat} {u : UInt16} (hhigh : isHighSurrogate u = false)
    (hlow : isLowSurrogate u = false) : u ∈ truncateUtf8 text maxBytes ↔
      ∃ front back, text = front ++ u :: back ∧ (textEncode (front ++ [u])).length ≤ maxBytes := by
  obtain ⟨k, hk, heq, hbytes, hnext⟩ := truncateCharacters_eq text maxBytes
  have hupto (front back : JsString) (htext : text = front ++ u :: back) :
      ((codePoints text).take ((codePoints front).length + 1)).flatten = front ++ [u] := by
    rw [htext, codePoints_append_cons front back hhigh hlow, List.take_append, List.take_of_length_le (Nat.le_succ _)]
    simp
  rw [heq]
  constructor
  · intro hu
    obtain ⟨front, back, hsplit⟩ := List.append_of_mem hu
    have htext : text = front ++ u :: (back ++ ((codePoints text).drop k).flatten) := by
      conv_lhs => rw [← flatten_codePoints text, ← List.take_append_drop k (codePoints text), List.flatten_append, hsplit]
      simp
    refine ⟨front, _, htext, ?_⟩
    rw [← hupto front _ htext]
    have hle : (codePoints front).length + 1 ≤ k := by
      by_contra hgt
      have hshort : ((codePoints text).take k).flatten.length ≤ front.length := by
        have hpre : (codePoints text).take k <+: (codePoints text).take (codePoints front).length :=
          List.take_prefix_take_left (by omega)
        have hfront : ((codePoints text).take (codePoints front).length).flatten = front := by
          rw [htext, codePoints_append_cons front _ hhigh hlow, List.take_left, flatten_codePoints]
        obtain ⟨rest, hrest⟩ := hpre
        have hlen := congrArg (fun points => points.flatten.length) hrest
        simp only [List.flatten_append, List.length_append, hfront] at hlen
        omega
      rw [hsplit, List.length_append, List.length_cons] at hshort
      omega
    exact (bytesOfTake_mono text hle).trans hbytes
  · rintro ⟨front, back, htext, hfits⟩
    rw [← hupto front back htext] at hfits
    have hle : (codePoints front).length + 1 ≤ k := by
      by_contra hgt
      have hlength : (codePoints text).length = (codePoints front).length + 1 + (codePoints back).length := by
        rw [htext, codePoints_append_cons front back hhigh hlow, List.length_append, List.length_cons]
        omega
      have hover := hnext (by omega)
      have hmono : bytesOfTake text (k + 1) ≤ bytesOfTake text ((codePoints front).length + 1) :=
        bytesOfTake_mono text (by omega)
      change bytesOfTake text ((codePoints front).length + 1) ≤ maxBytes at hfits
      omega
    have hmem : u ∈ ((codePoints text).take ((codePoints front).length + 1)).flatten := by
      rw [hupto front back htext]
      simp
    obtain ⟨rest, hrest⟩ := List.take_prefix_take_left (l := codePoints text) hle
    rw [← hrest, List.flatten_append]
    exact List.mem_append_left _ hmem

end javascript
