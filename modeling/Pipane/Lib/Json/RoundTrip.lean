import Pipane.Lib.Json

open javascript

namespace json

/-- A number that its own text parses back to. -/
def Number.Canonical : Number → Prop
  | .int _ => True
  | .literal text => parseNumber text = some (.literal text) ∧ text.all isNumberUnit = true

mutual

/-- A value whose objects have distinct keys and whose numbers are canonical. -/
def Value.Canonical : Value → Prop
  | .num n => n.Canonical
  | .arr items => CanonicalItems items
  | .obj members => (members.map Prod.fst).Nodup ∧ CanonicalMembers members
  | _ => True

def CanonicalItems : List Value → Prop
  | [] => True
  | v :: rest => v.Canonical ∧ CanonicalItems rest

def CanonicalMembers : List (JsString × Value) → Prop
  | [] => True
  | (_, v) :: rest => v.Canonical ∧ CanonicalMembers rest

end

theorem canonical_emptyObject : (Value.obj []).Canonical :=
  ⟨List.nodup_nil, trivial⟩

theorem canonicalItems_iff {items : List Value} : CanonicalItems items ↔ ∀ item ∈ items, item.Canonical := by
  induction items with
  | nil => exact iff_of_true trivial fun _ h => absurd h List.not_mem_nil
  | cons item items ih =>
    rw [List.forall_mem_cons, ← ih]
    rfl

theorem canonicalMembers_iff {members : List (JsString × Value)} :
    CanonicalMembers members ↔ ∀ member ∈ members, member.2.Canonical := by
  induction members with
  | nil => simp [CanonicalMembers]
  | cons member members ih => simp [CanonicalMembers, ih]

theorem canonicalItems_strings (strings : List JsString) : CanonicalItems (strings.map Value.str) := by
  refine canonicalItems_iff.mpr fun item hitem => ?_
  obtain ⟨text, -, rfl⟩ := List.mem_map.mp hitem
  exact trivial

theorem hexValue_hexDigit {n : Nat} (h : n < 16) : hexValue (hexDigit n) = some n := by
  interval_cases n <;> rfl

theorem hexDigits_value (u : UInt16) :
    UInt16.ofNat (u.toNat / 4096 * 4096 + u.toNat / 256 % 16 * 256 + u.toNat / 16 % 16 * 16 +
      u.toNat % 16) = u := by
  have hsum : u.toNat / 4096 * 4096 + u.toNat / 256 % 16 * 256 + u.toNat / 16 % 16 * 16 +
      u.toNat % 16 = u.toNat := by omega
  rw [hsum]
  exact UInt16.ofNat_toNat

theorem parseString_unicodeEscape (u : UInt16) (rest : JsString) :
    parseString (unicodeEscape u ++ rest) = (parseString rest).map fun p => (u :: p.1, p.2) := by
  have hu := u.toNat_lt
  have h1 := hexValue_hexDigit (show u.toNat / 4096 < 16 by omega)
  have h2 := hexValue_hexDigit (show u.toNat / 256 % 16 < 16 by omega)
  have h3 := hexValue_hexDigit (show u.toNat / 16 % 16 < 16 by omega)
  have h4 := hexValue_hexDigit (show u.toNat % 16 < 16 by omega)
  simp only [unicodeEscape, List.cons_append, List.nil_append]
  rw [parseString]
  simp only [show ¬ (0x5C : UInt16) = 0x22 by decide, if_false, if_true, h1, h2, h3, h4,
    Option.bind_eq_bind, Option.bind_some, hexDigits_value]
  cases parseString rest <;> rfl

theorem parseString_simpleEscape {e u : UInt16} (he : simpleEscape e = some u) (hne : e ≠ 0x75)
    (rest : JsString) :
    parseString (0x5C :: e :: rest) = (parseString rest).map fun p => (u :: p.1, p.2) := by
  rw [parseString.eq_def]
  simp only [show ¬ (0x5C : UInt16) = 0x22 by decide, if_false, if_true, if_neg hne, he,
    Option.bind_eq_bind, Option.bind_some]
  cases parseString rest <;> rfl

theorem parseString_closing (rest : JsString) : parseString (0x22 :: rest) = some ([], rest) := by
  rw [parseString.eq_def]
  rfl

theorem parseString_plain {u : UInt16} (hquote : u ≠ 0x22) (hslash : u ≠ 0x5C)
    (hcontrol : ¬ u.toNat < 0x20) (rest : JsString) :
    parseString (u :: rest) = (parseString rest).map fun p => (u :: p.1, p.2) := by
  rw [parseString.eq_def]
  simp only [if_neg hquote, if_neg hslash, if_neg hcontrol]
  cases parseString rest <;> rfl

/-- The parser reads one quoted unit as that unit, whichever escape was chosen for it. -/
theorem parseString_quoteUnit (u : UInt16) (rest : JsString) :
    parseString (quoteUnit u ++ rest) = (parseString rest).map fun p => (u :: p.1, p.2) := by
  unfold quoteUnit
  split
  · subst u; exact parseString_simpleEscape (by decide) (by decide) rest
  split
  · subst u; exact parseString_simpleEscape (by decide) (by decide) rest
  split
  · subst u; exact parseString_simpleEscape (by decide) (by decide) rest
  split
  · subst u; exact parseString_simpleEscape (by decide) (by decide) rest
  split
  · subst u; exact parseString_simpleEscape (by decide) (by decide) rest
  split
  · subst u; exact parseString_simpleEscape (by decide) (by decide) rest
  split
  · subst u; exact parseString_simpleEscape (by decide) (by decide) rest
  split
  · exact parseString_unicodeEscape u rest
  · rename_i hquote hslash _ _ _ _ _ hplain
    simp only [Bool.or_eq_true, decide_eq_true_eq, not_or] at hplain
    exact parseString_plain hquote hslash hplain.1.1 rest

theorem surrogate_plain {u : UInt16} (h : (isHighSurrogate u || isLowSurrogate u) = true) :
    u ≠ 0x22 ∧ u ≠ 0x5C ∧ ¬ u.toNat < 0x20 := by
  simp only [isHighSurrogate, isLowSurrogate, Bool.or_eq_true, Bool.and_eq_true,
    decide_eq_true_eq] at h
  refine ⟨?_, ?_, by omega⟩
  · rintro rfl
    revert h
    decide
  · rintro rfl
    revert h
    decide

theorem parseString_quoteUnits (s rest : JsString) :
    parseString (quoteUnits s ++ 0x22 :: rest) = some (s, rest) := by
  induction s using quoteUnits.induct with
  | case1 => exact parseString_closing rest
  | case2 u =>
    rw [quoteUnits, parseString_quoteUnit, parseString_closing]
    rfl
  | case3 u v tail hpair ih =>
    rw [quoteUnits, if_pos hpair]
    simp only [Bool.and_eq_true] at hpair
    obtain ⟨hu1, hu2, hu3⟩ := surrogate_plain (u := u) (by simp [hpair.1])
    obtain ⟨hv1, hv2, hv3⟩ := surrogate_plain (u := v) (by simp [hpair.2])
    rw [List.cons_append, List.cons_append, parseString_plain hu1 hu2 hu3,
      parseString_plain hv1 hv2 hv3, ih]
    rfl
  | case4 u v tail hpair ih =>
    rw [quoteUnits, if_neg hpair, List.append_assoc, parseString_quoteUnit, ih]
    rfl

/-- A unit that a quoted string holds as it is, in one byte. -/
def IsPlainUnit (u : UInt16) : Prop :=
  0x20 ≤ u.toNat ∧ u.toNat < 128 ∧ u ≠ 0x22 ∧ u ≠ 0x5C

theorem quoteUnit_plain {u : UInt16} (h : IsPlainUnit u) : quoteUnit u = [u] := by
  obtain ⟨hlow, hhigh, hquote, hslash⟩ := h
  have hcontrol : ∀ c : UInt16, c.toNat < 0x20 → u ≠ c := by
    rintro c hc rfl
    omega
  have hplain : (decide (u.toNat < 0x20) || isHighSurrogate u || isLowSurrogate u) = false := by
    simp only [isHighSurrogate, isLowSurrogate, Bool.or_eq_false_iff, Bool.and_eq_false_iff,
      decide_eq_false_iff_not]
    omega
  rw [quoteUnit, if_neg hquote, if_neg hslash, if_neg (hcontrol _ (by decide)), if_neg (hcontrol _ (by decide)),
    if_neg (hcontrol _ (by decide)), if_neg (hcontrol _ (by decide)), if_neg (hcontrol _ (by decide)), hplain]
  rfl

theorem quoteUnits_plain {s : JsString} (h : ∀ u ∈ s, IsPlainUnit u) : quoteUnits s = s := by
  induction s using quoteUnits.induct with
  | case1 => rfl
  | case2 u => exact quoteUnit_plain (h u List.mem_cons_self)
  | case3 u v rest hpair ih =>
    obtain ⟨_, hu, _, _⟩ := h u List.mem_cons_self
    rw [Bool.and_eq_true, isHighSurrogate, Bool.and_eq_true, decide_eq_true_eq] at hpair
    omega
  | case4 u v rest hpair ih =>
    rw [quoteUnits, if_neg hpair, quoteUnit_plain (h u List.mem_cons_self),
      ih fun w hw => h w (List.mem_cons_of_mem _ hw)]
    rfl

theorem decimal_of_lt {n : Nat} (h : n < 10) : decimal n = [UInt16.ofNat (48 + n)] := by
  rw [decimal, if_pos h]

theorem decimal_of_le {n : Nat} (h : 10 ≤ n) :
    decimal n = decimal (n / 10) ++ [UInt16.ofNat (48 + n % 10)] := by
  rw [decimal, if_neg (by omega)]

theorem digitValue_digit {n : Nat} (h : n < 10) : digitValue (UInt16.ofNat (48 + n)) = some n := by
  interval_cases n <;> rfl

theorem digit_toNat {n : Nat} (h : n < 10) : (UInt16.ofNat (48 + n)).toNat - 48 = n := by
  interval_cases n <;> rfl

theorem isDigit_digit {n : Nat} (h : n < 10) : isDigit (UInt16.ofNat (48 + n)) = true := by
  rw [isDigit, digitValue_digit h]
  rfl

theorem decimal_all_isDigit (n : Nat) : (decimal n).all isDigit = true := by
  induction n using Nat.strong_induction_on with
  | _ n ih =>
    by_cases hn : n < 10
    · rw [decimal_of_lt hn, List.all_cons, isDigit_digit hn]
      rfl
    · rw [decimal_of_le (by omega), List.all_append, ih (n / 10) (by omega), List.all_cons,
        isDigit_digit (Nat.mod_lt n (by decide : 10 > 0))]
      rfl

theorem decimal_ne_nil (n : Nat) : decimal n ≠ [] := by
  by_cases hn : n < 10
  · simp [decimal_of_lt hn]
  · simp [decimal_of_le (show 10 ≤ n by omega)]

theorem length_decimal_le {n k : Nat} (h : n < 10 ^ (k + 1)) : (decimal n).length ≤ k + 1 := by
  induction k generalizing n with
  | zero =>
    rw [decimal_of_lt (by simpa using h)]
    simp
  | succ k ih =>
    by_cases hn : n < 10
    · simp [decimal_of_lt hn]
    · have hrec := ih (n := n / 10) (by omega)
      rw [decimal_of_le (by omega), List.length_append, List.length_singleton]
      omega

theorem digitsValue_decimal (n : Nat) : digitsValue (decimal n) = n := by
  induction n using Nat.strong_induction_on with
  | _ n ih =>
    by_cases hn : n < 10
    · simp only [decimal_of_lt hn, digitsValue, List.foldl_cons, List.foldl_nil, digit_toNat hn]
      omega
    · have hrec := ih (n / 10) (by omega)
      rw [digitsValue] at hrec
      rw [decimal_of_le (by omega), digitsValue, List.foldl_append, hrec]
      simp only [List.foldl_cons, List.foldl_nil, digit_toNat (Nat.mod_lt n (by decide : 10 > 0))]
      omega

theorem decimal_head_ne_zero {n : Nat} (h : 0 < n) : (decimal n).head? ≠ some 0x30 := by
  induction n using Nat.strong_induction_on with
  | _ n ih =>
    by_cases hn : n < 10
    · rw [decimal_of_lt hn]
      interval_cases n <;> decide
    · rw [decimal_of_le (by omega), List.head?_append_of_ne_nil _ (decimal_ne_nil _)]
      exact ih (n / 10) (by omega) (by omega)

theorem parseNatural_decimal (n : Nat) : parseNatural (decimal n) = some n := by
  have hpart : isIntegerPart (decimal n) = true := by
    rcases Nat.eq_zero_or_pos n with rfl | hpos
    · simp [isIntegerPart, decimal_of_lt, isDigit, digitValue]
    · simp [isIntegerPart, decimal_all_isDigit, decimal_ne_nil, decimal_head_ne_zero hpos]
  simp only [parseNatural, hpart, if_true, digitsValue_decimal]

theorem decimal_head {n : Nat} : ∃ d rest, decimal n = d :: rest ∧ isDigit d = true := by
  cases h : decimal n with
  | nil => exact absurd h (decimal_ne_nil n)
  | cons d rest =>
    have hall := decimal_all_isDigit n
    rw [h, List.all_cons, Bool.and_eq_true] at hall
    exact ⟨d, rest, rfl, hall.1⟩

theorem isDigit_ne_minus {d : UInt16} (h : isDigit d = true) : d ≠ 0x2D := by
  rintro rfl
  revert h
  decide

theorem parseInteger_int (n : Int) : parseInteger (stringifyNumber (.int n)) = some n := by
  simp only [stringifyNumber]
  split
  · rw [parseInteger, if_pos rfl, parseNatural_decimal, Option.map_some]
    exact congrArg some (by omega)
  · obtain ⟨d, rest, hd, hdigit⟩ := decimal_head (n := n.natAbs)
    rw [hd, parseInteger, if_neg (isDigit_ne_minus hdigit), ← hd, parseNatural_decimal, Option.map_some]
    exact congrArg some (by omega)

theorem parseNumber_stringifyNumber {n : Number} (h : n.Canonical) :
    parseNumber (stringifyNumber n) = some n := by
  cases n with
  | int n => simp only [parseNumber, parseInteger_int]
  | literal text => exact h.1

theorem stringifyNumber_all {n : Number} (h : n.Canonical) :
    (stringifyNumber n).all isNumberUnit = true := by
  have hdigit : ∀ m, (decimal m).all isNumberUnit = true := by
    intro m
    rw [List.all_eq_true]
    intro u hu
    have hu := List.all_eq_true.mp (decimal_all_isDigit m) u hu
    simp [isNumberUnit, hu]
  cases n with
  | int n =>
    simp only [stringifyNumber]
    split
    · rw [List.all_cons, hdigit]
      decide
    · exact hdigit _
  | literal text => exact h.2

theorem stringifyNumber_ne_nil {n : Number} (h : n.Canonical) : stringifyNumber n ≠ [] := by
  intro hnil
  have hparse := parseNumber_stringifyNumber h
  rw [hnil] at hparse
  revert hparse
  simp [parseNumber, parseInteger, parseDecimal, isIntegerPart]

/-- A text that no number literal can be read across. -/
def Delimited (rest : JsString) : Prop :=
  ∀ u, rest.head? = some u → isNumberUnit u = false

theorem delimited_nil : Delimited [] := by
  intro u h
  cases h

theorem delimited_cons {u : UInt16} {rest : JsString} (h : isNumberUnit u = false) :
    Delimited (u :: rest) := by
  intro v hv
  cases hv
  exact h

theorem takeWhile_number {text rest : JsString} (htext : text.all isNumberUnit = true)
    (hrest : Delimited rest) :
    (text ++ rest).takeWhile isNumberUnit = text ∧ (text ++ rest).dropWhile isNumberUnit = rest := by
  induction text with
  | nil =>
    cases rest with
    | nil => simp
    | cons u rest => simp [hrest u rfl]
  | cons t text ih =>
    rw [List.all_cons, Bool.and_eq_true] at htext
    obtain ⟨htake, hdrop⟩ := ih htext.2
    simp [htext.1, htake, hdrop]

theorem skipWhitespace_cons {u : UInt16} (h : isWhitespace u = false) (rest : JsString) :
    skipWhitespace (u :: rest) = u :: rest := by
  simp [skipWhitespace, h]

theorem expect_self {u : UInt16} (h : isWhitespace u = false) (rest : JsString) :
    expect u (u :: rest) = some rest := by
  simp [expect, skipWhitespace_cons h]

theorem expect_ne {u v : UInt16} (hv : isWhitespace v = false) (hne : v ≠ u) (rest : JsString) :
    expect u (v :: rest) = none := by
  simp [expect, skipWhitespace_cons hv, hne]

/-- The first unit of a serialized value: never whitespace, and never what closes a container. -/
theorem stringify_head (v : Value) (h : v.Canonical) :
    ∃ u rest, stringify v = u :: rest ∧ isWhitespace u = false ∧ u ≠ 0x5D ∧ u ≠ 0x7D := by
  cases v with
  | null => exact ⟨_, _, rfl, by decide, by decide, by decide⟩
  | bool b => cases b <;> exact ⟨_, _, rfl, by decide, by decide, by decide⟩
  | num n =>
    cases hs : stringifyNumber n with
    | nil => exact absurd hs (stringifyNumber_ne_nil h)
    | cons u rest =>
      have hall := stringifyNumber_all h
      rw [hs, List.all_cons, Bool.and_eq_true] at hall
      refine ⟨u, rest, by rw [stringify, hs], ?_, ?_, ?_⟩
      · by_contra hws
        simp only [Bool.not_eq_false, isWhitespace, Bool.or_eq_true, beq_iff_eq] at hws
        have hnum := hall.1
        rcases hws with ((rfl | rfl) | rfl) | rfl <;> revert hnum <;> decide
      · rintro rfl
        have hnum := hall.1
        revert hnum
        decide
      · rintro rfl
        have hnum := hall.1
        revert hnum
        decide
  | str s => exact ⟨_, _, by rw [stringify, quote], by decide, by decide, by decide⟩
  | arr items => exact ⟨_, _, by rw [stringify], by decide, by decide, by decide⟩
  | obj members => exact ⟨_, _, by rw [stringify], by decide, by decide, by decide⟩

theorem stringify_length_pos {v : Value} (h : v.Canonical) : 0 < (stringify v).length := by
  obtain ⟨u, rest, hs, _⟩ := stringify_head v h
  simp [hs]

theorem parseValue_number {fuel : Nat} {n : Number} {rest : JsString} (h : n.Canonical)
    (hrest : Delimited rest) :
    parseValue (fuel + 1) (stringifyNumber n ++ rest) = some (.num n, rest) := by
  obtain ⟨htake, hdrop⟩ := takeWhile_number (stringifyNumber_all h) hrest
  obtain ⟨u, tail, hs, hws, _⟩ := stringify_head (.num n) h
  rw [stringify] at hs
  have hnum : isNumberUnit u = true := by
    have hall := stringifyNumber_all h
    rw [hs, List.all_cons, Bool.and_eq_true] at hall
    exact hall.1
  have hne : u ≠ 0x22 ∧ u ≠ 0x5B ∧ u ≠ 0x7B ∧ u ≠ 0x6E ∧ u ≠ 0x74 ∧ u ≠ 0x66 := by
    refine ⟨?_, ?_, ?_, ?_, ?_, ?_⟩ <;> (rintro rfl; revert hnum; decide)
  rw [hs, List.cons_append] at htake hdrop ⊢
  rw [parseValue, skipWhitespace_cons hws]
  simp only [if_neg hne.1, if_neg hne.2.1, if_neg hne.2.2.1, if_neg hne.2.2.2.1,
    if_neg hne.2.2.2.2.1, if_neg hne.2.2.2.2.2, htake, hdrop]
  rw [← hs, parseNumber_stringifyNumber h]
  rfl

theorem foldl_defineMember (done members : List (JsString × Value))
    (h : ((done ++ members).map Prod.fst).Nodup) :
    members.foldl defineMember done = done ++ members := by
  induction members generalizing done with
  | nil => simp
  | cons m rest ih =>
    have hfresh : done.any (·.1 == m.1) = false := by
      rw [List.map_append, List.map_cons, List.nodup_append] at h
      rw [List.any_eq_false]
      intro d hd hkey
      simp only [beq_iff_eq] at hkey
      exact h.2.2 d.1 (List.mem_map_of_mem hd) m.1 (by simp) hkey
    have hdefine : defineMember done m = done ++ [m] := by simp [defineMember, hfresh]
    rw [List.foldl_cons, hdefine, ih (done ++ [m]) (by simpa using h), List.append_assoc]
    rfl

mutual

/-- Parsing the text of a canonical value, followed by any delimited text, gives the value and
    leaves the rest. -/
theorem parseValue_stringify : ∀ (v : Value) (fuel : Nat) (rest : JsString), v.Canonical →
    (stringify v).length ≤ fuel → Delimited rest →
      parseValue fuel (stringify v ++ rest) = some (v, rest)
  | v, 0, rest, hv, hfuel, _ => by
    have hpos := stringify_length_pos hv
    omega
  | .null, fuel + 1, rest, _, _, _ => by
    simp [stringify, parseValue, skipWhitespace, isWhitespace, parseKeyword, List.dropPrefix?]
  | .bool true, fuel + 1, rest, _, _, _ => by
    simp [stringify, parseValue, skipWhitespace, isWhitespace, parseKeyword, List.dropPrefix?]
  | .bool false, fuel + 1, rest, _, _, _ => by
    simp [stringify, parseValue, skipWhitespace, isWhitespace, parseKeyword, List.dropPrefix?]
  | .num n, fuel + 1, rest, hv, _, hrest => parseValue_number hv hrest
  | .str s, fuel + 1, rest, _, _, _ => by
    rw [stringify, quote, List.cons_append, List.append_assoc, List.cons_append, List.nil_append,
      parseValue, skipWhitespace_cons (by decide)]
    simp only [if_true, parseString_quoteUnits, Option.map_some]
  | .arr [], fuel + 1, rest, _, _, _ => by
    rw [stringify, stringifyItems, List.nil_append, List.cons_append, parseValue,
      skipWhitespace_cons (by decide)]
    simp only [show ¬ (0x5B : UInt16) = 0x22 by decide, if_false, if_true, List.cons_append,
      List.nil_append, expect_self (show isWhitespace 0x5D = false by decide)]
  | .arr (v :: items), fuel + 1, rest, hv, hfuel, _ => by
    have hitems := parseItems_stringifyItems (v :: items) fuel rest (by simp) hv
      (by rw [stringify] at hfuel; simp only [List.length_cons, List.length_append, List.length_nil] at hfuel; omega)
    obtain ⟨u, tail, hs, hws, hclose, _⟩ := stringify_head v hv.1
    have hopen : expect 0x5D (stringifyItems (v :: items) ++ 0x5D :: rest) = none := by
      cases items <;> simp only [stringifyItems, hs, List.cons_append] <;> exact expect_ne hws hclose _
    rw [stringify, List.cons_append, List.append_assoc, List.cons_append, List.nil_append, parseValue,
      skipWhitespace_cons (by decide)]
    simp only [show ¬ (0x5B : UInt16) = 0x22 by decide, if_false, if_true, hopen, hitems,
      Option.map_some]
  | .obj [], fuel + 1, rest, _, _, _ => by
    rw [stringify, stringifyMembers, List.nil_append, List.cons_append, parseValue,
      skipWhitespace_cons (by decide)]
    simp only [show ¬ (0x7B : UInt16) = 0x22 by decide, show ¬ (0x7B : UInt16) = 0x5B by decide, if_false,
      if_true, List.cons_append, List.nil_append, expect_self (show isWhitespace 0x7D = false by decide)]
  | .obj ((k, v) :: members), fuel + 1, rest, hv, hfuel, _ => by
    have hmembers := parseMembers_stringifyMembers ((k, v) :: members) fuel rest (by simp) hv.2
      (by rw [stringify] at hfuel; simp only [List.length_cons, List.length_append, List.length_nil] at hfuel; omega)
    have hopen : expect 0x7D (stringifyMembers ((k, v) :: members) ++ 0x7D :: rest) = none := by
      cases members <;> simp only [stringifyMembers, quote, List.cons_append] <;>
        exact expect_ne (by decide) (by decide) _
    have hdefine := foldl_defineMember [] ((k, v) :: members) (by simpa using hv.1)
    rw [stringify, List.cons_append, List.append_assoc, List.cons_append, List.nil_append, parseValue,
      skipWhitespace_cons (by decide)]
    simp only [show ¬ (0x7B : UInt16) = 0x22 by decide, show ¬ (0x7B : UInt16) = 0x5B by decide, if_false,
      if_true, hopen, hmembers, Option.map_some, hdefine, List.nil_append]

theorem parseItems_stringifyItems : ∀ (items : List Value) (fuel : Nat) (rest : JsString), items ≠ [] →
    CanonicalItems items → (stringifyItems items).length + 1 ≤ fuel →
      parseItems fuel (stringifyItems items ++ 0x5D :: rest) = some (items, rest)
  | [], _, _, hne, _, _ => absurd rfl hne
  | _ :: _, 0, _, _, _, hfuel => by omega
  | [v], fuel + 1, rest, _, hv, hfuel => by
    have hvalue := parseValue_stringify v fuel (0x5D :: rest) hv.1
      (by simp only [stringifyItems] at hfuel; omega) (delimited_cons (by decide))
    simp only [stringifyItems, parseItems, hvalue, Option.bind_eq_bind, Option.bind_some,
      expect_self (show isWhitespace 0x5D = false by decide), Option.pure_def]
  | v :: w :: items, fuel + 1, rest, _, hv, hfuel => by
    simp only [stringifyItems, List.length_append, List.length_cons] at hfuel
    have hvalue := parseValue_stringify v fuel (0x2C :: (stringifyItems (w :: items) ++ 0x5D :: rest)) hv.1
      (by omega) (delimited_cons (by decide))
    have hitems := parseItems_stringifyItems (w :: items) fuel rest (by simp) hv.2 (by omega)
    simp only [stringifyItems, parseItems, List.append_assoc, List.cons_append, hvalue,
      Option.bind_eq_bind, Option.bind_some,
      expect_ne (show isWhitespace 0x2C = false by decide) (show (0x2C : UInt16) ≠ 0x5D by decide),
      expect_self (show isWhitespace 0x2C = false by decide), hitems, Option.pure_def]

theorem parseMembers_stringifyMembers : ∀ (members : List (JsString × Value)) (fuel : Nat)
    (rest : JsString), members ≠ [] → CanonicalMembers members →
      (stringifyMembers members).length + 1 ≤ fuel →
      parseMembers fuel (stringifyMembers members ++ 0x7D :: rest) = some (members, rest)
  | [], _, _, hne, _, _ => absurd rfl hne
  | _ :: _, 0, _, _, _, hfuel => by omega
  | [(k, v)], fuel + 1, rest, _, hv, hfuel => by
    simp only [stringifyMembers, List.length_append, List.length_cons] at hfuel
    have hvalue := parseValue_stringify v fuel (0x7D :: rest) hv.1 (by omega) (delimited_cons (by decide))
    simp only [stringifyMembers, quote, parseMembers, List.append_assoc, List.cons_append, List.nil_append,
      expect_self (show isWhitespace 0x22 = false by decide), parseString_quoteUnits,
      expect_self (show isWhitespace 0x3A = false by decide), hvalue, Option.bind_eq_bind,
      Option.bind_some, expect_self (show isWhitespace 0x7D = false by decide), Option.pure_def]
  | (k, v) :: m :: members, fuel + 1, rest, _, hv, hfuel => by
    simp only [stringifyMembers, List.length_append, List.length_cons] at hfuel
    have hvalue := parseValue_stringify v fuel (0x2C :: (stringifyMembers (m :: members) ++ 0x7D :: rest))
      hv.1 (by omega) (delimited_cons (by decide))
    have hmembers := parseMembers_stringifyMembers (m :: members) fuel rest (by simp) hv.2 (by omega)
    simp only [stringifyMembers, quote, parseMembers, List.append_assoc, List.cons_append, List.nil_append,
      expect_self (show isWhitespace 0x22 = false by decide), parseString_quoteUnits,
      expect_self (show isWhitespace 0x3A = false by decide), hvalue, Option.bind_eq_bind,
      Option.bind_some,
      expect_ne (show isWhitespace 0x2C = false by decide) (show (0x2C : UInt16) ≠ 0x7D by decide),
      expect_self (show isWhitespace 0x2C = false by decide), hmembers, Option.pure_def]

end

theorem parse_stringify {v : Value} (h : v.Canonical) : parse (stringify v) = some v := by
  have hvalue := parseValue_stringify v ((stringify v).length + 1) [] h (by omega) delimited_nil
  rw [List.append_nil] at hvalue
  simp [parse, hvalue, skipWhitespace]

theorem wellFormed_quoteUnit (u : UInt16) : WellFormed (quoteUnit u) := by
  have hhex : ∀ n, n < 16 → (hexDigit n).toNat < 128 := by
    intro n hn
    interval_cases n <;> decide
  have hu := u.toNat_lt
  rw [quoteUnit]
  split_ifs with _ _ _ _ _ _ _ hplain
  · exact wellFormed_ascii (ascii_of_all (by decide))
  · exact wellFormed_ascii (ascii_of_all (by decide))
  · exact wellFormed_ascii (ascii_of_all (by decide))
  · exact wellFormed_ascii (ascii_of_all (by decide))
  · exact wellFormed_ascii (ascii_of_all (by decide))
  · exact wellFormed_ascii (ascii_of_all (by decide))
  · exact wellFormed_ascii (ascii_of_all (by decide))
  · apply wellFormed_ascii
    simp only [unicodeEscape, List.mem_cons, List.not_mem_nil, or_false]
    rintro v (rfl | rfl | rfl | rfl | rfl | rfl)
    · decide
    · decide
    · exact hhex _ (by omega)
    · exact hhex _ (by omega)
    · exact hhex _ (by omega)
    · exact hhex _ (by omega)
  · rw [Bool.or_assoc, Bool.or_eq_true, not_or, Bool.not_eq_true, Bool.not_eq_true] at hplain
    exact wellFormed_unit hplain.2

theorem wellFormed_quote (s : JsString) : WellFormed (quote s) := by
  have hunits : WellFormed (quoteUnits s) := by
    induction s using quoteUnits.induct with
    | case1 => exact wellFormed_nil
    | case2 u => exact wellFormed_quoteUnit u
    | case3 u v rest hpair ih =>
      rw [quoteUnits, if_pos hpair]
      rw [Bool.and_eq_true] at hpair
      exact (wellFormed_pair hpair.1 hpair.2).append ih
    | case4 u v rest hpair ih =>
      rw [quoteUnits, if_neg hpair]
      exact (wellFormed_quoteUnit u).append ih
  have hmark : WellFormed [0x22] := wellFormed_ascii (ascii_of_all (by decide))
  exact hmark.append (hunits.append hmark)

theorem wellFormed_stringifyNumber {n : Number} (h : n.Canonical) :
    WellFormed (stringifyNumber n) := by
  apply wellFormed_ascii
  intro u hu
  have hunit := List.all_eq_true.mp (stringifyNumber_all h) u hu
  by_contra hlarge
  have hdigit : isDigit u = false := by
    rw [isDigit, digitValue, if_neg (by omega)]
    rfl
  simp only [isNumberUnit, hdigit, Bool.false_or, Bool.or_eq_true, beq_iff_eq] at hunit
  rcases hunit with (((rfl | rfl) | rfl) | rfl) | rfl <;> exact hlarge (by decide)

mutual

theorem wellFormed_stringify : ∀ v : Value, v.Canonical → WellFormed (stringify v)
  | .null, _ => wellFormed_ascii (ascii_of_all (by decide))
  | .bool true, _ => wellFormed_ascii (ascii_of_all (by decide))
  | .bool false, _ => wellFormed_ascii (ascii_of_all (by decide))
  | .num _, h => wellFormed_stringifyNumber h
  | .str s, _ => wellFormed_quote s
  | .arr items, h =>
    (wellFormed_ascii (s := [0x5B]) (ascii_of_all (by decide))).append
      ((wellFormed_stringifyItems items h).append (wellFormed_ascii (ascii_of_all (by decide))))
  | .obj members, h =>
    (wellFormed_ascii (s := [0x7B]) (ascii_of_all (by decide))).append
      ((wellFormed_stringifyMembers members h.2).append (wellFormed_ascii (ascii_of_all (by decide))))

theorem wellFormed_stringifyItems : ∀ items : List Value, CanonicalItems items →
    WellFormed (stringifyItems items)
  | [], _ => wellFormed_nil
  | [v], h => wellFormed_stringify v h.1
  | v :: w :: rest, h =>
    (wellFormed_stringify v h.1).append
      ((wellFormed_ascii (s := [0x2C]) (ascii_of_all (by decide))).append (wellFormed_stringifyItems (w :: rest) h.2))

theorem wellFormed_stringifyMembers : ∀ members : List (JsString × Value), CanonicalMembers members →
    WellFormed (stringifyMembers members)
  | [], _ => wellFormed_nil
  | [(k, v)], h =>
    (wellFormed_quote k).append
      ((wellFormed_ascii (s := [0x3A]) (ascii_of_all (by decide))).append (wellFormed_stringify v h.1))
  | (k, v) :: m :: rest, h =>
    (wellFormed_quote k).append ((wellFormed_ascii (s := [0x3A]) (ascii_of_all (by decide))).append
      ((wellFormed_stringify v h.1).append
        ((wellFormed_ascii (s := [0x2C]) (ascii_of_all (by decide))).append (wellFormed_stringifyMembers (m :: rest) h.2))))

end

end json
