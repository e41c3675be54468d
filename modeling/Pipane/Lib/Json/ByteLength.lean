import Pipane.Lib.Json.RoundTrip

open javascript

namespace json

/-- The size of the UTF-8 text of a value. -/
def jsonBytes (value : Value) : Nat :=
  (textEncode (stringify value)).length

theorem wellFormed_quote_text (s : JsString) : WellFormed (quote s) :=
  wellFormed_stringify (.str s) trivial

theorem length_textEncode_cons {u : UInt16} (hu : u.toNat < 128) (rest : JsString) :
    (textEncode (u :: rest)).length = 1 + (textEncode rest).length := by
  have hunit : ∀ v ∈ [u], v.toNat < 128 := by
    intro v hv
    rw [List.mem_singleton.mp hv]
    exact hu
  have happend := textEncode_append_of_wellFormed (wellFormed_ascii hunit) rest
  rw [List.singleton_append] at happend
  rw [happend, List.length_append, length_textEncode_ascii hunit, List.length_singleton]

theorem length_textEncode_append {s : JsString} (hs : WellFormed s) (t : JsString) :
    (textEncode (s ++ t)).length = (textEncode s).length + (textEncode t).length := by
  rw [textEncode_append_of_wellFormed hs, List.length_append]

/-- One member with its key, its colon and the comma after it. -/
def memberBytes (member : JsString × Value) : Nat :=
  jsonBytes (.str member.1) + 2 + jsonBytes member.2

theorem length_textEncode_stringifyMembers : ∀ members : List (JsString × Value), members ≠ [] →
    CanonicalMembers members →
    (textEncode (stringifyMembers members)).length + 1 = (members.map memberBytes).sum
  | [], hne, _ => absurd rfl hne
  | [(k, v)], _, h => by
    rw [stringifyMembers, length_textEncode_append (wellFormed_quote_text k), length_textEncode_cons (by decide)]
    simp only [List.map_cons, List.map_nil, List.sum_cons, List.sum_nil, memberBytes, jsonBytes, stringify]
    omega
  | (k, v) :: next :: rest, _, h => by
    have hrest := length_textEncode_stringifyMembers (next :: rest) (List.cons_ne_nil _ _) h.2
    rw [stringifyMembers, length_textEncode_append (wellFormed_quote_text k), length_textEncode_cons (by decide),
      length_textEncode_append (wellFormed_stringify v h.1), length_textEncode_cons (by decide), List.map_cons,
      List.sum_cons, ← hrest]
    simp only [memberBytes, jsonBytes, stringify]
    omega

theorem jsonBytes_obj {members : List (JsString × Value)} (hne : members ≠ [])
    (h : (Value.obj members).Canonical) : jsonBytes (.obj members) = 1 + (members.map memberBytes).sum := by
  have hclose : (textEncode [0x7D]).length = 1 := by decide
  rw [jsonBytes, stringify, length_textEncode_cons (by decide),
    length_textEncode_append (wellFormed_stringifyMembers members h.2), hclose,
    ← length_textEncode_stringifyMembers members hne h.2]

/-- The items of an array with the commas between them. -/
def itemsBytes (items : List Value) : Nat :=
  (items.map jsonBytes).sum + (items.length - 1)

theorem length_textEncode_stringifyItems (items : List Value) (h : CanonicalItems items) :
    (textEncode (stringifyItems items)).length = itemsBytes items := by
  induction items with
  | nil => rfl
  | cons v rest ih =>
    have hrest := ih h.2
    cases rest with
    | nil =>
      rw [itemsBytes, List.map_singleton, List.sum_singleton]
      rfl
    | cons next rest =>
      rw [stringifyItems, length_textEncode_append (wellFormed_stringify v h.1), length_textEncode_cons (by decide),
        hrest, itemsBytes, itemsBytes]
      simp only [List.map_cons, List.sum_cons, List.length_cons, jsonBytes]
      omega

theorem jsonBytes_arr {items : List Value} (h : CanonicalItems items) :
    jsonBytes (.arr items) = 2 + itemsBytes items := by
  have hclose : (textEncode [0x5D]).length = 1 := by decide
  rw [jsonBytes, stringify, length_textEncode_cons (by decide),
    length_textEncode_append (wellFormed_stringifyItems items h), hclose, length_textEncode_stringifyItems items h]
  omega

theorem jsonBytes_natural (n : Nat) : jsonBytes (.num (.int n)) = (decimal n).length := by
  have hdigits : ∀ u ∈ decimal n, u.toNat < 128 := by
    intro u hu
    have hdigit := List.all_eq_true.mp (decimal_all_isDigit n) u hu
    rw [isDigit, digitValue] at hdigit
    split at hdigit
    · omega
    · cases hdigit
  have htext : stringify (.num (.int n)) = decimal n := by
    rw [stringify, stringifyNumber, if_neg (by omega), Int.natAbs_natCast]
  rw [jsonBytes, htext, length_textEncode_ascii hdigits]

end json
