import Pipane.Lib.Json

open javascript

namespace json

mutual

/-- A bound on how deep a value nests, where a string counts its length: it may hold the text of a value. -/
def Value.weight : Value → Nat
  | .str s => s.length + 2
  | .arr items => itemsWeight items + 1
  | .obj members => membersWeight members + 1
  | _ => 1

def itemsWeight : List Value → Nat
  | [] => 0
  | v :: rest => max v.weight (itemsWeight rest)

def membersWeight : List (JsString × Value) → Nat
  | [] => 0
  | (_, v) :: rest => max v.weight (membersWeight rest)

end

theorem weight_le_itemsWeight {items : List Value} {v : Value} (h : v ∈ items) : v.weight ≤ itemsWeight items := by
  induction items with
  | nil => cases h
  | cons first rest ih =>
    rw [itemsWeight]
    rcases List.mem_cons.mp h with rfl | h
    · omega
    · have := ih h
      omega

theorem membersWeight_le_iff {members : List (JsString × Value)} {n : Nat} :
    membersWeight members ≤ n ↔ ∀ m ∈ members, m.2.weight ≤ n := by
  induction members with
  | nil => simp [membersWeight]
  | cons first rest ih =>
    obtain ⟨key, v⟩ := first
    rw [membersWeight, Nat.max_le, ih]
    simp

theorem weight_lt_of_get {v w : Value} {key : JsString} (h : v.get? key = some w) : w.weight < v.weight := by
  cases v with
  | obj members =>
    have hmem : (key, w) ∈ members := by
      rw [Value.get?] at h
      obtain ⟨before, after, rfl, -⟩ := List.lookup_eq_some_iff.mp h
      simp
    have hle : w.weight ≤ membersWeight members := membersWeight_le_iff.mp le_rfl _ hmem
    rw [Value.weight]
    omega
  | _ => cases h

theorem weight_lt_of_mem {items : List Value} {v : Value} (h : v ∈ items) : v.weight < (Value.arr items).weight := by
  have hle := weight_le_itemsWeight h
  rw [Value.weight]
  omega

theorem membersWeight_defineMember (members : List (JsString × Value)) (member : JsString × Value) :
    membersWeight (defineMember members member) ≤ max (membersWeight members) member.2.weight := by
  have hold := membersWeight_le_iff.mp (le_refl (membersWeight members))
  rw [membersWeight_le_iff]
  intro m hm
  rw [defineMember] at hm
  split at hm
  · obtain ⟨old, holdMem, rfl⟩ := List.mem_map.mp hm
    split
    · exact le_max_right _ _
    · exact (hold old holdMem).trans (le_max_left _ _)
  · rcases List.mem_append.mp hm with hm | hm
    · exact (hold m hm).trans (le_max_left _ _)
    · rw [List.mem_singleton.mp hm]
      exact le_max_right _ _

theorem membersWeight_foldl_defineMember (members defined : List (JsString × Value)) :
    membersWeight (members.foldl defineMember defined) ≤ max (membersWeight defined) (membersWeight members) := by
  induction members generalizing defined with
  | nil => simp
  | cons member rest ih =>
    obtain ⟨key, v⟩ := member
    have hstep : membersWeight (defineMember defined (key, v)) ≤ max (membersWeight defined) v.weight :=
      membersWeight_defineMember defined (key, v)
    have hrest := ih (defineMember defined (key, v))
    rw [List.foldl_cons, membersWeight]
    omega

theorem length_parseString {text s rest : JsString} (h : parseString text = some (s, rest)) :
    s.length + 1 + rest.length ≤ text.length := by
  fun_induction parseString text generalizing s rest with
  | case1 => cases h
  | case2 tail =>
    cases h
    simp only [List.length_nil, List.length_cons]
    omega
  | case3 => cases h
  | case4 a b c d tail _ ih =>
    simp only [Option.bind_eq_bind, Option.bind_eq_some_iff] at h
    obtain ⟨_, -, _, -, _, -, _, -, ⟨more, after⟩, hmore, h⟩ := h
    cases h
    have := ih hmore
    simp only [List.length_cons]
    omega
  | case5 => cases h
  | case6 e tail _ _ ih =>
    simp only [Option.bind_eq_bind, Option.bind_eq_some_iff] at h
    obtain ⟨_, -, ⟨more, after⟩, hmore, h⟩ := h
    cases h
    have := ih hmore
    simp only [List.length_cons]
    omega
  | case7 => cases h
  | case8 u tail _ _ _ ih =>
    simp only [Option.bind_eq_bind, Option.bind_eq_some_iff] at h
    obtain ⟨⟨more, after⟩, hmore, h⟩ := h
    cases h
    have := ih hmore
    simp only [List.length_cons]
    omega

theorem length_skipWhitespace_le (text : JsString) : (skipWhitespace text).length ≤ text.length :=
  (List.dropWhile_suffix _).length_le

theorem length_expect {u : UInt16} {text rest : JsString} (h : expect u text = some rest) :
    rest.length + 1 ≤ text.length := by
  have hskip := length_skipWhitespace_le text
  rw [expect] at h
  split at h
  · cases h
  · rename_i v tail htext
    rw [htext, List.length_cons] at hskip
    split at h
    · cases h
      exact hskip
    · cases h

theorem length_parseKeyword {keyword text rest : JsString} {value v : Value} (hweight : value.weight = 1)
    (h : parseKeyword keyword value text = some (v, rest)) : v.weight + rest.length ≤ text.length + 1 := by
  simp only [parseKeyword, Option.map_eq_some_iff, Prod.mk.injEq] at h
  obtain ⟨after, hafter, rfl, rfl⟩ := h
  obtain ⟨_, rfl, -⟩ := List.dropPrefix?_eq_some_iff.mp hafter
  rw [List.length_append, hweight]
  omega

theorem length_parseNumber {text : JsString} {n : Number}
    (h : parseNumber (text.takeWhile isNumberUnit) = some n) :
    1 + (text.dropWhile isNumberUnit).length ≤ text.length := by
  have hsplit := congrArg List.length (List.takeWhile_append_dropWhile (p := isNumberUnit) (l := text))
  rw [List.length_append] at hsplit
  have hne : (text.takeWhile isNumberUnit).length ≠ 0 := by
    intro hzero
    rw [List.length_eq_zero_iff.mp hzero] at h
    exact absurd h (by simp [parseNumber, parseInteger, parseDecimal, isIntegerPart])
  omega

section

variable {fuel : Nat}

/-- Parsing values with the given fuel gives no value heavier than its text. -/
def Bounded (fuel : Nat) : Prop :=
  ∀ {text v rest}, parseValue fuel text = some (v, rest) → v.weight + rest.length ≤ text.length

theorem itemsWeight_parseItems (hvalue : ∀ n ≤ fuel, Bounded n) {text rest : JsString} {items : List Value}
    (h : parseItems fuel text = some (items, rest)) : itemsWeight items + 1 + rest.length ≤ text.length := by
  induction fuel generalizing text rest items with
  | zero => cases h
  | succ fuel ih =>
    rw [parseItems] at h
    simp only [Option.bind_eq_bind, Option.bind_eq_some_iff] at h
    obtain ⟨⟨v, afterValue⟩, hv, h⟩ := h
    have hfirst : v.weight + afterValue.length ≤ text.length := hvalue fuel (by omega) hv
    dsimp only at h
    split at h
    · rename_i afterClose hclose
      cases h
      have hlength := length_expect hclose
      simp only [itemsWeight]
      omega
    · simp only [Option.bind_eq_some_iff] at h
      obtain ⟨afterComma, hcomma, ⟨more, after⟩, hmore, h⟩ := h
      cases h
      have hlength := length_expect hcomma
      have hrest := ih (fun n hn => hvalue n (by omega)) hmore
      simp only [itemsWeight]
      omega

theorem membersWeight_parseMembers (hvalue : ∀ n ≤ fuel, Bounded n) {text rest : JsString}
    {members : List (JsString × Value)} (h : parseMembers fuel text = some (members, rest)) :
    membersWeight members + 1 + rest.length ≤ text.length := by
  induction fuel generalizing text rest members with
  | zero => cases h
  | succ fuel ih =>
    rw [parseMembers] at h
    simp only [Option.bind_eq_bind, Option.bind_eq_some_iff] at h
    obtain ⟨afterQuote, hquote, ⟨key, afterKey⟩, hkey, afterColon, hcolon, ⟨v, afterValue⟩, hv, h⟩ := h
    have hfirst : v.weight + afterValue.length ≤ afterColon.length := hvalue fuel (by omega) hv
    dsimp only at hcolon h
    have hquoteLength := length_expect hquote
    have hkeyLength := length_parseString hkey
    have hcolonLength := length_expect hcolon
    split at h
    · rename_i afterClose hclose
      cases h
      have hlength := length_expect hclose
      simp only [membersWeight]
      omega
    · simp only [Option.bind_eq_some_iff] at h
      obtain ⟨afterComma, hcomma, ⟨more, after⟩, hmore, h⟩ := h
      cases h
      have hlength := length_expect hcomma
      have hrest := ih (fun n hn => hvalue n (by omega)) hmore
      simp only [membersWeight]
      omega

theorem bounded_succ (hvalue : ∀ n ≤ fuel, Bounded n) : Bounded (fuel + 1) := by
  intro text v rest h
  have hskip := length_skipWhitespace_le text
  rw [parseValue] at h
  split at h
  · cases h
  rename_i u tail htext
  rw [htext, List.length_cons] at hskip
  by_cases hstring : u = 0x22
  · rw [if_pos hstring] at h
    obtain ⟨⟨s, after⟩, hs, h⟩ := Option.map_eq_some_iff.mp h
    cases h
    have := length_parseString hs
    simp only [Value.weight]
    omega
  rw [if_neg hstring] at h
  by_cases harray : u = 0x5B
  · rw [if_pos harray] at h
    split at h
    · rename_i after hclose
      cases h
      have := length_expect hclose
      simp only [Value.weight, itemsWeight]
      omega
    · obtain ⟨⟨items, after⟩, hitems, h⟩ := Option.map_eq_some_iff.mp h
      cases h
      have := itemsWeight_parseItems hvalue hitems
      simp only [Value.weight]
      omega
  rw [if_neg harray] at h
  by_cases hobject : u = 0x7B
  · rw [if_pos hobject] at h
    split at h
    · rename_i after hclose
      cases h
      have := length_expect hclose
      simp only [Value.weight, membersWeight]
      omega
    · obtain ⟨⟨members, after⟩, hmembers, h⟩ := Option.map_eq_some_iff.mp h
      cases h
      have hbound := membersWeight_parseMembers hvalue hmembers
      have hdefined := membersWeight_foldl_defineMember members []
      simp only [Value.weight, membersWeight] at hdefined ⊢
      omega
  rw [if_neg hobject] at h
  split at h
  · have := length_parseKeyword rfl h
    omega
  split at h
  · have := length_parseKeyword rfl h
    omega
  split at h
  · have := length_parseKeyword rfl h
    omega
  obtain ⟨n, hn, h⟩ := Option.map_eq_some_iff.mp h
  cases h
  have := length_parseNumber hn
  simp only [Value.weight, List.length_cons] at this ⊢
  omega

end

theorem bounded (fuel : Nat) : Bounded fuel := by
  induction fuel using Nat.strong_induction_on with
  | _ fuel ih =>
    cases fuel with
    | zero =>
      intro text v rest h
      cases h
    | succ fuel => exact bounded_succ fun n hn => ih n (by omega)

theorem weight_lt_of_parse {text : JsString} {v : Value} (h : parse text = some v) :
    v.weight < (Value.str text).weight := by
  rw [parse] at h
  split at h
  · rename_i value rest hparse
    have hbound := bounded _ hparse
    split at h
    · cases h
      rw [Value.weight]
      omega
    · cases h
  · cases h

end json
