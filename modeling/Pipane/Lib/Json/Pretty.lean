import Pipane.Lib.Json.RoundTrip

open javascript

namespace json

/-- A line feed and the indentation of a depth, two spaces for each level. -/
def newline (depth : Nat) : JsString :=
  0x0A :: List.replicate (2 * depth) 0x20

mutual

/-- `JSON.stringify(value, null, 2)`, for a value at a depth. -/
def pretty (depth : Nat) : Value → JsString
  | .null => stringify .null
  | .bool b => stringify (.bool b)
  | .num n => stringify (.num n)
  | .str s => stringify (.str s)
  | .arr [] => [0x5B, 0x5D]
  | .arr (v :: items) =>
    0x5B :: (newline (depth + 1) ++ prettyItems (depth + 1) (v :: items) ++ newline depth ++ [0x5D])
  | .obj [] => [0x7B, 0x7D]
  | .obj (m :: members) =>
    0x7B :: (newline (depth + 1) ++ prettyMembers (depth + 1) (m :: members) ++ newline depth ++ [0x7D])

def prettyItems (depth : Nat) : List Value → JsString
  | [] => []
  | [v] => pretty depth v
  | v :: w :: rest => pretty depth v ++ 0x2C :: (newline depth ++ prettyItems depth (w :: rest))

def prettyMembers (depth : Nat) : List (JsString × Value) → JsString
  | [] => []
  | [(k, v)] => quote k ++ 0x3A :: 0x20 :: pretty depth v
  | (k, v) :: m :: rest =>
    quote k ++ 0x3A :: 0x20 :: (pretty depth v ++ 0x2C :: (newline depth ++ prettyMembers depth (m :: rest)))

end

/-! Whitespace before a token is passed over. -/

theorem all_newline (depth : Nat) : ∀ u ∈ newline depth, isWhitespace u = true := by
  intro u mem
  rcases List.mem_cons.mp mem with rfl | mem
  · rfl
  · rw [List.eq_of_mem_replicate mem]
    rfl

theorem skipWhitespace_append {space : JsString} (h : ∀ u ∈ space, isWhitespace u = true) (text : JsString) :
    skipWhitespace (space ++ text) = skipWhitespace text := by
  rw [skipWhitespace, List.dropWhile_append_of_pos h]
  rfl

theorem expect_append {space : JsString} (h : ∀ u ∈ space, isWhitespace u = true) (u : UInt16) (text : JsString) :
    expect u (space ++ text) = expect u text := by
  rw [expect, expect, skipWhitespace_append h]

theorem parseValue_append {space : JsString} (h : ∀ u ∈ space, isWhitespace u = true) (fuel : Nat) (text : JsString) :
    parseValue fuel (space ++ text) = parseValue fuel text := by
  cases fuel with
  | zero => rfl
  | succ fuel => rw [parseValue, parseValue, skipWhitespace_append h]

theorem parseItems_append {space : JsString} (h : ∀ u ∈ space, isWhitespace u = true) (fuel : Nat) (text : JsString) :
    parseItems fuel (space ++ text) = parseItems fuel text := by
  cases fuel with
  | zero => rfl
  | succ fuel => rw [parseItems, parseItems, parseValue_append h]

theorem parseMembers_append {space : JsString} (h : ∀ u ∈ space, isWhitespace u = true) (fuel : Nat) (text : JsString) :
    parseMembers fuel (space ++ text) = parseMembers fuel text := by
  cases fuel with
  | zero => rfl
  | succ fuel => rw [parseMembers, parseMembers, expect_append h]

theorem expect_newline (depth : Nat) (u : UInt16) (text : JsString) : expect u (newline depth ++ text) = expect u text :=
  expect_append (all_newline depth) u text

theorem all_space : ∀ u ∈ ([0x20] : JsString), isWhitespace u = true :=
  List.forall_mem_singleton.mpr rfl

theorem delimited_newline (depth : Nat) (text : JsString) : Delimited (newline depth ++ text) := by
  rw [newline, List.cons_append]
  exact delimited_cons (by decide)

theorem pretty_head (depth : Nat) (v : Value) (h : v.Canonical) :
    ∃ u rest, pretty depth v = u :: rest ∧ isWhitespace u = false ∧ u ≠ 0x5D ∧ u ≠ 0x7D := by
  cases v with
  | arr items =>
    cases items with
    | nil => exact ⟨_, _, by rw [pretty], by decide, by decide, by decide⟩
    | cons v items => exact ⟨_, _, by rw [pretty], by decide, by decide, by decide⟩
  | obj members =>
    cases members with
    | nil => exact ⟨_, _, by rw [pretty], by decide, by decide, by decide⟩
    | cons m members => exact ⟨_, _, by rw [pretty], by decide, by decide, by decide⟩
  | null =>
    rw [pretty]
    exact stringify_head _ h
  | bool b =>
    rw [pretty]
    exact stringify_head _ h
  | num n =>
    rw [pretty]
    exact stringify_head _ h
  | str s =>
    rw [pretty]
    exact stringify_head _ h

theorem length_pretty_pos {depth : Nat} {v : Value} (h : v.Canonical) : 0 < (pretty depth v).length := by
  obtain ⟨u, rest, hs, -⟩ := pretty_head depth v h
  rw [hs]
  exact Nat.succ_pos _

mutual

/-- Parsing the indented text of a canonical value gives the value, and leaves a delimited rest. -/
theorem parseValue_pretty : ∀ (depth : Nat) (v : Value) (fuel : Nat) (rest : JsString), v.Canonical →
    (pretty depth v).length ≤ fuel → Delimited rest → parseValue fuel (pretty depth v ++ rest) = some (v, rest)
  | depth, v, 0, rest, hv, hfuel, _ => by
    have hpos := @length_pretty_pos depth v hv
    omega
  | depth, .null, fuel + 1, rest, hv, hfuel, hrest => by
    rw [pretty] at hfuel ⊢
    exact parseValue_stringify _ _ _ hv hfuel hrest
  | depth, .bool b, fuel + 1, rest, hv, hfuel, hrest => by
    rw [pretty] at hfuel ⊢
    exact parseValue_stringify _ _ _ hv hfuel hrest
  | depth, .num n, fuel + 1, rest, hv, hfuel, hrest => by
    rw [pretty] at hfuel ⊢
    exact parseValue_stringify _ _ _ hv hfuel hrest
  | depth, .str s, fuel + 1, rest, hv, hfuel, hrest => by
    rw [pretty] at hfuel ⊢
    exact parseValue_stringify _ _ _ hv hfuel hrest
  | depth, .arr [], fuel + 1, rest, hv, hfuel, hrest => by
    rw [pretty] at hfuel ⊢
    exact parseValue_stringify (.arr []) _ _ hv hfuel hrest
  | depth, .obj [], fuel + 1, rest, hv, hfuel, hrest => by
    rw [pretty] at hfuel ⊢
    exact parseValue_stringify (.obj []) _ _ hv hfuel hrest
  | depth, .arr (v :: items), fuel + 1, rest, hv, hfuel, _ => by
    have hitems := parseItems_prettyItems (depth + 1) (v :: items) depth fuel rest (by simp) hv
      (by rw [pretty] at hfuel; simp only [List.length_cons, List.length_append, List.length_nil] at hfuel; omega)
    obtain ⟨u, tail, hs, hws, hclose, -⟩ := pretty_head (depth + 1) v hv.1
    have hopen : expect 0x5D (newline (depth + 1) ++ (prettyItems (depth + 1) (v :: items) ++
        (newline depth ++ 0x5D :: rest))) = none := by
      rw [expect_newline]
      cases items <;> simp only [prettyItems, hs, List.cons_append] <;> exact expect_ne hws hclose _
    rw [pretty, List.cons_append, List.append_assoc, List.append_assoc, List.append_assoc, List.cons_append,
      List.nil_append, parseValue, skipWhitespace_cons (by decide)]
    simp only [show ¬ (0x5B : UInt16) = 0x22 by decide, if_false, if_true, hopen]
    rw [parseItems_append (all_newline _), hitems]
    rfl
  | depth, .obj ((k, v) :: members), fuel + 1, rest, hv, hfuel, _ => by
    have hmembers := parseMembers_prettyMembers (depth + 1) ((k, v) :: members) depth fuel rest (by simp) hv.2
      (by rw [pretty] at hfuel; simp only [List.length_cons, List.length_append, List.length_nil] at hfuel; omega)
    have hopen : expect 0x7D (newline (depth + 1) ++ (prettyMembers (depth + 1) ((k, v) :: members) ++
        (newline depth ++ 0x7D :: rest))) = none := by
      rw [expect_newline]
      cases members <;> simp only [prettyMembers, quote, List.cons_append] <;>
        exact expect_ne (by decide) (by decide) _
    have hdefine := foldl_defineMember [] ((k, v) :: members) (by simpa using hv.1)
    rw [pretty, List.cons_append, List.append_assoc, List.append_assoc, List.append_assoc, List.cons_append,
      List.nil_append, parseValue, skipWhitespace_cons (by decide)]
    simp only [show ¬ (0x7B : UInt16) = 0x22 by decide, show ¬ (0x7B : UInt16) = 0x5B by decide, if_false,
      if_true, hopen]
    rw [parseMembers_append (all_newline _), hmembers]
    simp only [Option.map_some, hdefine, List.nil_append]

theorem parseItems_prettyItems : ∀ (depth : Nat) (items : List Value) (outer : Nat) (fuel : Nat) (rest : JsString),
    items ≠ [] → CanonicalItems items → (prettyItems depth items).length + 1 ≤ fuel →
      parseItems fuel (prettyItems depth items ++ (newline outer ++ 0x5D :: rest)) = some (items, rest)
  | _, [], _, _, _, hne, _, _ => absurd rfl hne
  | _, _ :: _, _, 0, _, _, _, hfuel => by omega
  | depth, [v], outer, fuel + 1, rest, _, hv, hfuel => by
    have hvalue := parseValue_pretty depth v fuel (newline outer ++ 0x5D :: rest) hv.1
      (by simp only [prettyItems] at hfuel; omega) (delimited_newline _ _)
    simp only [prettyItems, parseItems, hvalue, Option.bind_eq_bind, Option.bind_some, expect_newline,
      expect_self (show isWhitespace 0x5D = false by decide), Option.pure_def]
  | depth, v :: w :: items, outer, fuel + 1, rest, _, hv, hfuel => by
    simp only [prettyItems, List.length_append, List.length_cons] at hfuel
    have hvalue := parseValue_pretty depth v fuel
      (0x2C :: (newline depth ++ (prettyItems depth (w :: items) ++ (newline outer ++ 0x5D :: rest)))) hv.1
      (by omega) (delimited_cons (by decide))
    have hitems := parseItems_prettyItems depth (w :: items) outer fuel rest (by simp) hv.2 (by omega)
    simp only [prettyItems, parseItems, List.append_assoc, List.cons_append, hvalue,
      Option.bind_eq_bind, Option.bind_some,
      expect_ne (show isWhitespace 0x2C = false by decide) (show (0x2C : UInt16) ≠ 0x5D by decide),
      expect_self (show isWhitespace 0x2C = false by decide), parseItems_append (all_newline _), hitems,
      Option.pure_def]

theorem parseMembers_prettyMembers : ∀ (depth : Nat) (members : List (JsString × Value)) (outer : Nat) (fuel : Nat)
    (rest : JsString), members ≠ [] → CanonicalMembers members → (prettyMembers depth members).length + 1 ≤ fuel →
      parseMembers fuel (prettyMembers depth members ++ (newline outer ++ 0x7D :: rest)) = some (members, rest)
  | _, [], _, _, _, hne, _, _ => absurd rfl hne
  | _, _ :: _, _, 0, _, _, _, hfuel => by omega
  | depth, [(k, v)], outer, fuel + 1, rest, _, hv, hfuel => by
    simp only [prettyMembers, List.length_append, List.length_cons] at hfuel
    have hvalue := parseValue_pretty depth v fuel (newline outer ++ 0x7D :: rest) hv.1 (by omega)
      (delimited_newline _ _)
    rw [← parseValue_append all_space, List.singleton_append] at hvalue
    simp only [prettyMembers, quote, parseMembers, List.append_assoc, List.cons_append, List.nil_append,
      expect_self (show isWhitespace 0x22 = false by decide), parseString_quoteUnits,
      expect_self (show isWhitespace 0x3A = false by decide), hvalue, Option.bind_eq_bind,
      Option.bind_some, expect_newline, expect_self (show isWhitespace 0x7D = false by decide), Option.pure_def]
  | depth, (k, v) :: m :: members, outer, fuel + 1, rest, _, hv, hfuel => by
    simp only [prettyMembers, List.length_append, List.length_cons] at hfuel
    have hvalue := parseValue_pretty depth v fuel
      (0x2C :: (newline depth ++ (prettyMembers depth (m :: members) ++ (newline outer ++ 0x7D :: rest)))) hv.1
      (by omega) (delimited_cons (by decide))
    rw [← parseValue_append all_space, List.singleton_append] at hvalue
    have hmembers := parseMembers_prettyMembers depth (m :: members) outer fuel rest (by simp) hv.2 (by omega)
    simp only [prettyMembers, quote, parseMembers, List.append_assoc, List.cons_append, List.nil_append,
      expect_self (show isWhitespace 0x22 = false by decide), parseString_quoteUnits,
      expect_self (show isWhitespace 0x3A = false by decide), hvalue, Option.bind_eq_bind,
      Option.bind_some,
      expect_ne (show isWhitespace 0x2C = false by decide) (show (0x2C : UInt16) ≠ 0x7D by decide),
      expect_self (show isWhitespace 0x2C = false by decide), parseMembers_append (all_newline _), hmembers,
      Option.pure_def]

end

theorem wellFormed_newline (depth : Nat) : WellFormed (newline depth) := by
  apply wellFormed_ascii
  intro u mem
  rcases List.mem_cons.mp mem with rfl | mem
  · decide
  · rw [List.eq_of_mem_replicate mem]
    decide

mutual

/-- What `JSON.stringify` writes on lines of their own has no lone surrogates either. -/
theorem wellFormed_pretty : ∀ (depth : Nat) (v : Value), v.Canonical → WellFormed (pretty depth v)
  | _, .null, h => by
    rw [pretty]
    exact wellFormed_stringify _ h
  | _, .bool _, h => by
    rw [pretty]
    exact wellFormed_stringify _ h
  | _, .num _, h => by
    rw [pretty]
    exact wellFormed_stringify _ h
  | _, .str _, h => by
    rw [pretty]
    exact wellFormed_stringify _ h
  | _, .arr [], _ => by
    rw [pretty]
    exact wellFormed_ascii (ascii_of_all (by decide))
  | _, .obj [], _ => by
    rw [pretty]
    exact wellFormed_ascii (ascii_of_all (by decide))
  | depth, .arr (v :: items), h => by
    rw [pretty]
    exact (wellFormed_ascii (s := [0x5B]) (ascii_of_all (by decide))).append
      ((((wellFormed_newline _).append (wellFormed_prettyItems (depth + 1) (v :: items) h)).append
        (wellFormed_newline _)).append (wellFormed_ascii (ascii_of_all (by decide))))
  | depth, .obj (m :: members), h => by
    rw [pretty]
    exact (wellFormed_ascii (s := [0x7B]) (ascii_of_all (by decide))).append
      ((((wellFormed_newline _).append (wellFormed_prettyMembers (depth + 1) (m :: members) h.2)).append
        (wellFormed_newline _)).append (wellFormed_ascii (ascii_of_all (by decide))))

theorem wellFormed_prettyItems : ∀ (depth : Nat) (items : List Value), CanonicalItems items →
    WellFormed (prettyItems depth items)
  | _, [], _ => wellFormed_nil
  | depth, [v], h => by
    rw [prettyItems]
    exact wellFormed_pretty depth v h.1
  | depth, v :: w :: rest, h => by
    rw [prettyItems]
    exact (wellFormed_pretty depth v h.1).append ((wellFormed_ascii (s := [0x2C]) (ascii_of_all (by decide))).append
      ((wellFormed_newline depth).append (wellFormed_prettyItems depth (w :: rest) h.2)))

theorem wellFormed_prettyMembers : ∀ (depth : Nat) (members : List (JsString × Value)), CanonicalMembers members →
    WellFormed (prettyMembers depth members)
  | _, [], _ => wellFormed_nil
  | depth, [(k, v)], h => by
    rw [prettyMembers]
    exact (wellFormed_quote k).append ((wellFormed_ascii (s := [0x3A, 0x20]) (ascii_of_all (by decide))).append
      (wellFormed_pretty depth v h.1))
  | depth, (k, v) :: m :: rest, h => by
    rw [prettyMembers]
    exact (wellFormed_quote k).append ((wellFormed_ascii (s := [0x3A, 0x20]) (ascii_of_all (by decide))).append
      ((wellFormed_pretty depth v h.1).append ((wellFormed_ascii (s := [0x2C]) (ascii_of_all (by decide))).append
        ((wellFormed_newline depth).append (wellFormed_prettyMembers depth (m :: rest) h.2)))))

end

end json
