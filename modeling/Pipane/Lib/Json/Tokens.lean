import Mathlib.Data.List.Chain
import Pipane.Lib.Json.RoundTrip

open javascript

namespace json

/-- A lexical unit of a JSON text: a mark, a number or a word, a quoted string, a key with its colon. -/
inductive Token
  | mark (unit : UInt16)
  | word (units : JsString)
  | quoted (s : JsString)
  | key (s : JsString)

def Token.render : Token → JsString
  | .mark unit => [unit]
  | .word units => units
  | .quoted s => quote s
  | .key s => quote s ++ [0x3A]

mutual

/-- The tokens of a text that `JSON.stringify` writes. -/
def tokens : Value → List Token
  | .str s => [.quoted s]
  | .arr items => .mark 0x5B :: (itemTokens items ++ [.mark 0x5D])
  | .obj members => .mark 0x7B :: (memberTokens members ++ [.mark 0x7D])
  | .null => [.word (stringify .null)]
  | .bool b => [.word (stringify (.bool b))]
  | .num n => [.word (stringify (.num n))]

def itemTokens : List Value → List Token
  | [] => []
  | [v] => tokens v
  | v :: w :: rest => tokens v ++ .mark 0x2C :: itemTokens (w :: rest)

def memberTokens : List (JsString × Value) → List Token
  | [] => []
  | [(k, v)] => .key k :: tokens v
  | (k, v) :: m :: rest => .key k :: (tokens v ++ .mark 0x2C :: memberTokens (m :: rest))

end

mutual

/-- Every key of an object inside a value. -/
def keys : Value → List JsString
  | .arr items => itemKeys items
  | .obj members => memberKeys members
  | _ => []

def itemKeys : List Value → List JsString
  | [] => []
  | v :: rest => keys v ++ itemKeys rest

def memberKeys : List (JsString × Value) → List JsString
  | [] => []
  | (k, v) :: rest => k :: (keys v ++ memberKeys rest)

end

/-- The text of a list of tokens. -/
def render (ts : List Token) : JsString :=
  ts.flatMap Token.render

@[simp] theorem render_nil : render [] = [] := rfl

@[simp] theorem render_cons (t : Token) (ts : List Token) : render (t :: ts) = t.render ++ render ts := rfl

@[simp] theorem render_append (ts us : List Token) : render (ts ++ us) = render ts ++ render us :=
  List.flatMap_append

mutual

theorem render_tokens : ∀ v : Value, render (tokens v) = stringify v
  | .null => List.append_nil _
  | .bool _ => List.append_nil _
  | .num _ => List.append_nil _
  | .str _ => List.append_nil _
  | .arr items => by simp [tokens, stringify, Token.render, render_itemTokens items]
  | .obj members => by simp [tokens, stringify, Token.render, render_memberTokens members]

theorem render_itemTokens : ∀ items : List Value, render (itemTokens items) = stringifyItems items
  | [] => rfl
  | [v] => render_tokens v
  | v :: w :: rest => by
    simp [itemTokens, stringifyItems, Token.render, render_tokens v, render_itemTokens (w :: rest)]

theorem render_memberTokens : ∀ members : List (JsString × Value),
    render (memberTokens members) = stringifyMembers members
  | [] => rfl
  | [(k, v)] => by simp [memberTokens, stringifyMembers, Token.render, render_tokens v]
  | (k, v) :: m :: rest => by
    simp [memberTokens, stringifyMembers, Token.render, render_tokens v, render_memberTokens (m :: rest)]

end

/-- What separates the values of a JSON text: a comma or a closing bracket. -/
def Token.Closes : Token → Prop
  | .mark unit => unit = 0x2C ∨ unit = 0x5D ∨ unit = 0x7D
  | _ => False

/-- A unit of a number or of `null`, `true` and `false`. -/
def isWordUnit (u : UInt16) : Bool :=
  isNumberUnit u || 0x61 ≤ u

/-- A token that stands in the text of a value with the given keys. -/
def Token.StandsIn (names : List JsString) : Token → Prop
  | .mark unit => unit = 0x5B ∨ unit = 0x7B ∨ unit = 0x2C ∨ unit = 0x5D ∨ unit = 0x7D
  | .word units => units.all isWordUnit = true
  | .quoted _ => True
  | .key s => s ∈ names

/-- A word or a quoted string is followed by what separates values. -/
def Token.Precedes : Token → Token → Prop
  | .word _, u => u.Closes
  | .quoted _, u => u.Closes
  | _, _ => True

theorem Token.StandsIn.mono {names more : List JsString} {t : Token} (h : t.StandsIn names) (hsub : names ⊆ more) :
    t.StandsIn more := by
  cases t with
  | key s => exact hsub h
  | mark _ | word _ | quoted _ => exact h

theorem Token.precedes_of_closes {u : Token} (h : u.Closes) : ∀ t : Token, t.Precedes u
  | .mark _ => trivial
  | .word _ => h
  | .quoted _ => h
  | .key _ => trivial

/-- Tokens in an order in which they can stand. -/
abbrev Chained (ts : List Token) : Prop :=
  ts.IsChain Token.Precedes

theorem chained_append_closing {ts us : List Token} {u : Token} (hts : Chained ts) (hu : u.Closes)
    (hus : Chained (u :: us)) : Chained (ts ++ u :: us) := by
  refine List.isChain_append.mpr ⟨hts, hus, ?_⟩
  intro t _ head hhead
  cases hhead
  exact Token.precedes_of_closes hu t

theorem closes_comma : (Token.mark 0x2C).Closes := Or.inl rfl

theorem chained_cons_mark {unit : UInt16} {ts : List Token} (h : Chained ts) : Chained (.mark unit :: ts) :=
  List.isChain_cons.mpr ⟨fun _ _ => trivial, h⟩

theorem chained_cons_key {s : JsString} {ts : List Token} (h : Chained ts) : Chained (.key s :: ts) :=
  List.isChain_cons.mpr ⟨fun _ _ => trivial, h⟩

mutual

theorem chained_tokens : ∀ v : Value, Chained (tokens v)
  | .null => List.isChain_singleton _
  | .bool _ => List.isChain_singleton _
  | .num _ => List.isChain_singleton _
  | .str _ => List.isChain_singleton _
  | .arr items => chained_cons_mark
      (chained_append_closing (chained_itemTokens items) (Or.inr (Or.inl rfl)) (List.isChain_singleton _))
  | .obj members => chained_cons_mark
      (chained_append_closing (chained_memberTokens members) (Or.inr (Or.inr rfl)) (List.isChain_singleton _))

theorem chained_itemTokens : ∀ items : List Value, Chained (itemTokens items)
  | [] => List.isChain_nil
  | [v] => chained_tokens v
  | v :: w :: rest =>
    chained_append_closing (chained_tokens v) closes_comma (chained_cons_mark (chained_itemTokens (w :: rest)))

theorem chained_memberTokens : ∀ members : List (JsString × Value), Chained (memberTokens members)
  | [] => List.isChain_nil
  | [(_, v)] => chained_cons_key (chained_tokens v)
  | (_, v) :: m :: rest => chained_cons_key
      (chained_append_closing (chained_tokens v) closes_comma (chained_cons_mark (chained_memberTokens (m :: rest))))

end

/-- Every token of a list stands in the text of a value with the given keys. -/
def AllStandIn (names : List JsString) (ts : List Token) : Prop :=
  ∀ t ∈ ts, t.StandsIn names

theorem AllStandIn.mono {names more : List JsString} {ts : List Token} (h : AllStandIn names ts)
    (hsub : names ⊆ more) : AllStandIn more ts :=
  fun t ht => (h t ht).mono hsub

theorem AllStandIn.append {names : List JsString} {ts us : List Token} (hts : AllStandIn names ts)
    (hus : AllStandIn names us) : AllStandIn names (ts ++ us) := by
  intro t ht
  obtain ht | ht := List.mem_append.mp ht
  · exact hts t ht
  · exact hus t ht

theorem AllStandIn.cons {names : List JsString} {t : Token} {ts : List Token} (ht : t.StandsIn names)
    (hts : AllStandIn names ts) : AllStandIn names (t :: ts) := by
  intro u hu
  obtain rfl | hu := List.mem_cons.mp hu
  · exact ht
  · exact hts u hu

theorem allStandIn_nil {names : List JsString} : AllStandIn names [] := by
  intro t ht
  cases ht

theorem allStandIn_singleton {names : List JsString} {t : Token} (ht : t.StandsIn names) : AllStandIn names [t] :=
  allStandIn_nil.cons ht

theorem standsIn_number {names : List JsString} {n : Number} (h : n.Canonical) :
    (Token.word (stringify (.num n))).StandsIn names := by
  have hall : (stringifyNumber n).all isNumberUnit = true := stringifyNumber_all h
  refine List.all_eq_true.mpr ?_
  intro u hu
  rw [isWordUnit, List.all_eq_true.mp hall u hu, Bool.true_or]

theorem standsIn_keyword {names : List JsString} : (Token.word (stringify .null)).StandsIn names ∧
    (Token.word (stringify (.bool true))).StandsIn names ∧ (Token.word (stringify (.bool false))).StandsIn names := by
  have hwords : (stringify .null).all isWordUnit = true ∧ (stringify (.bool true)).all isWordUnit = true ∧
      (stringify (.bool false)).all isWordUnit = true := by
    decide
  exact hwords

mutual

theorem allStandIn_tokens : ∀ v : Value, v.Canonical → AllStandIn (keys v) (tokens v)
  | .null, _ => allStandIn_singleton standsIn_keyword.1
  | .bool true, _ => allStandIn_singleton standsIn_keyword.2.1
  | .bool false, _ => allStandIn_singleton standsIn_keyword.2.2
  | .num _, h => allStandIn_singleton (standsIn_number h)
  | .str _, _ => allStandIn_singleton trivial
  | .arr items, h => by
    have hitems : AllStandIn (itemKeys items) (itemTokens items) := allStandIn_itemTokens items h
    exact (hitems.append (allStandIn_singleton (by simp [Token.StandsIn]))).cons (by simp [Token.StandsIn])
  | .obj members, h => by
    have hmembers : AllStandIn (memberKeys members) (memberTokens members) := allStandIn_memberTokens members h.2
    exact (hmembers.append (allStandIn_singleton (by simp [Token.StandsIn]))).cons (by simp [Token.StandsIn])

theorem allStandIn_itemTokens : ∀ items : List Value, CanonicalItems items →
    AllStandIn (itemKeys items) (itemTokens items)
  | [], _ => allStandIn_nil
  | [v], h => (allStandIn_tokens v h.1).mono (List.subset_append_left _ _)
  | v :: w :: rest, h => by
    have hv : AllStandIn (itemKeys (v :: w :: rest)) (tokens v) :=
      (allStandIn_tokens v h.1).mono (List.subset_append_left _ _)
    have hrest : AllStandIn (itemKeys (v :: w :: rest)) (itemTokens (w :: rest)) :=
      (allStandIn_itemTokens (w :: rest) h.2).mono (List.subset_append_right _ _)
    exact hv.append (hrest.cons (by simp [Token.StandsIn]))

theorem allStandIn_memberTokens : ∀ members : List (JsString × Value), CanonicalMembers members →
    AllStandIn (memberKeys members) (memberTokens members)
  | [], _ => allStandIn_nil
  | [(k, v)], h => by
    have hv : AllStandIn (memberKeys [(k, v)]) (tokens v) :=
      (allStandIn_tokens v h.1).mono (List.subset_cons_of_subset k (List.subset_append_left _ _))
    exact hv.cons List.mem_cons_self
  | (k, v) :: m :: rest, h => by
    have hv : AllStandIn (memberKeys ((k, v) :: m :: rest)) (tokens v) :=
      (allStandIn_tokens v h.1).mono (List.subset_cons_of_subset k (List.subset_append_left _ _))
    have hrest : AllStandIn (memberKeys ((k, v) :: m :: rest)) (memberTokens (m :: rest)) :=
      (allStandIn_memberTokens (m :: rest) h.2).mono (List.subset_cons_of_subset k (List.subset_append_right _ _))
    exact (hv.append (hrest.cons (by simp [Token.StandsIn]))).cons List.mem_cons_self

end

theorem render_split {ts : List Token} {a b : JsString} {u : UInt16} (h : render ts = a ++ u :: b) :
    ∃ before t after a' b', ts = before ++ t :: after ∧ t.render = a' ++ u :: b' ∧ a = render before ++ a' ∧
      b = b' ++ render after := by
  induction ts generalizing a with
  | nil => simp at h
  | cons t ts ih =>
    rw [render_cons] at h
    obtain ⟨a', ha, hrest⟩ | ⟨b', hb, hrest⟩ := List.append_eq_append_iff.mp h
    · obtain ⟨before, s, after, a'', b'', rfl, hs, rfl, rfl⟩ := ih hrest
      exact ⟨t :: before, s, after, a'', b'', rfl, hs, by rw [ha, render_cons, List.append_assoc], rfl⟩
    · cases b' with
      | nil =>
        obtain ⟨before, s, after, a'', b'', rfl, hs, ha, rfl⟩ := ih (a := []) hrest.symm
        refine ⟨t :: before, s, after, a'', b'', rfl, hs, ?_, rfl⟩
        rw [List.append_nil] at hb
        rw [render_cons, List.append_assoc, ← ha, List.append_nil, hb]
      | cons v b' =>
        rw [List.cons_append] at hrest
        obtain ⟨rfl, rfl⟩ := List.cons.inj hrest
        exact ⟨[], t, ts, a, b', rfl, hb, rfl, rfl⟩

theorem quote_not_mem_unicodeEscape (u : UInt16) : (0x22 : UInt16) ∉ unicodeEscape u := by
  have hdigit : ∀ n, n < 16 → hexDigit n ≠ 0x22 := by
    intro n hn
    interval_cases n <;> decide
  have hlt := u.toNat_lt
  simp only [unicodeEscape, List.mem_cons, List.not_mem_nil, or_false, not_or]
  exact ⟨by decide, by decide, (hdigit _ (by omega)).symm, (hdigit _ (by omega)).symm, (hdigit _ (by omega)).symm,
    (hdigit _ (by omega)).symm⟩

theorem quoteUnit_split {u : UInt16} {a b : JsString} (h : quoteUnit u = a ++ 0x22 :: b) : a = [0x5C] := by
  by_cases hquote : u = 0x22
  · subst hquote
    have hunit : quoteUnit 0x22 = [0x5C, 0x22] := by decide
    rw [hunit] at h
    cases a with
    | nil => cases h
    | cons x a' =>
      rw [List.cons_append] at h
      obtain ⟨rfl, h⟩ := List.cons.inj h
      cases a' with
      | nil => rfl
      | cons y a'' =>
        rw [List.cons_append] at h
        obtain ⟨-, h⟩ := List.cons.inj h
        simp at h
  · exfalso
    have hmem : (0x22 : UInt16) ∈ quoteUnit u := by
      rw [h]
      simp
    unfold quoteUnit at hmem
    rw [if_neg hquote] at hmem
    repeat' split at hmem
    all_goals first
      | exact quote_not_mem_unicodeEscape u hmem
      | simp at hmem
    exact hquote hmem.symm

theorem quoteUnits_split {s a b : JsString} (h : quoteUnits s = a ++ 0x22 :: b) : ∃ a', a = a' ++ [0x5C] := by
  induction s using quoteUnits.induct generalizing a with
  | case1 => simp [quoteUnits] at h
  | case2 u => exact ⟨[], quoteUnit_split h⟩
  | case3 u v rest hpair ih =>
    rw [quoteUnits, if_pos hpair] at h
    rw [Bool.and_eq_true] at hpair
    cases a with
    | nil =>
      obtain ⟨hu, -⟩ := List.cons.inj h
      rw [hu] at hpair
      exact absurd hpair.1 (by decide)
    | cons x a =>
      rw [List.cons_append] at h
      obtain ⟨hx, h⟩ := List.cons.inj h
      cases a with
      | nil =>
        obtain ⟨hv, -⟩ := List.cons.inj h
        rw [hv] at hpair
        exact absurd hpair.2 (by decide)
      | cons y a =>
        rw [List.cons_append] at h
        obtain ⟨hy, h⟩ := List.cons.inj h
        obtain ⟨a', rfl⟩ := ih h
        exact ⟨x :: y :: a', rfl⟩
  | case4 u v rest hpair ih =>
    rw [quoteUnits, if_neg hpair] at h
    obtain ⟨a', ha, hrest⟩ | ⟨b', hb, hrest⟩ := List.append_eq_append_iff.mp h
    · obtain ⟨a'', rfl⟩ := ih hrest
      exact ⟨quoteUnit u ++ a'', by rw [ha, List.append_assoc]⟩
    · cases b' with
      | nil =>
        obtain ⟨a'', ha⟩ := ih (a := []) hrest.symm
        simp at ha
      | cons w b' =>
        rw [List.cons_append] at hrest
        obtain ⟨rfl, -⟩ := List.cons.inj hrest
        exact ⟨[], quoteUnit_split hb⟩


theorem quote_split {s a b : JsString} (h : quote s = a ++ 0x22 :: b) :
    a = [] ∨ (∃ a', a = a' ++ [0x5C]) ∨ b = [] := by
  cases a with
  | nil => exact Or.inl rfl
  | cons x a =>
    right
    obtain ⟨rfl, hunits⟩ : 0x22 = x ∧ quoteUnits s ++ [0x22] = a ++ 0x22 :: b := List.cons.inj h
    obtain ⟨a', ha, hrest⟩ | ⟨b', hb, hrest⟩ := List.append_eq_append_iff.mp hunits
    · cases a' with
      | nil =>
        right
        simpa using hrest.symm
      | cons y a' => simp at hrest
    · cases b' with
      | nil =>
        right
        simpa using hrest
      | cons y b' =>
        rw [List.cons_append] at hrest
        obtain ⟨rfl, -⟩ := List.cons.inj hrest
        obtain ⟨a'', rfl⟩ := quoteUnits_split hb
        exact Or.inl ⟨0x22 :: a'', rfl⟩

/-- A small letter. -/
def IsLetter (u : UInt16) : Prop :=
  0x61 ≤ u ∧ u ≤ 0x7A

instance (u : UInt16) : Decidable (IsLetter u) :=
  inferInstanceAs (Decidable (0x61 ≤ u ∧ u ≤ 0x7A))

theorem not_isLetter {u : UInt16}
    (h : u ∈ [0x22, 0x5C, 0x3A, 0x5B, 0x7B, 0x2C, 0x5D, 0x7D]) : ¬ IsLetter u := by
  have hall : ([0x22, 0x5C, 0x3A, 0x5B, 0x7B, 0x2C, 0x5D, 0x7D] : List UInt16).all
      (fun u => ¬ IsLetter u) = true := by
    decide
  exact of_decide_eq_true (List.all_eq_true.mp hall u h)

variable {names : List JsString} {before after : List Token} {t : Token}

theorem no_letter_before (hchain : Chained (before ++ t :: after)) (hstands : AllStandIn names before)
    (hopens : ¬ t.Closes) {front : JsString} {c : UInt16} (hlast : render before = front ++ [c]) : ¬ IsLetter c := by
  obtain rfl | ⟨init, s, rfl⟩ := List.eq_nil_or_concat before
  · simp at hlast
  · have hprecedes : s.Precedes t := by
      obtain ⟨-, -, hrel⟩ := List.isChain_append.mp hchain
      exact hrel s (by simp) t (by simp)
    have hs : s.StandsIn names := hstands s (by simp)
    rw [List.concat_eq_append, render_append, render_cons, render_nil, List.append_nil] at hlast
    cases s with
    | mark unit =>
      obtain ⟨-, hunit⟩ := List.append_inj' hlast rfl
      obtain rfl := List.singleton_inj.mp hunit
      refine not_isLetter ?_
      have hmarks : unit = 0x5B ∨ unit = 0x7B ∨ unit = 0x2C ∨ unit = 0x5D ∨ unit = 0x7D := hs
      obtain rfl | rfl | rfl | rfl | rfl := hmarks <;> decide
    | word units => exact absurd hprecedes hopens
    | quoted s => exact absurd hprecedes hopens
    | key s =>
      rw [Token.render, ← List.append_assoc] at hlast
      obtain ⟨-, hunit⟩ := List.append_inj' hlast rfl
      obtain rfl := List.singleton_inj.mp hunit
      exact not_isLetter (by decide)

theorem no_colon_after {s : JsString} (hchain : Chained (before ++ .quoted s :: after))
    {isSpace : UInt16 → Bool} (hspace : ∀ u ∈ [0x2C, 0x5D, 0x7D], isSpace u = false) :
    ((render after).dropWhile isSpace).head? ≠ some 0x3A := by
  obtain ⟨-, hchain, -⟩ := List.isChain_append.mp hchain
  obtain ⟨hhead, -⟩ := List.isChain_cons.mp hchain
  cases after with
  | nil => exact fun h => by cases h
  | cons u rest =>
    have hcloses : u.Closes := hhead u rfl
    cases u with
    | mark unit =>
      have hunit : unit = 0x2C ∨ unit = 0x5D ∨ unit = 0x7D := hcloses
      have hkept : isSpace unit = false := hspace unit (by simpa using hunit)
      rw [render_cons, Token.render, List.singleton_append, List.dropWhile_cons_of_neg (by simp [hkept]),
        List.head?_cons]
      obtain rfl | rfl | rfl := hunit <;> decide
    | word _ | quoted _ | key _ => exact absurd hcloses id

/-- What looks like a member name in the text of a value is the end of a key. -/
theorem member_name_of_key {v : Value} (hv : v.Canonical) {name : JsString} (hne : name ≠ [])
    (hletters : ∀ u ∈ name, IsLetter u) {a b : JsString} (h : stringify v = a ++ 0x22 :: name ++ 0x22 :: b)
    {isSpace : UInt16 → Bool} (hspace : ∀ u ∈ [0x2C, 0x5D, 0x7D], isSpace u = false)
    (hcolon : (b.dropWhile isSpace).head? = some 0x3A) :
    ∃ k ∈ keys v, 0x22 :: name ++ [0x22] <:+ quote k := by
  rw [← render_tokens] at h
  obtain ⟨before, t, after, a', b', hts, ht, ha, hb⟩ := render_split h
  have hchain := chained_tokens v
  have hstands := allStandIn_tokens v hv
  rw [hts] at hchain hstands
  have hbefore : AllStandIn (keys v) before := fun s hs => hstands s (List.mem_append_left _ hs)
  have htoken : t.StandsIn (keys v) := hstands t (by simp)
  obtain ⟨front, c, rfl⟩ : ∃ front c, name = front ++ [c] := by
    obtain hnil | ⟨front, c, hname⟩ := List.eq_nil_or_concat name
    · exact absurd hnil hne
    · exact ⟨front, c, by rw [hname, List.concat_eq_append]⟩
  have hc : IsLetter c := hletters c (by simp)
  have hquote : ∀ {s : JsString} {rest : JsString}, ¬ t.Closes → quote s = a' ++ 0x22 :: rest → rest = [] := by
    intro s rest hopens hs
    obtain rfl | ⟨a'', rfl⟩ | hrest := quote_split hs
    · rw [List.append_nil, ← List.cons_append, ← List.append_assoc] at ha
      exact absurd hc (no_letter_before hchain hbefore hopens ha.symm)
    · rw [← List.cons_append, ← List.append_assoc, ← List.append_assoc] at ha
      obtain ⟨-, hunit⟩ := List.append_inj' ha rfl
      rw [List.singleton_inj.mp hunit] at hc
      exact absurd hc (not_isLetter (by decide))
    · exact hrest
  cases t with
  | mark unit =>
    exfalso
    have hunit : unit = 0x22 := by
      cases a' with
      | nil => exact (List.cons.inj ht).1
      | cons x a' => simp [Token.render] at ht
    rw [hunit] at htoken
    exact absurd htoken (by simp [Token.StandsIn])
  | word units =>
    exfalso
    have hunits : units = a' ++ 0x22 :: b' := ht
    have hmem : (0x22 : UInt16) ∈ units := by rw [hunits]; simp
    have hquoteUnit := List.all_eq_true.mp htoken 0x22 hmem
    exact absurd hquoteUnit (by decide)
  | quoted s =>
    exfalso
    obtain rfl := hquote id ht
    rw [hb, List.nil_append] at hcolon
    exact no_colon_after hchain hspace hcolon
  | key s =>
    have hkey : ∃ rest, quote s = a' ++ 0x22 :: rest := by
      have hrender : quote s ++ [0x3A] = a' ++ 0x22 :: b' := ht
      obtain rfl | ⟨rest, last, rfl⟩ := List.eq_nil_or_concat b'
      · obtain ⟨-, hunit⟩ := List.append_inj' hrender rfl
        exact absurd (List.singleton_inj.mp hunit) (by decide)
      · rw [List.concat_eq_append, ← List.cons_append, ← List.append_assoc] at hrender
        exact ⟨rest, (List.append_inj' hrender rfl).1⟩
    obtain ⟨rest, hkey⟩ := hkey
    obtain rfl := hquote id hkey
    refine ⟨s, htoken, ?_⟩
    have hfull : 0x22 :: (front ++ [c]) <:+ render before ++ a' := ⟨a, ha⟩
    have hpart : a' <:+ render before ++ a' := List.suffix_append _ _
    have hsuffix : 0x22 :: (front ++ [c]) <:+ a' := by
      obtain hsuffix | hsuffix := List.suffix_or_suffix_of_suffix hfull hpart
      · exact hsuffix
      · obtain heq | hsuffix := List.suffix_cons_iff.mp hsuffix
        · rw [heq]
        · cases a' with
          | nil => exact absurd hkey (by simp [quote])
          | cons x a' =>
            obtain ⟨rfl, -⟩ : 0x22 = x ∧ _ := List.cons.inj hkey
            have hmem : (0x22 : UInt16) ∈ front ++ [c] := hsuffix.subset List.mem_cons_self
            exact absurd (hletters _ hmem) (not_isLetter (by decide))
    rw [hkey]
    obtain ⟨more, hmore⟩ := hsuffix
    exact ⟨more, by rw [← hmore, List.append_assoc]⟩

theorem mem_itemKeys {items : List Value} {k : JsString} : k ∈ itemKeys items ↔ ∃ item ∈ items, k ∈ keys item := by
  induction items with
  | nil => simp [itemKeys]
  | cons item items ih => simp only [itemKeys, List.mem_append, ih, List.mem_cons, exists_eq_or_imp]

theorem mem_memberKeys {members : List (JsString × Value)} {k : JsString} :
    k ∈ memberKeys members ↔ ∃ member ∈ members, k = member.1 ∨ k ∈ keys member.2 := by
  induction members with
  | nil => simp [memberKeys]
  | cons member members ih =>
    simp only [memberKeys, List.mem_cons, List.mem_append, ih, exists_eq_or_imp, or_assoc]

end json
