import Mathlib.Data.List.Forall2

namespace checks

variable {ε α β : Type}

theorem bind_eq_ok {check : Except ε α} {next : α → Except ε β} {b : β} :
    check >>= next = .ok b ↔ ∃ a, check = .ok a ∧ next a = .ok b := by
  cases check with
  | error reason =>
    constructor
    · exact fun h => by cases h
    · rintro ⟨a, h, -⟩
      cases h
  | ok a =>
    constructor
    · exact fun h => ⟨a, rfl, h⟩
    · rintro ⟨a', h, hnext⟩
      cases h
      exact hnext

theorem map_eq_ok {check : Except ε α} {f : α → β} {b : β} :
    check.map f = .ok b ↔ ∃ a, check = .ok a ∧ f a = b := by
  cases check with
  | error reason =>
    constructor
    · exact fun h => by cases h
    · rintro ⟨a, h, -⟩
      cases h
  | ok a =>
    constructor
    · intro h
      cases h
      exact ⟨a, rfl, rfl⟩
    · rintro ⟨a', h, rfl⟩
      cases h
      rfl

theorem mapM_eq_ok {items : List α} {check : α → Except ε β} {results : List β} :
    items.mapM check = .ok results ↔ List.Forall₂ (fun item result => check item = .ok result) items results := by
  induction items generalizing results with
  | nil =>
    rw [List.mapM_nil, List.forall₂_nil_left_iff]
    exact ⟨fun h => (Except.ok.inj h).symm, fun h => congrArg Except.ok h.symm⟩
  | cons item items ih =>
    rw [List.mapM_cons, bind_eq_ok, List.forall₂_cons_left_iff]
    constructor
    · rintro ⟨result, hresult, h⟩
      obtain ⟨rest, hrest, h⟩ := bind_eq_ok.mp h
      cases h
      exact ⟨result, rest, hresult, ih.mp hrest, rfl⟩
    · rintro ⟨result, rest, hresult, hrest, rfl⟩
      exact ⟨result, hresult, bind_eq_ok.mpr ⟨rest, ih.mpr hrest, rfl⟩⟩

theorem forall₂_exists_right {R : α → β → Prop} {items : List α} {results : List β} (h : List.Forall₂ R items results)
    {item : α} (hitem : item ∈ items) : ∃ result ∈ results, R item result := by
  induction h with
  | nil => cases hitem
  | cons hfirst _ ih =>
    rcases List.mem_cons.mp hitem with rfl | hitem
    · exact ⟨_, List.mem_cons_self, hfirst⟩
    · obtain ⟨result, hresult, hR⟩ := ih hitem
      exact ⟨result, List.mem_cons_of_mem _ hresult, hR⟩

theorem exists_mapM_eq_ok {items : List α} {check : α → Except ε β} :
    (∃ results, items.mapM check = .ok results) ↔ ∀ item ∈ items, ∃ result, check item = .ok result := by
  simp only [mapM_eq_ok]
  induction items with
  | nil => exact ⟨fun _ item hitem => absurd hitem List.not_mem_nil, fun _ => ⟨[], .nil⟩⟩
  | cons item items ih =>
    rw [List.forall_mem_cons, ← ih]
    constructor
    · rintro ⟨results, h⟩
      obtain ⟨result, rest, hresult, hrest, -⟩ := List.forall₂_cons_left_iff.mp h
      exact ⟨⟨result, hresult⟩, rest, hrest⟩
    · rintro ⟨⟨result, hresult⟩, rest, hrest⟩
      exact ⟨result :: rest, .cons hresult hrest⟩

end checks
