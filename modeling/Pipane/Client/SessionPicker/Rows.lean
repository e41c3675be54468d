import Pipane.Client.SessionPicker

open javascript

namespace pipane.session_picker

/-! Links to parents. -/

section

variable {sessions : List SessionInfoDTO}

theorem get?_byKey (hkeys : (sessions.map SessionInfoDTO.key).Nodup) {key : JsString} {s : SessionInfoDTO} :
    (byKey sessions).get? key = some s ↔ s ∈ sessions ∧ s.key = key := by
  induction sessions using List.reverseRecOn with
  | nil => exact iff_of_false (fun h => by cases h) fun h => List.not_mem_nil h.1
  | append_singleton sessions last ih =>
    rw [List.map_append, List.nodup_append] at hkeys
    obtain ⟨hbefore, -, hlast⟩ := hkeys
    rw [byKey, List.foldl_append, List.foldl_cons, List.foldl_nil, OrderedMap.get?_set, List.mem_append,
      List.mem_singleton]
    split
    · rename_i hkey
      rw [Option.some.injEq]
      constructor
      · rintro rfl
        exact ⟨.inr rfl, hkey.symm⟩
      · rintro ⟨hmem | hmem, hsame⟩
        · refine absurd (hsame.trans hkey) (hlast _ (List.mem_map_of_mem hmem) _ ?_)
          exact List.mem_singleton_self _
        · exact hmem.symm
    · rename_i hkey
      refine (ih hbefore).trans ⟨fun h => ⟨.inl h.1, h.2⟩, fun h => ⟨h.1.resolve_right ?_, h.2⟩⟩
      rintro rfl
      exact hkey h.2.symm

theorem session_mem (hkeys : (sessions.map SessionInfoDTO.key).Nodup) (key : Known sessions) :
    session sessions key ∈ sessions ∧ (session sessions key).key = key.1 :=
  (get?_byKey hkeys).mp (Option.some_get key.2).symm

theorem eq_of_key (hkeys : (sessions.map SessionInfoDTO.key).Nodup) {s t : SessionInfoDTO} (hs : s ∈ sessions)
    (ht : t ∈ sessions) (hkey : s.key = t.key) : s = t := by
  have hfound := (get?_byKey hkeys).mpr ⟨hs, hkey⟩
  rw [(get?_byKey hkeys).mpr ⟨ht, rfl⟩] at hfound
  exact (Option.some.inj hfound).symm

/-- How many links lead from a session to one without a parent in the group. -/
inductive Height (sessions : List SessionInfoDTO) : SessionInfoDTO → Nat → Prop
  | top {s : SessionInfoDTO} (h : parentKey sessions s = none) : Height sessions s 0
  | step {s : SessionInfoDTO} {key : Known sessions} {n : Nat} (h : parentKey sessions s = some key)
      (hparent : Height sessions (session sessions key) n) : Height sessions s (n + 1)

namespace Height

theorem unique {s : SessionInfoDTO} {n m : Nat} (h : Height sessions s n) (h' : Height sessions s m) : n = m := by
  induction h generalizing m with
  | top hnone =>
    cases h' with
    | top => rfl
    | step hsome =>
      rw [hnone] at hsome
      cases hsome
  | step hsome _ ih =>
    cases h' with
    | top hnone =>
      rw [hsome] at hnone
      cases hnone
    | step hsome' hparent' =>
      rw [hsome, Option.some.injEq] at hsome'
      subst hsome'
      rw [ih hparent']

theorem lt_length (hkeys : (sessions.map SessionInfoDTO.key).Nodup) {s : SessionInfoDTO} {n : Nat}
    (h : Height sessions s n) (hs : s ∈ sessions) : n < sessions.length := by
  have hway : ∃ way : List SessionInfoDTO, way.length = n + 1 ∧ way.Nodup ∧ way ⊆ sessions ∧
      ∀ t ∈ way, ∃ m ≤ n, Height sessions t m := by
    induction h with
    | @top s hnone =>
      refine ⟨[s], rfl, List.nodup_singleton s, fun t ht => ?_, fun t ht => ⟨0, Nat.le_refl 0, ?_⟩⟩
      · rwa [List.mem_singleton.mp ht]
      · rw [List.mem_singleton.mp ht]
        exact .top hnone
    | @step s key n hsome hparent ih =>
      obtain ⟨way, hlength, hnodup, hsub, hheights⟩ := ih (session_mem hkeys key).1
      refine ⟨s :: way, by rw [List.length_cons, hlength], List.nodup_cons.mpr ⟨fun hmem => ?_, hnodup⟩,
        List.cons_subset.mpr ⟨hs, hsub⟩, fun t ht => ?_⟩
      · obtain ⟨m, hle, hm⟩ := hheights s hmem
        have heq := (Height.step hsome hparent).unique hm
        omega
      · rcases List.mem_cons.mp ht with rfl | ht
        · exact ⟨n + 1, Nat.le_refl _, .step hsome hparent⟩
        · obtain ⟨m, hle, hm⟩ := hheights t ht
          exact ⟨m, Nat.le_succ_of_le hle, hm⟩
  obtain ⟨way, hlength, hnodup, hsub, -⟩ := hway
  have hle := (hnodup.subperm hsub).length_le
  omega

end Height

theorem height_of_climb {seen : List JsString} {key : Option (Known sessions)} (h : climb sessions seen key = false) :
    ∀ k, key = some k → ∃ n, Height sessions (session sessions k) n := by
  fun_induction climb sessions seen key with
  | case1 => intro k hk; cases hk
  | case2 => cases h
  | case3 seen key hunseen ih =>
    intro k hk
    cases hk
    cases hparent : parentKey sessions (session sessions key) with
    | none => exact ⟨0, .top hparent⟩
    | some parent =>
      obtain ⟨n, hn⟩ := ih h parent hparent
      exact ⟨n + 1, .step hparent hn⟩

theorem climb_of_height (hkeys : (sessions.map SessionInfoDTO.key).Nodup) {seen : List JsString}
    {key : Option (Known sessions)}
    (h : ∀ k, key = some k → ∃ n, Height sessions (session sessions k) n ∧
      ∀ t ∈ sessions, t.key ∈ seen → ∃ m, n < m ∧ Height sessions t m) : climb sessions seen key = false := by
  fun_induction climb sessions seen key with
  | case1 => rfl
  | case2 seen key hseen =>
    obtain ⟨n, hn, habove⟩ := h key rfl
    obtain ⟨hmem, hkey⟩ := session_mem hkeys key
    obtain ⟨m, hlt, hm⟩ := habove _ hmem (by rw [hkey]; exact hseen)
    have heq := hn.unique hm
    omega
  | case3 seen key hunseen ih =>
    obtain ⟨n, hn, habove⟩ := h key rfl
    refine ih fun parent hparent => ?_
    cases hn with
    | top hnone =>
      rw [hparent] at hnone
      cases hnone
    | @step _ parent' n hsome hup =>
      rw [hparent, Option.some.injEq] at hsome
      subst hsome
      refine ⟨n, hup, fun t ht hseen => ?_⟩
      rcases List.mem_append.mp hseen with hseen | hlast
      · obtain ⟨m, hlt, hm⟩ := habove t ht hseen
        exact ⟨m, by omega, hm⟩
      · obtain ⟨hmem, hkey⟩ := session_mem hkeys key
        rw [eq_of_key hkeys ht hmem ((List.mem_singleton.mp hlast).trans hkey.symm)]
        exact ⟨n + 1, Nat.lt_succ_self n, .step hparent hup⟩

theorem hasCycle_eq_false_iff (hkeys : (sessions.map SessionInfoDTO.key).Nodup) {s : SessionInfoDTO}
    (hs : s ∈ sessions) : hasCycle sessions s = false ↔ ∃ n, Height sessions s n := by
  constructor
  · intro h
    cases hparent : parentKey sessions s with
    | none => exact ⟨0, .top hparent⟩
    | some parent =>
      obtain ⟨n, hn⟩ := height_of_climb h parent hparent
      exact ⟨n + 1, .step hparent hn⟩
  · rintro ⟨n, hn⟩
    refine climb_of_height hkeys fun parent hparent => ?_
    cases hn with
    | top hnone =>
      rw [hparent] at hnone
      cases hnone
    | @step _ parent' n hsome hup =>
      rw [hparent, Option.some.injEq] at hsome
      subst hsome
      refine ⟨n, hup, fun t ht hseen => ⟨n + 1, Nat.lt_succ_self n, ?_⟩⟩
      rw [eq_of_key hkeys ht hs (List.mem_singleton.mp hseen)]
      exact .step hparent hup

end

/-! The tree. -/

section

variable (sessions : List SessionInfoDTO)

def isRoot (s : SessionInfoDTO) : Bool :=
  (parentKey sessions s).isNone || hasCycle sessions s

def isKidOf (key : JsString) (s : SessionInfoDTO) : Bool :=
  (parentKey sessions s).any (·.1 = key) && !hasCycle sessions s

theorem roots_foldl (placed : List SessionInfoDTO) :
    (placed.foldl (place sessions) {}).roots = placed.filter (isRoot sessions) := by
  induction placed using List.reverseRecOn with
  | nil => rfl
  | append_singleton placed s ih =>
    rw [List.foldl_append, List.foldl_cons, List.foldl_nil, List.filter_append, place]
    cases hparent : parentKey sessions s with
    | none =>
      have hroot : isRoot sessions s = true := by rw [isRoot, hparent]; rfl
      rw [List.filter_cons_of_pos hroot]
      exact congrArg (· ++ [s]) ih
    | some parent =>
      dsimp only
      split
      · rename_i hcycle
        have hroot : isRoot sessions s = true := by rw [isRoot, hcycle, Bool.or_true]
        rw [List.filter_cons_of_pos hroot]
        exact congrArg (· ++ [s]) ih
      · rename_i hcycle
        have hroot : ¬ isRoot sessions s = true := by
          rw [isRoot, hparent, Bool.eq_false_iff.mpr hcycle]
          exact Bool.false_ne_true
        rw [List.filter_cons_of_neg hroot, List.filter_nil, List.append_nil]
        exact ih

theorem kids_foldl (placed : List SessionInfoDTO) (key : JsString) :
    ((placed.foldl (place sessions) {}).children.get? key).getD [] = placed.filter (isKidOf sessions key) := by
  induction placed using List.reverseRecOn with
  | nil => rfl
  | append_singleton placed s ih =>
    rw [List.foldl_append, List.foldl_cons, List.foldl_nil, List.filter_append, place]
    cases hparent : parentKey sessions s with
    | none =>
      have hkid : ¬ isKidOf sessions key s = true := by rw [isKidOf, hparent]; exact Bool.false_ne_true
      rw [List.filter_cons_of_neg hkid, List.filter_nil, List.append_nil]
      exact ih
    | some parent =>
      dsimp only
      split
      · rename_i hcycle
        have hkid : ¬ isKidOf sessions key s = true := by
          rw [isKidOf, hcycle, Bool.not_true, Bool.and_false]
          exact Bool.false_ne_true
        rw [List.filter_cons_of_neg hkid, List.filter_nil, List.append_nil]
        exact ih
      · rename_i hcycle
        rw [OrderedMap.get?_set]
        by_cases hsame : key = parent.1
        · have hkid : isKidOf sessions key s = true := by
            rw [isKidOf, hparent, Bool.eq_false_iff.mpr hcycle, Option.any_some, decide_eq_true hsame.symm]
            rfl
          rw [if_pos hsame, List.filter_cons_of_pos hkid, ← ih, hsame]
          rfl
        · have hkid : ¬ isKidOf sessions key s = true := by
            rw [isKidOf, hparent, Option.any_some, decide_eq_false (Ne.symm hsame), Bool.false_and]
            exact Bool.false_ne_true
          rw [if_neg hsame, List.filter_cons_of_neg hkid, List.filter_nil, List.append_nil]
          exact ih

theorem roots_buildTree : (buildTree sessions).roots = sessions.filter (isRoot sessions) :=
  roots_foldl sessions sessions

theorem kids_buildTree (s : SessionInfoDTO) : (buildTree sessions).kids s = sessions.filter (isKidOf sessions s.key) :=
  kids_foldl sessions sessions s.key

end

/-! The forest. -/

section

variable {sessions : List SessionInfoDTO}

theorem mem_kids_iff {p c : SessionInfoDTO} :
    c ∈ (buildTree sessions).kids p ↔
      c ∈ sessions ∧ (∃ key, parentKey sessions c = some key ∧ key.1 = p.key) ∧ hasCycle sessions c = false := by
  rw [kids_buildTree, List.mem_filter, isKidOf, Bool.and_eq_true, Option.any_eq_true, Bool.not_eq_true']
  simp only [decide_eq_true_eq]

theorem mem_roots_iff {s : SessionInfoDTO} :
    s ∈ (buildTree sessions).roots ↔ s ∈ sessions ∧ (parentKey sessions s = none ∨ hasCycle sessions s = true) := by
  rw [roots_buildTree, List.mem_filter, isRoot, Bool.or_eq_true, Option.isNone_iff_eq_none]

theorem height_parent (hkeys : (sessions.map SessionInfoDTO.key).Nodup) {p c : SessionInfoDTO} (hp : p ∈ sessions)
    (hkid : c ∈ (buildTree sessions).kids p) : ∃ n, Height sessions p n ∧ Height sessions c (n + 1) := by
  obtain ⟨hc, ⟨key, hparent, hkey⟩, hcycle⟩ := mem_kids_iff.mp hkid
  obtain ⟨n, hn⟩ := (hasCycle_eq_false_iff hkeys hc).mp hcycle
  cases hn with
  | top hnone =>
    rw [hparent] at hnone
    cases hnone
  | @step _ key' n hsome hup =>
    rw [hparent, Option.some.injEq] at hsome
    subst hsome
    obtain ⟨hmem, hsame⟩ := session_mem hkeys key
    have hp' : session sessions key = p := eq_of_key hkeys hmem hp (hsame.trans hkey)
    exact ⟨n, hp' ▸ hup, .step hparent hup⟩

open Classical in
/-- The height of a session; it does not matter for one whose links lead into a cycle. -/
noncomputable def heightOf (sessions : List SessionInfoDTO) (s : SessionInfoDTO) : Nat :=
  if h : ∃ n, Height sessions s n then h.choose else 0

theorem heightOf_eq {s : SessionInfoDTO} {n : Nat} (h : Height sessions s n) : heightOf sessions s = n := by
  have hex : ∃ n, Height sessions s n := ⟨n, h⟩
  rw [heightOf, dif_pos hex]
  exact hex.choose_spec.unique h

theorem heightOf_lt (hkeys : (sessions.map SessionInfoDTO.key).Nodup) {s : SessionInfoDTO} (hs : s ∈ sessions) :
    heightOf sessions s < sessions.length := by
  rw [heightOf]
  split
  · rename_i hex
    exact hex.choose_spec.lt_length hkeys hs
  · exact List.length_pos_of_mem hs

/-- The sessions of a group with their children. -/
noncomputable def sessionForest (sessions : List SessionInfoDTO) (hkeys : (sessions.map SessionInfoDTO.key).Nodup) :
    Forest SessionInfoDTO where
  kids p := if p ∈ sessions then (buildTree sessions).kids p else []
  height := heightOf sessions
  nodup p := by
    split
    · rw [kids_buildTree]
      exact hkeys.of_map.filter _
    · exact List.nodup_nil
  unique {p p' c} hkid hkid' := by
    split at hkid
    · rename_i hp
      split at hkid'
      · rename_i hp'
        obtain ⟨-, ⟨key, hparent, hkey⟩, -⟩ := mem_kids_iff.mp hkid
        obtain ⟨-, ⟨key', hparent', hkey'⟩, -⟩ := mem_kids_iff.mp hkid'
        rw [hparent, Option.some.injEq] at hparent'
        rw [← hparent', hkey] at hkey'
        exact eq_of_key hkeys hp hp' hkey'
      · cases hkid'
    · cases hkid
  height_kid {p c} hkid := by
    split at hkid
    · rename_i hp
      obtain ⟨n, hn, hn'⟩ := height_parent hkeys hp hkid
      rw [heightOf_eq hn, heightOf_eq hn']
    · cases hkid

/-- A session stands in the tree below another, or is it. -/
def Tree.Below (tree : Tree) : SessionInfoDTO → SessionInfoDTO → Prop :=
  Relation.ReflTransGen fun p c => c ∈ tree.kids p

variable (hkeys : (sessions.map SessionInfoDTO.key).Nodup)

include hkeys

theorem kids_sessionForest {p : SessionInfoDTO} (hp : p ∈ sessions) :
    (sessionForest sessions hkeys).kids p = (buildTree sessions).kids p :=
  if_pos hp

theorem reaches_iff_below {p s : SessionInfoDTO} (hp : p ∈ sessions) :
    (sessionForest sessions hkeys).Reaches p s ↔ (buildTree sessions).Below p s ∧ s ∈ sessions := by
  constructor
  · intro h
    induction h with
    | refl => exact ⟨Relation.ReflTransGen.refl, hp⟩
    | tail _ hkid ih =>
      rw [kids_sessionForest hkeys ih.2] at hkid
      exact ⟨ih.1.tail hkid, (mem_kids_iff.mp hkid).1⟩
  · rintro ⟨h, -⟩
    have hboth : (sessionForest sessions hkeys).Reaches p s ∧ s ∈ sessions := by
      induction h with
      | refl => exact ⟨Relation.ReflTransGen.refl, hp⟩
      | tail _ hkid ih =>
        refine ⟨ih.1.tail ?_, (mem_kids_iff.mp hkid).1⟩
        rw [kids_sessionForest hkeys ih.2]
        exact hkid
    exact hboth.1

theorem isTop_of_mem_roots {s : SessionInfoDTO} (h : s ∈ (buildTree sessions).roots) :
    (sessionForest sessions hkeys).IsTop s := by
  obtain ⟨-, hroot⟩ := mem_roots_iff.mp h
  intro p hkid
  change s ∈ (if p ∈ sessions then (buildTree sessions).kids p else []) at hkid
  split at hkid
  · obtain ⟨-, ⟨key, hparent, -⟩, hcycle⟩ := mem_kids_iff.mp hkid
    rcases hroot with hnone | hcyclic
    · rw [hparent] at hnone
      cases hnone
    · rw [hcycle] at hcyclic
      cases hcyclic
  · cases hkid

theorem exists_root {s : SessionInfoDTO} (hs : s ∈ sessions) :
    ∃ root ∈ (buildTree sessions).roots, (buildTree sessions).Below root s := by
  by_cases hcycle : hasCycle sessions s = true
  · exact ⟨s, mem_roots_iff.mpr ⟨hs, .inr hcycle⟩, Relation.ReflTransGen.refl⟩
  · obtain ⟨n, hn⟩ := (hasCycle_eq_false_iff hkeys hs).mp (Bool.eq_false_iff.mpr hcycle)
    clear hcycle
    induction hn with
    | @top s hnone => exact ⟨s, mem_roots_iff.mpr ⟨hs, .inl hnone⟩, Relation.ReflTransGen.refl⟩
    | @step s key n hparent hup ih =>
      obtain ⟨hmem, hkey⟩ := session_mem hkeys key
      obtain ⟨root, hroot, hbelow⟩ := ih hmem
      refine ⟨root, hroot, hbelow.tail (mem_kids_iff.mpr ⟨hs, ⟨key, hparent, hkey.symm⟩, ?_⟩)⟩
      exact (hasCycle_eq_false_iff hkeys hs).mpr ⟨n + 1, .step hparent hup⟩

theorem fits_of_mem {s : SessionInfoDTO} (hs : s ∈ sessions) {fuel : Nat}
    (hfuel : sessions.length ≤ fuel + heightOf sessions s) : (sessionForest sessions hkeys).Fits fuel s := by
  intro x hx
  have hbound := heightOf_lt hkeys ((reaches_iff_below hkeys hs).mp hx).2
  change heightOf sessions x < heightOf sessions s + fuel
  omega

end

/-! The rows. -/

theorem anyM_eq_some {α : Type} {f : α → Option Bool} {l : List α} (h : ∀ x ∈ l, ∃ b, f x = some b) :
    ∃ b, l.anyM f = some b := by
  induction l with
  | nil => exact ⟨false, rfl⟩
  | cons x l ih =>
    obtain ⟨b, hb⟩ := h x List.mem_cons_self
    obtain ⟨c, hc⟩ := ih fun y hy => h y (List.mem_cons_of_mem x hy)
    rw [List.anyM, hb]
    cases b with
    | true => exact ⟨true, rfl⟩
    | false => exact ⟨c, hc⟩

theorem mapM_eq_some {α β : Type} {f : α → Option β} {l : List α} {P : α → β → Prop}
    (h : ∀ x ∈ l, ∃ y, f x = some y ∧ P x y) : ∃ ys, l.mapM f = some ys ∧ List.Forall₂ P l ys := by
  induction l with
  | nil => exact ⟨[], rfl, .nil⟩
  | cons x l ih =>
    obtain ⟨y, hy, hP⟩ := h x List.mem_cons_self
    obtain ⟨ys, hys, hall⟩ := ih fun z hz => h z (List.mem_cons_of_mem x hz)
    refine ⟨y :: ys, ?_, .cons hP hall⟩
    rw [List.mapM_cons, hy, hys]
    rfl

theorem map_flatten_of_forall₂ {α β γ : Type} {f : β → γ} {g : α → List γ} {l : List α} {lists : List (List β)}
    (h : List.Forall₂ (fun x list => list.map f = g x) l lists) : lists.flatten.map f = l.flatMap g := by
  induction h with
  | nil => rfl
  | cons hfirst _ ih => rw [List.flatten_cons, List.map_append, List.flatMap_cons, hfirst, ih]

section

variable {sessions : List SessionInfoDTO} (hkeys : (sessions.map SessionInfoDTO.key).Nodup)

include hkeys

theorem fits_kid {s kid : SessionInfoDTO} (hs : s ∈ sessions) (hkid : kid ∈ (buildTree sessions).kids s) {fuel : Nat}
    (hfits : (sessionForest sessions hkeys).Fits (fuel + 1) s) :
    kid ∈ sessions ∧ (sessionForest sessions hkeys).Fits fuel kid := by
  refine ⟨(mem_kids_iff.mp hkid).1, hfits.kid ?_⟩
  rwa [kids_sessionForest hkeys hs]

theorem subtreeMatches_total (predicate : SessionInfoDTO → Bool) {fuel : Nat} {s : SessionInfoDTO} (hs : s ∈ sessions)
    (hfits : (sessionForest sessions hkeys).Fits fuel s) :
    ∃ b, (buildTree sessions).subtreeMatches predicate fuel s = some b := by
  induction fuel generalizing s with
  | zero => exact absurd hfits.pos (Nat.lt_irrefl 0)
  | succ fuel ih =>
    rw [Tree.subtreeMatches]
    split
    · exact ⟨true, rfl⟩
    · refine anyM_eq_some fun kid hkid => ?_
      obtain ⟨hmem, hkidFits⟩ := fits_kid hkeys hs hkid hfits
      exact ih hmem hkidFits

theorem childrenExpanded_total (view : View) {fuel : Nat} {s : SessionInfoDTO} (hs : s ∈ sessions)
    (hfits : (sessionForest sessions hkeys).Fits (fuel + 1) s) :
    ∃ b, (buildTree sessions).childrenExpanded view fuel s = some b ∧
      (view.childVisibility.get? s.key = some true → b = true ∨ (buildTree sessions).kids s = []) := by
  rw [Tree.childrenExpanded]
  split
  · rename_i hnone
    exact ⟨false, rfl, fun _ => .inr hnone⟩
  split
  · rename_i visible hvisible
    refine ⟨visible, rfl, fun htrue => .inl ?_⟩
    rw [hvisible] at htrue
    exact Option.some.inj htrue
  · rename_i hunset
    obtain ⟨b, hb⟩ := anyM_eq_some (l := (buildTree sessions).kids s) fun kid hkid =>
      have hkidFits := fits_kid hkeys hs hkid hfits
      subtreeMatches_total hkeys (fun d => view.isRunning d || view.isActive d) hkidFits.1 hkidFits.2
    refine ⟨b, hb, fun htrue => ?_⟩
    rw [hunset] at htrue
    cases htrue

/-- The rows of a session come to an end; with everything expanded they show all that lies below it. -/
theorem visit_total (view : View) {fuel : Nat} {s : SessionInfoDTO} (hs : s ∈ sessions)
    (hfits : (sessionForest sessions hkeys).Fits fuel s) (depth : Nat) :
    ∃ rows, (buildTree sessions).visit view fuel s depth = some rows ∧
      ((∀ t ∈ sessions, view.childVisibility.get? t.key = some true) →
        rows.map SessionRow.session = (sessionForest sessions hkeys).flatten fuel s) := by
  induction fuel generalizing s depth with
  | zero => exact absurd hfits.pos (Nat.lt_irrefl 0)
  | succ fuel ih =>
    obtain ⟨b, hb, hexpanded⟩ := childrenExpanded_total hkeys view hs hfits
    rw [Tree.visit, hb, Forest.flatten, kids_sessionForest hkeys hs]
    dsimp only
    cases b with
    | false =>
      refine ⟨_, rfl, fun hall => ?_⟩
      rcases hexpanded (hall s hs) with hfalse | hnone
      · cases hfalse
      · rw [hnone]
        rfl
    | true =>
      obtain ⟨lists, hlists, hsame⟩ := mapM_eq_some (P := fun kid (rows : List SessionRow) =>
          (∀ t ∈ sessions, view.childVisibility.get? t.key = some true) →
            rows.map SessionRow.session = (sessionForest sessions hkeys).flatten fuel kid)
        fun kid hkid => ih (fits_kid hkeys hs hkid hfits).1 (fits_kid hkeys hs hkid hfits).2 (depth + 1)
      refine ⟨_, by rw [if_pos rfl, hlists]; rfl, fun hall => ?_⟩
      rw [List.map_cons, map_flatten_of_forall₂ (hsame.imp fun _ _ h => h hall)]

end

/-- Every session is a root once, or once the child of one session. -/
theorem placed_once {sessions : List SessionInfoDTO} (hkeys : (sessions.map SessionInfoDTO.key).Nodup) :
    ((buildTree sessions).roots ++ sessions.flatMap (buildTree sessions).kids).Perm sessions := by
  have hnodup : sessions.Nodup := hkeys.of_map
  refine (List.perm_ext_iff_of_nodup (List.nodup_append.mpr ⟨?_, List.nodup_flatMap.mpr ⟨fun p _ => ?_, ?_⟩, ?_⟩)
    hnodup).mpr fun s => ?_
  · rw [roots_buildTree]
    exact hnodup.filter _
  · rw [kids_buildTree]
    exact hnodup.filter _
  · refine hnodup.imp_of_mem fun {p p'} hp hp' hne => ?_
    intro c hkid hkid'
    rw [← kids_sessionForest hkeys hp] at hkid
    rw [← kids_sessionForest hkeys hp'] at hkid'
    exact hne ((sessionForest sessions hkeys).unique hkid hkid')
  · rintro root hroot _ hmem rfl
    obtain ⟨p, hp, hkid⟩ := List.mem_flatMap.mp hmem
    rw [← kids_sessionForest hkeys hp] at hkid
    exact isTop_of_mem_roots hkeys hroot p hkid
  · rw [List.mem_append, List.mem_flatMap]
    constructor
    · rintro (hroot | ⟨p, -, hkid⟩)
      · exact (mem_roots_iff.mp hroot).1
      · exact (mem_kids_iff.mp hkid).1
    · intro hs
      by_cases hcycle : hasCycle sessions s = true
      · exact .inl (mem_roots_iff.mpr ⟨hs, .inr hcycle⟩)
      cases hparent : parentKey sessions s with
      | none => exact .inl (mem_roots_iff.mpr ⟨hs, .inl hparent⟩)
      | some key =>
        obtain ⟨hmem, hkey⟩ := session_mem hkeys key
        exact .inr ⟨_, hmem, mem_kids_iff.mpr ⟨hs, ⟨key, hparent, hkey.symm⟩, Bool.eq_false_iff.mpr hcycle⟩⟩

/-- Whatever the parent links of a group of sessions with distinct keys are: every session is a root or the child of
    exactly one session, it stands below exactly one root, the rows of every root come to an end, and with everything
    expanded they show every session once. -/
theorem session_forest (sessions : List SessionInfoDTO) (hkeys : (sessions.map SessionInfoDTO.key).Nodup) :
    ((buildTree sessions).roots ++ sessions.flatMap (buildTree sessions).kids).Perm sessions ∧
    (∀ s ∈ sessions, ∃! root, root ∈ (buildTree sessions).roots ∧ (buildTree sessions).Below root s) ∧
    ∀ view fuel, sessions.length ≤ fuel →
      ∃ rows, (buildTree sessions).roots.mapM ((buildTree sessions).rows view fuel) = some rows ∧
        ((∀ s ∈ sessions, view.childVisibility.get? s.key = some true) →
          (rows.flatten.map SessionRow.session).Perm sessions) := by
  have hnodup : sessions.Nodup := hkeys.of_map
  have hrootsNodup : (buildTree sessions).roots.Nodup := by
    rw [roots_buildTree]
    exact hnodup.filter _
  have hrootMem : ∀ root ∈ (buildTree sessions).roots, root ∈ sessions := fun root hroot => (mem_roots_iff.mp hroot).1
  refine ⟨placed_once hkeys, fun s hs => ?_, fun view fuel hfuel => ?_⟩
  · obtain ⟨root, hroot, hbelow⟩ := exists_root hkeys hs
    refine ⟨root, ⟨hroot, hbelow⟩, ?_⟩
    rintro other ⟨hother, hotherBelow⟩
    exact Forest.top_unique ((reaches_iff_below hkeys (hrootMem other hother)).mpr ⟨hotherBelow, hs⟩)
      ((reaches_iff_below hkeys (hrootMem root hroot)).mpr ⟨hbelow, hs⟩) (isTop_of_mem_roots hkeys hother)
      (isTop_of_mem_roots hkeys hroot)
  · have hfits : ∀ root ∈ (buildTree sessions).roots, (sessionForest sessions hkeys).Fits fuel root :=
      fun root hroot => fits_of_mem hkeys (hrootMem root hroot) (by omega)
    obtain ⟨rows, hrows, hsame⟩ := mapM_eq_some (P := fun root (rows : List SessionRow) =>
        (∀ t ∈ sessions, view.childVisibility.get? t.key = some true) →
          rows.map SessionRow.session = (sessionForest sessions hkeys).flatten fuel root)
      fun root hroot => visit_total hkeys view (hrootMem root hroot) (hfits root hroot) 0
    refine ⟨rows, hrows, fun hall => ?_⟩
    rw [map_flatten_of_forall₂ (hsame.imp fun _ _ h => h hall)]
    refine Forest.flatten_perm hnodup hrootsNodup (fun root hroot => isTop_of_mem_roots hkeys hroot) hfits fun s => ?_
    constructor
    · intro hs
      obtain ⟨root, hroot, hbelow⟩ := exists_root hkeys hs
      exact ⟨root, hroot, (reaches_iff_below hkeys (hrootMem root hroot)).mpr ⟨hbelow, hs⟩⟩
    · rintro ⟨root, hroot, hreaches⟩
      exact ((reaches_iff_below hkeys (hrootMem root hroot)).mp hreaches).2

/-- A session `a` that two others hang from and that names itself as its parent, and one whose parent is missing. -/
def tangledSessions : List SessionInfoDTO :=
  [⟨js "1", js "/a", none, some (js "/a")⟩, ⟨js "2", js "/b", none, some (js "/a")⟩,
    ⟨js "3", js "/c", none, some (js "/d")⟩, ⟨js "4", js "/e", none, some (js "/c")⟩]

theorem session_forest_tangled :
    ((buildTree tangledSessions).roots ++ tangledSessions.flatMap (buildTree tangledSessions).kids).Perm
      tangledSessions ∧
    (∀ s ∈ tangledSessions, ∃! root, root ∈ (buildTree tangledSessions).roots ∧
      (buildTree tangledSessions).Below root s) ∧
    ∀ view fuel, tangledSessions.length ≤ fuel →
      ∃ rows, (buildTree tangledSessions).roots.mapM ((buildTree tangledSessions).rows view fuel) = some rows ∧
        ((∀ s ∈ tangledSessions, view.childVisibility.get? s.key = some true) →
          (rows.flatten.map SessionRow.session).Perm tangledSessions) :=
  session_forest tangledSessions (by decide)

end pipane.session_picker
