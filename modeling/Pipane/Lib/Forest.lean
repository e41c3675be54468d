import Mathlib.Data.List.Nodup
import Mathlib.Data.List.Flatten
import Mathlib.Logic.Relation

/-- Nodes with their children, each node the child of at most one other and one further from the top than it. -/
structure Forest (α : Type) where
  kids : α → List α
  height : α → Nat
  nodup : ∀ p, (kids p).Nodup
  unique : ∀ {p p' c}, c ∈ kids p → c ∈ kids p' → p = p'
  height_kid : ∀ {p c}, c ∈ kids p → height c = height p + 1

namespace Forest

variable {α : Type} (self : Forest α)

/-- A node lies in the tree below another, or is it. -/
def Reaches : α → α → Prop :=
  Relation.ReflTransGen fun p c => c ∈ self.kids p

/-- No node has a given one as its child. -/
def IsTop (node : α) : Prop :=
  ∀ p, node ∉ self.kids p

/-- A node with all that lies below it, the trees of its children one after another. -/
def flatten : Nat → α → List α
  | 0, _ => []
  | fuel + 1, node => node :: (self.kids node).flatMap (flatten fuel)

variable {self}

theorem height_le {a x : α} (h : self.Reaches a x) : self.height a ≤ self.height x := by
  induction h with
  | refl => exact Nat.le_refl _
  | tail _ hkid ih =>
    rw [self.height_kid hkid]
    exact Nat.le_succ_of_le ih

theorem eq_of_reaches {a b x : α} (ha : self.Reaches a x) (hb : self.Reaches b x) (hheight : self.height a = self.height b) :
    a = b := by
  induction ha with
  | refl =>
    obtain rfl | ⟨p, hp, hkid⟩ := Relation.ReflTransGen.cases_tail hb
    · rfl
    · have hle := height_le hp
      have hsucc := self.height_kid hkid
      omega
  | @tail p x hp hkid ih =>
    obtain rfl | ⟨p', hp', hkid'⟩ := Relation.ReflTransGen.cases_tail hb
    · have hle := height_le hp
      have hsucc := self.height_kid hkid
      omega
    · rw [self.unique hkid' hkid] at hp'
      exact ih hp'

theorem top_unique {a b x : α} (ha : self.Reaches a x) (hb : self.Reaches b x) (htopA : self.IsTop a)
    (htopB : self.IsTop b) : a = b := by
  induction ha with
  | refl =>
    obtain rfl | ⟨p, -, hkid⟩ := Relation.ReflTransGen.cases_tail hb
    · rfl
    · exact absurd hkid (htopA p)
  | @tail p x hp hkid ih =>
    obtain rfl | ⟨p', hp', hkid'⟩ := Relation.ReflTransGen.cases_tail hb
    · exact absurd hkid (htopB p)
    · rw [self.unique hkid' hkid] at hp'
      exact ih hp'

/-- There is fuel for everything below a node. -/
def Fits (self : Forest α) (fuel : Nat) (node : α) : Prop :=
  ∀ x, self.Reaches node x → self.height x < self.height node + fuel

theorem Fits.kid {fuel : Nat} {node kid : α} (h : self.Fits (fuel + 1) node) (hkid : kid ∈ self.kids node) :
    self.Fits fuel kid := by
  intro x hx
  have hbound := h x (Relation.ReflTransGen.head hkid hx)
  have hsucc := self.height_kid hkid
  omega

theorem Fits.pos {fuel : Nat} {node : α} (h : self.Fits fuel node) : 0 < fuel := by
  have hbound := h node Relation.ReflTransGen.refl
  omega

theorem mem_flatten {fuel : Nat} {node : α} (h : self.Fits fuel node) {x : α} :
    x ∈ self.flatten fuel node ↔ self.Reaches node x := by
  induction fuel generalizing node with
  | zero => exact absurd h.pos (Nat.lt_irrefl 0)
  | succ fuel ih =>
    rw [flatten, List.mem_cons, List.mem_flatMap]
    constructor
    · rintro (rfl | ⟨kid, hkid, hx⟩)
      · exact Relation.ReflTransGen.refl
      · exact Relation.ReflTransGen.head hkid ((ih (h.kid hkid)).mp hx)
    · intro hx
      obtain rfl | ⟨kid, hkid, hrest⟩ := Relation.ReflTransGen.cases_head hx
      · exact .inl rfl
      · exact .inr ⟨kid, hkid, (ih (h.kid hkid)).mpr hrest⟩

theorem nodup_flatten {fuel : Nat} {node : α} (h : self.Fits fuel node) : (self.flatten fuel node).Nodup := by
  induction fuel generalizing node with
  | zero => exact List.nodup_nil
  | succ fuel ih =>
    rw [flatten, List.nodup_cons, List.nodup_flatMap]
    refine ⟨fun hmem => ?_, fun kid hkid => ih (h.kid hkid), ?_⟩
    · obtain ⟨kid, hkid, hx⟩ := List.mem_flatMap.mp hmem
      have hle := height_le ((mem_flatten (h.kid hkid)).mp hx)
      have hsucc := self.height_kid hkid
      omega
    · refine (self.nodup node).imp_of_mem fun {a b} ha hb hne => ?_
      intro x hxa hxb
      refine hne (eq_of_reaches ((mem_flatten (h.kid ha)).mp hxa) ((mem_flatten (h.kid hb)).mp hxb) ?_)
      rw [self.height_kid ha, self.height_kid hb]

theorem flatten_perm {nodes tops : List α} {fuel : Nat} (hnodes : nodes.Nodup) (htops : tops.Nodup)
    (htop : ∀ a ∈ tops, self.IsTop a) (hfits : ∀ a ∈ tops, self.Fits fuel a)
    (hreached : ∀ x, x ∈ nodes ↔ ∃ a ∈ tops, self.Reaches a x) : (tops.flatMap (self.flatten fuel)).Perm nodes := by
  refine (List.perm_ext_iff_of_nodup (List.nodup_flatMap.mpr ⟨fun a ha => nodup_flatten (hfits a ha), ?_⟩) hnodes).mpr
    fun x => ?_
  · refine htops.imp_of_mem fun {a b} ha hb hne => ?_
    intro x hxa hxb
    exact hne (top_unique ((mem_flatten (hfits a ha)).mp hxa) ((mem_flatten (hfits b hb)).mp hxb) (htop a ha) (htop b hb))
  · rw [List.mem_flatMap, hreached]
    constructor
    · rintro ⟨a, ha, hx⟩
      exact ⟨a, ha, (mem_flatten (hfits a ha)).mp hx⟩
    · rintro ⟨a, ha, hx⟩
      exact ⟨a, ha, (mem_flatten (hfits a ha)).mpr hx⟩

end Forest
