import Mathlib.Data.List.Basic
import Pipane.Lib.Json

open javascript

namespace json

theorem lookup_overwritten (members : List (JsString × Value)) (name : JsString) (value : Value) (key : JsString) :
    (members.map fun m => if m.1 == name then (m.1, value) else m).lookup key =
      if key = name then (members.lookup key).map fun _ => value else members.lookup key := by
  induction members with
  | nil => simp
  | cons member members ih =>
    obtain ⟨first, old⟩ := member
    rw [List.map_cons, List.lookup_cons]
    by_cases hfirst : first = name
    · subst hfirst
      rw [if_pos (beq_self_eq_true first), List.lookup_cons, ih]
      by_cases hkey : key = first
      · subst hkey
        simp
      · rw [beq_eq_false_iff_ne.mpr hkey, if_neg hkey]
    · rw [if_neg (by simpa using hfirst), List.lookup_cons, ih]
      by_cases hkey : key = first
      · subst hkey
        simp [hfirst]
      · rw [beq_eq_false_iff_ne.mpr hkey]

theorem lookup_isSome_iff {members : List (JsString × Value)} {name : JsString} :
    (members.lookup name).isSome = members.any fun m => m.1 == name := by
  induction members with
  | nil => rfl
  | cons member members ih =>
    obtain ⟨first, old⟩ := member
    rw [List.lookup_cons, List.any_cons, ← ih]
    by_cases hfirst : name = first
    · subst hfirst
      simp
    · rw [beq_eq_false_iff_ne.mpr hfirst, beq_eq_false_iff_ne.mpr (Ne.symm hfirst), Bool.false_or]

theorem lookup_defineMember (members : List (JsString × Value)) (name : JsString) (value : Value) (key : JsString) :
    (defineMember members (name, value)).lookup key = if key = name then some value else members.lookup key := by
  rw [defineMember]
  split
  · rename_i hany
    rw [lookup_overwritten]
    by_cases hkey : key = name
    · subst hkey
      rw [if_pos rfl, if_pos rfl]
      rw [← lookup_isSome_iff] at hany
      obtain ⟨old, hold⟩ := Option.isSome_iff_exists.mp hany
      rw [hold]
      rfl
    · rw [if_neg hkey, if_neg hkey]
  · rename_i hnone
    rw [Bool.not_eq_true, ← lookup_isSome_iff, Option.isSome_eq_false_iff, Option.isNone_iff_eq_none] at hnone
    rw [List.lookup_append]
    by_cases hkey : key = name
    · subst hkey
      rw [hnone, if_pos rfl]
      simp
    · rw [if_neg hkey, List.lookup_cons, beq_eq_false_iff_ne.mpr hkey]
      simp

end json
