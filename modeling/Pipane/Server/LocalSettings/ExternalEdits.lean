import Pipane.Lib.Json.Members
import Pipane.Lib.Json.Parsed
import Pipane.Lib.Transition
import Pipane.Server.LocalSettings.Store

open javascript json js_object transition

namespace pipane.local_settings

/-! A settings file with the sections of a patch merged in. -/

/-- The members of an object that has been parsed. -/
abbrev Patch := { members : List (JsString × Value) // (Value.obj members).Canonical }

structure System (RegExp : Type) where
  inherited : List (JsString × Value)
  store : Store RegExp
  disk : Disk

inductive Event
  | patch (patch : Patch) (fault : Option SaveFault)
  | edit (settings : Option (List UInt8))
  | reload (failure : Option JsString)

section

variable {RegExp : Type} (engine : Engine RegExp) (settingsPath : JsString)

def step (system : System RegExp) : Event → System RegExp
  | .patch members fault =>
    let (inherited, outcome) := patch engine system.inherited system.store system.disk members.val fault
    { inherited, store := outcome.store, disk := outcome.disk }
  | .edit settings => { system with disk := { system.disk with settings } }
  | .reload failure =>
    match reloadFromDiskIfValid system.inherited engine settingsPath system.store system.disk failure with
    | none => system
    | some (store, _) => { system with store }

/-- A backend that has loaded its settings. -/
def started (store : Store RegExp) (disk : Disk) : System RegExp :=
  { inherited := [], store, disk }

end

/-! The settings by their fields. -/

/-- The names that merging and validation look up. -/
def NAMES : List JsString :=
  [js "version", js "sidebar", js "cwdTitle", js "filters", js "pattern", js "replacement", js "flags",
    js "sessionsPerProject", js "canvas", js "enabled", js "appearance", js "colorTheme", js "darkMode",
    js "showTokenUsage", js "toolCollapse", js "keepOpen", js "messages", js "initialCount", js "hideOlderThinking",
    js "keepThinkingParts"]

def SECTIONS : List JsString :=
  [js "sidebar", js "canvas", js "appearance", js "toolCollapse", js "messages"]

/-- What a field is taken for where a section leaves it out. -/
def fallback (section_ field : JsString) : Option Value :=
  if section_ = js "messages" ∧ field = js "hideOlderThinking" then some (.bool false)
  else if section_ = js "messages" ∧ field = js "keepThinkingParts" then some (natural 3)
  else none

def ownField (section_ : Option Value) (field : JsString) : Option Value :=
  match section_ with
  | some (.obj own) => own.lookup field
  | _ => none

def LocalSettings.field (settings : LocalSettings) (section_ field : JsString) : Option Value :=
  (ownField (settings.members.lookup section_) field).or (fallback section_ field)

/-- Whether a patch gives a value for a field. -/
def Gives (patch : List (JsString × Value)) (section_ field : JsString) : Prop :=
  ∃ source, patch.lookup section_ = some (.obj source) ∧ (source.lookup field).isSome

/-- What a patch does not give is in the store as it is in the file. -/
def Current (patch : List (JsString × Value)) (known stored : LocalSettings) : Prop :=
  ∀ section_ ∈ SECTIONS, ∀ field, ¬ Gives patch section_ field →
    known.field section_ field = stored.field section_ field

/-- No member `__proto__` of a patch gives every object a property that validation would look up. -/
def Unpolluting (patch : List (JsString × Value)) : Prop :=
  ∀ source, patch.lookup PROTO = some (.obj source) → ∀ name ∈ NAMES, source.lookup name = none

def UpToDate {RegExp : Type} (engine : Engine RegExp) (system : System RegExp) : Event → Prop
  | .patch members _ => Unpolluting members.val ∧ ∀ bytes stored, system.disk.settings = some bytes →
      validate [] engine (bufferText bytes) = .ok stored →
        Current members.val system.store.currentSettings stored.settings
  | _ => True

/-! What every object inherits stays apart from what validation looks up. -/

def Clean (inherited : List (JsString × Value)) : Prop :=
  ∀ name ∈ NAMES, inherited.lookup name = none

theorem lookup_eq_none_of_not_mem {members : List (JsString × Value)} {name : JsString}
    (h : name ∉ members.map Prod.fst) : members.lookup name = none := by
  rw [List.lookup_eq_none_iff]
  intro member hmember
  rw [bne_iff_ne]
  rintro rfl
  exact h (List.mem_map_of_mem hmember)

theorem Clean.defineMember {inherited : List (JsString × Value)} (h : Clean inherited) {key : JsString}
    (hkey : key ∉ NAMES) (value : Value) : Clean (json.defineMember inherited (key, value)) := by
  intro name hname
  rw [lookup_defineMember, if_neg, h name hname]
  rintro rfl
  exact hkey hname

theorem Clean.assignInherited {inherited source : List (JsString × Value)} (h : Clean inherited)
    (hsource : ∀ name ∈ NAMES, source.lookup name = none) : Clean (local_settings.assignInherited inherited source).1 := by
  induction source generalizing inherited with
  | nil => exact h
  | cons member source ih =>
    obtain ⟨key, value⟩ := member
    have hfirst : ∀ name ∈ NAMES, name ≠ key ∧ source.lookup name = none := by
      intro name hname
      have hnone := hsource name hname
      rw [List.lookup_cons] at hnone
      by_cases hsame : name = key
      · rw [hsame, beq_self_eq_true] at hnone
        cases hnone
      · rw [beq_eq_false_iff_ne.mpr hsame] at hnone
        exact ⟨hsame, hnone⟩
    have hrest := fun name hname => (hfirst name hname).2
    rw [local_settings.assignInherited]
    split
    · split
      · exact h
      · exact ih h hrest
    · exact ih (h.defineMember (fun hkey => (hfirst key hkey).1 rfl) value) hrest

theorem Clean.patchMember {state : Merge} (h : Clean state.inherited) (key : JsString) (value : Value)
    (hvalue : key = PROTO → ∀ source, value = .obj source → ∀ name ∈ NAMES, source.lookup name = none) :
    Clean (local_settings.patchMember state key value).1.inherited := by
  rw [local_settings.patchMember.eq_def]
  split
  · exact h
  · split
    · rename_i hproto
      cases value with
      | obj source => exact h.assignInherited (hvalue hproto _ rfl)
      | _ => exact h
    · dsimp only
      split
      · exact h
      · exact h
      · exact h
      · rename_i hinherited
        refine h.defineMember (fun hkey => ?_) _
        rw [h key hkey] at hinherited
        cases hinherited
      · exact h
      · exact h
      · exact h
      · exact h

/-- Two values of a section with the same fields. -/
def Alike (section_ : JsString) (x y : Option Value) : Prop :=
  x = y ∨ ∃ a b, x = some (.obj a) ∧ y = some (.obj b) ∧
    ∀ field ∈ NAMES, (a.lookup field).or (fallback section_ field) = (b.lookup field).or (fallback section_ field)

theorem Alike.isObject {section_ : JsString} {x y : Option Value} (h : Alike section_ x y) :
    local_settings.isObject x = local_settings.isObject y := by
  rcases h with rfl | ⟨a, b, rfl, rfl, -⟩ <;> rfl

theorem Alike.member_or {section_ : JsString} {x y : Option Value} (h : Alike section_ x y) (field : JsString)
    (hfield : field ∈ NAMES) :
    (member [] x field).or (fallback section_ field) = (member [] y field).or (fallback section_ field) := by
  rcases h with rfl | ⟨a, b, rfl, rfl, hfields⟩
  · rfl
  · have hown : ∀ own : List (JsString × Value), member [] (some (.obj own)) field = own.lookup field := by
      intro own
      rw [member, List.lookup_nil, Option.or_none]
    rw [hown, hown, hfields field hfield]

theorem Alike.member {section_ : JsString} {x y : Option Value} (h : Alike section_ x y) (field : JsString)
    (hfield : field ∈ NAMES) (hfallback : fallback section_ field = none) :
    local_settings.member [] x field = local_settings.member [] y field := by
  have hor := h.member_or field hfield
  rw [hfallback, Option.or_none, Option.or_none] at hor
  exact hor

section

variable {inherited : List (JsString × Value)} (h : Clean inherited)

include h

end

section

variable {RegExp : Type} {engine : Engine RegExp}

end

end pipane.local_settings
