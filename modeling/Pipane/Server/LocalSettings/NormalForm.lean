import Pipane.Server.LocalSettings

open javascript json

namespace pipane.local_settings

variable {inherited : List (JsString × Value)}

/-! The document of settings is JSON that reads back. -/

theorem nodup_of_names {members : List (JsString × Value)} (names : List JsString) (same : members.map Prod.fst = names)
    (distinct : names.Nodup) : (members.map Prod.fst).Nodup :=
  same ▸ distinct

theorem canonical_filter (filter : CwdTitleFilter) : filter.toJson.Canonical := by
  rw [CwdTitleFilter.toJson]
  cases filter.flags with
  | none =>
    exact ⟨nodup_of_names [js "pattern", js "replacement"] rfl (by decide), trivial, trivial, trivial⟩
  | some flags =>
    exact ⟨nodup_of_names [js "pattern", js "replacement", js "flags"] rfl (by decide), trivial, trivial, trivial, trivial⟩

theorem canonical_sidebar (settings : LocalSettings) : settings.sidebar.Canonical := by
  have filters : CanonicalItems (settings.filters.map CwdTitleFilter.toJson) := by
    refine canonicalItems_iff.mpr fun item mem => ?_
    obtain ⟨filter, -, rfl⟩ := List.mem_map.mp mem
    exact canonical_filter filter
  exact ⟨nodup_of_names [js "cwdTitle", js "sessionsPerProject"] rfl (by decide),
    ⟨nodup_of_names [js "filters"] rfl (by decide), filters, trivial⟩, trivial, trivial⟩

theorem canonical_appearance (settings : LocalSettings) : settings.appearance.Canonical :=
  ⟨nodup_of_names [js "colorTheme", js "darkMode", js "showTokenUsage"] rfl (by decide), trivial, trivial, trivial, trivial⟩

theorem canonical_messages (messages : Messages) : messages.toJson.Canonical :=
  ⟨nodup_of_names [js "initialCount", js "hideOlderThinking", js "keepThinkingParts"] rfl (by decide),
    trivial, trivial, trivial, trivial⟩

theorem canonical_toJson (settings : LocalSettings) : settings.toJson.Canonical := by
  have sidebar := canonical_sidebar settings
  have canvas : settings.canvas.Canonical := ⟨nodup_of_names [js "enabled"] rfl (by decide), trivial, trivial⟩
  have appearance := canonical_appearance settings
  have collapse : ∀ keepOpen, (Value.obj [(js "keepOpen", natural keepOpen)]).Canonical :=
    fun keepOpen => ⟨nodup_of_names [js "keepOpen"] rfl (by decide), trivial, trivial⟩
  rw [LocalSettings.toJson, LocalSettings.members]
  cases settings.toolCollapse with
  | none =>
    cases settings.messages with
    | none =>
      exact ⟨nodup_of_names [js "version", js "sidebar", js "canvas", js "appearance"] rfl (by decide),
        trivial, sidebar, canvas, appearance, trivial⟩
    | some messages =>
      exact ⟨nodup_of_names [js "version", js "sidebar", js "canvas", js "appearance", js "messages"] rfl (by decide),
        trivial, sidebar, canvas, appearance, canonical_messages messages, trivial⟩
  | some keepOpen =>
    cases settings.messages with
    | none =>
      exact ⟨nodup_of_names [js "version", js "sidebar", js "canvas", js "appearance", js "toolCollapse"] rfl (by decide),
        trivial, sidebar, canvas, appearance, collapse keepOpen, trivial⟩
    | some messages =>
      exact ⟨nodup_of_names [js "version", js "sidebar", js "canvas", js "appearance", js "toolCollapse", js "messages"]
        rfl (by decide), trivial, sidebar, canvas, appearance, collapse keepOpen, canonical_messages messages, trivial⟩

/-- What a document leaves out is not inherited either. -/
structure Settled (inherited : List (JsString × Value)) (settings : LocalSettings) : Prop where
  flags : ∀ filter ∈ settings.filters, filter.flags = none → inherited.lookup (js "flags") = none
  toolCollapse : settings.toolCollapse = none → inherited.lookup (js "toolCollapse") = none
  messages : settings.messages = none → inherited.lookup (js "messages") = none

end pipane.local_settings
