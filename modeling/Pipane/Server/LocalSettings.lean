import Pipane.Lib.BufferText
import Pipane.Lib.Json.Pretty

open javascript json

namespace pipane.local_settings

structure CwdTitleFilter where
  pattern : JsString
  replacement : JsString
  flags : Option JsString := none
deriving DecidableEq

inductive ColorTheme
  | default
  | gruvbox
deriving DecidableEq

inductive DarkMode
  | light
  | dark
  | system
deriving DecidableEq

structure Messages where
  initialCount : Nat
  hideOlderThinking : Bool
  keepThinkingParts : Nat
deriving DecidableEq

def DEFAULT_SESSIONS_PER_PROJECT : { n : Nat // 1 ≤ n } :=
  ⟨5, by decide⟩

/-- Settings, one field for each leaf of the document; `version` is 1 throughout. -/
structure LocalSettings where
  filters : List CwdTitleFilter := []
  sessionsPerProject : { n : Nat // 1 ≤ n } := DEFAULT_SESSIONS_PER_PROJECT
  canvasEnabled : Bool := false
  colorTheme : ColorTheme := .gruvbox
  darkMode : DarkMode := .dark
  showTokenUsage : Bool := true
  toolCollapse : Option Nat := none
  messages : Option Messages := none
deriving DecidableEq

def DEFAULT_SETTINGS : LocalSettings := {}

def ColorTheme.text : ColorTheme → JsString
  | .default => js "default"
  | .gruvbox => js "gruvbox"

def DarkMode.text : DarkMode → JsString
  | .light => js "light"
  | .dark => js "dark"
  | .system => js "system"

def VALID_COLOR_THEMES : List ColorTheme := [.default, .gruvbox]

def VALID_DARK_MODES : List DarkMode := [.light, .dark, .system]

/-! The document of settings. -/

def natural (n : Nat) : Value :=
  .num (.int n)

def CwdTitleFilter.toJson (self : CwdTitleFilter) : Value :=
  .obj ([(js "pattern", .str self.pattern), (js "replacement", .str self.replacement)] ++
    (self.flags.map fun flags => (js "flags", Value.str flags)).toList)

def LocalSettings.sidebar (self : LocalSettings) : Value :=
  .obj [(js "cwdTitle", .obj [(js "filters", .arr (self.filters.map CwdTitleFilter.toJson))]),
    (js "sessionsPerProject", natural self.sessionsPerProject)]

def LocalSettings.canvas (self : LocalSettings) : Value :=
  .obj [(js "enabled", .bool self.canvasEnabled)]

def LocalSettings.appearance (self : LocalSettings) : Value :=
  .obj [(js "colorTheme", .str self.colorTheme.text), (js "darkMode", .str self.darkMode.text),
    (js "showTokenUsage", .bool self.showTokenUsage)]

def Messages.toJson (self : Messages) : Value :=
  .obj [(js "initialCount", natural self.initialCount), (js "hideOlderThinking", .bool self.hideOlderThinking),
    (js "keepThinkingParts", natural self.keepThinkingParts)]

def LocalSettings.members (self : LocalSettings) : List (JsString × Value) :=
  [(js "version", natural 1), (js "sidebar", self.sidebar), (js "canvas", self.canvas),
    (js "appearance", self.appearance)] ++
    (self.toolCollapse.map fun keepOpen => (js "toolCollapse", Value.obj [(js "keepOpen", natural keepOpen)])).toList ++
      (self.messages.map fun messages => (js "messages", messages.toJson)).toList

def LocalSettings.toJson (self : LocalSettings) : Value :=
  .obj self.members

def formatSettingsJson (settings : LocalSettings) : JsString :=
  pretty 0 settings.toJson ++ [0x0A]

/-! Validation. -/

/-- What the language adds: regular expressions, or the message of the error that there is none, and the message of a
    `SyntaxError`. -/
structure Engine (RegExp : Type) where
  regExp : JsString → JsString → Except JsString RegExp
  syntaxError : JsString → JsString

section

/-! What code has put into `Object.prototype`, every object inherits. -/

variable (inherited : List (JsString × Value))

/-- `value[key]` of a value that is not `null`, `value?.[key]` of one that may be. -/
def member (value : Option Value) (key : JsString) : Option Value :=
  match value with
  | none => none
  | some .null => none
  | some (.obj members) => (members.lookup key).or (inherited.lookup key)
  | some _ => inherited.lookup key

def isObject : Option Value → Bool
  | some (.obj _) => true
  | _ => false

/-- A number that is an integer and at least a bound. -/
def integerFrom (bound : Nat) : Option Value → Option { n : Nat // bound ≤ n }
  | some (.num (.int n)) => if h : bound ≤ n.toNat ∧ 0 ≤ n then some ⟨n.toNat, h.1⟩ else none
  | _ => none

/-- An error, where a condition fails. -/
def report (condition : Bool) (error : JsString) : List JsString :=
  if condition then [] else [error]

def isString : Option Value → Bool
  | some (.str _) => true
  | _ => false

/-- The errors of one filter, and the filter that is kept of it. -/
def checkFilter (raw : Value) (i : Nat) : List JsString × Option CwdTitleFilter :=
  let name := js "sidebar.cwdTitle.filters[" ++ decimal i ++ js "]"
  if isObject (some raw) then
    let flags := member inherited (some raw) (js "flags")
    let pattern := member inherited (some raw) (js "pattern")
    let replacement := member inherited (some raw) (js "replacement")
    (report (isString pattern) (name ++ js ".pattern must be a string") ++
        report (isString replacement) (name ++ js ".replacement must be a string") ++
          report (flags.isNone || isString flags) (name ++ js ".flags must be a string when provided"),
      match pattern, replacement with
      | some (.str pattern), some (.str replacement) =>
        some { pattern, replacement, flags := match flags with | some (.str flags) => some flags | _ => none }
      | _, _ => none)
  else ([name ++ js " must be an object"], none)

def checkFilters : List Value → Nat → List JsString × List CwdTitleFilter
  | [], _ => ([], [])
  | raw :: rest, i =>
    let (errors, filter) := checkFilter inherited raw i
    let (later, filters) := checkFilters rest (i + 1)
    (errors ++ later, filter.toList ++ filters)

def checkCwdTitle (sidebar : Option Value) : List JsString × List CwdTitleFilter :=
  let cwdTitle := member inherited sidebar (js "cwdTitle")
  let errors := report (isObject cwdTitle) (js "sidebar.cwdTitle must be an object")
  match member inherited cwdTitle (js "filters") with
  | some (.arr filtersRaw) =>
    let (later, filters) := checkFilters inherited filtersRaw 0
    (errors ++ later, filters)
  | _ => (errors ++ [js "sidebar.cwdTitle.filters must be an array"], [])

def checkSessionsPerProject (sidebar : Option Value) : List JsString × { n : Nat // 1 ≤ n } :=
  let raw := member inherited sidebar (js "sessionsPerProject")
  match raw with
  | none => ([], DEFAULT_SESSIONS_PER_PROJECT)
  | some _ =>
    match integerFrom 1 raw with
    | some n => ([], n)
    | none => ([js "sidebar.sessionsPerProject must be a positive integer"], DEFAULT_SESSIONS_PER_PROJECT)

def checkCanvas (canvasRaw : Option Value) : List JsString × Bool :=
  match canvasRaw with
  | none => ([], false)
  | some _ =>
    if isObject canvasRaw then
      match member inherited canvasRaw (js "enabled") with
      | some (.bool enabled) => ([], enabled)
      | _ => ([js "canvas.enabled must be a boolean"], false)
    else ([js "canvas must be an object"], false)

/-- A value that is the text of one of some choices. -/
def choose {α : Type} (choices : List α) (text : α → JsString) (otherwise : α) (raw : Option Value)
    (error : JsString) : List JsString × α :=
  match raw with
  | none => ([], otherwise)
  | some (.str s) =>
    match choices.find? fun choice => text choice = s with
    | some choice => ([], choice)
    | none => ([error], otherwise)
  | some _ => ([error], otherwise)

structure Appearance where
  colorTheme : ColorTheme := .gruvbox
  darkMode : DarkMode := .dark
  showTokenUsage : Bool := true

def checkAppearance (appearanceRaw : Option Value) : List JsString × Appearance :=
  match appearanceRaw with
  | none => ([], {})
  | some _ =>
    if isObject appearanceRaw then
      let get := member inherited appearanceRaw
      let (themeErrors, colorTheme) := choose VALID_COLOR_THEMES ColorTheme.text .gruvbox (get (js "colorTheme"))
        (js "appearance.colorTheme must be one of: default, gruvbox")
      let (modeErrors, darkMode) := choose VALID_DARK_MODES DarkMode.text .dark (get (js "darkMode"))
        (js "appearance.darkMode must be one of: light, dark, system")
      let (usageErrors, showTokenUsage) : List JsString × Bool :=
        match get (js "showTokenUsage") with
        | none => ([], true)
        | some (.bool b) => ([], b)
        | some _ => ([js "appearance.showTokenUsage must be a boolean"], true)
      (themeErrors ++ modeErrors ++ usageErrors, { colorTheme, darkMode, showTokenUsage })
    else ([js "appearance must be an object"], {})

def checkToolCollapse (raw : Option Value) : List JsString × Option Nat :=
  match raw with
  | none => ([], none)
  | some _ =>
    if isObject raw then
      match integerFrom 0 (member inherited raw (js "keepOpen")) with
      | some keepOpen => ([], some keepOpen)
      | none => ([js "toolCollapse.keepOpen must be a non-negative integer"], none)
    else ([js "toolCollapse must be an object"], none)

def isBoolean : Option Value → Option Bool
  | some (.bool b) => some b
  | _ => none

def checkMessages (raw : Option Value) : List JsString × Option Messages :=
  match raw with
  | none => ([], none)
  | some _ =>
    if isObject raw then
      let initialCount := integerFrom 0 (member inherited raw (js "initialCount"))
      let hideOlderThinking := isBoolean ((member inherited raw (js "hideOlderThinking")).or (some (.bool false)))
      let keepThinkingParts := integerFrom 0 ((member inherited raw (js "keepThinkingParts")).or (some (natural 3)))
      (report initialCount.isSome (js "messages.initialCount must be a non-negative integer") ++
          report hideOlderThinking.isSome (js "messages.hideOlderThinking must be a boolean") ++
            report keepThinkingParts.isSome (js "messages.keepThinkingParts must be a non-negative integer"),
        match initialCount, hideOlderThinking, keepThinkingParts with
        | some initialCount, some hideOlderThinking, some keepThinkingParts =>
          some { initialCount, hideOlderThinking, keepThinkingParts }
        | _, _, _ => none)
    else ([js "messages must be an object"], none)

def isOne : Option Value → Bool
  | some (.num n) => n = .int 1
  | _ => false

def validateSettingsObject (value : Value) : Except (List JsString) LocalSettings :=
  if isObject (some value) then
    let get := member inherited (some value)
    let sidebar := get (js "sidebar")
    let (filterErrors, filters) := checkCwdTitle inherited sidebar
    let (sessionErrors, sessionsPerProject) := checkSessionsPerProject inherited sidebar
    let (canvasErrors, canvasEnabled) := checkCanvas inherited (get (js "canvas"))
    let (appearanceErrors, appearance) := checkAppearance inherited (get (js "appearance"))
    let (toolErrors, toolCollapse) := checkToolCollapse inherited (get (js "toolCollapse"))
    let (messageErrors, messages) := checkMessages inherited (get (js "messages"))
    let errors := report (isOne (get (js "version"))) (js "version must be 1") ++
      report (isObject sidebar) (js "sidebar must be an object") ++ filterErrors ++ sessionErrors ++ canvasErrors ++
        appearanceErrors ++ toolErrors ++ messageErrors
    if errors = [] then
      .ok { filters, sessionsPerProject, canvasEnabled, colorTheme := appearance.colorTheme,
            darkMode := appearance.darkMode, showTokenUsage := appearance.showTokenUsage, toolCollapse, messages }
    else .error errors
  else .error [js "Settings must be a JSON object"]

variable {RegExp : Type} (engine : Engine RegExp)

def CwdTitleFilter.regExp (self : CwdTitleFilter) : Except JsString RegExp :=
  engine.regExp self.pattern (self.flags.getD [])

def patternErrors (filters : List CwdTitleFilter) : List JsString :=
  filters.zipIdx.filterMap fun filter =>
    match filter.1.regExp engine with
    | .ok _ => none
    | .error message =>
      some (js "sidebar.cwdTitle.filters[" ++ decimal filter.2 ++ js "].pattern is invalid regex: " ++ message)

structure Validated where
  settings : LocalSettings
  formatted : JsString

def validate (content : JsString) : Except (List JsString) Validated :=
  match parse content with
  | none => .error [js "Invalid JSON: " ++ engine.syntaxError content]
  | some parsed =>
    match validateSettingsObject inherited parsed with
    | .error errors => .error errors
    | .ok settings =>
      let errors := patternErrors engine settings.filters
      if errors = [] then .ok ⟨settings, formatSettingsJson settings⟩ else .error errors

structure CompiledFilter (RegExp : Type) where
  re : RegExp
  replacement : JsString

/-- `none` is the thrown `SyntaxError`. -/
def compileFilters (settings : LocalSettings) : Option (List (CompiledFilter RegExp)) :=
  settings.filters.mapM fun filter =>
    match filter.regExp engine with
    | .ok re => some ⟨re, filter.replacement⟩
    | .error _ => none

end

end pipane.local_settings
