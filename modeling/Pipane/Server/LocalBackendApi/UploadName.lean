import Pipane.Lib.CodePoints
import Pipane.Lib.Path

open javascript posix_path

namespace pipane.local_backend_api

def UPLOAD_MANIFEST_FILE : JsString := js "upload.json"

/-- `/[\u0000-\u001f\u007f]/` -/
def isReplaced (u : UInt16) : Bool :=
  u.toNat ≤ 0x1F || u.toNat = 0x7F

/-- The last part of a name, backslashes read as separators, without the units that the server replaces and without
    blanks around it. -/
def uploadBaseName (fileName : JsString) : JsString :=
  trim ((basename (fileName.map fun u => if u = 0x5C then SLASH else u)).map fun u => if isReplaced u then 0x5F else u)

/-- The extension that is kept of a base name. -/
def keptExtension (baseName : JsString) : JsString :=
  truncateUtf8 (extname baseName) 40

/-- What stands before the extension of a base name. -/
def uploadStem (baseName : JsString) : JsString :=
  baseName.take (baseName.length - (extname baseName).length)

def safeUploadFileName (fileName : JsString) : JsString :=
  let baseName := uploadBaseName fileName
  if baseName = [] ∨ baseName = js "." ∨ baseName = js ".." then js "upload.bin"
  else
    let stem := truncateUtf8 (uploadStem baseName) (200 - (textEncode (keptExtension baseName)).length)
    (if stem = [] then js "upload" else stem) ++ keptExtension baseName

/-- The directory of an upload. -/
def uploadDirectoryPath (uploadDirectory uploadId : JsString) : JsString :=
  join [uploadDirectory, js "pipane-upload-" ++ uploadId]

/-- The path of the payload, under the name that the server gives it. -/
def uploadPath (directory fileName : JsString) : JsString :=
  join [directory, fileName]

def uploadManifestPath (directory : JsString) : JsString :=
  join [directory, UPLOAD_MANIFEST_FILE]

/-! The base name and its extension. -/

theorem noSlash_uploadBaseName (fileName : JsString) : SLASH ∉ uploadBaseName fileName := by
  intro h
  rw [uploadBaseName, trim, List.mem_reverse] at h
  have hmem := List.mem_reverse.mp (List.dropWhile_subset _ h)
  obtain ⟨u, hu, hreplaced⟩ := List.mem_map.mp (List.dropWhile_subset _ hmem)
  split at hreplaced
  · exact absurd hreplaced (by decide)
  · rw [hreplaced] at hu
    exact noSlash_basename _ hu

theorem basename_of_noSlash {text : JsString} (h : SLASH ∉ text) : basename text = text := by
  have hall : ∀ u ∈ text.reverse, decide (u ≠ SLASH) = true := by
    intro u hu
    simp only [decide_eq_true_eq]
    rintro rfl
    exact h (List.mem_reverse.mp hu)
  have hdrop : text.reverse.dropWhile (· = SLASH) = text.reverse := by
    rw [List.dropWhile_eq_self_iff]
    intro hlength hhead
    have hne := hall _ (List.getElem_mem hlength)
    simp only [decide_eq_true_eq] at hne hhead
    exact hne hhead
  rw [basename, hdrop, List.takeWhile_eq_self_iff.mpr hall, List.reverse_reverse]

/-- An extension is empty or what follows the last dot with that dot, something before it. -/
theorem extension_cases (base : JsString) :
    extension base = [] ∨
      ∃ front suffix, front ≠ [] ∧ DOT ∉ suffix ∧ base = front ++ DOT :: suffix ∧ extension base = DOT :: suffix := by
  rw [extension]
  split
  · exact .inl rfl
  rename_i h
  right
  simp only [not_or, not_le] at h
  obtain ⟨-, hlength⟩ := h
  have hsplit := List.takeWhile_append_dropWhile (p := fun u => decide (u ≠ DOT)) (l := base.reverse)
  cases hrest : base.reverse.dropWhile (· ≠ DOT) with
  | nil =>
    have hwhole := congrArg List.length hsplit
    rw [hrest, List.append_nil, List.length_reverse] at hwhole
    rw [List.length_reverse] at hlength
    omega
  | cons dot before =>
    have hdot : dot = DOT := by
      have hhead := List.head?_dropWhile_not (fun u => decide (u ≠ DOT)) base.reverse
      rw [hrest] at hhead
      simpa using hhead
    subst hdot
    rw [hrest] at hsplit
    have hbase := congrArg List.reverse hsplit
    rw [List.reverse_append, List.reverse_cons, List.reverse_reverse, List.append_assoc, List.singleton_append] at hbase
    refine ⟨before.reverse, (base.reverse.takeWhile (· ≠ DOT)).reverse, ?_, ?_, hbase.symm, rfl⟩
    · rintro hnil
      rw [hnil] at hbase
      have hshort := congrArg List.length hbase
      rw [List.nil_append, List.length_cons] at hshort
      omega
    · intro hmem
      have := List.mem_takeWhile_imp (List.mem_reverse.mp hmem)
      simp at this

theorem extname_uploadBaseName (fileName : JsString) :
    extname (uploadBaseName fileName) = extension (uploadBaseName fileName) := by
  rw [extname, basename_of_noSlash (noSlash_uploadBaseName fileName)]

theorem uploadStem_cases (fileName : JsString) :
    (extname (uploadBaseName fileName) = [] ∧ uploadStem (uploadBaseName fileName) = uploadBaseName fileName) ∨
      ∃ front suffix, front ≠ [] ∧ DOT ∉ suffix ∧ uploadBaseName fileName = front ++ DOT :: suffix ∧
        extname (uploadBaseName fileName) = DOT :: suffix ∧ uploadStem (uploadBaseName fileName) = front := by
  rw [uploadStem, extname_uploadBaseName]
  rcases extension_cases (uploadBaseName fileName) with hext | ⟨front, suffix, hfront, hsuffix, hbase, hext⟩
  · left
    rw [hext]
    exact ⟨rfl, List.take_length⟩
  · right
    refine ⟨front, suffix, hfront, hsuffix, hbase, hext, ?_⟩
    rw [hext, hbase, List.length_append, Nat.add_sub_cancel, List.take_left]

theorem uploadStem_ne_nil {fileName : JsString} (h : uploadBaseName fileName ≠ []) :
    uploadStem (uploadBaseName fileName) ≠ [] := by
  rcases uploadStem_cases fileName with ⟨-, hstem⟩ | ⟨front, suffix, hfront, -, -, -, hstem⟩
  · rwa [hstem]
  · rwa [hstem]

/-- The stem that is kept of a base name. -/
def keptStem (baseName : JsString) : JsString :=
  truncateUtf8 (uploadStem baseName) (200 - (textEncode (keptExtension baseName)).length)

theorem length_keptExtension_le (baseName : JsString) : (textEncode (keptExtension baseName)).length ≤ 40 :=
  length_truncateUtf8_le _ _

theorem safeUploadFileName_eq {fileName : JsString}
    (h : ¬ (uploadBaseName fileName = [] ∨ uploadBaseName fileName = js "." ∨ uploadBaseName fileName = js "..")) :
    safeUploadFileName fileName = keptStem (uploadBaseName fileName) ++ keptExtension (uploadBaseName fileName) := by
  have hlength := length_keptExtension_le (uploadBaseName fileName)
  have hne : truncateUtf8 (uploadStem (uploadBaseName fileName))
      (200 - (textEncode (keptExtension (uploadBaseName fileName))).length) ≠ [] :=
    truncateUtf8_ne_nil (uploadStem_ne_nil fun hnil => h (.inl hnil)) (by omega)
  rw [safeUploadFileName]
  dsimp only
  rw [if_neg h, if_neg hne]
  rfl

theorem split_dot {a b s t : JsString} (hs : DOT ∉ s) (ht : DOT ∉ t) (h : a ++ DOT :: s = b ++ DOT :: t) :
    a = b ∧ s = t := by
  have hscan (front suffix : JsString) (hsuffix : DOT ∉ suffix) :
      (front ++ DOT :: suffix).reverse.takeWhile (· ≠ DOT) = suffix.reverse := by
    have hall : ∀ u ∈ suffix.reverse, decide (u ≠ DOT) = true := by
      intro u hu
      simp only [decide_eq_true_eq]
      rintro rfl
      exact hsuffix (List.mem_reverse.mp hu)
    rw [List.reverse_append, List.reverse_cons, List.append_assoc, List.singleton_append,
      List.takeWhile_append_of_pos hall]
    simp
  have hst : s = t := by
    rw [← List.reverse_inj, ← hscan a s hs, h, hscan b t ht]
  subst hst
  exact ⟨List.append_cancel_right h, rfl⟩

/-- The extension that is kept is empty where the base name has none, and begins with its dot otherwise. -/
theorem keptExtension_cases (fileName : JsString) :
    (extname (uploadBaseName fileName) = [] ∧ keptExtension (uploadBaseName fileName) = [] ∧
        uploadStem (uploadBaseName fileName) = uploadBaseName fileName) ∨
      ∃ suffix kept, DOT ∉ kept ∧ extname (uploadBaseName fileName) = DOT :: suffix ∧
        keptExtension (uploadBaseName fileName) = DOT :: kept ∧
          uploadBaseName fileName = uploadStem (uploadBaseName fileName) ++ DOT :: suffix := by
  rcases uploadStem_cases fileName with ⟨hext, hstem⟩ | ⟨front, suffix, -, hsuffix, hbase, hext, hstem⟩
  · left
    refine ⟨hext, ?_, hstem⟩
    rw [keptExtension, hext]
    exact List.prefix_nil.mp (prefix_truncateUtf8 [] 40)
  · right
    have hne : truncateUtf8 (DOT :: suffix) 40 ≠ [] := truncateUtf8_ne_nil (List.cons_ne_nil _ _) (by omega)
    have hprefix := prefix_truncateUtf8 (DOT :: suffix) 40
    rw [keptExtension, hext, hstem]
    cases hkept : truncateUtf8 (DOT :: suffix) 40 with
    | nil => exact absurd hkept hne
    | cons dot kept =>
      rw [hkept] at hprefix
      obtain ⟨rfl, hrest⟩ := List.cons_prefix_cons.mp hprefix
      exact ⟨suffix, kept, fun hmem => hsuffix (hrest.subset hmem), rfl, rfl, hbase⟩

theorem eq_of_keptStem {baseName text : JsString} (h : keptStem baseName = text)
    (hshort : (textEncode text).length ≤ 100) : uploadStem baseName = text := by
  have hlength := length_keptExtension_le baseName
  rw [← h]
  refine (truncateUtf8_eq_self ?_).symm
  rw [keptStem] at h
  rw [h]
  omega

theorem eq_of_keptExtension {baseName text : JsString} (h : keptExtension baseName = text)
    (hshort : (textEncode text).length ≤ 36) : extname baseName = text := by
  rw [← h]
  refine (truncateUtf8_eq_self ?_).symm
  rw [keptExtension] at h
  rw [h]
  omega

/-- The payload is called like the manifest exactly where its base name is. -/
theorem safeUploadFileName_eq_manifest_iff (fileName : JsString) :
    safeUploadFileName fileName = UPLOAD_MANIFEST_FILE ↔ uploadBaseName fileName = UPLOAD_MANIFEST_FILE := by
  have hmanifest : UPLOAD_MANIFEST_FILE = js "upload" ++ DOT :: js "json" := by decide
  constructor
  · intro h
    by_cases hspecial : uploadBaseName fileName = [] ∨ uploadBaseName fileName = js "." ∨ uploadBaseName fileName = js ".."
    · rw [safeUploadFileName] at h
      dsimp only at h
      rw [if_pos hspecial] at h
      exact absurd h (by decide)
    rw [safeUploadFileName_eq hspecial] at h
    rcases keptExtension_cases fileName with ⟨-, hkept, hstem⟩ | ⟨suffix, kept, hdot, hext, hkept, hbase⟩
    · rw [hkept, List.append_nil] at h
      rw [← hstem]
      exact eq_of_keptStem h (by decide +kernel)
    · rw [hkept, hmanifest] at h
      obtain ⟨hstem, rfl⟩ := split_dot hdot (by decide) h
      have hstem := eq_of_keptStem hstem (by decide +kernel)
      have hwhole := eq_of_keptExtension hkept (by decide +kernel)
      rw [hext] at hwhole
      rw [hbase, hstem, hwhole]
      rfl
  · intro h
    have hspecial : ¬ (uploadBaseName fileName = [] ∨ uploadBaseName fileName = js "." ∨
        uploadBaseName fileName = js "..") := by
      rw [h]
      decide
    have hextension : keptExtension UPLOAD_MANIFEST_FILE = js ".json" := by
      have hext : extname UPLOAD_MANIFEST_FILE = js ".json" := by decide
      rw [keptExtension, hext]
      exact truncateUtf8_of_fits (by decide +kernel)
    have hstem : keptStem UPLOAD_MANIFEST_FILE = js "upload" := by
      have huncut : uploadStem UPLOAD_MANIFEST_FILE = js "upload" := by decide
      rw [keptStem, huncut, hextension]
      exact truncateUtf8_of_fits (by decide +kernel)
    rw [safeUploadFileName_eq hspecial, h, hextension, hstem]
    decide

/-! The name as a component. -/

/-- The control characters U+0080 to U+009F, which the server does not replace. -/
def isUpperControl (u : UInt16) : Bool :=
  0x80 ≤ u.toNat && u.toNat ≤ 0x9F

/-- A control character. -/
def isControl (u : UInt16) : Bool :=
  isReplaced u || isUpperControl u

/-- One component of a path that can be used as a file name anywhere. -/
structure SafeComponent (name : JsString) : Prop where
  nonempty : name ≠ []
  noSlash : SLASH ∉ name
  notDot : name ≠ [DOT]
  notDotDot : name ≠ [DOT, DOT]
  noControl : ∀ u ∈ name, isControl u = false
  bounded : (textEncode name).length ≤ 200

theorem subset_safeUploadFileName {fileName : JsString} {u : UInt16} (h : u ∈ safeUploadFileName fileName) :
    u ∈ js "upload.bin" ∨ u ∈ keptStem (uploadBaseName fileName) ∨ u ∈ keptExtension (uploadBaseName fileName) := by
  by_cases hspecial : uploadBaseName fileName = [] ∨ uploadBaseName fileName = js "." ∨ uploadBaseName fileName = js ".."
  · rw [safeUploadFileName] at h
    dsimp only at h
    rw [if_pos hspecial] at h
    exact .inl h
  · rw [safeUploadFileName_eq hspecial] at h
    exact .inr (List.mem_append.mp h)

theorem mem_baseName_of_mem_keptStem {baseName : JsString} {u : UInt16} (h : u ∈ keptStem baseName) : u ∈ baseName :=
  List.take_subset _ _ ((prefix_truncateUtf8 _ _).subset h)

theorem mem_baseName_of_mem_keptExtension {fileName : JsString} {u : UInt16}
    (h : u ∈ keptExtension (uploadBaseName fileName)) : u ∈ uploadBaseName fileName := by
  have hmem := (prefix_truncateUtf8 _ _).subset h
  rcases uploadStem_cases fileName with ⟨hext, -⟩ | ⟨front, suffix, -, -, hbase, hext, -⟩
  · rw [hext] at hmem
    cases hmem
  · rw [hext] at hmem
    rw [hbase]
    exact List.mem_append_right _ hmem

theorem not_isReplaced_of_mem {fileName : JsString} {u : UInt16} (h : u ∈ uploadBaseName fileName) :
    isReplaced u = false := by
  rw [uploadBaseName, trim, List.mem_reverse] at h
  have hmem := List.mem_reverse.mp (List.dropWhile_subset _ h)
  obtain ⟨v, -, hv⟩ := List.mem_map.mp (List.dropWhile_subset _ hmem)
  split at hv
  · rw [← hv]
    decide
  · rename_i hkept
    rw [← hv]
    exact Bool.eq_false_iff.mpr hkept

theorem noSlash_safeUploadFileName (fileName : JsString) : SLASH ∉ safeUploadFileName fileName := by
  intro h
  rcases subset_safeUploadFileName h with h | h | h
  · exact absurd h (by decide)
  · exact noSlash_uploadBaseName fileName (mem_baseName_of_mem_keptStem h)
  · exact noSlash_uploadBaseName fileName (mem_baseName_of_mem_keptExtension h)

/-- The kept stem stands before the kept extension, if there is one. -/
theorem safeUploadFileName_cases (fileName : JsString) :
    safeUploadFileName fileName = js "upload.bin" ∨
      (safeUploadFileName fileName = keptStem (uploadBaseName fileName) ∧
        keptExtension (uploadBaseName fileName) = [] ∧ uploadStem (uploadBaseName fileName) = uploadBaseName fileName ∧
          uploadBaseName fileName ∉ [[], js ".", js ".."]) ∨
      ∃ kept, keptStem (uploadBaseName fileName) ≠ [] ∧ keptExtension (uploadBaseName fileName) = DOT :: kept ∧
        safeUploadFileName fileName = keptStem (uploadBaseName fileName) ++ DOT :: kept ∧
          ¬ (keptStem (uploadBaseName fileName) = [DOT] ∧ kept = []) := by
  by_cases hspecial : uploadBaseName fileName = [] ∨ uploadBaseName fileName = js "." ∨ uploadBaseName fileName = js ".."
  · left
    rw [safeUploadFileName]
    dsimp only
    rw [if_pos hspecial]
  right
  have hlength := length_keptExtension_le (uploadBaseName fileName)
  have hne : keptStem (uploadBaseName fileName) ≠ [] :=
    truncateUtf8_ne_nil (uploadStem_ne_nil fun hnil => hspecial (.inl hnil)) (by omega)
  rw [safeUploadFileName_eq hspecial]
  rcases keptExtension_cases fileName with ⟨-, hkept, hstem⟩ | ⟨suffix, kept, -, hext, hkept, hbase⟩
  · left
    refine ⟨by rw [hkept, List.append_nil], hkept, hstem, ?_⟩
    simpa using hspecial
  · right
    refine ⟨kept, hne, hkept, by rw [hkept], ?_⟩
    rintro ⟨hdot, rfl⟩
    have hstem := eq_of_keptStem hdot (by decide +kernel)
    have hwhole := eq_of_keptExtension hkept (by decide +kernel)
    rw [hext] at hwhole
    rw [hstem, hwhole] at hbase
    exact hspecial (.inr (.inr hbase))

theorem bounded_safeUploadFileName (fileName : JsString) : (textEncode (safeUploadFileName fileName)).length ≤ 200 := by
  have hextension := length_keptExtension_le (uploadBaseName fileName)
  have hstem : (textEncode (keptStem (uploadBaseName fileName))).length ≤
      200 - (textEncode (keptExtension (uploadBaseName fileName))).length := length_truncateUtf8_le _ _
  rcases safeUploadFileName_cases fileName with heq | ⟨heq, -, -, -⟩ | ⟨kept, -, hkept, heq, -⟩
  · rw [heq]
    decide +kernel
  · rw [heq]
    omega
  · have happend : textEncode (keptStem (uploadBaseName fileName) ++ DOT :: kept) =
        textEncode (keptStem (uploadBaseName fileName)) ++ textEncode (DOT :: kept) := by
      apply textEncode_append
      intro v hv
      rw [← Option.some.inj hv]
      decide
    rw [heq, happend, List.length_append, ← hkept]
    omega

/-- The name is always one component; only its control characters depend on the name that was given. -/
theorem safeComponent_iff (fileName : JsString) :
    SafeComponent (safeUploadFileName fileName) ↔ ∀ u ∈ safeUploadFileName fileName, isControl u = false := by
  refine ⟨SafeComponent.noControl, fun hcontrol => ?_⟩
  refine ⟨?_, noSlash_safeUploadFileName fileName, ?_, ?_, hcontrol, bounded_safeUploadFileName fileName⟩
  all_goals
    intro hname
    rcases safeUploadFileName_cases fileName with heq | ⟨heq, -, hstem, hspecial⟩ | ⟨kept, hne, -, heq, hdots⟩
  · rw [heq] at hname
    exact absurd hname (by decide)
  · have hbase := eq_of_keptStem (heq.symm.trans hname) (by decide +kernel)
    rw [← hstem, hbase] at hspecial
    exact hspecial (by decide)
  · rw [heq] at hname
    exact absurd (List.append_eq_nil_iff.mp hname).2 (List.cons_ne_nil _ _)
  · rw [heq] at hname
    exact absurd hname (by decide)
  · have hbase := eq_of_keptStem (heq.symm.trans hname) (by decide +kernel)
    rw [← hstem, hbase] at hspecial
    exact hspecial (by decide)
  · rw [heq] at hname
    have hlength := congrArg List.length hname
    have hpos := List.length_pos_iff.mpr hne
    simp only [List.length_append, List.length_cons, List.length_nil] at hlength
    omega
  · rw [heq] at hname
    exact absurd hname (by decide)
  · have hbase := eq_of_keptStem (heq.symm.trans hname) (by decide +kernel)
    rw [← hstem, hbase] at hspecial
    exact hspecial (by decide)
  · rw [heq] at hname
    obtain ⟨hstem, hkept⟩ := split_dot (s := kept) (t := []) (b := [DOT]) (by
      intro hmem
      have hlength := congrArg List.length hname
      have hpos := List.length_pos_iff.mpr hne
      have hkept := List.length_pos_of_mem hmem
      simp only [List.length_append, List.length_cons, List.length_nil] at hlength
      omega) (List.not_mem_nil) hname
    exact hdots ⟨hstem, hkept⟩

/-- What a name must be for the payload to be safe: its base name is not that of the manifest, and a control character
    from U+0080 on stands so far behind in the stem and in the extension that it is cut off. -/
structure Distinguishable (fileName : JsString) : Prop where
  notManifest : uploadBaseName fileName ≠ UPLOAD_MANIFEST_FILE
  stem : ∀ front u back, uploadStem (uploadBaseName fileName) = front ++ u :: back → isUpperControl u = true →
    200 - (textEncode (keptExtension (uploadBaseName fileName))).length < (textEncode (front ++ [u])).length
  extension : ∀ front u back, extname (uploadBaseName fileName) = front ++ u :: back → isUpperControl u = true →
    40 < (textEncode (front ++ [u])).length

theorem not_surrogate_of_isUpperControl {u : UInt16} (h : isUpperControl u = true) :
    isHighSurrogate u = false ∧ isLowSurrogate u = false := by
  simp only [isUpperControl, Bool.and_eq_true, decide_eq_true_eq] at h
  simp only [isHighSurrogate, isLowSurrogate, Bool.and_eq_false_iff, decide_eq_false_iff_not]
  omega

theorem noUpperControl_truncateUtf8_iff (text : JsString) (maxBytes : Nat) :
    (∀ u ∈ truncateUtf8 text maxBytes, isUpperControl u = false) ↔
      ∀ front u back, text = front ++ u :: back → isUpperControl u = true → maxBytes < (textEncode (front ++ [u])).length := by
  constructor
  · intro h front u back htext hcontrol
    obtain ⟨hhigh, hlow⟩ := not_surrogate_of_isUpperControl hcontrol
    by_contra hfits
    have hmem := (mem_truncateUtf8_iff hhigh hlow).mpr ⟨front, back, htext, Nat.le_of_not_lt hfits⟩
    rw [h u hmem] at hcontrol
    cases hcontrol
  · intro h u hmem
    by_contra hcontrol
    rw [Bool.not_eq_false] at hcontrol
    obtain ⟨hhigh, hlow⟩ := not_surrogate_of_isUpperControl hcontrol
    obtain ⟨front, back, htext, hfits⟩ := (mem_truncateUtf8_iff hhigh hlow).mp hmem
    have hpast := h front u back htext hcontrol
    omega

theorem noControl_iff (fileName : JsString) :
    (∀ u ∈ safeUploadFileName fileName, isControl u = false) ↔
      (∀ u ∈ keptStem (uploadBaseName fileName), isUpperControl u = false) ∧
        ∀ u ∈ keptExtension (uploadBaseName fileName), isUpperControl u = false := by
  constructor
  · intro h
    by_cases hspecial : uploadBaseName fileName = [] ∨ uploadBaseName fileName = js "." ∨ uploadBaseName fileName = js ".."
    · have hbase : ∀ u ∈ uploadBaseName fileName, isUpperControl u = false := by
        intro u hu
        rcases hspecial with hbase | hbase | hbase
        · rw [hbase] at hu
          cases hu
        · rw [hbase] at hu
          rw [List.mem_singleton.mp hu]
          decide
        · rw [hbase] at hu
          have hdot : u ∈ [DOT, DOT] := hu
          rw [List.mem_pair.mp hdot |>.elim id id]
          decide
      exact ⟨fun u hu => hbase u (mem_baseName_of_mem_keptStem hu),
        fun u hu => hbase u (mem_baseName_of_mem_keptExtension hu)⟩
    · rw [safeUploadFileName_eq hspecial] at h
      have hupper (u : UInt16) (hu : isControl u = false) : isUpperControl u = false :=
        (Bool.or_eq_false_iff.mp hu).2
      exact ⟨fun u hu => hupper u (h u (List.mem_append_left _ hu)),
        fun u hu => hupper u (h u (List.mem_append_right _ hu))⟩
  · rintro ⟨hstem, hextension⟩ u hu
    rw [isControl, Bool.or_eq_false_iff]
    rcases subset_safeUploadFileName hu with hu | hu | hu
    · have hfixed : (js "upload.bin").all (fun v => !isReplaced v && !isUpperControl v) = true := by decide
      simpa using List.all_eq_true.mp hfixed u hu
    · exact ⟨not_isReplaced_of_mem (mem_baseName_of_mem_keptStem hu), hstem u hu⟩
    · exact ⟨not_isReplaced_of_mem (mem_baseName_of_mem_keptExtension hu), hextension u hu⟩

theorem distinguishable_iff (fileName : JsString) :
    Distinguishable fileName ↔
      SafeComponent (safeUploadFileName fileName) ∧ safeUploadFileName fileName ≠ UPLOAD_MANIFEST_FILE := by
  have hmanifest := not_congr (safeUploadFileName_eq_manifest_iff fileName)
  rw [safeComponent_iff, noControl_iff, keptStem, keptExtension, noUpperControl_truncateUtf8_iff,
    noUpperControl_truncateUtf8_iff, ne_eq, hmanifest]
  exact ⟨fun h => ⟨⟨h.stem, h.extension⟩, h.notManifest⟩, fun h => ⟨h.2, h.1.1, h.1.2⟩⟩

/-! The payload in its directory. -/

/-- What makes a payload safe: one safe component, in the directory of its upload, beside the manifest. -/
structure PayloadSafe (directory fileName : JsString) : Prop where
  component : SafeComponent (safeUploadFileName fileName)
  inside : dirname (uploadPath directory (safeUploadFileName fileName)) = directory
  distinct : uploadPath directory (safeUploadFileName fileName) ≠ uploadManifestPath directory

/-- The manifest as a name in its directory. -/
def manifestName : Name :=
  ⟨UPLOAD_MANIFEST_FILE, by decide, by decide, by decide, by decide⟩

/-- For every directory and every name that a client gives, the payload is safe if and only if the name can be told from
    that of the manifest and loses its control characters. -/
theorem payloadSafe_iff (directory : Names) (fileName : JsString) :
    PayloadSafe (absolute directory) fileName ↔ Distinguishable fileName := by
  rw [distinguishable_iff]
  constructor
  · intro hsafe
    refine ⟨hsafe.component, fun hname => hsafe.distinct ?_⟩
    rw [uploadPath, uploadManifestPath, hname]
  · rintro ⟨hcomponent, hname⟩
    let name : Name := ⟨safeUploadFileName fileName, hcomponent.nonempty, hcomponent.noSlash, hcomponent.notDot,
      hcomponent.notDotDot⟩
    have hpath : uploadPath (absolute directory) (safeUploadFileName fileName) = absolute (directory ++ [name]) :=
      join_absolute directory name
    refine ⟨hcomponent, ?_, ?_⟩
    · rw [hpath, dirname_absolute]
    · have hmanifest : uploadManifestPath (absolute directory) = absolute (directory ++ [manifestName]) :=
        join_absolute directory manifestName
      rw [hpath, hmanifest]
      intro hsame
      have hlast := List.append_cancel_left (absolute_injective hsame)
      exact hname (congrArg Name.text (List.cons.inj hlast).1)

/-- A file that is called like the manifest. -/
theorem manifest_payload_not_safe : ¬ PayloadSafe (absolute []) (js "upload.json") := by
  intro hsafe
  have hname : safeUploadFileName (js "upload.json") = UPLOAD_MANIFEST_FILE :=
    (safeUploadFileName_eq_manifest_iff _).mpr (by decide)
  refine hsafe.distinct ?_
  rw [uploadPath, uploadManifestPath, hname]

end pipane.local_backend_api
