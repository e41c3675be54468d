import Mathlib.Data.List.TakeWhile
import Pipane.Lib.JsString

namespace posix_path

open javascript

/-- The separator `/`. -/
def SLASH : UInt16 := 0x2F

def DOT : UInt16 := 0x2E

/-- What a directory can list: not empty, without a separator, neither `.` nor `..`. -/
structure Name where
  text : JsString
  nonempty : text ≠ []
  noSlash : SLASH ∉ text
  notDot : text ≠ [DOT]
  notDotDot : text ≠ [DOT, DOT]
  deriving DecidableEq

@[ext] theorem Name.ext {a b : Name} (h : a.text = b.text) : a = b := by
  cases a
  cases b
  cases h
  rfl

/-- The place an absolute path leads to without links: the names from the root down. -/
abbrev Names := List Name

/-- What one part of a path, between two separators, does to a place. -/
inductive Segment
  | stay
  | up
  | down (name : Name)
  deriving DecidableEq

def readSegment (text : JsString) : Segment :=
  if empty : text = [] then .stay
  else if dot : text = [DOT] then .stay
  else if dotDot : text = [DOT, DOT] then .up
  else if slash : SLASH ∈ text then .stay
  else .down ⟨text, empty, slash, dot, dotDot⟩

/-- The parts of a path, in order. -/
def segments (path : JsString) : List Segment :=
  (path.splitOn SLASH).map readSegment

def move (names : Names) : Segment → Names
  | .stay => names
  | .up => names.dropLast
  | .down name => names ++ [name]

/-- The place that an absolute path spells. -/
def placeOf (path : JsString) : Names :=
  (segments path).foldl move []

def joinSlash (texts : List JsString) : JsString :=
  [SLASH].intercalate texts

/-- The spelling of a place that `resolve` gives. -/
def absolute (names : Names) : JsString :=
  SLASH :: joinSlash (names.map Name.text)

def isAbsolute (path : JsString) : Bool :=
  path.head? = some SLASH

/-- The last absolute path and everything after it, or the working directory and everything. -/
def absoluteText (cwd : Names) (paths : List JsString) : JsString :=
  paths.foldl (fun base path => if path = [] then base else if isAbsolute path then path else base ++ SLASH :: path)
    (absolute cwd)

/-- `path.resolve(...paths)`, where `process.cwd()` is `cwd`. -/
def resolve (cwd : Names) (paths : List JsString) : JsString :=
  absolute (placeOf (absoluteText cwd paths))

/-- What is left of a relative path: the steps above its start and the names below. -/
structure Relative where
  ups : Nat
  names : Names
  deriving DecidableEq

def Relative.move (relative : Relative) : Segment → Relative
  | .stay => relative
  | .up => if relative.names = [] then ⟨relative.ups + 1, []⟩ else ⟨relative.ups, relative.names.dropLast⟩
  | .down name => ⟨relative.ups, relative.names ++ [name]⟩

def Relative.text (relative : Relative) : JsString :=
  joinSlash (List.replicate relative.ups [DOT, DOT] ++ relative.names.map Name.text)

/-- `path.normalize(path)`. -/
def normalize (path : JsString) : JsString :=
  let trailing := if path.getLast? = some SLASH then [SLASH] else []
  if path = [] then [DOT]
  else if isAbsolute path then
    if placeOf path = [] then [SLASH] else absolute (placeOf path) ++ trailing
  else
    let text := ((segments path).foldl Relative.move ⟨0, []⟩).text
    (if text = [] then [DOT] else text) ++ trailing

/-- `path.join(...paths)`. -/
def join (paths : List JsString) : JsString :=
  let joined := joinSlash (paths.filter (· ≠ []))
  if joined = [] then [DOT] else normalize joined

/-- The way from one place to another. -/
def between : Names → Names → Relative
  | [], there => ⟨0, there⟩
  | here, [] => ⟨here.length, []⟩
  | a :: here, b :: there => if a = b then between here there else ⟨here.length + 1, b :: there⟩

/-- `path.relative(from, to)`. -/
def relative (cwd : Names) (source target : JsString) : JsString :=
  (between (placeOf (absoluteText cwd [source])) (placeOf (absoluteText cwd [target]))).text

/-- `path.basename(path)`. -/
def basename (path : JsString) : JsString :=
  ((path.reverse.dropWhile (· = SLASH)).takeWhile (· ≠ SLASH)).reverse

/-- `path.dirname(path)`. -/
def dirname : JsString → JsString
  | [] => [DOT]
  | first :: rest =>
    match (rest.reverse.dropWhile (· = SLASH)).dropWhile (· ≠ SLASH) with
    | [] => if first = SLASH then [SLASH] else [DOT]
    | _ :: before => if first = SLASH ∧ before = [] then [SLASH, SLASH] else first :: before.reverse

/-- What follows the last dot of a file name, with that dot, unless nothing stands before it. -/
def extension (base : JsString) : JsString :=
  let suffix := (base.reverse.takeWhile (· ≠ DOT)).reverse
  if base = [DOT, DOT] ∨ base.length ≤ suffix.length + 1 then [] else DOT :: suffix

/-- `path.extname(path)`. -/
def extname (path : JsString) : JsString :=
  extension (basename path)

theorem readSegment_name (name : Name) : readSegment name.text = .down name := by
  obtain ⟨text, nonempty, noSlash, notDot, notDotDot⟩ := name
  simp only [readSegment]
  rw [dif_neg nonempty, dif_neg notDot, dif_neg notDotDot, dif_neg noSlash]

theorem segments_nil : segments [] = [.stay] := by
  decide

theorem segments_append (before after : JsString) :
    segments (before ++ SLASH :: after) = segments before ++ segments after := by
  simp only [segments, List.splitOn_append_cons_self, List.map_append]

theorem segments_name (name : Name) : segments name.text = [.down name] := by
  simp only [segments, List.splitOn_eq_singleton name.noSlash, List.map_cons, List.map_nil, readSegment_name]

theorem joinSlash_cons_cons (a b : JsString) (rest : List JsString) :
    joinSlash (a :: b :: rest) = a ++ SLASH :: joinSlash (b :: rest) := by
  simp [joinSlash, List.intercalate_cons_cons]

theorem segments_joinSlash (name : Name) (rest : Names) :
    segments (joinSlash ((name :: rest).map Name.text)) = (name :: rest).map Segment.down := by
  induction rest generalizing name with
  | nil => simpa [joinSlash] using segments_name name
  | cons next rest ih =>
    simp only [List.map_cons] at ih ⊢
    rw [joinSlash_cons_cons, segments_append, segments_name, ih]
    rfl

theorem segments_absolute (name : Name) (rest : Names) :
    segments (absolute (name :: rest)) = .stay :: (name :: rest).map Segment.down := by
  have happend := segments_append [] (joinSlash ((name :: rest).map Name.text))
  rw [segments_nil, segments_joinSlash] at happend
  exact happend

theorem foldl_move_downs (start names : Names) : (names.map Segment.down).foldl move start = start ++ names := by
  induction names generalizing start with
  | nil => simp
  | cons name rest ih =>
    rw [List.map_cons, List.foldl_cons, ih]
    simp [move]

@[simp] theorem placeOf_absolute (names : Names) : placeOf (absolute names) = names := by
  cases names with
  | nil => decide
  | cons name rest =>
    rw [placeOf, segments_absolute, List.foldl_cons, foldl_move_downs]
    rfl

theorem absolute_injective {a b : Names} (h : absolute a = absolute b) : a = b := by
  rw [← placeOf_absolute a, h, placeOf_absolute]

theorem absolute_ne_nil (names : Names) : absolute names ≠ [] := by
  simp [absolute]

namespace Relative

variable (relative : Relative)

/-- The parts of the text of a relative path. -/
def texts : List JsString :=
  List.replicate relative.ups [DOT, DOT] ++ relative.names.map Name.text

end Relative

theorem noSlash_basename (path : JsString) : SLASH ∉ basename path := by
  intro h
  have hmem := List.mem_takeWhile_imp (List.mem_reverse.mp h)
  simp at hmem

theorem dropWhile_slash_name (name : Name) (rest : JsString) :
    (name.text.reverse ++ rest).dropWhile (· = SLASH) = name.text.reverse ++ rest := by
  cases hreverse : name.text.reverse with
  | nil => exact absurd (List.reverse_eq_nil_iff.mp hreverse) name.nonempty
  | cons last before =>
    have hlast : last ≠ SLASH := by
      rintro rfl
      exact name.noSlash (List.mem_reverse.mp (hreverse ▸ List.mem_cons_self))
    simp [hlast]

theorem dropWhile_name (name : Name) (rest : JsString) :
    (name.text.reverse ++ SLASH :: rest).dropWhile (· ≠ SLASH) = SLASH :: rest := by
  have hall : ∀ u ∈ name.text.reverse, decide (u ≠ SLASH) = true := by
    intro u hu
    simp only [decide_eq_true_eq]
    rintro rfl
    exact name.noSlash (List.mem_reverse.mp hu)
  rw [List.dropWhile_append_of_pos hall]
  simp

theorem joinSlash_concat (first : Name) (names : Names) (last : Name) :
    joinSlash ((first :: names ++ [last]).map Name.text) =
      joinSlash ((first :: names).map Name.text) ++ SLASH :: last.text := by
  induction names generalizing first with
  | nil => simp [joinSlash]
  | cons next names ih =>
    have hstep := ih next
    simp only [List.cons_append, List.map_cons] at hstep ⊢
    rw [joinSlash_cons_cons, joinSlash_cons_cons, hstep, List.append_assoc, List.cons_append]

theorem absolute_concat (names : Names) (name : Name) :
    absolute (names ++ [name]) = (if names = [] then [] else absolute names) ++ SLASH :: name.text := by
  cases names with
  | nil => simp [absolute, joinSlash]
  | cons first rest =>
    rw [if_neg (List.cons_ne_nil _ _), absolute, absolute, joinSlash_concat, List.cons_append]

theorem dirname_root : dirname (absolute []) = absolute [] := by
  decide

theorem dirname_absolute_concat (names : Names) (name : Name) : dirname (absolute (names ++ [name])) = absolute names := by
  cases names with
  | nil =>
    have hname : (name.text.reverse.dropWhile (· = SLASH)).dropWhile (· ≠ SLASH) = [] := by
      have hstart := dropWhile_slash_name name []
      rw [List.append_nil] at hstart
      rw [hstart, List.dropWhile_eq_nil_iff]
      intro u hu
      rw [decide_eq_true_eq]
      rintro rfl
      exact name.noSlash (List.mem_reverse.mp hu)
    rw [absolute_concat, if_pos rfl, List.nil_append, dirname, hname]
    rfl
  | cons first rest =>
    have hne : (joinSlash ((first :: rest).map Name.text)).reverse ≠ [] := by
      rw [ne_eq, List.reverse_eq_nil_iff]
      intro hnil
      have hsame : absolute (first :: rest) = absolute [] := by
        rw [absolute, hnil]
        rfl
      cases absolute_injective hsame
    rw [absolute_concat, if_neg (List.cons_ne_nil _ _), absolute, List.cons_append, dirname, List.reverse_append,
      List.reverse_cons, List.append_assoc, List.singleton_append, dropWhile_slash_name, dropWhile_name]
    dsimp only
    rw [if_neg fun h => hne h.2, List.reverse_reverse]

@[simp] theorem dirname_absolute (names : Names) (name : Name) :
    dirname (absolute (names ++ [name])) = absolute names := by
  rw [absolute_concat]
  cases names with
  | nil =>
    have hscan : (name.text.reverse.dropWhile (· = SLASH)).dropWhile (· ≠ SLASH) = [] := by
      have htrim := dropWhile_slash_name name []
      rw [List.append_nil] at htrim
      rw [htrim, List.dropWhile_eq_nil_iff]
      intro u hu
      simp only [decide_eq_true_eq]
      rintro rfl
      exact name.noSlash (List.mem_reverse.mp hu)
    simp only [if_true, List.nil_append, dirname, hscan]
    rfl
  | cons first rest =>
    have habsolute : absolute (first :: rest) = SLASH :: joinSlash ((first :: rest).map Name.text) := rfl
    rw [if_neg (List.cons_ne_nil _ _), habsolute, List.cons_append]
    have hscan : ((joinSlash ((first :: rest).map Name.text) ++ SLASH :: name.text).reverse.dropWhile
        (· = SLASH)).dropWhile (· ≠ SLASH) = SLASH :: (joinSlash ((first :: rest).map Name.text)).reverse := by
      rw [List.reverse_append, List.reverse_cons, List.append_assoc, List.singleton_append, dropWhile_slash_name,
        dropWhile_name]
    have hne : joinSlash ((first :: rest).map Name.text) ≠ [] := by
      intro hnil
      have hsegments := segments_joinSlash first rest
      rw [hnil, segments_nil] at hsegments
      simp at hsegments
    simp only [dirname, hscan, List.reverse_eq_nil_iff, hne, and_false, if_false, List.reverse_reverse]

theorem placeOf_append (before after : JsString) :
    placeOf (before ++ SLASH :: after) = (segments after).foldl move (placeOf before) := by
  rw [placeOf, segments_append, List.foldl_append]
  rfl

theorem join_absolute (names : Names) (name : Name) :
    join [absolute names, name.text] = absolute (names ++ [name]) := by
  have hfilter : [absolute names, name.text].filter (· ≠ []) = [absolute names, name.text] := by
    simp [absolute_ne_nil, name.nonempty]
  have hjoined : joinSlash [absolute names, name.text] = absolute names ++ SLASH :: name.text := by
    rw [joinSlash_cons_cons]
    simp [joinSlash]
  have hplace : placeOf (absolute names ++ SLASH :: name.text) = names ++ [name] := by
    rw [placeOf_append, segments_name, placeOf_absolute]
    rfl
  have hlast : (absolute names ++ SLASH :: name.text).getLast? ≠ some SLASH := by
    have hname : (SLASH :: name.text).getLast? = name.text.getLast? :=
      List.getLast?_cons_of_ne_nil name.nonempty
    rw [List.getLast?_append_of_ne_nil _ (List.cons_ne_nil _ _), hname]
    intro hslash
    exact name.noSlash (List.mem_of_getLast? hslash)
  have hne : absolute names ++ SLASH :: name.text ≠ [] := by simp
  have habsolute : isAbsolute (absolute names ++ SLASH :: name.text) = true := by
    simp [isAbsolute, absolute]
  simp only [join, hfilter, hjoined, if_neg hne, normalize, if_pos habsolute, hplace, if_neg hlast, List.append_nil]
  rw [if_neg (by simp)]

end posix_path
