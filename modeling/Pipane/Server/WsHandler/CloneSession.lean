import Mathlib.Data.List.TakeWhile
import Mathlib.Logic.Function.Basic
import Pipane.Lib.BufferText
import Pipane.Lib.CodePoints
import Pipane.Lib.Json.Coerce
import Pipane.Lib.Json.Members

open javascript json

namespace pipane.ws_handler.clone_session

def MAX_SESSION_HEADER_BYTES : Nat := 64 * 1024

def LF : UInt8 := 0x0A

/-- The files by their paths. -/
abbrev Files := JsString → Option (List UInt8)

/-- What the operations of a clone come to. `read` says for each number of bytes that were read before whether the next
    read fails, or else how many bytes it takes beyond the first. A write or a stream that fails stops after so many
    bytes. -/
structure Io where
  opened : Bool
  read : Nat → Option Nat
  closed : Bool
  created : Bool
  written : Option Nat
  streamed : Option Nat
  unlinked : Bool

/-- Operations that do not fail; the reads may still be short. -/
def Io.working (read : Nat → Nat) : Io where
  opened := true
  read position := some (read position)
  closed := true
  created := true
  written := none
  streamed := none
  unlinked := true

def ioError : String := "EIO: i/o error"

/-- The loop that looks for the first line feed: what was read, and where the body starts. -/
def readHeader (content : List UInt8) (read : Nat → Option Nat) :
    Nat → List UInt8 → Except String (List UInt8 × Option Nat)
  | 0, buffered => .ok (buffered, none)
  | fuel + 1, buffered =>
    if MAX_SESSION_HEADER_BYTES < buffered.length then .ok (buffered, none)
    else
      match read buffered.length with
      | none => .error ioError
      | some more =>
        let length := min 4096 (MAX_SESSION_HEADER_BYTES + 1 - buffered.length)
        let chunk := (content.drop buffered.length).take (min (more + 1) length)
        if chunk = [] then .ok (buffered, none)
        else if LF ∈ buffered ++ chunk then .ok (buffered ++ chunk, some ((buffered ++ chunk).idxOf LF + 1))
        else readHeader content read fuel (buffered ++ chunk)

/-- `replace(/\r$/, "")` -/
def dropCarriageReturn (text : JsString) : JsString :=
  if text.getLast? = some 0x0D then text.dropLast else text

def isText : Option Value → Bool
  | some (.str _) => true
  | _ => false

/-- The own properties of a header. -/
def members : Value → List (JsString × Value)
  | .obj members => members
  | _ => []

/-- A line as a session header. -/
def parseHeader (line : List UInt8) : Except String Value :=
  match parse (dropCarriageReturn (bufferText line)) with
  | none => .error "Invalid session header"
  | some .null => .error "Cannot read properties of null (reading 'type')"
  | some header =>
    if isStr (js "session") (header.get? (js "type")) = false ∨ isText (header.get? (js "id")) = false then
      .error "Invalid session header"
    else .ok header

/-- The header of what was read. -/
def decodeHeader (buffered : List UInt8) (bodyOffset : Option Nat) : Except String Value :=
  if buffered = [] ∨ (bodyOffset = none ∧ MAX_SESSION_HEADER_BYTES < buffered.length) then
    .error "Invalid or oversized session header"
  else
    match bodyOffset with
    | none => parseHeader buffered
    | some start => parseHeader (buffered.take (start - 1))

/-- `{ ...header, id, timestamp }` -/
def renewHeader (header : Value) (id timestamp : JsString) : Value :=
  .obj (defineMember (defineMember (members header) (js "id", .str id)) (js "timestamp", .str timestamp))

def headerLine (header : Value) (id timestamp : JsString) : List UInt8 :=
  textEncode (stringify (renewHeader header id timestamp) ++ js "\n")

/-- `cloneSessionFile` from the creation of the destination on. -/
def writeClone (io : Io) (content line : List UInt8) (bodyOffset : Option Nat) (destinationPath : JsString)
    (files : Files) : Except String Unit × Files :=
  if files destinationPath ≠ none then (.error "EEXIST: file already exists", files)
  else if io.created = false then (.error ioError, files)
  else
    match io.written with
    | some count => (.error ioError, Function.update files destinationPath (some (line.take count)))
    | none =>
      match bodyOffset with
      | none => (.ok (), Function.update files destinationPath (some line))
      | some start =>
        match io.streamed with
        | none => (.ok (), Function.update files destinationPath (some (line ++ content.drop start)))
        | some count =>
          if io.unlinked then (.error ioError, Function.update files destinationPath none)
          else
            (.error ioError, Function.update files destinationPath (some (line ++ (content.drop start).take count)))

/-- What `cloneSessionFile` reads of its source. -/
def readSource (io : Io) (content : List UInt8) : Except String (Value × Option Nat) :=
  match readHeader content io.read (content.length + 1) [] with
  | .error e => .error e
  | .ok (buffered, bodyOffset) =>
    if io.closed = false then .error ioError
    else (decodeHeader buffered bodyOffset).map fun header => (header, bodyOffset)

/-- `id` is the random id and `timestamp` the time of the clone. -/
def cloneSessionFile (io : Io) (sourcePath destinationPath id timestamp : JsString) (files : Files) :
    Except String Unit × Files :=
  match files sourcePath with
  | none => (.error "ENOENT: no such file or directory", files)
  | some content =>
    if io.opened = false then (.error ioError, files)
    else
      match readSource io content with
      | .error e => (.error e, files)
      | .ok (header, bodyOffset) =>
        writeClone io content (headerLine header id timestamp) bodyOffset destinationPath files

/-! The header is the first line. -/

/-- The first line without its line feed. -/
def firstLine (content : List UInt8) : List UInt8 :=
  content.takeWhile fun byte => byte ≠ LF

/-- What follows the first line feed. -/
def body (content : List UInt8) : List UInt8 :=
  content.drop ((firstLine content).length + 1)

/-- A session of one message, read byte by byte. -/
def smallSession : List UInt8 :=
  textEncode (js "\x7b\"type\":\"session\",\"id\":\"a\"\x7d\n\x7b\x7d\n")

/-- What `fork_current` meets besides the operations of the clone: the path of the source, the path for the clone, whether
    the session is available, the path of the clone once it is there, and whether the response can be sent. -/
structure ForkCurrent where
  resolved : Except String JsString
  created : Except String JsString
  available : Except String Unit
  confirmed : Except String JsString
  sent : Bool

def handleForkCurrent (io : Io) (fork : ForkCurrent) (id timestamp : JsString) (files : Files) :
    Except String JsString × Files :=
  match fork.resolved with
  | .error e => (.error e, files)
  | .ok sessionPath =>
    match fork.created with
    | .error e => (.error e, files)
    | .ok newSessionPath =>
      match fork.available with
      | .error e => (.error e, files)
      | .ok () =>
        match cloneSessionFile io sessionPath newSessionPath id timestamp files with
        | (.error e, files) => (.error e, files)
        | (.ok (), files) => (fork.confirmed, files)

/-- Whether the command is answered with success, and the files then. -/
def answerForkCurrent (io : Io) (fork : ForkCurrent) (id timestamp : JsString) (files : Files) : Bool × Files :=
  match handleForkCurrent io fork id timestamp files with
  | (.error _, files) => (false, files)
  | (.ok _, files) => (fork.sent, files)

/-- A clone that fails, and a command that is answered with an error, leave every file as it was. -/
structure NoDebris (io : Io) (fork : ForkCurrent) (id timestamp : JsString) (files : Files) : Prop where
  clone : ∀ source destination, fork.resolved = .ok source → fork.created = .ok destination →
    (cloneSessionFile io source destination id timestamp files).1 ≠ .ok () →
      (cloneSessionFile io source destination id timestamp files).2 = files
  command : (answerForkCurrent io fork id timestamp files).1 = false →
    (answerForkCurrent io fork id timestamp files).2 = files

/-- The source is read, its header is in order and the destination is created. -/
def Creates (io : Io) (source destination : JsString) (files : Files) (bodyOffset : Option Nat) : Prop :=
  ∃ content header, files source = some content ∧ io.opened = true ∧ readSource io content = .ok (header, bodyOffset) ∧
    files destination = none ∧ io.created = true

/-- Once the destination is created, its first line is written whole; the rest is copied too, or the file is removed; and
    nothing goes wrong after the clone. -/
def Completes (io : Io) (fork : ForkCurrent) (files : Files) : Prop :=
  ∀ source destination bodyOffset, fork.resolved = .ok source → fork.created = .ok destination →
    Creates io source destination files bodyOffset →
      io.written = none ∧ (bodyOffset ≠ none → io.streamed = none ∨ io.unlinked = true) ∧
        (fork.available = .ok () → bodyOffset = none ∨ io.streamed = none →
          (∃ path, fork.confirmed = .ok path) ∧ fork.sent = true)

theorem cloneSessionFile_created {io : Io} {source destination : JsString} {files : Files} {bodyOffset : Option Nat}
    (id timestamp : JsString) (h : Creates io source destination files bodyOffset) :
    ∃ content line, cloneSessionFile io source destination id timestamp files =
      match io.written with
      | some count => (.error ioError, Function.update files destination (some (List.take count line)))
      | none =>
        match bodyOffset with
        | none => (.ok (), Function.update files destination (some line))
        | some start =>
          match io.streamed with
          | none => (.ok (), Function.update files destination (some (line ++ List.drop start content)))
          | some count =>
            if io.unlinked then (.error ioError, Function.update files destination none)
            else (.error ioError,
              Function.update files destination (some (line ++ List.take count (List.drop start content)))) := by
  obtain ⟨content, header, hsource, hopened, hread, hfree, hcreated⟩ := h
  refine ⟨content, headerLine header id timestamp, ?_⟩
  rw [cloneSessionFile, hsource]
  dsimp only
  rw [hopened, if_neg (by decide), hread]
  dsimp only
  rw [writeClone.eq_def, if_neg (not_not.mpr hfree), hcreated, if_neg (by decide)]

theorem cloneSessionFile_not_created {io : Io} {source destination : JsString} {files : Files} (id timestamp : JsString)
    (h : ∀ bodyOffset, ¬ Creates io source destination files bodyOffset) :
    (∃ e, (cloneSessionFile io source destination id timestamp files).1 = .error e) ∧
      (cloneSessionFile io source destination id timestamp files).2 = files := by
  rw [cloneSessionFile]
  split
  · exact ⟨⟨_, rfl⟩, rfl⟩
  · rename_i content hsource
    split
    · exact ⟨⟨_, rfl⟩, rfl⟩
    rename_i hopened
    split
    · exact ⟨⟨_, rfl⟩, rfl⟩
    rename_i header bodyOffset hread
    rw [writeClone.eq_def]
    split
    · exact ⟨⟨_, rfl⟩, rfl⟩
    rename_i hfree
    split
    · exact ⟨⟨_, rfl⟩, rfl⟩
    · rename_i hcreated
      refine absurd ⟨content, header, hsource, ?_, hread, not_not.mp hfree, ?_⟩ (h bodyOffset)
      · rwa [Bool.not_eq_false] at hopened
      · rwa [Bool.not_eq_false] at hcreated

theorem update_ne {files : Files} {destination : JsString} (hfree : files destination = none)
    (bytes : List UInt8) : Function.update files destination (some bytes) ≠ files := by
  intro hsame
  have hat := congrFun hsame destination
  rw [Function.update_self, hfree] at hat
  cases hat

theorem answerForkCurrent_eq {io : Io} {fork : ForkCurrent} {source destination : JsString}
    (hsource : fork.resolved = .ok source) (hdestination : fork.created = .ok destination)
    (havailable : fork.available = .ok ()) (id timestamp : JsString) (files : Files) :
    answerForkCurrent io fork id timestamp files =
      match cloneSessionFile io source destination id timestamp files with
      | (.error _, files) => (false, files)
      | (.ok (), files) =>
        match fork.confirmed with
        | .error _ => (false, files)
        | .ok _ => (fork.sent, files) := by
  rw [answerForkCurrent, handleForkCurrent, hsource, hdestination, havailable]
  dsimp only
  obtain ⟨result, files'⟩ := cloneSessionFile io source destination id timestamp files
  cases result with
  | error e => rfl
  | ok done =>
    cases fork.confirmed with
    | error e => rfl
    | ok path => rfl

theorem answerForkCurrent_unavailable {io : Io} {fork : ForkCurrent} (id timestamp : JsString) (files : Files)
    (h : ¬ ∃ source destination, fork.resolved = .ok source ∧ fork.created = .ok destination ∧ fork.available = .ok ()) :
    (answerForkCurrent io fork id timestamp files).2 = files := by
  rw [answerForkCurrent, handleForkCurrent]
  cases hsource : fork.resolved with
  | error e => rfl
  | ok source =>
    cases hdestination : fork.created with
    | error e => rfl
    | ok destination =>
      cases havailable : fork.available with
      | error e => rfl
      | ok available => exact absurd ⟨source, destination, hsource, hdestination, havailable⟩ h

/-- A clone that is written whole or removed succeeds or leaves the files as they were. -/
theorem cloneSessionFile_completes {io : Io} {source destination : JsString} {files : Files} {bodyOffset : Option Nat}
    (id timestamp : JsString) (h : Creates io source destination files bodyOffset) (hwritten : io.written = none)
    (hstreamed : bodyOffset ≠ none → io.streamed = none ∨ io.unlinked = true) :
    ((cloneSessionFile io source destination id timestamp files).1 = .ok () ∧
        (bodyOffset = none ∨ io.streamed = none)) ∨
      (∃ e, (cloneSessionFile io source destination id timestamp files).1 = .error e) ∧
        (cloneSessionFile io source destination id timestamp files).2 = files := by
  obtain ⟨content, line, hclone⟩ := cloneSessionFile_created id timestamp h
  have hfree : files destination = none := by
    obtain ⟨-, -, -, -, -, hfree, -⟩ := h
    exact hfree
  rw [hclone, hwritten]
  cases bodyOffset with
  | none => exact .inl ⟨rfl, .inl rfl⟩
  | some start =>
    cases hcount : io.streamed with
    | none => exact .inl ⟨rfl, .inr rfl⟩
    | some count =>
      have hunlinked : io.unlinked = true := by
        rcases hstreamed (Option.some_ne_none _) with hnone | hunlinked
        · rw [hcount] at hnone
          cases hnone
        · exact hunlinked
      dsimp only
      rw [hunlinked, if_pos rfl]
      exact .inr ⟨⟨_, rfl⟩, Function.update_eq_self_iff.mpr hfree.symm⟩

/-- Nothing is left of a clone whose steps complete. -/
theorem NoDebris.of_completes {io : Io} {fork : ForkCurrent} {files : Files} (id timestamp : JsString)
    (h : Completes io fork files) : NoDebris io fork id timestamp files := by
  constructor
  · intro source destination hsource hdestination hfailed
    by_cases hcreates : ∃ bodyOffset, Creates io source destination files bodyOffset
    · obtain ⟨bodyOffset, hcreates⟩ := hcreates
      obtain ⟨hwritten, hstreamed, -⟩ := h source destination bodyOffset hsource hdestination hcreates
      rcases cloneSessionFile_completes id timestamp hcreates hwritten hstreamed with ⟨hok, -⟩ | ⟨-, hkept⟩
      · exact absurd hok hfailed
      · exact hkept
    · exact (cloneSessionFile_not_created id timestamp (not_exists.mp hcreates)).2
  · intro hanswer
    by_cases hready : ∃ source destination, fork.resolved = .ok source ∧ fork.created = .ok destination ∧
        fork.available = .ok ()
    · obtain ⟨source, destination, hsource, hdestination, havailable⟩ := hready
      rw [answerForkCurrent_eq hsource hdestination havailable] at hanswer ⊢
      by_cases hcreates : ∃ bodyOffset, Creates io source destination files bodyOffset
      · obtain ⟨bodyOffset, hcreates⟩ := hcreates
        obtain ⟨hwritten, hstreamed, hafter⟩ := h source destination bodyOffset hsource hdestination hcreates
        have hcases := cloneSessionFile_completes id timestamp hcreates hwritten hstreamed
        generalize cloneSessionFile io source destination id timestamp files = result at hanswer hcases ⊢
        obtain ⟨outcome, files'⟩ := result
        rcases hcases with ⟨hok, hwhole⟩ | ⟨⟨e, herror⟩, hkept⟩
        · obtain ⟨⟨path, hconfirmed⟩, hsent⟩ := hafter havailable hwhole
          dsimp only at hok
          rw [hok, hconfirmed, hsent] at hanswer
          cases hanswer
        · dsimp only at herror hkept
          rw [herror]
          exact hkept
      · obtain ⟨⟨e, herror⟩, hkept⟩ := cloneSessionFile_not_created id timestamp (not_exists.mp hcreates)
        generalize cloneSessionFile io source destination id timestamp files = result at herror hkept ⊢
        obtain ⟨outcome, files'⟩ := result
        dsimp only at herror hkept
        rw [herror]
        exact hkept
    · exact answerForkCurrent_unavailable id timestamp files hready

/-- A created destination stays unless the clone succeeds and the command with it. -/
theorem Completes.of_noDebris {io : Io} {fork : ForkCurrent} {id timestamp : JsString} {files : Files}
    (h : NoDebris io fork id timestamp files) : Completes io fork files := by
  intro source destination bodyOffset hsource hdestination hcreates
  obtain ⟨content, line, hclone⟩ := cloneSessionFile_created id timestamp hcreates
  have hfree : files destination = none := by
    obtain ⟨-, -, -, -, -, hfree, -⟩ := hcreates
    exact hfree
  have hleft := h.clone source destination hsource hdestination
  have hwritten : io.written = none := by
    by_contra hsome
    obtain ⟨count, hcount⟩ := Option.ne_none_iff_exists'.mp hsome
    rw [hclone, hcount] at hleft
    exact update_ne hfree _ (hleft (fun hok => by cases hok))
  rw [hwritten] at hclone
  refine ⟨hwritten, fun hbody => ?_, fun havailable hwhole => ?_⟩
  · obtain ⟨start, rfl⟩ := Option.ne_none_iff_exists'.mp hbody
    by_contra hpart
    obtain ⟨hstreamed, hunlinked⟩ := not_or.mp hpart
    obtain ⟨count, hcount⟩ := Option.ne_none_iff_exists'.mp hstreamed
    rw [hclone, hcount] at hleft
    dsimp only at hleft
    rw [if_neg hunlinked] at hleft
    exact update_ne hfree _ (hleft (fun hok => by cases hok))
  · have hdone : ∃ bytes, cloneSessionFile io source destination id timestamp files =
        (.ok (), Function.update files destination (some bytes)) := by
      rw [hclone]
      cases bodyOffset with
      | none => exact ⟨_, rfl⟩
      | some start =>
        rcases hwhole with hnone | hnone
        · cases hnone
        · rw [hnone]
          exact ⟨_, rfl⟩
    obtain ⟨bytes, hdone⟩ := hdone
    have hcommand := h.command
    rw [answerForkCurrent_eq hsource hdestination havailable, hdone] at hcommand
    cases hconfirmed : fork.confirmed with
    | error e =>
      rw [hconfirmed] at hcommand
      exact absurd (hcommand rfl) (update_ne hfree _)
    | ok path =>
      rw [hconfirmed] at hcommand
      refine ⟨⟨path, rfl⟩, ?_⟩
      by_contra hsent
      exact update_ne hfree _ (hcommand ((Bool.not_eq_true _).mp hsent))

/-- For every source and every way in which the operations can come out. -/
theorem noDebris_iff (io : Io) (fork : ForkCurrent) (id timestamp : JsString) (files : Files) :
    NoDebris io fork id timestamp files ↔ Completes io fork files :=
  ⟨Completes.of_noDebris, NoDebris.of_completes id timestamp⟩

/-- The first line of the clone is written in part only. -/
theorem clone_header_left :
    ¬ NoDebris { Io.working (fun _ => 4096) with written := some 5 }
      ⟨.ok (js "/a.jsonl"), .ok (js "/b.jsonl"), .ok (), .ok (js "/b.jsonl"), true⟩ (js "b") (js "now")
      fun path => if path = js "/a.jsonl" then some smallSession else none := by
  intro h
  have hleft := congrFun (h.clone _ _ rfl rfl (by decide +kernel)) (js "/b.jsonl")
  revert hleft
  decide +kernel

end pipane.ws_handler.clone_session
