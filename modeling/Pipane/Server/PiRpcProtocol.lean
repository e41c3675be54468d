import Pipane.Lib.StringDecoder

open javascript

namespace pipane.pi_rpc_protocol

/-- What the stream hands over: bytes, or text where it has an encoding of its own. -/
inductive Chunk
  | bytes (chunk : List UInt8)
  | text (chunk : JsString)

/-- A line without its trailing carriage return. -/
def chompCr (line : JsString) : JsString :=
  if line.getLast? = some CR then line.dropLast else line

/-- The loop of `consume`: the lines that it hands over, and what is left in the buffer. -/
def takeLines (buffer : JsString) : List JsString × JsString :=
  let line := buffer.takeWhile (· ≠ LF)
  if line.length < buffer.length then
    let (lines, rest) := takeLines (buffer.drop (line.length + 1))
    (if chompCr line = [] then lines else chompCr line :: lines, rest)
  else ([], buffer)
termination_by buffer.length
decreasing_by
  rw [List.length_drop]
  omega

/-- A reader as `attachStrictJsonlReader` sets it up, with the lines that it has handed over. -/
structure JsonlReader where
  decoder : StringDecoder := none
  buffer : JsString := []
  lines : List JsString := []

namespace JsonlReader

def consume (self : JsonlReader) (chunk : Chunk) : JsonlReader :=
  let (text, decoder) := match chunk with
    | .text text => (text, self.decoder)
    | .bytes bytes => self.decoder.write bytes
  let (lines, buffer) := takeLines (self.buffer ++ text)
  ⟨decoder, buffer, self.lines ++ lines⟩

def finish (self : JsonlReader) : JsonlReader :=
  let buffer := self.buffer ++ self.decoder.finish
  ⟨none, [], if buffer = [] then self.lines else self.lines ++ [chompCr buffer]⟩

end JsonlReader

/-- The lines of a stream that hands over the chunks and ends. -/
def attachStrictJsonlReader (chunks : List Chunk) : List JsString :=
  (chunks.foldl JsonlReader.consume {}).finish.lines

/-! What the lines are. -/

/-- A record without its trailing carriage return. -/
def record (segment : List UInt8) : JsString :=
  chompCr (utf8Text segment)

/-- The records of a stream: those that a line feed ends, without the empty ones, and what the end of the stream ends. -/
def records (bytes : List UInt8) : List JsString :=
  let segments := bytes.splitOn LF_BYTE
  (segments.dropLast.map record).filter (· ≠ []) ++ ((segments.getLast?.filter (· ≠ [])).map record).toList

theorem takeWhile_line {line rest : JsString} (h : LF ∉ line) (hrest : rest.takeWhile (· ≠ LF) = []) :
    (line ++ rest).takeWhile (· ≠ LF) = line := by
  have hall : ∀ u ∈ line, decide (u ≠ LF) = true := by
    intro u hu
    rw [decide_eq_true_eq]
    rintro rfl
    exact h hu
  rw [List.takeWhile_append_of_pos hall, hrest, List.append_nil]

theorem takeLines_of_not_mem {text : JsString} (h : LF ∉ text) : takeLines text = ([], text) := by
  have hall : text.takeWhile (· ≠ LF) = text := by
    have hline := @takeWhile_line text [] h rfl
    rwa [List.append_nil] at hline
  rw [takeLines]
  dsimp only
  rw [hall, if_neg (Nat.lt_irrefl _)]

theorem takeLines_cons {line : JsString} (h : LF ∉ line) (rest : JsString) :
    takeLines (line ++ LF :: rest) =
      (if chompCr line = [] then (takeLines rest).1 else chompCr line :: (takeLines rest).1, (takeLines rest).2) := by
  have hline : (line ++ LF :: rest).takeWhile (· ≠ LF) = line :=
    takeWhile_line h (List.takeWhile_cons_of_neg (by decide))
  have hdrop : (line ++ LF :: rest).drop (line.length + 1) = rest := by
    rw [← List.drop_drop, List.drop_left]
    rfl
  rw [takeLines]
  dsimp only
  rw [hline, if_pos (by rw [List.length_append, List.length_cons]; omega), hdrop]

theorem lineFeed_cases (text : JsString) : LF ∉ text ∨ ∃ line rest, LF ∉ line ∧ text = line ++ LF :: rest := by
  by_cases h : LF ∈ text
  · obtain ⟨line, rest, htext, hline⟩ := List.eq_append_cons_of_mem h
    exact .inr ⟨line, rest, hline, htext⟩
  · exact .inl h

theorem notLineFeed_takeLines (text : JsString) : LF ∉ (takeLines text).2 := by
  induction hlength : text.length using Nat.strong_induction_on generalizing text with
  | _ n ih =>
    rcases lineFeed_cases text with h | ⟨line, rest, hline, rfl⟩
    · rwa [takeLines_of_not_mem h]
    · rw [takeLines_cons hline]
      refine ih rest.length ?_ rest rfl
      rw [← hlength, List.length_append, List.length_cons]
      omega

theorem takeLines_append (text more : JsString) :
    takeLines (text ++ more) =
      ((takeLines text).1 ++ (takeLines ((takeLines text).2 ++ more)).1, (takeLines ((takeLines text).2 ++ more)).2) := by
  induction hlength : text.length using Nat.strong_induction_on generalizing text with
  | _ n ih =>
    rcases lineFeed_cases text with h | ⟨line, rest, hline, rfl⟩
    · rw [takeLines_of_not_mem h]
      rfl
    · have hrest := ih rest.length (by rw [← hlength, List.length_append, List.length_cons]; omega) rest rfl
      rw [List.append_assoc, List.cons_append, takeLines_cons hline, takeLines_cons hline, hrest]
      dsimp only
      split <;> rfl

theorem foldl_consume (chunks : List (List UInt8)) :
    let text := ofScalars (StringDecoder.chars none chunks.flatten).1
    (chunks.map Chunk.bytes).foldl JsonlReader.consume {} =
      ⟨(StringDecoder.chars none chunks.flatten).2, (takeLines text).2, (takeLines text).1⟩ := by
  induction chunks using List.reverseRecOn with
  | nil =>
    have hempty := @takeLines_of_not_mem [] List.not_mem_nil
    dsimp only
    rw [List.flatten_nil, StringDecoder.chars, ofScalars_nil, hempty]
    rfl
  | append_singleton chunks chunk ih =>
    dsimp only at ih ⊢
    rw [List.map_append, List.foldl_append, ih, List.flatten_append, List.flatten_singleton, chars_append, ofScalars_append,
      takeLines_append]
    rfl

theorem attachStrictJsonlReader_text (chunks : List (List UInt8)) :
    attachStrictJsonlReader (chunks.map Chunk.bytes) =
      (takeLines (utf8Text chunks.flatten)).1 ++
        (if (takeLines (utf8Text chunks.flatten)).2 = [] then [] else [chompCr (takeLines (utf8Text chunks.flatten)).2]) := by
  have hstate := foldl_consume chunks
  dsimp only at hstate
  have htext : utf8Text chunks.flatten =
      ofScalars (StringDecoder.chars none chunks.flatten).1 ++ (StringDecoder.chars none chunks.flatten).2.finish := by
    have hwritten := write_append_text none chunks.flatten []
    rw [List.append_nil, ← finish_eq] at hwritten
    exact hwritten.symm
  have hnone : LF ∉ (StringDecoder.chars none chunks.flatten).2.finish := by
    rw [StringDecoder.finish]
    split
    · decide
    · exact List.not_mem_nil
  have hbuffer := notLineFeed_takeLines (ofScalars (StringDecoder.chars none chunks.flatten).1)
  rw [attachStrictJsonlReader, hstate, JsonlReader.finish, htext, takeLines_append,
    takeLines_of_not_mem (List.not_mem_append hbuffer hnone)]
  dsimp only
  rw [List.append_nil]
  split
  · rw [List.append_nil]
  · rfl

theorem records_of_not_mem {bytes : List UInt8} (h : LF_BYTE ∉ bytes) :
    records bytes = if bytes = [] then [] else [record bytes] := by
  rw [records, List.splitOn_eq_singleton h]
  by_cases hempty : bytes = []
  · rw [if_pos hempty, hempty]
    rfl
  · rw [if_neg hempty]
    simp [hempty]

theorem records_cons {segment : List UInt8} (h : LF_BYTE ∉ segment) (rest : List UInt8) :
    records (segment ++ LF_BYTE :: rest) =
      if record segment = [] then records rest else record segment :: records rest := by
  have hsegments := List.splitOn_ne_nil LF_BYTE rest
  rw [records, List.splitOn_append_cons_self_of_not_mem h, List.dropLast_cons_of_ne_nil hsegments,
    List.getLast?_cons_of_ne_nil hsegments, List.map_cons]
  by_cases hempty : record segment = []
  · rw [if_pos hempty, List.filter_cons_of_neg (by simp [hempty])]
    rfl
  · rw [if_neg hempty, List.filter_cons_of_pos (by simp [hempty])]
    rfl

/-- However the bytes of a stream are split into chunks, the lines are the records of the stream. -/
theorem strict_jsonl_records (chunks : List (List UInt8)) :
    attachStrictJsonlReader (chunks.map Chunk.bytes) = records chunks.flatten := by
  rw [attachStrictJsonlReader_text]
  generalize chunks.flatten = bytes
  induction hlength : bytes.length using Nat.strong_induction_on generalizing bytes with
  | _ n ih =>
    by_cases h : LF_BYTE ∈ bytes
    · obtain ⟨segment, rest, rfl, hsegment⟩ := List.eq_append_cons_of_mem h
      have hrest := ih rest.length (by rw [← hlength, List.length_append, List.length_cons]; omega) rest rfl
      rw [utf8Text_lineFeed, takeLines_cons (notLineFeed_utf8Text hsegment), records_cons hsegment, ← hrest]
      by_cases hempty : chompCr (utf8Text segment) = []
      · rw [if_pos hempty, if_pos (show record segment = [] from hempty)]
      · rw [if_neg hempty, if_neg (show record segment ≠ [] from hempty)]
        rfl
    · rw [takeLines_of_not_mem (notLineFeed_utf8Text h), records_of_not_mem h, List.nil_append]
      by_cases hempty : bytes = []
      · rw [if_pos hempty, if_pos (utf8Text_eq_nil_iff.mpr hempty)]
      · rw [if_neg hempty, if_neg (mt utf8Text_eq_nil_iff.mp hempty)]
        rfl

end pipane.pi_rpc_protocol
