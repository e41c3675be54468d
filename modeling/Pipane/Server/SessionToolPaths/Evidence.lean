import Pipane.Server.SessionToolPaths

open javascript json posix_path

namespace pipane.session_tool_paths

/-! The branch: the last entry and everything its parent links lead to. -/

/-- No occurrence from one position up to another has the id. -/
def Absent (occurrences : List Occurrence) (id : JsString) (first last : Nat) : Prop :=
  ∀ k, first ≤ k → k < last → ∀ occurrence, occurrences[k]? = some occurrence → occurrence.id ≠ id

/-- The first later occurrence of the id of the call at `i` is the result at `j`, and no error. -/
def Answered (occurrences : List Occurrence) (i j : Nat) : Prop :=
  ∃ id, (∃ paths, occurrences[i]? = some (.call id paths)) ∧ occurrences[j]? = some (.result id false) ∧ i < j ∧
    Absent occurrences id (i + 1) j

variable {occurrences : List Occurrence} {last : Occurrence} {id : JsString} {i j : Nat}

end pipane.session_tool_paths
