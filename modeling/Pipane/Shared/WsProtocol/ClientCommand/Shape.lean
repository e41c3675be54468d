import Pipane.Lib.Checks
import Pipane.Shared.WsProtocol.ClientCommand

open javascript json checks

namespace pipane.ws_protocol

/-- The texts that an operation id may have. -/
def IsOperationId (text : JsString) : Prop :=
  text ≠ [] ∧ text.length ≤ 128 ∧ text.all isOperationIdUnit = true

end pipane.ws_protocol
