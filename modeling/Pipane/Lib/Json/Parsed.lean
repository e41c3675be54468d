import Pipane.Lib.Json.RoundTrip

open javascript

namespace json

/-! What `JSON.parse` returns is canonical. -/

end json
