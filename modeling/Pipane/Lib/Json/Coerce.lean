import Pipane.Lib.Json

open javascript

namespace json

/-- Whether a value passes an `if`. -/
def Value.truthy : Value → Bool
  | .null => false
  | .bool b => b
  | .num (.int n) => n ≠ 0
  | .num (.literal _) => true
  | .str s => s ≠ []
  | .arr _ => true
  | .obj _ => true

/-- The same for a property that may be missing. -/
def truthy : Option Value → Bool
  | none => false
  | some v => v.truthy

/-- `v === s` for a string `s`. -/
def Value.isStr (s : JsString) : Value → Bool
  | .str t => t = s
  | _ => false

def isStr (s : JsString) : Option Value → Bool
  | none => false
  | some v => v.isStr s

/-- `v === n` for an integer `n`. -/
def Value.isInt (n : Int) : Value → Bool
  | .num (.int m) => m = n
  | _ => false

mutual

/-- `String(v)`, which is also the property that `record[v]` names. -/
def Value.text : Value → JsString
  | .null => js "null"
  | .bool true => js "true"
  | .bool false => js "false"
  | .num n => stringifyNumber n
  | .str s => s
  | .arr items => itemsText items
  | .obj _ => js "[object Object]"

/-- `items.join(",")`, in which `null` is the empty text. -/
def itemsText : List Value → JsString
  | [] => []
  | [.null] => []
  | [v] => v.text
  | .null :: w :: rest => 0x2C :: itemsText (w :: rest)
  | v :: w :: rest => v.text ++ 0x2C :: itemsText (w :: rest)

end

/-- The property that `record[v]` names for a property `v` that may be missing. -/
def propertyKey : Option Value → JsString
  | none => js "undefined"
  | some v => v.text

/-- `String(v ?? "")`. -/
def textOrEmpty : Option Value → JsString
  | none => []
  | some .null => []
  | some v => v.text

def isSafeInteger (n : Int) : Bool :=
  -9007199254740991 ≤ n && n ≤ 9007199254740991

theorem isStr_iff {s : JsString} {v : Option Value} : isStr s v = true ↔ v = some (.str s) := by
  cases v with
  | none => simp [isStr]
  | some v => cases v <;> simp [isStr, Value.isStr]

end json
