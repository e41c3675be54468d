import Pipane.Lib.JsString

open javascript

namespace json

/-- A JSON number: an integer, or the literal of a number that is not one. -/
inductive Number
  | int (n : Int)
  | literal (text : JsString)
deriving DecidableEq, Repr

/-- What `JSON.parse` returns. Objects list their own properties in order. -/
inductive Value
  | null
  | bool (b : Bool)
  | num (n : Number)
  | str (s : JsString)
  | arr (items : List Value)
  | obj (members : List (JsString × Value))
deriving Repr

/-- `value[key]` of an object; `none` is `undefined`. -/
def Value.get? (key : JsString) : Value → Option Value
  | .obj members => members.lookup key
  | _ => none

def hexDigit (n : Nat) : UInt16 :=
  if n < 10 then UInt16.ofNat (48 + n) else UInt16.ofNat (87 + n)

def unicodeEscape (u : UInt16) : JsString :=
  [0x5C, 0x75, hexDigit (u.toNat / 4096), hexDigit (u.toNat / 256 % 16), hexDigit (u.toNat / 16 % 16),
    hexDigit (u.toNat % 16)]

/-- One code unit inside a quoted string. A surrogate that reaches this function is a lone one. -/
def quoteUnit (u : UInt16) : JsString :=
  if u = 0x22 then [0x5C, 0x22]
  else if u = 0x5C then [0x5C, 0x5C]
  else if u = 0x08 then [0x5C, 0x62]
  else if u = 0x0C then [0x5C, 0x66]
  else if u = 0x0A then [0x5C, 0x6E]
  else if u = 0x0D then [0x5C, 0x72]
  else if u = 0x09 then [0x5C, 0x74]
  else if u.toNat < 0x20 || isHighSurrogate u || isLowSurrogate u then unicodeEscape u
  else [u]

def quoteUnits : JsString → JsString
  | [] => []
  | [u] => quoteUnit u
  | u :: v :: rest =>
    if isHighSurrogate u && isLowSurrogate v then
      u :: v :: quoteUnits rest
    else
      quoteUnit u ++ quoteUnits (v :: rest)

def quote (s : JsString) : JsString :=
  0x22 :: (quoteUnits s ++ [0x22])

/-- The decimal digits of a natural number, most significant first. -/
def decimal (n : Nat) : JsString :=
  if n < 10 then [UInt16.ofNat (48 + n)] else decimal (n / 10) ++ [UInt16.ofNat (48 + n % 10)]
termination_by n

def stringifyNumber : Number → JsString
  | .int n => if n < 0 then 0x2D :: decimal n.natAbs else decimal n.natAbs
  | .literal text => text

mutual

/-- `JSON.stringify(value)`. -/
def stringify : Value → JsString
  | .null => [0x6E, 0x75, 0x6C, 0x6C]
  | .bool true => [0x74, 0x72, 0x75, 0x65]
  | .bool false => [0x66, 0x61, 0x6C, 0x73, 0x65]
  | .num n => stringifyNumber n
  | .str s => quote s
  | .arr items => 0x5B :: (stringifyItems items ++ [0x5D])
  | .obj members => 0x7B :: (stringifyMembers members ++ [0x7D])

def stringifyItems : List Value → JsString
  | [] => []
  | [v] => stringify v
  | v :: w :: rest => stringify v ++ 0x2C :: stringifyItems (w :: rest)

def stringifyMembers : List (JsString × Value) → JsString
  | [] => []
  | [(k, v)] => quote k ++ 0x3A :: stringify v
  | (k, v) :: m :: rest => quote k ++ 0x3A :: (stringify v ++ 0x2C :: stringifyMembers (m :: rest))

end

def isWhitespace (u : UInt16) : Bool :=
  u == 0x20 || u == 0x09 || u == 0x0A || u == 0x0D

def skipWhitespace (text : JsString) : JsString :=
  text.dropWhile isWhitespace

/-- The text after the given unit, which may have whitespace before it. -/
def expect (u : UInt16) (text : JsString) : Option JsString :=
  match skipWhitespace text with
  | [] => none
  | v :: rest => if v = u then some rest else none

def digitValue (u : UInt16) : Option Nat :=
  if 48 ≤ u.toNat ∧ u.toNat ≤ 57 then some (u.toNat - 48) else none

def isDigit (u : UInt16) : Bool :=
  (digitValue u).isSome

def hexValue (u : UInt16) : Option Nat :=
  if 48 ≤ u.toNat ∧ u.toNat ≤ 57 then some (u.toNat - 48)
  else if 97 ≤ u.toNat ∧ u.toNat ≤ 102 then some (u.toNat - 87)
  else if 65 ≤ u.toNat ∧ u.toNat ≤ 70 then some (u.toNat - 55)
  else none

def simpleEscape (u : UInt16) : Option UInt16 :=
  if u = 0x22 then some 0x22
  else if u = 0x5C then some 0x5C
  else if u = 0x2F then some 0x2F
  else if u = 0x62 then some 0x08
  else if u = 0x66 then some 0x0C
  else if u = 0x6E then some 0x0A
  else if u = 0x72 then some 0x0D
  else if u = 0x74 then some 0x09
  else none

/-- The rest of a string literal after its opening quote. -/
def parseString : JsString → Option (JsString × JsString)
  | [] => none
  | u :: rest =>
    if u = 0x22 then some ([], rest)
    else if u = 0x5C then
      match rest with
      | [] => none
      | e :: tail =>
        if e = 0x75 then
          match tail with
          | a :: b :: c :: d :: tail => do
            let a ← hexValue a
            let b ← hexValue b
            let c ← hexValue c
            let d ← hexValue d
            let (s, rest) ← parseString tail
            return (UInt16.ofNat (a * 4096 + b * 256 + c * 16 + d) :: s, rest)
          | _ => none
        else do
          let e ← simpleEscape e
          let (s, rest) ← parseString tail
          return (e :: s, rest)
    else if u.toNat < 0x20 then none
    else do
      let (s, rest) ← parseString rest
      return (u :: s, rest)

def digitsValue (digits : JsString) : Nat :=
  digits.foldl (fun n u => n * 10 + (u.toNat - 48)) 0

/-- An unsigned integer literal: no leading zero before another digit. -/
def isIntegerPart (digits : JsString) : Bool :=
  digits.all isDigit && (digits == [0x30] || (digits != [] && digits.head? != some 0x30))

def parseNatural (digits : JsString) : Option Nat :=
  if isIntegerPart digits then some (digitsValue digits) else none

def parseInteger : JsString → Option Int
  | [] => none
  | u :: rest =>
    if u = 0x2D then (parseNatural rest).map fun (n : Nat) => -(n : Int)
    else (parseNatural (u :: rest)).map fun (n : Nat) => (n : Int)

/-- The exponent after `e` or `E`. -/
def parseExponent : JsString → Option Int
  | [] => none
  | u :: rest =>
    if u = 0x2D then
      if rest ≠ [] ∧ rest.all isDigit then some (-(digitsValue rest : Int)) else none
    else if u = 0x2B then
      if rest ≠ [] ∧ rest.all isDigit then some (digitsValue rest) else none
    else
      if (u :: rest).all isDigit then some (digitsValue (u :: rest)) else none

/-- A literal with a fraction or an exponent. It denotes `mantissa * 10 ^ exponent`, and stays a
    literal when that is not an integer. -/
def parseDecimal (literal : JsString) : Option Number := do
  let negative := literal.head? = some 0x2D
  let unsigned := if negative then literal.drop 1 else literal
  let significand := unsigned.takeWhile fun u => u ≠ 0x65 && u ≠ 0x45
  let exponentText := unsigned.drop significand.length
  let exponent ← if exponentText = [] then some 0 else parseExponent (exponentText.drop 1)
  let whole := significand.takeWhile (· ≠ 0x2E)
  let fractionText := significand.drop whole.length
  let fraction := fractionText.drop 1
  if ¬ isIntegerPart whole then none
  else if fractionText ≠ [] ∧ (fraction = [] ∨ ¬ fraction.all isDigit) then none
  else
    let mantissa : Int := if negative then -(digitsValue (whole ++ fraction)) else digitsValue (whole ++ fraction)
    let scale : Int := exponent - fraction.length
    if 0 ≤ scale then return .int (mantissa * 10 ^ scale.toNat)
    else if mantissa % 10 ^ (-scale).toNat = 0 then return .int (mantissa / 10 ^ (-scale).toNat)
    else return .literal literal

def parseNumber (literal : JsString) : Option Number :=
  match parseInteger literal with
  | some n => some (.int n)
  | none => parseDecimal literal

def isNumberUnit (u : UInt16) : Bool :=
  isDigit u || u == 0x2D || u == 0x2B || u == 0x2E || u == 0x65 || u == 0x45

/-- Defining a property that exists overwrites its value and keeps its place. -/
def defineMember (members : List (JsString × Value)) (member : JsString × Value) : List (JsString × Value) :=
  if members.any (·.1 == member.1) then
    members.map fun m => if m.1 == member.1 then (m.1, member.2) else m
  else
    members ++ [member]

def parseKeyword (keyword : JsString) (value : Value) (text : JsString) : Option (Value × JsString) :=
  (text.dropPrefix? keyword).map fun rest => (value, rest)

mutual

def parseValue : Nat → JsString → Option (Value × JsString)
  | 0, _ => none
  | fuel + 1, text =>
    match skipWhitespace text with
    | [] => none
    | u :: rest =>
      if u = 0x22 then (parseString rest).map fun p => (.str p.1, p.2)
      else if u = 0x5B then
        match expect 0x5D rest with
        | some rest => some (.arr [], rest)
        | none => (parseItems fuel rest).map fun p => (.arr p.1, p.2)
      else if u = 0x7B then
        match expect 0x7D rest with
        | some rest => some (.obj [], rest)
        | none => (parseMembers fuel rest).map fun p => (.obj (p.1.foldl defineMember []), p.2)
      else if u = 0x6E then parseKeyword [0x75, 0x6C, 0x6C] .null rest
      else if u = 0x74 then parseKeyword [0x72, 0x75, 0x65] (.bool true) rest
      else if u = 0x66 then parseKeyword [0x61, 0x6C, 0x73, 0x65] (.bool false) rest
      else
        (parseNumber ((u :: rest).takeWhile isNumberUnit)).map fun n =>
          (.num n, (u :: rest).dropWhile isNumberUnit)

/-- The items of a non-empty array, up to its closing bracket. -/
def parseItems : Nat → JsString → Option (List Value × JsString)
  | 0, _ => none
  | fuel + 1, text => do
    let (v, rest) ← parseValue fuel text
    match expect 0x5D rest with
    | some rest => return ([v], rest)
    | none =>
      let rest ← expect 0x2C rest
      let (items, rest) ← parseItems fuel rest
      return (v :: items, rest)

/-- The members of a non-empty object, up to its closing brace. -/
def parseMembers : Nat → JsString → Option (List (JsString × Value) × JsString)
  | 0, _ => none
  | fuel + 1, text => do
    let rest ← expect 0x22 text
    let (k, rest) ← parseString rest
    let rest ← expect 0x3A rest
    let (v, rest) ← parseValue fuel rest
    match expect 0x7D rest with
    | some rest => return ([(k, v)], rest)
    | none =>
      let rest ← expect 0x2C rest
      let (members, rest) ← parseMembers fuel rest
      return ((k, v) :: members, rest)

end

/-- `JSON.parse(text)`; `none` is the thrown `SyntaxError`. -/
def parse (text : JsString) : Option Value :=
  match parseValue (text.length + 1) text with
  | some (value, rest) => if skipWhitespace rest = [] then some value else none
  | none => none

end json
