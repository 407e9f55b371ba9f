import Mathlib.Data.List.Basic

/-! # JSON values

The values of `JSON.parse` over any type of numbers. An object lists its own properties, each name
once, so that reading a property is a lookup. -/

namespace AutoTrade.Lib.Json

inductive JsonValue (Num : Type)
  | null
  | bool (value : Bool)
  | number (value : Num)
  | text (value : String)
  | array (items : List (JsonValue Num))
  | object (fields : List (String × JsonValue Num))

/-- `left === right` for values at two places of one parsed text: objects and arrays at different
places are different. -/
def JsonValue.strictlyEqual {Num : Type} [DecidableEq Num] :
    JsonValue Num → JsonValue Num → Bool
  | .null, .null => true
  | .bool left, .bool right => left = right
  | .number left, .number right => left = right
  | .text left, .text right => left = right
  | _, _ => false

/-- `value === expected` for a value that may be missing and a text. -/
def isText {Num : Type} (value : Option (JsonValue Num)) (expected : String) : Bool :=
  match value with
  | some (.text actual) => actual = expected
  | _ => false

end AutoTrade.Lib.Json
