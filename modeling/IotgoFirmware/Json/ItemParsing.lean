import IotgoFirmware.Json.ItemPrinting
import IotgoFirmware.Json.StringSafety

/-!
# Parsing of cJSON items

`parse_value` over the memory at a pointer. The calls are counted down from twice the length
of the memory, which is as deep as they can go: a call with nothing left stands behind the
end of the memory.
-/

namespace IotgoFirmware.Json.ItemParsing

open IotgoFirmware.Library.CStrings IotgoFirmware.Library.CFaults IotgoFirmware.Library.Doubles
open IotgoFirmware.Library.CJsonItems IotgoFirmware.Library.CJsonTrees
open IotgoFirmware.Json.StringTexts IotgoFirmware.Json.StringSafety
open IotgoFirmware.Json.ItemPrinting

set_option autoImplicit false

def skip : List UInt8 → Checked (List UInt8)
  | [] => .error .outside
  | byte :: memory => if byte ≠ 0 ∧ byte ≤ 32 then skip memory else .ok (byte :: memory)

/-- `strncmp` with a text of that length finds no difference. -/
def startsWith : List UInt8 → List UInt8 → Checked Bool
  | [], _ => .ok true
  | _ :: _, [] => .error .outside
  | letter :: text, byte :: memory =>
      if byte = letter then startsWith text memory else .ok false

/-- The number of digits read is the `scale` of a fraction. -/
def readDigits (double : CDouble) : Rat → Nat → List UInt8 → Checked (Rat × Nat × List UInt8)
  | _, _, [] => .error .outside
  | n, scale, byte :: num =>
      if isDigit byte then
        readDigits double (double.round (double.round (n * 10) + (byte.toNat - 48 : Nat)))
          (scale + 1) num
      else .ok (n, scale, byte :: num)

def scaledDown (double : CDouble) : Nat → Rat → Rat
  | 0, n => n
  | scale + 1, n => scaledDown double scale (double.round (n / 10))

def parseWhole (double : CDouble) (num : List UInt8) : Checked (Rat × List UInt8) := do
  let first ← byteAt num 0
  if 49 ≤ first ∧ first ≤ 57 then
    let (n, _, num) ← readDigits double 0 0 num
    return (n, num)
  else
    return (0, num)

def parseFraction (double : CDouble) (n : Rat) (num : List UInt8) :
    Checked (Rat × List UInt8) := do
  if (← byteAt num 0) ≠ 46 then
    return (n, num)
  else if isDigit (← byteAt num 1) then
    let (n, scale, num) ← readDigits double n 0 (num.drop 1)
    return (scaledDown double scale n, num)
  else
    return (n, num)

def parseNumber (double : CDouble) (num : List UInt8) : Checked (CJsonItem × List UInt8) := do
  let negative := (← byteAt num 0) = 45
  let num := if negative then num.drop 1 else num
  let num := if (← byteAt num 0) = 48 then num.drop 1 else num
  let (n, num) ← parseWhole double num
  let (n, num) ← parseFraction double n num
  let n := double.round ((if negative then -1 else 1) * n)
  return (.number (double.cast n) n, num)

/-- Reads the children of an array or of an object, and what stands behind them. -/
abbrev Reader (Child : Type) : Type :=
  List UInt8 → Checked (Option (List Child × List UInt8))

/-- Blanks, the children, and the closing byte. -/
def parseBetween {Child : Type} (close : UInt8) (make : List Child → CJsonItem)
    (children : Reader Child) (value : List UInt8) : Checked (Option (CJsonItem × List UInt8)) := do
  let value ← skip (value.drop 1)
  if (← byteAt value 0) = close then
    return some (make [], value.drop 1)
  else
    match ← children value with
    | none => return none
    | some (children, value) =>
        if (← byteAt value 0) = close then return some (make children, value.drop 1)
        else return none

def parseArray : Reader CJsonItem → List UInt8 → Checked (Option (CJsonItem × List UInt8)) :=
  parseBetween 93 .array

def parseObject :
    Reader (List UInt8 × CJsonItem) → List UInt8 → Checked (Option (CJsonItem × List UInt8)) :=
  parseBetween 125 .object

/-- Behind a child: blanks, and the next children behind a comma. -/
def parseLater {Child : Type} (children : Reader Child) (child : Child) (value : List UInt8) :
    Checked (Option (List Child × List UInt8)) := do
  let value ← skip value
  if (← byteAt value 0) = 44 then
    let later ← children (value.drop 1)
    return later.map fun (others, value) => (child :: others, value)
  else
    return some ([child], value)

mutual

def parseValue (double : CDouble) : Nat → List UInt8 → Checked (Option (CJsonItem × List UInt8))
  | 0, _ => .error .outside
  | depth + 1, value => do
      if ← startsWith (asciiBytes "null") value then
        return some (.null, value.drop 4)
      else if ← startsWith (asciiBytes "false") value then
        return some (.false, value.drop 5)
      else if ← startsWith (asciiBytes "true") value then
        return some (.true, value.drop 4)
      else
        let first ← byteAt value 0
        if first = 34 then
          let read ← parseString value
          return read.map fun (valuestring, rest) => (.string valuestring, rest)
        else if first = 45 ∨ isDigit first then
          let read ← parseNumber double value
          return some read
        else if first = 91 then
          parseArray (parseItems double depth) value
        else if first = 123 then
          parseObject (parseMembers double depth) value
        else
          return none

/-- The loop of `parse_array`. -/
def parseItems (double : CDouble) : Nat → Reader CJsonItem
  | 0, _ => .error .outside
  | depth + 1, value => do
      match ← parseValue double depth (← skip value) with
      | none => return none
      | some (child, value) => parseLater (parseItems double depth) child value

/-- The loop of `parse_object`. -/
def parseMembers (double : CDouble) : Nat → Reader (List UInt8 × CJsonItem)
  | 0, _ => .error .outside
  | depth + 1, value => do
      match ← parseString (← skip value) with
      | none => return none
      | some (string, value) =>
          let value ← skip value
          if (← byteAt value 0) ≠ 58 then
            return none
          else
            match ← parseValue double depth (← skip (value.drop 1)) with
            | none => return none
            | some (child, value) => parseLater (parseMembers double depth) (string, child) value

end

/-- With the pointer behind the item; a text that ends there may be asked for. -/
def cJSONParseWithOpts (double : CDouble) (value : List UInt8) (requireNullTerminated : Bool) :
    Checked (Option (CJsonItem × List UInt8)) := do
  match ← parseValue double (2 * value.length + 1) (← skip value) with
  | none => return none
  | some (c, last) =>
      if requireNullTerminated then
        let last ← skip last
        if (← byteAt last 0) ≠ 0 then return none else return some (c, last)
      else
        return some (c, last)

def cJSONParse (double : CDouble) (value : List UInt8) : Checked (Option CJsonItem) := do
  let parsed ← cJSONParseWithOpts double value false
  return parsed.map Prod.fst

end IotgoFirmware.Json.ItemParsing
