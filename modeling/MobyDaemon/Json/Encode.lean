import Mathlib
import MobyDaemon.Json.Utf8

/-!
The part of `encoding/json`'s encoder that a struct of strings and a `map[string]string` go
through: `appendString` with HTML escaping on, as `json.NewEncoder` has it, and the framing
the struct and map encoders share, `{`, the members as `"name":value` joined by `,`, and `}`.
A map writes its members in the order of their keys, which `strings.Compare` takes bytewise;
for valid UTF-8 that is the order of the runes.
-/
namespace MobyDaemon.Json
open Utf8

def hexDigit (n : Nat) : UInt8 := if n < 10 then (48 + n).toUInt8 else (87 + n).toUInt8

/-- `htmlSafeSet`: the ASCII bytes copied as they are. -/
def htmlSafe (n : Nat) : Bool :=
  0x20 ≤ n && n < 0x80 && n != 34 && n != 92 && n != 60 && n != 62 && n != 38

/-- What `appendString` writes for one rune of a valid string. -/
def escapeRune (c : Char) : List UInt8 :=
  let n := c.toNat
  if n < 0x80 then
    if htmlSafe n then [n.toUInt8]
    else if n = 92 ∨ n = 34 then [92, n.toUInt8]
    else if n = 8 then [92, 98]
    else if n = 12 then [92, 102]
    else if n = 10 then [92, 110]
    else if n = 13 then [92, 114]
    else if n = 9 then [92, 116]
    else [92, 117, 48, 48, hexDigit (n / 16), hexDigit (n % 16)]
  else if n = 0x2028 ∨ n = 0x2029 then [92, 117, 50, 48, 50, hexDigit (n % 16)]
  else encodeRune c

/-- `appendString` with `escapeHTML`, for a string of valid UTF-8. -/
def appendString (s : List Char) : List UInt8 := 34 :: (s.flatMap escapeRune ++ [34])

def encodeObject (members : List (List Char × List UInt8)) : List UInt8 :=
  123 :: (List.intercalate [44] (members.map fun m => appendString m.1 ++ 58 :: m.2) ++ [125])

/-- `strings.Compare(a, b) <= 0` for valid UTF-8. -/
def keyLE (a b : List Char) : Bool := !decide (b < a)

/-- The map encoder for a `map[string]string`, given by its entries. -/
def encodeStringMap (m : List (List Char × List Char)) : List UInt8 :=
  encodeObject ((m.mergeSort fun a b => keyLE a.1 b.1).map fun kv => (kv.1, appendString kv.2))

example : appendString ['a', '<', '\n', 'é'] =
    [34, 97, 92, 117, 48, 48, 51, 99, 92, 110, 0xC3, 0xA9, 34] := by decide

end MobyDaemon.Json
