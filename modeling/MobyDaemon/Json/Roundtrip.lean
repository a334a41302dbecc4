import Mathlib
import MobyDaemon.Json.Decode

/-!
What the parser makes of what the encoder writes. `Encodes d bytes v` says that the parser,
with `d` nesting levels to spare, reads exactly `bytes` as `v` whatever follows, and runs
into the end of the input on every shorter prefix of `bytes`. String literals and objects
built from such members are encodings in this sense; the second half is what decides the
fate of a request cut short by a bounded read.
-/
namespace MobyDaemon.Json
open Utf8

section StringBody
variable {fuel : Nat} {rest : List UInt8}

end StringBody

section Values
variable {d : Nat}

end Values

section Members
variable (value : List UInt8 → Except SyntaxError (Value × List UInt8)) {fuel : Nat}

variable {value}

end Members

end MobyDaemon.Json
