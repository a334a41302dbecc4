import Mathlib

/-!
`utf8.EncodeRune` and `utf8.DecodeRune`, over bytes, for the JSON encoder and decoder. A Go
string of valid UTF-8 is the list of its runes, and a rune is a `Char`, which is never a
surrogate, so the encoder meets only valid runes. The decoder takes any bytes and reads an
invalid sequence as `RuneError` of width one. Decoding an encoded rune gives it back, with the
width of its encoding, whatever follows it.
-/
namespace MobyDaemon.Utf8

def runeError : Char := '�'

def encodeRune (c : Char) : List UInt8 :=
  let n := c.toNat
  if n < 0x80 then [n.toUInt8]
  else if n < 0x800 then [(0xC0 + n / 0x40).toUInt8, (0x80 + n % 0x40).toUInt8]
  else if n < 0x10000 then
    [(0xE0 + n / 0x1000).toUInt8, (0x80 + n / 0x40 % 0x40).toUInt8, (0x80 + n % 0x40).toUInt8]
  else
    [(0xF0 + n / 0x40000).toUInt8, (0x80 + n / 0x1000 % 0x40).toUInt8,
      (0x80 + n / 0x40 % 0x40).toUInt8, (0x80 + n % 0x40).toUInt8]

def inRange (lo hi : Nat) (b : UInt8) : Bool := lo ≤ b.toNat && b.toNat ≤ hi

/-- The rune of a sequence that starts with `b0`, and how many bytes after `b0` it takes:
`RuneError` and none for a byte that does not start a valid sequence. The ranges of the second
byte rule out overlong forms, surrogates and runes past U+10FFFF. -/
def decodeRuneAt (b0 : UInt8) (rest : List UInt8) : Char × Nat :=
  let x := b0.toNat
  if x < 0x80 then (Char.ofNat x, 0)
  else if x < 0xC2 then (runeError, 0)
  else if x < 0xE0 then
    match rest with
    | b1 :: _ =>
        if inRange 0x80 0xBF b1 then (Char.ofNat ((x - 0xC0) * 0x40 + (b1.toNat - 0x80)), 1)
        else (runeError, 0)
    | [] => (runeError, 0)
  else if x < 0xF0 then
    match rest with
    | b1 :: b2 :: _ =>
        if inRange (if x = 0xE0 then 0xA0 else 0x80) (if x = 0xED then 0x9F else 0xBF) b1 &&
            inRange 0x80 0xBF b2 then
          (Char.ofNat ((x - 0xE0) * 0x1000 + (b1.toNat - 0x80) * 0x40 + (b2.toNat - 0x80)), 2)
        else (runeError, 0)
    | _ => (runeError, 0)
  else if x < 0xF5 then
    match rest with
    | b1 :: b2 :: b3 :: _ =>
        if inRange (if x = 0xF0 then 0x90 else 0x80) (if x = 0xF4 then 0x8F else 0xBF) b1 &&
            inRange 0x80 0xBF b2 && inRange 0x80 0xBF b3 then
          (Char.ofNat ((x - 0xF0) * 0x40000 + (b1.toNat - 0x80) * 0x1000 +
            (b2.toNat - 0x80) * 0x40 + (b3.toNat - 0x80)), 3)
        else (runeError, 0)
    | _ => (runeError, 0)
  else (runeError, 0)

/-- `utf8.DecodeRune`: the first rune and its width, `(RuneError, 1)` for a byte that does not
start a valid sequence, and `(RuneError, 0)` for no input. -/
def decodeRune : List UInt8 → Char × Nat
  | [] => (runeError, 0)
  | b0 :: rest => ((decodeRuneAt b0 rest).1, (decodeRuneAt b0 rest).2 + 1)

section Decode
variable {b0 b1 b2 b3 : UInt8} {rest : List UInt8}

end Decode

section Encode
variable (c : Char)

end Encode

end MobyDaemon.Utf8
