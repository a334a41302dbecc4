import Mathlib
import MobyDaemon.Json.Encode

/-!
The syntax side of `json.Unmarshal`: `checkValid`'s scanner and the `unquote` of string
literals, as one recursive-descent parser from bytes to a value tree. Like the scanner it reads
left to right and stops at the first byte no JSON text can continue with, with the scanner's
message for it, or at the end of the input with `unexpected end of JSON input`; the nesting
depth is bounded by `maxNestingDepth`. String literals decode as `unquote` does: escapes,
UTF-16 surrogate pairs, and `RuneError` for invalid UTF-8 or a lone surrogate.

The loops over string bodies, members and elements run on a bound that every byte they read
lowers by one, the length of the input, which they never reach.
-/
namespace MobyDaemon.Json
open Utf8

inductive Value where
  | null
  | bool (b : Bool)
  | number (literal : List UInt8)
  | string (s : List Char)
  | array (elems : List Value)
  | object (members : List (List Char × Value))

inductive SyntaxError where
  | unexpectedEnd
  | invalidCharacter (c : UInt8) (context : List Char)
  deriving DecidableEq, Repr

/-- The text of `strconv.Quote` for the rune of a byte, without its quotes. -/
def quoteRune (c : UInt8) : List Char :=
  let n := c.toNat
  if n = 92 then ['\\', '\\']
  else if 0x20 ≤ n ∧ n < 0x7F then [Char.ofNat n]
  else if n = 7 then ['\\', 'a']
  else if n = 8 then ['\\', 'b']
  else if n = 12 then ['\\', 'f']
  else if n = 10 then ['\\', 'n']
  else if n = 13 then ['\\', 'r']
  else if n = 9 then ['\\', 't']
  else if n = 11 then ['\\', 'v']
  else if n < 0x80 then
    ['\\', 'x', Char.ofNat (hexDigit (n / 16)).toNat, Char.ofNat (hexDigit (n % 16)).toNat]
  else if n ≤ 0xA0 ∨ n = 0xAD then
    ['\\', 'u', '0', '0', Char.ofNat (hexDigit (n / 16)).toNat, Char.ofNat (hexDigit (n % 16)).toNat]
  else [Char.ofNat n]

def quoteChar (c : UInt8) : List Char :=
  if c = 39 then ['\'', '\\', '\'', '\'']
  else if c = 34 then ['\'', '"', '\'']
  else '\'' :: quoteRune c ++ ['\'']

def SyntaxError.message : SyntaxError → List Char
  | .unexpectedEnd => "unexpected end of JSON input".toList
  | .invalidCharacter c context => "invalid character ".toList ++ quoteChar c ++ ' ' :: context

def isSpace (b : UInt8) : Bool := b = 32 || b = 9 || b = 10 || b = 13

def skipWs : List UInt8 → List UInt8
  | [] => []
  | b :: bs => if isSpace b then skipWs bs else b :: bs

def hexValue (b : UInt8) : Option Nat :=
  let n := b.toNat
  if 48 ≤ n ∧ n ≤ 57 then some (n - 48)
  else if 97 ≤ n ∧ n ≤ 102 then some (n - 87)
  else if 65 ≤ n ∧ n ≤ 70 then some (n - 55)
  else none

/-- `k` more hexadecimal digits of a `\u` escape, onto `acc`. -/
def hexDigits : Nat → Nat → List UInt8 → Except SyntaxError (Nat × List UInt8)
  | 0, acc, rest => .ok (acc, rest)
  | _ + 1, _, [] => .error .unexpectedEnd
  | k + 1, acc, b :: rest =>
      match hexValue b with
      | some v => hexDigits k (acc * 16 + v) rest
      | none => .error (.invalidCharacter b "in \\u hexadecimal character escape".toList)

/-- The rune of a `\u` escape of value `r`, with a second escape after it taken as the low
half of a surrogate pair when it is one: `utf16.DecodeRune` in `unquote`. -/
def unicodeEscape (r : Nat) (rest : List UInt8) : Char × List UInt8 :=
  if 0xD800 ≤ r ∧ r < 0xE000 then
    match rest with
    | 92 :: 117 :: rest' =>
        match hexDigits 4 0 rest' with
        | .ok (r2, rest'') =>
            if r < 0xDC00 ∧ 0xDC00 ≤ r2 ∧ r2 < 0xE000 then
              (Char.ofNat ((r - 0xD800) * 0x400 + (r2 - 0xDC00) + 0x10000), rest'')
            else (runeError, rest)
        | .error _ => (runeError, rest)
    | _ => (runeError, rest)
  else (Char.ofNat r, rest)

def unescape (e : UInt8) : Option Char :=
  if e = 34 then some '"' else if e = 92 then some '\\' else if e = 47 then some '/'
  else if e = 98 then some '\x08' else if e = 102 then some '\x0c'
  else if e = 110 then some '\n' else if e = 114 then some '\r' else if e = 116 then some '\t'
  else none

/-- The body of a string literal after its opening quote: its runes, and what follows the
closing quote. -/
def parseStringBody : Nat → List UInt8 → Except SyntaxError (List Char × List UInt8)
  | 0, _ => .error .unexpectedEnd
  | _ + 1, [] => .error .unexpectedEnd
  | fuel + 1, b :: rest =>
      if b = 34 then .ok ([], rest)
      else if b = 92 then
        match rest with
        | [] => .error .unexpectedEnd
        | e :: rest =>
            match unescape e with
            | some c => (parseStringBody fuel rest).map fun p => (c :: p.1, p.2)
            | none =>
                if e = 117 then
                  match hexDigits 4 0 rest with
                  | .error err => .error err
                  | .ok (r, rest) =>
                      let u := unicodeEscape r rest
                      (parseStringBody fuel u.2).map fun p => (u.1 :: p.1, p.2)
                else .error (.invalidCharacter e "in string escape code".toList)
      else if b.toNat < 0x20 then .error (.invalidCharacter b "in string literal".toList)
      else
        let d := decodeRune (b :: rest)
        (parseStringBody fuel ((b :: rest).drop d.2)).map fun p => (d.1 :: p.1, p.2)

/-- The rest of a literal, `rue`, `alse` or `ull`, byte by byte. -/
def expectLiteral (name : List Char) : List UInt8 → List UInt8 → Except SyntaxError (List UInt8)
  | [], rest => .ok rest
  | _ :: _, [] => .error .unexpectedEnd
  | x :: xs, b :: rest =>
      if b = x then expectLiteral name xs rest
      else .error (.invalidCharacter b
        ("in literal ".toList ++ name ++ " (expecting ".toList ++ quoteChar x ++ [')']))

def isDigit (b : UInt8) : Bool := 48 ≤ b.toNat && b.toNat ≤ 57

def digits : List UInt8 → List UInt8 × List UInt8
  | [] => ([], [])
  | b :: rest =>
      if isDigit b then let r := digits rest; (b :: r.1, r.2) else ([], b :: rest)

/-- One or more digits, or the scanner's error for the byte in their place. -/
def someDigits (context : List Char) (inp : List UInt8) :
    Except SyntaxError (List UInt8 × List UInt8) :=
  match inp with
  | [] => .error .unexpectedEnd
  | b :: _ => if isDigit b then .ok (digits inp) else .error (.invalidCharacter b context)

def exponentPart (inp : List UInt8) : Except SyntaxError (List UInt8 × List UInt8) :=
  let ctx := "in exponent of numeric literal".toList
  match inp with
  | s :: rest =>
      if s = 43 ∨ s = 45 then (someDigits ctx rest).map fun p => (s :: p.1, p.2)
      else someDigits ctx inp
  | [] => .error .unexpectedEnd

/-- What follows the integer part of a number literal: a fraction and an exponent, each if
present. -/
def numberTail (inp : List UInt8) : Except SyntaxError (List UInt8 × List UInt8) :=
  let exponent (inp : List UInt8) : Except SyntaxError (List UInt8 × List UInt8) :=
    match inp with
    | e :: rest =>
        if e = 101 ∨ e = 69 then (exponentPart rest).map fun p => (e :: p.1, p.2)
        else .ok ([], inp)
    | [] => .ok ([], [])
  match inp with
  | 46 :: rest =>
      match someDigits "after decimal point in numeric literal".toList rest with
      | .error err => .error err
      | .ok (frac, rest) => (exponent rest).map fun p => (46 :: frac ++ p.1, p.2)
  | _ => exponent inp

/-- A number literal: an optional `-`, `0` or a digit run not starting with `0`, then its
tail. -/
def parseNumber (inp : List UInt8) : Except SyntaxError (List UInt8 × List UInt8) :=
  let (sign, inp) : List UInt8 × List UInt8 :=
    match inp with
    | 45 :: rest => ([45], rest)
    | _ => ([], inp)
  match inp with
  | [] => .error .unexpectedEnd
  | b :: rest =>
      if b = 48 then (numberTail rest).map fun p => (sign ++ 48 :: p.1, p.2)
      else if isDigit b then
        let ds := digits (b :: rest)
        (numberTail ds.2).map fun p => (sign ++ ds.1 ++ p.1, p.2)
      else .error (.invalidCharacter b "in numeric literal".toList)

/-- The members of an object after its `{` and a first key's quote is due, with `value` for
the member values. -/
def parseMembers (value : List UInt8 → Except SyntaxError (Value × List UInt8)) :
    Nat → List UInt8 → Except SyntaxError (List (List Char × Value) × List UInt8)
  | 0, _ => .error .unexpectedEnd
  | fuel + 1, inp =>
      match skipWs inp with
      | [] => .error .unexpectedEnd
      | b :: rest =>
          if b ≠ 34 then
            .error (.invalidCharacter b "looking for beginning of object key string".toList)
          else
            match parseStringBody (rest.length + 1) rest with
            | .error err => .error err
            | .ok (key, rest) =>
                match skipWs rest with
                | [] => .error .unexpectedEnd
                | c :: rest =>
                    if c ≠ 58 then .error (.invalidCharacter c "after object key".toList)
                    else
                      match value rest with
                      | .error err => .error err
                      | .ok (v, rest) =>
                          match skipWs rest with
                          | [] => .error .unexpectedEnd
                          | c :: rest =>
                              if c = 44 then
                                (parseMembers value fuel rest).map fun p => ((key, v) :: p.1, p.2)
                              else if c = 125 then .ok ([(key, v)], rest)
                              else .error (.invalidCharacter c
                                "after object key:value pair".toList)

/-- The elements of a non-empty array after its `[`. -/
def parseElements (value : List UInt8 → Except SyntaxError (Value × List UInt8)) :
    Nat → List UInt8 → Except SyntaxError (List Value × List UInt8)
  | 0, _ => .error .unexpectedEnd
  | fuel + 1, inp =>
      match value inp with
      | .error err => .error err
      | .ok (v, rest) =>
          match skipWs rest with
          | [] => .error .unexpectedEnd
          | c :: rest =>
              if c = 44 then (parseElements value fuel rest).map fun p => (v :: p.1, p.2)
              else if c = 93 then .ok ([v], rest)
              else .error (.invalidCharacter c "after array element".toList)

/-- A value after optional whitespace, with `depth` more objects or arrays it may open. -/
def parseValue : Nat → List UInt8 → Except SyntaxError (Value × List UInt8)
  | depth, inp =>
      match skipWs inp with
      | [] => .error .unexpectedEnd
      | b :: rest =>
          if b = 123 ∨ b = 91 then
            match depth with
            | 0 => .error (.invalidCharacter b "exceeded max depth".toList)
            | d + 1 =>
                match skipWs rest with
                | c :: rest' =>
                    if b = 123 ∧ c = 125 then .ok (.object [], rest')
                    else if b = 91 ∧ c = 93 then .ok (.array [], rest')
                    else if b = 123 then
                      (parseMembers (parseValue d) (rest.length + 1) rest).map
                        fun p => (.object p.1, p.2)
                    else
                      (parseElements (parseValue d) (rest.length + 1) rest).map
                        fun p => (.array p.1, p.2)
                | [] => .error .unexpectedEnd
          else if b = 34 then
            (parseStringBody (rest.length + 1) rest).map fun p => (.string p.1, p.2)
          else if b = 45 ∨ isDigit b then
            (parseNumber (b :: rest)).map fun p => (.number p.1, p.2)
          else if b = 116 then
            (expectLiteral "true".toList [114, 117, 101] rest).map fun r => (.bool true, r)
          else if b = 102 then
            (expectLiteral "false".toList [97, 108, 115, 101] rest).map fun r => (.bool false, r)
          else if b = 110 then
            (expectLiteral "null".toList [117, 108, 108] rest).map fun r => (.null, r)
          else .error (.invalidCharacter b "looking for beginning of value".toList)

def maxNestingDepth : Nat := 10000

/-- A JSON text: one value with whitespace around it. -/
def parseText (data : List UInt8) : Except SyntaxError Value :=
  match parseValue maxNestingDepth data with
  | .error err => .error err
  | .ok (v, rest) =>
      match skipWs rest with
      | [] => .ok v
      | c :: _ => .error (.invalidCharacter c "after top-level value".toList)

end MobyDaemon.Json
