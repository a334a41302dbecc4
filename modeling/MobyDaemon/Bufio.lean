import Mathlib

/-!
`bufio.Reader.ReadLine` and `strings.Fields` over the bytes of a stream, the two library
calls `readSystemCPUUsage` makes. The reader is read to the end with `io.EOF` reported by a
read of its own, as for an `os.File`. `ReadLine` returns a line with its `\n` or `\r\n`
dropped when the `\n` lies within the buffer; otherwise the buffer's worth of bytes, marked
partial, with a trailing `\r` put back. `Fields` splits at the bytes and UTF-8 sequences of
the characters `unicode.IsSpace` accepts: none of those sequences starts with a continuation
byte, so the rune decoder of `FieldsFunc` meets every one of them where it starts, and a
byte-by-byte scan finds the same fields.
-/
namespace MobyDaemon.Bufio

structure Line where
  data : List UInt8
  isPartial : Bool
  deriving DecidableEq, Repr

/-- One `ReadLine` on a reader with a buffer of `size` bytes and `input` left to read: the
line and what is left, or `none` for `io.EOF`. -/
def readLine (size : Nat) (input : List UInt8) : Option (Line × List UInt8) :=
  if input = [] then none
  else match (input.take size).indexOf? 10 with
    | some i =>
        let line := input.take i
        some (⟨if line.getLast? = some 13 then line.dropLast else line, false⟩, input.drop (i + 1))
    | none =>
        if input.length < size then some (⟨input, false⟩, [])
        else if (input.take size).getLast? = some 13 then
          some (⟨(input.take size).dropLast, true⟩, input.drop (size - 1))
        else some (⟨input.take size, true⟩, input.drop size)

theorem readLine_length_lt {size : Nat} (hsize : 2 ≤ size) {input rest : List UInt8} {l : Line}
    (h : readLine size input = some (l, rest)) : rest.length < input.length := by
  unfold readLine at h
  split at h
  · cases h
  · have hpos : 0 < input.length := List.length_pos.mpr ‹_›
    split at h
    · cases h; simp; omega
    · split at h
      · cases h; simpa using hpos
      · split at h <;> cases h <;> simp <;> omega

def asciiSpace (b : UInt8) : Bool :=
  b == 9 || b == 10 || b == 11 || b == 12 || b == 13 || b == 32

/-- The UTF-8 encodings of the characters above U+007F that `unicode.IsSpace` accepts:
U+0085, U+00A0, U+1680, U+2000 to U+200A, U+2028, U+2029, U+202F, U+205F and U+3000. -/
def unicodeSpaces : List (List UInt8) :=
  [[0xC2, 0x85], [0xC2, 0xA0], [0xE1, 0x9A, 0x80],
   [0xE2, 0x80, 0x80], [0xE2, 0x80, 0x81], [0xE2, 0x80, 0x82], [0xE2, 0x80, 0x83],
   [0xE2, 0x80, 0x84], [0xE2, 0x80, 0x85], [0xE2, 0x80, 0x86], [0xE2, 0x80, 0x87],
   [0xE2, 0x80, 0x88], [0xE2, 0x80, 0x89], [0xE2, 0x80, 0x8A],
   [0xE2, 0x80, 0xA8], [0xE2, 0x80, 0xA9], [0xE2, 0x80, 0xAF], [0xE2, 0x81, 0x9F],
   [0xE3, 0x80, 0x80]]

/-- The length of the space character that starts `bs`, or `0`. -/
def spaceWidth (bs : List UInt8) : Nat :=
  match bs with
  | [] => 0
  | b :: _ =>
      if asciiSpace b then 1
      else match unicodeSpaces.find? (·.isPrefixOf bs) with
        | some e => e.length
        | none => 0

def flushField (cur : List UInt8) (rest : List (List UInt8)) : List (List UInt8) :=
  if cur = [] then rest else cur :: rest

/-- The scan of `Fields`: `skip` bytes of a space character still to pass, and the field
read so far. -/
def fieldsAux : Nat → List UInt8 → List UInt8 → List (List UInt8)
  | _, cur, [] => flushField cur []
  | skip + 1, cur, _ :: bs => fieldsAux skip cur bs
  | 0, cur, b :: bs =>
      match spaceWidth (b :: bs) with
      | 0 => fieldsAux 0 (cur ++ [b]) bs
      | w + 1 => flushField cur (fieldsAux w [] bs)

def fields (s : List UInt8) : List (List UInt8) := fieldsAux 0 [] s

example : fields [32, 49, 9, 50, 0xC2, 0xA0, 51, 0xE2, 0x80, 0x80] = [[49], [50], [51]] := by
  decide
example : readLine 4 [99, 112, 13, 10, 120] = some (⟨[99, 112], false⟩, [120]) := by decide
example : readLine 4 [99, 112, 117, 13, 10] = some (⟨[99, 112, 117], true⟩, [13, 10]) := by decide

end MobyDaemon.Bufio
