import Mathlib
import MobyDaemon.Text

/-!
`saveArchive` of the containerd image service: the layer stream is stored as is when it is
gzip or zstd, and gzip-compressed first otherwise, and both digests of the layer are
computed on the way.

Each of `writeCompressedBlob` and `compressAndWriteBlob` runs `writeBlobAndReturnDigest` in
a goroutine on one end of an `io.Pipe` and reads or writes the other end itself. The pipe is
synchronous: a `Write` returns only once a reader has taken all of its bytes, or with the
error its read end was closed with. So what the two tasks see of each other is decided by how
far the content store read before it returned, and every interleaving is covered by letting
the store fail after any number of bytes. In `compressAndWriteBlob` the main task writes the
gzip stream in two phases, the output the compressor flushes during `io.Copy` and the rest
from `Close`, whose error is dropped; a store failure reaches the caller only through a
write of the first phase.

The libraries (compression detection, the decompressing reader, the gzip writer and the
hash of `digest.Canonical`) are parameters, collected in a `Codec`.
-/
namespace MobyDaemon.Containerd

/-- A stream as a reader hands it out: its bytes, then `io.EOF` (`err = none`) or an error. -/
structure Stream where
  bytes : List UInt8
  err : Option (List Char)
  deriving DecidableEq, Repr

inductive Compression where
  | none
  | bzip2
  | gzip
  | xz
  | zstd
  deriving DecidableEq, Repr

/-- The library behaviour an import relies on. `flushed x` is how much of the gzip stream of
`x` the compressor has written by the time it has been given all of `x`, before `Close`. -/
structure Codec where
  detect : List UInt8 → Compression
  decompressStream : Stream → Except (List Char) Stream
  gzip : List UInt8 → List UInt8
  flushed : List UInt8 → Nat
  flushed_le : ∀ x, flushed x ≤ (gzip x).length
  hash : List UInt8 → List Char

/-- How the one `content.WriteBlob` call of an import goes: with `fault = some (n, err)` it
fails with `err` once it has read `n` bytes, or at the commit if the stream is shorter; with
`fault = none` it reads the stream to its end and commits. -/
structure BlobWrite where
  fault : Option (Nat × List Char)
  deriving DecidableEq, Repr

def BlobWrite.commits : BlobWrite := ⟨none⟩

/-- `digest.Canonical.FromBytes` -/
def Codec.digest (codec : Codec) (b : List UInt8) : List Char :=
  "sha256:".toList ++ codec.hash b

def mediaTypeImageLayerGzip : List Char := "application/vnd.oci.image.layer.v1.tar+gzip".toList

def mediaTypeImageLayerZstd : List Char := "application/vnd.oci.image.layer.v1.tar+zstd".toList

/-- `writeBlobAndReturnDigest`: how many bytes of the stream the store read, and the digest of
the blob it committed. A stream error met at the end comes before the commit. -/
def writeBlobAndReturnDigest (codec : Codec) (w : BlobWrite) (s : Stream) :
    Nat × Except (List Char) (List Char) :=
  match w.fault with
  | some (n, err) =>
      if n < s.bytes.length then (n, .error err)
      else (s.bytes.length, .error (s.err.getD err))
  | none =>
      (s.bytes.length, match s.err with
        | some e => .error e
        | none => .ok (codec.digest s.bytes))

/-- `detectCompression`: `Peek(10)` fails only if the stream fails within its first ten
bytes, and `io.EOF` is ignored. -/
def detectCompression (codec : Codec) (s : Stream) : Except (List Char) Compression :=
  match s.err with
  | some e => if s.bytes.length < 10 then .error e else .ok (codec.detect (s.bytes.take 10))
  | none => .ok (codec.detect (s.bytes.take 10))

/-- `writeCompressedBlob`: the goroutine stores the stream and tees it into the pipe, the
main task decompresses the pipe into the digester. The decompressor meets `io.EOF` only once
the goroutine has closed the pipe after a successful write, and the goroutine's error
otherwise. -/
def writeCompressedBlob (codec : Codec) (w : BlobWrite) (s : Stream) :
    Except (List Char) (List Char × List Char) :=
  match (writeBlobAndReturnDigest codec w s).2 with
  | .error e => .error e
  | .ok compressedDigest =>
      match codec.decompressStream ⟨s.bytes, none⟩ with
      | .error e => .error e
      | .ok d =>
          match d.err with
          | some e => .error e
          | none => .ok (compressedDigest, codec.digest d.bytes)

/-- `compressAndWriteBlob`: the main task copies the stream into the compressor and the
goroutine stores what comes out of the pipe. `io.Copy` fails on a write when the goroutine
stopped before taking the flushed output, and otherwise with the stream's own error; the
digest received from the goroutine is `""` when its write failed. -/
def compressAndWriteBlob (codec : Codec) (w : BlobWrite) (s : Stream) :
    Except (List Char) (List Char × List Char) :=
  let (consumed, written) := writeBlobAndReturnDigest codec w ⟨codec.gzip s.bytes, s.err⟩
  let copyErr : Option (List Char) :=
    match written with
    | .error e => if consumed < codec.flushed s.bytes then some e else s.err
    | .ok _ => s.err
  let compressedDigest : List Char :=
    match written with
    | .ok d => d
    | .error _ => []
  match copyErr with
  | some e => .error e
  | none => .ok (compressedDigest, codec.digest s.bytes)

/-- `saveArchive`: the compressed digest, the uncompressed digest and the media type of the
stored blob. -/
def saveArchive (codec : Codec) (w : BlobWrite) (s : Stream) :
    Except (List Char) (List Char × List Char × List Char) :=
  match detectCompression codec s with
  | .error e => .error e
  | .ok comp =>
      match comp with
      | .gzip | .zstd =>
          let mediaType :=
            if comp = .zstd then mediaTypeImageLayerZstd else mediaTypeImageLayerGzip
          (writeCompressedBlob codec w s).map fun (c, u) => (c, u, mediaType)
      | .bzip2 | .xz =>
          match codec.decompressStream s with
          | .error e => .error e
          | .ok r =>
              (compressAndWriteBlob codec w r).map fun (c, u) => (c, u, mediaTypeImageLayerGzip)
      | .none =>
          (compressAndWriteBlob codec w s).map fun (c, u) => (c, u, mediaTypeImageLayerGzip)

theorem writeBlobAndReturnDigest_eq_ok {codec : Codec} {w : BlobWrite} {s : Stream}
    {c : List Char} :
    (writeBlobAndReturnDigest codec w s).2 = .ok c ↔
      w.fault = none ∧ s.err = none ∧ c = codec.digest s.bytes := by
  rcases w with ⟨_ | ⟨n, err⟩⟩ <;> rcases s with ⟨b, _ | e⟩
  · simp [writeBlobAndReturnDigest, eq_comm]
  · simp [writeBlobAndReturnDigest]
  all_goals by_cases hn : n < b.length <;> simp [writeBlobAndReturnDigest, hn]

@[simp] theorem writeBlobAndReturnDigest_commits (codec : Codec) (b : List UInt8) :
    writeBlobAndReturnDigest codec .commits ⟨b, none⟩ = (b.length, .ok (codec.digest b)) := rfl

theorem writeCompressedBlob_eq_ok {codec : Codec} {w : BlobWrite} {s : Stream}
    {c u : List Char} :
    writeCompressedBlob codec w s = .ok (c, u) ↔
      (writeBlobAndReturnDigest codec w s).2 = .ok c ∧
        ∃ d, codec.decompressStream ⟨s.bytes, none⟩ = .ok ⟨d, none⟩ ∧ u = codec.digest d := by
  unfold writeCompressedBlob
  rcases (writeBlobAndReturnDigest codec w s).2 with e | c'
  · simp
  · rcases codec.decompressStream ⟨s.bytes, none⟩ with e | ⟨d, _ | e⟩
    · simp
    · simp [eq_comm]
    · simp

theorem compressAndWriteBlob_commits (codec : Codec) (s : Stream) :
    compressAndWriteBlob codec .commits s =
      match s.err with
      | some e => .error e
      | none => .ok (codec.digest (codec.gzip s.bytes), codec.digest s.bytes) := by
  have hle := codec.flushed_le s.bytes
  rcases s with ⟨x, _ | e⟩
  · rfl
  · simp only [compressAndWriteBlob, BlobWrite.commits, writeBlobAndReturnDigest,
      if_neg (Nat.not_lt.mpr hle)]

/-- A store failure reaches the caller of `compressAndWriteBlob` only when it comes before
the store has taken what the compressor flushed during the copy; after that the copy's own
outcome is returned, with an empty compressed digest. -/
theorem compressAndWriteBlob_of_fault (codec : Codec) (s : Stream) (n : Nat) (err : List Char) :
    compressAndWriteBlob codec ⟨some (n, err)⟩ s =
      if n < codec.flushed s.bytes then .error err
      else match s.err with
        | some e => .error e
        | none => .ok ([], codec.digest s.bytes) := by
  have hle := codec.flushed_le s.bytes
  by_cases hf : n < codec.flushed s.bytes
  · simp only [compressAndWriteBlob, writeBlobAndReturnDigest, if_pos (hf.trans_le hle),
      if_pos hf]
  · rw [if_neg hf]
    by_cases hn : n < (codec.gzip s.bytes).length
    · simp only [compressAndWriteBlob, writeBlobAndReturnDigest, if_pos hn, if_neg hf]
    · simp only [compressAndWriteBlob, writeBlobAndReturnDigest, if_neg hn,
        if_neg (Nat.not_lt.mpr hle)]

theorem compressAndWriteBlob_eq_ok {codec : Codec} {w : BlobWrite} {s : Stream}
    {c u : List Char} :
    compressAndWriteBlob codec w s = .ok (c, u) ↔
      s.err = none ∧ u = codec.digest s.bytes ∧
        (w.fault = none ∧ c = codec.digest (codec.gzip s.bytes) ∨
          ∃ n err, w.fault = some (n, err) ∧ codec.flushed s.bytes ≤ n ∧ c = []) := by
  rcases w with ⟨_ | ⟨n, err⟩⟩
  · rw [← BlobWrite.commits, compressAndWriteBlob_commits]
    rcases s.err with _ | e
    · simp [BlobWrite.commits, eq_comm, and_comm]
    · simp
  · rw [compressAndWriteBlob_of_fault]
    by_cases hf : n < codec.flushed s.bytes
    · simp [hf]
    · rcases s.err with _ | e
      · simp [hf, Nat.le_of_not_lt hf, and_comm, eq_comm]
      · simp [hf]

def bzip2Magic : List UInt8 := [0x42, 0x5A, 0x68]

def gzipMagic : List UInt8 := [0x1F, 0x8B, 0x08]

def xzMagic : List UInt8 := [0xFD, 0x37, 0x7A, 0x58, 0x5A, 0x00]

def zstdMagic : List UInt8 := [0x28, 0xB5, 0x2F, 0xFD]

/-- `compression.Detect` of `go-archive`: by magic number, and for zstd also by the magic
number of a skippable frame, `0x184D2A5?` little-endian, in eight bytes at least. -/
def detectMagic (bs : List UInt8) : Compression :=
  if bzip2Magic.isPrefixOf bs then .bzip2
  else if gzipMagic.isPrefixOf bs then .gzip
  else if xzMagic.isPrefixOf bs then .xz
  else if zstdMagic.isPrefixOf bs ||
      (8 ≤ bs.length && bs.getD 0 0 &&& 0xF0 == 0x50 && (bs.drop 1).take 3 == [0x2A, 0x4D, 0x18])
    then .zstd
  else .none

/-- Detection by magic number, a gzip framing that keeps its input after the magic number and
writes the magic number at the first write, and a checksum in place of SHA-256. -/
def exampleCodec : Codec where
  detect := detectMagic
  decompressStream s :=
    if gzipMagic.isPrefixOf s.bytes then .ok ⟨s.bytes.drop 3, s.err⟩ else .ok s
  gzip x := gzipMagic ++ x
  flushed x := if x = [] then 0 else 3
  flushed_le x := by by_cases h : x = [] <;> simp [h, gzipMagic]
  hash b := Nat.toDigits 16 (b.foldl (fun h x => (h * 257 + x.toNat) % 4294967296) 0)

theorem saveArchive_of_stored {codec : Codec} {w : BlobWrite} {s : Stream} {comp : Compression}
    (hd : detectCompression codec s = .ok comp) (hc : comp = .gzip ∨ comp = .zstd) :
    saveArchive codec w s = (writeCompressedBlob codec w s).map fun (c, u) =>
      (c, u, if comp = .zstd then mediaTypeImageLayerZstd else mediaTypeImageLayerGzip) := by
  rcases hc with rfl | rfl <;> simp only [saveArchive, hd]

theorem saveArchive_of_none {codec : Codec} {w : BlobWrite} {s : Stream}
    (hd : detectCompression codec s = .ok .none) :
    saveArchive codec w s =
      (compressAndWriteBlob codec w s).map fun (c, u) => (c, u, mediaTypeImageLayerGzip) := by
  simp only [saveArchive, hd]

theorem saveArchive_of_decompressed {codec : Codec} {w : BlobWrite} {s : Stream}
    {comp : Compression} (hd : detectCompression codec s = .ok comp)
    (hc : comp = .bzip2 ∨ comp = .xz) :
    saveArchive codec w s =
      match codec.decompressStream s with
      | .error e => .error e
      | .ok r => (compressAndWriteBlob codec w r).map fun (c, u) =>
          (c, u, mediaTypeImageLayerGzip) := by
  rcases hc with rfl | rfl <;> simp only [saveArchive, hd]

/-- A store failure that comes once the compressor's output from the copy has been taken,
at the commit for instance, is dropped: `saveArchive` of an uncompressed layer then returns
no error and an empty compressed digest. -/
theorem saveArchive_drops_late_write_failure (codec : Codec) (s : Stream) (n : Nat)
    (err : List Char) (hd : detectCompression codec s = .ok .none) (hs : s.err = none)
    (hn : codec.flushed s.bytes ≤ n) :
    saveArchive codec ⟨some (n, err)⟩ s = .ok ([], codec.digest s.bytes, mediaTypeImageLayerGzip) := by
  rw [saveArchive_of_none hd, compressAndWriteBlob_of_fault, if_neg (Nat.not_lt.mpr hn), hs]
  rfl

theorem saveArchive_drops_commit_failure_abc :
    saveArchive exampleCodec ⟨some (6, "commit failed".toList)⟩ ⟨[97, 98, 99], none⟩ =
      .ok ([], exampleCodec.digest [97, 98, 99], mediaTypeImageLayerGzip) :=
  saveArchive_drops_late_write_failure exampleCodec ⟨[97, 98, 99], none⟩ 6 _ (by decide) rfl
    (by decide)

/-- For a gzip or zstd layer, `saveArchive` succeeds exactly when the store read the whole
layer and committed it and the layer decompresses: no failure of the store is dropped. -/
theorem saveArchive_stored_eq_ok {codec : Codec} {w : BlobWrite} {s : Stream}
    {comp : Compression} (hd : detectCompression codec s = .ok comp)
    (hc : comp = .gzip ∨ comp = .zstd) {c u mt : List Char} :
    saveArchive codec w s = .ok (c, u, mt) ↔
      w.fault = none ∧ s.err = none ∧ c = codec.digest s.bytes ∧
        mt = (if comp = .zstd then mediaTypeImageLayerZstd else mediaTypeImageLayerGzip) ∧
        ∃ d, codec.decompressStream ⟨s.bytes, none⟩ = .ok ⟨d, none⟩ ∧ u = codec.digest d := by
  rw [saveArchive_of_stored hd hc, Except.map_eq_ok]
  constructor
  · rintro ⟨⟨c', u'⟩, hw, heq⟩
    obtain ⟨hwc, d, hdec, rfl⟩ := writeCompressedBlob_eq_ok.mp hw
    obtain ⟨hf, hs, rfl⟩ := writeBlobAndReturnDigest_eq_ok.mp hwc
    cases heq
    exact ⟨hf, hs, rfl, rfl, d, hdec, rfl⟩
  · rintro ⟨hf, hs, rfl, rfl, d, hdec, rfl⟩
    exact ⟨(_, _), writeCompressedBlob_eq_ok.mpr
      ⟨writeBlobAndReturnDigest_eq_ok.mpr ⟨hf, hs, rfl⟩, d, hdec, rfl⟩, rfl⟩

theorem saveArchive_stored_eq_ok_gzip :
    detectCompression exampleCodec ⟨gzipMagic ++ [97], none⟩ = .ok .gzip ∧
      (saveArchive exampleCodec ⟨some (4, "commit failed".toList)⟩ ⟨gzipMagic ++ [97], none⟩ =
          .ok ([], exampleCodec.digest [97], mediaTypeImageLayerGzip) ↔
        (⟨some (4, "commit failed".toList)⟩ : BlobWrite).fault = none ∧
          (⟨gzipMagic ++ [97], none⟩ : Stream).err = none ∧
          [] = exampleCodec.digest (gzipMagic ++ [97]) ∧
          mediaTypeImageLayerGzip =
            (if Compression.gzip = .zstd then mediaTypeImageLayerZstd else mediaTypeImageLayerGzip) ∧
          ∃ d, exampleCodec.decompressStream ⟨gzipMagic ++ [97], none⟩ = .ok ⟨d, none⟩ ∧
            exampleCodec.digest [97] = exampleCodec.digest d) ∧
      saveArchive exampleCodec .commits ⟨gzipMagic ++ [97], none⟩ =
        .ok (exampleCodec.digest (gzipMagic ++ [97]), exampleCodec.digest [97],
          mediaTypeImageLayerGzip) :=
  ⟨by decide, saveArchive_stored_eq_ok (by decide) (.inl rfl),
    (saveArchive_stored_eq_ok (by decide) (.inl rfl)).mpr ⟨rfl, rfl, rfl, rfl, [97], rfl, rfl⟩⟩

/-- For an uncompressed layer, `saveArchive` succeeds exactly when the layer ends with
`io.EOF` and the store either committed its gzip stream or failed only after taking the
compressor's output from the copy, in which case the compressed digest is empty. -/
theorem saveArchive_none_eq_ok {codec : Codec} {w : BlobWrite} {s : Stream}
    (hd : detectCompression codec s = .ok .none) {c u mt : List Char} :
    saveArchive codec w s = .ok (c, u, mt) ↔
      s.err = none ∧ u = codec.digest s.bytes ∧ mt = mediaTypeImageLayerGzip ∧
        (w.fault = none ∧ c = codec.digest (codec.gzip s.bytes) ∨
          ∃ n err, w.fault = some (n, err) ∧ codec.flushed s.bytes ≤ n ∧ c = []) := by
  rw [saveArchive_of_none hd, Except.map_eq_ok]
  constructor
  · rintro ⟨⟨c', u'⟩, hw, heq⟩
    cases heq
    obtain ⟨hs, hu, hc⟩ := compressAndWriteBlob_eq_ok.mp hw
    exact ⟨hs, hu, rfl, hc⟩
  · rintro ⟨hs, hu, rfl, hc⟩
    exact ⟨(c, u), compressAndWriteBlob_eq_ok.mpr ⟨hs, hu, hc⟩, rfl⟩

theorem saveArchive_none_eq_ok_abc :
    detectCompression exampleCodec ⟨[97, 98, 99], none⟩ = .ok .none ∧
      (saveArchive exampleCodec ⟨some (3, "commit failed".toList)⟩ ⟨[97, 98, 99], none⟩ =
          .ok ([], exampleCodec.digest [97, 98, 99], mediaTypeImageLayerGzip) ↔
        (⟨[97, 98, 99], none⟩ : Stream).err = none ∧
          exampleCodec.digest [97, 98, 99] = exampleCodec.digest [97, 98, 99] ∧
          mediaTypeImageLayerGzip = mediaTypeImageLayerGzip ∧
          ((⟨some (3, "commit failed".toList)⟩ : BlobWrite).fault = none ∧
              [] = exampleCodec.digest (exampleCodec.gzip [97, 98, 99]) ∨
            ∃ n err, (⟨some (3, "commit failed".toList)⟩ : BlobWrite).fault = some (n, err) ∧
              exampleCodec.flushed [97, 98, 99] ≤ n ∧ ([] : List Char) = [])) :=
  ⟨by decide, saveArchive_none_eq_ok (by decide)⟩

end MobyDaemon.Containerd
