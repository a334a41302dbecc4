import Mathlib
import MobyDaemon.Containerd.ImageImport

/-!
`ImportImage` of the containerd image service, around `saveArchive`: the layer blob, its
`containerd.io/uncompressed` label, the image config and the manifest go to the content store,
then the image record is created and the image unpacked.

The content store is its list of blobs, each with its digest and labels; `WriteBlob` leaves a
blob that is already there as it is. The image store is its list of image records. The calls
the import makes outside this file are parameters, collected in an `ImportEnv`: the lease,
`BuildFromConfig`, the failures of the content store's `Update` and `WriteBlob`, `json.Marshal`
of the config and of the manifest, `danglingImageName`, `createOrReplaceImage` and the
unpacking. The parts of the config and the manifest that no result reads (platform, creation
time, history comment, the layer's size) are inside the two marshal parameters; the lease is
modelled only as a call that can fail.

`saveArchive` can return no error and an empty compressed digest when the store failed late.
`importImage_spec` shows that the import still records an image only when its manifest, its
config and its layer are all in the content store, under a non-empty layer digest.
-/
namespace MobyDaemon.Containerd

@[simp] theorem Codec.digest_ne_nil (codec : Codec) (b : List UInt8) : codec.digest b ≠ [] := by
  simp [Codec.digest]

structure Blob where
  digest : List Char
  labels : List (List Char × List Char)
  deriving DecidableEq, Repr

/-- The content store's blobs; a blob is named by a digest, never by the empty one. -/
structure ContentStore where
  blobs : List Blob
  digest_ne_nil : ∀ b ∈ blobs, b.digest ≠ []

namespace ContentStore

/-- A blob with digest `d` is in the store: `Info(d)` succeeds. -/
def Has (cs : ContentStore) (d : List Char) : Prop := ∃ b ∈ cs.blobs, b.digest = d

instance (cs : ContentStore) (d : List Char) : Decidable (cs.Has d) :=
  inferInstanceAs (Decidable (∃ b ∈ cs.blobs, b.digest = d))

/-- `content.WriteBlob` that goes through: a blob already there is left as it is. -/
def write (cs : ContentStore) (d : List Char) (labels : List (List Char × List Char))
    (hd : d ≠ []) : ContentStore :=
  if cs.Has d then cs
  else ⟨cs.blobs ++ [⟨d, labels⟩], fun b hb => (List.mem_append.mp hb).elim
    (cs.digest_ne_nil b) fun hb => List.mem_singleton.mp hb ▸ hd⟩

/-- `Update` with the field path `labels.*`, taken to make the blob's labels the ones given;
no result below depends on what it does to the labels. -/
def setLabels (cs : ContentStore) (d : List Char) (labels : List (List Char × List Char)) :
    ContentStore :=
  ⟨cs.blobs.map fun b => if b.digest = d then { b with labels := labels } else b, by
    intro b hb
    obtain ⟨b', hb', rfl⟩ := List.mem_map.mp hb
    split <;> exact cs.digest_ne_nil b' hb'⟩

def empty : ContentStore := ⟨[], fun _ h => absurd h (List.not_mem_nil _)⟩

@[simp] theorem not_has_nil (cs : ContentStore) : ¬cs.Has [] :=
  fun ⟨b, hb, h⟩ => cs.digest_ne_nil b hb h

@[simp] theorem has_write {cs : ContentStore} {d e : List Char} {labels : List (List Char × List Char)}
    {hd : d ≠ []} : (cs.write d labels hd).Has e ↔ cs.Has e ∨ e = d := by
  unfold write
  by_cases h : cs.Has d
  · rw [if_pos h]
    exact ⟨.inl, fun h' => h'.elim id fun he => he ▸ h⟩
  · rw [if_neg h]
    simp only [Has, List.mem_append, List.mem_singleton]
    constructor
    · rintro ⟨b, hb | rfl, rfl⟩
      · exact .inl ⟨b, hb, rfl⟩
      · exact .inr rfl
    · rintro (⟨b, hb, rfl⟩ | rfl)
      · exact ⟨b, .inl hb, rfl⟩
      · exact ⟨_, .inr rfl, rfl⟩

theorem has_write_of_has {cs : ContentStore} {d e : List Char}
    {labels : List (List Char × List Char)} {hd : d ≠ []} (h : cs.Has e) :
    (cs.write d labels hd).Has e :=
  has_write.mpr (.inl h)

@[simp] theorem mem_write_iff {cs : ContentStore} {d : List Char}
    {labels : List (List Char × List Char)} {hd : d ≠ []} {b : Blob} :
    b ∈ (cs.write d labels hd).blobs ↔ b ∈ cs.blobs ∨ (¬cs.Has d ∧ b = ⟨d, labels⟩) := by
  unfold write
  by_cases h : cs.Has d
  · simp [h]
  · simp [h]

@[simp] theorem has_setLabels {cs : ContentStore} {d e : List Char} {labels : List (List Char × List Char)} :
    (cs.setLabels d labels).Has e ↔ cs.Has e := by
  simp only [setLabels, Has, List.mem_map]
  constructor
  · rintro ⟨_, ⟨b, hb, rfl⟩, rfl⟩
    exact ⟨b, hb, by split <;> rfl⟩
  · rintro ⟨b, hb, rfl⟩
    exact ⟨_, ⟨b, hb, rfl⟩, by split <;> rfl⟩

end ContentStore

/-- The blob that `saveArchive`'s one `WriteBlob` call commits, if it commits one: the layer
itself when it is gzip or zstd, and otherwise the gzip stream of the layer or of its
decompression. -/
def saveArchiveBlob (codec : Codec) (w : BlobWrite) (s : Stream) : Option (List UInt8) :=
  let committed (x : Stream) : Option (List UInt8) :=
    if (writeBlobAndReturnDigest codec w x).2.isOk then some x.bytes else none
  match detectCompression codec s with
  | .error _ => none
  | .ok .gzip | .ok .zstd => committed s
  | .ok .bzip2 | .ok .xz =>
      match codec.decompressStream s with
      | .error _ => none
      | .ok r => committed ⟨codec.gzip r.bytes, r.err⟩
  | .ok .none => committed ⟨codec.gzip s.bytes, s.err⟩

/-- The content store after `saveArchive`: with the blob it committed. -/
def ContentStore.commitLayer (cs : ContentStore) (codec : Codec) (w : BlobWrite) (s : Stream) :
    ContentStore :=
  match saveArchiveBlob codec w s with
  | some b => cs.write (codec.digest b) [] (codec.digest_ne_nil b)
  | none => cs

theorem saveArchive_compressed {codec : Codec} {w : BlobWrite} {s : Stream}
    {c u mt : List Char} (h : saveArchive codec w s = .ok (c, u, mt)) :
    c = [] ∨ ∃ b, saveArchiveBlob codec w s = some b ∧ c = codec.digest b := by
  have hcommit : ∀ {x : Stream}, w.fault = none → x.err = none →
      (writeBlobAndReturnDigest codec w x).2.isOk := fun hf hs => by
    rw [writeBlobAndReturnDigest_eq_ok.mpr ⟨hf, hs, rfl⟩]; rfl
  rcases hd : detectCompression codec s with e | comp
  · simp [saveArchive, hd] at h
  cases comp with
  | gzip | zstd =>
      rw [saveArchive_of_stored hd (by simp)] at h
      obtain ⟨⟨c', u'⟩, hw, heq⟩ := Except.map_eq_ok.mp h
      cases heq
      obtain ⟨hf, hs, rfl⟩ := writeBlobAndReturnDigest_eq_ok.mp (writeCompressedBlob_eq_ok.mp hw).1
      exact .inr ⟨s.bytes, by simp [saveArchiveBlob, hd, hcommit hf hs], rfl⟩
  | none =>
      rw [saveArchive_of_none hd] at h
      obtain ⟨⟨c', u'⟩, hw, heq⟩ := Except.map_eq_ok.mp h
      cases heq
      obtain ⟨hs, -, ⟨hf, rfl⟩ | ⟨-, -, -, -, rfl⟩⟩ := compressAndWriteBlob_eq_ok.mp hw
      · exact .inr ⟨codec.gzip s.bytes, by
          simp [saveArchiveBlob, hd, @hcommit ⟨codec.gzip s.bytes, s.err⟩ hf hs], rfl⟩
      · exact .inl rfl
  | bzip2 | xz =>
      rw [saveArchive_of_decompressed hd (by simp)] at h
      rcases hr : codec.decompressStream s with e | r <;> rw [hr] at h
      · cases h
      obtain ⟨⟨c', u'⟩, hw, heq⟩ := Except.map_eq_ok.mp h
      cases heq
      obtain ⟨hs, -, ⟨hf, rfl⟩ | ⟨-, -, -, -, rfl⟩⟩ := compressAndWriteBlob_eq_ok.mp hw
      · exact .inr ⟨codec.gzip r.bytes, by
          simp [saveArchiveBlob, hd, hr, @hcommit ⟨codec.gzip r.bytes, r.err⟩ hf hs], rfl⟩
      · exact .inl rfl

/-- After a `saveArchive` that returned a non-empty compressed digest, the store holds that
blob and otherwise only what it held before. -/
theorem has_commitLayer_of_saveArchive {cs : ContentStore} {codec : Codec} {w : BlobWrite}
    {s : Stream} {c u mt : List Char} (h : saveArchive codec w s = .ok (c, u, mt)) (hc : c ≠ [])
    {e : List Char} (he : (cs.commitLayer codec w s).Has e) : cs.Has e ∨ e = c := by
  rcases saveArchive_compressed h with rfl | ⟨b, hb, rfl⟩
  · exact absurd rfl hc
  simp only [ContentStore.commitLayer, hb] at he
  exact ContentStore.has_write.mp he

/-- An error of the import: marked by `errdefs.System`, `errdefs.InvalidParameter` or
`errdefs.Unknown`, or returned as the callee gave it. -/
inductive ImportError where
  | system (text : List Char)
  | invalidParameter (text : List Char)
  | unknown (text : List Char)
  | other (text : List Char)
  deriving DecidableEq, Repr

/-- An error of `Unpack`, marked when containerd reports that the content already exists. -/
structure UnpackError where
  alreadyExists : Bool
  text : List Char
  deriving DecidableEq, Repr

/-- The outcomes of the calls `ImportImage` makes outside this file. -/
structure ImportEnv where
  /-- the error of `client.WithLease` -/
  withLease : Option (List Char)
  /-- the error of `dockerfile.BuildFromConfig` on the `changes` -/
  buildFromConfig : Option (List Char)
  /-- the error of `Info` for a digest the content store does not have -/
  infoError : List Char → List Char
  /-- the error of the content store's `Update` -/
  update : Option (List Char)
  /-- `json.Marshal` of the image config, whose one layer has the given uncompressed digest -/
  marshalConfig : List Char → Except (List Char) (List UInt8)
  /-- `json.Marshal` of the manifest, from the config digest and the layer's media type and
  digest -/
  marshalManifest : List Char → List Char → List Char → Except (List Char) (List UInt8)
  /-- the error of `content.WriteBlob` for a blob of the given digest -/
  writeBlob : List Char → Option (List Char)
  /-- `danglingImageName` -/
  danglingImageName : List Char → List Char
  /-- the error of `createOrReplaceImage` -/
  createOrReplaceImage : Option (List Char)
  /-- the error of `NewImageManifest` -/
  newImageManifest : Option (List Char)
  /-- the error of `Unpack` -/
  unpack : Option UnpackError

/-- `c8dimages.Image`: its name and the digest of its target manifest. -/
structure Image where
  name : List Char
  target : List Char
  deriving DecidableEq, Repr

structure Stores where
  content : ContentStore
  images : List Image

def uncompressedLabel : List Char := "containerd.io/uncompressed".toList

def gcConfigLabel : List Char := "containerd.io/gc.ref.content.config".toList

def gcLayerLabel : List Char := "containerd.io/gc.ref.content.l.0".toList

/-- `fillUncompressedLabel`; the size it returns goes into the manifest, inside
`marshalManifest`. -/
def fillUncompressedLabel (env : ImportEnv) (cs : ContentStore) (compressed uncompressed : List Char) :
    ContentStore × Option ImportError :=
  if cs.Has compressed then
    match env.update with
    | some err => (cs, some (.system ("couldn't set uncompressed label: ".toList ++ err)))
    | none => (cs.setLabels compressed [(uncompressedLabel, uncompressed)], none)
  else
    (cs, some (.unknown ("couldn't open previously written blob: ".toList ++ env.infoError compressed)))

/-- `storeJson`: the marshalled object is written under its digest, with `labels`. -/
def storeJson (codec : Codec) (env : ImportEnv) (cs : ContentStore)
    (data : Except (List Char) (List UInt8)) (labels : List (List Char × List Char)) :
    ContentStore × Except ImportError (List Char) :=
  match data with
  | .error err => (cs, .error (.invalidParameter err))
  | .ok bytes =>
      match env.writeBlob (codec.digest bytes) with
      | some err => (cs, .error (.system err))
      | none => (cs.write (codec.digest bytes) labels (codec.digest_ne_nil bytes),
          .ok (codec.digest bytes))

def unpackImage (env : ImportEnv) : Option ImportError :=
  match env.newImageManifest with
  | some err => some (.other err)
  | none =>
      match env.unpack with
      | some err =>
          if err.alreadyExists then none
          else some (.system ("failed to unpack image: ".toList ++ err.text))
      | none => none

/-- `createOrReplaceImage`: the record replaces any of the same name. -/
def createOrReplace (images : List Image) (img : Image) : List Image :=
  images.filter (·.name ≠ img.name) ++ [img]

/-- `ImportImage`: the stores after it, the image id it returns (`""` on an early failure) and
its error. -/
def importImage (codec : Codec) (env : ImportEnv) (ref : List Char) (w : BlobWrite) (s : Stream)
    (st : Stores) : Stores × List Char × Option ImportError :=
  match env.withLease with
  | some err => (st, [], some (.system err))
  | none =>
  match env.buildFromConfig with
  | some err => (st, [], some (.invalidParameter err))
  | none =>
  let cs := st.content.commitLayer codec w s
  match saveArchive codec w s with
  | .error err => (⟨cs, st.images⟩, [], some (.other err))
  | .ok (compressed, uncompressed, mediaType) =>
  match fillUncompressedLabel env cs compressed uncompressed with
  | (cs, some err) => (⟨cs, st.images⟩, [], some err)
  | (cs, none) =>
  match storeJson codec env cs (env.marshalConfig uncompressed) [] with
  | (cs, .error err) => (⟨cs, st.images⟩, [], some err)
  | (cs, .ok config) =>
  match storeJson codec env cs (env.marshalManifest config mediaType compressed)
      [(gcConfigLabel, config), (gcLayerLabel, compressed)] with
  | (cs, .error err) => (⟨cs, st.images⟩, [], some err)
  | (cs, .ok manifest) =>
  match env.createOrReplaceImage with
  | some err => (⟨cs, st.images⟩, [], some (.other err))
  | none =>
      (⟨cs, createOrReplace st.images
          ⟨if ref = [] then env.danglingImageName manifest else ref, manifest⟩⟩,
        manifest, unpackImage env)

theorem fillUncompressedLabel_eq_none {env : ImportEnv} {cs cs' : ContentStore}
    {compressed uncompressed : List Char}
    (h : fillUncompressedLabel env cs compressed uncompressed = (cs', none)) :
    cs.Has compressed ∧ cs' = cs.setLabels compressed [(uncompressedLabel, uncompressed)] := by
  unfold fillUncompressedLabel at h
  split at h
  · rcases hu : env.update with _ | err <;> simp only [hu] at h
    · exact ⟨‹_›, (Prod.mk.inj h).1.symm⟩
    · cases h
  · cases h

theorem storeJson_eq_ok {codec : Codec} {env : ImportEnv} {cs cs' : ContentStore}
    {data : Except (List Char) (List UInt8)} {labels : List (List Char × List Char)}
    {d : List Char} (h : storeJson codec env cs data labels = (cs', .ok d)) :
    ∃ bytes, data = .ok bytes ∧ d = codec.digest bytes ∧
      cs' = cs.write (codec.digest bytes) labels (codec.digest_ne_nil bytes) := by
  unfold storeJson at h
  rcases data with err | bytes
  · cases h
  rcases hw : env.writeBlob (codec.digest bytes) with _ | err <;>
    simp only [hw, Prod.mk.injEq, Except.ok.injEq] at h
  · obtain ⟨rfl, rfl⟩ := h
    exact ⟨bytes, rfl, rfl, rfl⟩
  · cases h.2

/-- An import either returns no id and leaves the image store as it was, or goes through every
write and records the image. -/
theorem importImage_cases (codec : Codec) (env : ImportEnv) (ref : List Char) (w : BlobWrite)
    (s : Stream) (st : Stores) :
    ((importImage codec env ref w s st).2.1 = [] ∧
        (importImage codec env ref w s st).1.images = st.images) ∨
      ∃ layer uncompressed mediaType cs₁ config cs₂ manifest cs₃,
        saveArchive codec w s = .ok (layer, uncompressed, mediaType) ∧
        fillUncompressedLabel env (st.content.commitLayer codec w s) layer uncompressed =
          (cs₁, none) ∧
        storeJson codec env cs₁ (env.marshalConfig uncompressed) [] = (cs₂, .ok config) ∧
        storeJson codec env cs₂ (env.marshalManifest config mediaType layer)
          [(gcConfigLabel, config), (gcLayerLabel, layer)] = (cs₃, .ok manifest) ∧
        importImage codec env ref w s st =
          (⟨cs₃, createOrReplace st.images
              ⟨if ref = [] then env.danglingImageName manifest else ref, manifest⟩⟩,
            manifest, unpackImage env) := by
  rcases hl : env.withLease with _ | err
  swap; · exact .inl (by simp [importImage, hl])
  rcases hb : env.buildFromConfig with _ | err
  swap; · exact .inl (by simp [importImage, hl, hb])
  rcases hs : saveArchive codec w s with err | ⟨layer, uncompressed, mediaType⟩
  · exact .inl (by simp [importImage, hl, hb, hs])
  rcases hf : fillUncompressedLabel env (st.content.commitLayer codec w s) layer uncompressed
    with ⟨cs₁, _ | err⟩
  swap; · exact .inl (by simp [importImage, hl, hb, hs, hf])
  rcases hc : storeJson codec env cs₁ (env.marshalConfig uncompressed) [] with ⟨cs₂, err | config⟩
  · exact .inl (by simp [importImage, hl, hb, hs, hf, hc])
  rcases hm : storeJson codec env cs₂ (env.marshalManifest config mediaType layer)
    [(gcConfigLabel, config), (gcLayerLabel, layer)] with ⟨cs₃, err | manifest⟩
  · exact .inl (by simp [importImage, hl, hb, hs, hf, hc, hm])
  rcases hi : env.createOrReplaceImage with _ | err
  swap; · exact .inl (by simp [importImage, hl, hb, hs, hf, hc, hm, hi])
  exact .inr ⟨layer, uncompressed, mediaType, cs₁, config, cs₂, manifest, cs₃, rfl, hf, hc, hm,
    by simp [importImage, hl, hb, hs, hf, hc, hm, hi]⟩

/-- `ImportImage` changes the image store only when it returns an image id. It then records the
image under the reference, or the dangling name of its manifest, with the manifest as target,
and the only error it can still return is the unpacking's. The manifest, the config and the
layer are then in the content store, the layer under the non-empty digest `saveArchive`
returned; and when no blob had the manifest's digest before and the three digests differ, the
manifest blob carries the garbage-collection labels that reference the config and the layer. -/
theorem importImage_spec (codec : Codec) (env : ImportEnv) (ref : List Char) (w : BlobWrite)
    (s : Stream) (st : Stores) :
    ((importImage codec env ref w s st).2.1 = [] →
        (importImage codec env ref w s st).1.images = st.images) ∧
      ((importImage codec env ref w s st).2.1 ≠ [] →
        (importImage codec env ref w s st).2.2 = unpackImage env ∧
        (importImage codec env ref w s st).1.images = createOrReplace st.images
          ⟨if ref = [] then env.danglingImageName (importImage codec env ref w s st).2.1 else ref,
            (importImage codec env ref w s st).2.1⟩ ∧
        ∃ layer uncompressed mediaType config,
          saveArchive codec w s = .ok (layer, uncompressed, mediaType) ∧ layer ≠ [] ∧
          (importImage codec env ref w s st).1.content.Has (importImage codec env ref w s st).2.1 ∧
          (importImage codec env ref w s st).1.content.Has config ∧
          (importImage codec env ref w s st).1.content.Has layer ∧
          (¬st.content.Has (importImage codec env ref w s st).2.1 →
            config ≠ (importImage codec env ref w s st).2.1 →
            layer ≠ (importImage codec env ref w s st).2.1 →
            ⟨(importImage codec env ref w s st).2.1, [(gcConfigLabel, config), (gcLayerLabel, layer)]⟩ ∈
              (importImage codec env ref w s st).1.content.blobs)) := by
  rcases importImage_cases codec env ref w s st with ⟨hid, himages⟩ | ⟨layer, uncompressed,
    mediaType, cs₁, config, cs₂, manifest, cs₃, hs, hf, hc, hm, heq⟩
  · exact ⟨fun _ => himages, fun h => absurd hid h⟩
  rw [heq]
  dsimp only
  obtain ⟨hlayer, rfl⟩ := fillUncompressedLabel_eq_none hf
  obtain ⟨cbytes, -, rfl, rfl⟩ := storeJson_eq_ok hc
  obtain ⟨mbytes, -, rfl, rfl⟩ := storeJson_eq_ok hm
  have hlayer₀ : layer ≠ [] := fun h => (st.content.commitLayer codec w s).not_has_nil (h ▸ hlayer)
  refine ⟨fun h => absurd h (codec.digest_ne_nil mbytes), fun _ => ⟨rfl, rfl, layer, uncompressed,
    mediaType, codec.digest cbytes, hs, hlayer₀, ContentStore.has_write.mpr (.inr rfl),
    ContentStore.has_write_of_has (ContentStore.has_write.mpr (.inr rfl)),
    ContentStore.has_write_of_has (ContentStore.has_write_of_has
      (ContentStore.has_setLabels.mpr hlayer)),
    fun hfresh hconfig hlayer' => ContentStore.mem_write_iff.mpr (.inr ⟨fun hhas => ?_, rfl⟩)⟩⟩
  -- before the manifest's write, only the start's blobs, the layer and the config were there
  rcases ContentStore.has_write.mp hhas with hhas | h
  · rcases has_commitLayer_of_saveArchive hs hlayer₀ (ContentStore.has_setLabels.mp hhas)
      with hhas | h
    · exact hfresh hhas
    · exact hlayer' h.symm
  · exact hconfig h.symm

end MobyDaemon.Containerd
