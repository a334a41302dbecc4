import Mathlib
import MobyDaemon.Text
import MobyDaemon.FilePath
import MobyDaemon.Json.Roundtrip

/-!
The external-key exchange of libnetwork (`sandbox_externalkey_unix.go`). The re-exec helper's
`setExternalKey` writes one `setKeyData` with `json.NewEncoder(c).Encode` to the controller's
Unix socket and reads the reply once (`processReturn`); the listener's goroutine in
`acceptClientConnections` runs `processExternalKey` on one read of the connection and writes
back `success` or the error's text.

The socket is modelled by what each single `Read` returns: an error, or a non-empty prefix of
what the other side wrote, no longer than the reader's buffer. `json.Unmarshal` into a
`setKeyData` is the parser of `Json.Decode` followed by the reflection decoder's rules for a
struct of two strings and a `map[string]string`. The controller (`GetSandbox`, `Sandbox.SetKey`)
is a parameter.

A request decodes back to itself exactly when its encoding fits the listener's 1280-byte
buffer; a longer one is cut by the read and fails with `unexpected end of JSON input`. The
reply is compared with `success` as text, so the client sees success exactly when the reply
starts with those seven bytes and its read stops there: after a nil error, or after a `SetKey`
error whose text starts with `success`. No other error text of the listener does.

Both ends name the socket with `filepath.Join`, the listener in two steps and the client in
one; they agree for every exec root and controller id, since `Join(Join(a, b), c)` is
`Join(a, b, c)`.
-/
namespace MobyDaemon.Libnetwork
open Json Utf8

def success : List Char := "success".toList

/-- `[]byte(s)` for a string of valid UTF-8. -/
def bytesOf (s : List Char) : List UInt8 := s.flatMap encodeRune

/-- The buffer of the listener's read in `processExternalKey`. -/
def serverBufferSize : Nat := 1280

/-- The buffer of the client's read in `processReturn`. -/
def clientBufferSize : Nat := 1024

/-- `propagation.MapCarrier`, a `map[string]string`, by its entries; a key is there once. -/
structure MapCarrier where
  entries : List (List Char × List Char)
  nodup : (entries.map Prod.fst).Nodup

namespace MapCarrier

/-- The empty map. A nil map has no entries either. -/
def empty : MapCarrier := ⟨[], List.nodup_nil⟩

/-- `m[k]` -/
def get (m : MapCarrier) (k : List Char) : Option (List Char) :=
  (m.entries.find? fun e => e.1 = k).map Prod.snd

/-- `m[k] = v` -/
def set (m : MapCarrier) (k v : List Char) : MapCarrier where
  entries := (k, v) :: m.entries.filter fun e => e.1 ≠ k
  nodup := by
    rw [List.map_cons, List.nodup_cons]
    exact ⟨by simp, m.nodup.sublist ((List.filter_sublist _).map _)⟩

section Fold
variable {l : List (List Char × List Char)} {k : List Char}

end Fold

end MapCarrier

structure SetKeyData where
  containerID : List Char
  key : List Char
  oTelTrace : MapCarrier

def SetKeyData.zero : SetKeyData := ⟨[], [], .empty⟩

/-- `json.Marshal` of a `setKeyData`: the fields in declaration order, the carrier as a map.
The client's carrier is never nil (`propagation.MapCarrier{}`), so it is an object. -/
def encodeSetKeyData (d : SetKeyData) : List UInt8 :=
  encodeObject [("ContainerID".toList, appendString d.containerID), ("Key".toList, appendString d.key),
    ("OTelTrace".toList, encodeStringMap d.oTelTrace.entries)]

/-- `json.NewEncoder(c).Encode(d)`: the encoding and a newline, in one write. -/
def encoderEncode (d : SetKeyData) : List UInt8 := encodeSetKeyData d ++ [10]

/-- `UnmarshalTypeError`: the kind of the JSON value, the struct and field it was met in (empty
at the top level), and the Go type it could not be stored in. -/
structure UnmarshalTypeError where
  value : List Char
  struct : List Char
  field : List Char
  type : List Char
  deriving DecidableEq

def UnmarshalTypeError.message (e : UnmarshalTypeError) : List Char :=
  if e.struct ≠ [] ∨ e.field ≠ [] then
    "json: cannot unmarshal ".toList ++ e.value ++ " into Go struct field ".toList ++ e.struct ++
      '.' :: e.field ++ " of type ".toList ++ e.type
  else "json: cannot unmarshal ".toList ++ e.value ++ " into Go value of type ".toList ++ e.type

/-- The error of `json.Unmarshal`: the scanner's, or the first one the decoder saved. -/
inductive UnmarshalError where
  | invalid (e : SyntaxError)
  | type (e : UnmarshalTypeError)
  deriving DecidableEq

def UnmarshalError.message : UnmarshalError → List Char
  | .invalid e => e.message
  | .type e => e.message

def kindName : Value → List Char
  | .null => "null".toList
  | .bool _ => "bool".toList
  | .number _ => "number".toList
  | .string _ => "string".toList
  | .array _ => "array".toList
  | .object _ => "object".toList

inductive Field where
  | containerID
  | key
  | oTelTrace
  deriving DecidableEq

def Field.name : Field → List Char
  | .containerID => "ContainerID".toList
  | .key => "Key".toList
  | .oTelTrace => "OTelTrace".toList

def Field.typeName : Field → List Char
  | .containerID | .key => "string".toList
  | .oTelTrace => "propagation.MapCarrier".toList

def setKeyDataFields : List Field := [.containerID, .key, .oTelTrace]

/-- `foldRune` as far as an ASCII name can tell: ASCII letters fold to upper case, and
U+017F and U+212A, the only runes outside ASCII whose fold set holds an ASCII letter, to `S`
and `K`; any other rune stays outside ASCII. -/
def foldRune (c : Char) : Char :=
  if c = 'ſ' then 'S' else if c = 'K' then 'K' else c.toUpper

def foldName (s : List Char) : List Char := s.map foldRune

/-- The field a member's key selects: `byExactName`, then `byFoldedName`. -/
def fieldByName (key : List Char) : Option Field :=
  match setKeyDataFields.find? fun f => f.name = key with
  | some f => some f
  | none => setKeyDataFields.find? fun f => foldName f.name = foldName key

structure DecodeState where
  data : SetKeyData
  err : Option UnmarshalTypeError

/-- `saveError`: only the first error is kept. -/
def DecodeState.saveError (s : DecodeState) (e : UnmarshalTypeError) : DecodeState :=
  match s.err with
  | some _ => s
  | none => { s with err := some e }

def DecodeState.setCarrier (s : DecodeState) (k v : List Char) : DecodeState :=
  { s with data := { s.data with oTelTrace := s.data.oTelTrace.set k v } }

/-- One member of an object decoded into the carrier: the map is set at the key to the string,
or to `""` for `null` and, with an error, for a value of any other kind. -/
def storeCarrierMember (s : DecodeState) : List Char × Value → DecodeState
  | (k, .string v) => s.setCarrier k v
  | (k, .null) => s.setCarrier k []
  | (k, v) => (s.saveError ⟨kindName v, "setKeyData".toList, Field.oTelTrace.name,
      "string".toList⟩).setCarrier k []

/-- A value decoded into a field: a string into a string field, an object into the carrier
(which is kept, not cleared), `null` clears the carrier and leaves a string as it is, and any
other value is an error. -/
def storeField (s : DecodeState) : Field → Value → DecodeState
  | .containerID, .string v => { s with data := { s.data with containerID := v } }
  | .key, .string v => { s with data := { s.data with key := v } }
  | .oTelTrace, .object members => members.foldl storeCarrierMember s
  | .oTelTrace, .null => { s with data := { s.data with oTelTrace := .empty } }
  | .containerID, .null | .key, .null => s
  | f, v => s.saveError ⟨kindName v, "setKeyData".toList, f.name, f.typeName⟩

/-- One member of the top-level object; a key that names no field is skipped. -/
def storeMember (s : DecodeState) (m : List Char × Value) : DecodeState :=
  match fieldByName m.1 with
  | some f => storeField s f m.2
  | none => s

/-- The reflection decoder on a parsed value, into a zero `setKeyData`. -/
def decodeSetKeyData (v : Value) : Except UnmarshalTypeError SetKeyData :=
  let s : DecodeState := match v with
    | .object members => members.foldl storeMember ⟨.zero, none⟩
    | .null => ⟨.zero, none⟩
    | v => ⟨.zero, some ⟨kindName v, [], [], "libnetwork.setKeyData".toList⟩⟩
  match s.err with
  | some e => .error e
  | none => .ok s.data

/-- `json.Unmarshal(data, &s)` for a `setKeyData` `s`. -/
def unmarshal (data : List UInt8) : Except UnmarshalError SetKeyData :=
  match parseText data with
  | .error e => .error (.invalid e)
  | .ok v =>
      match decodeSetKeyData v with
      | .error e => .error (.type e)
      | .ok s => .ok s

/-- The controller as the listener uses it: `GetSandbox` by container id, and the error text
of `Sandbox.SetKey` when it fails. -/
structure Controller (Sandbox : Type) where
  getSandbox : List Char → Option Sandbox
  setKey : Sandbox → List Char → Option (List Char)

/-- An error of `conn.Read`: `io.EOF`, or a `*net.OpError` of the read, by the text after its
`read unix ` prefix. -/
inductive ReadError where
  | eof
  | op (detail : List Char)

def ReadError.message : ReadError → List Char
  | .eof => "EOF".toList
  | .op detail => "read unix ".toList ++ detail

section Listener
variable {Sandbox : Type}

/-- The end of `processExternalKey`: the sandbox of the container, and `SetKey` on it. -/
def setSandboxKey (c : Controller Sandbox) (s : SetKeyData) : Except (List Char) Unit :=
  match c.getSandbox s.containerID with
  | none => .error ("failed to get sandbox for ".toList ++ s.containerID)
  | some sb =>
      match c.setKey sb s.key with
      | some e => .error e
      | none => .ok ()

/-- `processExternalKey`, given what its one `conn.Read` returned; an error is its text. -/
def processExternalKey (c : Controller Sandbox) (read : Except ReadError (List UInt8)) :
    Except (List Char) Unit :=
  match read with
  | .error e => .error e.message
  | .ok buf =>
      match unmarshal buf with
      | .error e => .error e.message
      | .ok s => setSandboxKey c s

/-- What the goroutine of `acceptClientConnections` writes back: `success` or the error's text. -/
def reply (c : Controller Sandbox) (read : Except ReadError (List UInt8)) : List UInt8 :=
  match processExternalKey c read with
  | .ok () => bytesOf success
  | .error e => bytesOf e

end Listener

inductive ClientError where
  | dial (text : List Char)
  | sendKey (text : List Char)
  | readReply (e : ReadError)
  | reply (buf : List UInt8)

/-- The text of a client error, as bytes: a reply that is not `success` is its own text. -/
def ClientError.message : ClientError → List UInt8
  | .dial text => bytesOf text
  | .sendKey text => bytesOf ("sendKey failed with : ".toList ++ text)
  | .readReply e => bytesOf ("failed to read buf in processReturn : ".toList ++ e.message)
  | .reply buf => buf

/-- One connection as the two ends see it: the errors of the client's `net.Dial` and of its
write, and what the listener's read and then the client's read returned. -/
structure Conn where
  dial : Option (List Char)
  send : Option (List Char)
  serverRead : Except ReadError (List UInt8)
  clientRead : Except ReadError (List UInt8)

/-- What one `Read` into a buffer of `size` bytes can return of a stream that carries `sent`
and ends: an error, or a non-empty prefix of at most `size` bytes. -/
def ReadsFrom (size : Nat) (sent : List UInt8) : Except ReadError (List UInt8) → Prop
  | .error _ => True
  | .ok buf => buf ≠ [] ∧ buf <+: sent ∧ buf.length ≤ size

/-- A run of one connection carrying the request `d`: the listener reads from the request, and
the client from the listener's reply. -/
structure Conn.Valid {Sandbox : Type} (c : Controller Sandbox) (d : SetKeyData) (x : Conn) : Prop where
  server : ReadsFrom serverBufferSize (encoderEncode d) x.serverRead
  client : ReadsFrom clientBufferSize (reply c x.serverRead) x.clientRead

def execSubdir : List Char := "libnetwork".toList

/-- `defaultExecRoot`, also the default of the re-exec helper's `-exec-root` flag. -/
def defaultExecRoot : List Char := "/run/docker".toList

def clientSocket (execRoot shortCtlrID : List Char) : List Char :=
  FilePath.join [execRoot, execSubdir, shortCtlrID ++ ".sock".toList]

/-- The calls of `startExternalKeyListener` outside this file, by the error each returns for a
path: `os.MkdirAll`, `net.Listen` and `os.Chmod`. -/
structure ListenEnv where
  mkdirAll : List Char → Option (List Char)
  listen : List Char → Option (List Char)
  chmod : List Char → Option (List Char)

/-- `Controller.startExternalKeyListener` up to the accepting goroutine: the socket it listens
on, or the first error. `shortCtlrID` is `stringid.TruncateID` of the controller's id. -/
def startExternalKeyListener (env : ListenEnv) (configExecRoot shortCtlrID : List Char) :
    Except (List Char) (List Char) :=
  let execRoot := if configExecRoot = [] then defaultExecRoot else configExecRoot
  let udsBase := FilePath.join [execRoot, execSubdir]
  match env.mkdirAll udsBase with
  | some err => .error err
  | none =>
      let uds := FilePath.join [udsBase, shortCtlrID ++ ".sock".toList]
      match env.listen uds with
      | some err => .error err
      | none =>
          match env.chmod uds with
          | some err => .error err
          | none => .ok uds

/-- The listener starts exactly when its three calls succeed, and then listens on the socket the
re-exec helper dials when it is given the listener's exec root (the configured one, or
`/run/docker`, the helper's own default) and the controller's short id. -/
theorem startExternalKeyListener_eq_ok_iff (env : ListenEnv) (configExecRoot shortCtlrID uds : List Char) :
    startExternalKeyListener env configExecRoot shortCtlrID = .ok uds ↔
      let execRoot := if configExecRoot = [] then defaultExecRoot else configExecRoot
      env.mkdirAll (FilePath.join [execRoot, execSubdir]) = none ∧
        env.listen (clientSocket execRoot shortCtlrID) = none ∧
        env.chmod (clientSocket execRoot shortCtlrID) = none ∧ uds = clientSocket execRoot shortCtlrID := by
  have hsock (r : List Char) : FilePath.join [FilePath.join [r, execSubdir],
      shortCtlrID ++ ".sock".toList] = clientSocket r shortCtlrID := FilePath.join_join _ _ _
  simp only [startExternalKeyListener, hsock]
  generalize (if configExecRoot = [] then defaultExecRoot else configExecRoot) = r
  rcases env.mkdirAll (FilePath.join [r, execSubdir]) with _ | e
  · rcases env.listen (clientSocket r shortCtlrID) with _ | e
    · rcases env.chmod (clientSocket r shortCtlrID) with _ | e
      · simp [eq_comm]
      · simp
    · simp
  · simp

example : clientSocket defaultExecRoot "0123456789ab".toList =
    "/run/docker/libnetwork/0123456789ab.sock".toList := by decide

section Listener
variable {Sandbox : Type}

end Listener

section Listener
variable {Sandbox : Type}

end Listener

end MobyDaemon.Libnetwork
