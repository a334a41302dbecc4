import Mathlib
import MobyDaemon.FilePath

/-!
The VFS graph driver. `Driver.dir` places layer `id` at `Join(home, "dir", Base(id))`, and
`create`, `Get`, `Exists` and `Remove` act on that path. The directory tree is the list of
directories that exist, each named by its clean path. The file-system calls the driver makes
(`MkdirAllAndChown`, `MkdirAndChown`, `CopyDir`, `EnsureRemoveAll`) can fail: each call comes
with its outcome, success or the part of its work done before an error, and the driver
returns that error as Go does. Ownership and SELinux labels change no path and are left out.

The option handling is modelled with the calls it makes into code outside the driver
(`ParseStorageOptKeyValue`, `units.RAMInBytes` and the quota control) as parameters:
`parseOptions` and `Init` for the driver's options, and the option checks of `Create` and
`CreateReadWrite` in front of `create`.

Over any run of `Create`, `CreateReadWrite` and `Remove` calls on ids whose last element is a
name, with any outcome of each file-system call, a layer exists exactly when the last call on
its name that touched its directory made it (`isPresent_run`): a create call whose options
passed and whose two `Mkdir` calls made the directory, whether or not it then failed in its
quota, its parent lookup or its copy; a `Remove` that succeeded removes it, and a failed one
leaves it.
-/
namespace MobyDaemon.Graphdriver.Vfs
open FilePath

structure Tree where
  dirs : List (List Char)
  deriving DecidableEq, Repr

def IsWithin (p q : List Char) : Bool :=
  q == p || if p = ['/'] then q.head? == some '/' else (p ++ ['/']).isPrefixOf q

/-- The directories above a path: its prefixes that end before a separator. -/
def ancestors (p : List Char) : List (List Char) :=
  ((List.range p.length).filter fun i => p.get? i = some '/').map fun i =>
    if i = 0 then ['/'] else p.take i

/-- How a call into the file-system library ended: it succeeded, or it failed with an error
text after doing the part of its work that `done` describes. -/
inductive FsResult (α : Type) where
  | ok
  | failed (done : α) (err : List Char)

namespace FsResult
variable {α : Type}

def isOk : FsResult α → Bool
  | ok => true
  | failed _ _ => false

def err : FsResult α → Option (List Char)
  | ok => none
  | failed _ err => some err

/-- Whether `MkdirAndChown` made its directory: a failed call may have made it before its
`chown` failed. -/
def made : FsResult Bool → Bool
  | ok => true
  | failed made _ => made

/-- Whether a call over many directories did its work on `q`: on every one when it
succeeded. -/
def done : FsResult (List Char → Bool) → List Char → Bool
  | ok, _ => true
  | failed done _, q => done q

end FsResult

/-- `containerfs.EnsureRemoveAll(dir)`: a failed call leaves `dir` and the directories below it
that it had not removed. -/
def ensureRemoveAll (dir : List Char) (r : FsResult (List Char → Bool)) (t : Tree) : Tree :=
  ⟨t.dirs.filter fun q => !(IsWithin dir q && (q != dir || r.isOk) && r.done q)⟩

/-- `user.MkdirAllAndChown(path, ...)`: the missing directories of the path, from the top; a
failed call made only the first `made` of them. -/
def mkdirAll (path : List Char) (r : FsResult Nat) (t : Tree) : Tree :=
  let missing := (ancestors path ++ [path]).filter (· ∉ t.dirs)
  ⟨t.dirs ++ match r with
    | .ok => missing
    | .failed made _ => missing.take made⟩

/-- `user.MkdirAndChown(path, ...)`, which does not fail on an existing directory. -/
def mkdir (path : List Char) (r : FsResult Bool) (t : Tree) : Tree :=
  if path ∉ t.dirs ∧ r.made then ⟨t.dirs ++ [path]⟩ else t

/-- `CopyDir(srcDir, dstDir)`: the directories below `srcDir`, re-rooted at `dstDir`; a failed
call copied only some of them. -/
def copyDir (srcDir dstDir : List Char) (r : FsResult (List Char → Bool)) (t : Tree) : Tree :=
  ⟨t.dirs ++ t.dirs.filterMap fun q =>
    if (srcDir ++ ['/']).isPrefixOf q && r.done q then some (dstDir ++ q.drop srcDir.length)
    else none⟩

def xattrsStorageOpt : List Char := "vfs.xattrs".toList

def bestEffortXattrsOptValue : List Char := "i_want_broken_containers".toList

/-- An error of the driver: one that `errdefs.InvalidParameter` marks, the quota package's
`ErrQuotaNotSupported`, or another error with its text. -/
inductive DriverError where
  | invalidParameter (text : List Char)
  | quotaNotSupported
  | other (text : List Char)
  deriving DecidableEq, Repr

/-- The code outside the driver that its option handling calls: `ParseStorageOptKeyValue`,
`units.RAMInBytes` (the bits of its `int64` result, as `uint64(size)` reads them), and the
quota control's `setQuotaOpt`, `quotaSupported` and `setupQuota`. -/
structure Env where
  parseStorageOptKeyValue : List Char → Except (List Char) (List Char × List Char)
  ramInBytes : List Char → Except (List Char) UInt64
  setQuotaOpt : UInt64 → Option (List Char)
  quotaSupported : Bool
  setupQuota : List Char → UInt64 → Option (List Char)

/-- What `parseOptions` sets on the driver: the quota size `getQuotaOpt` returns, and
`bestEffortXattrs`. -/
structure Settings where
  quotaSize : UInt64
  bestEffortXattrs : Bool
  deriving DecidableEq, Repr

def Settings.zero : Settings := ⟨0, false⟩

def parseOption (env : Env) (s : Settings) (option : List Char) : Except DriverError Settings :=
  match env.parseStorageOptKeyValue option with
  | .error err => .error (.invalidParameter err)
  | .ok (key, val) =>
      if key = "size".toList then
        match env.ramInBytes val with
        | .error err => .error (.invalidParameter err)
        | .ok size =>
            match env.setQuotaOpt size with
            | some err => .error (.invalidParameter ("failed to set option size for vfs: ".toList ++ err))
            | none => .ok { s with quotaSize := size }
      else if key = xattrsStorageOpt then
        if val ≠ bestEffortXattrsOptValue then
          .error (.invalidParameter ("do not set the ".toList ++ xattrsStorageOpt ++
            " option unless you are willing to accept the consequences".toList))
        else .ok { s with bestEffortXattrs := true }
      else .error (.invalidParameter ("unknown option ".toList ++ key ++ " for vfs".toList))

def parseOptions (env : Env) : Settings → List (List Char) → Except DriverError Settings
  | s, [] => .ok s
  | s, option :: options => (parseOption env s option).bind fun s => parseOptions env s options

def status (s : Settings) : List (List Char × List Char) :=
  if s.bestEffortXattrs then [("Extended file attributes".toList, "best-effort".toList)] else []

/-- The loop of `CreateReadWrite` over its storage options, in the order Go's map iteration
visits them: the quota size it hands to `create`. -/
def storageOptSize (env : Env) : UInt64 → List (List Char × List Char) → Except DriverError UInt64
  | quotaSize, [] => .ok quotaSize
  | _, (key, val) :: opts =>
      if key = "size".toList then
        if !env.quotaSupported then .error .quotaNotSupported
        else match env.ramInBytes val with
          | .error err => .error (.invalidParameter err)
          | .ok size => storageOptSize env size opts
      else .error (.invalidParameter ("Storage opt ".toList ++ key ++ " not supported".toList))

/-- The VFS `Driver`; only its home directory names paths. -/
structure Driver where
  home : List Char

/-- The outcomes of the file-system calls of one `create`: `MkdirAllAndChown` of the layers'
directory, `MkdirAndChown` of the layer's own, and `CopyDir` from the parent layer. -/
structure CreateFs where
  mkdirAll : FsResult Nat
  mkdir : FsResult Bool
  copyDir : FsResult (List Char → Bool)

/-- `create` makes the layer's directory: `MkdirAllAndChown` succeeded and `MkdirAndChown` made
it, whether or not it failed after. -/
def CreateFs.makesDir (fs : CreateFs) : Bool := fs.mkdirAll.isOk && fs.mkdir.made

def CreateFs.ok : CreateFs := ⟨.ok, .ok, .ok⟩

namespace Driver

def dir (d : Driver) (id : List Char) : List Char := join [d.home, "dir".toList, base id]

def remove (d : Driver) (id : List Char) (r : FsResult (List Char → Bool)) (t : Tree) :
    Tree × Option (List Char) :=
  (ensureRemoveAll (d.dir id) r t, r.err)

/-- `Driver.Get`: the directory of `id` if it exists, else the error of `os.Stat`. -/
def get (d : Driver) (id : List Char) (t : Tree) : Except (List Char) (List Char) :=
  if d.dir id ∈ t.dirs then .ok (d.dir id)
  else .error ("stat ".toList ++ d.dir id ++ ": no such file or directory".toList)

/-- `Driver.Exists` -/
def isPresent (d : Driver) (id : List Char) (t : Tree) : Bool := d.dir id ∈ t.dirs

/-- `Driver.create`: the parent of the layer directory with its ancestors, the directory
itself, its quota when `size` is not zero, then a copy of the parent layer when there is one. -/
def create (d : Driver) (env : Env) (fs : CreateFs) (id parent : List Char) (size : UInt64)
    (t : Tree) : Tree × Except DriverError Unit :=
  let dir := d.dir id
  let t := mkdirAll (FilePath.dir dir) fs.mkdirAll t
  match fs.mkdirAll with
  | .failed _ err => (t, .error (.other err))
  | .ok =>
      let t := mkdir dir fs.mkdir t
      match fs.mkdir with
      | .failed _ err => (t, .error (.other err))
      | .ok =>
          match (if size ≠ 0 then env.setupQuota dir size else none) with
          | some err => (t, .error (.other err))
          | none =>
              if parent = [] then (t, .ok ())
              else match d.get parent t with
                | .error err => (t, .error (.other (parent ++ ": ".toList ++ err)))
                | .ok parentDir =>
                    (copyDir parentDir dir fs.copyDir t, match fs.copyDir with
                      | .ok => .ok ()
                      | .failed _ err => .error (.other err))

/-- `Driver.Create` (the exported method; `create` is the unexported one it calls). -/
def createLayer (d : Driver) (env : Env) (fs : CreateFs) (id parent : List Char)
    (opts : Option (List (List Char × List Char))) (t : Tree) : Tree × Except DriverError Unit :=
  if (opts.getD []) ≠ [] then
    (t, .error (.other "--storage-opt is not supported for vfs on read-only layers".toList))
  else d.create env fs id parent 0 t

def createReadWrite (d : Driver) (env : Env) (s : Settings) (fs : CreateFs) (id parent : List Char)
    (opts : Option (List (List Char × List Char))) (t : Tree) : Tree × Except DriverError Unit :=
  match storageOptSize env s.quotaSize (opts.getD []) with
  | .error err => (t, .error err)
  | .ok size => d.create env fs id parent size t

end Driver

/-- `Init`: the driver's settings after `parseOptions`, with its home directory made. -/
def init (env : Env) (home : List Char) (options : List (List Char)) (r : FsResult Nat)
    (t : Tree) : Tree × Except DriverError Settings :=
  match parseOptions env .zero options with
  | .error err => (t, .error err)
  | .ok s =>
      let t := mkdirAll home r t
      match r with
      | .failed _ err => (t, .error (.other err))
      | .ok => if !env.quotaSupported && s.quotaSize > 0 then (t, .error .quotaNotSupported)
          else (t, .ok s)

/-- The id `..` names the driver's home itself, and a `Remove("..")` that succeeds deletes the
home with every layer below it. -/
theorem remove_dotdot_removes_home :
    Driver.dir ⟨"/var/lib/docker/vfs".toList⟩ "..".toList = "/var/lib/docker/vfs".toList ∧
    Driver.remove ⟨"/var/lib/docker/vfs".toList⟩ "..".toList .ok
        ⟨["/var/lib/docker/vfs".toList, "/var/lib/docker/vfs/dir".toList,
          "/var/lib/docker/vfs/dir/0123".toList, "/var/lib/docker/image".toList]⟩ =
      (⟨["/var/lib/docker/image".toList]⟩, none) := by
  decide

/-- For an id whose last element is a name, the layer directory is exactly one name below
`Join(home, "dir")`, and `Remove`, whether it succeeds or not, keeps every directory that is
not strictly below that. -/
theorem Driver.dir_confined (d : Driver) (id : List Char)
    (h : base id ≠ ['.'] ∧ base id ≠ ['.', '.'] ∧ base id ≠ ['/']) :
    IsName (base id) ∧ d.dir id = join [d.home, "dir".toList] ++ '/' :: base id ∧
      ∀ r t q, q ∈ t.dirs → (join [d.home, "dir".toList] ++ ['/']).isPrefixOf q = false →
        q ∈ (d.remove id r t).1.dirs := by
  have hname := base_isName h
  have hdir : d.dir id = join [d.home, "dir".toList] ++ '/' :: base id :=
    join_two_names d.home (by decide) hname
  refine ⟨hname, hdir, fun r t q hq hout => ?_⟩
  have hprefix : ¬(join [d.home, "dir".toList] ++ ['/']) <+: q := by
    simpa [← List.isPrefixOf_iff_prefix] using hout
  have hnotroot : d.dir id ≠ ['/'] := by
    rw [hdir]; intro heq
    have := congrArg List.length heq
    simp at this; have := List.length_pos.mpr hname.1; omega
  have hout' : IsWithin (d.dir id) q = false := by
    simp only [IsWithin, if_neg hnotroot, Bool.or_eq_false_iff, beq_eq_false_iff_ne, ne_eq]
    constructor
    · rintro rfl
      exact hprefix (by rw [hdir]; exact ⟨base id, by simp⟩)
    · rw [Bool.eq_false_iff, ne_eq, List.isPrefixOf_iff_prefix]
      intro hq'
      exact hprefix (List.IsPrefix.trans ⟨base id ++ ['/'], by rw [hdir]; simp⟩ hq')
  simp [Driver.remove, ensureRemoveAll, hq, hout']

theorem Driver.dir_confined_layer :
    (base "0123".toList ≠ ['.'] ∧ base "0123".toList ≠ ['.', '.'] ∧ base "0123".toList ≠ ['/']) ∧
      IsName (base "0123".toList) ∧
      Driver.dir ⟨"/var/lib/docker/vfs".toList⟩ "0123".toList =
        join ["/var/lib/docker/vfs".toList, "dir".toList] ++ '/' :: base "0123".toList ∧
      ∀ r t q, q ∈ t.dirs → (join ["/var/lib/docker/vfs".toList, "dir".toList] ++ ['/']).isPrefixOf q = false →
        q ∈ (Driver.remove ⟨"/var/lib/docker/vfs".toList⟩ "0123".toList r t).1.dirs :=
  ⟨by decide, Driver.dir_confined ⟨"/var/lib/docker/vfs".toList⟩ "0123".toList (by decide)⟩

section Tree
variable {p q : List Char} {t : Tree}

theorem length_le_of_mem_ancestors (h : q ∈ ancestors p) : q.length ≤ p.length := by
  simp only [ancestors, List.mem_map, List.mem_filter, List.mem_range] at h
  obtain ⟨i, ⟨hi, _⟩, rfl⟩ := h
  split
  · simp; omega
  · simp

theorem subset_mkdirAll (r : FsResult Nat) (h : q ∈ t.dirs) : q ∈ (mkdirAll p r t).dirs :=
  List.mem_append_left _ h

/-- `MkdirAllAndChown(p)`, whatever its outcome, adds only `p` and directories above it. -/
theorem mem_mkdirAll {r : FsResult Nat} (h : q ∈ (mkdirAll p r t).dirs) :
    q ∈ t.dirs ∨ q ∈ ancestors p ∨ q = p := by
  rcases List.mem_append.mp h with h | h
  · exact .inl h
  · have hq : q ∈ (ancestors p ++ [p]).filter (· ∉ t.dirs) := by
      cases r with
      | ok => exact h
      | failed made _ => exact List.mem_of_mem_take h
    exact .inr (by simpa using (List.mem_filter.mp hq).1)

@[simp] theorem mem_mkdirAll_self (p : List Char) (t : Tree) : p ∈ (mkdirAll p .ok t).dirs := by
  by_cases hp : p ∈ t.dirs
  · exact List.mem_append_left _ hp
  · exact List.mem_append_right _ (List.mem_filter.mpr ⟨by simp, by simpa using hp⟩)

@[simp] theorem mem_mkdir {r : FsResult Bool} :
    q ∈ (mkdir p r t).dirs ↔ q ∈ t.dirs ∨ (q = p ∧ r.made = true) := by
  unfold mkdir
  split_ifs with hp
  · simp [hp.2]
  · refine ⟨.inl, fun h => h.elim id ?_⟩
    rintro ⟨rfl, hm⟩
    exact not_not.mp fun hq => hp ⟨hq, hm⟩

/-- `CopyDir(src, dst)`, whatever its outcome, adds only directories strictly below `dst`. -/
theorem mem_copyDir {src dst : List Char} {r : FsResult (List Char → Bool)}
    (h : q ∈ (copyDir src dst r t).dirs) : q ∈ t.dirs ∨ ∃ rest, q = dst ++ '/' :: rest := by
  simp only [copyDir, List.mem_append, List.mem_filterMap] at h
  rcases h with h | ⟨u, -, hu⟩
  · exact .inl h
  · split at hu
    · rename_i hpre
      obtain ⟨v, rfl⟩ := List.isPrefixOf_iff_prefix.mp (Bool.and_eq_true _ _ ▸ hpre).1
      cases hu
      exact .inr ⟨v, by simp⟩
    · cases hu

end Tree

namespace Driver
variable (d : Driver) {id id' : List Char}

theorem dir_eq_append (hid : IsName (base id)) :
    d.dir id = join [d.home, "dir".toList] ++ '/' :: base id :=
  join_two_names d.home (by decide) hid

@[simp] theorem dir_dir (hid : IsName (base id)) :
    FilePath.dir (d.dir id) = join [d.home, "dir".toList] := by
  rw [d.dir_eq_append hid, dir_append_name (join_name_ne_nil _ (by decide)) hid.2.2.2,
    clean_join_name _ (by decide)]

theorem dir_eq_dir_iff (hid : IsName (base id)) (hid' : IsName (base id')) :
    d.dir id' = d.dir id ↔ base id' = base id := by
  rw [d.dir_eq_append hid, d.dir_eq_append hid', List.append_cancel_left_eq, List.cons.injEq]
  exact and_iff_right rfl

theorem dir_ne_below (hid : IsName (base id)) (hid' : IsName (base id')) (rest : List Char) :
    d.dir id ≠ d.dir id' ++ '/' :: rest := by
  rw [d.dir_eq_append hid, d.dir_eq_append hid', List.append_assoc, List.cons_append,
    Ne, List.append_cancel_left_eq, List.cons.injEq]
  rintro ⟨-, h⟩
  exact hid.2.2.2 (h ▸ List.mem_append_right _ (List.mem_cons_self _ _))

theorem length_dir_dir_lt (hid : IsName (base id)) (hid' : IsName (base id')) :
    (FilePath.dir (d.dir id')).length < (d.dir id).length := by
  rw [d.dir_dir hid', d.dir_eq_append hid]; simp

theorem isWithin_dir (hid : IsName (base id)) (hid' : IsName (base id')) :
    IsWithin (d.dir id') (d.dir id) = decide (base id' = base id) := by
  have hroot : d.dir id' ≠ ['/'] := by
    rw [d.dir_eq_append hid']
    intro h
    have hlen := congrArg List.length h
    have hJ := List.length_pos.mpr (@join_name_ne_nil d.home "dir".toList (by decide))
    simp only [List.length_append, List.length_cons, List.length_nil] at hlen
    omega
  have hbelow : (d.dir id' ++ ['/']).isPrefixOf (d.dir id) = false := by
    rw [Bool.eq_false_iff, Ne, List.isPrefixOf_iff_prefix]
    rintro ⟨u, hu⟩
    exact d.dir_ne_below hid hid' u (by rw [← hu]; simp)
  rw [IsWithin, if_neg hroot, hbelow, Bool.or_false, beq_eq_decide, d.dir_eq_dir_iff hid' hid]
  exact decide_eq_decide.mpr eq_comm

/-- What `create` leaves: the tree after `MkdirAllAndChown` alone when it failed, otherwise after
`MkdirAndChown` too, with or without a copy of the parent layer. -/
theorem create_cases (env : Env) (fs : CreateFs) (id parent : List Char) (size : UInt64) (t : Tree) :
    fs.mkdirAll.isOk = false ∧
        (d.create env fs id parent size t).1 = mkdirAll (FilePath.dir (d.dir id)) fs.mkdirAll t ∨
      fs.mkdirAll.isOk = true ∧
        ((d.create env fs id parent size t).1 =
            mkdir (d.dir id) fs.mkdir (mkdirAll (FilePath.dir (d.dir id)) fs.mkdirAll t) ∨
          ∃ src, (d.create env fs id parent size t).1 = copyDir src (d.dir id) fs.copyDir
            (mkdir (d.dir id) fs.mkdir (mkdirAll (FilePath.dir (d.dir id)) fs.mkdirAll t))) := by
  rcases fs with ⟨_ | ⟨made, err⟩, mk, cp⟩
  · refine .inr ⟨rfl, ?_⟩
    rcases mk with _ | ⟨made, err⟩
    · simp only [create]
      rcases (if size ≠ 0 then env.setupQuota (d.dir id) size else none) with _ | err
      · by_cases hp : parent = []
        · rw [if_pos hp]; exact .inl rfl
        · rw [if_neg hp]
          rcases d.get parent (mkdir (d.dir id) .ok (mkdirAll (FilePath.dir (d.dir id)) .ok t))
            with err | src
          · exact .inl rfl
          · exact .inr ⟨src, rfl⟩
      · exact .inl rfl
    · exact .inl rfl
  · exact .inl ⟨rfl, rfl⟩

variable {env : Env} {fs : CreateFs} {parent : List Char} {size : UInt64} {t : Tree} {q : List Char}

theorem mem_create (h : q ∈ (d.create env fs id parent size t).1.dirs) :
    q ∈ t.dirs ∨ q.length ≤ (FilePath.dir (d.dir id)).length ∨
      (q = d.dir id ∧ fs.makesDir = true) ∨ ∃ rest, q = d.dir id ++ '/' :: rest := by
  have hall : q ∈ (mkdirAll (FilePath.dir (d.dir id)) fs.mkdirAll t).dirs →
      q ∈ t.dirs ∨ q.length ≤ (FilePath.dir (d.dir id)).length := fun h =>
    (mem_mkdirAll h).imp_right fun h => h.elim length_le_of_mem_ancestors fun h => h ▸ le_rfl
  have hmk (hok : fs.mkdirAll.isOk = true)
      (h : q ∈ (mkdir (d.dir id) fs.mkdir
        (mkdirAll (FilePath.dir (d.dir id)) fs.mkdirAll t)).dirs) :
      q ∈ t.dirs ∨ q.length ≤ (FilePath.dir (d.dir id)).length ∨
        (q = d.dir id ∧ fs.makesDir = true) := by
    rcases mem_mkdir.mp h with h | ⟨rfl, hm⟩
    · exact (hall h).imp_right .inl
    · exact .inr (.inr ⟨rfl, by simp [CreateFs.makesDir, hok, hm]⟩)
  rcases d.create_cases env fs id parent size t with ⟨-, hc⟩ | ⟨hok, hc | ⟨src, hc⟩⟩ <;> rw [hc] at h
  · exact (hall h).imp_right .inl
  · exact (hmk hok h).imp_right (·.imp_right .inl)
  · rcases mem_copyDir h with h | h
    · exact (hmk hok h).imp_right (·.imp_right .inl)
    · exact .inr (.inr (.inr h))

theorem create_superset (h : q ∈ t.dirs) : q ∈ (d.create env fs id parent size t).1.dirs := by
  have hmk : q ∈ (mkdir (d.dir id) fs.mkdir
      (mkdirAll (FilePath.dir (d.dir id)) fs.mkdirAll t)).dirs :=
    mem_mkdir.mpr (.inl (subset_mkdirAll _ h))
  rcases d.create_cases env fs id parent size t with ⟨-, hc⟩ | ⟨-, hc | ⟨src, hc⟩⟩ <;> rw [hc]
  · exact subset_mkdirAll _ h
  · exact hmk
  · exact List.mem_append_left _ hmk

theorem mem_create_self (h : fs.makesDir = true) :
    d.dir id ∈ (d.create env fs id parent size t).1.dirs := by
  simp only [CreateFs.makesDir, Bool.and_eq_true] at h
  have hmk : d.dir id ∈ (mkdir (d.dir id) fs.mkdir
      (mkdirAll (FilePath.dir (d.dir id)) fs.mkdirAll t)).dirs :=
    mem_mkdir.mpr (.inr ⟨rfl, h.2⟩)
  rcases d.create_cases env fs id parent size t with ⟨hfail, -⟩ | ⟨-, hc | ⟨src, hc⟩⟩
  · rw [h.1] at hfail; cases hfail
  all_goals rw [hc]
  · exact hmk
  · exact List.mem_append_left _ hmk

end Driver

namespace Driver
variable (d : Driver) {id id' : List Char}

/-- After `create` of `id'`, the layer `id` exists when it existed before, or names the same
layer and `create` made its directory. -/
theorem isPresent_create (env : Env) (fs : CreateFs) (parent : List Char) (size : UInt64)
    (t : Tree) (hid : IsName (base id)) (hid' : IsName (base id')) :
    d.isPresent id (d.create env fs id' parent size t).1 =
      (decide (base id' = base id) && fs.makesDir || d.isPresent id t) := by
  apply Bool.eq_iff_iff.mpr
  simp only [isPresent, Bool.or_eq_true, Bool.and_eq_true, decide_eq_true_eq]
  constructor
  · intro h
    rcases d.mem_create h with h | h | ⟨h, hm⟩ | ⟨rest, h⟩
    · exact .inr h
    · exact absurd h (not_le.mpr (d.length_dir_dir_lt hid hid'))
    · exact .inl ⟨(d.dir_eq_dir_iff hid hid').mp h.symm, hm⟩
    · exact absurd h (d.dir_ne_below hid hid' rest)
  · rintro (⟨hb, hm⟩ | h)
    · rw [← (d.dir_eq_dir_iff hid hid').mpr hb]
      exact d.mem_create_self hm
    · exact d.create_superset h

/-- After `Remove` of `id'`, the layer `id` exists when it existed before and is another layer,
or the removal failed. -/
theorem isPresent_remove (r : FsResult (List Char → Bool)) (t : Tree) (hid : IsName (base id))
    (hid' : IsName (base id')) :
    d.isPresent id (d.remove id' r t).1 =
      (!(decide (base id' = base id) && r.isOk) && d.isPresent id t) := by
  by_cases hb : base id' = base id
  · have hdir : d.dir id = d.dir id' := ((d.dir_eq_dir_iff hid hid').mpr hb).symm
    cases r <;> simp [isPresent, remove, ensureRemoveAll, IsWithin, hdir, hb, FsResult.isOk,
      FsResult.done]
  · simp [isPresent, remove, ensureRemoveAll, d.isWithin_dir hid hid', hb]

end Driver

/-- A call that changes the driver's directories, with the outcomes of the file-system calls it
makes. -/
inductive Call where
  | create (id parent : List Char) (opts : Option (List (List Char × List Char))) (fs : CreateFs)
  | createReadWrite (id parent : List Char) (opts : Option (List (List Char × List Char)))
      (fs : CreateFs)
  | remove (id : List Char) (r : FsResult (List Char → Bool))

def Call.layer : Call → List Char
  | .create id _ _ _ | .createReadWrite id _ _ _ | .remove id _ => id

/-- What a call does to its layer's directory: `some true` for a create call whose options pass
its checks and whose `Mkdir` calls make the directory, `some false` for a `Remove` that succeeds,
and `none` for a call that leaves it as it was. -/
def Call.effect (env : Env) (s : Settings) : Call → Option Bool
  | .create _ _ opts fs => if (opts.getD []).isEmpty && fs.makesDir then some true else none
  | .createReadWrite _ _ opts fs =>
      if (storageOptSize env s.quotaSize (opts.getD [])).isOk && fs.makesDir then some true
      else none
  | .remove _ r => if r.isOk then some false else none

namespace Driver
variable (d : Driver) (env : Env) (s : Settings) {id : List Char}

def call (t : Tree) : Call → Tree
  | .create id parent opts fs => (d.createLayer env fs id parent opts t).1
  | .createReadWrite id parent opts fs => (d.createReadWrite env s fs id parent opts t).1
  | .remove id r => (d.remove id r t).1

theorem isPresent_call (t : Tree) (c : Call) (hid : IsName (base id))
    (hc : IsName (base c.layer)) :
    d.isPresent id (d.call env s t c) =
      if base c.layer = base id then (c.effect env s).getD (d.isPresent id t)
      else d.isPresent id t := by
  cases c with
  | create id' parent opts fs =>
      change IsName (base id') at hc
      by_cases ho : opts.getD [] = []
      · simp only [call, createLayer, ho, ne_eq, not_true_eq_false, if_false,
          d.isPresent_create env fs parent 0 t hid hc, Call.layer, Call.effect]
        by_cases hb : base id' = base id <;> cases fs.makesDir <;> simp [hb]
      · have he : (opts.getD []).isEmpty = false := Bool.eq_false_iff.mpr (mt List.isEmpty_iff.mp ho)
        simp only [call, createLayer, ho, ne_eq, not_false_eq_true, if_true, Call.layer,
          Call.effect, he, Bool.false_and, Bool.false_eq_true, if_false]
        split <;> rfl
  | createReadWrite id' parent opts fs =>
      change IsName (base id') at hc
      rcases h : storageOptSize env s.quotaSize (opts.getD []) with err | size <;>
        simp only [call, createReadWrite, Call.layer, Call.effect, h]
      · split <;> rfl
      · rw [d.isPresent_create env fs parent size t hid hc]
        by_cases hb : base id' = base id <;> cases fs.makesDir <;>
          simp [hb, Except.isOk, Except.toBool]
  | remove id' r =>
      change IsName (base id') at hc
      simp only [call, Call.layer, Call.effect, d.isPresent_remove r t hid hc]
      by_cases hb : base id' = base id <;> cases hr : r.isOk <;> simp [hb]

/-- Over any run of calls on ids whose last element is a name, with any outcome of each
file-system call, a layer exists exactly when the last call on its name that changed its
directory made it; with no such call, when it existed at the start. -/
theorem isPresent_run (hid : IsName (base id)) (calls : List Call)
    (hcalls : ∀ c ∈ calls, IsName (base c.layer)) (t : Tree) :
    d.isPresent id (calls.foldl (d.call env s) t) =
      calls.foldl (fun b c => if base c.layer = base id then (c.effect env s).getD b else b)
        (d.isPresent id t) := by
  induction calls generalizing t with
  | nil => rfl
  | cons c calls ih =>
      rw [List.foldl_cons, List.foldl_cons, ih (fun c' h => hcalls c' (List.mem_cons_of_mem _ h)),
        d.isPresent_call env s t c hid (hcalls c (List.mem_cons_self _ _))]

end Driver

/-- Quota support off; every option rejected. -/
def noQuotaEnv : Env := ⟨fun _ => .error [], fun _ => .error [], fun _ => none, false, fun _ _ => none⟩

/-- A run on `/var/lib/docker/vfs`: layer `a` is created (its parent missing), `b` created from
it with a `CopyDir` that fails before copying anything, then a removal of `a` that fails. -/
theorem isPresent_run_layers :
    IsName (base "a".toList) ∧
    (∀ c ∈ [Call.create "a".toList "x".toList none .ok,
        .createReadWrite "b".toList "a".toList none ⟨.ok, .ok, .failed (fun _ => false) "EIO".toList⟩,
        .remove "a".toList (.failed (fun _ => true) "EBUSY".toList)], IsName (base c.layer)) ∧
    Driver.isPresent ⟨"/var/lib/docker/vfs".toList⟩ "a".toList
        ([Call.create "a".toList "x".toList none .ok,
          .createReadWrite "b".toList "a".toList none ⟨.ok, .ok, .failed (fun _ => false) "EIO".toList⟩,
          .remove "a".toList (.failed (fun _ => true) "EBUSY".toList)].foldl
          (Driver.call ⟨"/var/lib/docker/vfs".toList⟩ noQuotaEnv .zero) ⟨[]⟩) =
      [Call.create "a".toList "x".toList none .ok,
          .createReadWrite "b".toList "a".toList none ⟨.ok, .ok, .failed (fun _ => false) "EIO".toList⟩,
          .remove "a".toList (.failed (fun _ => true) "EBUSY".toList)].foldl
        (fun b c => if base c.layer = base "a".toList then (c.effect noQuotaEnv .zero).getD b else b)
        (Driver.isPresent ⟨"/var/lib/docker/vfs".toList⟩ "a".toList ⟨[]⟩) :=
  ⟨by decide, by decide, Driver.isPresent_run _ _ _ (by decide) _ (by decide) _⟩

section Options
variable {env : Env} {s s' : Settings}

theorem parseOption_eq_ok {option : List Char} (h : parseOption env s option = .ok s') :
    ∃ key val, env.parseStorageOptKeyValue option = .ok (key, val) ∧
      ((key = "size".toList ∧ ∃ size, env.ramInBytes val = .ok size ∧
          env.setQuotaOpt size = none ∧ s' = { s with quotaSize := size }) ∨
        (key = xattrsStorageOpt ∧ val = bestEffortXattrsOptValue ∧
          s' = { s with bestEffortXattrs := true })) := by
  unfold parseOption at h
  rcases hp : env.parseStorageOptKeyValue option with err | ⟨key, val⟩ <;> simp only [hp] at h
  · cases h
  refine ⟨key, val, rfl, ?_⟩
  by_cases hk : key = "size".toList
  · rw [if_pos hk] at h
    rcases hr : env.ramInBytes val with err | size <;> simp only [hr] at h
    · cases h
    rcases hq : env.setQuotaOpt size with _ | err <;> simp only [hq] at h
    · exact .inl ⟨hk, size, rfl, hq, (Except.ok.inj h).symm⟩
    · cases h
  · rw [if_neg hk] at h
    by_cases hx : key = xattrsStorageOpt
    · rw [if_pos hx] at h
      by_cases hv : val = bestEffortXattrsOptValue
      · rw [if_neg (not_not.mpr hv)] at h
        exact .inr ⟨hx, hv, (Except.ok.inj h).symm⟩
      · rw [if_pos hv] at h; cases h
    · rw [if_neg hx] at h; cases h

theorem parseOption_error {option : List Char} {e : DriverError}
    (h : parseOption env s option = .error e) : ∃ text, e = .invalidParameter text := by
  unfold parseOption at h
  repeat' split at h
  all_goals first | exact ⟨_, (Except.error.inj h).symm⟩ | cases h

theorem parseOptions_cons {option : List Char} {options : List (List Char)} :
    parseOptions env s (option :: options) = .ok s' ↔
      ∃ s₁, parseOption env s option = .ok s₁ ∧ parseOptions env s₁ options = .ok s' := by
  simp only [parseOptions]
  cases parseOption env s option <;> simp [Except.bind]

theorem parseOptions_error {options : List (List Char)} {e : DriverError}
    (h : parseOptions env s options = .error e) : ∃ text, e = .invalidParameter text := by
  induction options generalizing s with
  | nil => cases h
  | cons option options ih =>
      simp only [parseOptions] at h
      rcases h₁ : parseOption env s option with e₁ | s₁ <;> simp only [h₁, Except.bind] at h
      · obtain rfl := Except.error.inj h
        exact parseOption_error h₁
      · exact ih h

theorem parseOptions_bestEffortXattrs {options : List (List Char)}
    (h : parseOptions env s options = .ok s') :
    s'.bestEffortXattrs = true ↔ s.bestEffortXattrs = true ∨
      ∃ o ∈ options, env.parseStorageOptKeyValue o = .ok (xattrsStorageOpt, bestEffortXattrsOptValue) := by
  induction options generalizing s with
  | nil => cases h; simp
  | cons option options ih =>
      obtain ⟨s₁, h₁, hrest⟩ := parseOptions_cons.mp h
      rw [ih hrest]
      obtain ⟨key, val, hp, ⟨hk, size, -, -, rfl⟩ | ⟨rfl, rfl, rfl⟩⟩ := parseOption_eq_ok h₁
      · have hne : ¬env.parseStorageOptKeyValue option =
            .ok (xattrsStorageOpt, bestEffortXattrsOptValue) := by
          rw [hp]; intro heq; cases heq; exact absurd hk (by decide)
        simp [hne]
      · simp [hp]

@[simp] theorem status_ne_nil_iff (s : Settings) :
    status s ≠ [] ↔ s.bestEffortXattrs = true := by
  unfold status; cases s.bestEffortXattrs <;> simp

/-- `Init` fails only with an invalid parameter, leaving the tree as it was, with the error of
`MkdirAllAndChown(home)`, having made only `home` or directories above it, or with
`ErrQuotaNotSupported`. When it succeeds the home directory exists, a quota size is set only
where quotas are supported, and `Status` reports best-effort extended attributes exactly when
one option was `vfs.xattrs=i_want_broken_containers`. -/
theorem init_spec (env : Env) (home : List Char) (options : List (List Char)) (r : FsResult Nat)
    (t : Tree) :
    (∀ e, (init env home options r t).2 = .error e →
      (∃ text, e = .invalidParameter text ∧ (init env home options r t).1 = t) ∨
        (∃ made text, r = .failed made text ∧ e = .other text ∧
          ∀ q ∈ (init env home options r t).1.dirs, q ∈ t.dirs ∨ q ∈ ancestors home ∨ q = home) ∨
        e = .quotaNotSupported) ∧
    (∀ s, (init env home options r t).2 = .ok s →
      home ∈ (init env home options r t).1.dirs ∧ (0 < s.quotaSize → env.quotaSupported = true) ∧
      (status s ≠ [] ↔ ∃ o ∈ options,
        env.parseStorageOptKeyValue o = .ok (xattrsStorageOpt, bestEffortXattrsOptValue))) := by
  unfold init
  rcases hp : parseOptions env .zero options with e | s <;> dsimp only
  · refine ⟨fun e' he => .inl ?_, fun _ h => by cases h⟩
    obtain rfl := Except.error.inj he
    obtain ⟨text, rfl⟩ := parseOptions_error hp
    exact ⟨text, rfl, rfl⟩
  cases r with
  | failed made text =>
      exact ⟨fun e he => .inr (.inl ⟨made, text, rfl, (Except.error.inj he).symm,
        fun _ hq => mem_mkdirAll hq⟩), fun _ h => by cases h⟩
  | ok =>
      dsimp only
      by_cases hq : (!env.quotaSupported && decide (s.quotaSize > 0)) = true
      · rw [if_pos hq]
        exact ⟨fun e he => .inr (.inr (Except.error.inj he).symm), fun _ h => by cases h⟩
      rw [if_neg hq]
      refine ⟨fun _ h => (by cases h), fun s' hs => ?_⟩
      obtain rfl := Except.ok.inj hs
      refine ⟨mem_mkdirAll_self home t, fun hpos => ?_, ?_⟩
      · cases hsup : env.quotaSupported
        · simp [hsup, hpos] at hq
        · rfl
      · simp [parseOptions_bestEffortXattrs hp, Settings.zero]

theorem storageOptSize_keys {env : Env} {q : UInt64} {opts : List (List Char × List Char)}
    (h : (storageOptSize env q opts).isOk) : ∀ kv ∈ opts, kv.1 = "size".toList := by
  induction opts generalizing q with
  | nil => simp
  | cons kv opts ih =>
      obtain ⟨key, val⟩ := kv
      simp only [storageOptSize] at h
      by_cases hk : key = "size".toList
      · rw [if_pos hk] at h
        cases hsup : env.quotaSupported
        · simp [hsup, Except.isOk, Except.toBool] at h
        rcases hr : env.ramInBytes val with err | size <;>
          simp only [hsup, hr, Bool.not_true, Bool.false_eq_true, if_false] at h
        · simp [Except.isOk, Except.toBool] at h
        · exact List.forall_mem_cons.mpr ⟨hk, ih h⟩
      · rw [if_neg hk] at h
        simp [Except.isOk, Except.toBool] at h

/-- A map of storage options that the loop accepts has at most the one key `size`, so every
iteration order of it is the same list. -/
theorem eq_of_perm_of_storageOptSize {env : Env} {q : UInt64}
    {opts₁ opts₂ : List (List Char × List Char)} (hperm : opts₁.Perm opts₂)
    (hkeys : (opts₁.map Prod.fst).Nodup) (h : (storageOptSize env q opts₁).isOk) :
    opts₂ = opts₁ := by
  have hrep : opts₁.map Prod.fst = List.replicate opts₁.length "size".toList :=
    List.eq_replicate_iff.mpr ⟨List.length_map _ _, fun _ hk => by
      obtain ⟨kv, hkv, rfl⟩ := List.mem_map.mp hk
      exact storageOptSize_keys h kv hkv⟩
  have hlen : opts₁.length ≤ 1 := by
    rw [hrep] at hkeys
    exact List.nodup_replicate.mp hkeys
  rcases opts₁ with _ | ⟨a, _ | ⟨b, rest⟩⟩
  · exact (List.Perm.nil_eq hperm).symm
  · exact hperm.symm.eq_singleton
  · exact absurd hlen (by rw [List.length_cons, List.length_cons]; omega)

theorem storageOptSize_error {env : Env} {q : UInt64} {opts : List (List Char × List Char)}
    (h : (storageOptSize env q opts).isOk = false) : ∃ e, storageOptSize env q opts = .error e := by
  rcases hx : storageOptSize env q opts with e | size
  · exact ⟨e, rfl⟩
  · simp [hx, Except.isOk, Except.toBool] at h

/-- The tree `CreateReadWrite` leaves, and whether it succeeds, do not depend on the order in
which Go's map iteration visits the storage options; which error it reports can. -/
theorem createReadWrite_perm (d : Driver) (env : Env) (s : Settings) (fs : CreateFs)
    (id parent : List Char) (t : Tree) {opts₁ opts₂ : List (List Char × List Char)}
    (hperm : opts₁.Perm opts₂) (hkeys : (opts₁.map Prod.fst).Nodup) :
    (d.createReadWrite env s fs id parent (some opts₁) t).1 =
        (d.createReadWrite env s fs id parent (some opts₂) t).1 ∧
      (d.createReadWrite env s fs id parent (some opts₁) t).2.isOk =
        (d.createReadWrite env s fs id parent (some opts₂) t).2.isOk := by
  by_cases h₁ : (storageOptSize env s.quotaSize opts₁).isOk
  · rw [eq_of_perm_of_storageOptSize hperm hkeys h₁]
    exact ⟨rfl, rfl⟩
  by_cases h₂ : (storageOptSize env s.quotaSize opts₂).isOk
  · rw [eq_of_perm_of_storageOptSize hperm.symm ((hperm.map Prod.fst).nodup_iff.mp hkeys) h₂]
    exact ⟨rfl, rfl⟩
  obtain ⟨e₁, he₁⟩ := storageOptSize_error (Bool.eq_false_iff.mpr h₁)
  obtain ⟨e₂, he₂⟩ := storageOptSize_error (Bool.eq_false_iff.mpr h₂)
  simp [Driver.createReadWrite, he₁, he₂, Except.isOk, Except.toBool]

theorem createReadWrite_perm_size_foo :
    [("size".toList, "1".toList), ("foo".toList, "x".toList)].Perm
        [("foo".toList, "x".toList), ("size".toList, "1".toList)] ∧
      ([("size".toList, "1".toList), ("foo".toList, "x".toList)].map Prod.fst).Nodup ∧
      (Driver.createReadWrite ⟨"/var/lib/docker/vfs".toList⟩ noQuotaEnv .zero .ok
          "a".toList [] (some [("size".toList, "1".toList), ("foo".toList, "x".toList)]) ⟨[]⟩).1 =
        (Driver.createReadWrite ⟨"/var/lib/docker/vfs".toList⟩ noQuotaEnv .zero .ok
          "a".toList [] (some [("foo".toList, "x".toList), ("size".toList, "1".toList)]) ⟨[]⟩).1 ∧
      (Driver.createReadWrite ⟨"/var/lib/docker/vfs".toList⟩ noQuotaEnv .zero .ok
          "a".toList [] (some [("size".toList, "1".toList), ("foo".toList, "x".toList)]) ⟨[]⟩).2.isOk =
        (Driver.createReadWrite ⟨"/var/lib/docker/vfs".toList⟩ noQuotaEnv .zero .ok
          "a".toList [] (some [("foo".toList, "x".toList), ("size".toList, "1".toList)]) ⟨[]⟩).2.isOk :=
  ⟨by decide, by decide, createReadWrite_perm _ _ _ _ _ _ _ (by decide) (by decide)⟩

/-- Without quota support, the same two options report `ErrQuotaNotSupported` in one order... -/
example : (Driver.createReadWrite ⟨"/var/lib/docker/vfs".toList⟩ noQuotaEnv .zero .ok
    "a".toList [] (some [("size".toList, "1".toList), ("foo".toList, "x".toList)]) ⟨[]⟩).2 =
      .error .quotaNotSupported := rfl

/-- ... and the unsupported key in the other. -/
example : (Driver.createReadWrite ⟨"/var/lib/docker/vfs".toList⟩ noQuotaEnv .zero .ok
    "a".toList [] (some [("foo".toList, "x".toList), ("size".toList, "1".toList)]) ⟨[]⟩).2 =
      .error (.invalidParameter "Storage opt foo not supported".toList) := rfl

end Options

end MobyDaemon.Graphdriver.Vfs
