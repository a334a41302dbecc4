import Mathlib

/-!
The lease bookkeeping of the image service (`daemon/images/store.go`). During a pull,
`contentStoreForPull` records the digest of every blob a writer committed or found already
there, and `imageStoreForPull` leases them to the image: on each `Put` and `Get` of an image
config it creates the lease `moby-image-<digest>` (or finds it) and adds every digest recorded
so far to it as a `content` resource.

The wrapped content store, config store and lease manager are not part of the modelled code.
The outcome of each of their calls is given with the event that makes it; the lease manager's
state is the leases by id with their resources, and `Create` and `AddResource` fail on their own
only as the manager does, on an existing or a missing lease. A pull is a run of events from any
state. The digest list is guarded by a mutex and `updateLease` reads it once, so every
interleaving of a pull's goroutines has the effect of a run where each event happens at once,
`updateLease` at the point it copies the list.

Leases only grow during a pull, so a blob committed before a successful `Put` or `Get` of a
config stays held by that config's lease to the end of the pull.
-/
namespace MobyDaemon.Images

def imageKeyPrefix : List Char := "moby-image-".toList

def imageKey (dgst : List Char) : List Char := imageKeyPrefix ++ dgst

inductive ErrorKind where
  | notFound
  | alreadyExists
  | other
  deriving DecidableEq

/-- An error of a wrapped store or of the lease manager: its class and its text. -/
structure StoreError where
  kind : ErrorKind
  text : List Char
  deriving DecidableEq

structure Resource where
  id : List Char
  type : List Char
  deriving DecidableEq

def contentResource (dgst : List Char) : Resource := ⟨dgst, "content".toList⟩

structure Leases where
  entries : List (List Char × List Resource)

namespace Leases

def Has (ls : Leases) (id : List Char) : Prop := id ∈ ls.entries.map Prod.fst

def Holds (ls : Leases) (id : List Char) (r : Resource) : Prop := ∃ rs, (id, rs) ∈ ls.entries ∧ r ∈ rs

/-- `Create(ctx, leases.WithID(id))`, or the manager's own failure `fault`. -/
def create (ls : Leases) (id : List Char) (fault : Option StoreError) : Leases × Option StoreError :=
  match fault with
  | some err => (ls, some err)
  | none =>
      if id ∈ ls.entries.map Prod.fst then
        (ls, some ⟨.alreadyExists, "lease ".toList ++ id ++ ": already exists".toList⟩)
      else (⟨(id, []) :: ls.entries⟩, none)

/-- `AddResource(ctx, leases.Lease{ID: id}, r)`, or the manager's own failure `fault`. -/
def addResource (ls : Leases) (id : List Char) (r : Resource) (fault : Option StoreError) :
    Leases × Option StoreError :=
  match fault with
  | some err => (ls, some err)
  | none =>
      if id ∈ ls.entries.map Prod.fst then
        (⟨ls.entries.map fun e => if e.1 = id then (e.1, r :: e.2) else e⟩, none)
      else (ls, some ⟨.notFound, "lease ".toList ++ id ++ ": not found".toList⟩)

theorem holds_create {ls : Leases} {id : List Char} {r : Resource} (h : ls.Holds id r)
    (id' : List Char) (fault : Option StoreError) : (ls.create id' fault).1.Holds id r := by
  obtain ⟨rs, hmem, hr⟩ := h
  unfold create
  split
  · exact ⟨rs, hmem, hr⟩
  · split
    · exact ⟨rs, hmem, hr⟩
    · exact ⟨rs, List.mem_cons_of_mem _ hmem, hr⟩

theorem holds_addResource {ls : Leases} {id : List Char} {r : Resource} (h : ls.Holds id r)
    (id' : List Char) (r' : Resource) (fault : Option StoreError) :
    (ls.addResource id' r' fault).1.Holds id r := by
  obtain ⟨rs, hmem, hr⟩ := h
  unfold addResource
  split
  · exact ⟨rs, hmem, hr⟩
  · split
    · by_cases hid : id = id'
      · exact ⟨r' :: rs, List.mem_map.mpr ⟨(id, rs), hmem, by simp [hid]⟩, List.mem_cons_of_mem _ hr⟩
      · exact ⟨rs, List.mem_map.mpr ⟨(id, rs), hmem, by simp [hid]⟩, hr⟩
    · exact ⟨rs, hmem, hr⟩

theorem holds_addResource_self {ls : Leases} {id : List Char} {r : Resource}
    {fault : Option StoreError} (h : (ls.addResource id r fault).2 = none) :
    (ls.addResource id r fault).1.Holds id r := by
  cases fault with
  | some err => cases h
  | none =>
    by_cases hid : id ∈ ls.entries.map Prod.fst
    · simp only [addResource, if_pos hid]
      obtain ⟨⟨_, rs⟩, hmem, rfl⟩ := List.mem_map.mp hid
      exact ⟨r :: rs, List.mem_map.mpr ⟨_, hmem, by simp⟩, List.mem_cons_self _ _⟩
    · simp only [addResource, if_neg hid] at h
      cases h

end Leases

/-- What a pull has recorded: the digests `contentStoreForPull` collected, and the leases. -/
structure Pull where
  digested : List (List Char)
  leases : Leases

/-- The lease manager's failures during one `updateLease`: of `Create`, and of `AddResource`
for each digest. -/
structure LeaseFaults where
  create : Option StoreError
  addResource : List Char → Option StoreError

namespace Pull

def addDigested (p : Pull) (dgst : List Char) : Pull := { p with digested := p.digested ++ [dgst] }

/-- `contentStoreForPull.Writer`: `res` is the wrapped store's error, and `desc` and `optErr` the
descriptor digest and the first error of the writer options, which are applied when the blob is
already there. -/
def writer (p : Pull) (desc : List Char) (res optErr : Option StoreError) :
    Pull × Option StoreError :=
  match res with
  | none => (p, none)
  | some err =>
      if err.kind = .alreadyExists then
        match optErr with
        | some e => (p, some e)
        | none => (p.addDigested desc, some err)
      else (p, some err)

/-- `contentWriter.Commit`, given the wrapped writer's error. -/
def commit (p : Pull) (expected : List Char) (res : Option StoreError) : Pull × Option StoreError :=
  match res with
  | none => (p.addDigested expected, none)
  | some err => if err.kind = .alreadyExists then (p.addDigested expected, some err) else (p, some err)

end Pull

/-- The loop of `updateLease`: each digest of its copy of the list, added to the lease. -/
def addResources (leaseID : List Char) (fault : List Char → Option StoreError) :
    Leases → List (List Char) → Leases × Option (List Char)
  | ls, [] => (ls, none)
  | ls, d :: ds =>
      match ls.addResource leaseID (contentResource d) (fault d) with
      | (ls', some err) =>
          (ls', some ("error adding content digest to lease: ".toList ++ d ++ ": ".toList ++ err.text))
      | (ls', none) => addResources leaseID fault ls' ds

namespace Pull

def updateLease (p : Pull) (dgst : List Char) (faults : LeaseFaults) : Pull × Option (List Char) :=
  let leaseID := imageKey dgst
  let created := p.leases.create leaseID faults.create
  let added := addResources leaseID faults.addResource created.1 p.digested
  match created.2 with
  | some err =>
      if err.kind = .alreadyExists then ({ p with leases := added.1 }, added.2)
      else ({ p with leases := created.1 }, some ("error creating lease: ".toList ++ err.text))
  | none => ({ p with leases := added.1 }, added.2)

/-- `imageStoreForPull.Put`: the wrapped store's `Put` gives the config's digest or fails. The
result is Go's pair of the digest and the error. -/
def put (p : Pull) (res : Except StoreError (List Char)) (faults : LeaseFaults) :
    Pull × List Char × Option (List Char) :=
  match res with
  | .error err => (p, [], some err.text)
  | .ok id =>
      let r := p.updateLease id faults
      (r.1, id, r.2)

/-- `imageStoreForPull.Get`: the wrapped store's `Get` of `dgst` gives the config or fails. -/
def get (p : Pull) (dgst : List Char) (res : Except StoreError (List UInt8)) (faults : LeaseFaults) :
    Pull × List UInt8 × Option (List Char) :=
  match res with
  | .error err => (p, [], some err.text)
  | .ok config =>
      let r := p.updateLease dgst faults
      (r.1, config, r.2)

/-- What `updateLease` can do: keep the digests, and leave the leases as the loop left them,
with the loop's error, or, when `Create` failed other than on an existing lease, as `Create`
left them. -/
theorem updateLease_cases (p : Pull) (dgst : List Char) (faults : LeaseFaults) :
    p.updateLease dgst faults =
        ({ p with leases := (addResources (imageKey dgst) faults.addResource
            (p.leases.create (imageKey dgst) faults.create).1 p.digested).1 },
          (addResources (imageKey dgst) faults.addResource
            (p.leases.create (imageKey dgst) faults.create).1 p.digested).2) ∨
      ∃ err : StoreError, p.updateLease dgst faults =
        ({ p with leases := (p.leases.create (imageKey dgst) faults.create).1 },
          some ("error creating lease: ".toList ++ err.text)) := by
  simp only [updateLease]
  split
  · split
    · exact .inl rfl
    · exact .inr ⟨_, rfl⟩
  · exact .inl rfl

end Pull

/-- A call a pull makes into the wrapped stores, with the outcomes of the calls it makes in turn. -/
inductive PullEvent where
  | writer (desc : List Char) (res optErr : Option StoreError)
  | commit (expected : List Char) (res : Option StoreError)
  | put (res : Except StoreError (List Char)) (faults : LeaseFaults)
  | get (dgst : List Char) (res : Except StoreError (List UInt8)) (faults : LeaseFaults)

namespace Pull

def step (p : Pull) : PullEvent → Pull
  | .writer desc res optErr => (p.writer desc res optErr).1
  | .commit expected res => (p.commit expected res).1
  | .put res faults => (p.put res faults).1
  | .get dgst res faults => (p.get dgst res faults).1

def run (p : Pull) (events : List PullEvent) : Pull := events.foldl step p

@[simp] theorem run_nil (p : Pull) : p.run [] = p := rfl

@[simp] theorem run_cons (p : Pull) (e : PullEvent) (es : List PullEvent) :
    p.run (e :: es) = (p.step e).run es := rfl

@[simp] theorem run_append (p : Pull) (es fs : List PullEvent) : p.run (es ++ fs) = (p.run es).run fs :=
  List.foldl_append _ _ _ _

end Pull

section Grow
variable {id : List Char} {r : Resource}

theorem holds_addResources {ls : Leases} (h : ls.Holds id r) (leaseID : List Char)
    (fault : List Char → Option StoreError) (ds : List (List Char)) :
    (addResources leaseID fault ls ds).1.Holds id r := by
  induction ds generalizing ls with
  | nil => exact h
  | cons d ds ih =>
    have h' := Leases.holds_addResource h leaseID (contentResource d) (fault d)
    unfold addResources
    split
    · rename_i heq
      rw [heq] at h'
      exact h'
    · rename_i heq
      rw [heq] at h'
      exact ih h'

theorem holds_addResources_of_ok {ls : Leases} {leaseID : List Char}
    {fault : List Char → Option StoreError} {ds : List (List Char)}
    (h : (addResources leaseID fault ls ds).2 = none) :
    ∀ d ∈ ds, (addResources leaseID fault ls ds).1.Holds leaseID (contentResource d) := by
  induction ds generalizing ls with
  | nil => intro d hd; cases hd
  | cons d ds ih =>
    rcases hadd : ls.addResource leaseID (contentResource d) (fault d) with ⟨ls', _ | err⟩
    · simp only [addResources, hadd] at h ⊢
      have hself : ls'.Holds leaseID (contentResource d) := by
        have := Leases.holds_addResource_self
          (show (ls.addResource leaseID (contentResource d) (fault d)).2 = none by rw [hadd])
        rwa [hadd] at this
      intro x hx
      rcases List.mem_cons.mp hx with rfl | hx
      · exact holds_addResources hself leaseID fault ds
      · exact ih h x hx
    · simp only [addResources, hadd] at h
      cases h

theorem holds_updateLease {p : Pull} (h : p.leases.Holds id r) (dgst : List Char)
    (faults : LeaseFaults) : (p.updateLease dgst faults).1.leases.Holds id r := by
  have hc := Leases.holds_create h (imageKey dgst) faults.create
  have ha := holds_addResources hc (imageKey dgst) faults.addResource p.digested
  rcases p.updateLease_cases dgst faults with he | ⟨err, he⟩ <;> rw [he]
  · exact ha
  · exact hc

theorem holds_updateLease_of_ok {p : Pull} {dgst : List Char} {faults : LeaseFaults}
    (h : (p.updateLease dgst faults).2 = none) :
    ∀ d ∈ p.digested, (p.updateLease dgst faults).1.leases.Holds (imageKey dgst) (contentResource d) := by
  rcases p.updateLease_cases dgst faults with he | ⟨err, he⟩ <;> rw [he] at h ⊢
  · exact holds_addResources_of_ok h
  · cases h

/-- No event of a pull takes a resource out of a lease. -/
theorem holds_step {p : Pull} (h : p.leases.Holds id r) (e : PullEvent) :
    (p.step e).leases.Holds id r := by
  cases e with
  | writer desc res optErr =>
    simp only [Pull.step, Pull.writer]
    split
    · exact h
    · split
      · split
        · exact h
        · exact h
      · exact h
  | commit expected res =>
    simp only [Pull.step, Pull.commit]
    split
    · exact h
    · split
      · exact h
      · exact h
  | put res faults =>
    simp only [Pull.step, Pull.put]
    split
    · exact h
    · exact holds_updateLease h _ faults
  | get dgst res faults =>
    simp only [Pull.step, Pull.get]
    split
    · exact h
    · exact holds_updateLease h dgst faults

theorem holds_run {p : Pull} (h : p.leases.Holds id r) (es : List PullEvent) :
    (p.run es).leases.Holds id r := by
  induction es generalizing p with
  | nil => exact h
  | cons e es ih => exact ih (holds_step h e)

end Grow

theorem digested_step (p : Pull) (e : PullEvent) : p.digested <+: (p.step e).digested := by
  cases e with
  | writer desc res optErr =>
    simp only [Pull.step, Pull.writer]
    split
    · exact List.prefix_refl _
    · split
      · split
        · exact List.prefix_refl _
        · exact List.prefix_append _ _
      · exact List.prefix_refl _
  | commit expected res =>
    simp only [Pull.step, Pull.commit]
    split
    · exact List.prefix_append _ _
    · split
      · exact List.prefix_append _ _
      · exact List.prefix_refl _
  | put res faults =>
    simp only [Pull.step, Pull.put]
    split
    · exact List.prefix_refl _
    · rename_i id
      rcases p.updateLease_cases id faults with he | ⟨err, he⟩ <;> rw [he]
  | get dgst res faults =>
    simp only [Pull.step, Pull.get]
    split
    · exact List.prefix_refl _
    · rcases p.updateLease_cases dgst faults with he | ⟨err, he⟩ <;> rw [he]

theorem digested_run (p : Pull) (es : List PullEvent) : p.digested <+: (p.run es).digested := by
  induction es generalizing p with
  | nil => exact List.prefix_refl _
  | cons e es ih => exact (digested_step p e).trans (ih _)

theorem mem_digested_commit (p : Pull) {expected : List Char} {res : Option StoreError}
    (hres : ∀ err, res = some err → err.kind = .alreadyExists) :
    expected ∈ (p.step (.commit expected res)).digested := by
  simp only [Pull.step, Pull.commit]
  split
  · exact List.mem_append_right _ (List.mem_singleton_self _)
  · rename_i err
    rw [if_pos (hres err rfl)]
    exact List.mem_append_right _ (List.mem_singleton_self _)

/-- A blob committed during a pull, before a `Put` of an image config that returned no error,
is held as content by the lease of that config at the end of the pull, whatever happened in
between and after. -/
theorem pull_leases_committed (p : Pull) (before between after : List PullEvent)
    (expected : List Char) (cres : Option StoreError)
    (hcommit : ∀ err, cres = some err → err.kind = .alreadyExists)
    (res : Except StoreError (List Char)) (faults : LeaseFaults) (id : List Char)
    (hput : ((p.run (before ++ .commit expected cres :: between)).put res faults).2 = (id, none)) :
    (p.run (before ++ .commit expected cres :: between ++ .put res faults :: after)).leases.Holds
      (imageKey id) (contentResource expected) := by
  set q := p.run (before ++ .commit expected cres :: between) with hq
  have hmem : expected ∈ q.digested := by
    rw [hq, Pull.run_append, Pull.run_cons]
    exact (digested_run _ between).subset (mem_digested_commit _ hcommit)
  rw [Pull.run_append, ← hq, Pull.run_cons]
  -- the `Put` itself
  have hok : res = .ok id ∧ (q.updateLease id faults).2 = none := by
    unfold Pull.put at hput
    split at hput
    · cases hput
    · simp only [Prod.mk.injEq] at hput
      obtain ⟨rfl, h⟩ := hput
      exact ⟨rfl, h⟩
  obtain ⟨rfl, hlease⟩ := hok
  exact holds_run (holds_updateLease_of_ok hlease expected hmem) after

/-- A pull that commits one layer and then puts its config. -/
theorem pull_leases_committed_layer :
    (∀ err, (none : Option StoreError) = some err → err.kind = .alreadyExists) ∧
    (((Pull.mk [] ⟨[]⟩).run ([] ++ .commit "sha256:a".toList none :: [])).put
        (.ok "sha256:c".toList) ⟨none, fun _ => none⟩).2 = ("sha256:c".toList, none) ∧
    ((Pull.mk [] ⟨[]⟩).run ([] ++ .commit "sha256:a".toList none :: [] ++
        .put (.ok "sha256:c".toList) ⟨none, fun _ => none⟩ :: [])).leases.Holds
      (imageKey "sha256:c".toList) (contentResource "sha256:a".toList) := by
  have hcommit : ∀ err, (none : Option StoreError) = some err → err.kind = .alreadyExists :=
    fun _ h => by cases h
  have hput : (((Pull.mk [] ⟨[]⟩).run ([] ++ .commit "sha256:a".toList none :: [])).put
      (.ok "sha256:c".toList) ⟨none, fun _ => none⟩).2 = ("sha256:c".toList, none) := by
    decide
  exact ⟨hcommit, hput, pull_leases_committed _ [] [] [] _ none hcommit _ _ _ hput⟩

end MobyDaemon.Images
