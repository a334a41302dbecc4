import Mathlib
import MobyDaemon.Text

/-!
Resolving the network sandbox of a container that shares another container's network stack.
`getNetworkSandboxID` follows `container:<ref>` network modes with no visited set and no
bound, so it is embedded with a fuel argument counting the tests of its loop condition; a
run that is still in the loop when the fuel is spent is `none`. `GetContainer` is not part
of the modelled code: it is a parameter that resolves a reference to one of finitely many
containers or fails. The main result says the loop returns within one test more than there
are containers, or never, and that it never returns exactly when the chain of references
reaches a cycle.
-/
namespace MobyDaemon.Daemon
open Relation

structure NetworkMode where
  mode : List Char
  deriving DecidableEq, Repr

/-- `containerID(val)`: the reference of a `container:<ID|name>` value, `none` for a value
without the `container` prefix (Go's `"", false`). -/
def containerID (val : List Char) : Option (List Char) :=
  match cut ':' val with
  | some (k, v) => if k = "container".toList then some v else none
  | none => none

def NetworkMode.isContainer (n : NetworkMode) : Bool := (containerID n.mode).isSome

def NetworkMode.connectedContainer (n : NetworkMode) : List Char := (containerID n.mode).getD []

/-- The fields of `container.Container` the loop reads: `HostConfig.NetworkMode` and
`NetworkSettings.SandboxID`. -/
structure Container where
  id : List Char
  networkMode : NetworkMode
  sandboxID : List Char
  deriving DecidableEq, Repr

/-- The daemon's containers as `GetContainer` sees them: a reference resolves to one of
finitely many containers, or fails with an error text. -/
structure ContainerStore where
  containers : List Container
  getContainer : List Char → Except (List Char) Container
  getContainer_mem : ∀ ref c, getContainer ref = .ok c → c ∈ containers

/-- `errors.Wrapf(err, "Could not get container for %s", containerID)` -/
def couldNotGetContainer (containerID err : List Char) : List Char :=
  "Could not get container for ".toList ++ containerID ++ ": ".toList ++ err

/-- `getNetworkSandboxID`, for at most `fuel` tests of its loop condition. -/
def getNetworkSandboxID (store : ContainerStore) :
    Nat → Container → Option (Except (List Char) (List Char))
  | 0, _ => none
  | fuel + 1, curr =>
      if curr.networkMode.isContainer then
        let containerID := curr.networkMode.connectedContainer
        match store.getContainer containerID with
        | .error err => some (.error (couldNotGetContainer containerID err))
        | .ok connected => getNetworkSandboxID store fuel connected
      else some (.ok curr.sandboxID)

section Chain
variable (store : ContainerStore)

/-- One turn of the loop: `a` is in container mode and its reference resolves to `b`. -/
def Follows (a b : Container) : Prop :=
  a.networkMode.isContainer ∧ store.getContainer a.networkMode.connectedContainer = .ok b

instance (a b : Container) : Decidable (Follows store a b) :=
  inferInstanceAs (Decidable (_ ∧ _))

def ReachesCycle (c : Container) : Prop :=
  ∃ a, ReflTransGen (Follows store) c a ∧ TransGen (Follows store) a a

/-- What the loop returns for `c`: the sandbox of the first container on the chain that is
not in container mode, or the lookup error of the first reference on the chain that fails. -/
def ChainResult (c : Container) (r : Except (List Char) (List Char)) : Prop :=
  ∃ a, ReflTransGen (Follows store) c a ∧
    ((a.networkMode.isContainer = false ∧ r = .ok a.sandboxID) ∨
      ∃ err, a.networkMode.isContainer = true ∧
        store.getContainer a.networkMode.connectedContainer = .error err ∧
        r = .error (couldNotGetContainer a.networkMode.connectedContainer err))

def chainAt (c : Container) : Nat → Option Container
  | 0 => some c
  | n + 1 => (chainAt c n).bind fun a =>
      if a.networkMode.isContainer then
        match store.getContainer a.networkMode.connectedContainer with
        | .ok b => some b
        | .error _ => none
      else none

end Chain

section Run
variable {store : ContainerStore}

theorem follows_iff {a b : Container} :
    Follows store a b ↔ (chainAt store a 1 = some b) := by
  simp only [Follows, chainAt, Option.some_bind]
  split <;> [split <;> simp_all; simp_all]

theorem getNetworkSandboxID_succ_of_follows {a b : Container} (h : Follows store a b)
    (fuel : Nat) : getNetworkSandboxID store (fuel + 1) a = getNetworkSandboxID store fuel b := by
  simp [getNetworkSandboxID, h.1, h.2]

theorem getNetworkSandboxID_succ_of_not_follows {a : Container} (h : ∀ b, ¬Follows store a b)
    (fuel : Nat) : ∃ r, getNetworkSandboxID store (fuel + 1) a = some r ∧ ChainResult store a r := by
  by_cases hc : a.networkMode.isContainer
  · cases hg : store.getContainer a.networkMode.connectedContainer with
    | ok b => exact absurd ⟨hc, hg⟩ (h b)
    | error err =>
        exact ⟨_, by simp [getNetworkSandboxID, hc, hg], a, .refl, .inr ⟨err, hc, hg, rfl⟩⟩
  · exact ⟨_, by simp [getNetworkSandboxID, hc], a, .refl, .inl ⟨by simpa using hc, rfl⟩⟩

theorem getNetworkSandboxID_mono {n m : Nat} {a : Container} {r : Except (List Char) (List Char)}
    (h : getNetworkSandboxID store n a = some r) (hnm : n ≤ m) :
    getNetworkSandboxID store m a = some r := by
  induction n generalizing a m with
  | zero => simp [getNetworkSandboxID] at h
  | succ n ih =>
      obtain ⟨m, rfl⟩ : ∃ m', m = m' + 1 := ⟨m - 1, by omega⟩
      by_cases hf : ∃ b, Follows store a b
      · obtain ⟨b, hb⟩ := hf
        rw [getNetworkSandboxID_succ_of_follows hb] at h ⊢
        exact ih h (by omega)
      · obtain ⟨r', h', -⟩ := getNetworkSandboxID_succ_of_not_follows (not_exists.mp hf) n
        obtain ⟨r'', h'', -⟩ := getNetworkSandboxID_succ_of_not_follows (not_exists.mp hf) m
        simp only [getNetworkSandboxID] at h h' h'' ⊢
        split at h <;> [split at h; skip] <;> simp_all

theorem chainResult_of_getNetworkSandboxID {n : Nat} {a : Container}
    {r : Except (List Char) (List Char)} (h : getNetworkSandboxID store n a = some r) :
    ChainResult store a r := by
  induction n generalizing a with
  | zero => simp [getNetworkSandboxID] at h
  | succ n ih =>
      by_cases hf : ∃ b, Follows store a b
      · obtain ⟨b, hb⟩ := hf
        rw [getNetworkSandboxID_succ_of_follows hb] at h
        obtain ⟨x, hx, hr⟩ := ih h
        exact ⟨x, .head hb hx, hr⟩
      · obtain ⟨r', h', hr'⟩ := getNetworkSandboxID_succ_of_not_follows (not_exists.mp hf) n
        rw [h] at h'
        exact Option.some.inj h' ▸ hr'

/-- A container on a cycle of references keeps the loop running for any fuel. -/
theorem getNetworkSandboxID_eq_none_of_transGen {a : Container}
    (h : TransGen (Follows store) a a) (fuel : Nat) : getNetworkSandboxID store fuel a = none := by
  induction fuel generalizing a with
  | zero => rfl
  | succ fuel ih =>
      obtain ⟨b, hab, hba⟩ := TransGen.head'_iff.mp h
      rw [getNetworkSandboxID_succ_of_follows hab]
      exact ih (TransGen.tail' hba hab)

theorem getNetworkSandboxID_eq_none_of_reachesCycle {c : Container} (h : ReachesCycle store c)
    (fuel : Nat) : getNetworkSandboxID store fuel c = none := by
  obtain ⟨a, hca, haa⟩ := h
  induction hca using ReflTransGen.head_induction_on generalizing fuel with
  | refl => exact getNetworkSandboxID_eq_none_of_transGen haa fuel
  | head hcb _ ih =>
      cases fuel with
      | zero => rfl
      | succ fuel => rw [getNetworkSandboxID_succ_of_follows hcb]; exact ih fuel

theorem chainAt_succ_of_follows {c b : Container} (h : Follows store c b) (i : Nat) :
    chainAt store c (i + 1) = chainAt store b i := by
  induction i with
  | zero => exact follows_iff.mp h
  | succ i ih => rw [chainAt, ih, chainAt]

theorem chainAt_add (c : Container) (i k : Nat) :
    chainAt store c (i + k) = (chainAt store c i).bind fun a => chainAt store a k := by
  induction k with
  | zero => simp [chainAt]
  | succ k ih =>
      show chainAt store c ((i + k) + 1) = _
      rw [chainAt, ih, Option.bind_assoc]
      rfl

theorem reflTransGen_of_chainAt {a b : Container} {k : Nat} (h : chainAt store a k = some b) :
    ReflTransGen (Follows store) a b ∧ (0 < k → TransGen (Follows store) a b) := by
  induction k generalizing b with
  | zero => cases h; exact ⟨.refl, by omega⟩
  | succ k ih =>
      obtain ⟨x, hx, hxb⟩ := Option.bind_eq_some.mp h
      have hf : Follows store x b := follows_iff.mpr (by simpa [chainAt] using hxb)
      exact ⟨(ih hx).1.tail hf, fun _ => TransGen.tail' (ih hx).1 hf⟩

theorem mem_containers_of_chainAt {c b : Container} {i : Nat}
    (h : chainAt store c (i + 1) = some b) : b ∈ store.containers := by
  obtain ⟨x, -, hxb⟩ := Option.bind_eq_some.mp h
  split at hxb
  · split at hxb
    · cases hxb; exact store.getContainer_mem _ _ ‹_›
    · cases hxb
  · cases hxb

theorem chainAt_isSome_of_eq_none {n : Nat} {c : Container}
    (h : getNetworkSandboxID store n c = none) {i : Nat} (hi : i ≤ n) :
    (chainAt store c i).isSome := by
  induction n generalizing c i with
  | zero => obtain rfl : i = 0 := by omega
            rfl
  | succ n ih =>
      by_cases hf : ∃ b, Follows store c b
      · obtain ⟨b, hb⟩ := hf
        rw [getNetworkSandboxID_succ_of_follows hb] at h
        cases i with
        | zero => rfl
        | succ i => rw [chainAt_succ_of_follows hb]; exact ih h (by omega)
      · obtain ⟨r, hr, -⟩ := getNetworkSandboxID_succ_of_not_follows (not_exists.mp hf) n
        simp [h] at hr

/-- A loop still running after one test more than there are containers has met one of them
twice, so the chain reaches a cycle. -/
theorem reachesCycle_of_eq_none {c : Container}
    (h : getNetworkSandboxID store (store.containers.length + 1) c = none) :
    ReachesCycle store c := by
  classical
  let f : Nat → Container := fun i => (chainAt store c (i + 1)).getD c
  have hf : ∀ i, i ≤ store.containers.length → chainAt store c (i + 1) = some (f i) := by
    intro i hi
    obtain ⟨b, hb⟩ := Option.isSome_iff_exists.mp (chainAt_isSome_of_eq_none h (by omega : i + 1 ≤ _))
    simp [f, hb]
  have hmaps : ∀ i ∈ Finset.range (store.containers.length + 1),
      f i ∈ store.containers.toFinset := fun i hi =>
    List.mem_toFinset.mpr (mem_containers_of_chainAt (hf i (by simpa [Nat.lt_succ_iff] using hi)))
  have hcard : store.containers.toFinset.card < (Finset.range (store.containers.length + 1)).card := by
    simpa [Nat.lt_succ_iff] using List.toFinset_card_le store.containers
  obtain ⟨i, hi, j, hj, hij, hfij⟩ := Finset.exists_ne_map_eq_of_card_lt_of_maps_to hcard hmaps
  wlog hlt : i < j generalizing i j
  · exact this j hj i hi (Ne.symm hij) hfij.symm (by omega)
  simp only [Finset.mem_range] at hi hj
  have hci := hf i (by omega)
  have hcj : chainAt store (f i) (j - i) = some (f i) := by
    have := hf j (by omega)
    rwa [show j + 1 = (i + 1) + (j - i) by omega, chainAt_add, hci, Option.some_bind, ← hfij]
      at this
  exact ⟨f i, (reflTransGen_of_chainAt hci).1, (reflTransGen_of_chainAt hcj).2 (by omega)⟩

end Run

/-- Either the chain of references from `c` reaches a cycle and the loop never returns, or
it does not, and the loop returns within one test more than there are containers, with the
sandbox of the first container on the chain that is not in container mode or the error of
the first reference that does not resolve. -/
theorem getNetworkSandboxID_returns_iff (store : ContainerStore) (c : Container) :
    (ReachesCycle store c ∧ ∀ fuel, getNetworkSandboxID store fuel c = none) ∨
      (¬ReachesCycle store c ∧ ∃ r, ChainResult store c r ∧
        ∀ fuel, store.containers.length + 1 ≤ fuel → getNetworkSandboxID store fuel c = some r) := by
  by_cases hcycle : ReachesCycle store c
  · exact .inl ⟨hcycle, getNetworkSandboxID_eq_none_of_reachesCycle hcycle⟩
  · cases h : getNetworkSandboxID store (store.containers.length + 1) c with
    | none => exact absurd (reachesCycle_of_eq_none h) hcycle
    | some r =>
        exact .inr ⟨hcycle, r, chainResult_of_getNetworkSandboxID h,
          fun _ hfuel => getNetworkSandboxID_mono h hfuel⟩

/-- Two containers each in the network mode of the other. -/
def pairedStore : ContainerStore where
  containers := [⟨"a".toList, ⟨"container:b".toList⟩, "sa".toList⟩,
    ⟨"b".toList, ⟨"container:a".toList⟩, "sb".toList⟩]
  getContainer ref :=
    if ref = "a".toList then .ok ⟨"a".toList, ⟨"container:b".toList⟩, "sa".toList⟩
    else if ref = "b".toList then .ok ⟨"b".toList, ⟨"container:a".toList⟩, "sb".toList⟩
    else .error ("No such container: ".toList ++ ref)
  getContainer_mem ref c h := by
    simp only at h
    split at h
    · cases h; simp
    · split at h
      · cases h; simp
      · cases h

/-- The loop never returns for a container whose network mode names a container in its own
network mode. -/
theorem getNetworkSandboxID_paired_runs_forever :
    ¬∃ fuel r, getNetworkSandboxID pairedStore fuel
      ⟨"a".toList, ⟨"container:b".toList⟩, "sa".toList⟩ = some r := by
  have hab : Follows pairedStore ⟨"a".toList, ⟨"container:b".toList⟩, "sa".toList⟩
      ⟨"b".toList, ⟨"container:a".toList⟩, "sb".toList⟩ := by decide
  have hba : Follows pairedStore ⟨"b".toList, ⟨"container:a".toList⟩, "sb".toList⟩
      ⟨"a".toList, ⟨"container:b".toList⟩, "sa".toList⟩ := by decide
  rintro ⟨fuel, r, h⟩
  rw [getNetworkSandboxID_eq_none_of_transGen (.tail (.single hab) hba)] at h
  cases h

end MobyDaemon.Daemon
