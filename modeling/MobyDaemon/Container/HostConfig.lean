import Mathlib
import MobyDaemon.Daemon.NetworkSandbox

/-!
The namespace modes and the restart policy of a container's `HostConfig` (`api/types/container`).
A mode is a string compared with its type's constants, and a `container:<ID|name>` mode is read
by `containerID`, which `NetworkMode` shares. The `Valid` methods of the mode types follow one
pattern, `validMode`: one of the type's constants, or, for a type whose namespace can be another
container's, a `container:` value. `PidMode.Valid` alone asks that value to name a container.
`ValidateRestartPolicy` accepts each policy name with the retry counts it allows, and every error
it returns names the field it rejects.
-/
namespace MobyDaemon.Container
open Daemon

theorem containerID_eq_some_iff {val v : List Char} :
    containerID val = some v ↔ val = "container:".toList ++ v := by
  constructor
  · intro h
    unfold containerID at h
    split at h
    · rename_i k w hc
      split_ifs at h with hk
      cases h
      rw [(eq_of_cut_eq_some hc).1, hk]
      rfl
    · cases h
  · rintro rfl
    rw [containerID, show "container:".toList ++ v = "container".toList ++ ':' :: v from rfl,
      cut_append v (by decide)]
    simp

def validContainer (val : List Char) : Bool :=
  match containerID val with
  | some id => id ≠ []
  | none => false

/-- The `Valid` of a mode type: the value is one of the type's `constants`, or, when
`joinsContainer`, a `container:` value (`IsContainer`). -/
def validMode (constants : List (List Char)) (joinsContainer : Bool) (mode : List Char) : Bool :=
  decide (mode ∈ constants) || (joinsContainer && (containerID mode).isSome)

theorem validMode_iff {constants : List (List Char)} {joinsContainer : Bool} {mode : List Char} :
    validMode constants joinsContainer mode = true ↔
      mode ∈ constants ∨ (joinsContainer = true ∧ ∃ v, mode = "container:".toList ++ v) := by
  simp [validMode, Option.isSome_iff_exists, containerID_eq_some_iff]

structure CgroupnsMode where
  mode : List Char

/-- `CgroupnsMode.Valid`: `IsEmpty`, `IsPrivate` or `IsHost`. -/
def CgroupnsMode.valid (c : CgroupnsMode) : Bool :=
  validMode [[], "private".toList, "host".toList] false c.mode

structure IpcMode where
  mode : List Char

def IpcMode.isContainer (n : IpcMode) : Bool := (containerID n.mode).isSome

/-- `IpcMode.Valid`: `IsEmpty`, `IsNone`, `IsPrivate`, `IsHost`, `IsShareable` or `IsContainer`. -/
def IpcMode.valid (n : IpcMode) : Bool :=
  validMode [[], "none".toList, "private".toList, "host".toList, "shareable".toList] true n.mode

def IpcMode.container (n : IpcMode) : List Char := (containerID n.mode).getD []

structure UsernsMode where
  mode : List Char

/-- `UsernsMode.Valid`: empty or `IsHost`. -/
def UsernsMode.valid (n : UsernsMode) : Bool := validMode [[], "host".toList] false n.mode

structure CgroupSpec where
  spec : List Char

def CgroupSpec.isContainer (c : CgroupSpec) : Bool := (containerID c.spec).isSome

/-- `CgroupSpec.Valid`: empty or `IsContainer`. -/
def CgroupSpec.valid (c : CgroupSpec) : Bool := validMode [[]] true c.spec

def CgroupSpec.container (c : CgroupSpec) : List Char := (containerID c.spec).getD []

structure UTSMode where
  mode : List Char

/-- `UTSMode.Valid`: empty or `IsHost`. -/
def UTSMode.valid (n : UTSMode) : Bool := validMode [[], "host".toList] false n.mode

structure PidMode where
  mode : List Char

def PidMode.isHost (n : PidMode) : Bool := n.mode = "host".toList

def PidMode.isContainer (n : PidMode) : Bool := (containerID n.mode).isSome

def PidMode.isPrivate (n : PidMode) : Bool := !n.isHost && !n.isContainer

/-- `PidMode.Valid`: empty, `IsHost`, or `validContainer`, which asks for a reference. -/
def PidMode.valid (n : PidMode) : Bool := n.mode = [] || n.isHost || validContainer n.mode

def PidMode.container (n : PidMode) : List Char := (containerID n.mode).getD []

/-- A `container:` mode names the container after the prefix, for every mode type that has one. -/
theorem container_of_containerMode (ref : List Char) :
    (IpcMode.mk ("container:".toList ++ ref)).container = ref ∧
      (CgroupSpec.mk ("container:".toList ++ ref)).container = ref ∧
      (PidMode.mk ("container:".toList ++ ref)).container = ref ∧
      (NetworkMode.mk ("container:".toList ++ ref)).connectedContainer = ref := by
  have h : containerID ("container:".toList ++ ref) = some ref := containerID_eq_some_iff.mpr rfl
  simp only [IpcMode.container, CgroupSpec.container, PidMode.container,
    NetworkMode.connectedContainer, h, Option.getD_some, and_self]

theorem validContainer_iff {val : List Char} :
    validContainer val = true ↔ ∃ v, v ≠ [] ∧ val = "container:".toList ++ v := by
  unfold validContainer
  cases h : containerID val with
  | none =>
    simp only [Bool.false_eq_true, false_iff, not_exists, not_and]
    intro v _ hv
    rw [containerID_eq_some_iff.mpr hv] at h
    cases h
  | some v =>
    rw [containerID_eq_some_iff.mp h]
    simp

/-- `PidMode.Valid` is the shared pattern with `container:` modes, less the one value whose
reference is empty, which `IpcMode.Valid` and `CgroupSpec.Valid` accept. -/
theorem PidMode.valid_eq (m : List Char) :
    (PidMode.mk m).valid = (validMode [[], "host".toList] true m && m ≠ "container:".toList) := by
  have hC : ∀ v : List Char, "container:".toList ++ v = "container:".toList ↔ v = [] := by simp
  rw [Bool.eq_iff_iff]
  simp only [PidMode.valid, PidMode.isHost, Bool.or_eq_true, decide_eq_true_eq, validContainer_iff,
    Bool.and_eq_true, validMode_iff, List.mem_cons, List.not_mem_nil, or_false, true_and,
    Bool.not_eq_true', decide_eq_false_iff_not]
  constructor
  · rintro ((rfl | rfl) | ⟨v, hv, rfl⟩)
    · exact ⟨.inl (.inl rfl), by decide⟩
    · exact ⟨.inl (.inr rfl), by decide⟩
    · exact ⟨.inr ⟨v, rfl⟩, fun h => hv ((hC v).mp h)⟩
  · rintro ⟨(h | h) | ⟨v, rfl⟩, hne⟩
    · exact .inl (.inl h)
    · exact .inl (.inr h)
    · exact .inr ⟨v, fun hv => hne ((hC v).mpr hv), rfl⟩

/-- `RestartPolicy`, with the `int` retry count. -/
structure RestartPolicy where
  name : List Char
  maximumRetryCount : Int

def restartPolicyDisabled : List Char := "no".toList
def restartPolicyAlways : List Char := "always".toList
def restartPolicyOnFailure : List Char := "on-failure".toList
def restartPolicyUnlessStopped : List Char := "unless-stopped".toList

/-- `ValidateRestartPolicy`; an error is its text. -/
def validateRestartPolicy (policy : RestartPolicy) : Except (List Char) Unit :=
  if policy.name = restartPolicyAlways ∨ policy.name = restartPolicyUnlessStopped ∨
      policy.name = restartPolicyDisabled then
    if policy.maximumRetryCount ≠ 0 then
      .error ("invalid restart policy: maximum retry count can only be used with 'on-failure'".toList ++
        if policy.maximumRetryCount < 0 then " and cannot be negative".toList else [])
    else .ok ()
  else if policy.name = restartPolicyOnFailure then
    if policy.maximumRetryCount < 0 then
      .error "invalid restart policy: maximum retry count cannot be negative".toList
    else .ok ()
  else if policy.name = [] then .ok ()
  else
    .error ("invalid restart policy: unknown policy '".toList ++ policy.name ++
      "'; use one of 'no', 'always', 'on-failure', or 'unless-stopped'".toList)

/-- Every error of `ValidateRestartPolicy` names what it rejects: the retry count, or the
policy name, in quotes. -/
theorem validateRestartPolicy_error_names_field (p : RestartPolicy) (e : List Char)
    (h : validateRestartPolicy p = .error e) :
    "invalid restart policy: ".toList <+: e ∧
      ("maximum retry count".toList <:+: e ∨ ("'".toList ++ p.name ++ "'".toList) <:+: e) := by
  unfold validateRestartPolicy at h
  split_ifs at h <;> cases h
  iterate 3 exact ⟨⟨_, rfl⟩, .inl ⟨"invalid restart policy: ".toList, _, rfl⟩⟩
  refine ⟨⟨_, rfl⟩, .inr ⟨"invalid restart policy: unknown policy ".toList,
    "; use one of 'no', 'always', 'on-failure', or 'unless-stopped'".toList, ?_⟩⟩
  simp only [List.append_assoc]
  rfl

theorem validateRestartPolicy_defaults :
    ∀ name ∈ [[], restartPolicyDisabled, restartPolicyAlways, restartPolicyOnFailure,
      restartPolicyUnlessStopped], validateRestartPolicy ⟨name, 0⟩ = .ok () := by
  decide

end MobyDaemon.Container
