import Mathlib
import MobyDaemon.Text

/-!
Device cgroup rules as `AppendDevicePermissionsFromCgroupRules` reads them. The rule
expression `^([acb]) ([0-9]+|\*):([0-9]+|\*) ([rwm]{1,3})$` is embedded as a recogniser
that returns the submatch list of `FindAllStringSubmatch`: the expression is anchored at
both ends and no group can hold the separator that follows it, so a rule has at most one
match, and its groups are read off at the first space, the first colon and the next space.
The grammar the rules are compared with is read independently from the rule's four parts.
-/
namespace MobyDaemon.Oci
open Strconv

/-- `specs.LinuxDeviceCgroup`; `Major` and `Minor` are `*int64`. -/
structure LinuxDeviceCgroup where
  allow : Bool
  type : List Char
  major : Option Int
  minor : Option Int
  access : List Char
  deriving DecidableEq, Repr

/-- `([0-9]+|\*)` -/
def IsDeviceNumberText (s : List Char) : Bool :=
  s = ['*'] || (!s.isEmpty && s.all Char.isDigit)

/-- `([rwm]{1,3})` -/
def IsAccessText (s : List Char) : Bool :=
  1 ≤ s.length && s.length ≤ 3 && s.all (· ∈ ['r', 'w', 'm'])

/-- `deviceCgroupRuleRegex.FindAllStringSubmatch(rule, -1)`. -/
def findAllStringSubmatch (rule : List Char) : List (List (List Char)) :=
  match rule with
  | t :: ' ' :: rest =>
      match cut ':' rest with
      | some (major, rest') =>
          match cut ' ' rest' with
          | some (minor, access) =>
              if t ∈ ['a', 'c', 'b'] ∧ IsDeviceNumberText major ∧ IsDeviceNumberText minor ∧
                  IsAccessText access
              then [[rule, [t], major, minor, access]] else []
          | none => []
      | none => []
  | _ => []

def quoted (msg rule : List Char) : List Char := msg ++ ": '".toList ++ rule ++ ['\'']

/-- The major and minor branches of the loop body, which differ only in the field name of
their error: `*` is `-1`, anything else goes through `strconv.ParseInt(s, 10, 64)`. -/
def parseDeviceNumber (field rule s : List Char) : Except (List Char) Int :=
  if s = ['*'] then .ok (-1)
  else match parseInt s with
    | .ok n => .ok n
    | .error _ =>
        .error (quoted ("invalid ".toList ++ field ++ " value in device cgroup rule format".toList)
          rule)

/-- The body of the rule loop: the permission one rule appends. -/
def devicePermission (deviceCgroupRule : List Char) : Except (List Char) LinuxDeviceCgroup :=
  match findAllStringSubmatch deviceCgroupRule with
  | [_, type, major, minor, access] :: _ => do
      let major ← parseDeviceNumber "major".toList deviceCgroupRule major
      let minor ← parseDeviceNumber "minor".toList deviceCgroupRule minor
      return { allow := true, type := type, major := some major, minor := some minor,
               access := access }
  | _ => .error (quoted "invalid device cgroup rule format".toList deviceCgroupRule)

def appendDevicePermissionsFromCgroupRules (devPermissions : List LinuxDeviceCgroup) :
    List (List Char) → Except (List Char) (List LinuxDeviceCgroup)
  | [] => .ok devPermissions
  | deviceCgroupRule :: rules => do
      let dPermissions ← devicePermission deviceCgroupRule
      appendDevicePermissionsFromCgroupRules (devPermissions ++ [dPermissions]) rules

example : appendDevicePermissionsFromCgroupRules [] ["c 1:3 mr".toList, "b *:007 w".toList] =
    .ok [⟨true, ['c'], some 1, some 3, "mr".toList⟩, ⟨true, ['b'], some (-1), some 7, ['w']⟩] := by
  decide

/-- A rule read as the grammar `T MAJ:MIN ACC` of its four parts. -/
structure RuleFields where
  type : Char
  major : List Char
  minor : List Char
  access : List Char

namespace RuleFields

def render (f : RuleFields) : List Char :=
  f.type :: ' ' :: (f.major ++ ':' :: (f.minor ++ ' ' :: f.access))

/-- What the expression's groups require of the parts. -/
def MatchesExpr (f : RuleFields) : Prop :=
  f.type ∈ ['a', 'c', 'b'] ∧ IsDeviceNumberText f.major ∧ IsDeviceNumberText f.minor ∧
    IsAccessText f.access

/-- `MAJ` and `MIN`: `*`, or a decimal digit string whose value is at most `2^63 - 1`. -/
def DeviceNumberField (s : List Char) : Prop :=
  s = ['*'] ∨ (s ≠ [] ∧ AllDigits s ∧ decimalValue s ≤ 2 ^ 63 - 1)

def Valid (f : RuleFields) : Prop :=
  f.type ∈ ['a', 'b', 'c'] ∧ DeviceNumberField f.major ∧ DeviceNumberField f.minor ∧
    1 ≤ f.access.length ∧ f.access.length ≤ 3 ∧ ∀ c ∈ f.access, c ∈ ['r', 'w', 'm']

def deviceNumber (s : List Char) : Int := if s = ['*'] then -1 else decimalValue s

def entry (f : RuleFields) : LinuxDeviceCgroup :=
  { allow := true, type := [f.type], major := some (deviceNumber f.major),
    minor := some (deviceNumber f.minor), access := f.access }

/-- A wildcard never coincides with an explicit device number. -/
theorem deviceNumber_eq_neg_one_iff (s : List Char) : deviceNumber s = -1 ↔ s = ['*'] := by
  by_cases h : s = ['*'] <;> simp [deviceNumber, h]

end RuleFields

theorem not_mem_of_isDeviceNumberText {s : List Char} {c : Char} (h : IsDeviceNumberText s)
    (hstar : c ≠ '*') (hdigit : ¬c.isDigit) : c ∉ s := by
  intro hc
  simp only [IsDeviceNumberText, Bool.or_eq_true, decide_eq_true_eq, Bool.and_eq_true,
    Bool.not_eq_true', List.isEmpty_eq_false, List.all_eq_true] at h
  rcases h with rfl | ⟨-, hall⟩
  · exact hstar (List.mem_singleton.mp hc)
  · exact hdigit (hall c hc)

theorem findAllStringSubmatch_render {f : RuleFields} (h : f.MatchesExpr) :
    findAllStringSubmatch f.render = [[f.render, [f.type], f.major, f.minor, f.access]] := by
  have hmajor : ':' ∉ f.major := not_mem_of_isDeviceNumberText h.2.1 (by decide) (by decide)
  have hminor : ' ' ∉ f.minor := not_mem_of_isDeviceNumberText h.2.2.1 (by decide) (by decide)
  simp only [findAllStringSubmatch, RuleFields.render, cut_append _ hmajor, cut_append _ hminor]
  exact if_pos h

theorem findAllStringSubmatch_eq_cons {rule : List Char} {m : List (List Char)}
    {ms : List (List (List Char))} (h : findAllStringSubmatch rule = m :: ms) :
    ∃ f : RuleFields, f.MatchesExpr ∧ rule = f.render ∧
      m = [rule, [f.type], f.major, f.minor, f.access] ∧ ms = [] := by
  unfold findAllStringSubmatch at h
  split at h
  · rename_i t rest
    split at h
    · rename_i major rest' hmajor
      split at h
      · rename_i minor access hminor
        split at h
        · rename_i hexpr
          obtain ⟨rfl, rfl⟩ := List.cons.inj h
          obtain ⟨rfl, -⟩ := eq_of_cut_eq_some hmajor
          obtain ⟨rfl, -⟩ := eq_of_cut_eq_some hminor
          exact ⟨⟨t, major, minor, access⟩, hexpr, rfl, rfl, rfl⟩
        · cases h
      · cases h
    · cases h
  · cases h

theorem parseDeviceNumber_eq_ok {field rule s : List Char} {n : Int}
    (h : IsDeviceNumberText s) :
    parseDeviceNumber field rule s = .ok n ↔
      RuleFields.DeviceNumberField s ∧ n = RuleFields.deviceNumber s := by
  by_cases hstar : s = ['*']
  · subst hstar
    simp only [parseDeviceNumber, RuleFields.DeviceNumberField, RuleFields.deviceNumber,
      true_or, true_and, Except.ok.injEq, ↓reduceIte]
    exact eq_comm
  · have hs : s ≠ [] ∧ AllDigits s := by
      simpa [IsDeviceNumberText, hstar, AllDigits] using h
    have hfield : RuleFields.DeviceNumberField s ↔ decimalValue s < 2 ^ 63 := by
      simp only [RuleFields.DeviceNumberField, hstar, false_or, hs.1, hs.2, ne_eq,
        not_false_eq_true, true_and]
      constructor <;> intro <;> omega
    rw [parseDeviceNumber, if_neg hstar, parseInt_of_allDigits hs.1 hs.2, hfield,
      RuleFields.deviceNumber, if_neg hstar]
    by_cases hv : decimalValue s < 2 ^ 63
    · rw [if_pos hv]
      simp only [Except.ok.injEq, hv, true_and]
      exact eq_comm
    · rw [if_neg hv]
      simp only [hv, false_and, iff_false]
      exact fun h => nomatch h

theorem isDeviceNumberText_of_field {s : List Char} (h : RuleFields.DeviceNumberField s) :
    IsDeviceNumberText s := by
  rcases h with rfl | ⟨hne, hd, -⟩
  · rfl
  · simpa [IsDeviceNumberText, hne, AllDigits] using Or.inr hd

/-- The grammar is the expression's syntax together with the `int64` bound on the numbers. -/
theorem RuleFields.valid_iff (f : RuleFields) :
    f.Valid ↔ f.MatchesExpr ∧ DeviceNumberField f.major ∧ DeviceNumberField f.minor := by
  have htype : f.type ∈ ['a', 'b', 'c'] ↔ f.type ∈ ['a', 'c', 'b'] := by simp [or_comm, or_left_comm]
  have haccess : IsAccessText f.access ↔
      1 ≤ f.access.length ∧ f.access.length ≤ 3 ∧ ∀ c ∈ f.access, c ∈ ['r', 'w', 'm'] := by
    simp [IsAccessText, and_assoc]
  simp only [Valid, MatchesExpr, htype, haccess]
  constructor
  · rintro ⟨ht, hmaj, hmin, hacc⟩
    exact ⟨⟨ht, isDeviceNumberText_of_field hmaj, isDeviceNumberText_of_field hmin, hacc⟩,
      hmaj, hmin⟩
  · rintro ⟨⟨ht, -, -, hacc⟩, hmaj, hmin⟩
    exact ⟨ht, hmaj, hmin, hacc⟩

theorem devicePermission_eq_ok {rule : List Char} {d : LinuxDeviceCgroup} :
    devicePermission rule = .ok d ↔ ∃ f : RuleFields, rule = f.render ∧ f.Valid ∧ d = f.entry := by
  constructor
  · intro h
    unfold devicePermission at h
    split at h
    · rename_i type major minor access _ hm
      obtain ⟨f, hsyn, rfl, hmatch, -⟩ := findAllStringSubmatch_eq_cons hm
      simp only [List.cons.injEq] at hmatch
      obtain ⟨-, rfl, rfl, rfl, rfl, -⟩ := hmatch
      obtain ⟨a, ha, h⟩ := Except.bind_eq_ok.mp h
      obtain ⟨b, hb, h⟩ := Except.bind_eq_ok.mp h
      obtain ⟨hmaj, rfl⟩ := (parseDeviceNumber_eq_ok hsyn.2.1).mp ha
      obtain ⟨hmin, rfl⟩ := (parseDeviceNumber_eq_ok hsyn.2.2.1).mp hb
      cases h
      exact ⟨f, rfl, (f.valid_iff).mpr ⟨hsyn, hmaj, hmin⟩, rfl⟩
    · cases h
  · rintro ⟨f, rfl, hf, rfl⟩
    obtain ⟨hsyn, hmaj, hmin⟩ := (f.valid_iff).mp hf
    rw [devicePermission, findAllStringSubmatch_render hsyn]
    simp only [(parseDeviceNumber_eq_ok hsyn.2.1).mpr ⟨hmaj, rfl⟩,
      (parseDeviceNumber_eq_ok hsyn.2.2.1).mpr ⟨hmin, rfl⟩]
    rfl

/-- Rules are parsed exactly by their grammar: the call succeeds iff every rule is, as a
whole string, a rendering of valid parts, and then it appends one entry per rule, in order. -/
theorem appendDevicePermissionsFromCgroupRules_eq_ok (devPermissions : List LinuxDeviceCgroup)
    (rules : List (List Char)) (out : List LinuxDeviceCgroup) :
    appendDevicePermissionsFromCgroupRules devPermissions rules = .ok out ↔
      ∃ fs : List RuleFields, List.Forall₂ (fun rule f => rule = f.render ∧ f.Valid) rules fs ∧
        out = devPermissions ++ fs.map RuleFields.entry := by
  induction rules generalizing devPermissions with
  | nil => simp [appendDevicePermissionsFromCgroupRules, eq_comm]
  | cons rule rules ih =>
      simp only [appendDevicePermissionsFromCgroupRules, Except.bind_eq_ok, ih,
        devicePermission_eq_ok, List.forall₂_cons_left_iff]
      constructor
      · rintro ⟨d, ⟨f, rfl, hf, rfl⟩, fs, hfs, rfl⟩
        exact ⟨f :: fs, ⟨f, fs, ⟨rfl, hf⟩, hfs, rfl⟩, by simp⟩
      · rintro ⟨_, ⟨f, fs, ⟨rfl, hf⟩, hfs, rfl⟩, rfl⟩
        exact ⟨f.entry, ⟨f, rfl, hf, rfl⟩, fs, hfs, by simp⟩

end MobyDaemon.Oci
