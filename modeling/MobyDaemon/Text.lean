import Mathlib

/-!
The library string functions the modelled code calls, over the characters of a Go string:
`strings.Cut` with a one-character separator, and `strconv.ParseUint` and
`strconv.ParseInt` in base 10 with bit size 64. The digit loop keeps Go's order of
checks: the first non-digit is a syntax error and the first digit that takes the value
past `2^64 - 1` is a range error, whichever comes first.
-/
namespace MobyDaemon

instance instDecidableEqExcept {ε α : Type} [DecidableEq ε] [DecidableEq α] :
    DecidableEq (Except ε α)
  | .ok a, .ok b => if h : a = b then isTrue (h ▸ rfl) else isFalse fun e => h (Except.ok.inj e)
  | .error a, .error b =>
      if h : a = b then isTrue (h ▸ rfl) else isFalse fun e => h (Except.error.inj e)
  | .ok _, .error _ => isFalse fun e => Except.noConfusion e
  | .error _, .ok _ => isFalse fun e => Except.noConfusion e

theorem Except.bind_eq_ok {ε α β : Type} {x : Except ε α} {f : α → Except ε β} {b : β} :
    x >>= f = .ok b ↔ ∃ a, x = .ok a ∧ f a = .ok b := by
  cases x <;> simp [bind, Except.bind]

theorem Except.map_eq_ok {ε α β : Type} {x : Except ε α} {f : α → β} {b : β} :
    x.map f = .ok b ↔ ∃ a, x = .ok a ∧ f a = b := by
  cases x <;> simp [Except.map]

/-- `strings.Cut(s, sep)` for a one-character separator: the text before and after the
first `sep`, or `none` when `sep` does not occur. -/
def cut (sep : Char) : List Char → Option (List Char × List Char)
  | [] => none
  | c :: cs => if c = sep then some ([], cs) else (cut sep cs).map fun p => (c :: p.1, p.2)

@[simp] theorem cut_append {sep : Char} {before : List Char} (after : List Char) (h : sep ∉ before) :
    cut sep (before ++ sep :: after) = some (before, after) := by
  induction before with
  | nil => simp [cut]
  | cons b bs ih =>
      have hb : b ≠ sep := fun hb => h (hb ▸ List.mem_cons_self _ _)
      simp [cut, hb, ih (fun hs => h (List.mem_cons_of_mem _ hs))]

theorem eq_of_cut_eq_some {sep : Char} {s before after : List Char}
    (h : cut sep s = some (before, after)) : s = before ++ sep :: after ∧ sep ∉ before := by
  induction s generalizing before with
  | nil => simp [cut] at h
  | cons c cs ih =>
      by_cases hc : c = sep
      · simp only [cut, if_pos hc, Option.some.injEq, Prod.mk.injEq] at h
        obtain ⟨rfl, rfl⟩ := h
        simp [hc]
      · simp only [cut, if_neg hc, Option.map_eq_some', Prod.exists, Prod.mk.injEq] at h
        obtain ⟨a, b, hab, rfl, rfl⟩ := h
        obtain ⟨rfl, ha⟩ := ih hab
        simp [ha, Ne.symm hc]

theorem cut_eq_some {sep : Char} {s before after : List Char} :
    cut sep s = some (before, after) ↔ s = before ++ sep :: after ∧ sep ∉ before :=
  ⟨eq_of_cut_eq_some, fun ⟨hs, hb⟩ => hs ▸ cut_append after hb⟩

@[simp] theorem cut_eq_none {sep : Char} {s : List Char} : cut sep s = none ↔ sep ∉ s := by
  induction s with
  | nil => simp [cut]
  | cons c cs ih =>
      by_cases hc : c = sep
      · simp [cut, hc]
      · simp [cut, hc, ih, Ne.symm hc]

namespace Strconv

/-- `strconv.ErrSyntax` and `strconv.ErrRange`. -/
inductive NumErrorKind where
  | invalid
  | outOfRange
  deriving DecidableEq, Repr

/-- `strconv.NumError`: the function, the input and the cause. -/
structure NumError where
  func : List Char
  num : List Char
  err : NumErrorKind
  deriving DecidableEq, Repr

def NumErrorKind.message : NumErrorKind → List Char
  | .invalid => "invalid syntax".toList
  | .outOfRange => "value out of range".toList

/-- `NumError.Error`. The quoting of `Num` is `strconv.Quote`, which only differs from
plain double quotes on non-printable bytes. -/
def NumError.message (e : NumError) : List Char :=
  "strconv.".toList ++ e.func ++ ": parsing \"".toList ++ e.num ++ "\": ".toList ++
    e.err.message

def maxUint64 : Nat := 2 ^ 64 - 1

def digitValue (c : Char) : Nat := c.toNat - '0'.toNat

def decimalStep (n : Nat) (c : Char) : Nat := n * 10 + digitValue c

def decimalValue (ds : List Char) : Nat := ds.foldl decimalStep 0

/-- The digit loop of `ParseUint(s, 10, 64)` from the accumulated value `n`. Go's two
overflow tests (`n >= cutoff`, then `n1 < n`) together say that `n * 10 + d` exceeds
`maxUint64`. -/
def parseUintDigits (n : Nat) : List Char → Except NumErrorKind Nat
  | [] => .ok n
  | c :: cs =>
      if c.isDigit then
        if decimalStep n c > maxUint64 then .error .outOfRange
        else parseUintDigits (decimalStep n c) cs
      else .error .invalid

/-- `strconv.ParseUint(s, 10, 64)`. -/
def parseUint (s : List Char) : Except NumError Nat :=
  if s = [] then .error ⟨"ParseUint".toList, s, .invalid⟩
  else match parseUintDigits 0 s with
    | .ok n => .ok n
    | .error k => .error ⟨"ParseUint".toList, s, k⟩

/-- The bound checks `ParseInt` makes on the unsigned value `un` of `s`. -/
def signedValue (s : List Char) (neg : Bool) (un : Nat) : Except NumError Int :=
  if !neg && 2 ^ 63 ≤ un then .error ⟨"ParseInt".toList, s, .outOfRange⟩
  else if neg && 2 ^ 63 < un then .error ⟨"ParseInt".toList, s, .outOfRange⟩
  else .ok (if neg then -(un : Int) else un)

/-- `strconv.ParseInt(s, 10, 64)`: an optional sign, then `ParseUint` of the rest, with a
range error of `ParseUint` carried on to the signed bound checks as Go does. -/
def parseInt (s : List Char) : Except NumError Int :=
  match s with
  | [] => .error ⟨"ParseInt".toList, s, .invalid⟩
  | c :: cs =>
      let neg := c == '-'
      let digits := if c == '+' || c == '-' then cs else c :: cs
      match parseUint digits with
      | .ok un => signedValue s neg un
      | .error e =>
          if e.err = .outOfRange then signedValue s neg maxUint64
          else .error ⟨"ParseInt".toList, s, e.err⟩

def AllDigits (s : List Char) : Prop := ∀ c ∈ s, c.isDigit

instance (s : List Char) : Decidable (AllDigits s) :=
  inferInstanceAs (Decidable (∀ c ∈ s, c.isDigit))

theorem le_foldl_decimalStep (cs : List Char) (n : Nat) : n ≤ cs.foldl decimalStep n := by
  induction cs generalizing n with
  | nil => exact le_rfl
  | cons c cs ih => exact le_trans (by simp only [decimalStep]; omega) (ih (decimalStep n c))

theorem parseUintDigits_of_allDigits (ds : List Char) {n : Nat} (hn : n ≤ maxUint64)
    (hd : AllDigits ds) :
    parseUintDigits n ds =
      if ds.foldl decimalStep n ≤ maxUint64 then .ok (ds.foldl decimalStep n)
      else .error .outOfRange := by
  induction ds generalizing n with
  | nil => simp [parseUintDigits, hn]
  | cons c cs ih =>
      have hc : c.isDigit := hd c (List.mem_cons_self _ _)
      have hle := le_foldl_decimalStep cs (decimalStep n c)
      rw [parseUintDigits, if_pos hc, List.foldl_cons]
      by_cases hlt : decimalStep n c > maxUint64
      · rw [if_pos hlt, if_neg (by omega)]
      · rw [if_neg hlt, ih (by omega) (fun x hx => hd x (List.mem_cons_of_mem _ hx))]

theorem parseUint_of_allDigits {ds : List Char} (hne : ds ≠ []) (hd : AllDigits ds) :
    parseUint ds = if decimalValue ds ≤ maxUint64 then .ok (decimalValue ds)
      else .error ⟨"ParseUint".toList, ds, .outOfRange⟩ := by
  rw [parseUint, if_neg hne, parseUintDigits_of_allDigits ds (Nat.zero_le _) hd, decimalValue]
  by_cases hv : ds.foldl decimalStep 0 ≤ maxUint64 <;> simp [hv]

theorem allDigits_of_parseUintDigits_eq_ok {n : Nat} {ds : List Char} {v : Nat}
    (h : parseUintDigits n ds = .ok v) : AllDigits ds := by
  induction ds generalizing n with
  | nil => exact fun _ hc => absurd hc (List.not_mem_nil _)
  | cons c cs ih =>
      unfold parseUintDigits at h
      split at h
      · rename_i hc
        split at h
        · cases h
        · intro x hx
          rcases List.mem_cons.mp hx with rfl | hx
          · exact hc
          · exact ih h x hx
      · cases h

theorem parseUint_eq_ok {s : List Char} {v : Nat} :
    parseUint s = .ok v ↔ s ≠ [] ∧ AllDigits s ∧ decimalValue s ≤ maxUint64 ∧ v = decimalValue s := by
  constructor
  · intro h
    have hne : s ≠ [] := by rintro rfl; simp [parseUint] at h
    have hd : AllDigits s := by
      rw [parseUint, if_neg hne] at h
      split at h
      · exact allDigits_of_parseUintDigits_eq_ok ‹_›
      · cases h
    rw [parseUint_of_allDigits hne hd] at h
    split at h
    · exact ⟨hne, hd, ‹_›, (Except.ok.inj h).symm⟩
    · cases h
  · rintro ⟨hne, hd, hv, rfl⟩
    rw [parseUint_of_allDigits hne hd, if_pos hv]

theorem signedValue_false (s : List Char) (un : Nat) :
    signedValue s false un =
      if un < 2 ^ 63 then .ok un else .error ⟨"ParseInt".toList, s, .outOfRange⟩ := by
  simp only [signedValue, Bool.not_false, Bool.true_and, Bool.false_and, decide_eq_true_eq,
    Bool.false_eq_true, if_false]
  by_cases h : un < 2 ^ 63
  · rw [if_pos h, if_neg (by omega)]
  · rw [if_neg h, if_pos (by omega)]

/-- On a non-empty digit string `ParseInt` returns its decimal value exactly when the value
is at most `2^63 - 1`, and a range error otherwise: a digit string has no sign for `ParseInt`
to pick off. -/
theorem parseInt_of_allDigits {ds : List Char} (hne : ds ≠ []) (hd : AllDigits ds) :
    parseInt ds = if decimalValue ds < 2 ^ 63 then .ok (decimalValue ds)
      else .error ⟨"ParseInt".toList, ds, .outOfRange⟩ := by
  obtain ⟨c, cs, rfl⟩ := List.exists_cons_of_ne_nil hne
  have hc : c.isDigit := hd c (List.mem_cons_self _ _)
  have hplus : (c == '+') = false := by
    rw [beq_eq_false_iff_ne]; rintro rfl; exact absurd hc (by decide)
  have hneg : (c == '-') = false := by
    rw [beq_eq_false_iff_ne]; rintro rfl; exact absurd hc (by decide)
  simp only [parseInt]
  rw [hplus, hneg, Bool.or_false, if_neg Bool.false_ne_true, parseUint_of_allDigits hne hd]
  by_cases hv : decimalValue (c :: cs) ≤ maxUint64
  · rw [if_pos hv]
    exact signedValue_false _ _
  · rw [if_neg hv]
    show signedValue _ false maxUint64 = _
    have h63 : ¬decimalValue (c :: cs) < 2 ^ 63 := by unfold maxUint64 at hv; omega
    rw [signedValue_false, if_neg (by unfold maxUint64; omega), if_neg h63]

end Strconv
end MobyDaemon
