import Mathlib
import MobyDaemon.Text
import MobyDaemon.Bufio

/-!
`readSystemCPUUsage`, which reads the leading `cpu` lines of `/proc/stat` through a
1024-byte `bufio.Reader`. The loop runs on the bytes left to read, with `cpuUsage` and
`cpuNum` as `uint64` and `uint32` accumulators; it is embedded with a bound on the number
of lines it reads, which `ReadLine` makes more than enough since every line it returns
consumes at least one byte. The leading cpu block is read off the same `ReadLine`, and the
loop is shown to compute, from the block alone, the count of `cpuN` lines and the usage of
the last `cpu ` line, the latter in wrapping `uint64` arithmetic.
-/
namespace MobyDaemon.Daemon
open Bufio Strconv

def clockTicksPerSecond : UInt64 := 100

/-- `nanoSecondsPerSecond`: the untyped constant `1e9`, converted to `uint64` by the
product it appears in. -/
def nanoSecondsPerSecond : UInt64 := 1000000000

/-- A byte string as the characters of the same codes, which is how `strconv` reads the
digits of a field. -/
def latin1 (bs : List UInt8) : List Char := bs.map fun b => Char.ofNat b.toNat

inductive CPUUsageError where
  | scan
  | fieldCount
  | convert (value : List UInt8) (err : NumError)
  deriving DecidableEq, Repr

def CPUUsageError.message : CPUUsageError → List Char
  | .scan => "error scanning /proc/stat file: EOF".toList
  | .fieldCount => "invalid number of cpu fields".toList
  | .convert i err =>
      "unable to convert value ".toList ++ latin1 i ++ " to int: ".toList ++ err.message

/-- The loop over `parts[1:8]`, from the ticks added so far. -/
def addClockTicks (totalClockTicks : UInt64) : List (List UInt8) → Except CPUUsageError UInt64
  | [] => .ok totalClockTicks
  | i :: is =>
      match parseUint (latin1 i) with
      | .ok v => addClockTicks (totalClockTicks + v.toUInt64) is
      | .error err => .error (.convert i err)

/-- The `cpu ` branch of the loop body: the usage the line sets. -/
def cpuLineUsage (line : List UInt8) : Except CPUUsageError UInt64 :=
  let parts := fields line
  if parts.length < 8 then .error .fieldCount
  else do
    let totalClockTicks ← addClockTicks 0 ((parts.drop 1).take 7)
    return totalClockTicks * nanoSecondsPerSecond / clockTicksPerSecond

/-- `"cpu"` -/
def cpuPrefix : List UInt8 := [99, 112, 117]

/-- The loop of `readSystemCPUUsage`, reading at most `fuel` lines. -/
def readSystemCPUUsageLoop :
    Nat → List UInt8 → UInt64 → UInt32 → Except CPUUsageError (UInt64 × UInt32)
  | 0, _, _, _ => .error .scan
  | fuel + 1, input, cpuUsage, cpuNum =>
      match readLine 1024 input with
      | none => .error .scan
      | some (l, rest) =>
          if l.isPartial ∨ l.data.length < 4 then .ok (cpuUsage, cpuNum)
          else if l.data.take 3 ≠ cpuPrefix then .ok (cpuUsage, cpuNum)
          else
            let b := l.data.getD 3 0
            match (if b = 32 then cpuLineUsage l.data else .ok cpuUsage) with
            | .error e => .error e
            | .ok cpuUsage =>
                readSystemCPUUsageLoop fuel rest cpuUsage
                  (if 48 ≤ b ∧ b ≤ 57 then cpuNum + 1 else cpuNum)

def readSystemCPUUsage (input : List UInt8) : Except CPUUsageError (UInt64 × UInt32) :=
  readSystemCPUUsageLoop (input.length + 1) input 0 0

def ascii (s : String) : List UInt8 := s.toList.map fun c => c.toNat.toUInt8

/-- With a total of `18446744074` ticks the product by `1e9` passes `2^64` and wraps, so the
usage is `2904483` nanoseconds rather than `184467440740000000`. -/
theorem readSystemCPUUsage_wraps :
    readSystemCPUUsage (ascii "cpu  18446744074 0 0 0 0 0 0 0\nintr 0\n") = .ok (2904483, 0) := by
  decide

/-- A cpu block that ends the input makes the next `ReadLine` report `io.EOF`, which the
loop returns as an error. `/proc/stat` itself always goes on after its cpu lines. -/
theorem readSystemCPUUsage_block_at_end :
    readSystemCPUUsage (ascii "cpu  1 2 3 4 5 6 7 8\ncpu0 1 2 3 4 5 6 7 8\n") = .error .scan := by
  decide

/-- The line ends the loop: partial, shorter than four bytes, or not starting with `cpu`. -/
def EndsBlock (l : Line) : Prop :=
  l.isPartial = true ∨ l.data.length < 4 ∨ l.data.take 3 ≠ cpuPrefix

instance : DecidablePred EndsBlock := fun _ => inferInstanceAs (Decidable (_ ∨ _ ∨ _))

/-- The lines of the leading cpu block as `ReadLine` returns them, and whether the input
ended, with `io.EOF`, before a line ended the block. -/
def cpuBlockAux : Nat → List UInt8 → List (List UInt8) × Bool
  | 0, _ => ([], true)
  | fuel + 1, input =>
      match readLine 1024 input with
      | none => ([], true)
      | some (l, rest) =>
          if EndsBlock l then ([], false)
          else (l.data :: (cpuBlockAux fuel rest).1, (cpuBlockAux fuel rest).2)

def cpuBlock (input : List UInt8) : List (List UInt8) × Bool :=
  cpuBlockAux (input.length + 1) input

def isTotalLine (line : List UInt8) : Bool := decide (line.getD 3 0 = 32)

def isCpuNumberLine (line : List UInt8) : Bool := decide (48 ≤ line.getD 3 0 ∧ line.getD 3 0 ≤ 57)

/-- A field `ParseUint` reads as a 64-bit count. -/
def IsTickField (f : List UInt8) : Prop :=
  f ≠ [] ∧ AllDigits (latin1 f) ∧ decimalValue (latin1 f) ≤ maxUint64

instance : DecidablePred IsTickField := fun _ => inferInstanceAs (Decidable (_ ∧ _ ∧ _))

/-- A `cpu ` line the loop body accepts: eight fields at least, the seven after the label
counts. -/
def WellFormedTotalLine (line : List UInt8) : Prop :=
  8 ≤ (fields line).length ∧ ∀ f ∈ ((fields line).drop 1).take 7, IsTickField f

instance : DecidablePred WellFormedTotalLine := fun _ => inferInstanceAs (Decidable (_ ∧ _))

def lineTicks (line : List UInt8) : Nat :=
  ((((fields line).drop 1).take 7).map fun f => decimalValue (latin1 f)).sum

/-- The usage a `cpu ` line sets: its ticks, added and multiplied by `1e9` in `uint64`,
over `100`. -/
def usageOf (line : List UInt8) : UInt64 :=
  UInt64.ofNat (lineTicks line) * nanoSecondsPerSecond / clockTicksPerSecond

/-- The usage set by the last `cpu ` line of `block`, or `cpuUsage` if there is none. -/
def lastUsage (cpuUsage : UInt64) (block : List (List UInt8)) : UInt64 :=
  block.foldl (fun u l => if isTotalLine l then usageOf l else u) cpuUsage

theorem lastUsage_eq_getLast (cpuUsage : UInt64) (block : List (List UInt8)) :
    lastUsage cpuUsage block = ((block.filter isTotalLine).getLast?).elim cpuUsage usageOf := by
  induction block generalizing cpuUsage with
  | nil => rfl
  | cons l ls ih =>
      simp only [lastUsage, List.foldl_cons] at ih ⊢
      rw [ih]
      by_cases ht : isTotalLine l
      · rw [if_pos ht, List.filter_cons_of_pos ht, List.getLast?_cons]
        cases (ls.filter isTotalLine).getLast? <;> rfl
      · rw [if_neg ht, List.filter_cons_of_neg ht]

theorem uint64_toNat_ofNat (n : Nat) : (UInt64.ofNat n).toNat = n % 2 ^ 64 := rfl

theorem uint32_toNat_ofNat (n : Nat) : (UInt32.ofNat n).toNat = n % 2 ^ 32 := rfl

theorem addClockTicks_eq_ok (t : UInt64) (parts : List (List UInt8))
    (h : ∀ f ∈ parts, IsTickField f) :
    addClockTicks t parts =
      .ok (t + UInt64.ofNat (parts.map fun f => decimalValue (latin1 f)).sum) := by
  induction parts generalizing t with
  | nil => simp [addClockTicks]
  | cons f fs ih =>
      obtain ⟨hne, hd, hv⟩ := h f (List.mem_cons_self _ _)
      have hparse : parseUint (latin1 f) = .ok (decimalValue (latin1 f)) :=
        parseUint_eq_ok.mpr ⟨by simpa [latin1] using hne, hd, hv, rfl⟩
      simp only [addClockTicks, hparse]
      rw [ih _ fun g hg => h g (List.mem_cons_of_mem _ hg)]
      congr 1
      apply UInt64.ext
      simp only [UInt64.toNat_add, uint64_toNat_ofNat, Nat.toUInt64, List.map_cons,
        List.sum_cons, UInt64.size]
      omega

theorem addClockTicks_error (t : UInt64) (parts : List (List UInt8))
    (h : ∃ f ∈ parts, ¬IsTickField f) : ∃ e, addClockTicks t parts = .error e := by
  induction parts generalizing t with
  | nil => simp at h
  | cons f fs ih =>
      rw [addClockTicks]
      split
      · rename_i v hv
        refine ih _ ?_
        obtain ⟨g, hg, hbad⟩ := h
        rcases List.mem_cons.mp hg with rfl | hg
        · obtain ⟨hne, hd, hle, -⟩ := parseUint_eq_ok.mp hv
          exact absurd ⟨by simpa [latin1] using hne, hd, hle⟩ hbad
        · exact ⟨g, hg, hbad⟩
      · exact ⟨_, rfl⟩

theorem cpuLineUsage_eq_ok {line : List UInt8} (h : WellFormedTotalLine line) :
    cpuLineUsage line = .ok (usageOf line) := by
  have hsum := addClockTicks_eq_ok 0 _ h.2
  rw [zero_add] at hsum
  rw [cpuLineUsage, if_neg (by have := h.1; omega)]
  simp only [hsum, usageOf, lineTicks]
  rfl

theorem cpuLineUsage_error {line : List UInt8} (h : ¬WellFormedTotalLine line) :
    ∃ e, cpuLineUsage line = .error e := by
  rw [cpuLineUsage]
  split
  · exact ⟨_, rfl⟩
  · have hbad : ∃ f ∈ ((fields line).drop 1).take 7, ¬IsTickField f := by
      by_contra hall
      push_neg at hall
      exact h ⟨by omega, hall⟩
    obtain ⟨e, he⟩ := addClockTicks_error 0 _ hbad
    exact ⟨e, by simp only [he]; rfl⟩

theorem usageOf_toNat (line : List UInt8) :
    (usageOf line).toNat = lineTicks line % 2 ^ 64 * 10 ^ 9 % 2 ^ 64 / 100 := by
  simp only [usageOf, UInt64.toNat_div, UInt64.toNat_mul, uint64_toNat_ofNat, UInt64.size]
  rfl

/-- The usage is the exact count of nanoseconds, `lineTicks * 10^7`, just when the product
by `1e9` stays below `2^64`. -/
theorem usageOf_toNat_eq_iff (line : List UInt8) :
    (usageOf line).toNat = lineTicks line * 10 ^ 7 ↔ lineTicks line * 10 ^ 9 < 2 ^ 64 := by
  rw [usageOf_toNat]
  omega

section Loop
variable {fuel : Nat} {input rest : List UInt8} {l : Line} {cu : UInt64} {cn : UInt32}

theorem cpuBlockAux_succ_of_endsBlock (h : readLine 1024 input = some (l, rest))
    (he : EndsBlock l) : cpuBlockAux (fuel + 1) input = ([], false) := by
  simp only [cpuBlockAux, h, if_pos he]

theorem cpuBlockAux_succ_of_not_endsBlock (h : readLine 1024 input = some (l, rest))
    (he : ¬EndsBlock l) :
    cpuBlockAux (fuel + 1) input =
      (l.data :: (cpuBlockAux fuel rest).1, (cpuBlockAux fuel rest).2) := by
  simp only [cpuBlockAux, h, if_neg he]

theorem readSystemCPUUsageLoop_succ_of_endsBlock (h : readLine 1024 input = some (l, rest))
    (he : EndsBlock l) : readSystemCPUUsageLoop (fuel + 1) input cu cn = .ok (cu, cn) := by
  simp only [EndsBlock] at he
  simp only [readSystemCPUUsageLoop, h]
  by_cases h1 : l.isPartial = true ∨ l.data.length < 4
  · rw [if_pos h1]
  · rw [if_neg h1, if_pos (show l.data.take 3 ≠ cpuPrefix by tauto)]

theorem readSystemCPUUsageLoop_succ_of_not_endsBlock (h : readLine 1024 input = some (l, rest))
    (he : ¬EndsBlock l) :
    readSystemCPUUsageLoop (fuel + 1) input cu cn =
      match (if isTotalLine l.data then cpuLineUsage l.data else .ok cu) with
      | .error e => .error e
      | .ok cu => readSystemCPUUsageLoop fuel rest cu
          (if isCpuNumberLine l.data then cn + 1 else cn) := by
  simp only [EndsBlock, not_or, not_not] at he
  simp only [readSystemCPUUsageLoop, h, if_neg (show ¬(l.isPartial = true ∨ l.data.length < 4)
    by tauto), he.2.2, ne_eq, not_true_eq_false, if_false, isTotalLine, isCpuNumberLine,
    decide_eq_true_eq]

@[simp] theorem not_isCpuNumberLine_of_isTotalLine {line : List UInt8} (h : isTotalLine line) :
    isCpuNumberLine line = false := by
  simp only [isTotalLine, decide_eq_true_eq] at h
  rw [isCpuNumberLine, h]
  decide

theorem uint32_add_one_add_ofNat (cn : UInt32) (c : Nat) :
    cn + 1 + UInt32.ofNat c = cn + UInt32.ofNat (c + 1) := by
  apply UInt32.ext
  simp only [UInt32.toNat_add, uint32_toNat_ofNat, UInt32.toNat_ofNat, UInt32.size]
  omega

/-- The loop, from any accumulators, on a block whose `cpu ` lines are well formed: an
error if the input ends in the block, and otherwise the usage of the last `cpu ` line and
the count of `cpuN` lines. -/
theorem readSystemCPUUsageLoop_of_wellFormed (hfuel : input.length < fuel)
    (hwf : ∀ line ∈ (cpuBlockAux fuel input).1, isTotalLine line → WellFormedTotalLine line) :
    readSystemCPUUsageLoop fuel input cu cn =
      if (cpuBlockAux fuel input).2 then .error .scan
      else .ok (lastUsage cu (cpuBlockAux fuel input).1,
        cn + UInt32.ofNat ((cpuBlockAux fuel input).1.countP isCpuNumberLine)) := by
  induction fuel generalizing input cu cn with
  | zero => omega
  | succ fuel ih =>
      cases hr : readLine 1024 input with
      | none => simp only [readSystemCPUUsageLoop, cpuBlockAux, hr, if_true]
      | some p =>
          obtain ⟨l, rest⟩ := p
          have hrest : rest.length < fuel := by
            have := readLine_length_lt (by norm_num) hr; omega
          by_cases he : EndsBlock l
          · rw [readSystemCPUUsageLoop_succ_of_endsBlock hr he,
              cpuBlockAux_succ_of_endsBlock hr he]
            simp [lastUsage]
          · rw [cpuBlockAux_succ_of_not_endsBlock hr he] at hwf ⊢
            have hwf' := fun line hl => hwf line (List.mem_cons_of_mem _ hl)
            rw [readSystemCPUUsageLoop_succ_of_not_endsBlock hr he]
            by_cases ht : isTotalLine l.data
            · rw [if_pos ht, cpuLineUsage_eq_ok (hwf _ (List.mem_cons_self _ _) ht),
                not_isCpuNumberLine_of_isTotalLine ht]
              simp only [ih hrest hwf', lastUsage, List.foldl_cons, if_pos ht,
                List.countP_cons, not_isCpuNumberLine_of_isTotalLine ht]
              rfl
            · rw [if_neg ht]
              simp only [ih hrest hwf', lastUsage, List.foldl_cons, if_neg ht, List.countP_cons]
              cases isCpuNumberLine l.data
              · rfl
              · simp only [if_true, uint32_add_one_add_ofNat]

theorem readSystemCPUUsageLoop_error_of_malformed (hfuel : input.length < fuel)
    (hbad : ∃ line ∈ (cpuBlockAux fuel input).1, isTotalLine line ∧ ¬WellFormedTotalLine line) :
    ∃ e, readSystemCPUUsageLoop fuel input cu cn = .error e := by
  induction fuel generalizing input cu cn with
  | zero => omega
  | succ fuel ih =>
      cases hr : readLine 1024 input with
      | none => simp only [cpuBlockAux, hr] at hbad; simp at hbad
      | some p =>
          obtain ⟨l, rest⟩ := p
          have hrest : rest.length < fuel := by
            have := readLine_length_lt (by norm_num) hr; omega
          by_cases he : EndsBlock l
          · rw [cpuBlockAux_succ_of_endsBlock hr he] at hbad; simp at hbad
          · rw [cpuBlockAux_succ_of_not_endsBlock hr he] at hbad
            rw [readSystemCPUUsageLoop_succ_of_not_endsBlock hr he]
            split
            · exact ⟨_, rfl⟩
            · rename_i cu' hcu
              refine ih hrest ?_
              obtain ⟨line, hl, ht, hw⟩ := hbad
              rcases List.mem_cons.mp hl with rfl | hl
              · obtain ⟨e, he⟩ := cpuLineUsage_error hw
                rw [if_pos ht, he] at hcu
                cases hcu
              · exact ⟨line, hl, ht, hw⟩

end Loop

/-- `readSystemCPUUsage` on an input whose cpu block has only well-formed `cpu ` lines:
`io.EOF` as an error if the block ends the input, and otherwise the usage set by the last
`cpu ` line of the block (`0` if there is none) and the number of its `cpuN` lines, counted
in `uint32`. -/
theorem readSystemCPUUsage_of_wellFormed (input : List UInt8)
    (hwf : ∀ line ∈ (cpuBlock input).1, isTotalLine line → WellFormedTotalLine line) :
    readSystemCPUUsage input =
      if (cpuBlock input).2 then .error .scan
      else .ok (lastUsage 0 (cpuBlock input).1,
        UInt32.ofNat ((cpuBlock input).1.countP isCpuNumberLine)) := by
  rw [readSystemCPUUsage, readSystemCPUUsageLoop_of_wellFormed (Nat.lt_succ_self _) hwf, zero_add]
  rfl

theorem readSystemCPUUsage_of_wellFormed_stat :
    (∀ line ∈ (cpuBlock (ascii "cpu  1 2 3 4 5 6 7 8\ncpu0 1 2 3 4 5 6 7 8\nintr 0\n")).1,
      isTotalLine line → WellFormedTotalLine line) ∧
    readSystemCPUUsage (ascii "cpu  1 2 3 4 5 6 7 8\ncpu0 1 2 3 4 5 6 7 8\nintr 0\n") =
      .ok (280000000, 1) := by
  refine ⟨by decide, ?_⟩
  rw [readSystemCPUUsage_of_wellFormed _ (by decide)]
  decide

/-- A malformed `cpu ` line in the block makes `readSystemCPUUsage` fail. -/
theorem readSystemCPUUsage_error_of_malformed (input line : List UInt8)
    (hl : line ∈ (cpuBlock input).1) (ht : isTotalLine line) (hbad : ¬WellFormedTotalLine line) :
    ∃ e, readSystemCPUUsage input = .error e :=
  readSystemCPUUsageLoop_error_of_malformed (Nat.lt_succ_self _) ⟨line, hl, ht, hbad⟩

theorem readSystemCPUUsage_error_of_malformed_short :
    ∃ e, readSystemCPUUsage (ascii "cpu  1 2 3\nintr 0\n") = .error e :=
  readSystemCPUUsage_error_of_malformed _ (ascii "cpu  1 2 3") (by decide) (by decide) (by decide)

/-- On an input whose cpu block is followed by a line, as `/proc/stat` always is: when every
`cpu ` line of the block is well formed, `readSystemCPUUsage` succeeds and counts the block's
`cpuN` lines (fewer than `2^32` of them); when one is malformed, it fails. -/
theorem readSystemCPUUsage_cpuNum (input : List UInt8) (hend : (cpuBlock input).2 = false) :
    ((∀ line ∈ (cpuBlock input).1, isTotalLine line → WellFormedTotalLine line) →
      (cpuBlock input).1.countP isCpuNumberLine < 2 ^ 32 →
      ∃ cpuUsage cpuNum, readSystemCPUUsage input = .ok (cpuUsage, cpuNum) ∧
        cpuNum.toNat = (cpuBlock input).1.countP isCpuNumberLine) ∧
    ((∃ line ∈ (cpuBlock input).1, isTotalLine line ∧ ¬WellFormedTotalLine line) →
      ∃ e, readSystemCPUUsage input = .error e) := by
  refine ⟨fun hwf hlt => ⟨lastUsage 0 (cpuBlock input).1,
      UInt32.ofNat ((cpuBlock input).1.countP isCpuNumberLine), ?_,
      (uint32_toNat_ofNat _).trans (Nat.mod_eq_of_lt hlt)⟩,
    readSystemCPUUsageLoop_error_of_malformed (Nat.lt_succ_self _)⟩
  rw [readSystemCPUUsage, readSystemCPUUsageLoop_of_wellFormed (Nat.lt_succ_self _) hwf, zero_add]
  exact if_neg (ne_true_of_eq_false hend)

theorem readSystemCPUUsage_cpuNum_stat :
    (cpuBlock (ascii "cpu  1 2 3 4 5 6 7 8\ncpu0 1 2 3 4 5 6 7 8\nintr 0\n")).2 = false ∧
    ((∀ line ∈ (cpuBlock (ascii "cpu  1 2 3 4 5 6 7 8\ncpu0 1 2 3 4 5 6 7 8\nintr 0\n")).1,
        isTotalLine line → WellFormedTotalLine line) →
      (cpuBlock (ascii "cpu  1 2 3 4 5 6 7 8\ncpu0 1 2 3 4 5 6 7 8\nintr 0\n")).1.countP
        isCpuNumberLine < 2 ^ 32 →
      ∃ cpuUsage cpuNum,
        readSystemCPUUsage (ascii "cpu  1 2 3 4 5 6 7 8\ncpu0 1 2 3 4 5 6 7 8\nintr 0\n") =
          .ok (cpuUsage, cpuNum) ∧
        cpuNum.toNat =
          (cpuBlock (ascii "cpu  1 2 3 4 5 6 7 8\ncpu0 1 2 3 4 5 6 7 8\nintr 0\n")).1.countP
            isCpuNumberLine) ∧
    ((∃ line ∈ (cpuBlock (ascii "cpu  1 2 3 4 5 6 7 8\ncpu0 1 2 3 4 5 6 7 8\nintr 0\n")).1,
        isTotalLine line ∧ ¬WellFormedTotalLine line) →
      ∃ e, readSystemCPUUsage (ascii "cpu  1 2 3 4 5 6 7 8\ncpu0 1 2 3 4 5 6 7 8\nintr 0\n") =
        .error e) :=
  ⟨by decide, readSystemCPUUsage_cpuNum _ (by decide)⟩

/-- For an input the loop accepts, the usage is the one the last `cpu ` line sets: its ticks
times `1e9`, reduced mod `2^64`, over `100`, which is the count in nanoseconds just when the
product stays below `2^64`. -/
theorem readSystemCPUUsage_cpuUsage (input line : List UInt8)
    (hwf : ∀ line ∈ (cpuBlock input).1, isTotalLine line → WellFormedTotalLine line)
    (hend : (cpuBlock input).2 = false)
    (hlast : ((cpuBlock input).1.filter isTotalLine).getLast? = some line) :
    ∃ cpuNum, readSystemCPUUsage input = .ok (usageOf line, cpuNum) ∧
      (usageOf line).toNat = lineTicks line % 2 ^ 64 * 10 ^ 9 % 2 ^ 64 / 100 ∧
      ((usageOf line).toNat = lineTicks line * 10 ^ 7 ↔ lineTicks line * 10 ^ 9 < 2 ^ 64) := by
  refine ⟨UInt32.ofNat ((cpuBlock input).1.countP isCpuNumberLine), ?_, usageOf_toNat line,
    usageOf_toNat_eq_iff line⟩
  rw [readSystemCPUUsage_of_wellFormed input hwf, hend, lastUsage_eq_getLast, hlast]
  rfl

theorem readSystemCPUUsage_cpuUsage_wraps :
    ∃ cpuNum, readSystemCPUUsage (ascii "cpu  18446744074 0 0 0 0 0 0 0\nintr 0\n") =
        .ok (usageOf (ascii "cpu  18446744074 0 0 0 0 0 0 0"), cpuNum) ∧
      (usageOf (ascii "cpu  18446744074 0 0 0 0 0 0 0")).toNat =
        lineTicks (ascii "cpu  18446744074 0 0 0 0 0 0 0") % 2 ^ 64 * 10 ^ 9 % 2 ^ 64 / 100 ∧
      ((usageOf (ascii "cpu  18446744074 0 0 0 0 0 0 0")).toNat =
          lineTicks (ascii "cpu  18446744074 0 0 0 0 0 0 0") * 10 ^ 7 ↔
        lineTicks (ascii "cpu  18446744074 0 0 0 0 0 0 0") * 10 ^ 9 < 2 ^ 64) :=
  readSystemCPUUsage_cpuUsage _ _ (by decide) (by decide) (by decide)

end MobyDaemon.Daemon
