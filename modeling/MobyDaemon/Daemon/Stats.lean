import Mathlib
import MobyDaemon.Daemon.NetworkSandbox

/-!
Container statistics on Unix (`stats_unix.go`). `stats` takes one sample of a running task's
metrics and converts it, by cgroup version, into the API's `StatsResponse` (`statsV1`,
`statsV2`); `getNetworkStats` resolves the container's network sandbox and converts the
counters of its interfaces.

A record keeps only the fields the conversion reads or sets, and its pointers are options.
`statsV1` dereferences the `Usage` and `Throttling` of a non-nil `CPU` without a check: the
model returns `none` there, for Go's panic. The entries of the block-I/O lists are taken as non-nil. The running task, its `Stats`,
the network controller and `containerNotFound` are outside the modelled code and are
parameters; a Go map is the list of its entries.

Proved here: both versions of `stats` report a memory limit no larger than the machine's
memory whenever the daemon knows it; the cgroup v2 block-I/O loop keeps each device's read and
write bytes, in device order; and the network statistics are those of the sandbox at the end of
the container's chain of `container:` network modes.
-/
namespace MobyDaemon.Daemon
open Relation

structure BlkioStatEntry where
  major : UInt64
  minor : UInt64
  op : List Char
  value : UInt64
  deriving DecidableEq, Repr

structure BlkioStats where
  ioServiceBytesRecursive : List BlkioStatEntry := []
  ioServicedRecursive : List BlkioStatEntry := []
  ioQueuedRecursive : List BlkioStatEntry := []
  ioServiceTimeRecursive : List BlkioStatEntry := []
  ioWaitTimeRecursive : List BlkioStatEntry := []
  ioMergedRecursive : List BlkioStatEntry := []
  ioTimeRecursive : List BlkioStatEntry := []
  sectorsRecursive : List BlkioStatEntry := []
  deriving DecidableEq, Repr

structure CPUUsage where
  totalUsage : UInt64 := 0
  percpuUsage : List UInt64 := []
  usageInKernelmode : UInt64 := 0
  usageInUsermode : UInt64 := 0
  deriving DecidableEq, Repr

structure ThrottlingData where
  periods : UInt64 := 0
  throttledPeriods : UInt64 := 0
  throttledTime : UInt64 := 0
  deriving DecidableEq, Repr

/-- The fields of `containertypes.CPUStats` set here; the stats collector sets the others. -/
structure CPUStats where
  cpuUsage : CPUUsage := {}
  throttlingData : ThrottlingData := {}
  deriving DecidableEq, Repr

structure MemoryStats where
  stats : List (List Char × UInt64) := []
  usage : UInt64 := 0
  maxUsage : UInt64 := 0
  limit : UInt64 := 0
  failcnt : UInt64 := 0
  deriving DecidableEq, Repr

structure PidsStats where
  current : UInt64 := 0
  limit : UInt64 := 0
  deriving DecidableEq, Repr

/-- The fields of `containertypes.StatsResponse` that `stats` sets; `read` is the sample's
time. -/
structure StatsResponse where
  read : Nat
  blkioStats : BlkioStats := {}
  cpuStats : CPUStats := {}
  memoryStats : MemoryStats := {}
  pidsStats : PidsStats := {}
  deriving DecidableEq, Repr

/-- `statsV1.PidsStat` and `statsV2.PidsStat`, which have the same two fields. -/
structure PidsStat where
  current : UInt64
  limit : UInt64

/-- The clamp both versions apply to the memory limit they report: "if the container does not
set memory limit, use the machineMemory". -/
def capToMachineMemory (machineMemory limit : UInt64) : UInt64 :=
  if limit > machineMemory ∧ machineMemory > 0 then machineMemory else limit

/-- `s.MemoryStats = m` and the clamp of its limit, as both versions do. -/
def StatsResponse.setMemoryStats (machineMemory : UInt64) (s : StatsResponse) (m : MemoryStats) :
    StatsResponse :=
  { s with memoryStats := { m with limit := capToMachineMemory machineMemory m.limit } }

/-- `s.PidsStats = containertypes.PidsStats{...}`, the same in both versions. -/
def StatsResponse.setPidsStats (s : StatsResponse) (pids : PidsStat) : StatsResponse :=
  { s with pidsStats := { current := pids.current, limit := pids.limit } }

namespace V1

structure BlkIOEntry where
  op : List Char
  major : UInt64
  minor : UInt64
  value : UInt64

structure BlkIOStat where
  ioServiceBytesRecursive : List BlkIOEntry
  ioServicedRecursive : List BlkIOEntry
  ioQueuedRecursive : List BlkIOEntry
  ioServiceTimeRecursive : List BlkIOEntry
  ioWaitTimeRecursive : List BlkIOEntry
  ioMergedRecursive : List BlkIOEntry
  ioTimeRecursive : List BlkIOEntry
  sectorsRecursive : List BlkIOEntry

structure CPUUsage where
  total : UInt64
  kernel : UInt64
  user : UInt64
  perCPU : List UInt64

structure Throttle where
  periods : UInt64
  throttledPeriods : UInt64
  throttledTime : UInt64

/-- `statsV1.CPUStat`, whose two records are pointers. -/
structure CPUStat where
  usage : Option CPUUsage
  throttling : Option Throttle

structure MemoryEntry where
  limit : UInt64
  usage : UInt64
  max : UInt64
  failcnt : UInt64

structure MemoryStat where
  cache : UInt64
  rss : UInt64
  rssHuge : UInt64
  mappedFile : UInt64
  dirty : UInt64
  writeback : UInt64
  pgPgIn : UInt64
  pgPgOut : UInt64
  pgFault : UInt64
  pgMajFault : UInt64
  inactiveAnon : UInt64
  activeAnon : UInt64
  inactiveFile : UInt64
  activeFile : UInt64
  unevictable : UInt64
  hierarchicalMemoryLimit : UInt64
  hierarchicalSwapLimit : UInt64
  totalCache : UInt64
  totalRSS : UInt64
  totalRSSHuge : UInt64
  totalMappedFile : UInt64
  totalDirty : UInt64
  totalWriteback : UInt64
  totalPgPgIn : UInt64
  totalPgPgOut : UInt64
  totalPgFault : UInt64
  totalPgMajFault : UInt64
  totalInactiveAnon : UInt64
  totalActiveAnon : UInt64
  totalInactiveFile : UInt64
  totalActiveFile : UInt64
  totalUnevictable : UInt64
  usage : Option MemoryEntry

structure Metrics where
  blkio : Option BlkIOStat
  cpu : Option CPUStat
  memory : Option MemoryStat
  pids : Option PidsStat

end V1

def copyBlkioEntry (entries : List V1.BlkIOEntry) : List BlkioStatEntry :=
  entries.map fun re => { major := re.major, minor := re.minor, op := re.op, value := re.value }

def V1.BlkIOStat.toBlkioStats (b : V1.BlkIOStat) : BlkioStats where
  ioServiceBytesRecursive := copyBlkioEntry b.ioServiceBytesRecursive
  ioServicedRecursive := copyBlkioEntry b.ioServicedRecursive
  ioQueuedRecursive := copyBlkioEntry b.ioQueuedRecursive
  ioServiceTimeRecursive := copyBlkioEntry b.ioServiceTimeRecursive
  ioWaitTimeRecursive := copyBlkioEntry b.ioWaitTimeRecursive
  ioMergedRecursive := copyBlkioEntry b.ioMergedRecursive
  ioTimeRecursive := copyBlkioEntry b.ioTimeRecursive
  sectorsRecursive := copyBlkioEntry b.sectorsRecursive

/-- The `CPUStats` that `statsV1` builds from a non-nil `CPU`; `none` where it dereferences a
nil `Usage` or `Throttling`. -/
def V1.CPUStat.toCPUStats (cpu : V1.CPUStat) : Option CPUStats :=
  match cpu.usage, cpu.throttling with
  | some usage, some throttling =>
      some
        { cpuUsage :=
            { totalUsage := usage.total
              percpuUsage := usage.perCPU
              usageInKernelmode := usage.kernel
              usageInUsermode := usage.user }
          throttlingData :=
            { periods := throttling.periods
              throttledPeriods := throttling.throttledPeriods
              throttledTime := throttling.throttledTime } }
  | _, _ => none

def V1.MemoryStat.raw (m : V1.MemoryStat) : List (List Char × UInt64) :=
  [("cache".toList, m.cache), ("rss".toList, m.rss), ("rss_huge".toList, m.rssHuge),
    ("mapped_file".toList, m.mappedFile), ("dirty".toList, m.dirty),
    ("writeback".toList, m.writeback), ("pgpgin".toList, m.pgPgIn),
    ("pgpgout".toList, m.pgPgOut), ("pgfault".toList, m.pgFault),
    ("pgmajfault".toList, m.pgMajFault), ("inactive_anon".toList, m.inactiveAnon),
    ("active_anon".toList, m.activeAnon), ("inactive_file".toList, m.inactiveFile),
    ("active_file".toList, m.activeFile), ("unevictable".toList, m.unevictable),
    ("hierarchical_memory_limit".toList, m.hierarchicalMemoryLimit),
    ("hierarchical_memsw_limit".toList, m.hierarchicalSwapLimit),
    ("total_cache".toList, m.totalCache), ("total_rss".toList, m.totalRSS),
    ("total_rss_huge".toList, m.totalRSSHuge), ("total_mapped_file".toList, m.totalMappedFile),
    ("total_dirty".toList, m.totalDirty), ("total_writeback".toList, m.totalWriteback),
    ("total_pgpgin".toList, m.totalPgPgIn), ("total_pgpgout".toList, m.totalPgPgOut),
    ("total_pgfault".toList, m.totalPgFault), ("total_pgmajfault".toList, m.totalPgMajFault),
    ("total_inactive_anon".toList, m.totalInactiveAnon),
    ("total_active_anon".toList, m.totalActiveAnon),
    ("total_inactive_file".toList, m.totalInactiveFile),
    ("total_active_file".toList, m.totalActiveFile),
    ("total_unevictable".toList, m.totalUnevictable)]

/-- The `MemoryStats` that `statsV1` builds from a non-nil `Memory`, before the clamp. -/
def V1.MemoryStat.toMemoryStats (m : V1.MemoryStat) : MemoryStats :=
  match m.usage with
  | some u =>
      { stats := m.raw, usage := u.usage, maxUsage := u.max, limit := u.limit, failcnt := u.failcnt }
  | none => { stats := m.raw }

/-- `statsV1` on the daemon's `machineMemory`; `none` is the panic of a nil `CPU.Usage` or
`CPU.Throttling`. -/
def statsV1 (machineMemory : UInt64) (s : StatsResponse) (stats : V1.Metrics) :
    Option StatsResponse := do
  let s := match stats.blkio with
    | some blkio => { s with blkioStats := blkio.toBlkioStats }
    | none => s
  let s ← match stats.cpu with
    | some cpu => cpu.toCPUStats.map fun cpuStats => { s with cpuStats }
    | none => some s
  let s := match stats.memory with
    | some memory => s.setMemoryStats machineMemory memory.toMemoryStats
    | none => s
  match stats.pids with
  | some pids => some (s.setPidsStats pids)
  | none => some s

namespace V2

structure IOEntry where
  major : UInt64
  minor : UInt64
  rbytes : UInt64
  wbytes : UInt64

structure IOStat where
  usage : List IOEntry

structure CPUStat where
  usageUsec : UInt64
  userUsec : UInt64
  systemUsec : UInt64
  nrPeriods : UInt64
  nrThrottled : UInt64
  throttledUsec : UInt64

/-- The fields of `statsV2.MemoryStat` read here, with Go's zero values. -/
structure MemoryStat where
  anon : UInt64 := 0
  file : UInt64 := 0
  kernelStack : UInt64 := 0
  slab : UInt64 := 0
  sock : UInt64 := 0
  shmem : UInt64 := 0
  fileMapped : UInt64 := 0
  fileDirty : UInt64 := 0
  fileWriteback : UInt64 := 0
  anonThp : UInt64 := 0
  inactiveAnon : UInt64 := 0
  activeAnon : UInt64 := 0
  inactiveFile : UInt64 := 0
  activeFile : UInt64 := 0
  unevictable : UInt64 := 0
  slabReclaimable : UInt64 := 0
  slabUnreclaimable : UInt64 := 0
  pgfault : UInt64 := 0
  pgmajfault : UInt64 := 0
  workingsetRefault : UInt64 := 0
  workingsetActivate : UInt64 := 0
  workingsetNodereclaim : UInt64 := 0
  pgrefill : UInt64 := 0
  pgscan : UInt64 := 0
  pgsteal : UInt64 := 0
  pgactivate : UInt64 := 0
  pgdeactivate : UInt64 := 0
  pglazyfree : UInt64 := 0
  pglazyfreed : UInt64 := 0
  thpFaultAlloc : UInt64 := 0
  thpCollapseAlloc : UInt64 := 0
  usage : UInt64 := 0
  usageLimit : UInt64 := 0

structure MemoryEvents where
  oom : UInt64

structure Metrics where
  io : Option IOStat
  cpu : Option CPUStat
  memory : Option MemoryStat
  memoryEvents : Option MemoryEvents
  pids : Option PidsStat

end V2

def V2.IOEntry.entries (re : V2.IOEntry) : List BlkioStatEntry :=
  [{ major := re.major, minor := re.minor, op := "read".toList, value := re.rbytes },
    { major := re.major, minor := re.minor, op := "write".toList, value := re.wbytes }]

def ioServiceBytes (usage : List V2.IOEntry) : List BlkioStatEntry :=
  usage.foldl (fun isbr re => isbr ++ re.entries) []

/-- The `CPUStats` that `statsV2` builds from a non-nil `CPU`: microseconds are scaled to
nanoseconds in 64-bit arithmetic. -/
def V2.CPUStat.toCPUStats (cpu : V2.CPUStat) : CPUStats where
  cpuUsage :=
    { totalUsage := cpu.usageUsec * 1000
      usageInKernelmode := cpu.systemUsec * 1000
      usageInUsermode := cpu.userUsec * 1000 }
  throttlingData :=
    { periods := cpu.nrPeriods
      throttledPeriods := cpu.nrThrottled
      throttledTime := cpu.throttledUsec * 1000 }

/-- The `MemoryStats` that `statsV2` builds from a non-nil `Memory`, before the clamp. -/
def V2.MemoryStat.toMemoryStats (m : V2.MemoryStat) : MemoryStats where
  stats :=
    [("anon".toList, m.anon), ("file".toList, m.file), ("kernel_stack".toList, m.kernelStack),
      ("slab".toList, m.slab), ("sock".toList, m.sock), ("shmem".toList, m.shmem),
      ("file_mapped".toList, m.fileMapped), ("file_dirty".toList, m.fileDirty),
      ("file_writeback".toList, m.fileWriteback), ("anon_thp".toList, m.anonThp),
      ("inactive_anon".toList, m.inactiveAnon), ("active_anon".toList, m.activeAnon),
      ("inactive_file".toList, m.inactiveFile), ("active_file".toList, m.activeFile),
      ("unevictable".toList, m.unevictable), ("slab_reclaimable".toList, m.slabReclaimable),
      ("slab_unreclaimable".toList, m.slabUnreclaimable), ("pgfault".toList, m.pgfault),
      ("pgmajfault".toList, m.pgmajfault), ("workingset_refault".toList, m.workingsetRefault),
      ("workingset_activate".toList, m.workingsetActivate),
      ("workingset_nodereclaim".toList, m.workingsetNodereclaim),
      ("pgrefill".toList, m.pgrefill), ("pgscan".toList, m.pgscan),
      ("pgsteal".toList, m.pgsteal), ("pgactivate".toList, m.pgactivate),
      ("pgdeactivate".toList, m.pgdeactivate), ("pglazyfree".toList, m.pglazyfree),
      ("pglazyfreed".toList, m.pglazyfreed), ("thp_fault_alloc".toList, m.thpFaultAlloc),
      ("thp_collapse_alloc".toList, m.thpCollapseAlloc)]
  usage := m.usage
  limit := m.usageLimit

def statsV2 (machineMemory : UInt64) (s : StatsResponse) (stats : V2.Metrics) : StatsResponse :=
  let s := match stats.io with
    | some io => { s with blkioStats := { ioServiceBytesRecursive := ioServiceBytes io.usage } }
    | none => s
  let s := match stats.cpu with
    | some cpu => { s with cpuStats := cpu.toCPUStats }
    | none => s
  let s := match stats.memory with
    | some memory =>
        let s := s.setMemoryStats machineMemory memory.toMemoryStats
        match stats.memoryEvents with
        | some events => { s with memoryStats := { s.memoryStats with failcnt := events.oom } }
        | none => s
    | none => s
  match stats.pids with
  | some pids => s.setPidsStats pids
  | none => s

/-- The switch of `stats` on the sample's metrics: cgroup v1, cgroup v2, or another type, given
by its `%+v` text. -/
inductive Metrics where
  | v1 (m : V1.Metrics)
  | v2 (m : V2.Metrics)
  | other (text : List Char)

/-- What the task's `Stats` returns: the sample's time and its metrics. -/
structure Metric where
  read : Nat
  metrics : Metrics

/-- The errors of `stats`: `containerNotFound` of the container's id, or an error's text. -/
inductive StatsError where
  | containerNotFound (id : List Char)
  | other (text : List Char)
  deriving DecidableEq, Repr

/-- `Daemon.stats` for container `c`, given the error of `GetRunningTask`, if any, and what the
running task's `Stats` returns; `none` is a panic of `statsV1`. -/
def stats (machineMemory : UInt64) (c : Container) (getRunningTask : Option (List Char))
    (taskStats : Except (List Char) Metric) : Option (Except StatsError StatsResponse) :=
  match getRunningTask with
  | some err => some (.error (.other err))
  | none =>
      match taskStats with
      | .error err =>
          some (.error (if "container not found".toList <:+: err then .containerNotFound c.id
            else .other err))
      | .ok cs =>
          let s : StatsResponse := { read := cs.read }
          match cs.metrics with
          | .v1 t => (statsV1 machineMemory s t).map .ok
          | .v2 t => some (.ok (statsV2 machineMemory s t))
          | .other t => some (.error (.other ("unexpected type of metrics ".toList ++ t)))

section Limit
variable {machineMemory : UInt64}

theorem capToMachineMemory_le (hm : 0 < machineMemory) (limit : UInt64) :
    capToMachineMemory machineMemory limit ≤ machineMemory := by
  by_cases h : limit > machineMemory ∧ machineMemory > 0
  · rw [capToMachineMemory, if_pos h]; exact UInt64.le_refl _
  · rw [capToMachineMemory, if_neg h]
    simp only [UInt64.le_def, UInt64.lt_def, gt_iff_lt, not_and, not_lt] at h hm ⊢
    bv_omega

theorem statsV1_memoryStats {s r : StatsResponse} {t : V1.Metrics}
    (h : statsV1 machineMemory s t = some r) :
    r.memoryStats = match t.memory with
      | some memory => (s.setMemoryStats machineMemory memory.toMemoryStats).memoryStats
      | none => s.memoryStats := by
  rcases t with ⟨blkio, _ | cpu, memory, pids⟩
  · rcases blkio <;> rcases memory <;> rcases pids <;> simp only [statsV1] at h <;>
      cases h <;> rfl
  · rcases hc : cpu.toCPUStats with _ | cpuStats <;> rcases blkio <;> rcases memory <;>
      rcases pids <;>
      simp only [statsV1, hc, Option.map_some', Option.map_none', Option.bind_eq_bind,
        Option.some_bind, Option.none_bind, reduceCtorEq, Option.some.injEq] at h <;>
      subst h <;> rfl

theorem statsV2_memoryStats (s : StatsResponse) (t : V2.Metrics) :
    (statsV2 machineMemory s t).memoryStats = match t.memory, t.memoryEvents with
      | some memory, some events =>
          { (s.setMemoryStats machineMemory memory.toMemoryStats).memoryStats with
            failcnt := events.oom }
      | some memory, none => (s.setMemoryStats machineMemory memory.toMemoryStats).memoryStats
      | none, _ => s.memoryStats := by
  rcases t with ⟨io, cpu, _ | memory, events, pids⟩
  · rcases io <;> rcases cpu <;> rcases pids <;> rfl
  · rcases io <;> rcases cpu <;> rcases events <;> rcases pids <;> rfl

theorem statsV1_limit_le (hm : 0 < machineMemory) {s r : StatsResponse} {t : V1.Metrics}
    (hs : s.memoryStats.limit ≤ machineMemory) (h : statsV1 machineMemory s t = some r) :
    r.memoryStats.limit ≤ machineMemory := by
  rw [statsV1_memoryStats h]
  rcases t.memory with _ | memory
  · exact hs
  · exact capToMachineMemory_le hm _

theorem statsV2_limit_le (hm : 0 < machineMemory) {s : StatsResponse} (t : V2.Metrics)
    (hs : s.memoryStats.limit ≤ machineMemory) :
    (statsV2 machineMemory s t).memoryStats.limit ≤ machineMemory := by
  rw [statsV2_memoryStats]
  rcases t.memory with _ | memory <;> rcases t.memoryEvents with _ | events
  · exact hs
  · exact hs
  · exact capToMachineMemory_le hm _
  · exact capToMachineMemory_le hm _

/-- Whenever the daemon knows the machine's memory, no response of `stats` reports a memory
limit above it, whichever the cgroup version. -/
theorem stats_memoryStats_limit_le (hm : 0 < machineMemory) {c : Container}
    {getRunningTask : Option (List Char)} {taskStats : Except (List Char) Metric}
    {s : StatsResponse} (h : stats machineMemory c getRunningTask taskStats = some (.ok s)) :
    s.memoryStats.limit ≤ machineMemory := by
  rcases getRunningTask with _ | err
  · rcases taskStats with err | ⟨read, _ | t | text⟩
    · simp only [stats] at h; split at h <;> cases h
    · simp only [stats, Option.map_eq_some', Except.ok.injEq] at h
      obtain ⟨r, hr, rfl⟩ := h
      exact statsV1_limit_le hm (Nat.zero_le _) hr
    · simp only [stats, Option.some.injEq, Except.ok.injEq] at h
      exact h ▸ statsV2_limit_le hm t (Nat.zero_le _)
    · simp [stats] at h
  · simp [stats] at h

end Limit

/-- A cgroup v2 memory block whose limit, 4 GiB, is above a daemon's 1 GiB. -/
def exampleV2Memory : V2.MemoryStat := { usage := 1048576, usageLimit := 4294967296 }

def exampleContainer : Container := ⟨"c1".toList, ⟨"bridge".toList⟩, "sb1".toList⟩

theorem stats_memoryStats_limit_le_clamped :
    (0 : UInt64) < 1073741824 ∧
      stats 1073741824 exampleContainer none (.ok ⟨0, .v2 ⟨none, none, some exampleV2Memory, none, none⟩⟩) =
        some (.ok (statsV2 1073741824 { read := 0 } ⟨none, none, some exampleV2Memory, none, none⟩)) ∧
      (statsV2 1073741824 { read := 0 }
        ⟨none, none, some exampleV2Memory, none, none⟩).memoryStats.limit ≤ 1073741824 :=
  ⟨by decide, rfl, @stats_memoryStats_limit_le 1073741824 (by decide) exampleContainer none
    (.ok ⟨0, .v2 ⟨none, none, some exampleV2Memory, none, none⟩⟩) _ rfl⟩

theorem foldl_append_entries (usage : List V2.IOEntry) (acc : List BlkioStatEntry) :
    usage.foldl (fun isbr re => isbr ++ re.entries) acc = acc ++ usage.flatMap V2.IOEntry.entries := by
  induction usage generalizing acc with
  | nil => simp
  | cons re usage ih => rw [List.foldl_cons, ih, List.flatMap_cons, List.append_assoc]

@[simp] theorem ioServiceBytes_eq_flatMap (usage : List V2.IOEntry) :
    ioServiceBytes usage = usage.flatMap V2.IOEntry.entries := by
  rw [ioServiceBytes, foldl_append_entries, List.nil_append]

theorem statsV2_blkioStats (machineMemory : UInt64) (s : StatsResponse) (t : V2.Metrics)
    (io : V2.IOStat) (h : t.io = some io) :
    (statsV2 machineMemory s t).blkioStats = { ioServiceBytesRecursive := ioServiceBytes io.usage } := by
  rcases t with ⟨io', cpu, _ | memory, events, pids⟩ <;> dsimp only at h <;> subst h
  · rcases cpu <;> rcases pids <;> rfl
  · rcases cpu <;> rcases events <;> rcases pids <;> rfl

theorem map_filter_flatMap_entries (usage : List V2.IOEntry) (op : List Char)
    (value : V2.IOEntry → UInt64)
    (hre : ∀ re : V2.IOEntry, (re.entries.filter (·.op = op)).map (fun e => (e.major, e.minor, e.value)) =
      [(re.major, re.minor, value re)]) :
    ((usage.flatMap V2.IOEntry.entries).filter (·.op = op)).map (fun e => (e.major, e.minor, e.value)) =
      usage.map fun re => (re.major, re.minor, value re) := by
  induction usage with
  | nil => rfl
  | cons re usage ih => rw [List.flatMap_cons, List.filter_append, List.map_append, hre, ih]; rfl

theorem length_flatMap_entries (usage : List V2.IOEntry) :
    (usage.flatMap V2.IOEntry.entries).length = 2 * usage.length := by
  induction usage with
  | nil => rfl
  | cons re usage ih =>
      rw [List.flatMap_cons, List.length_append, ih, List.length_cons]
      simp only [V2.IOEntry.entries, List.length_cons, List.length_nil]
      omega

/-- On cgroup v2, `IoServiceBytesRecursive` lists, for every device of `Io.Usage` in order, its
bytes read in a `read` entry and its bytes written in a `write` entry, and nothing else. -/
theorem statsV2_ioServiceBytesRecursive (machineMemory : UInt64) (s : StatsResponse)
    (t : V2.Metrics) (io : V2.IOStat) (h : t.io = some io) :
    let isbr := (statsV2 machineMemory s t).blkioStats.ioServiceBytesRecursive
    (isbr.filter (·.op = "read".toList)).map (fun e => (e.major, e.minor, e.value)) =
        io.usage.map (fun re => (re.major, re.minor, re.rbytes)) ∧
      (isbr.filter (·.op = "write".toList)).map (fun e => (e.major, e.minor, e.value)) =
        io.usage.map (fun re => (re.major, re.minor, re.wbytes)) ∧
      isbr.length = 2 * io.usage.length := by
  simp only [statsV2_blkioStats machineMemory s t io h, ioServiceBytes_eq_flatMap]
  exact ⟨map_filter_flatMap_entries _ _ _ fun re => by simp [V2.IOEntry.entries],
    map_filter_flatMap_entries _ _ _ fun re => by simp [V2.IOEntry.entries],
    length_flatMap_entries _⟩

def exampleV2Io : V2.IOStat := ⟨[⟨8, 0, 4096, 512⟩, ⟨8, 16, 0, 1024⟩]⟩

theorem statsV2_ioServiceBytesRecursive_two_devices :
    (⟨some exampleV2Io, none, none, none, none⟩ : V2.Metrics).io = some exampleV2Io ∧
      ((statsV2 0 { read := 0 } ⟨some exampleV2Io, none, none, none, none⟩).blkioStats.ioServiceBytesRecursive.filter
          (·.op = "read".toList)).map (fun e => (e.major, e.minor, e.value)) =
        exampleV2Io.usage.map (fun re => (re.major, re.minor, re.rbytes)) ∧
      ((statsV2 0 { read := 0 } ⟨some exampleV2Io, none, none, none, none⟩).blkioStats.ioServiceBytesRecursive.filter
          (·.op = "write".toList)).map (fun e => (e.major, e.minor, e.value)) =
        exampleV2Io.usage.map (fun re => (re.major, re.minor, re.wbytes)) ∧
      (statsV2 0 { read := 0 } ⟨some exampleV2Io, none, none, none, none⟩).blkioStats.ioServiceBytesRecursive.length =
        2 * exampleV2Io.usage.length :=
  ⟨rfl, statsV2_ioServiceBytesRecursive 0 { read := 0 } _ exampleV2Io rfl⟩

structure InterfaceStatistics where
  rxBytes : UInt64
  rxPackets : UInt64
  rxErrors : UInt64
  rxDropped : UInt64
  txBytes : UInt64
  txPackets : UInt64
  txErrors : UInt64
  txDropped : UInt64
  deriving DecidableEq, Repr

structure NetworkStats where
  rxBytes : UInt64
  rxPackets : UInt64
  rxErrors : UInt64
  rxDropped : UInt64
  txBytes : UInt64
  txPackets : UInt64
  txErrors : UInt64
  txDropped : UInt64
  deriving DecidableEq, Repr

def InterfaceStatistics.toNetworkStats (ifStats : InterfaceStatistics) : NetworkStats where
  rxBytes := ifStats.rxBytes
  rxPackets := ifStats.rxPackets
  rxErrors := ifStats.rxErrors
  rxDropped := ifStats.rxDropped
  txBytes := ifStats.txBytes
  txPackets := ifStats.txPackets
  txErrors := ifStats.txErrors
  txDropped := ifStats.txDropped

/-- What `getNetworkStats` asks the network controller: `SandboxByID`, then the `Statistics`
of the sandbox found. -/
structure NetController (Sandbox : Type) where
  sandboxByID : List Char → Except (List Char) Sandbox
  statistics : Sandbox → Except (List Char) (List (List Char × InterfaceStatistics))

/-- `getNetworkStats`, with the fuel of `getNetworkSandboxID`. -/
def getNetworkStats {Sandbox : Type} (store : ContainerStore) (ctrl : NetController Sandbox)
    (fuel : Nat) (c : Container) : Option (Except (List Char) (List (List Char × NetworkStats))) :=
  (getNetworkSandboxID store fuel c).map fun sandboxID => do
    let sb ← ctrl.sandboxByID (← sandboxID)
    let lnstats ← ctrl.statistics sb
    pure (lnstats.map fun (ifName, ifStats) => (ifName, ifStats.toNetworkStats))

/-- The network statistics of a container are those of the sandbox of the first container on
its chain of `container:` network modes that is not itself in container mode, each interface
with its counters. -/
theorem getNetworkStats_eq_ok {Sandbox : Type} {store : ContainerStore}
    {ctrl : NetController Sandbox} {fuel : Nat} {c : Container}
    {stats : List (List Char × NetworkStats)}
    (h : getNetworkStats store ctrl fuel c = some (.ok stats)) :
    ∃ a sb lnstats, ReflTransGen (Follows store) c a ∧ a.networkMode.isContainer = false ∧
      ctrl.sandboxByID a.sandboxID = .ok sb ∧ ctrl.statistics sb = .ok lnstats ∧
      stats = lnstats.map fun p => (p.1, p.2.toNetworkStats) := by
  obtain ⟨r, hr, h₁⟩ := Option.map_eq_some'.mp h
  obtain ⟨sandboxID, rfl, h₂⟩ := Except.bind_eq_ok.mp h₁
  obtain ⟨sb, hsb, h₃⟩ := Except.bind_eq_ok.mp h₂
  obtain ⟨lnstats, hst, h₄⟩ := Except.bind_eq_ok.mp h₃
  obtain rfl := (Except.ok.inj h₄).symm
  obtain ⟨a, hca, ⟨hc, hid⟩ | ⟨err, -, -, hid⟩⟩ := chainResult_of_getNetworkSandboxID hr
  · obtain rfl := Except.ok.inj hid
    exact ⟨a, sb, lnstats, hca, hc, hsb, hst, rfl⟩
  · cases hid

def emptyStore : ContainerStore := ⟨[], fun _ => .error "No such container".toList, fun _ _ h => by cases h⟩

def exampleController : NetController Unit :=
  ⟨fun _ => .ok (), fun _ => .ok [("eth0".toList, ⟨1500, 10, 0, 0, 900, 8, 0, 0⟩)]⟩

theorem getNetworkStats_eq_ok_bridge :
    getNetworkStats emptyStore exampleController 1 exampleContainer =
        some (.ok [("eth0".toList, ⟨1500, 10, 0, 0, 900, 8, 0, 0⟩)]) ∧
      ∃ a sb lnstats, ReflTransGen (Follows emptyStore) exampleContainer a ∧
        a.networkMode.isContainer = false ∧ exampleController.sandboxByID a.sandboxID = .ok sb ∧
        exampleController.statistics sb = .ok lnstats ∧
        [("eth0".toList, ⟨1500, 10, 0, 0, 900, 8, 0, 0⟩)] = lnstats.map fun p => (p.1, p.2.toNetworkStats) :=
  ⟨rfl, @getNetworkStats_eq_ok Unit emptyStore exampleController 1 exampleContainer _ rfl⟩

end MobyDaemon.Daemon
