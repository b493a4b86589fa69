import UsageReport.Decimal.Numeral
import UsageReport.Json.Record
import UsageReport.Text.Blank

/-! The header of a capture: what the collector says about the monitored system and about itself.
Every section may be missing, and so may every entry of a section. -/

namespace UsageReport.Capture

open UsageReport.Json (Value Record Fields)

/-- The section `identity`. -/
structure Identity where
  hostname : String := ""

/-- The section `cgroup_config`. -/
structure CgroupConfig where
  name : String := ""
  version : Option Nat := none
  /-- Not positive where memory is unlimited. -/
  memoryLimit : Float := -1
  /-- In whole CPUs; not positive where CPU time is unlimited. -/
  cpuQuota : Float := -1
  cpus : String := ""

/-- The section `cmonitor`, about the collector. -/
structure Collector where
  version : String := ""
  collecting : String := ""
  username : String := ""
  /-- In seconds. -/
  interval : Float := 0
  sampleCount : Nat := 0

/-- An entry of the section `cpuinfo`. -/
structure CpuInfo where
  modelName : String := ""
  vendor : String := ""

/-- The section `os_release`. -/
structure OsRelease where
  name : String := ""
  prettyName : String := ""
  version : String := ""

/-- The header of a capture. The sections that are maps are in the order of their keys. -/
structure Header where
  identity : Option Identity := none
  cgroup : Option CgroupConfig := none
  collector : Option Collector := none
  cpus : Option (Fields CpuInfo) := none
  memory : Option (Fields Value) := none
  numaNodes : Option (Fields Value) := none
  os : Option OsRelease := none

def versionLimit : Nat := UInt32.size - 1

/-- A version as text: a number, possibly behind a `v`. -/
def versionOfText? (s : String) : Option Nat :=
  match Text.trim s.toList with
  | 'v' :: digits => Decimal.natural? versionLimit digits
  | 'V' :: digits => Decimal.natural? versionLimit digits
  | digits => Decimal.natural? versionLimit digits

/-- A version as a number or a text; any other value counts as no version. -/
def version? : Value → Option Nat
  | .string s => versionOfText? s
  | v => v.natural? versionLimit

namespace Identity

def ofJson? (v : Value) : Option Identity := do
  let r ← Record.ofValue? 1 v
  return { hostname := ← r.part? 0 "hostname" "" Value.string? }

def json (i : Identity) : Value := .object [("hostname", .string i.hostname)]

end Identity

namespace CgroupConfig

def ofJson? (v : Value) : Option CgroupConfig := do
  let r ← Record.ofValue? 5 v
  return {
    name := ← r.part? 0 "name" "" Value.string?
    version := ← r.part? 1 "version" none (some ∘ version?)
    memoryLimit := ← r.part? 2 "memory_limit_bytes" (-1) Value.float?
    cpuQuota := ← r.part? 3 "cpu_quota_perc" (-1) Value.float?
    cpus := ← r.part? 4 "cpus" "" Value.string? }

def json (c : CgroupConfig) : Value := .object [
  ("name", .string c.name),
  ("version", (c.version.map fun (n : Nat) => Value.integer n).getD .null),
  ("memory_limit_bytes", .real c.memoryLimit),
  ("cpu_quota_perc", .real c.cpuQuota),
  ("cpus", .string c.cpus)]

end CgroupConfig

namespace Collector

def ofJson? (v : Value) : Option Collector := do
  let r ← Record.ofValue? 5 v
  return {
    version := ← r.part? 0 "version" "" Value.string?
    collecting := ← r.part? 1 "collecting" "" Value.string?
    username := ← r.part? 2 "username" "" Value.string?
    interval := ← r.part? 3 "sample_interval_seconds" 0 Value.float?
    sampleCount := ← r.part? 4 "sample_num" 0 (Value.natural? (UInt64.size - 1)) }

def json (c : Collector) : Value := .object [
  ("version", .string c.version),
  ("collecting", .string c.collecting),
  ("username", .string c.username),
  ("sample_interval_seconds", .real c.interval),
  ("sample_num", .integer c.sampleCount)]

end Collector

namespace CpuInfo

def ofJson? (v : Value) : Option CpuInfo := do
  let r ← Record.ofValue? 2 v
  return {
    modelName := ← r.part? 0 "model_name" "" Value.string?
    vendor := ← r.part? 1 "vendor_id" "" Value.string? }

def json (c : CpuInfo) : Value := .object [
  ("model_name", .string c.modelName),
  ("vendor_id", .string c.vendor)]

end CpuInfo

namespace OsRelease

def ofJson? (v : Value) : Option OsRelease := do
  let r ← Record.ofValue? 3 v
  return {
    name := ← r.part? 0 "name" "" Value.string?
    prettyName := ← r.part? 1 "pretty_name" "" Value.string?
    version := ← r.part? 2 "version" "" Value.string? }

def json (o : OsRelease) : Value := .object [
  ("name", .string o.name),
  ("pretty_name", .string o.prettyName),
  ("version", .string o.version)]

end OsRelease

namespace Header

def ofJson? (v : Value) : Option Header := do
  let r ← Record.ofValue? 7 v
  let section? {α : Type} (index : Nat) (name : String) (read : Value → Option α) :=
    r.part? index name none (Value.optional? read)
  return {
    identity := ← section? 0 "identity" Identity.ofJson?
    cgroup := ← section? 1 "cgroup_config" CgroupConfig.ofJson?
    collector := ← section? 2 "cmonitor" Collector.ofJson?
    cpus := ← section? 3 "cpuinfo" (Value.sortedFields? CpuInfo.ofJson?)
    memory := ← section? 4 "proc_meminfo" (Value.sortedFields? some)
    numaNodes := ← section? 5 "numa_nodes" (Value.sortedFields? some)
    os := ← section? 6 "os_release" OsRelease.ofJson? }

/-- The header as a JSON value, with an entry for every section. -/
def json (h : Header) : Value :=
  let entry {α : Type} (write : α → Value) (part : Option α) : Value := (part.map write).getD .null
  .object [
    ("identity", entry Identity.json h.identity),
    ("cgroup_config", entry CgroupConfig.json h.cgroup),
    ("cmonitor", entry Collector.json h.collector),
    ("cpuinfo", entry (fun cpus => .object (cpus.map fun (key, cpu) => (key, cpu.json))) h.cpus),
    ("proc_meminfo", entry Value.object h.memory),
    ("numa_nodes", entry Value.object h.numaNodes),
    ("os_release", entry OsRelease.json h.os)]

def hostname? (h : Header) : Option String := (h.identity.map Identity.hostname).filter (· ≠ "")

/-- The version of the cgroup interface, one where it is not reported. -/
def cgroupVersion (h : Header) : Nat := (h.cgroup.bind CgroupConfig.version).getD 1

/-- The memory limit in bytes, none where memory is unlimited or no cgroup was monitored. -/
def memoryLimit? (h : Header) : Option Number :=
  (h.cgroup.map fun c => .ofFloat c.memoryLimit).filter (0 < ·)

/-- The limit of CPU time in percent of one CPU, none where it is unlimited. -/
def cpuQuotaPercent? (h : Header) : Option Number :=
  ((h.cgroup.map fun c => .ofFloat c.cpuQuota).filter (0 < ·)).map (· * 100)

/-- The number of CPUs in the section `cpuinfo`, none where that has no entries. -/
def cpuCount? (h : Header) : Option Nat := (h.cpus.map List.length).filter (0 < ·)

def cpuModel? (h : Header) : Option String :=
  h.cpus.bind fun cpus =>
    (cpus.map fun (_, cpu) => String.ofList (Text.trim cpu.modelName.toList)).find? (· ≠ "")

def numaNodeCount? (h : Header) : Option Nat := h.numaNodes.map List.length

end Header

end UsageReport.Capture
