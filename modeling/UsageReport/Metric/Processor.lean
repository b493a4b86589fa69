import UsageReport.Metric.Context

/-! Charts of the time that logical CPUs spend, for the whole system and for the monitored cgroup:
one chart for each CPU and one with the busy time of all. -/

namespace UsageReport.Metric

open UsageReport.Capture (CpuIndex fieldOrZero lookupNumber?)
open UsageReport.Number (sum)
open UsageReport.Json (Object)
open UsageReport.Table (Row)
open UsageReport.Chart (Request Source)

def statSection : String := "stat"

def accountingSection : String := "cgroup_cpuacct_stats"

def percent : String := "%"

def timeAxis : String := "Time (%)"

def throttlingAxis : String := "Throttling (%)"

def quotaColumn : String := "Quota"

def throttlingColumn : String := "Throttling"

/-- The share of periods in which the cgroup was throttled, in percent; zero without periods. -/
def throttlingPercent (stats : Object) : Number :=
  let periods := (lookupNumber? stats "throttling.nr_periods").getD 0
  let throttled := (lookupNumber? stats "throttling.nr_throttled").getD 0
  if 0 < periods then 100 * throttled / periods else 0

structure Counter where
  key : String
  column : String
  /-- The counter is of time in which the CPU works. -/
  busy : Bool := true

/-- One account of CPU time: the section with its counters, and how its charts are labelled. -/
structure Account where
  sectionName : String
  counters : List Counter
  source : Source
  origin : String
  group : String

def systemAccount : Account where
  sectionName := statSection
  counters := [
    { key := "user", column := "User" },
    { key := "nice", column := "Nice" },
    { key := "sys", column := "System" },
    { key := "idle", column := "Idle", busy := false },
    { key := "iowait", column := "I/O wait" },
    { key := "hardirq", column := "Hard IRQ" },
    { key := "softirq", column := "Soft IRQ" },
    { key := "steal", column := "Steal" }]
  source := .baremetal
  origin := "baremetal stats"
  group := "Logical CPUs (baremetal)"

def cgroupAccount : Account where
  sectionName := accountingSection
  counters := [{ key := "user", column := "User" }, { key := "sys", column := "System" }]
  source := .cgroupAggregate
  origin := "CGroup stats"
  group := "Logical CPUs (CGroup)"

namespace Account

def cpuKey (cpu : CpuIndex) : String := "cpu" ++ toString cpu

def cpuLabel (cpu : CpuIndex) : String := "CPU" ++ toString cpu

def value (stats : Object) (cpu : CpuIndex) (counter : Counter) : Number :=
  fieldOrZero stats (cpuKey cpu) counter.key

def busyTime (a : Account) (stats : Object) (cpu : CpuIndex) : Number :=
  sum ((a.counters.filter Counter.busy).map (value stats cpu))

def cpuChart (a : Account) (c : Context) (cpu : CpuIndex) : Except Fault Chart := do
  let rows := (readings c.capture a.sectionName).map fun r =>
    Row.mk r.time (a.counters.map (value r.fields cpu))
  let table ← tabulate (a.counters.map fun counter => (counter.column, percent)) rows
  granted {
    title := "Logical CPU " ++ toString cpu ++ " (from " ++ a.origin ++ ")"
    source := a.source
    data := .timeSeries table
    combo := some (a.group, cpuLabel cpu)
    stacked := true
    axes := [(timeAxis, .auto)]
    margin := c.margin }

/-- The charts of all CPUs and, last, the chart of their busy times. -/
def charts (a : Account) (c : Context) (all : List CpuIndex → Except Fault Chart) :
    Except Fault (List Chart) := do
  let cpus := c.capture.logicalCpus a.sectionName
  if cpus = [] then return []
  return (← cpus.mapM (a.cpuChart c)) ++ [← all cpus]

end Account

/-- The busy times of all CPUs of the system. -/
def systemBusyChart (c : Context) (cpus : List CpuIndex) : Except Fault Chart := do
  let rows := (readings c.capture statSection).map fun r =>
    Row.mk r.time (cpus.map (systemAccount.busyTime r.fields))
  let table ← tabulate (cpus.map fun cpu => (Account.cpuLabel cpu, percent)) rows
  granted {
    title := "All logical CPUs of " ++ c.hostname ++ " (from baremetal stats)"
    source := .baremetal
    data := .timeSeries table
    button := some "All CPUs"
    axes := [(timeAxis, .auto)]
    margin := c.margin }

def unlimitedQuota : Number := -1

/-- The busy times of all CPUs of the cgroup, with its limit and its throttling. -/
def cgroupBusyChart (c : Context) (cpus : List CpuIndex) : Except Fault Chart := do
  let quota := c.capture.header.cpuQuotaPercent?.getD unlimitedQuota
  let rows := (readings c.capture accountingSection).map fun r =>
    Row.mk r.time (cpus.map (cgroupAccount.busyTime r.fields)
      ++ [quota, throttlingPercent r.fields])
  let columns := cpus.map Account.cpuLabel ++ [quotaColumn, throttlingColumn]
  let table ← tabulate (columns.map (·, percent)) rows
  granted {
    title := "All logical CPUs assigned to the CGroup (from CGroup stats)"
    source := .cgroupAggregate
    data := .timeSeries table
    button := some "All CPUs"
    axes := [(timeAxis, .auto), (throttlingAxis, .withMargin)]
    secondary := [throttlingColumn]
    margin := c.margin }

def systemProcessor (c : Context) : Except Fault (List Chart) :=
  systemAccount.charts c (systemBusyChart c)

def cgroupProcessor (c : Context) : Except Fault (List Chart) :=
  cgroupAccount.charts c (cgroupBusyChart c)

end UsageReport.Metric
