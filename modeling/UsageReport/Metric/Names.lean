/-! The names of the cgroup memory counters, which depend on the version of the cgroup interface. -/

namespace UsageReport.Metric

/-- The paths of the memory counters of one version. -/
structure CounterNames where
  version : Nat
  memoryUsed : String
  memoryCached : String
  allocFailures : String
deriving DecidableEq, Repr

namespace CounterNames

def first : CounterNames := ⟨1, "stat.rss", "stat.cache", "failcnt"⟩

def second : CounterNames := ⟨2, "stat.anon", "stat.file", "events.oom_kill"⟩

/-- The names of a version. All versions but two share those of version one. -/
def ofVersion (version : Nat) : CounterNames := if version = 2 then second else first

end CounterNames

end UsageReport.Metric
