import Mathlib
import UsageReport.Proofs.Statistics.Layout
import UsageReport.Proofs.Statistics.Summary

/-! Every sample counts once for each quantity that was collected, as a reading or as skipped. The
readings are shown in the order of the samples. -/

namespace UsageReport.Statistics

open UsageReport.Capture (Sample lookupNumber?)
open UsageReport.Json (Value)
open UsageReport.Metric (CounterNames accountingSection cgroupMemorySection throttlingPercent)

/-! ### Quantities -/

namespace Quantity

/-- One more sample, which has a reading or is skipped. -/
def insert (q : Quantity) : Option Number → Quantity
  | some x => { q with values := q.values ++ [x] }
  | none => { q with skipped := q.skipped + 1 }

/-- The quantity tells of all samples that were read. -/
structure Tallies (q : Quantity) (read : Sample → Option Number) (samples : List Sample) :
    Prop where
  once : q.values.length + q.skipped = samples.length
  readings : q.values = samples.filterMap read

/-- A quantity that is not collected tells of no sample, neither as a reading nor as skipped. -/
structure Accounts (q : Quantity) (collected : Bool) (read : Sample → Option Number)
    (samples : List Sample) : Prop where
  tallies : collected = true → q.Tallies read samples
  absent : collected = false → q.values = [] ∧ q.skipped = 0

variable {read : Sample → Option Number}

theorem Tallies.insert {q : Quantity} {seen : List Sample} (tallies : q.Tallies read seen)
    (s : Sample) : (q.insert (read s)).Tallies read (seen ++ [s]) := by
  obtain ⟨once, readings⟩ := tallies
  constructor
  case once =>
    cases read s <;> simp only [Quantity.insert, List.length_append, List.length_singleton] <;>
      omega
  case readings =>
    cases found : read s <;> simp [Quantity.insert, readings, found]

theorem Tallies.foldl {q : Quantity} {seen : List Sample} (tallies : q.Tallies read seen)
    (samples : List Sample) :
    (samples.foldl (fun q s => q.insert (read s)) q).Tallies read (seen ++ samples) := by
  induction samples generalizing q seen with
  | nil => rwa [List.append_nil]
  | cons s samples ih =>
    rw [List.append_cons]
    exact ih (tallies.insert s)

/-- A quantity is what is left when its samples are inserted one after the other. -/
theorem ofSamples_eq_foldl (unit : String) (read : Sample → Option Number) (samples : List Sample) :
    ofSamples unit true read samples
      = samples.foldl (fun q s => q.insert (read s)) ⟨unit, [], 0⟩ := by
  induction samples using List.reverseRecOn with
  | nil => rfl
  | append_singleton samples s ih =>
    rw [List.foldl_append, ← ih]
    cases found : read s <;> simp [ofSamples, Quantity.insert, found]

theorem ofSamples_accounts (unit : String) (collected : Bool) (read : Sample → Option Number)
    (samples : List Sample) :
    (ofSamples unit collected read samples).Accounts collected read samples := by
  cases collected with
  | false => exact ⟨nofun, fun _ => ⟨rfl, rfl⟩⟩
  | true =>
    have none : Tallies ⟨unit, [], 0⟩ read [] := ⟨rfl, rfl⟩
    rw [ofSamples_eq_foldl]
    exact ⟨fun _ => none.foldl samples, nofun⟩

/-- A summary shows the readings in order, and how many they are, if it is to be verbose. -/
structure Shown (q : Quantity) (verbose : Bool) (shown : Value) : Prop where
  empty : q.values = [] → shown = .object []
  stats : q.values ≠ [] → shown.field? "stats"
    = if verbose then some (.array (q.values.map fun x => .real x.value)) else none
  samples : q.values ≠ [] → shown.field? "samples"
    = if verbose then some (.integer q.values.length) else none

theorem summary_shown (q : Quantity) (verbose : Bool) : q.Shown verbose (q.summary verbose) := by
  constructor
  case empty =>
    intro none
    rw [summary, none]
    rfl
  case stats =>
    intro some
    obtain ⟨_, _, _, -, -, -, all⟩ := summary_of_some some
    rw [summary, all]
    cases verbose <;> rfl
  case samples =>
    intro some
    obtain ⟨_, _, _, -, -, -, all⟩ := summary_of_some some
    rw [summary, all]
    cases verbose <;> rfl

end Quantity

/-! ### Readings -/

theorem cpuReading_eq_some_iff {s : Sample} {x : Number} : cpuReading s = some x ↔
    ∃ fields user system, s.section? accountingSection = some fields
      ∧ lookupNumber? fields "cpu_tot.user" = some user
      ∧ lookupNumber? fields "cpu_tot.sys" = some system ∧ x = user + system := by
  simp only [cpuReading, Option.bind_eq_bind, Option.bind_eq_some_iff, Option.pure_def,
    Option.some.injEq]
  constructor
  · rintro ⟨fields, found, user, hasUser, system, hasSystem, rfl⟩
    exact ⟨fields, user, system, found, hasUser, hasSystem, rfl⟩
  · rintro ⟨fields, user, system, found, hasUser, hasSystem, rfl⟩
    exact ⟨fields, found, user, hasUser, system, hasSystem, rfl⟩

theorem throttleReading_eq_some_iff {s : Sample} {x : Number} : throttleReading s = some x ↔
    ∃ fields, s.section? accountingSection = some fields
      ∧ (fields.lookup "throttling").isSome ∧ x = throttlingPercent fields := by
  simp only [throttleReading, Option.bind_eq_bind, Option.bind_eq_some_iff,
    Option.ite_none_right_eq_some, Option.some.injEq]
  exact exists_congr fun fields => and_congr_right fun _ => and_congr_right fun _ => eq_comm

theorem memoryReading_eq_some_iff {counter : String} {s : Sample} {x : Number} :
    memoryReading counter s = some x ↔
      ∃ fields, s.section? cgroupMemorySection = some fields
        ∧ lookupNumber? fields counter = some x :=
  Option.bind_eq_some_iff

/-! ### Captures -/

/-- The statistics account for all samples with readings. -/
structure Counted (c : Capture) (s : Statistics) : Prop where
  analyzed : s.analyzed = c.dataSamples.length
  cpu : s.cpu.Accounts (hasTotals c) cpuReading c.dataSamples
  cpuThrottle : s.cpuThrottle.Accounts (hasTotals c) throttleReading c.dataSamples
  memory : s.memory.Accounts (c.hasSection cgroupMemorySection)
    (memoryReading (CounterNames.ofVersion c.header.cgroupVersion).memoryUsed) c.dataSamples
  memoryFailures : s.memoryFailures.Accounts (c.hasSection cgroupMemorySection)
    (memoryReading (CounterNames.ofVersion c.header.cgroupVersion).allocFailures) c.dataSamples

/-- What stands under a key in a part of the output. -/
def told? (output : Value) (part key : String) : Option Value :=
  (output.field? part).bind (·.field? key)

/-- The output has the summary of a quantity and how often it was skipped, both under its key. -/
structure ToldUnder (key : String) (q : Quantity) (verbose : Bool) (output : Value) : Prop where
  summary : ∃ shown, told? output "statistics" key = some shown ∧ q.Shown verbose shown
  skipped : told? output "skipped_samples" key = some (.integer q.skipped)

section
variable {key : String} {q : Quantity} {output : Value}

theorem ToldUnder.readings (told : ToldUnder key q true output) (filled : q.values ≠ []) :
    ∃ shown, told? output "statistics" key = some shown
      ∧ shown.field? "stats" = some (.array (q.values.map fun x => .real x.value))
      ∧ shown.field? "samples" = some (.integer q.values.length) := by
  obtain ⟨shown, there, summary⟩ := told.summary
  exact ⟨shown, there, summary.stats filled, summary.samples filled⟩

theorem ToldUnder.count {verbose : Bool} (told : ToldUnder key q verbose output) {n : Nat}
    (skipped : q.skipped = n) : told? output "skipped_samples" key = some (.integer n) := by
  rw [told.skipped, skipped]

theorem ToldUnder.empty {verbose : Bool} (told : ToldUnder key q verbose output)
    (none : q.values = []) : told? output "statistics" key = some (.object []) := by
  obtain ⟨shown, there, summary⟩ := told.summary
  rw [there, summary.empty none]

end

/-- The output has the number of samples and tells of four quantities. -/
structure Written (s : Statistics) (verbose : Bool) (output : Value) : Prop where
  analyzed : output.field? "num_samples_analyzed" = some (.integer s.analyzed)
  cpu : ToldUnder "cpu" s.cpu verbose output
  cpuThrottle : ToldUnder "cpu_throttle" s.cpuThrottle verbose output
  memory : ToldUnder "memory" s.memory verbose output
  memoryFailures : ToldUnder "memory_failcnt" s.memoryFailures verbose output

theorem json_written (s : Statistics) (verbose : Bool) : s.Written verbose (s.json verbose) where
  analyzed := rfl
  cpu := ⟨⟨_, rfl, s.cpu.summary_shown verbose⟩, rfl⟩
  cpuThrottle := ⟨⟨_, rfl, s.cpuThrottle.summary_shown verbose⟩, rfl⟩
  memory := ⟨⟨_, rfl, s.memory.summary_shown verbose⟩, rfl⟩
  memoryFailures := ⟨⟨_, rfl, s.memoryFailures.summary_shown verbose⟩, rfl⟩

/-- Statistics are refused where there are too few samples, and only there. Otherwise each sample
with readings counts once for each quantity of the template, and the readings are shown in order. -/
theorem samples_counted (least : Nat) (c : Capture) :
    (∀ fault, ofCapture least c = .error fault ↔
      c.samples.length < least ∧ fault = ⟨c.samples.length, least⟩)
    ∧ (c.samples.length < least ∨ ∃ s, ofCapture least c = .ok s ∧ s.Counted c
      ∧ ∀ verbose, s.Written verbose (s.json verbose))
    ∧ (∀ s x, cpuReading s = some x ↔
      ∃ fields user system, s.section? accountingSection = some fields
        ∧ lookupNumber? fields "cpu_tot.user" = some user
        ∧ lookupNumber? fields "cpu_tot.sys" = some system ∧ x = user + system)
    ∧ (∀ s x, throttleReading s = some x ↔
      ∃ fields, s.section? accountingSection = some fields
        ∧ (fields.lookup "throttling").isSome ∧ x = throttlingPercent fields)
    ∧ ∀ counter s x, memoryReading counter s = some x ↔
      ∃ fields, s.section? cgroupMemorySection = some fields
        ∧ lookupNumber? fields counter = some x := by
  refine ⟨fun fault => ?_, ?_, fun _ _ => cpuReading_eq_some_iff,
    fun _ _ => throttleReading_eq_some_iff, fun _ _ _ => memoryReading_eq_some_iff⟩
  · rw [ofCapture_eq]
    by_cases few : c.samples.length < least
    · simp [few, eq_comm]
    · simp [few]
  · rw [ofCapture_eq]
    by_cases few : c.samples.length < least
    · exact .inl few
    · rw [if_neg few]
      refine .inr ⟨_, rfl, ?_, json_written _⟩
      exact ⟨rfl, Quantity.ofSamples_accounts .., Quantity.ofSamples_accounts ..,
        Quantity.ofSamples_accounts .., Quantity.ofSamples_accounts ..⟩

/-- Four samples with readings of CPU time in two of them and of throttling in one. No memory was
collected. -/
def gaps : Capture where
  header := {}
  samples := [⟨[]⟩,
    ⟨[("cgroup_cpuacct_stats", .object [
      ("cpu_tot", .object [("user", .integer 10), ("sys", .integer 5)]),
      ("throttling", .object [("nr_periods", .integer 8), ("nr_throttled", .integer 2)])])]⟩,
    ⟨[("cgroup_cpuacct_stats", .object [("cpu_tot", .object [("user", .integer 20)])])]⟩,
    ⟨[]⟩,
    ⟨[("cgroup_cpuacct_stats", .object [
      ("cpu_tot", .object [("user", .integer 30), ("sys", .integer 20)])])]⟩]

theorem samples_counted_gaps : ofCapture 6 gaps = .error ⟨5, 6⟩
    ∧ ∃ s cpu throttle, ofCapture 5 gaps = .ok s
      ∧ (s.json true).field? "num_samples_analyzed" = some (.integer 4)
      ∧ told? (s.json true) "statistics" "cpu" = some cpu
      ∧ cpu.field? "stats" = some (.array [.real (Number.value 15), .real (Number.value 50)])
      ∧ cpu.field? "samples" = some (.integer 2)
      ∧ told? (s.json true) "skipped_samples" "cpu" = some (.integer 2)
      ∧ told? (s.json true) "statistics" "cpu_throttle" = some throttle
      ∧ throttle.field? "stats" = some (.array [.real (Number.value 25)])
      ∧ throttle.field? "samples" = some (.integer 1)
      ∧ told? (s.json true) "skipped_samples" "cpu_throttle" = some (.integer 3)
      ∧ told? (s.json true) "statistics" "memory" = some (.object [])
      ∧ told? (s.json true) "skipped_samples" "memory" = some (.integer 0)
      ∧ told? (s.json true) "statistics" "memory_failcnt" = some (.object [])
      ∧ told? (s.json true) "skipped_samples" "memory_failcnt" = some (.integer 0) := by
  have few := ((samples_counted 6 gaps).1 ⟨5, 6⟩).2 ⟨by decide, rfl⟩
  obtain ⟨-, short | ⟨s, made, counted, written⟩, -⟩ := samples_counted 5 gaps
  · exact absurd short (by decide)
  obtain ⟨analyzed, cpu, throttle, memory, failures⟩ := written true
  rw [counted.analyzed] at analyzed
  -- Two samples have a reading of CPU time, so that the other two are skipped.
  obtain ⟨once, read⟩ := counted.cpu.tallies (by decide +kernel)
  have cpuValues : s.cpu.values = [15, 50] := read.trans (Number.eq_of_bits (by decide +kernel))
  rw [cpuValues] at once
  have cpuSkipped : s.cpu.skipped = 2 := Nat.add_left_cancel once
  obtain ⟨cpuShown, cpuTold, cpuStats, cpuSamples⟩ := cpu.readings (by simp [cpuValues])
  rw [cpuValues] at cpuStats cpuSamples
  obtain ⟨once, read⟩ := counted.cpuThrottle.tallies (by decide +kernel)
  have throttleValues : s.cpuThrottle.values = [25] :=
    read.trans (Number.eq_of_bits (by decide +kernel))
  rw [throttleValues] at once
  have throttleSkipped : s.cpuThrottle.skipped = 3 := Nat.add_left_cancel once
  obtain ⟨throttleShown, throttleTold, throttleStats, throttleSamples⟩ :=
    throttle.readings (by simp [throttleValues])
  rw [throttleValues] at throttleStats throttleSamples
  obtain ⟨noMemory, memorySkipped⟩ := counted.memory.absent (by decide +kernel)
  obtain ⟨noFailures, failuresSkipped⟩ := counted.memoryFailures.absent (by decide +kernel)
  exact ⟨few, s, cpuShown, throttleShown, made, analyzed, cpuTold, cpuStats, cpuSamples,
    cpu.count cpuSkipped, throttleTold, throttleStats, throttleSamples,
    throttle.count throttleSkipped, memory.empty noMemory, memory.count memorySkipped,
    failures.empty noFailures, failures.count failuresSkipped⟩

end UsageReport.Statistics
