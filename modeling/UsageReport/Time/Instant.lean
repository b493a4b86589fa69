import UsageReport.Time.Calendar

/-! Instants of universal time to the nanosecond. A leap second is the last second of its minute
with a count of nanoseconds past one second. Every instant is its seconds and nanoseconds from
1970-01-01, and back. -/

namespace UsageReport.Time

/-- The first day that an instant may fall on, in the year -262143. -/
def firstDay : Int := Date.dayNumber ⟨-262143, 1, 1⟩

/-- The last day that an instant may fall on, in the year 262142. -/
def lastDay : Int := Date.dayNumber ⟨262142, 12, 31⟩

def InstantParts (day : Int) (second nanos : Nat) : Prop :=
  (firstDay ≤ day ∧ day ≤ lastDay) ∧ second < 86400
    ∧ (nanos < 1000000000 ∨ (nanos < 2000000000 ∧ second % 60 = 59))

instance (day : Int) (second nanos : Nat) : Decidable (InstantParts day second nanos) := by
  unfold InstantParts; infer_instance

/-- An instant of universal time. -/
structure Instant where
  /-- Days from 1970-01-01. -/
  day : Int
  /-- Seconds from midnight. -/
  second : Nat
  /-- Nanoseconds, from one second on inside a leap second. -/
  nanos : Nat
  parts : InstantParts day second nanos
deriving DecidableEq

namespace Instant

def ofParts? (day : Int) (second nanos : Nat) : Option Instant :=
  if h : InstantParts day second nanos then some ⟨day, second, nanos, h⟩ else none

def epochSeconds (t : Instant) : Int := 86400 * t.day + t.second

def ofEpoch? (seconds : Int) (nanos : Nat) : Option Instant :=
  ofParts? (seconds / 86400) (seconds % 86400).toNat nanos

theorem ofEpoch?_epochSeconds (t : Instant) : ofEpoch? t.epochSeconds t.nanos = some t := by
  have bound : t.second < 86400 := t.parts.2.1
  have day : t.epochSeconds / 86400 = t.day := by
    unfold epochSeconds
    omega
  have second : (t.epochSeconds % 86400).toNat = t.second := by
    unfold epochSeconds
    omega
  simp [ofEpoch?, ofParts?, day, second, t.parts]

/-- `a` is no later than `b`. -/
protected def le (a b : Instant) : Prop :=
  a.day < b.day ∨
    (a.day = b.day ∧ (a.second < b.second ∨ (a.second = b.second ∧ a.nanos ≤ b.nanos)))

instance : LE Instant := ⟨Instant.le⟩

instance (a b : Instant) : Decidable (a ≤ b) := by
  change Decidable (Instant.le a b)
  unfold Instant.le
  infer_instance

/-- The milliseconds from `a` to `b`, rounded toward zero. A leap second between the two counts
where it is part of one of them. -/
def millisecondsFrom (a b : Instant) : Int :=
  let leap : Int :=
    if a.second < b.second ∧ 1000000000 ≤ a.nanos then 1
    else if b.second < a.second ∧ 1000000000 ≤ b.nanos then -1
    else 0
  let seconds : Int := b.epochSeconds - a.epochSeconds + leap
  (seconds * 1000000000 + (b.nanos - a.nanos)).tdiv 1000000

/-- The instant as a date call of the chart renderer, whose months count from zero. -/
def rendererDate (t : Instant) : String :=
  let date := Date.ofDayNumber t.day
  let numbers : List Int := [date.year, date.month - 1, date.day, t.second / 3600,
    t.second / 60 % 60, t.second % 60, t.nanos / 1000000]
  "Date(" ++ ",".intercalate (numbers.map toString) ++ ")"

end Instant

end UsageReport.Time
