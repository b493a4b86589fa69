import Mathlib
import UsageReport.Proofs.Chart.Margin
import UsageReport.Proofs.Metric.Moments

/-! Room above the second axes of a report. Their caps follow from how often the cgroup was throttled
and from how many of its allocations failed. If these counters are finite and not negative no cell is
above its cap, unless the settings have a factor that is less than one. -/

namespace UsageReport.Metric

open UsageReport.Capture (lookupNumber?)
open UsageReport.Chart (Axis AxisMax Headroom MarginPolicy Request)
open UsageReport.Json (Object)
open UsageReport.Number (isNaN_of_rational isNaN_zero le_clamp_nearest level_mul level_of_rational
  lt_iff_level rational_of_isFinite rational_zero rounds_div zero_le_iff)
open UsageReport.Table (Row TimeSeries)

/-! ### Charts with room -/

/-- The chart was granted for a request with the policy. Each of its axes is left to the renderer or
has a cap that follows from data, and such a cap leaves room above the cells of its axis; it is the
margin where the table has no rows. -/
def Roomy (p : MarginPolicy) (chart : Chart) : Prop :=
  ∃ r : Request, r.build = .ok chart ∧ r.margin = p
    ∧ (∀ given ∈ r.axes, given.2 = .auto ∨ given.2 = .withMargin)
    ∧ ∀ (k : Nat) (title : String), r.axes[k]? = some (title, AxisMax.withMargin) →
      ∃ (t : TimeSeries) (axis : Axis) (cap : Float), chart.timeSeries? = some t
        ∧ chart.axes[k]? = some axis ∧ axis.title = title ∧ axis.cap = some cap
        ∧ Headroom p (axis.cells t) cap ∧ (t.rows = [] → (cap == p.margin) = true)

section
variable {p : MarginPolicy} {chart : Chart} {columns front : List (String × String)}
  {rows : List Row} {request : TimeSeries → Request}

theorem roomy_of_granted {r : Request} (policy : r.margin = p)
    (auto : ∀ given ∈ r.axes, given.2 = .auto) (made : granted r = .ok chart) :
    Roomy p chart := by
  refine ⟨r, mapError_eq_ok_iff.1 made, policy, fun given inside => .inl (auto given inside), ?_⟩
  intro k title asked
  cases auto _ (List.mem_of_getElem? asked)

theorem roomy_of_plot (policy : ∀ t, (request t).margin = p)
    (auto : ∀ t, ∀ given ∈ (request t).axes, given.2 = .auto)
    (made : (tabulate columns rows >>= fun t => granted (request t)) = .ok chart) :
    Roomy p chart := by
  obtain ⟨t, -, made⟩ := bind_eq_ok_iff.1 made
  exact roomy_of_granted (policy t) (auto t) made

/-- The last of several columns is measured by an axis for its name alone. -/
theorem firstNamed_last {t : TimeSeries} {column unit : String}
    (fresh : column ∉ front.map Prod.fst)
    (series : t.series = (front ++ [(column, unit)]).map fun (name, unit) => ⟨name, unit⟩)
    {i : Nat} (first : Request.FirstNamed t column i) : i = front.length := by
  obtain ⟨inside, named, -⟩ := first
  have count : t.series.length = front.length + 1 := by rw [series]; simp
  by_contra other
  have before : i < front.length := by omega
  have there : t.series[i]? = some ⟨front[i].1, front[i].2⟩ := by
    rw [series, List.getElem?_map, List.getElem?_append_left before,
      List.getElem?_eq_getElem before]
    rfl
  rw [List.getElem?_eq_getElem inside] at there
  rw [Option.some.inj there] at named
  exact fresh (List.mem_map.2 ⟨front[i], List.getElem_mem before, named⟩)

/-- A chart whose second axis measures its last column, which shares its name with no other. -/
theorem roomy_of_last (sound : p.Sound) {column unit first second : String}
    (fresh : column ∉ front.map Prod.fst)
    (shape : ∀ t, (request t).data = .timeSeries t ∧ (request t).margin = p
      ∧ (request t).axes = [(first, .auto), (second, .withMargin)]
      ∧ (request t).secondary = [column])
    (amounts : ∀ row ∈ rows, ∃ others x, row.values = others ++ [x] ∧ 0 ≤ x)
    (made : (tabulate (front ++ [(column, unit)]) rows >>= fun t => granted (request t))
      = .ok chart) : Roomy p chart := by
  obtain ⟨t, tabulated, made⟩ := bind_eq_ok_iff.1 made
  obtain ⟨data, policy, axes, secondary⟩ := shape t
  have built := mapError_eq_ok_iff.1 made
  obtain ⟨-, series, same⟩ := parts_of_tabulate tabulated
  have second' : ∀ k title, (request t).axes[k]? = some (title, AxisMax.withMargin) → k = 1 := by
    rintro (_ | _ | k) title asked
    · rw [axes] at asked
      cases asked
    · rfl
    · rw [axes] at asked
      cases asked
  have cells (axis : Axis) (there : chart.axes[1]? = some axis) :
      ∀ x ∈ axis.cells t, 0 ≤ x := by
    intro x inside
    obtain ⟨i, measured, inside⟩ := List.mem_flatMap.1 inside
    rw [(Request.shares_of_build built data).second axis there, secondary] at measured
    obtain ⟨_, only, named⟩ := measured
    obtain rfl := List.mem_singleton.1 only
    obtain rfl := firstNamed_last fresh series named
    obtain ⟨row, member, found⟩ := List.mem_filterMap.1 inside
    obtain ⟨others, y, values, amount⟩ := amounts row (same ▸ member)
    have count := t.widths row member
    rw [values, series, List.length_map, List.length_append, List.length_append,
      List.length_singleton, List.length_singleton] at count
    rw [values, List.getElem?_append_right (by omega)] at found
    have last : front.length - others.length = 0 := by omega
    rw [last] at found
    obtain rfl := Option.some.inj found
    exact amount
  refine ⟨request t, built, policy, ?_, ?_⟩
  · rw [axes]
    simp
  · intro k title asked
    obtain rfl := second' k title asked
    obtain ⟨axis, cap, there, titled, resolved, room⟩ :=
      Request.headroom_of_build (policy ▸ sound) built data asked cells
    rw [policy] at room
    have table : chart.timeSeries? = some t := by
      rw [Chart.timeSeries?, Request.data_of_build built, data]
    refine ⟨t, axis, cap, table, there, titled, resolved, room, fun none => room.empty ?_⟩
    refine List.flatMap_eq_nil_iff.2 fun i _ => ?_
    rw [TimeSeries.column, none]
    rfl

end

/-! ### Counters -/

/-- The counters that second axes follow from, each with its section. -/
def limitCounters (names : CounterNames) : List (String × String) :=
  [(accountingSection, "throttling.nr_periods"), (accountingSection, "throttling.nr_throttled"),
    (cgroupMemorySection, names.allocFailures)]

def Amount (x : Number) : Prop := x.value.isFinite ∧ 0 ≤ x

/-- Wherever samples with readings have these counters they are finite and not negative. -/
def Counted (c : Context) : Prop :=
  ∀ s ∈ c.capture.dataSamples, ∀ counter ∈ limitCounters c.names, ∀ fields x,
    s.section? counter.1 = some fields → lookupNumber? fields counter.2 = some x → Amount x

theorem amount_zero : Amount 0 := by
  unfold Amount
  decide +kernel

theorem amount_getD {found : Option Number} (each : ∀ x, found = some x → Amount x) :
    Amount (found.getD 0) := by
  cases found with
  | none => exact amount_zero
  | some x => exact each x rfl

theorem zero_le_throttlingPercent {stats : Object}
    (periods : ∀ x, lookupNumber? stats "throttling.nr_periods" = some x → Amount x)
    (throttled : ∀ x, lookupNumber? stats "throttling.nr_throttled" = some x → Amount x) :
    0 ≤ throttlingPercent stats := by
  obtain ⟨finite, -⟩ := amount_getD periods
  obtain ⟨finite', least⟩ := amount_getD throttled
  unfold throttlingPercent
  simp only
  split
  case isFalse => exact amount_zero.2
  case isTrue positive =>
    obtain ⟨y, value⟩ := rational_of_isFinite finite
    obtain ⟨x, value'⟩ := rational_of_isFinite finite'
    have hundred : (100 : Number).rational? = some 100 := by decide +kernel
    rw [lt_iff_level isNaN_zero (isNaN_of_rational value), level_of_rational rational_zero,
      level_of_rational value] at positive
    have least' := (zero_le_iff.1 least).2
    rw [level_of_rational value'] at least'
    obtain ⟨number, level⟩ := level_mul hundred value'
    have product : 0 ≤ 100 * (lookupNumber? stats "throttling.nr_throttled").getD 0 := by
      refine zero_le_iff.2 ⟨number, level ▸ ?_⟩
      exact le_clamp_nearest rational_zero (mul_nonneg (by norm_num) least')
    refine (rounds_div value positive).zero_le (zero_div y) (fun _ _ le => ?_) product
    exact div_le_div_of_nonneg_right le positive.le

section
variable {c : Context} {s : Capture.Sample} {fields : Object}

theorem Counted.throttling (counted : Counted c) (inside : s ∈ c.capture.dataSamples)
    (there : s.section? accountingSection = some fields) : 0 ≤ throttlingPercent fields := by
  have periods : (accountingSection, "throttling.nr_periods") ∈ limitCounters c.names := by
    simp [limitCounters]
  have throttled : (accountingSection, "throttling.nr_throttled") ∈ limitCounters c.names := by
    simp [limitCounters]
  exact zero_le_throttlingPercent (fun x => counted s inside _ periods fields x there)
    fun x => counted s inside _ throttled fields x there

theorem Counted.failures (counted : Counted c) (inside : s ∈ c.capture.dataSamples)
    (there : s.section? cgroupMemorySection = some fields) :
    0 ≤ (lookupNumber? fields c.names.allocFailures).getD 0 := by
  have known : (cgroupMemorySection, c.names.allocFailures) ∈ limitCounters c.names := by
    simp [limitCounters]
  have amount := amount_getD fun x => counted s inside _ known fields x there
  exact amount.2

theorem sample_of_reading {name : String} {r : Reading} (inside : r ∈ readings c.capture name) :
    ∃ s ∈ c.capture.dataSamples, c.capture.samples[r.index]? = some s
      ∧ s.section? name = some r.fields := by
  obtain ⟨s, late, there, named⟩ := sample_of_mem_readings inside
  refine ⟨s, ?_, there, named⟩
  rw [← Capture.map_fst_indexedSamples]
  exact List.mem_map_of_mem (Capture.mem_indexedSamples.2 ⟨late, there⟩)

end

/-! ### Charts with a second axis -/

section
variable {c : Context} {chart : Chart} {charts : List Chart}

theorem throttling_fresh (cpus : List Capture.CpuIndex) :
    throttlingColumn ∉ cpus.map Account.cpuLabel ++ [quotaColumn] := by
  rw [List.mem_append, not_or]
  constructor
  · intro inside
    obtain ⟨cpu, -, same⟩ := List.mem_map.1 inside
    have first := head?_cpuLabel cpu
    rw [same] at first
    exact absurd first (by decide)
  · decide

theorem cgroupBusyChart_roomy (sound : c.margin.Sound) (counted : Counted c)
    {cpus : List Capture.CpuIndex} (made : cgroupBusyChart c cpus = .ok chart) :
    Roomy c.margin chart := by
  have columns : (cpus.map Account.cpuLabel ++ [quotaColumn, throttlingColumn]).map (·, percent)
      = (cpus.map Account.cpuLabel ++ [quotaColumn]).map (·, percent)
        ++ [(throttlingColumn, percent)] := by simp
  unfold cgroupBusyChart at made
  simp only [columns] at made
  refine roomy_of_last sound ?_ (fun t => ⟨rfl, rfl, rfl, rfl⟩) ?_ made
  · rw [map_fst_pair]
    exact throttling_fresh cpus
  · refine List.forall_mem_map.2 fun r inside => ?_
    obtain ⟨s, member, -, named⟩ := sample_of_reading inside
    have values := List.append_cons (cpus.map (cgroupAccount.busyTime r.fields))
      (c.capture.header.cpuQuotaPercent?.getD unlimitedQuota) [throttlingPercent r.fields]
    exact ⟨_, _, values, counted.throttling member named⟩

theorem cgroupMemory_roomy (sound : c.margin.Sound) (counted : Counted c)
    (made : cgroupMemory c = .ok charts) : ∀ chart ∈ charts, Roomy c.margin chart := by
  unfold cgroupMemory at made
  by_cases there : c.capture.hasSection cgroupMemorySection
  case neg =>
    rw [if_pos there] at made
    cases made
    exact List.forall_mem_nil _
  rw [if_neg (not_not_intro there)] at made
  refine forall_alone made fun chart drawn => ?_
  cases bound : c.capture.header.memoryLimit? with
  | none =>
    rw [bound] at drawn
    exact roomy_of_plot (fun _ => rfl) (fun _ => by simp) drawn
  | some limit =>
    rw [bound] at drawn
    have fresh : failuresColumn ∉ ([("Used", bytesUnit), ("Cached", bytesUnit),
        (freeColumn, bytesUnit)] : List (String × String)).map Prod.fst := by decide
    refine roomy_of_last sound fresh (fun t => ⟨rfl, rfl, rfl, rfl⟩) ?_ drawn
    intro row inside
    obtain ⟨r, member, shown⟩ := List.mem_filterMap.1 inside
    obtain ⟨s, sampled, -, named⟩ := sample_of_reading member
    simp only [cgroupMemoryRow?, Option.bind_eq_bind, Option.bind_eq_some_iff, Option.pure_def,
      Option.some.injEq] at shown
    obtain ⟨used, -, cached, -, rfl⟩ := shown
    exact ⟨[used, cached, _], _, rfl, counted.failures sampled named⟩

/-- A chart of the curves of tasks and of the two that a limit adds. -/
theorem roomy_of_limited (sound : c.margin.Sound) {tasks : List (Curve Reading)}
    (labelled : Labelled tasks) {below last : Curve Reading} (differ : below.name ≠ last.name)
    (other : last.name.toList.getLast? ≠ some ')') {request : TimeSeries → Request}
    {first second : String}
    (shape : ∀ t, (request t).data = .timeSeries t ∧ (request t).margin = c.margin
      ∧ (request t).axes = [(first, .auto), (second, .withMargin)]
      ∧ (request t).secondary = [last.name])
    (amounts : ∀ r ∈ readings c.capture tasksSection, 0 ≤ last.cell r)
    (made : (tabulate ((tasks ++ [below, last]).map Curve.column)
        (rowsOf Reading.time (readings c.capture tasksSection) (tasks ++ [below, last]))
      >>= fun t => granted (request t)) = .ok chart) : Roomy c.margin chart := by
  have whole : tasks ++ [below, last] = (tasks ++ [below]) ++ [last] :=
    List.append_cons tasks below [last]
  rw [whole, List.map_append] at made
  refine roomy_of_last sound ?_ shape ?_ made
  · intro inside
    rw [List.map_map] at inside
    obtain ⟨curve, member, same⟩ := List.mem_map.1 inside
    exact labelled.name_ne differ other curve member same
  · refine List.forall_mem_map.2 fun r inside => ?_
    exact ⟨_, _, List.map_append, amounts r inside⟩

theorem usageChart_roomy (sound : c.margin.Sound) (counted : Counted c) {r : Ranking}
    (made : usageChart c r = .ok chart) : Roomy c.margin chart := by
  unfold usageChart at made
  simp only [usageRows_eq_ok, usageColumns, ok_bind] at made
  cases bound : c.capture.header.cpuQuotaPercent? with
  | none =>
    rw [bound] at made
    exact roomy_of_plot (fun _ => rfl) (fun _ => by simp) made
  | some quota =>
    have limits : usageLimits c = [idleCurve c quota, throttlingCurve c.capture] := by
      simp only [usageLimits, bound]
    have differ : idleColumn ≠ throttlingColumn := by decide
    have other : throttlingColumn.toList.getLast? ≠ some ')' := by decide
    rw [bound, limits] at made
    refine roomy_of_limited sound (labelled_usage r.ranked) differ other
      (fun t => ⟨rfl, rfl, rfl, rfl⟩) (fun reading inside => ?_) made
    obtain ⟨s, member, there, -⟩ := sample_of_reading inside
    show 0 ≤ ((c.capture.samples[reading.index]?.bind (·.section? accountingSection)).map
      throttlingPercent).getD 0
    rw [there, Option.bind_some]
    cases named : s.section? accountingSection with
    | none => exact amount_zero.2
    | some fields => exact counted.throttling member named

theorem memoryChart_roomy (sound : c.margin.Sound) (counted : Counted c) {r : Ranking}
    (made : memoryChart c r = .ok chart) : Roomy c.margin chart := by
  unfold memoryChart at made
  simp only [memoryRows_eq_ok, memoryColumns, ok_bind] at made
  cases bound : c.capture.header.memoryLimit? with
  | none =>
    rw [bound] at made
    exact roomy_of_plot (fun _ => rfl) (fun _ => by simp) made
  | some limit =>
    have limits : memoryLimits c = [freeCurve c limit, failuresCurve c] := by
      simp only [memoryLimits, bound]
    have differ : freeColumn ≠ failuresColumn := by decide
    have other : failuresColumn.toList.getLast? ≠ some ')' := by decide
    rw [bound, limits] at made
    refine roomy_of_limited sound (labelled_memory r r.mainIds) differ other
      (fun t => ⟨rfl, rfl, rfl, rfl⟩) (fun reading inside => ?_) made
    obtain ⟨s, member, there, -⟩ := sample_of_reading inside
    show 0 ≤ ((c.capture.samples[reading.index]?.bind (·.section? cgroupMemorySection)).bind
      (lookupNumber? · c.names.allocFailures)).getD 0
    rw [there, Option.bind_some]
    cases named : s.section? cgroupMemorySection with
    | none => exact amount_zero.2
    | some fields => exact counted.failures member named

/-! ### All charts -/

theorem systemMemory_roomy (made : systemMemory c = .ok charts) :
    ∀ chart ∈ charts, Roomy c.margin chart := by
  unfold systemMemory at made
  split at made
  case h_1 =>
    exact forall_alone made fun _ => roomy_of_plot (fun _ => rfl) fun _ => by simp
  case h_2 =>
    cases made
    exact List.forall_mem_nil _

theorem disks_roomy (made : disks c = .ok charts) : ∀ chart ∈ charts, Roomy c.margin chart := by
  unfold disks at made
  by_cases none : c.capture.sectionKeys disksSection = []
  · simp only [none, if_true] at made
    cases made
    exact List.forall_mem_nil _
  · simp only [if_neg none] at made
    exact forall_alone made fun _ => roomy_of_plot (fun _ => rfl) fun _ => by simp

theorem load_roomy (made : load c = .ok charts) : ∀ chart ∈ charts, Roomy c.margin chart := by
  unfold load at made
  by_cases there : c.capture.hasSection loadSection
  · rw [if_neg (not_not_intro there)] at made
    exact forall_alone made fun _ => roomy_of_plot (fun _ => rfl) fun _ => by simp
  · rw [if_pos there] at made
    cases made
    exact List.forall_mem_nil _

theorem network_roomy {name origin : String} {source : Chart.Source}
    (made : network c name source origin = .ok charts) : ∀ chart ∈ charts, Roomy c.margin chart :=
  forall_network made fun _ _ _ => roomy_of_plot (fun _ => rfl) fun _ => by simp

theorem cpuChart_roomy {a : Account} {cpu : Capture.CpuIndex} (made : a.cpuChart c cpu = .ok chart) :
    Roomy c.margin chart := roomy_of_plot (fun _ => rfl) (fun _ => by simp) made

theorem topTasks_roomy (sound : c.margin.Sound) (counted : Counted c)
    (made : topTasks c = .ok charts) : ∀ chart ∈ charts, Roomy c.margin chart := by
  obtain rfl | ⟨r, bubble, usage, memory, flow, rfl, first, second, third, fourth⟩ :=
    parts_of_topTasks made
  · exact List.forall_mem_nil _
  · have items : Roomy c.margin bubble := by
      obtain ⟨empty, -, made⟩ := bind_eq_ok_iff.1 first
      obtain ⟨t, -, made⟩ := bind_eq_ok_iff.1 made
      exact roomy_of_granted rfl (by simp) made
    have flows : Roomy c.margin flow := by
      unfold flowChart at fourth
      exact roomy_of_plot (fun _ => rfl) (fun _ => by simp) fourth
    rw [List.forall_mem_cons, List.forall_mem_cons, List.forall_mem_cons, List.forall_mem_singleton]
    exact ⟨items, usageChart_roomy sound counted second, memoryChart_roomy sound counted third,
      flows⟩

theorem Topic.charts_roomy (sound : c.margin.Sound) (counted : Counted c) {topic : Topic}
    (made : topic.charts c = .ok charts) : ∀ chart ∈ charts, Roomy c.margin chart := by
  cases topic with
  | cgroupProcessor =>
    exact Account.forall_charts made (fun _ _ => cpuChart_roomy) fun _ _ =>
      cgroupBusyChart_roomy sound counted
  | cgroupMemory => exact cgroupMemory_roomy sound counted made
  | cgroupNetwork => exact network_roomy made
  | topTasks => exact topTasks_roomy sound counted made
  | systemProcessor =>
    exact Account.forall_charts made (fun _ _ => cpuChart_roomy) fun _ _ =>
      roomy_of_plot (fun _ => rfl) fun _ => by simp
  | systemMemory => exact systemMemory_roomy made
  | systemNetwork => exact network_roomy made
  | disks => exact disks_roomy made
  | load => exact load_roomy made

end

/-- With settings that are accepted and counters that are finite and not negative, every cap of a
report that follows from data leaves room above the cells of its axis: it is the largest of them
times the factor, plus the margin, and no cell is above it if the factor is at least one. -/
theorem charts_leave_room {text : String} {s : Settings} (accepted : Settings.parse text = .ok s)
    (c : Capture) (topN : Nat) [Orders] (counted : Counted ⟨c, s.margin, topN⟩) :
    ∃ all, Metric.charts ⟨c, s.margin, topN⟩ = .ok all ∧ ∀ chart ∈ all, Roomy s.margin chart := by
  obtain ⟨charts, made, all⟩ := exists_charts ⟨c, s.margin, topN⟩
  refine ⟨_, all, fun chart inside => ?_⟩
  obtain ⟨topic, -, inside⟩ := List.mem_flatMap.1 inside
  exact topic.charts_roomy (Chart.sound_of_parse accepted) counted (made topic) chart inside

/-! ### Failed allocations -/

/-- A capture of a cgroup with a memory limit, of whose allocations ten failed. -/
def failing : Capture where
  header := { cgroup := some { memoryLimit := 1000 } }
  samples := [⟨[]⟩, ⟨[("timestamp", .object [("UTC", .string "2022-01-18T00:02:48")]),
    (cgroupMemorySection, .object [("stat.rss", .integer 0), ("stat.cache", .integer 0),
      ("failcnt", .integer 10)])]⟩]

theorem counted_failing (p : MarginPolicy) (topN : Nat) : Counted ⟨failing, p, topN⟩ := by
  intro s inside counter known fields x there found
  obtain rfl := List.mem_singleton.1 inside
  simp only [limitCounters, List.mem_cons, List.not_mem_nil, or_false] at known
  rcases known with rfl | rfl | rfl
  · cases there
  · cases there
  · cases there
    have bits := congrArg (Option.map Number.bits) found
    have ten : (lookupNumber? [("stat.rss", .integer 0), ("stat.cache", .integer 0),
        ("failcnt", .integer 10)] "failcnt").map Number.bits = some (10 : Number).bits := by
      decide +kernel
    obtain rfl : 10 = x := Number.ext (Option.some.inj (ten.symm.trans bits))
    unfold Amount
    decide +kernel

/-- With the defaults of the settings there is a chart, whose cap leaves room above its cells. -/
theorem charts_leave_room_failing : ∃ s all, Settings.parse "" = .ok s
    ∧ Counted ⟨failing, s.margin, s.topN⟩ ∧ Metric.charts ⟨failing, s.margin, s.topN⟩ = .ok all
    ∧ 1 ≤ s.margin.factor ∧ ∀ chart ∈ all, Roomy s.margin chart := by
  have accepted : Settings.parse "" = .ok {} := rfl
  have counted := counted_failing {} 20
  obtain ⟨all, made, roomy⟩ := charts_leave_room accepted failing 20 counted
  exact ⟨{}, all, accepted, counted, made, by decide +kernel, roomy⟩

/-- A factor of one half without a margin. -/
def halved : String := "[chart]\nsecondary_axis_factor = 0.5\nsecondary_axis_margin = 0\n"

def half : MarginPolicy := ⟨.ofBits 0x3FE0000000000000, .ofBits 0⟩

theorem parse_halved : ∃ s, Settings.parse halved = .ok s ∧ s.margin = half := by
  have read : (Settings.parse halved).toOption.map
      (fun s => (s.margin.factor.toBits, s.margin.margin.toBits))
      = some (0x3FE0000000000000, 0) := by decide +kernel
  obtain ⟨s, accepted, same⟩ := Option.map_eq_some_iff.1 read
  obtain ⟨factor, margin⟩ := Prod.mk.inj same
  refine ⟨s, ?_, ?_⟩
  · cases made : Settings.parse halved with
    | error fault =>
      rw [made] at accepted
      cases accepted
    | ok s' =>
      rw [made] at accepted
      exact congrArg _ (Option.some.inj accepted)
  · rw [half, ← factor, ← margin, Float.ofBits_toBits, Float.ofBits_toBits]

/-- The cap of the second axis and the cells of that axis. -/
def secondAxis? (chart : Chart) : Option (Float × List Number) := do
  let t ← chart.timeSeries?
  let axis ← chart.axes[1]?
  return (← axis.cap, axis.cells t)

/-- An axis with a cap was asked for with a margin. -/
theorem Roomy.asked {p : MarginPolicy} {chart : Chart} (roomy : Roomy p chart) {t : TimeSeries}
    (table : chart.timeSeries? = some t) {k : Nat} {axis : Axis} {cap : Float}
    (there : chart.axes[k]? = some axis) (capped : axis.cap = some cap) :
    ∃ (r : Request) (title : String), r.build = .ok chart ∧ r.margin = p
      ∧ r.axes[k]? = some (title, AxisMax.withMargin) := by
  obtain ⟨r, built, policy, kinds, -⟩ := roomy
  have data : r.data = .timeSeries t := by
    rw [← Request.data_of_build built]
    unfold Chart.timeSeries? at table
    split at table
    case h_1 data => rw [data, Option.some.inj table]
    case h_2 => cases table
  have titles := congrArg (·[k]?) (Request.shares_of_build built data).titles
  simp only [List.getElem?_map, there, Option.map_some] at titles
  obtain ⟨⟨title, max⟩, asked, -⟩ := Option.map_eq_some_iff.1 titles.symm
  obtain ⟨axis', there', -, resolved⟩ := Request.axis_of_build built data asked
  obtain rfl := Option.some.inj (there.symm.trans there')
  rcases kinds _ (List.mem_of_getElem? asked) with rfl | rfl
  · rw [capped] at resolved
    cases resolved
  · exact ⟨r, title, built, policy, asked⟩

/-- Ten failed allocations are above a cap of five. -/
theorem halved_clips : ∃ (s : Settings) (all : List Chart) (chart : Chart) (r : Request)
    (title : String) (t : TimeSeries) (axis : Axis) (cap : Float) (x : Number),
    Settings.parse halved = .ok s ∧ Counted ⟨failing, s.margin, s.topN⟩
    ∧ Metric.charts ⟨failing, s.margin, s.topN⟩ = .ok all ∧ chart ∈ all
    ∧ r.build = .ok chart ∧ r.margin = s.margin ∧ r.axes[1]? = some (title, AxisMax.withMargin)
    ∧ chart.timeSeries? = some t ∧ chart.axes[1]? = some axis ∧ axis.cap = some cap
    ∧ x ∈ axis.cells t ∧ cap < x.value := by
  obtain ⟨s, accepted, policy⟩ := parse_halved
  have counted := counted_failing s.margin s.topN
  have sound := Chart.sound_of_parse accepted
  obtain ⟨charts, made, all⟩ := exists_charts ⟨failing, s.margin, s.topN⟩
  have drawn : cgroupMemory ⟨failing, half, 0⟩ = .ok (charts .cgroupMemory) :=
    policy ▸ made .cgroupMemory
  have only : ((cgroupMemory ⟨failing, half, 0⟩).toOption.getD []).map (fun chart =>
      (secondAxis? chart).map fun (cap, cells) => (cap.toBits, cells.map Number.bits))
      = [some ((5 : Number).bits, [(10 : Number).bits])] := by decide +kernel
  rw [drawn] at only
  obtain ⟨chart, single, second⟩ := List.map_eq_singleton_iff.1 only
  have alone : charts .cgroupMemory = [chart] := single
  have inside : chart ∈ charts .cgroupMemory := alone ▸ List.mem_cons_self
  have roomy := Topic.charts_roomy sound counted (made .cgroupMemory) chart inside
  have member : chart ∈ Topic.all.flatMap charts :=
    List.mem_flatMap.2 ⟨.cgroupMemory, by decide, inside⟩
  obtain ⟨⟨cap, cells⟩, found, bits⟩ := Option.map_eq_some_iff.1 second
  obtain ⟨five, ten⟩ := Prod.mk.inj bits
  simp only [secondAxis?, Option.bind_eq_bind, Option.bind_eq_some_iff, Option.pure_def,
    Option.some.injEq, Prod.mk.injEq] at found
  obtain ⟨t, table, axis, there, cap', capped, rfl, rfl⟩ := found
  obtain ⟨r, title, built, margin, asked⟩ := roomy.asked table there capped
  refine ⟨s, _, chart, r, title, t, axis, cap', 10, accepted, counted, all, member, built, margin,
    asked, table, there, capped, ?_, ?_⟩
  · obtain ⟨x, only, same⟩ := List.map_eq_singleton_iff.1 ten
    rw [only, Number.ext same]
    exact List.mem_cons_self
  · rw [← Float.ofBits_toBits cap', five]
    decide +kernel

end UsageReport.Metric
