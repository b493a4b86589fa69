import Mathlib
import UsageReport.Metric.Topic
import UsageReport.Proofs.Metric.Free
import UsageReport.Proofs.Metric.TaskCharts
import UsageReport.Proofs.Number.Exact

/-! Two runs on the same tasks. Each run gives the values of its maps in orders of its own, so that
what the tasks leave of a quota or of a limit may be rounded differently. All else in the charts of
tasks is the same in both, and so is what is left wherever the values add up exactly. -/

namespace UsageReport.Metric

open UsageReport.Chart (Axis Request)
open UsageReport.Json (Object)
open UsageReport.Number (Exact larger)
open UsageReport.Table (Row Series TimeSeries)

/-! ### Sums -/

/-- The CPU times of all tasks. -/
def usages (tasks : Object) : List Number := (usage tasks).map Prod.snd

/-- The memory of all processes. -/
def processMemories (tasks : Object) : List Number := (processMemory tasks).map Prod.snd

/-- The memory that is charged to the cgroup in the sample of a reading, by its counters. -/
def chargedAt? (c : Context) (reading : Reading) : Option Number :=
  (c.capture.samples[reading.index]?.bind (·.section? cgroupMemorySection)).bind
    (charged? c.names)

theorem column_idleCurve (c : Context) (quota : Number) :
    (idleCurve c quota).column = (idleColumn, percent) := rfl

theorem column_freeCurve (c : Context) (limit : Number) :
    (freeCurve c limit).column = (freeColumn, bytesUnit) := rfl

theorem cell_idleCurve (c : Context) (quota : Number) (reading : Reading) :
    (idleCurve c quota).cell reading = larger (quota
      - Number.sum ((c.orders.usage reading.index).values (usages reading.fields))) 0 := rfl

theorem cell_freeCurve (c : Context) (limit : Number) (reading : Reading) :
    (freeCurve c limit).cell reading = larger (limit - (chargedAt? c reading).getD
      (Number.sum ((c.orders.memory reading.index).values (processMemories reading.fields)))) 0 :=
  rfl

/-- Both maps give the values in one order, or these add up exactly in any order. -/
def SameSum (e e' : Enumeration) (values : List Number) : Prop :=
  e.values values = e'.values values ∨ Exact values

theorem SameSum.sub {e e' : Enumeration} {values : List Number} (same : SameSum e e' values)
    {limit : Number} (plain : limit.form ≠ .zero .negative) :
    limit - Number.sum (e.values values) = limit - Number.sum (e'.values values) := by
  rcases same with alike | exact
  · rw [alike]
  · rw [← exact.sub_sum plain (e.perm values).symm, ← exact.sub_sum plain (e'.perm values).symm]

/-- Orders as those of `c` and `orders` give the CPU times of a sample the same sum. -/
def SameUsage (c : Context) (orders : Orders) (r : Reading) : Prop :=
  SameSum (c.orders.usage r.index) (orders.usage r.index) (usages r.fields)

/-- The same memory is charged in a sample with the orders of `c` and with `orders`: the counters of
the cgroup tell it, or the sum of the memory of all processes is the same. -/
def SameCharge (c : Context) (orders : Orders) (r : Reading) : Prop :=
  (chargedAt? c r).isSome
    ∨ SameSum (c.orders.memory r.index) (orders.memory r.index) (processMemories r.fields)

/-! ### Columns -/

section
variable {μ : Type} {name : String} {moments : List μ} {known : μ → Prop}

/-- The columns are of one series and have the same cells, unless they have the given name: then
their cells may differ at the moments of which `known` does not hold. -/
structure SameCells (name : String) (moments : List μ) (known : μ → Prop)
    (column column' : Series × List Number) : Prop where
  series : column'.1 = column.1
  cells : ∃ cell cell' : μ → Number, column.2 = moments.map cell ∧ column'.2 = moments.map cell'
    ∧ ∀ m ∈ moments, (column.1.name = name → known m) → cell' m = cell m

theorem sameCells_shown {curve curve' : Curve μ} (column : curve'.column = curve.column)
    (cells : ∀ m ∈ moments, (curve.name = name → known m) → curve'.cell m = curve.cell m) :
    SameCells name moments known (curve.shown moments) (curve'.shown moments) where
  series := by
    obtain ⟨named, unit⟩ := Prod.mk.inj column
    exact congrArg₂ Series.mk named unit
  cells := ⟨curve.cell, curve'.cell, rfl, rfl, cells⟩

theorem sameCells_curves (curves : List (Curve μ)) :
    List.Forall₂ (SameCells name moments known) (curves.map (Curve.shown moments))
      (curves.map (Curve.shown moments)) := by
  refine List.forall₂_same.2 fun column inside => ?_
  obtain ⟨curve, -, rfl⟩ := List.mem_map.1 inside
  exact sameCells_shown rfl fun _ _ _ => rfl

end

section
variable (c c' : Context) (capture : c'.capture = c.capture)
include capture

theorem names_of_capture : c'.names = c.names := by
  rw [Context.names, Context.names, capture]

theorem failuresCurve_of_capture : failuresCurve c' = failuresCurve c := by
  simp only [failuresCurve, names_of_capture c c' capture, capture]

theorem sameCells_usageLimits :
    List.Forall₂ (SameCells idleColumn (readings c.capture tasksSection) (SameUsage c c'.orders))
      ((usageLimits c).map (Curve.shown (readings c.capture tasksSection)))
      ((usageLimits c').map (Curve.shown (readings c.capture tasksSection))) := by
  unfold usageLimits
  rw [capture]
  cases bound : c.capture.header.cpuQuotaPercent? with
  | none => exact .nil
  | some quota =>
    refine .cons (sameCells_shown ?_ fun r _ known => ?_) (sameCells_curves [_])
    · rw [column_idleCurve, column_idleCurve]
    · rw [cell_idleCurve, cell_idleCurve, (known rfl).sub (plain_quota bound)]

theorem sameCells_memoryLimits :
    List.Forall₂ (SameCells freeColumn (readings c.capture tasksSection) (SameCharge c c'.orders))
      ((memoryLimits c).map (Curve.shown (readings c.capture tasksSection)))
      ((memoryLimits c').map (Curve.shown (readings c.capture tasksSection))) := by
  have charged (r : Reading) : chargedAt? c' r = chargedAt? c r := by
    simp only [chargedAt?, names_of_capture c c' capture, capture]
  unfold memoryLimits
  rw [capture, failuresCurve_of_capture c c' capture]
  cases bound : c.capture.header.memoryLimit? with
  | none => exact .nil
  | some limit =>
    refine .cons (sameCells_shown ?_ fun r _ known => ?_) (sameCells_curves [_])
    · rw [column_freeCurve, column_freeCurve]
    · rw [cell_freeCurve, cell_freeCurve, charged]
      cases counted : chargedAt? c r with
      | some value => rw [Option.getD_some, Option.getD_some]
      | none =>
        have same := (known rfl).resolve_left (by simp [counted])
        rw [Option.getD_none, Option.getD_none, same.sub (plain_limit bound)]

omit capture in
theorem limitCaps_nil (c : Context) : limitCaps c [] = [] := rfl

omit capture in
theorem limitCaps_pair (c : Context) (first last : Curve Reading) : limitCaps c [first, last]
    = [cap c.margin ((readings c.capture tasksSection).map last.cell)] := rfl

/-- The caps of secondary axes follow from columns that are the same in both runs. -/
theorem limitCaps_usageLimits (margin : c'.margin = c.margin) :
    limitCaps c' (usageLimits c') = limitCaps c (usageLimits c) := by
  unfold usageLimits
  rw [capture]
  cases c.capture.header.cpuQuotaPercent? with
  | none => rw [limitCaps_nil, limitCaps_nil]
  | some quota => simp only [limitCaps_pair, capture, margin]

theorem limitCaps_memoryLimits (margin : c'.margin = c.margin) :
    limitCaps c' (memoryLimits c') = limitCaps c (memoryLimits c) := by
  unfold memoryLimits
  rw [capture, failuresCurve_of_capture c c' capture]
  cases c.capture.header.memoryLimit? with
  | none => rw [limitCaps_nil, limitCaps_nil]
  | some limit => simp only [limitCaps_pair, capture, margin]

end

/-! ### Charts -/

/-- The charts over time are the same but for their tables. -/
def SameFrame (chart chart' : Chart) : Prop :=
  ∃ t u : TimeSeries, chart.data = .timeSeries t ∧ u.timeUnit = t.timeUnit
    ∧ chart' = { chart with data := .timeSeries u }

theorem axes_eq {axes axes' : List Axis} (titles : axes'.map Axis.title = axes.map Axis.title)
    (series : axes'.map Axis.series = axes.map Axis.series)
    (caps : axes'.map Axis.cap = axes.map Axis.cap) : axes' = axes := by
  induction axes generalizing axes' with
  | nil => exact List.map_eq_nil_iff.1 titles
  | cons axis axes ih =>
    obtain ⟨axis', rest, rfl, title, titles⟩ := List.map_eq_cons_iff.1 titles
    obtain ⟨measured, series⟩ := List.cons.inj series
    obtain ⟨cap, caps⟩ := List.cons.inj caps
    rw [ih titles series caps]
    obtain ⟨_, _, _⟩ := axis
    obtain ⟨_, _, _⟩ := axis'
    cases title
    cases measured
    cases cap
    rfl

/-- Requests that differ by the rows of their tables alone are granted with the same frame, where
the cap of the second axis is the same and the first one has none. -/
theorem sameFrame_of_plot {columns : List (String × String)} {rows rows' : List Row}
    {request : TimeSeries → Request} (uniform : Uniform request) {title : String}
    (first : ∀ t, (request t).axes[0]? = some (title, .auto)) {chart chart' : Chart}
    (made : (tabulate columns rows >>= fun t => granted (request t)) = .ok chart)
    (made' : (tabulate columns rows' >>= fun t => granted (request t)) = .ok chart')
    (caps : chart'.secondaryCaps = chart.secondaryCaps) : SameFrame chart chart' := by
  obtain ⟨t, tabulated, made⟩ := bind_eq_ok_iff.1 made
  obtain ⟨u, tabulated', made'⟩ := bind_eq_ok_iff.1 made'
  obtain ⟨timeUnit, series, -⟩ := parts_of_tabulate tabulated
  obtain ⟨timeUnit', series', -⟩ := parts_of_tabulate tabulated'
  have built := mapError_eq_ok_iff.1 made
  have built' := mapError_eq_ok_iff.1 made'
  have data : (request t).data = .timeSeries t := congrArg Request.data (uniform t t)
  have data' : (request u).data = .timeSeries u := congrArg Request.data (uniform u u)
  obtain ⟨axis, there, -, cap⟩ := Request.axis_of_build built data (first t)
  obtain ⟨axis', there', -, cap'⟩ := Request.axis_of_build built' data' (first u)
  obtain ⟨selector, chosen, drawn⟩ := bind_eq_ok_iff.1 built
  -- The second request is the first one with the data of the second table.
  rw [uniform t u] at built'
  obtain ⟨selector', chosen', drawn'⟩ := bind_eq_ok_iff.1 built'
  obtain rfl := Except.ok.inj (chosen.symm.trans chosen')
  simp only [data] at drawn
  obtain ⟨axes, measured, drawn⟩ := bind_eq_ok_iff.1 drawn
  obtain ⟨axes', measured', drawn'⟩ := bind_eq_ok_iff.1 drawn'
  cases drawn
  cases drawn'
  obtain ⟨axes'', measured'', titles, routing⟩ :=
    Request.timeSeriesAxes_of_same_series (series'.trans series.symm) rfl rfl measured
  obtain rfl := Except.ok.inj (measured'.symm.trans measured'')
  have whole : axes'.map Axis.cap = axes.map Axis.cap := by
    obtain ⟨rest, rfl⟩ := List.head?_eq_some_iff.1 (List.head?_eq_getElem?.trans there)
    obtain ⟨rest', rfl⟩ := List.head?_eq_some_iff.1 (List.head?_eq_getElem?.trans there')
    rw [List.map_cons, List.map_cons, cap, cap']
    exact congrArg (none :: ·) caps
  refine ⟨t, u, rfl, timeUnit'.trans timeUnit.symm, ?_⟩
  rw [axes_eq titles routing whole]

/-- The charts have the same frame, instants and columns, save for cells of the column under the
given name at moments of which `known` does not hold. -/
structure SameBut (name : String) (moments : List Reading) (known : Reading → Prop)
    (chart chart' : Chart) : Prop where
  frame : SameFrame chart chart'
  times : chart'.times = chart.times
  columns : List.Forall₂ (SameCells name moments known) chart.columns chart'.columns

/-- The charts of tasks of two runs, of which the second one has the given orders, are the same save
for what is left of a quota or of a limit in samples whose sums are not the same. -/
structure SameButLeft (c : Context) (orders : Orders) (charts charts' : TaskCharts) : Prop where
  bubble : charts'.bubble = charts.bubble
  usage : SameBut idleColumn (readings c.capture tasksSection) (SameUsage c orders) charts.usage
    charts'.usage
  memory : SameBut freeColumn (readings c.capture tasksSection) (SameCharge c orders) charts.memory
    charts'.memory
  flow : charts'.flow = charts.flow

/-- Neither run draws charts of tasks, or both draw the same ones save for what is left. -/
def SameTaskCharts (c c' : Context) : Prop :=
  (topTasks c = .ok [] ∧ topTasks c' = .ok [])
  ∨ ∃ charts charts' : TaskCharts, topTasks c = .ok charts.list ∧ topTasks c' = .ok charts'.list
    ∧ SameButLeft c c'.orders charts charts'

section
variable {c : Context} {orders : Orders} {r : Ranking} {chart chart' : Chart}

theorem usageChart_frame (made : usageChart c r = .ok chart)
    (made' : usageChart { c with orders } r = .ok chart')
    (caps : chart'.secondaryCaps = chart.secondaryCaps) : SameFrame chart chart' := by
  unfold usageChart at made made'
  simp only [usageRows_eq_ok, ok_bind] at made made'
  exact sameFrame_of_plot (fun _ _ => rfl) (fun _ => rfl) made made' caps

theorem memoryChart_frame (made : memoryChart c r = .ok chart)
    (made' : memoryChart { c with orders } r = .ok chart')
    (caps : chart'.secondaryCaps = chart.secondaryCaps) : SameFrame chart chart' := by
  unfold memoryChart at made made'
  simp only [memoryRows_eq_ok, ok_bind] at made made'
  exact sameFrame_of_plot (fun _ _ => rfl) (fun _ => rfl) made made' caps

end

/-- Charts that trace the same curves and behind them those of a limit in two runs. -/
theorem sameBut_of_traces {name : String} {known : Reading → Prop} {moments : List Reading}
    {curves limits limits' : List (Curve Reading)} {chart chart' : Chart}
    (frame : SameFrame chart chart')
    (traces : Traces chart Reading.time moments (curves ++ limits))
    (traces' : Traces chart' Reading.time moments (curves ++ limits'))
    (same : List.Forall₂ (SameCells name moments known) (limits.map (Curve.shown moments))
      (limits'.map (Curve.shown moments))) : SameBut name moments known chart chart' where
  frame := frame
  times := traces'.times.trans traces.times.symm
  columns := by
    rw [traces.columns, traces'.columns, List.map_append, List.map_append]
    exact List.rel_append (sameCells_curves curves) same

theorem TaskCharts.Drawn.sameButLeft {c : Context} {orders : Orders} {r : Ranking}
    {charts charts' : TaskCharts} (drawn : charts.Drawn c r)
    (drawn' : charts'.Drawn { c with orders } r) (shows : charts.Show c r)
    (shows' : charts'.Show { c with orders } r) : SameButLeft c orders charts charts' where
  bubble := Except.ok.inj (drawn'.bubble.symm.trans drawn.bubble)
  usage := by
    have caps : charts'.usage.secondaryCaps = charts.usage.secondaryCaps := by
      rw [shows.usageCaps, shows'.usageCaps]
      exact limitCaps_usageLimits c { c with orders } rfl rfl
    exact sameBut_of_traces (usageChart_frame drawn.usage drawn'.usage caps) shows.usage
      shows'.usage (sameCells_usageLimits c { c with orders } rfl)
  memory := by
    have caps : charts'.memory.secondaryCaps = charts.memory.secondaryCaps := by
      rw [shows.memoryCaps, shows'.memoryCaps]
      exact limitCaps_memoryLimits c { c with orders } rfl rfl
    exact sameBut_of_traces (memoryChart_frame drawn.memory drawn'.memory caps) shows.memory
      shows'.memory (sameCells_memoryLimits c { c with orders } rfl)
  flow := Except.ok.inj (drawn'.flow.symm.trans drawn.flow)

/-- The orders of the maps only decide on what is left. -/
theorem sameTaskCharts_orders (c : Context) (orders : Orders) :
    SameTaskCharts c { c with orders } := by
  by_cases none : (Ranking.ofCapture c.capture c.topN).ranked = []
  · exact .inl ⟨topTasks_of_none none, topTasks_of_none none⟩
  · obtain ⟨charts, drawn, shows⟩ := exists_drawn c none
    obtain ⟨charts', drawn', shows'⟩ := exists_drawn { c with orders } none
    exact .inr ⟨charts, charts', drawn.topTasks none, drawn'.topTasks none,
      drawn.sameButLeft drawn' shows shows'⟩

/-- A run that draws what `c` draws in other orders. -/
theorem SameTaskCharts.of_eq {c c' : Context}
    (same : topTasks c' = topTasks { c with orders := c'.orders }) : SameTaskCharts c c' := by
  rw [SameTaskCharts, same]
  exact sameTaskCharts_orders c c'.orders

/-- The cells of the charts over time, row by row. -/
def cells (charts : Except Fault (List Chart)) : List Number :=
  (charts.toOption.getD []).flatMap fun chart =>
    ((chart.timeSeries?.map (·.rows)).getD []).flatMap Row.values

/-- Two runs have the same charts of a topic, save for what is left of a quota or of a limit. -/
def Topic.SameCharts (c c' : Context) : Topic → Prop
  | topTasks => SameTaskCharts c c'
  | topic => topic.charts c' = topic.charts c

/-- A run that has the charts of `c` in other orders. -/
theorem Topic.SameCharts.of_eq {c c' : Context} {topic : Topic}
    (same : topic.charts c' = topic.charts { c with orders := c'.orders }) :
    topic.SameCharts c c' := by
  cases topic with
  | topTasks => exact SameTaskCharts.of_eq same
  | _ => exact same

end UsageReport.Metric
