import Mathlib
import UsageReport.Proofs.Capture.Loaded
import UsageReport.Proofs.Chart.Request
import UsageReport.Proofs.Metric.Columns
import UsageReport.Proofs.Metric.Ranking
import UsageReport.Proofs.Metric.Total

/-! Charts and columns by name. No two charts of a report are chosen at the same place, and no two
columns of a chart share a name, so that the column found for a second axis is the one that was
meant. -/

namespace UsageReport

open UsageReport.Chart (AxisMax Request Selector Source)
open UsageReport.Table (Row TimeSeries timestampName)

/-! ### One chart -/

namespace Chart

/-- Where a chart is chosen. -/
abbrev Place := Source × Selector

def place (chart : Chart) : Place := (chart.source, chart.selector)

def columnNames (chart : Chart) : List String :=
  match chart.data with
  | .timeSeries t => t.columnNames
  | .categorical t => t.columns

/-- The chart is chosen at the place and no two of its columns share a name. A second axis measures
the last series alone and the first axis all others. -/
structure At (place : Place) (chart : Chart) : Prop where
  here : chart.place = place
  distinct : chart.columnNames.Nodup
  secondary : ∀ t, chart.data = .timeSeries t → chart.axes.length = 2 →
    ∃ front, ∃ last ∈ [Metric.throttlingColumn, Metric.failuresColumn],
      t.columnNames = timestampName :: (front ++ [last])
        ∧ chart.axes.map Axis.series = [List.range front.length, [front.length]]

end Chart

namespace Metric

open UsageReport.Chart (Place)

theorem names_of_tabulate {columns : List (String × String)} {rows : List Row} {t : TimeSeries}
    (made : tabulate columns rows = .ok t) :
    t.columnNames = timestampName :: columns.map Prod.fst := by
  obtain ⟨empty, created, extended⟩ := bind_eq_ok_iff.1 made
  obtain ⟨-, named, -⟩ := TimeSeries.create_eq_ok_iff.1 (mapError_eq_ok_iff.1 created)
  obtain ⟨-, -, series, -⟩ := TimeSeries.extend_eq_ok_iff.1 (mapError_eq_ok_iff.1 extended)
  rw [← named, TimeSeries.columnNames, series, TimeSeries.columnNames]

/-- The request is for a chart of the table at the place. -/
structure Draws (t : TimeSeries) (request : Request) (place : Place)
    (axes : List (String × AxisMax)) (secondary : List String) : Prop where
  data : request.data = .timeSeries t
  source : request.source = place.1
  selector : request.selector = .ok place.2
  axes : request.axes = axes
  secondary : request.secondary = secondary

variable {columns : List (String × String)} {rows : List Row} {request : TimeSeries → Request}
  {names : List String} {place : Place} {chart : Chart}

theorem at_single {axis : String × AxisMax} (draws : ∀ t, Draws t (request t) place [axis] [])
    (named : columns.map Prod.fst = names) (distinct : (timestampName :: names).Nodup)
    (made : (tabulate columns rows >>= fun t => granted (request t)) = .ok chart) :
    chart.At place := by
  obtain ⟨t, tabulated, made⟩ := bind_eq_ok_iff.1 made
  have built := mapError_eq_ok_iff.1 made
  rw [Request.build_single (draws t).data (draws t).selector (draws t).axes (draws t).secondary]
    at built
  cases built
  constructor
  case here => exact Prod.ext (draws t).source rfl
  case distinct =>
    change t.columnNames.Nodup
    rwa [names_of_tabulate tabulated, named]
  case secondary => exact fun _ _ two => by cases two

/-- What is left below a limit has the last column of the first axis. -/
theorem at_double {first second : String × AxisMax} {below last : String}
    (draws : ∀ t, Draws t (request t) place [first, second] [last])
    (named : columns.map Prod.fst = names ++ [below, last])
    (limit : last ∈ [throttlingColumn, failuresColumn])
    (distinct : (timestampName :: (names ++ [below, last])).Nodup)
    (made : (tabulate columns rows >>= fun t => granted (request t)) = .ok chart) :
    chart.At place := by
  obtain ⟨t, tabulated, made⟩ := bind_eq_ok_iff.1 made
  have built := mapError_eq_ok_iff.1 made
  obtain ⟨front, behind⟩ : ∃ front, names ++ [below, last] = front ++ [last] :=
    ⟨names ++ [below], (List.append_assoc names [below] [last]).symm⟩
  rw [behind] at named distinct
  have names : t.series.map Table.Series.name = front ++ [last] := by
    rw [← named]
    exact List.tail_eq_of_cons_eq (names_of_tabulate tabulated)
  have count : t.series.length = front.length + 1 := by
    rw [← List.length_map, names, List.length_append, List.length_singleton]
  have absent : last ∉ front := by
    rw [List.nodup_cons, List.nodup_append'] at distinct
    exact fun inside => distinct.2.2.2 inside (List.mem_singleton_self last)
  -- The first series of the name is taken, which is the last series of all.
  have found : t.indexOf? last = some front.length := by
    have nowhere : front.findIdx? (· = last) = none := by
      rw [List.findIdx?_eq_none_iff]
      intro name inside
      exact decide_eq_false fun same => absent (same ▸ inside)
    have first : (t.series.map Table.Series.name).findIdx? (· = last) = some front.length := by
      rw [names, List.findIdx?_append, nowhere]
      simp
    rwa [List.findIdx?_map] at first
  have others : (List.range t.series.length).filter (· ≠ front.length)
      = List.range front.length := by
    rw [count, List.range_succ, List.filter_append, List.filter_eq_self.2]
    · simp
    · intro index inside
      exact decide_eq_true (Nat.ne_of_lt (List.mem_range.1 inside))
  rw [Request.build_double (draws t).data (draws t).selector (draws t).axes (draws t).secondary
    found] at built
  cases built
  constructor
  case here => exact Prod.ext (draws t).source rfl
  case distinct =>
    change t.columnNames.Nodup
    rwa [names_of_tabulate tabulated, named]
  case secondary =>
    rintro u ⟨⟩ -
    refine ⟨front, last, limit, ?_, ?_⟩
    · rw [names_of_tabulate tabulated, named]
    · simp only [List.map_cons, List.map_nil, others]

theorem at_items {request : Request} {items : Table.Categorical}
    (made : granted request = .ok chart) (data : request.data = .categorical items)
    (source : request.source = place.1) (selector : request.selector = .ok place.2)
    (axes : request.axes.length = 2) (secondary : request.secondary = [])
    (distinct : items.columns.Nodup) : chart.At place := by
  obtain ⟨chart', granted, items', chosen, from'⟩ :=
    Request.build_categorical data selector axes secondary
  cases granted.symm.trans (mapError_eq_ok_iff.1 made)
  constructor
  case here => exact Prod.ext (from'.trans source) chosen
  case distinct => rwa [Chart.columnNames, items']
  case secondary =>
    intro t series
    cases items'.symm.trans series

/-- A chart that is the only one of its topic. -/
theorem at_alone {α : Type} {table : Except Fault α} {plot : α → Except Fault Chart}
    (only : ∀ chart, (table >>= plot) = .ok chart → chart.At place) {charts : List Chart}
    (made : (table >>= fun t => plot t >>= fun chart => pure [chart]) = .ok charts) :
    List.Forall₂ Chart.At [place] charts := by
  obtain ⟨chart, drawn, rfl⟩ := alone_of_ok made
  exact .cons (only chart drawn) .nil

/-! ### Places -/

def Account.entries (a : Account) (c : Capture) : List Selector :=
  (c.logicalCpus a.sectionName).map fun cpu => .comboEntry a.group (Account.cpuLabel cpu)

namespace Topic

def source : Topic → Source
  | cgroupProcessor | cgroupMemory | cgroupNetwork => .cgroupAggregate
  | topTasks => .cgroupPerTask
  | systemProcessor | systemMemory | systemNetwork | disks | load => .baremetal

def entries (c : Capture) : Topic → List Selector
  | cgroupProcessor => cgroupAccount.entries c
  | systemProcessor => systemAccount.entries c
  | _ => []

def buttons : Topic → List String
  | cgroupProcessor | systemProcessor => ["All CPUs"]
  | cgroupMemory | systemMemory => ["Memory Usage"]
  | cgroupNetwork | systemNetwork => [Traffic.bytes.label, Traffic.packets.label]
  | topTasks => ["Top Tasks", "CPU by Task", "Memory by Task", "I/O by Task"]
  | disks => ["Disk I/O"]
  | load => ["Average Load"]

/-- Where the charts of a topic are chosen. -/
def places (c : Capture) (topic : Topic) : List Place :=
  (topic.entries c ++ topic.buttons.map Selector.button).map (topic.source, ·)

end Topic

variable {c : Capture} {topic topic' : Topic} {selector : Selector}

theorem mem_places_iff : place ∈ topic.places c ↔ place.1 = topic.source
    ∧ (place.2 ∈ topic.entries c ∨ ∃ label ∈ topic.buttons, Selector.button label = place.2) := by
  obtain ⟨source, selector⟩ := place
  simp only [Topic.places, List.mem_map, List.mem_append, Prod.mk.injEq]
  grind

theorem combo_of_entry (inside : selector ∈ topic.entries c) :
    ∃ group entry, selector = .comboEntry group entry := by
  cases topic <;> simp only [Topic.entries, List.not_mem_nil] at inside
  all_goals
    obtain ⟨cpu, -, rfl⟩ := List.mem_map.1 inside
    exact ⟨_, _, rfl⟩

/-- Only the topics of CPUs have groups of charts, and their sources differ. -/
theorem topic_of_entry (source : topic.source = topic'.source)
    (inside : selector ∈ topic.entries c) (inside' : selector ∈ topic'.entries c) :
    topic = topic' := by
  cases topic <;> simp only [Topic.entries, List.not_mem_nil] at inside
  all_goals cases topic' <;> simp only [Topic.entries, List.not_mem_nil] at inside'
  all_goals first | rfl | cases source

theorem topic_of_button (source : topic.source = topic'.source) {label : String}
    (inside : label ∈ topic.buttons) (inside' : label ∈ topic'.buttons) : topic = topic' := by
  cases topic <;> cases topic' <;> first | rfl | cases source
  all_goals
    simp only [Topic.buttons, Traffic.bytes, Traffic.packets, List.mem_cons, List.not_mem_nil,
      or_false] at inside inside'
    grind

theorem topic_of_place (inside : place ∈ topic.places c) (inside' : place ∈ topic'.places c) :
    topic = topic' := by
  obtain ⟨source, entry | ⟨label, button, here⟩⟩ := mem_places_iff.1 inside
  · obtain ⟨source', entry' | ⟨label', button', here'⟩⟩ := mem_places_iff.1 inside'
    · exact topic_of_entry (source.symm.trans source') entry entry'
    · obtain ⟨group, name, combo⟩ := combo_of_entry entry
      cases here'.trans combo
  · obtain ⟨source', entry' | ⟨label', button', here'⟩⟩ := mem_places_iff.1 inside'
    · obtain ⟨group, name, combo⟩ := combo_of_entry entry'
      cases here.trans combo
    · cases here.trans here'.symm
      exact topic_of_button (source.symm.trans source') button button'

/-- No two charts of a topic are chosen at the same place. -/
theorem nodup_topic_places (keys : ∀ name, (c.sectionKeys name).Nodup)
    (apart : ∀ name ∈ [statSection, accountingSection], c.CpusApart name) (topic : Topic) :
    (topic.places c).Nodup := by
  have groups (a : Account) (account : a.sectionName ∈ [statSection, accountingSection]) :
      (a.entries c).Nodup := by
    have cpus := Capture.nodup_logicalCpus (keys a.sectionName) (apart a.sectionName account)
    exact cpus.map fun cpu cpu' same => cpuLabel_injective (Selector.comboEntry.inj same).2
  have entries : (topic.entries c).Nodup := by
    cases topic with
    | cgroupProcessor => exact groups cgroupAccount (by decide)
    | systemProcessor => exact groups systemAccount (by decide)
    | _ => exact .nil
  have buttons : (topic.buttons.map Selector.button).Nodup := by
    cases topic <;> decide
  refine List.Nodup.map (Prod.mk_right_injective topic.source) ?_
  refine List.nodup_append'.2 ⟨entries, buttons, fun selector inside button => ?_⟩
  obtain ⟨group, entry, rfl⟩ := combo_of_entry inside
  obtain ⟨label, -, same⟩ := List.mem_map.1 button
  cases same

/-- No two charts are chosen at the same place. -/
theorem nodup_places (keys : ∀ name, (c.sectionKeys name).Nodup)
    (apart : ∀ name ∈ [statSection, accountingSection], c.CpusApart name) :
    (Topic.all.flatMap (Topic.places c)).Nodup := by
  have topics : Topic.all.Nodup := by decide
  rw [List.nodup_flatMap]
  refine ⟨fun topic _ => nodup_topic_places keys apart topic, topics.imp ?_⟩
  exact fun other place inside inside' => other (topic_of_place inside inside')

/-! ### The charts of a topic -/

section
variable {c : Context} {charts : List Chart}

theorem Account.cpuChart_at {a : Account}
    (counters : (timestampName :: a.counters.map Counter.column).Nodup) {cpu : Capture.CpuIndex}
    (made : a.cpuChart c cpu = .ok chart) :
    chart.At (a.source, .comboEntry a.group (Account.cpuLabel cpu)) := by
  exact at_single (fun _ => ⟨rfl, rfl, rfl, rfl, rfl⟩) List.map_map counters made

theorem Account.charts_at {a : Account}
    (counters : (timestampName :: a.counters.map Counter.column).Nodup)
    {all : List Capture.CpuIndex → Except Fault Chart}
    (busy : ∀ chart, all (c.capture.logicalCpus a.sectionName) = .ok chart →
      chart.At (a.source, .button "All CPUs")) (made : a.charts c all = .ok charts) :
    charts = [] ∨ List.Forall₂ Chart.At
      ((a.entries c.capture ++ [Selector.button "All CPUs"]).map (a.source, ·)) charts := by
  unfold Account.charts at made
  by_cases none : c.capture.logicalCpus a.sectionName = []
  · simp only [none, if_true] at made
    cases made
    exact .inl rfl
  · simp only [if_neg none] at made
    obtain ⟨each, drawn, made⟩ := bind_eq_ok_iff.1 made
    obtain ⟨last, drawnLast, made⟩ := bind_eq_ok_iff.1 made
    cases made
    right
    rw [List.map_append, Account.entries, List.map_map]
    refine List.rel_append ?_ (.cons (busy last drawnLast) .nil)
    rw [List.forall₂_map_left_iff]
    exact (mapM_eq_ok_iff.1 drawn).imp fun cpu chart made => Account.cpuChart_at counters made

theorem systemBusyChart_at {cpus : List Capture.CpuIndex} (distinct : cpus.Nodup)
    (made : systemBusyChart c cpus = .ok chart) : chart.At (.baremetal, .button "All CPUs") := by
  have names := nodup_cpuLabels distinct (List.nodup_singleton _) (by decide)
  rw [List.append_nil] at names
  refine at_single (fun _ => ⟨rfl, rfl, rfl, rfl, rfl⟩) ?_ names made
  exact List.map_map

theorem cgroupBusyChart_at {cpus : List Capture.CpuIndex} (distinct : cpus.Nodup)
    (made : cgroupBusyChart c cpus = .ok chart) :
    chart.At (.cgroupAggregate, .button "All CPUs") := by
  have limits : (timestampName :: [quotaColumn, throttlingColumn]).Nodup := by decide
  have names := nodup_cpuLabels distinct limits (by decide)
  exact at_double (fun _ => ⟨rfl, rfl, rfl, rfl, rfl⟩) (map_fst_pair _ _) (by decide) names made

theorem systemMemory_at (made : systemMemory c = .ok charts) :
    charts = [] ∨ List.Forall₂ Chart.At [(.baremetal, .button "Memory Usage")] charts := by
  unfold systemMemory at made
  cases found : (c.capture.templateSection? systemMemorySection).bind totalMemory? with
  | none =>
    simp only [found] at made
    cases made
    exact .inl rfl
  | some total =>
    simp only [found] at made
    refine .inr (at_alone (fun chart drawn => ?_) made)
    exact at_single (fun _ => ⟨rfl, rfl, rfl, rfl, rfl⟩) rfl (by decide) drawn

theorem cgroupMemory_at (made : cgroupMemory c = .ok charts) :
    charts = [] ∨ List.Forall₂ Chart.At [(.cgroupAggregate, .button "Memory Usage")] charts := by
  unfold cgroupMemory at made
  by_cases there : c.capture.hasSection cgroupMemorySection
  · rw [if_neg (not_not_intro there)] at made
    refine .inr (at_alone (fun chart drawn => ?_) made)
    cases bound : c.capture.header.memoryLimit? with
    | none =>
      rw [bound] at drawn
      exact at_single (fun _ => ⟨rfl, rfl, rfl, rfl, rfl⟩) rfl (by decide) drawn
    | some limit =>
      rw [bound] at drawn
      have names :
          (timestampName :: (["Used", "Cached"] ++ [freeColumn, failuresColumn])).Nodup := by
        decide
      exact at_double (fun _ => ⟨rfl, rfl, rfl, rfl, rfl⟩) rfl (by decide) names drawn
  · rw [if_pos there] at made
    cases made
    exact .inl rfl

theorem trafficEndings : Endings "+in" "-out" := by
  constructor <;> decide

theorem diskEndings : Endings " Read MB" " Write MB" := by
  constructor <;> decide

theorem network_at {name origin : String} {source : Source}
    (keys : (c.capture.sectionKeys name).Nodup) (made : network c name source origin = .ok charts) :
    charts = [] ∨ List.Forall₂ Chart.At
      ([Traffic.bytes, Traffic.packets].map fun t => (source, .button t.label)) charts := by
  unfold network at made
  by_cases none : c.capture.sectionKeys name = []
  · simp only [none, if_true] at made
    cases made
    exact .inl rfl
  · simp only [if_neg none] at made
    right
    rw [List.forall₂_map_left_iff]
    refine (mapM_eq_ok_iff.1 made).imp fun t chart drawn => ?_
    have names := trafficEndings.nodup keys
    exact at_single (fun _ => ⟨rfl, rfl, rfl, rfl, rfl⟩) (map_fst_pair _ _) names drawn

theorem disks_at (keys : (c.capture.sectionKeys disksSection).Nodup)
    (made : disks c = .ok charts) :
    charts = [] ∨ List.Forall₂ Chart.At [(.baremetal, .button "Disk I/O")] charts := by
  unfold disks at made
  by_cases none : c.capture.sectionKeys disksSection = []
  · simp only [none, if_true] at made
    cases made
    exact .inl rfl
  · simp only [if_neg none] at made
    refine .inr (at_alone (fun chart drawn => ?_) made)
    have names := diskEndings.nodup keys
    exact at_single (fun _ => ⟨rfl, rfl, rfl, rfl, rfl⟩) (map_fst_pair _ _) names drawn

theorem load_at (made : load c = .ok charts) :
    charts = [] ∨ List.Forall₂ Chart.At [(.baremetal, .button "Average Load")] charts := by
  unfold load at made
  by_cases there : c.capture.hasSection loadSection
  · rw [if_neg (not_not_intro there)] at made
    refine .inr (at_alone (fun chart drawn => ?_) made)
    exact at_single (fun _ => ⟨rfl, rfl, rfl, rfl, rfl⟩) rfl (by decide) drawn
  · rw [if_pos there] at made
    cases made
    exact .inl rfl

theorem bubbleChart_at {r : Ranking} (made : bubbleChart c r = .ok chart) :
    chart.At (.cgroupPerTask, .button "Top Tasks") := by
  obtain ⟨empty, created, made⟩ := bind_eq_ok_iff.1 made
  obtain ⟨t, extended, made⟩ := bind_eq_ok_iff.1 made
  have named : ["Command", "CPU time", "I/O", "Task", "Memory"] ≠ [] := by simp
  obtain ⟨empty', created', columns, -⟩ := Table.Categorical.create_eq_ok named
  rw [created'] at created
  cases created
  have kept := Table.Categorical.columns_of_extend (mapError_eq_ok_iff.1 extended)
  refine at_items made rfl rfl rfl rfl rfl ?_
  rw [kept, columns]
  decide

theorem nodup_ids_ranked (c : Capture) (topN : Nat) :
    ((Ranking.ofCapture c topN).ranked.map Task.id).Nodup := by
  have some : (Ranking.ofCapture c topN).ranked.Sublist (rankedTasks c) := by
    rw [ranked_ofCapture, Ranking.cut]
    split
    · exact .refl _
    · exact List.take_sublist _ _
  exact (nodup_ids_rankedTasks c).sublist (some.map Task.id)

theorem usageChart_at {r : Ranking} (distinct : (r.ranked.map Task.id).Nodup)
    (made : usageChart c r = .ok chart) : chart.At (.cgroupPerTask, .button "CPU by Task") := by
  unfold usageChart at made
  obtain ⟨rows, -, drawn⟩ := bind_eq_ok_iff.1 made
  cases bound : c.capture.header.cpuQuotaPercent? with
  | none =>
    rw [bound] at drawn
    have names := nodup_taskLabels Task.command distinct (List.nodup_singleton _) (by decide)
    exact at_single (fun _ => ⟨rfl, rfl, rfl, rfl, rfl⟩) (map_fst_pair _ _) names drawn
  | some quota =>
    rw [bound] at drawn
    have limits : (timestampName :: [idleColumn, throttlingColumn]).Nodup := by decide
    have unlike : ∀ name ∈ timestampName :: [idleColumn, throttlingColumn],
        name.toList.getLast? ≠ some ')' := by decide
    have names := nodup_taskLabels Task.command distinct limits unlike
    exact at_double (fun _ => ⟨rfl, rfl, rfl, rfl, rfl⟩) (map_fst_pair _ _) (by decide) names drawn

theorem memoryChart_at {r : Ranking} (made : memoryChart c r = .ok chart) :
    chart.At (.cgroupPerTask, .button "Memory by Task") := by
  unfold memoryChart at made
  obtain ⟨rows, -, drawn⟩ := bind_eq_ok_iff.1 made
  have distinct : (r.mainIds.map id).Nodup := by
    rw [List.map_id]
    exact nodup_eraseDups _
  have named (others : List (String × String)) :
      ((r.mainIds.map fun id => (r.mainLabel id, bytesUnit)) ++ others).map Prod.fst
        = r.mainIds.map r.mainLabel ++ others.map Prod.fst := by
    rw [List.map_append, List.map_map]
    rfl
  have labels {others : List String} (distinct' : (timestampName :: others).Nodup)
      (unlike : ∀ name ∈ timestampName :: others, name.toList.getLast? ≠ some ')') :
      (timestampName :: (r.mainIds.map r.mainLabel ++ others)).Nodup :=
    nodup_taskLabels (fun id => (r.commands.lookup id).getD "") distinct distinct' unlike
  cases bound : c.capture.header.memoryLimit? with
  | none =>
    rw [bound] at drawn
    have names := labels (List.nodup_singleton _) (by decide)
    exact at_single (fun _ => ⟨rfl, rfl, rfl, rfl, rfl⟩) (named []) names drawn
  | some limit =>
    rw [bound] at drawn
    have limits : (timestampName :: [freeColumn, failuresColumn]).Nodup := by decide
    have unlike : ∀ name ∈ timestampName :: [freeColumn, failuresColumn],
        name.toList.getLast? ≠ some ')' := by decide
    have names := labels limits unlike
    exact at_double (fun _ => ⟨rfl, rfl, rfl, rfl, rfl⟩) (named _) (by decide) names drawn

theorem flowChart_at {r : Ranking} (distinct : (r.ranked.map Task.id).Nodup)
    (made : flowChart c r = .ok chart) : chart.At (.cgroupPerTask, .button "I/O by Task") := by
  have names := nodup_taskLabels Task.command distinct (List.nodup_singleton _) (by decide)
  rw [List.append_nil] at names
  refine at_single (fun _ => ⟨rfl, rfl, rfl, rfl, rfl⟩) ?_ names made
  exact List.map_map

theorem topTasks_at (made : topTasks c = .ok charts) :
    charts = [] ∨ List.Forall₂ Chart.At
      (Topic.topTasks.buttons.map fun label => (.cgroupPerTask, Selector.button label)) charts := by
  have distinct := nodup_ids_ranked c.capture c.topN
  unfold topTasks at made
  by_cases none : (Ranking.ofCapture c.capture c.topN).ranked.isEmpty
  · simp only [none, if_true] at made
    cases made
    exact .inl rfl
  · simp only [if_neg none] at made
    obtain ⟨bubble, bubbleMade, made⟩ := bind_eq_ok_iff.1 made
    obtain ⟨usage, usageMade, made⟩ := bind_eq_ok_iff.1 made
    obtain ⟨memory, memoryMade, made⟩ := bind_eq_ok_iff.1 made
    obtain ⟨flow, flowMade, made⟩ := bind_eq_ok_iff.1 made
    cases made
    exact .inr (.cons (bubbleChart_at bubbleMade) (.cons (usageChart_at distinct usageMade)
      (.cons (memoryChart_at memoryMade) (.cons (flowChart_at distinct flowMade) .nil))))

/-- Every topic has no charts or one for each of its places. -/
theorem Topic.charts_at {topic : Topic} (keys : ∀ name, (c.capture.sectionKeys name).Nodup)
    (apart : ∀ name ∈ [statSection, accountingSection], c.capture.CpusApart name)
    (made : topic.charts c = .ok charts) :
    charts = [] ∨ List.Forall₂ Chart.At (topic.places c.capture) charts := by
  have cpus (name : String) (account : name ∈ [statSection, accountingSection]) :
      (c.capture.logicalCpus name).Nodup :=
    Capture.nodup_logicalCpus (keys name) (apart name account)
  cases topic with
  | cgroupProcessor =>
    exact cgroupAccount.charts_at (by decide)
      (fun _ => cgroupBusyChart_at (cpus accountingSection (by decide))) made
  | cgroupMemory => exact cgroupMemory_at made
  | cgroupNetwork => exact network_at (keys cgroupNetworkSection) made
  | topTasks => exact topTasks_at made
  | systemProcessor =>
    exact systemAccount.charts_at (by decide)
      (fun _ => systemBusyChart_at (cpus statSection (by decide))) made
  | systemMemory => exact systemMemory_at made
  | systemNetwork => exact network_at (keys systemNetworkSection) made
  | disks => exact disks_at (keys disksSection) made
  | load => exact load_at made

end

/-! ### All charts -/

theorem places_of_forall₂ {places : List Place} {charts : List Chart}
    (here : List.Forall₂ Chart.At places charts) : charts.map Chart.place = places := by
  rw [← map_eq_of_forall₂ (here.imp fun _ _ shown => shown.here.symm), List.map_id']

/-- No section of a capture that was read has a key twice. Where that is so and no two keys of a
section spell the same CPU, no two charts of a report are chosen at the same place and no two
columns of a chart share a name. A second axis then measures the last series alone, which is the
throttling or the count of failed allocations, and the first axis measures all others. -/
theorem charts_addressed :
    (∀ least text c, Capture.parse least text = .ok c → ∀ name, (c.sectionKeys name).Nodup)
    ∧ ∀ c : Context, (∀ name, (c.capture.sectionKeys name).Nodup) →
      (∀ name ∈ [statSection, accountingSection], c.capture.CpusApart name) →
        ∃ all, Metric.charts c = .ok all
          ∧ (all.map fun chart => (chart.source, chart.selector)).Nodup
          ∧ ∀ chart ∈ all, chart.columnNames.Nodup
            ∧ ∀ t, chart.data = .timeSeries t → chart.axes.length = 2 →
              ∃ front, ∃ last ∈ [throttlingColumn, failuresColumn],
                t.columnNames = timestampName :: (front ++ [last])
                  ∧ chart.axes.map Chart.Axis.series = [List.range front.length, [front.length]] := by
  refine ⟨fun _ _ _ read => (Capture.distinct_of_parse read).nodup_sectionKeys, ?_⟩
  intro c keys apart
  choose charts made count using Topic.charts_counted c
  have here (topic : Topic) := Topic.charts_at keys apart (made topic)
  have all : Metric.charts c = .ok (Topic.all.flatMap charts) := by
    rw [Metric.charts, mapM_eq_ok fun topic _ => made topic]
    rfl
  refine ⟨_, all, ?_, fun chart inside => ?_⟩
  · have some : ((Topic.all.flatMap charts).map Chart.place).Sublist
        (Topic.all.flatMap (Topic.places c.capture)) := by
      rw [List.map_flatMap]
      refine List.Sublist.flatMap_right _ fun topic _ => ?_
      rcases here topic with none | places
      · rw [none]
        exact List.nil_sublist _
      · rw [places_of_forall₂ places]
    exact (nodup_places keys apart).sublist some
  · obtain ⟨topic, -, inside⟩ := List.mem_flatMap.1 inside
    rcases here topic with none | places
    · rw [none] at inside
      cases inside
    · obtain ⟨place, -, shown⟩ := exists_of_mem_forall₂ places inside
      exact ⟨shown.distinct, shown.secondary⟩

/-- Two CPUs and an interface, and a cgroup of one CPU. -/
def twoCpus : Capture :=
  let sample : Capture.Sample := ⟨[
    ("stat", .object [("cpu0", .object []), ("cpu1", .object []), ("cpu_total", .object [])]),
    ("network_interfaces", .object [("eth0", .object [])]),
    ("cgroup_cpuacct_stats", .object [("cpu1", .object []), ("cpu_tot", .object [])])]⟩
  ⟨{}, [sample, sample]⟩

theorem twoCpus_addressed : (∀ name, (twoCpus.sectionKeys name).Nodup)
    ∧ (∀ name ∈ [statSection, accountingSection], twoCpus.CpusApart name)
    ∧ ∃ all, Metric.charts { capture := twoCpus } = .ok all
      ∧ (all.map fun chart => (chart.source, chart.selector)).Nodup := by
  have inner {keys : List String} (distinct : keys.Nodup) :
      (Json.Value.object (keys.map (·, .object []))).Distinct := by
    refine .object (by rwa [map_fst_pair]) fun field inside => ?_
    obtain ⟨key, -, rfl⟩ := List.mem_map.1 inside
    exact Json.Place.empty_object
  have distinct : twoCpus.Distinct := by
    have stat : ["cpu0", "cpu1", "cpu_total"].Nodup := by decide
    have network : ["eth0"].Nodup := by decide
    have accounting : ["cpu1", "cpu_tot"].Nodup := by decide
    have each : ∀ s ∈ twoCpus.samples, s = twoCpus.samples[0] := by simp [twoCpus]
    intro s inside
    rw [each s inside]
    refine .object (by decide) ?_
    exact List.forall_mem_cons.2 ⟨inner stat, List.forall_mem_cons.2 ⟨inner network,
      List.forall_mem_singleton.2 (inner accounting)⟩⟩
  have keys := distinct.nodup_sectionKeys
  have apart : ∀ name ∈ [statSection, accountingSection], twoCpus.CpusApart name := by
    have spelled : ∀ name ∈ [statSection, accountingSection], ∀ key ∈ twoCpus.sectionKeys name,
        ∀ key' ∈ twoCpus.sectionKeys name, (Capture.cpuIndex? key).isSome →
          Capture.cpuIndex? key = Capture.cpuIndex? key' → key = key' := by
      decide
    intro name account key inside key' inside' cpu here here'
    exact spelled name account key inside key' inside' (Option.isSome_of_eq_some here)
      (here.trans here'.symm)
  obtain ⟨all, made, places, -⟩ := charts_addressed.2 { capture := twoCpus } keys apart
  exact ⟨keys, apart, all, made, places⟩

end Metric

end UsageReport
