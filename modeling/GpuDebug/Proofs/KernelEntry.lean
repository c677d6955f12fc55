import GpuDebug.Proofs.StoppedWaves

/-!
# Stops at the entry to a kernel

The agent stops a dispatch before any wave runs if a command asked for that, by the name of the
kernel or by the name that stands for every kernel. A request carries this second name in two ways,
as the name of a kernel or as a pattern, and the agent is sent the same command for both. The report
of such a stop looks at the requests and not at the commands, so it can miss the breakpoint that the
agent stopped for.

* `Breakpoint.entryCommand?`: the command for a breakpoint on the entry to kernels.
* `BreakpointTable.Explains`, `BreakpointTable.ReportsEntry`: what there is to report;
  `BreakpointTable.ReportsEntry.eq_of_commands` says that it depends on the commands only.
* `BreakpointTable.entered?_eq_some_iff`: what is reported.
* `Op.reportStop_entry_iff`: the main result.
-/

namespace GpuDebug

namespace Breakpoint

/-- For this breakpoint the agent stops at the entry to kernels of a name. -/
def EntersOn (b : Breakpoint) (name : String) : Prop :=
  b.request.location.kernelName? = some name

instance (b : Breakpoint) (name : String) : Decidable (b.EntersOn name) :=
  inferInstanceAs (Decidable (_ = _))

/-- The report of a stop at the entry to a kernel. -/
def entryReport (b : Breakpoint) (kernel : String) : StopReport :=
  .kernelEntry b.number kernel b.printCondition

/-- The command that creates the breakpoint, if it is on the entry to kernels. -/
def entryCommand? (b : Breakpoint) : Option Command :=
  b.request.location.kernelName?.map fun name =>
    .createKernel b.request.number name b.request.condition.toPacket

variable {b c : Breakpoint} {name : String}

theorem entersOn_of_kernel (h : b.request.location = .kernel name) : b.EntersOn name := by
  rw [EntersOn, h, Location.kernelName?]

theorem mem_entryCommand?_iff {command : Command} :
    b.entryCommand? = some command ↔
      ∃ name, b.EntersOn name ∧
        command = .createKernel b.request.number name b.request.condition.toPacket := by
  unfold entryCommand? EntersOn
  rw [Option.map_eq_some_iff]
  exact exists_congr fun name => and_congr_right fun _ => eq_comm

/-- The condition that the user is shown is the one that the agent was sent. -/
theorem printCondition_eq_of_toPacket_eq
    (h : b.request.condition.toPacket = c.request.condition.toPacket) :
    b.printCondition = c.printCondition := by
  have hcode : ∀ condition : Condition, condition.toPacket.code = condition.code := by
    intro condition
    unfold Condition.toPacket
    cases condition.code <;> rfl
  have hcodes : b.request.condition.code = c.request.condition.code := by
    rw [← hcode, ← hcode, h]
  unfold printCondition
  dsimp only
  rw [hcodes]
  by_cases hequal : c.request.condition.code = .equal
  · rw [Condition.toPacket, Condition.toPacket, hcodes, hequal] at h
    obtain ⟨-, hgroup, hitem⟩ := PacketCondition.mk.inj h
    rw [hgroup, hitem]
  · rw [if_neg hequal, if_neg hequal]

end Breakpoint

namespace BreakpointTable

/-- The breakpoint is the one of the least number for which the agent stops at the entry to kernels
of a name. -/
structure FirstOn (t : BreakpointTable) (name : String) (b : Breakpoint) : Prop where
  mem : b ∈ t.entries
  enters : b.EntersOn name
  least : ∀ c ∈ t.entries, c.EntersOn name → b.number ≤ c.number

/-- The breakpoint explains a stop at the entry to a kernel: it is the first one on this kernel, or,
if there is none, the first one on every kernel. -/
def Explains (t : BreakpointTable) (kernel : String) (b : Breakpoint) : Prop :=
  t.FirstOn kernel b ∨
    (∀ c ∈ t.entries, ¬ c.EntersOn kernel) ∧ t.FirstOn Location.anyKernel b

/-- No breakpoint explains a stop at the entry to a kernel. -/
def Unexplained (t : BreakpointTable) (kernel : String) : Prop :=
  ∀ c ∈ t.entries, ¬ c.EntersOn kernel ∧ ¬ c.EntersOn Location.anyKernel

/-- The report is the breakpoint that explains the stop, and there is none if no breakpoint
does. -/
structure ReportsEntry (t : BreakpointTable) (kernel : String) (report : Option StopReport) :
    Prop where
  explained : ∀ b, t.Explains kernel b → report = some (b.entryReport kernel)
  unexplained : t.Unexplained kernel → report = none

variable {t t' : BreakpointTable} {kernel name : String} {b c : Breakpoint}

theorem Ascending.exists_firstOn (h : t.Ascending) (hc : c ∈ t.entries)
    (henters : c.EntersOn name) : ∃ b, t.FirstOn name b := by
  cases hfind : t.entries.find? fun b => decide (b.EntersOn name) with
  | none => exact absurd henters (by simpa using List.find?_eq_none.mp hfind c hc)
  | some b =>
    obtain ⟨hb, hon, hleast⟩ := h.find?_eq_some_iff.mp hfind
    exact ⟨b, hb, by simpa using hon, by simpa using hleast⟩

/-- A stop is explained by some breakpoint or by none. -/
theorem Ascending.explained_or (h : t.Ascending) (kernel : String) :
    (∃ b, t.Explains kernel b) ∨ t.Unexplained kernel := by
  by_cases hkernel : ∃ c ∈ t.entries, c.EntersOn kernel
  · obtain ⟨c, hc, henters⟩ := hkernel
    obtain ⟨b, hb⟩ := h.exists_firstOn hc henters
    exact .inl ⟨b, .inl hb⟩
  · have hnone : ∀ c ∈ t.entries, ¬ c.EntersOn kernel := by simpa using hkernel
    by_cases hany : ∃ c ∈ t.entries, c.EntersOn Location.anyKernel
    · obtain ⟨c, hc, henters⟩ := hany
      obtain ⟨b, hb⟩ := h.exists_firstOn hc henters
      exact .inl ⟨b, .inr ⟨hnone, hb⟩⟩
    · have hnoany : ∀ c ∈ t.entries, ¬ c.EntersOn Location.anyKernel := by simpa using hany
      exact .inr fun c hc => ⟨hnone c hc, hnoany c hc⟩

/-! ## What the agent was told -/

/-- The commands for the breakpoints on the entry to kernels. -/
def entryCommands (t : BreakpointTable) : List Command :=
  t.entries.filterMap Breakpoint.entryCommand?

/-- The breakpoints are stored under the numbers of their requests. -/
def Numbered (t : BreakpointTable) : Prop :=
  ∀ b ∈ t.entries, b.request.number = b.number

/-- A table with the same commands has a breakpoint of the same number, for the same name, that is
shown with the same condition. -/
theorem exists_of_commands (h : ∀ command ∈ t.entryCommands, command ∈ t'.entryCommands)
    (hn : t.Numbered) (hn' : t'.Numbered) (hb : b ∈ t.entries) (henters : b.EntersOn name) :
    ∃ c ∈ t'.entries, c.EntersOn name ∧ c.number = b.number ∧
      c.printCondition = b.printCondition := by
  have hcommand := h _ (List.mem_filterMap.mpr
    ⟨b, hb, Breakpoint.mem_entryCommand?_iff.mpr ⟨name, henters, rfl⟩⟩)
  obtain ⟨c, hc, hcommand⟩ := List.mem_filterMap.mp hcommand
  obtain ⟨name', henters', heq⟩ := Breakpoint.mem_entryCommand?_iff.mp hcommand
  obtain ⟨hnumber, hcondition, hname⟩ : b.request.number = c.request.number ∧
      b.request.condition.toPacket = c.request.condition.toPacket ∧ name = name' := by
    simpa [Command.createKernel] using heq
  subst hname
  refine ⟨c, hc, henters', ?_, Breakpoint.printCondition_eq_of_toPacket_eq hcondition.symm⟩
  rw [← hn' c hc, ← hn b hb, hnumber]

section Commands

variable (h : ∀ command, command ∈ t.entryCommands ↔ command ∈ t'.entryCommands)
  (hn : t.Numbered) (hn' : t'.Numbered)

include h hn hn'

theorem FirstOn.of_commands (hb : t.FirstOn name b) :
    ∃ c, t'.FirstOn name c ∧ c.number = b.number ∧ c.printCondition = b.printCondition := by
  obtain ⟨c, hc, henters, hnumber, hcondition⟩ :=
    exists_of_commands (fun command => (h command).mp) hn hn' hb.mem hb.enters
  refine ⟨c, ⟨hc, henters, fun e he henters' => ?_⟩, hnumber, hcondition⟩
  obtain ⟨e', he', henters', hnumber', -⟩ :=
    exists_of_commands (fun command => (h command).mpr) hn' hn he henters'
  rw [hnumber, ← hnumber']
  exact hb.least e' he' henters'

theorem not_entersOn_of_commands (hnone : ∀ c ∈ t.entries, ¬ c.EntersOn name) :
    ∀ c ∈ t'.entries, ¬ c.EntersOn name := by
  intro c hc henters
  obtain ⟨e, he, henters', -⟩ :=
    exists_of_commands (fun command => (h command).mpr) hn' hn hc henters
  exact hnone e he henters'

/-- What there is to report depends on the commands only. -/
theorem ReportsEntry.eq_of_commands (hascending : t.Ascending) {report report' : Option StopReport}
    (hr : t.ReportsEntry kernel report) (hr' : t'.ReportsEntry kernel report') :
    report = report' := by
  have same : ∀ {b c : Breakpoint}, c.number = b.number → c.printCondition = b.printCondition →
      b.entryReport kernel = c.entryReport kernel := by
    intro b c hnumber hcondition
    rw [Breakpoint.entryReport, Breakpoint.entryReport, hnumber, hcondition]
  rcases hascending.explained_or kernel with ⟨b, hb⟩ | hnone
  · rw [hr.explained b hb]
    rcases hb with hfirst | ⟨hnone, hfirst⟩
    · obtain ⟨c, hc, hnumber, hcondition⟩ := hfirst.of_commands h hn hn'
      rw [hr'.explained c (.inl hc), same hnumber hcondition]
    · obtain ⟨c, hc, hnumber, hcondition⟩ := hfirst.of_commands h hn hn'
      rw [hr'.explained c (.inr ⟨not_entersOn_of_commands h hn hn' hnone, hc⟩),
        same hnumber hcondition]
  · rw [hr.unexplained hnone]
    refine (hr'.unexplained fun c hc => ⟨?_, ?_⟩).symm
    · exact not_entersOn_of_commands h hn hn' (fun c hc => (hnone c hc).1) c hc
    · exact not_entersOn_of_commands h hn hn' (fun c hc => (hnone c hc).2) c hc

end Commands

/-! ## What is reported -/

/-- The breakpoint that is reported for a stop at the entry to a kernel. -/
def entered? (t : BreakpointTable) (kernel : String) : Option Breakpoint :=
  t.entries.find? (·.request.location == .kernel kernel) <|>
    t.entries.find? (·.request.kind == .anywhere)

/-- A breakpoint that names the kernel comes before every pattern, whatever the pattern is. -/
theorem entered?_eq_some_iff (h : t.Ascending) :
    t.entered? kernel = some b ↔ b ∈ t.entries ∧
      (b.request.location = .kernel kernel ∧
          (∀ c ∈ t.entries, c.request.location = .kernel kernel → b.number ≤ c.number) ∨
        b.request.kind = .anywhere ∧ (∀ c ∈ t.entries, c.request.location ≠ .kernel kernel) ∧
          ∀ c ∈ t.entries, c.request.kind = .anywhere → b.number ≤ c.number) := by
  unfold entered?
  cases hkernel : t.entries.find? (·.request.location == .kernel kernel) with
  | some c =>
    obtain ⟨hc, hlocation, hleast⟩ := h.find?_eq_some_iff.mp hkernel
    simp only [beq_iff_eq] at hlocation hleast
    rw [Option.orElse_eq_orElse, Option.orElse_some, Option.some.injEq]
    constructor
    · rintro rfl
      exact ⟨hc, .inl ⟨hlocation, hleast⟩⟩
    · rintro ⟨hb, ⟨hlocation', hleast'⟩ | ⟨-, hnone, -⟩⟩
      · exact h.eq_of_number_eq hc hb
          (Int32.le_antisymm (hleast b hb hlocation') (hleast' c hc hlocation))
      · exact absurd hlocation (hnone c hc)
  | none =>
    have hnone : ∀ c ∈ t.entries, c.request.location ≠ .kernel kernel := by
      simpa using List.find?_eq_none.mp hkernel
    rw [Option.orElse_eq_orElse, Option.orElse_none, h.find?_eq_some_iff]
    simp only [beq_iff_eq]
    refine and_congr_right fun hb => ⟨fun hany => .inr ⟨hany.1, hnone, hany.2⟩, ?_⟩
    rintro (⟨hlocation, -⟩ | ⟨hany, -, hleast⟩)
    · exact absurd hlocation (hnone b hb)
    · exact ⟨hany, hleast⟩

theorem entered?_eq_none_iff :
    t.entered? kernel = none ↔
      ∀ c ∈ t.entries, c.request.location ≠ .kernel kernel ∧ c.request.kind ≠ .anywhere := by
  have hboth : ∀ x y : Option Breakpoint, (x <|> y) = none ↔ x = none ∧ y = none := by
    intro x y
    cases x <;> simp
  unfold entered?
  rw [hboth, List.find?_eq_none, List.find?_eq_none]
  simp [forall_and]

/-- The breakpoint that explains a stop is the one that is reported if it names the kernel, or else
if no breakpoint does and no pattern has a lesser number. -/
theorem Explains.entered?_iff (hb : t.Explains kernel b) (h : t.Ascending) :
    t.entered? kernel = some b ↔
      b.request.location = .kernel kernel ∨
        b.request.kind = .anywhere ∧ (∀ c ∈ t.entries, c.request.location ≠ .kernel kernel) ∧
          ∀ c ∈ t.entries, c.request.kind = .anywhere → b.number ≤ c.number := by
  have hmem : b ∈ t.entries := hb.elim (·.mem) (·.2.mem)
  rw [entered?_eq_some_iff h]
  constructor
  · rintro ⟨-, ⟨hlocation, -⟩ | hany⟩
    · exact .inl hlocation
    · exact .inr hany
  · rintro (hlocation | hany)
    · refine ⟨hmem, .inl ⟨hlocation, fun c hc hc' => ?_⟩⟩
      rcases hb with hfirst | ⟨hnone, -⟩
      · exact hfirst.least c hc (Breakpoint.entersOn_of_kernel hc')
      · exact absurd (Breakpoint.entersOn_of_kernel hlocation) (hnone b hmem)
    · exact ⟨hmem, .inr hany⟩

/-- **When the report is what it should be.** The breakpoint that explains the stop names the
kernel, or it is a pattern, no breakpoint names the kernel and no other pattern has a lesser number;
and where nothing explains the stop there is no pattern at all. -/
theorem reportsEntry_iff (h : t.Ascending) :
    t.ReportsEntry kernel ((t.entered? kernel).map (·.entryReport kernel)) ↔
      (∀ b, t.Explains kernel b →
        b.request.location = .kernel kernel ∨
          b.request.kind = .anywhere ∧ (∀ c ∈ t.entries, c.request.location ≠ .kernel kernel) ∧
            ∀ c ∈ t.entries, c.request.kind = .anywhere → b.number ≤ c.number) ∧
      (t.Unexplained kernel → ∀ c ∈ t.entries, c.request.kind ≠ .anywhere) := by
  have hreport : ∀ b ∈ t.entries,
      ((t.entered? kernel).map (·.entryReport kernel) = some (b.entryReport kernel) ↔
        t.entered? kernel = some b) := by
    intro b hb
    constructor
    · intro hmap
      obtain ⟨c, hc, heq⟩ := Option.map_eq_some_iff.mp hmap
      have hnumber : c.number = b.number := (StopReport.kernelEntry.inj heq).1
      rw [hc, h.eq_of_number_eq ((entered?_eq_some_iff h).mp hc).1 hb hnumber]
    · intro hentered
      rw [hentered, Option.map_some]
  have hnone : t.Unexplained kernel →
      (t.entered? kernel = none ↔ ∀ c ∈ t.entries, c.request.kind ≠ .anywhere) := by
    intro hun
    rw [entered?_eq_none_iff]
    refine forall₂_congr fun c hc => and_iff_right fun hlocation => ?_
    exact (hun c hc).1 (Breakpoint.entersOn_of_kernel hlocation)
  have hmem : ∀ {b}, t.Explains kernel b → b ∈ t.entries := fun hb => hb.elim (·.mem) (·.2.mem)
  constructor
  · rintro ⟨hexplained, hunexplained⟩
    refine ⟨fun b hb => ?_, fun hun =>
      (hnone hun).mp (Option.map_eq_none_iff.mp (hunexplained hun))⟩
    exact (hb.entered?_iff h).mp ((hreport b (hmem hb)).mp (hexplained b hb))
  · rintro ⟨hexplained, hunexplained⟩
    refine ⟨fun b hb => ?_, fun hun =>
      Option.map_eq_none_iff.mpr ((hnone hun).mpr (hunexplained hun))⟩
    exact (hreport b (hmem hb)).mpr ((hb.entered?_iff h).mpr (hexplained b hb))

end BreakpointTable

theorem Session.entryReport?_eq {s : Session} {kernel : String} (t : BreakpointTable)
    (h : s.kernels.activeName? = some kernel) :
    s.entryReport? t = (t.entered? kernel).map (·.entryReport kernel) := by
  unfold entryReport? BreakpointTable.entered?
  rw [h, Option.bind_eq_bind, Option.bind_some, Option.map_eq_bind]
  rfl

namespace Op

/-- The report of a stop while no wave is live. -/
theorem run_reportStop_entry {d : Debugger} (hwaves : d.publishedWaves = .ok [])
    (hentered : d.session.agent.predispatch = .entered) :
    ∃ d', reportStop.run d = .ok (d.session.entryReport? d.host.breakpoints) d' := by
  have hfind := run_findReport_of_nil hwaves
  rw [if_pos hentered] at hfind
  exact ⟨_, run_reportStop_of_ok hfind⟩

/-- **A stop at the entry to a kernel is reported as the breakpoint that explains it exactly if the
request of this one is not hidden by the form of a request.** No wave is live and the dispatching
thread has entered the dispatch of a kernel. The report is the first breakpoint whose command names
the kernel, or else the first one whose command names every kernel, and none if there is none, if
and only if that breakpoint names the kernel, or is a pattern while no breakpoint names the kernel
and no other pattern comes before it, and no pattern is there if nothing explains the stop. Tables
with the same commands have the same reports where this holds. -/
theorem reportStop_entry_iff {d : Debugger} {kernel : String} (hwaves : d.publishedWaves = .ok [])
    (hentered : d.session.agent.predispatch = .entered)
    (hactive : d.session.kernels.activeName? = some kernel)
    (hascending : d.host.breakpoints.Ascending) :
    ∃ report d', reportStop.run d = .ok report d' ∧
      (d.host.breakpoints.ReportsEntry kernel report ↔
        (∀ b, d.host.breakpoints.Explains kernel b →
          b.request.location = .kernel kernel ∨
            b.request.kind = .anywhere ∧
              (∀ c ∈ d.host.breakpoints.entries, c.request.location ≠ .kernel kernel) ∧
              ∀ c ∈ d.host.breakpoints.entries, c.request.kind = .anywhere →
                b.number ≤ c.number) ∧
        (d.host.breakpoints.Unexplained kernel →
          ∀ c ∈ d.host.breakpoints.entries, c.request.kind ≠ .anywhere)) ∧
      ∀ (t : BreakpointTable) (report' : Option StopReport),
        d.host.breakpoints.Numbered → t.Numbered →
        (∀ command, command ∈ d.host.breakpoints.entryCommands ↔ command ∈ t.entryCommands) →
        d.host.breakpoints.ReportsEntry kernel report → t.ReportsEntry kernel report' →
        report = report' := by
  obtain ⟨d', hrun⟩ := run_reportStop_entry hwaves hentered
  refine ⟨_, d', hrun, ?_, fun t report' hn hn' hsame hr hr' => ?_⟩
  · rw [Session.entryReport?_eq _ hactive]
    exact BreakpointTable.reportsEntry_iff hascending
  · exact hr.eq_of_commands hsame hn hn' hascending hr'

/-! ## Every kernel, by name -/

/-- A breakpoint was typed with the name that stands for every kernel, and a kernel is entered. -/
def entering : Debugger :=
  Debugger.fresh.after [.openChannel .onPipe, .store ⟨1, .any, .kernel "*"⟩,
    .resolve ⟨1, .any, .kernel "*"⟩, .notification published,
    .notification (.predispatch .entered 7)]

/-- The agent was asked to stop at every kernel, and its stop is not explained. -/
theorem star_as_name_is_missed :
    entering.session.grammar.parse 1 "rocm:*" none = .ok ⟨1, .any, .kernel "*"⟩ ∧
    ∃ b report d', entering.host.breakpoints.Explains "k" b ∧ b.number = 1 ∧
      reportStop.run entering = .ok report d' ∧
      ¬ entering.host.breakpoints.ReportsEntry "k" report := by
  refine ⟨rfl, ?_⟩
  obtain ⟨report, d', hrun, hreports, -⟩ :=
    @reportStop_entry_iff entering "k" rfl rfl rfl (by decide)
  have hentries : entering.host.breakpoints.entries =
      [⟨1, ⟨1, .any, .kernel "*"⟩, none, none, 0, true⟩] := rfl
  have hfirst : entering.host.breakpoints.Explains "k"
      ⟨1, ⟨1, .any, .kernel "*"⟩, none, none, 0, true⟩ := by
    refine .inr ⟨?_, by simp [hentries], by decide, ?_⟩
    · rw [hentries]
      decide
    · rw [hentries]
      decide
  refine ⟨_, report, d', hfirst, rfl, hrun, fun h => ?_⟩
  rcases (hreports.mp h).1 _ hfirst with hname | ⟨hany, -⟩
  · exact absurd hname (by decide)
  · exact absurd hany (by decide)

end Op

end GpuDebug
