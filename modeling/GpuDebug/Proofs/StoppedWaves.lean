import GpuDebug.Proofs.Reload

/-!
# Stops on breakpoints

A stop should be reported as the breakpoint that comes first: of the waves that stand on a
breakpoint and satisfy its condition the first one in the table, and of its breakpoints the one of
the least number. The waves are searched in one pass, and each of them is compared with one
breakpoint only, the first one at its address. So the report can be another one, for two reasons: a
wave further up stands on no breakpoint but on a line, or the first breakpoint at the address has a
condition that the wave does not satisfy.

* `Breakpoint.Stops`, `BreakpointTable.FirstStop`: what there is to report.
* `BreakpointTable.Reports`: the report is what it should be.
* `Session.stopReport?`: the search of the waves; `Session.reports_iff` says when it finds what it
  should.
* `Op.reportStop_reports_iff`: the main result.
-/

namespace GpuDebug

namespace Breakpoint

/-- The wave stands on the breakpoint and satisfies its condition. -/
def Stops (b : Breakpoint) (w : Wave) : Prop :=
  b.pc = some w.pc ∧ b.request.condition.admits w.workGroup = true

instance (b : Breakpoint) (w : Wave) : Decidable (b.Stops w) :=
  inferInstanceAs (Decidable (_ ∧ _))

/-- The report of a stop on the breakpoint. -/
def report (b : Breakpoint) : StopReport :=
  .breakpoint b.number b.printLocation b.printCondition

end Breakpoint

namespace BreakpointTable

/-- The breakpoint stops the wave, none stops a wave before it, and none of a lesser number stops
it. -/
structure FirstStop (t : BreakpointTable) (before : List Wave) (w : Wave) (b : Breakpoint) :
    Prop where
  earlier : ∀ v ∈ before, ∀ c ∈ t.entries, ¬ c.Stops v
  mem : b ∈ t.entries
  stops : b.Stops w
  least : ∀ c ∈ t.entries, c.Stops w → b.number ≤ c.number

/-- The report is the breakpoint that comes first, and no breakpoint at all if none stops a wave. -/
structure Reports (t : BreakpointTable) (waves : List Wave) (report : Option StopReport) :
    Prop where
  first : ∀ before w after b, waves = before ++ w :: after → t.FirstStop before w b →
    report = some b.report
  unstopped : (∀ w ∈ waves, ∀ b ∈ t.entries, ¬ b.Stops w) →
    ∀ number location condition, report ≠ some (.breakpoint number location condition)

end BreakpointTable

/-! ## One wave -/

namespace Session

variable {s : Session} {t : BreakpointTable} {v w : Wave} {b : Breakpoint}

theorem breakpointAt?_eq_some_iff (h : t.Ascending) {pc : UInt64} :
    breakpointAt? t pc = some b ↔
      b ∈ t.entries ∧ b.pc = some pc ∧ ∀ c ∈ t.entries, c.pc = some pc → b.number ≤ c.number := by
  unfold breakpointAt?
  rw [h.find?_eq_some_iff]
  simp

theorem breakpointAt?_eq_none_iff {pc : UInt64} :
    breakpointAt? t pc = none ↔ ∀ c ∈ t.entries, c.pc ≠ some pc := by
  simp [breakpointAt?]

theorem mem_of_breakpointAt? {pc : UInt64} (h : breakpointAt? t pc = some b) :
    b ∈ t.entries ∧ b.pc = some pc := by
  unfold breakpointAt? at h
  refine ⟨List.mem_of_find?_eq_some h, ?_⟩
  simpa using List.find?_some h

/-- The report for one wave, without the focus. -/
def reportOf? (s : Session) (t : BreakpointTable) (w : Wave) : Option StopReport :=
  (s.waveReport? t w).map (·.1)

theorem reportOf?_of_breakpointAt? (h : breakpointAt? t w.pc = some b) :
    s.reportOf? t w = if b.Stops w then some b.report else none := by
  have hpc := (mem_of_breakpointAt? h).2
  unfold reportOf? waveReport?
  rw [h]
  by_cases hadmits : b.request.condition.admits w.workGroup = true
  · have hstops : b.Stops w := ⟨hpc, hadmits⟩
    simp [hadmits, hstops, Breakpoint.report]
  · have hstops : ¬ b.Stops w := fun h => hadmits h.2
    simp [hadmits, hstops]

theorem reportOf?_of_none (h : breakpointAt? t w.pc = none) :
    s.reportOf? t w = s.lineReport? w.pc := by
  unfold reportOf? waveReport?
  rw [h]
  cases s.lineReport? w.pc with
  | none => rfl
  | some r => rfl

theorem lineReport?_ne_breakpoint (pc : UInt64) (number : Int32) (location : String)
    (condition : Option String) :
    s.lineReport? pc ≠ some (.breakpoint number location condition) := by
  intro h
  unfold lineReport? at h
  obtain ⟨address, -, h⟩ := Option.bind_eq_some_iff.mp h
  obtain ⟨⟨line, file⟩, -, h⟩ := Option.bind_eq_some_iff.mp h
  by_cases hline : line = 0
  · simp [hline] at h
  · simp [hline] at h

/-- A report of a breakpoint is the one at the wave's address. -/
theorem breakpointAt?_of_reportOf? {number : Int32} {location : String} {condition : Option String}
    (h : s.reportOf? t w = some (.breakpoint number location condition)) :
    ∃ b, breakpointAt? t w.pc = some b ∧ b.Stops w ∧ b.number = number := by
  cases hat : breakpointAt? t w.pc with
  | none =>
    rw [reportOf?_of_none hat] at h
    exact absurd h (lineReport?_ne_breakpoint _ _ _ _)
  | some b =>
    rw [reportOf?_of_breakpointAt? hat] at h
    by_cases hstops : b.Stops w
    · rw [if_pos hstops] at h
      cases h
      exact ⟨b, rfl, hstops, rfl⟩
    · rw [if_neg hstops] at h
      cases h

/-- A wave that no breakpoint stops is passed over if it stands on one, or on no line. -/
theorem reportOf?_eq_none_iff (h : ∀ c ∈ t.entries, ¬ c.Stops v) :
    s.reportOf? t v = none ↔ (∃ c ∈ t.entries, c.pc = some v.pc) ∨ s.lineReport? v.pc = none := by
  cases hat : breakpointAt? t v.pc with
  | none =>
    rw [reportOf?_of_none hat]
    have hoff : ¬ ∃ c ∈ t.entries, c.pc = some v.pc := by
      simpa using breakpointAt?_eq_none_iff.mp hat
    simp [hoff]
  | some c =>
    obtain ⟨hc, hpc⟩ := mem_of_breakpointAt? hat
    rw [reportOf?_of_breakpointAt? hat, if_neg (h c hc)]
    exact iff_of_true rfl (.inl ⟨c, hc, hpc⟩)

/-- A breakpoint that stops a wave is reported for it if it has the least number at its address. -/
theorem reportOf?_eq_report_iff (h : t.Ascending) (hb : b ∈ t.entries) (hstops : b.Stops w) :
    s.reportOf? t w = some b.report ↔
      ∀ c ∈ t.entries, c.pc = some w.pc → b.number ≤ c.number := by
  constructor
  · intro hreport
    obtain ⟨c, hat, -, hnumber⟩ := breakpointAt?_of_reportOf? hreport
    have hcb : c = b := h.eq_of_number_eq (mem_of_breakpointAt? hat).1 hb hnumber
    rw [← hcb]
    exact ((breakpointAt?_eq_some_iff h).mp hat).2.2
  · intro hleast
    have hat : breakpointAt? t w.pc = some b :=
      (breakpointAt?_eq_some_iff h).mpr ⟨hb, hstops.1, hleast⟩
    rw [reportOf?_of_breakpointAt? hat, if_pos hstops]

/-! ## The search of the waves -/

/-- The report for the first of some waves that has one. -/
def stopReport? (s : Session) (t : BreakpointTable) (waves : List Wave) : Option StopReport :=
  (waves.findSome? (s.waveReport? t)).map (·.1)

theorem stopReport?_eq_findSome? (s : Session) (t : BreakpointTable) (waves : List Wave) :
    s.stopReport? t waves = waves.findSome? (s.reportOf? t) :=
  List.map_findSome?

/-- The breakpoint that comes first is reported if the waves before have no report and its own wave
has this one. A wave further down cannot have it: it would stand at the same address. -/
theorem stopReport?_eq_report_iff (h : t.Ascending) {before after : List Wave}
    (hfirst : t.FirstStop before w b) :
    s.stopReport? t (before ++ w :: after) = some b.report ↔
      (∀ v ∈ before, s.reportOf? t v = none) ∧ s.reportOf? t w = some b.report := by
  rw [stopReport?_eq_findSome?, List.findSome?_append, List.findSome?_cons]
  constructor
  · intro hreport
    cases hbefore : before.findSome? (s.reportOf? t) with
    | some r =>
      rw [hbefore, Option.some_or] at hreport
      cases hreport
      obtain ⟨v, hv, hr⟩ := List.exists_of_findSome?_eq_some hbefore
      obtain ⟨c, hat, hstops, -⟩ := breakpointAt?_of_reportOf? hr
      exact absurd hstops (hfirst.earlier v hv c (mem_of_breakpointAt? hat).1)
    | none =>
      refine ⟨List.findSome?_eq_none_iff.mp hbefore, ?_⟩
      rw [hbefore, Option.none_or] at hreport
      cases hw : s.reportOf? t w with
      | some r =>
        rw [hw] at hreport
        exact hreport
      | none =>
        rw [hw] at hreport
        obtain ⟨v, -, hr⟩ := List.exists_of_findSome?_eq_some hreport
        obtain ⟨c, hat, -, hnumber⟩ := breakpointAt?_of_reportOf? hr
        obtain ⟨hc, hpc⟩ := mem_of_breakpointAt? hat
        have hcb : c = b := h.eq_of_number_eq hc hfirst.mem hnumber
        have hsame : v.pc = w.pc := by
          have hb := hfirst.stops.1
          rw [← hcb, hpc] at hb
          exact Option.some.inj hb
        rw [hcb, hsame] at hat
        rw [reportOf?_of_breakpointAt? hat, if_pos hfirst.stops] at hw
        cases hw
  · rintro ⟨hbefore, hw⟩
    rw [List.findSome?_eq_none_iff.mpr hbefore, hw]
    rfl

/-- **When the search finds what it should.** The waves before the first one that is stopped stand
on breakpoints or on no line, and the breakpoint that stops it has the least number of all at its
address. -/
theorem reports_iff (h : t.Ascending) (waves : List Wave) :
    t.Reports waves (s.stopReport? t waves) ↔
      ∀ before w after b, waves = before ++ w :: after → t.FirstStop before w b →
        (∀ v ∈ before, (∃ c ∈ t.entries, c.pc = some v.pc) ∨ s.lineReport? v.pc = none) ∧
          ∀ c ∈ t.entries, c.pc = some w.pc → b.number ≤ c.number := by
  have hone : ∀ before w after b, waves = before ++ w :: after → t.FirstStop before w b →
      (s.stopReport? t waves = some b.report ↔
        (∀ v ∈ before, (∃ c ∈ t.entries, c.pc = some v.pc) ∨ s.lineReport? v.pc = none) ∧
          ∀ c ∈ t.entries, c.pc = some w.pc → b.number ≤ c.number) := by
    intro before w after b hsplit hfirst
    rw [hsplit, stopReport?_eq_report_iff h hfirst,
      reportOf?_eq_report_iff h hfirst.mem hfirst.stops]
    refine and_congr_left fun _ => forall₂_congr fun v hv => ?_
    exact reportOf?_eq_none_iff (hfirst.earlier v hv)
  constructor
  · intro hreports before w after b hsplit hfirst
    exact (hone before w after b hsplit hfirst).mp (hreports.first before w after b hsplit hfirst)
  · intro hall
    refine ⟨fun before w after b hsplit hfirst => ?_, ?_⟩
    · exact (hone before w after b hsplit hfirst).mpr (hall before w after b hsplit hfirst)
    · intro hunstopped number location condition hreport
      rw [stopReport?_eq_findSome?] at hreport
      obtain ⟨v, hv, hr⟩ := List.exists_of_findSome?_eq_some hreport
      obtain ⟨c, hat, hstops, -⟩ := breakpointAt?_of_reportOf? hr
      exact hunstopped v hv c (mem_of_breakpointAt? hat).1 hstops

end Session

/-! ## The whole report -/

namespace Op

theorem publishedWaves_of_decodes {d : Debugger} {raw : Bytes} {waves : List Wave}
    (hraw : d.world.memory.read .waveInfo = some raw)
    (hdecode : Wave.decodeTable raw d.session.agent.activeWaves.toNat = .ok waves) :
    d.publishedWaves = .ok waves := by
  unfold Debugger.publishedWaves
  split
  · next hcount =>
    rw [hcount] at hdecode
    exact hdecode
  · rw [hraw]
    exact hdecode

theorem run_findReport_of_nil {d : Debugger} (h : d.publishedWaves = .ok []) :
    findReport.run d =
      .ok (if d.session.agent.predispatch = .entered then
        d.session.entryReport? d.host.breakpoints else none) d := by
  unfold findReport
  rw [bind_of_ok (run_readWaves_of_ok h), bind_of_ok (run_session d)]
  split <;> rfl

theorem run_findReport_of_cons {d : Debugger} {first : Wave} {others : List Wave}
    (h : d.publishedWaves = .ok (first :: others)) :
    findReport.run d = (reportWaves first (first :: others)).run d := by
  unfold findReport
  rw [bind_of_ok (run_readWaves_of_ok h)]

/-- The lines that a report shows. -/
def reportLines (report : Option StopReport) : List String :=
  (report.elim [] StopReport.lines).map (noticeMark ++ ·)

/-- Printing the report comes last. -/
theorem run_reportStop_of_ok {d d' : Debugger} {report : Option StopReport}
    (h : findReport.run d = .ok report d') :
    reportStop.run d = .ok report (d'.showing (reportLines report)) := by
  unfold reportStop
  rw [bind_of_ok h]
  cases report with
  | none => simp [reportLines, Debugger.showing_nil]
  | some r =>
    dsimp only
    rw [bind_of_ok (run_forM_notify r.lines d')]
    rfl

/-- The state with another focus. -/
def focusing (d : Debugger) (focus : Focus) : Debugger :=
  { d with session := { d.session with focus } }

theorem run_moveFocusSilently (target : Focus) (waves : List Wave) (d : Debugger) :
    ∃ moved focus, (moveFocusSilently target waves).run d = .ok moved (focusing d focus) :=
  ⟨_, _, rfl⟩

/-- Searching some waves, once the focus is known. -/
def searchWaves (waves : List Wave) (moved : Bool) : Op (Option StopReport) := do
  let s ← session
  let breakpoints := (← host).breakpoints
  let found := waves.findSome? (s.waveReport? breakpoints)
  let movedAgain ← match found.bind (·.2) with
    | some target => moveFocusSilently target waves
    | none => pure false
  if moved || movedAgain then notify (← session).focus.announcement
  return found.map (·.1)

theorem reportWaves_eq (first : Wave) (waves : List Wave) : reportWaves first waves = (do
    let moved ← if (← session).focus.isUnknown then
        moveFocusSilently (Session.firstFocus first) waves
      else pure false
    searchWaves waves moved) := rfl

/-- The user is told about the focus, or not, and the report is what it was. -/
theorem run_announce (told : Bool) (report : Option StopReport) (d : Debugger) :
    ∃ d', EStateM.run (do
      if told then notify (← session).focus.announcement
      return report) d = .ok report d' := by
  cases told with
  | false => exact ⟨_, rfl⟩
  | true => exact ⟨_, rfl⟩

/-- Searching the waves does not fail, and the focus does not matter. -/
theorem run_searchWaves (waves : List Wave) (moved : Bool) (focus : Focus) (d : Debugger) :
    ∃ d', (searchWaves waves moved).run (focusing d focus) =
      .ok (d.session.stopReport? d.host.breakpoints waves) d' := by
  have hreport : (focusing d focus).session.waveReport? (focusing d focus).host.breakpoints =
      d.session.waveReport? d.host.breakpoints := rfl
  unfold searchWaves
  rw [bind_of_ok (run_session _), bind_of_ok (run_host _)]
  dsimp only
  rw [hreport]
  cases hfound : (waves.findSome? (d.session.waveReport? d.host.breakpoints)).bind (·.2) with
  | none => exact run_announce _ _ _
  | some target =>
    obtain ⟨movedAgain, focus', hmove⟩ := run_moveFocusSilently target waves (focusing d focus)
    dsimp only
    rw [bind_of_ok hmove]
    exact run_announce _ _ _

theorem run_reportWaves (first : Wave) (waves : List Wave) (d : Debugger) :
    ∃ d', (reportWaves first waves).run d =
      .ok (d.session.stopReport? d.host.breakpoints waves) d' := by
  rw [reportWaves_eq, bind_of_ok (run_session d)]
  by_cases hunknown : d.session.focus.isUnknown = true
  · obtain ⟨moved, focus, hmove⟩ := run_moveFocusSilently (Session.firstFocus first) waves d
    rw [if_pos hunknown, bind_of_ok hmove]
    exact run_searchWaves waves moved focus d
  · rw [if_neg hunknown]
    exact run_searchWaves waves false d.session.focus d

theorem run_reportStop {d : Debugger} {waves : List Wave}
    (hpublished : d.publishedWaves = .ok waves) (hwaves : waves ≠ []) :
    ∃ d', reportStop.run d = .ok (d.session.stopReport? d.host.breakpoints waves) d' := by
  obtain ⟨first, others, rfl⟩ := List.exists_cons_of_ne_nil hwaves
  obtain ⟨d', hreport⟩ := run_reportWaves first (first :: others) d
  exact ⟨_, run_reportStop_of_ok ((run_findReport_of_cons hpublished).trans hreport)⟩

/-- **A stop is reported as the breakpoint that comes first exactly if the single pass meets it.**
Let waves be live. The report of the stop is the first breakpoint, in the order of the waves and
then of the numbers, that stops a wave, and none if there is none, if and only if the waves before
stand on breakpoints or on no line, and no breakpoint of a lesser number is at the address of the
wave. -/
theorem reportStop_reports_iff {d : Debugger} {raw : Bytes} {waves : List Wave}
    (hraw : d.world.memory.read .waveInfo = some raw)
    (hdecode : Wave.decodeTable raw d.session.agent.activeWaves.toNat = .ok waves)
    (hwaves : waves ≠ []) (hascending : d.host.breakpoints.Ascending) :
    ∃ report d', reportStop.run d = .ok report d' ∧
      (d.host.breakpoints.Reports waves report ↔
        ∀ before w after b, waves = before ++ w :: after →
          d.host.breakpoints.FirstStop before w b →
          (∀ v ∈ before, (∃ c ∈ d.host.breakpoints.entries, c.pc = some v.pc) ∨
              d.session.lineReport? v.pc = none) ∧
            ∀ c ∈ d.host.breakpoints.entries, c.pc = some w.pc → b.number ≤ c.number) := by
  obtain ⟨d', hrun⟩ := run_reportStop (publishedWaves_of_decodes hraw hdecode) hwaves
  exact ⟨_, d', hrun, Session.reports_iff hascending waves⟩

/-! ## Two breakpoints on one line -/

/-- A wave of the work-group at the origin, at the first address of the code object. -/
def stopped : Wave where
  workGroup := ⟨0, 0, 0⟩
  workItems := Wave.laneItems []
  executing := 1
  pc := 65792
  address := 0

/-- The wave is published. -/
def stopping : World :=
  .ofMemory ⟨.growing none, (publishing [1]).memory.contents.set .waveInfo (some stopped.encode)⟩

/-- Two breakpoints were sent for one line, the first one with a condition on another work-group,
and a wave has stopped there. -/
def crowded : Debugger :=
  Debugger.after ⟨Session.ofConfig { Config.standard with pendingCapacity := 4 } twoObjects, .empty,
      publishing [1]⟩
    [.openChannel .onPipe, .notification published,
      .store ⟨1, .equal ⟨1, 0, 0⟩ ⟨0, 0, 0⟩, .source none 4 none⟩,
      .resolve ⟨1, .equal ⟨1, 0, 0⟩ ⟨0, 0, 0⟩, .source none 4 none⟩,
      .store ⟨2, .any, .source none 4 none⟩, .resolve ⟨2, .any, .source none 4 none⟩,
      .outside .empty stopping, .notification (.newActiveWaves 1)]

theorem decodeTable_stopped :
    Wave.decodeTable stopped.encode crowded.session.agent.activeWaves.toNat = .ok [stopped] := by
  decide +kernel

/-- The breakpoint without a condition stops the wave, and is not reported. -/
theorem second_breakpoint_is_missed :
    ∃ b report d', crowded.host.breakpoints.FirstStop [] stopped b ∧ b.number = 2 ∧
      reportStop.run crowded = .ok report d' ∧
      ¬ crowded.host.breakpoints.Reports [stopped] report := by
  obtain ⟨report, d', hrun, hreports⟩ := reportStop_reports_iff (d := crowded) rfl
    decodeTable_stopped (List.cons_ne_nil _ _) (by decide)
  have hentries : crowded.host.breakpoints.entries =
      [⟨1, ⟨1, .equal ⟨1, 0, 0⟩ ⟨0, 0, 0⟩, .source none 4 (some " ")⟩, some 65792, some 256, 0,
          true⟩,
        ⟨2, ⟨2, .any, .source none 4 (some " ")⟩, some 65792, some 256, 0, true⟩] := rfl
  rw [hentries] at hreports
  have hfirst : crowded.host.breakpoints.FirstStop [] stopped
      ⟨2, ⟨2, .any, .source none 4 (some " ")⟩, some 65792, some 256, 0, true⟩ := by
    refine ⟨nofun, by simp [hentries], by decide, ?_⟩
    rw [hentries]
    decide
  refine ⟨_, report, d', hfirst, rfl, hrun, fun h => ?_⟩
  have hleast := (hreports.mp h [] stopped [] _ rfl hfirst).2 _ List.mem_cons_self rfl
  exact absurd hleast (by decide)

end Op

end GpuDebug
