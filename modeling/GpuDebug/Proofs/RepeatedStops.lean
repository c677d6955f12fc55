import GpuDebug.Proofs.FocusMoves

/-!
# Reporting a stop again

A stop may move the focus twice: an unknown focus goes to the first wave, and a condition takes it
to its own coordinates, if they execute. Where the focus ends up the same stop moves it no further,
and the report does not depend on it. So a second report is the first one again.

* `Focus.follow`: the focus after the condition of a report has asked for it;
  `Focus.follow_follow` says that it is followed once.
* `Op.run_searchWaves_eq`: the search of the waves with everything that it does.
* `Debugger.Rests`: the focus is where the stop of some waves leaves it.
* `Debugger.Reported`: the stop was reported, and the report can only repeat itself.
* `Op.reportStop_repeats`: the main result; `Op.final_iterate_reportStop` is the same for any number
  of reports.
-/

namespace GpuDebug

/-! ## The focus that a condition asks for -/

namespace Focus

variable {f : Focus} {target? : Option Focus} {waves : List Wave}

/-- Moves the focus to a target, if there is one, and says whether the user should be told. -/
def follow (f : Focus) (target? : Option Focus) (waves : List Wave) : Bool × Focus :=
  match target? with
  | some target => ((f.move target waves).1.isVisible, (f.move target waves).2)
  | none => (false, f)

/-- A focus on a lane that executes stays there. -/
theorem follow_self (hknown : f.isUnknown = false)
    (hactive : Wave.isActive waves f.workGroup f.workItem = true) :
    f.follow (some f) waves = (false, f) := by
  simp [follow, move, hknown, hactive, FocusChange.isVisible]

theorem known_follow (hwaves : ∀ w ∈ waves, w.IsLocated) (hknown : f.isUnknown = false) :
    (f.follow target? waves).2.isUnknown = false := by
  cases target? with
  | none => exact hknown
  | some target =>
    rcases f.move_cases target waves with ⟨-, hfocus⟩ | ⟨-, hfocus, hmove⟩
    · simpa [follow, hfocus] using hknown
    · simpa [follow, hfocus] using known_of_isActive hwaves (hmove hknown).2

/-- **A target is followed once.** From a known focus, a second move to it changes nothing: the
first one went there, or was refused and is refused again. -/
theorem follow_follow (hwaves : ∀ w ∈ waves, w.IsLocated) (hknown : f.isUnknown = false) :
    (f.follow target? waves).2.follow target? waves = (false, (f.follow target? waves).2) := by
  cases target? with
  | none => rfl
  | some target =>
    rcases f.move_cases target waves with ⟨hvisible, hfocus⟩ | ⟨hvisible, hfocus, hmove⟩
    · simp [follow, hvisible, hfocus]
    · have hfollow : f.follow (some target) waves = (true, target) := by
        simp [follow, hvisible, hfocus]
      have hactive := (hmove hknown).2
      rw [hfollow]
      exact follow_self (known_of_isActive hwaves hactive) hactive

end Focus

/-! ## The search of the waves, again -/

namespace Session

/-- The focus that the stop of some waves asks for. -/
def stopTarget? (s : Session) (t : BreakpointTable) (waves : List Wave) : Option Focus :=
  (waves.findSome? (s.waveReport? t)).bind (·.2)

/-- What a wave reports, and asks for, does not depend on the focus. -/
theorem waveReport?_of_focus (s : Session) (focus : Focus) (t : BreakpointTable) :
    ({ s with focus } : Session).waveReport? t = s.waveReport? t := rfl

theorem stopReport?_of_focus (s : Session) (focus : Focus) (t : BreakpointTable)
    (waves : List Wave) : ({ s with focus } : Session).stopReport? t waves =
      s.stopReport? t waves := by
  unfold stopReport?
  rw [waveReport?_of_focus]

theorem stopTarget?_of_focus (s : Session) (focus : Focus) (t : BreakpointTable)
    (waves : List Wave) : ({ s with focus } : Session).stopTarget? t waves =
      s.stopTarget? t waves := by
  unfold stopTarget?
  rw [waveReport?_of_focus]

end Session

namespace Debugger

/-- The focus is known, and the stop of some waves leaves it where it is. -/
structure Rests (waves : List Wave) (d : Debugger) : Prop where
  known : d.session.focus.isUnknown = false
  follow : d.session.focus.follow (d.session.stopTarget? d.host.breakpoints waves) waves =
    (false, d.session.focus)

/-- Following the target of the stop comes to rest. -/
theorem rests_follow {waves : List Wave} (hwaves : ∀ w ∈ waves, w.IsLocated) (d : Debugger)
    {focus : Focus} (hknown : focus.isUnknown = false) :
    Rests waves (Op.focusing d
      (focus.follow (d.session.stopTarget? d.host.breakpoints waves) waves).2) := by
  refine ⟨Focus.known_follow hwaves hknown, ?_⟩
  change Focus.follow _ (Session.stopTarget? _ d.host.breakpoints waves) waves = _
  rw [Op.focusing, Session.stopTarget?_of_focus]
  exact Focus.follow_follow hwaves hknown

end Debugger

namespace Op

variable {d : Debugger} {waves : List Wave} {first : Wave}

/-- The search of the waves follows the target of its report, and tells the user if the focus has
moved. -/
theorem run_searchWaves_eq (waves : List Wave) (moved : Bool) (focus : Focus) (d : Debugger) :
    (searchWaves waves moved).run (focusing d focus) =
      .ok (d.session.stopReport? d.host.breakpoints waves)
        (let followed := focus.follow (d.session.stopTarget? d.host.breakpoints waves) waves
        (focusing d followed.2).showing
          (if moved || followed.1 then [noticeMark ++ followed.2.announcement] else [])) := by
  have hreport : (focusing d focus).session.waveReport? (focusing d focus).host.breakpoints =
      d.session.waveReport? d.host.breakpoints := d.session.waveReport?_of_focus focus _
  unfold searchWaves Session.stopTarget? Session.stopReport?
  rw [bind_of_ok (run_session _), bind_of_ok (run_host _)]
  dsimp only
  rw [hreport]
  cases (waves.findSome? (d.session.waveReport? d.host.breakpoints)).bind (·.2) with
  | none =>
    cases moved with
    | false => simp [Focus.follow, Debugger.showing_nil]
    | true => rfl
  | some target =>
    have hmove : (moveFocusSilently target waves).run (focusing d focus) =
        .ok (focus.move target waves).1.isVisible
          (focusing d (focus.move target waves).2) := rfl
    dsimp only
    rw [bind_of_ok hmove]
    unfold Focus.follow
    dsimp only
    cases moved || (focus.move target waves).1.isVisible with
    | false => simp [Debugger.showing_nil]
    | true => rfl

theorem run_reportWaves_of_known (hknown : d.session.focus.isUnknown = false) :
    (reportWaves first waves).run d = (searchWaves waves false).run d := by
  rw [reportWaves_eq, bind_of_ok (run_session d), hknown]
  rfl

/-- A focus that is not known goes to the first wave. -/
theorem run_reportWaves_of_unknown (hunknown : d.session.focus.isUnknown = true) :
    (reportWaves first waves).run d =
      (searchWaves waves true).run (focusing d (Session.firstFocus first)) := by
  have hbootstrap : d.session.focus.move (Session.firstFocus first) waves =
      (.bootstrapped, Session.firstFocus first) := by
    rw [Focus.move, if_pos hunknown]
  have hmove : (moveFocusSilently (Session.firstFocus first) waves).run d =
      .ok true (focusing d (Session.firstFocus first)) := by
    unfold moveFocusSilently
    rw [bind_of_ok (run_session d), hbootstrap]
    rfl
  rw [reportWaves_eq, bind_of_ok (run_session d), if_pos hunknown, bind_of_ok hmove]

/-- Reporting some waves comes to rest. -/
theorem run_reportWaves_eq (hmem : first ∈ waves) (hwaves : ∀ w ∈ waves, w.IsLocated)
    (d : Debugger) : ∃ focus lines,
      (reportWaves first waves).run d = .ok (d.session.stopReport? d.host.breakpoints waves)
        ((focusing d focus).showing lines) ∧
      (focusing d focus).Rests waves := by
  by_cases hknown : d.session.focus.isUnknown = false
  · rw [run_reportWaves_of_known hknown, ← focusing_self d, run_searchWaves_eq]
    exact ⟨_, _, rfl, Debugger.rests_follow hwaves d hknown⟩
  · rw [Bool.not_eq_false] at hknown
    have hfirst := Session.known_firstFocus (hwaves first hmem)
    rw [run_reportWaves_of_unknown hknown, run_searchWaves_eq]
    exact ⟨_, _, rfl, Debugger.rests_follow hwaves d hfirst⟩

/-- At rest the waves are reported without a move. -/
theorem run_reportWaves_of_rests (h : d.Rests waves) :
    (reportWaves first waves).run d = .ok (d.session.stopReport? d.host.breakpoints waves) d := by
  rw [run_reportWaves_of_known h.known, ← focusing_self d, run_searchWaves_eq]
  dsimp only
  rw [h.follow]
  simp [Debugger.showing_nil, focusing_self]

end Op

/-! ## The whole report, again -/

namespace Debugger

variable {d : Debugger} {report : Option StopReport}

/-- The stop was reported: whatever was shown since, the same report is found again, and finding it
changes nothing. -/
def Reported (d : Debugger) (report : Option StopReport) : Prop :=
  ∀ lines, Op.findReport.run (d.showing lines) = .ok report (d.showing lines)

theorem Reported.showing (h : d.Reported report) (lines : List String) :
    (d.showing lines).Reported report := by
  intro later
  rw [showing_showing]
  exact h (lines ++ later)

theorem Reported.run (h : d.Reported report) : Op.findReport.run d = .ok report d := by
  have := h []
  rwa [showing_nil] at this

end Debugger

namespace Op

variable {d d₁ : Debugger} {report : Option StopReport} {e : Error}

theorem run_findReport_of_error (h : d.publishedWaves = .error e) :
    findReport.run d = .error e d :=
  bind_of_error (run_readWaves_of_error h)

/-- Where the waves can be read the stop is reported, and after one report it can only be reported
again. -/
theorem reported_of_published {waves : List Wave} (hpublished : d.publishedWaves = .ok waves)
    (hwaves : ∀ w ∈ waves, w.IsLocated) :
    ∃ report d₁, findReport.run d = .ok report d₁ ∧ d₁.Reported report := by
  cases waves with
  | nil =>
    -- Nothing that is shown to the user is read.
    exact ⟨_, d, run_findReport_of_nil hpublished, fun later =>
      run_findReport_of_nil (d := d.showing later) hpublished⟩
  | cons first others =>
    obtain ⟨focus, lines, hrun, hrests⟩ := run_reportWaves_eq List.mem_cons_self hwaves d
    refine ⟨_, _, (run_findReport_of_cons hpublished).trans hrun, fun later => ?_⟩
    rw [Debugger.showing_showing]
    have hpublished' : ((focusing d focus).showing (lines ++ later)).publishedWaves =
        .ok (first :: others) := hpublished
    have hrests' : ((focusing d focus).showing (lines ++ later)).Rests (first :: others) :=
      ⟨hrests.known, hrests.follow⟩
    rw [run_findReport_of_cons hpublished', run_reportWaves_of_rests hrests']
    exact congrArg (EStateM.Result.ok · _) (d.session.stopReport?_of_focus focus _ _)

/-- The lines of a report announce no focus. -/
theorem still_reportLines (report : Option StopReport) (d : Debugger) :
    d.Still (d.showing (reportLines report)) := by
  cases report with
  | none => exact .of_eq rfl (List.append_nil _)
  | some r =>
    rw [reportLines, Option.elim_some, ← final_of_ok (run_forM_notify r.lines d)]
    exact still_lines r d

/-- A stop that was reported is reported again. -/
theorem run_reportStop_of_reported (h : d.Reported report) :
    reportStop.run d = .ok report (d.showing (reportLines report)) :=
  run_reportStop_of_ok h.run

/-- However often a stop that was reported is reported again, the focus stays where it is. -/
theorem final_iterate_reportStop (h : d.Reported report) (n : Nat) :
    (reportStop.final^[n] d).Reported report ∧ d.Still (reportStop.final^[n] d) := by
  induction n with
  | zero => exact ⟨h, refl_of Debugger.Still d⟩
  | succ n ih =>
    rw [Function.iterate_succ_apply', final_of_ok (run_reportStop_of_reported ih.1)]
    exact ⟨ih.1.showing _, trans_of Debugger.Still ih.2 (still_reportLines report _)⟩

/-- **Reporting a stop is repeatable.** If the waves cannot be read, every report fails in the same
way and changes nothing. If they can be read and their coordinates are known, the report ends well,
and reporting again at once gives the same report. The second time the focus stays where it is, no
focus is announced, and nothing happens but that the lines of the report are shown again. -/
theorem reportStop_repeats (d : Debugger) :
    (∀ e, d.publishedWaves = .error e → reportStop.run d = .error e d) ∧
      ∀ waves, d.publishedWaves = .ok waves → (∀ w ∈ waves, w.IsLocated) →
        ∃ report d₁ d₂, reportStop.run d = .ok report d₁ ∧ reportStop.run d₁ = .ok report d₂ ∧
          d₁.Still d₂ ∧ d₂ = d₁.showing (reportLines report) := by
  constructor
  · intro e he
    exact bind_of_error (run_findReport_of_error he)
  · intro waves hpublished hwaves
    obtain ⟨report, d', hfind, hreported⟩ := reported_of_published hpublished hwaves
    have hagain := hreported.showing (reportLines report)
    exact ⟨report, _, _, run_reportStop_of_ok hfind, run_reportStop_of_reported hagain,
      still_reportLines report _, rfl⟩

/-- Nothing is in focus, and the wave stands on a breakpoint for its other lane. -/
def halted : Debugger :=
  { focusing Action.paused .unknown with
    host :=
      { Host.empty with
        breakpoints := ⟨[⟨1, ⟨1, .equal ⟨0, 0, 0⟩ ⟨1, 0, 0⟩, .source none 4 none⟩, some 65792,
          some 256, 0, true⟩]⟩ } }

theorem publishedWaves_halted : halted.publishedWaves = .ok [Action.paired] := by
  decide +kernel

/-- The first report takes the focus to the first lane and on to the other one, the second report
leaves it there. -/
theorem second_report_is_quiet :
    halted.session.focus = .unknown ∧
      ∃ report d₁ d₂, reportStop.run halted = .ok report d₁ ∧
        d₁.session.focus = ⟨⟨0, 0, 0⟩, ⟨1, 0, 0⟩⟩ ∧ reportStop.run d₁ = .ok report d₂ ∧
        d₁.Still d₂ := by
  have hlocated : ∀ w ∈ [Action.paired], w.IsLocated := by
    intro w hw
    cases List.mem_singleton.mp hw
    exact ⟨by decide, by decide⟩
  obtain ⟨report, d₁, d₂, hrun, hagain, hstill, -⟩ :=
    (reportStop_repeats halted).2 _ publishedWaves_halted hlocated
  have hfocus : (reportStop.final halted).session.focus = ⟨⟨0, 0, 0⟩, ⟨1, 0, 0⟩⟩ := by
    decide +kernel
  rw [final_of_ok hrun] at hfocus
  exact ⟨rfl, report, d₁, d₂, hrun, hfocus, hagain, hstill⟩

end Op

end GpuDebug
