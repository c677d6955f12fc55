import GpuDebug.Proofs.StoppedWaves
import GpuDebug.Proofs.Still

/-!
# How the focus moves

The agent, the user and stops move the focus. A focus that is known moves to a lane that executes in
the waves that are read for the move, and every move is announced once, even where a stop moves the
focus twice. All this takes for granted that the coordinates that the agent gives are known ones: a
focus on an unknown coordinate counts as no focus.

* `Wave.IsLocated`, `Action.IsLocated`: the coordinates that are given are known.
* `Focus.move_cases`: one move.
* `Debugger.Moved`: a step that moves the focus and announces it once. `Debugger.Follows`: a step
  that moves it once or leaves it alone.
* `Op.follows_onFocusChange`, `Op.follows_switchFocus`, `Op.follows_reportStop`: following the
  agent, the user and a stop.
* `Action.focus_moves_to_lanes`: the main result; `Debugger.announced_after` says what it comes to
  over a whole run.
-/

namespace GpuDebug

/-! ## Coordinates that are known -/

/-- The work-group and all work-items of the wave are known. -/
structure Wave.IsLocated (w : Wave) : Prop where
  workGroup : w.workGroup.isUnknown = false
  workItems : ∀ item ∈ w.workItems, item.isUnknown = false

theorem Wave.mem_workItems_of_activeItems {w : Wave} {item : Dim} (h : item ∈ w.activeItems) :
    item ∈ w.workItems := by
  obtain ⟨⟨first, lane⟩, hmem, rfl⟩ := List.mem_map.mp h
  exact List.mem_of_mem_take (List.fst_mem_of_mem_zipIdx (List.mem_of_mem_filter hmem))

/-- A lane that executes has known coordinates. -/
theorem Focus.known_of_isActive {f : Focus} {waves : List Wave} (hwaves : ∀ w ∈ waves, w.IsLocated)
    (h : Wave.isActive waves f.workGroup f.workItem = true) : f.isUnknown = false := by
  obtain ⟨w, hw, hlane⟩ := List.any_eq_true.mp h
  obtain ⟨hgroup, hitem⟩ := Bool.and_eq_true_iff.mp hlane
  have hitem := Wave.mem_workItems_of_activeItems (List.contains_iff_mem.mp hitem)
  rw [isUnknown, ← beq_iff_eq.mp hgroup, (hwaves w hw).workGroup, (hwaves w hw).workItems _ hitem]
  rfl

/-- So has the focus for a wave that the user did not choose. -/
theorem Session.known_firstFocus {w : Wave} (hw : w.IsLocated) :
    (Session.firstFocus w).isUnknown = false := by
  have hitem : ((w.firstActiveItem? <|> w.workItems.head?).getD Dim.zero).isUnknown = false := by
    cases hfirst : w.firstActiveItem? with
    | some item =>
      exact hw.workItems item (Wave.mem_workItems_of_activeItems (List.mem_of_head? hfirst))
    | none =>
      cases hhead : w.workItems.head? with
      | some item => exact hw.workItems item (List.mem_of_head? hhead)
      | none => rfl
  rw [Focus.isUnknown, firstFocus, hw.workGroup, hitem]
  rfl

/-! ## One move -/

/-- A move that is not visible leaves a known focus where it is. A visible one goes to its target,
and does so from a known focus only if the target executes and is another one. -/
theorem Focus.move_cases (f target : Focus) (waves : List Wave) :
    ((f.move target waves).1.isVisible = false ∧ (f.move target waves).2 = f) ∨
      ((f.move target waves).1.isVisible = true ∧ (f.move target waves).2 = target ∧
        (f.isUnknown = false →
          target ≠ f ∧ Wave.isActive waves target.workGroup target.workItem = true)) := by
  unfold move
  split
  · next hunknown =>
    refine .inr ⟨rfl, rfl, fun hknown => ?_⟩
    rw [hunknown] at hknown
    cases hknown
  · split
    · exact .inl ⟨rfl, rfl⟩
    · next hactive =>
      split
      · exact .inl ⟨rfl, rfl⟩
      · next hne => exact .inr ⟨rfl, rfl, fun _ => ⟨Ne.symm hne, by simpa using hactive⟩⟩

namespace Debugger

variable {waves : List Wave} {d d₁ d₂ : Debugger}

/-- The step moves the focus and announces the new one, and nothing else about the focus. If the
focus was known it moves to a lane that executes in the waves. -/
structure Moved (waves : List Wave) (d d' : Debugger) : Prop where
  focus : d'.session.focus ≠ d.session.focus
  isActive : d.session.focus.isUnknown = false →
    Wave.isActive waves d'.session.focus.workGroup d'.session.focus.workItem = true
  notices : ∃ later, d'.host.notices = d.host.notices ++ later ∧
    later.filter Focus.announces = [Op.noticeMark ++ d'.session.focus.announcement]

theorem Still.filter_announces (h : d.Still d₁) : ∃ later,
    d₁.host.notices = d.host.notices ++ later ∧ later.filter Focus.announces = [] := by
  obtain ⟨later, hlog, hlater⟩ := h.notices
  exact ⟨later, hlog, List.filter_eq_nil_iff.mpr fun line hline =>
    Bool.eq_false_iff.mp (hlater line hline)⟩

theorem Moved.still (h : Moved waves d d₁) (hs : d₁.Still d₂) : Moved waves d d₂ := by
  obtain ⟨later, hlog, hlater⟩ := h.notices
  obtain ⟨later', hlog', hlater'⟩ := hs.filter_announces
  refine ⟨hs.focus ▸ h.focus, fun hknown => ?_, later ++ later', ?_, ?_⟩
  · rw [hs.focus]
    exact h.isActive hknown
  · rw [hlog', hlog, List.append_assoc]
  · rw [List.filter_append, hlater, hlater', List.append_nil, hs.focus]

theorem Still.moved (hs : d.Still d₁) (h : Moved waves d₁ d₂) : Moved waves d d₂ := by
  obtain ⟨later, hlog, hlater⟩ := hs.filter_announces
  obtain ⟨later', hlog', hlater'⟩ := h.notices
  refine ⟨hs.focus ▸ h.focus, fun hknown => h.isActive (hs.focus ▸ hknown), later ++ later', ?_, ?_⟩
  · rw [hlog', hlog, List.append_assoc]
  · rw [List.filter_append, hlater, hlater', List.nil_append]

/-- The step leaves the focus alone, or moves it once among the waves that are published. -/
def Follows (d d' : Debugger) : Prop :=
  d.Still d' ∨ ∃ waves, d.publishedWaves = .ok waves ∧ Moved waves d d'

theorem Follows.still (h : d.Follows d₁) (hs : d₁.Still d₂) : d.Follows d₂ := by
  rcases h with h | ⟨waves, hwaves, h⟩
  · exact .inl (trans_of Still h hs)
  · exact .inr ⟨waves, hwaves, h.still hs⟩

/-- The state with another focus, which the user is told about. -/
def announcing (d : Debugger) (focus : Focus) : Debugger :=
  { Op.focusing d focus with host := d.host.display (Op.noticeMark ++ focus.announcement) }

theorem moved_announcing {focus : Focus} (hne : focus ≠ d.session.focus)
    (hactive : d.session.focus.isUnknown = false →
      Wave.isActive waves focus.workGroup focus.workItem = true) :
    Moved waves d (d.announcing focus) := by
  refine ⟨hne, hactive, [Op.noticeMark ++ focus.announcement], rfl, ?_⟩
  rw [List.filter_cons_of_pos (Focus.announces_announcement focus), List.filter_nil]
  rfl

end Debugger

namespace Op

open Debugger (Follows Moved Still)

variable {waves : List Wave} {d : Debugger}

theorem focusing_self (d : Debugger) : focusing d d.session.focus = d := rfl

/-- The state after a move that is announced. -/
theorem moveFocus_final (target : Focus) (waves : List Wave) (d : Debugger) :
    (moveFocus target waves).final d =
      if (d.session.focus.move target waves).1.isVisible then
        d.announcing (d.session.focus.move target waves).2
      else focusing d (d.session.focus.move target waves).2 := by
  unfold moveFocus
  rw [final_bind_of_ok (run_session d), final_bind_of_ok (run_modifySession _ d)]
  dsimp only
  split <;> rfl

/-- A move to known coordinates. -/
theorem moved_moveFocus {target : Focus} (htarget : target.isUnknown = false) (waves : List Wave)
    (d : Debugger) :
    d.Still ((moveFocus target waves).final d) ∨
      Moved waves d ((moveFocus target waves).final d) := by
  rw [moveFocus_final]
  rcases d.session.focus.move_cases target waves with ⟨hvisible, hfocus⟩ | ⟨hvisible, hfocus, hmove⟩
  · rw [hvisible, hfocus, focusing_self]
    exact .inl (refl_of Still d)
  · rw [hvisible, hfocus, if_pos rfl]
    refine .inr (Debugger.moved_announcing ?_ fun hknown => (hmove hknown).2)
    intro heq
    -- A focus that is known is left for another one, and an unknown one is not the target.
    exact (hmove (heq ▸ htarget)).1 heq

/-- Reading the waves, and going on with those that are published. -/
theorem follows_readWaves_bind {α : Type} {f : List Wave → Op α}
    (hf : ∀ waves, d.publishedWaves = .ok waves →
      d.Still ((f waves).final d) ∨ Moved waves d ((f waves).final d)) :
    d.Follows ((readWaves >>= f).final d) := by
  cases hwaves : d.publishedWaves with
  | error e =>
    rw [final_of_error (bind_of_error (run_readWaves_of_error hwaves))]
    exact .inl (refl_of Still d)
  | ok waves =>
    rw [final_bind_of_ok (run_readWaves_of_ok hwaves)]
    exact (hf waves hwaves).imp id fun h => ⟨waves, hwaves, h⟩

/-! ## Following the agent -/

/-- Following the agent to known coordinates. -/
theorem follows_onFocusChange {target : Focus} (htarget : target.isUnknown = false)
    (d : Debugger) : d.Follows ((onFocusChange target).final d) := by
  refine follows_readWaves_bind fun waves _ => ?_
  rw [final_bind_of_final_eq fun _ _ => rfl]
  exact moved_moveFocus htarget waves d

/-! ## Following the user -/

/-- Following the user, who can only ask for a lane that executes. -/
theorem follows_switchFocus
    (hlocated : ∀ waves, d.publishedWaves = .ok waves → ∀ w ∈ waves, w.IsLocated)
    (arguments : String) : d.Follows ((switchFocus arguments).final d) := by
  unfold switchFocus
  cases htarget : Focus.parse arguments with
  | error e => exact .inl (refl_of Still d)
  | ok target =>
    rw [final_bind_of_ok (run_ofExcept_ok target d)]
    refine follows_readWaves_bind fun waves hwaves => ?_
    by_cases hactive : Wave.isActive waves target.workGroup target.workItem = true
    · simp only [hactive, Bool.not_true, Bool.false_eq_true, if_false]
      rw [final_bind_of_ok (run_session d)]
      have hknown := Focus.known_of_isActive (hlocated waves hwaves) hactive
      have hevaluate := still_evaluate
        (focusExpression d.session.config.functions.setFocus target) d
      cases hrun : (evaluate
          (focusExpression d.session.config.functions.setFocus target)).run d with
      | error e d₁ =>
        rw [final_of_error hrun] at hevaluate
        rw [final_of_error (bind_of_error hrun)]
        exact .inl hevaluate
      | ok u d₁ =>
        rw [final_of_ok hrun] at hevaluate
        rw [final_bind_of_ok hrun]
        exact (moved_moveFocus hknown waves d₁).imp (trans_of Still hevaluate) hevaluate.moved
    · rw [Bool.not_eq_true] at hactive
      simp only [hactive, Bool.not_false, if_true]
      have hrefused : Respects Still (do
          notify "work-group and work-item provided not active"
          return FocusChange.rejected) :=
        .bind (still_notify (c := 'w') rfl (by decide)) fun _ => .pure _
      exact .inl (hrefused d)

/-! ## Following a stop -/

/-- Searching the waves may move the focus once more. The user is told if it moved at all. -/
theorem searchWaves_final (waves : List Wave) (moved : Bool) (d : Debugger) :
    (searchWaves waves moved).final d = (if moved then d.announcing d.session.focus else d) ∨
      ∃ focus, (searchWaves waves moved).final d = d.announcing focus ∧
        (d.session.focus.isUnknown = false →
          focus ≠ d.session.focus ∧
            Wave.isActive waves focus.workGroup focus.workItem = true) := by
  unfold searchWaves
  rw [final_bind_of_ok (run_session d), final_bind_of_ok (run_host d)]
  dsimp only
  cases (waves.findSome? (d.session.waveReport? d.host.breakpoints)).bind (·.2) with
  | none =>
    refine .inl ?_
    cases moved <;> rfl
  | some target =>
    have hmove : (moveFocusSilently target waves).run d =
        .ok (d.session.focus.move target waves).1.isVisible
          (focusing d (d.session.focus.move target waves).2) := rfl
    dsimp only
    rw [final_bind_of_ok hmove]
    rcases d.session.focus.move_cases target waves with ⟨hvisible, hfocus⟩ | ⟨hvisible, hfocus, h⟩
    · rw [hvisible, hfocus, focusing_self, Bool.or_false]
      refine .inl ?_
      cases moved <;> rfl
    · rw [hvisible, hfocus, Bool.or_true]
      exact .inr ⟨target, rfl, h⟩

/-- Reporting the waves of a stop: an unknown focus goes to the first wave, and a condition may take
it on from there. -/
theorem moved_reportWaves {first : Wave} (hmem : first ∈ waves)
    (hlocated : ∀ w ∈ waves, w.IsLocated) (d : Debugger) :
    d.Still ((reportWaves first waves).final d) ∨
      Moved waves d ((reportWaves first waves).final d) := by
  rw [reportWaves_eq, final_bind_of_ok (run_session d)]
  by_cases hunknown : d.session.focus.isUnknown = true
  · have hknown := Session.known_firstFocus (hlocated first hmem)
    have hmove : (moveFocusSilently (Session.firstFocus first) waves).run d =
        .ok true (focusing d (Session.firstFocus first)) := by
      have hbootstrap : d.session.focus.move (Session.firstFocus first) waves =
          (.bootstrapped, Session.firstFocus first) := by rw [Focus.move, if_pos hunknown]
      unfold moveFocusSilently
      rw [bind_of_ok (run_session d), hbootstrap]
      rfl
    -- Wherever the focus ends up is known, so that the move counts as one.
    have hmoved : ∀ focus : Focus, focus.isUnknown = false →
        Moved waves d (d.announcing focus) := by
      intro focus hfocus
      refine Debugger.moved_announcing (fun heq => ?_) fun hnot => ?_
      · rw [heq, hunknown] at hfocus
        cases hfocus
      · rw [hunknown] at hnot
        cases hnot
    rw [if_pos hunknown, final_bind_of_ok hmove]
    rcases searchWaves_final waves true (focusing d (Session.firstFocus first)) with
      h | ⟨focus, h, hactive⟩
    · rw [h]
      exact .inr (hmoved _ hknown)
    · rw [h]
      exact .inr (hmoved focus (Focus.known_of_isActive hlocated (hactive hknown).2))
  · rw [if_neg hunknown]
    change d.Still ((searchWaves waves false).final d) ∨
      Moved waves d ((searchWaves waves false).final d)
    rw [Bool.not_eq_true] at hunknown
    rcases searchWaves_final waves false d with h | ⟨focus, h, hactive⟩
    · rw [h]
      exact .inl (refl_of Still d)
    · rw [h]
      exact .inr (Debugger.moved_announcing (hactive hunknown).1 fun _ => (hactive hunknown).2)

/-- The lines of a report announce no focus. -/
theorem still_lines (r : StopReport) : Respects Still (r.lines.forM notify) := by
  have still : ∀ lines : List String, (∀ line ∈ lines, ∃ c, line.toList.head? = some c ∧ c ≠ 'S') →
      Respects Still (lines.forM notify) := by
    intro lines hlines
    induction lines with
    | nil => exact .pure _
    | cons line lines ih =>
      obtain ⟨c, hhead, hc⟩ := hlines line List.mem_cons_self
      exact .bind (still_notify hhead hc) fun _ => ih fun line' h =>
        hlines line' (List.mem_cons_of_mem line h)
  refine still r.lines fun line hline => ?_
  cases r with
  | kernelEntry number kernel condition =>
    cases List.mem_singleton.mp hline
    exact ⟨'B', by simp [toString], by decide⟩
  | breakpoint number location condition =>
    rcases List.mem_cons.mp hline with rfl | hline
    · exact ⟨'B', by simp [toString], by decide⟩
    · obtain ⟨text, -, rfl⟩ := Option.map_eq_some_iff.mp (Option.mem_toList.mp hline)
      exact ⟨'C', by simp [toString], by decide⟩
  | sourceLine pc statement file line =>
    cases List.mem_singleton.mp hline
    exact ⟨'P', by simp [Breakpoint.addressColumn], by decide⟩

/-- Following a stop. -/
theorem follows_reportStop
    (hlocated : ∀ waves, d.publishedWaves = .ok waves → ∀ w ∈ waves, w.IsLocated) :
    d.Follows (reportStop.final d) := by
  have hfind : d.Follows (findReport.final d) := by
    refine follows_readWaves_bind fun waves hwaves => ?_
    cases waves with
    | nil =>
      have hentry : Respects Still (do
          let s ← session
          if s.agent.predispatch = .entered then return s.entryReport? (← host).breakpoints
          else return none) :=
        .bind .session fun s => .ite (.bind .host fun _ => .pure _) (.pure _)
      exact .inl (hentry d)
    | cons first others => exact moved_reportWaves List.mem_cons_self (hlocated _ hwaves) d
  unfold reportStop
  cases hrun : findReport.run d with
  | error e d₁ =>
    rw [final_of_error hrun] at hfind
    rw [final_of_error (bind_of_error hrun)]
    exact hfind
  | ok report d₁ =>
    rw [final_of_ok hrun] at hfind
    rw [final_bind_of_ok hrun]
    -- Printing the report comes last, and leaves the focus alone.
    refine hfind.still ?_
    cases report with
    | none => exact refl_of Still d₁
    | some r =>
      have hlines : Respects Still (do
          r.lines.forM notify
          return some r) := .bind (still_lines r) fun _ => .pure _
      exact hlines d₁

end Op

/-! ## Actions -/

namespace Action

variable {a : Action} {d : Debugger}

/-- The coordinates that the agent gives for an action are known ones, and what happens outside
shows no line. -/
structure IsLocated (a : Action) (d : Debugger) : Prop where
  waves : ∀ waves, d.publishedWaves = .ok waves → ∀ w ∈ waves, w.IsLocated
  focus : ∀ workGroup workItem, a.notification? d = some (.focusChange workGroup workItem) →
    (Focus.mk workGroup workItem).isUnknown = false
  outside : ∀ h w, a = outside h w → h.notices = d.host.notices

/-- Whether the action ends the debugging, which takes the focus away. -/
def endsDebugging (a : Action) (d : Debugger) : Bool :=
  match a.notification? d with
  | some (.endDebugging _) => true
  | _ => false

/-- Ending the debugging takes the focus away and shows nothing. -/
theorem run_of_endsDebugging (h : a.endsDebugging d = true) :
    (a.run d).session.focus = .unknown ∧ (a.run d).host.notices = d.host.notices := by
  unfold endsDebugging at h
  split at h
  · next completed hn =>
    rw [run_of_notification? hn]
    refine ⟨rfl, ?_⟩
    unfold received
    split <;> rfl
  · cases h

theorem publishedWaves_received (a : Action) (d : Debugger) :
    (a.received d).publishedWaves = d.publishedWaves := by
  have hagent : (a.received d).session.agent = d.session.agent := by
    unfold received
    split <;> rfl
  unfold Debugger.publishedWaves
  rw [hagent, (a.calm_received d).memory]

/-- **One action.** It leaves the focus alone, or moves it and announces it. -/
theorem follows_run (ha : a.IsLocated d) (hend : a.endsDebugging d = false) :
    d.Follows (a.run d) := by
  cases hn : a.notification? d with
  | some n =>
    cases n with
    | endDebugging completed =>
      rw [endsDebugging, hn] at hend
      cases hend
    | focusChange workGroup workItem =>
      have hstill := a.still_received d
      rw [run_of_notification? hn]
      rcases Op.follows_onFocusChange (ha.focus workGroup workItem hn) (a.received d) with
        h | ⟨waves, hwaves, h⟩
      · exact .inl (trans_of Debugger.Still hstill h)
      · rw [publishedWaves_received] at hwaves
        exact .inr ⟨waves, hwaves, hstill.moved h⟩
    | _ => exact .inl (still_of_notification? hn rfl)
  | none =>
    cases a with
    | focus arguments => exact Op.follows_switchFocus ha.waves arguments
    | stop => exact Op.follows_reportStop ha.waves
    | outside h w => exact .inl (.of_eq rfl (ha.outside h w rfl))
    | _ =>
      refine .inl (still_run ?_)
      unfold concernsFocus
      rw [hn]

/-- The announcement of one action. -/
theorem announced_of_endsDebugging (ha : a.IsLocated d) (hend : a.endsDebugging d = false) :
    ∃ later, (a.run d).host.notices = d.host.notices ++ later ∧ later.filter Focus.announces =
      if (a.run d).session.focus = d.session.focus then []
      else [Op.noticeMark ++ (a.run d).session.focus.announcement] := by
  rcases follows_run ha hend with hstill | ⟨waves, -, hmoved⟩
  · rw [if_pos hstill.focus]
    exact hstill.filter_announces
  · rw [if_neg hmoved.focus]
    exact hmoved.notices

/-- **The focus only moves to lanes that execute, and every move is announced once.** In any state,
let the coordinates that the agent gives for an action be known ones. If the focus was known and is
another one after the action, then the action ended the debugging and took the focus away, or the
focus is a lane that executes in one of the waves that the agent publishes. Unless the action ended
the debugging, it announces the new focus exactly once if the focus changed, and announces none if
it did not. -/
theorem focus_moves_to_lanes (ha : a.IsLocated d) :
    (d.session.focus.isUnknown = false → (a.run d).session.focus ≠ d.session.focus →
      (a.endsDebugging d = true ∧ (a.run d).session.focus = .unknown) ∨
        ∃ waves, d.publishedWaves = .ok waves ∧ ∃ w ∈ waves, w.hasActiveLane
          (a.run d).session.focus.workGroup (a.run d).session.focus.workItem = true) ∧
    (a.endsDebugging d = false → ∃ later, (a.run d).host.notices = d.host.notices ++ later ∧
      later.filter Focus.announces =
        if (a.run d).session.focus = d.session.focus then []
        else [Op.noticeMark ++ (a.run d).session.focus.announcement]) := by
  refine ⟨fun hknown hne => ?_, announced_of_endsDebugging ha⟩
  cases hend : a.endsDebugging d with
  | true => exact .inl ⟨rfl, (run_of_endsDebugging hend).1⟩
  | false =>
    rcases follows_run ha hend with hstill | ⟨waves, hwaves, hmoved⟩
    · exact absurd hstill.focus hne
    · exact .inr ⟨waves, hwaves, List.any_eq_true.mp (hmoved.isActive hknown)⟩

/-- A wave of which two lanes execute. -/
def paired : Wave :=
  { Op.stopped with workItems := Wave.laneItems [⟨0, 0, 0⟩, ⟨1, 0, 0⟩], executing := 3 }

/-- The wave is published, and the agent has put the focus on its first lane. -/
def paused : Debugger :=
  Debugger.fresh.after
    [.outside .empty (.ofMemory ⟨.growing none, ⟨none, some paired.encode, none, none⟩⟩),
      .notification (.newActiveWaves 1), .notification (.focusChange ⟨0, 0, 0⟩ ⟨0, 0, 0⟩)]

theorem publishedWaves_paused : paused.publishedWaves = .ok [paired] := by
  decide +kernel

/-- The agent moves the focus to the other lane. -/
theorem other_lane_announced :
    paused.session.focus = ⟨⟨0, 0, 0⟩, ⟨0, 0, 0⟩⟩ ∧
      ∃ d, d = (notification (.focusChange ⟨0, 0, 0⟩ ⟨1, 0, 0⟩)).run paused ∧
        d.session.focus = ⟨⟨0, 0, 0⟩, ⟨1, 0, 0⟩⟩ ∧
        (∃ waves, paused.publishedWaves = .ok waves ∧ ∃ w ∈ waves,
          w.hasActiveLane ⟨0, 0, 0⟩ ⟨1, 0, 0⟩ = true) ∧
        ∃ later, d.host.notices = paused.host.notices ++ later ∧
          later.filter Focus.announces = [Op.noticeMark ++ d.session.focus.announcement] := by
  have hbefore : paused.session.focus = ⟨⟨0, 0, 0⟩, ⟨0, 0, 0⟩⟩ := by decide +kernel
  have hafter : ((notification (.focusChange ⟨0, 0, 0⟩ ⟨1, 0, 0⟩)).run paused).session.focus =
      ⟨⟨0, 0, 0⟩, ⟨1, 0, 0⟩⟩ := by decide +kernel
  have hlocated : (notification (.focusChange ⟨0, 0, 0⟩ ⟨1, 0, 0⟩)).IsLocated paused := by
    refine ⟨fun waves hwaves w hw => ?_, fun workGroup workItem h => ?_, nofun⟩
    · rw [publishedWaves_paused] at hwaves
      cases hwaves
      cases List.mem_singleton.mp hw
      exact ⟨by decide, by decide⟩
    · cases h
      decide
  obtain ⟨hlane, hannounced⟩ := focus_moves_to_lanes hlocated
  rw [hafter, hbefore] at hlane hannounced
  refine ⟨hbefore, _, rfl, hafter, ?_, ?_⟩
  · exact (hlane (by decide) (by decide)).resolve_left fun h => nomatch h.1
  · rw [hafter]
    exact hannounced rfl

/-- The focus that an action moves to. -/
def focus? (a : Action) (d : Debugger) : Option Focus :=
  if a.endsDebugging d || (a.run d).session.focus = d.session.focus then none
  else some (a.run d).session.focus

/-- An action announces the focus that it moves to. -/
theorem announced_run (ha : a.IsLocated d) : ∃ later,
    (a.run d).host.notices = d.host.notices ++ later ∧ later.filter Focus.announces =
      (a.focus? d).toList.map fun focus => Op.noticeMark ++ focus.announcement := by
  cases hend : a.endsDebugging d with
  | true =>
    refine ⟨[], by rw [(run_of_endsDebugging hend).2, List.append_nil], ?_⟩
    rw [focus?, hend]
    rfl
  | false =>
    obtain ⟨later, hlog, hlater⟩ := announced_of_endsDebugging ha hend
    refine ⟨later, hlog, ?_⟩
    rw [hlater, focus?, hend]
    by_cases hsame : (a.run d).session.focus = d.session.focus
    · simp [hsame]
    · simp [hsame]

end Action

/-! ## Whole runs -/

namespace Debugger

/-- The focuses that some actions move to, one after the other. -/
def focuses (d : Debugger) : List Action → List Focus
  | [] => []
  | a :: actions => (a.focus? d).toList ++ (a.run d).focuses actions

/-- The coordinates that the agent gives for some actions are known ones. -/
def Located (d : Debugger) : List Action → Prop
  | [] => True
  | a :: actions => a.IsLocated d ∧ (a.run d).Located actions

/-- **The announcements of a run name the focuses that it moves to, in order.** -/
theorem announced_after {d : Debugger} {actions : List Action} (h : d.Located actions) : ∃ later,
    (d.after actions).host.notices = d.host.notices ++ later ∧ later.filter Focus.announces =
      (d.focuses actions).map fun focus => Op.noticeMark ++ focus.announcement := by
  induction actions generalizing d with
  | nil => exact ⟨[], (List.append_nil _).symm, rfl⟩
  | cons a actions ih =>
    obtain ⟨later, hlog, hlater⟩ := a.announced_run h.1
    obtain ⟨later', hlog', hlater'⟩ := ih h.2
    refine ⟨later ++ later', ?_, ?_⟩
    · change ((a.run d).after actions).host.notices = _
      rw [hlog', hlog, List.append_assoc]
    · rw [List.filter_append, hlater, hlater', ← List.map_append]
      rfl

end Debugger

end GpuDebug
