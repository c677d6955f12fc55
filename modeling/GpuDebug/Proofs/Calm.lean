import GpuDebug.Proofs.Composition
import GpuDebug.Proofs.View

/-!
# Operations that command nothing

Stop reports, the focus, killing waves, hit counts and most notifications write no command. They
leave what is held about every number as it was, and also the debug information, the channel and
the shared memory.

* `Debugger.Calm`: such a step; `Debugger.Calm.quiet` says that it is quiet.
* `Op.Calm`: every run of the operation is such a step.
-/

namespace GpuDebug

/-- The step writes no command, and leaves the debug information, the channel, the shared memory and
what is held about every number as they were. -/
structure Debugger.Calm (d d' : Debugger) : Prop where
  pending : d'.session.pending = d.session.pending
  debugInfo : d'.session.debugInfo = d.session.debugInfo
  channel : d'.session.channel = d.session.channel
  transmissions : d'.world.transmissions = d.world.transmissions
  replies : d'.world.replies = d.world.replies
  memory : d'.world.memory = d.world.memory
  stored : ∀ number, (d'.host.breakpoints.get? number).map Breakpoint.placing =
    (d.host.breakpoints.get? number).map Breakpoint.placing
  numbers : d'.host.breakpoints.numbers = d.host.breakpoints.numbers

namespace Debugger.Calm

variable {d d' : Debugger}

instance : IsPreorder Debugger Calm where
  refl _ := ⟨rfl, rfl, rfl, rfl, rfl, rfl, fun _ => rfl, rfl⟩
  trans _ _ _ h h' := ⟨h'.pending.trans h.pending, h'.debugInfo.trans h.debugInfo,
    h'.channel.trans h.channel, h'.transmissions.trans h.transmissions,
    h'.replies.trans h.replies, h'.memory.trans h.memory,
    fun number => (h'.stored number).trans (h.stored number), h'.numbers.trans h.numbers⟩

theorem quiet (h : d.Calm d') : Quiet d d' := by
  refine ⟨fun number => ⟨⟨?_, ?_⟩, ?_⟩, h.pending, h.numbers⟩
  · exact h.transmissions ▸ List.prefix_rfl
  · exact h.replies ▸ List.suffix_rfl
  · unfold view
    rw [h.pending, h.stored, h.transmissions]

end Debugger.Calm

namespace Op

/-- Every run of the operation is calm. -/
abbrev Calm {α : Type} (op : Op α) : Prop :=
  Respects Debugger.Calm op

theorem Respects.quiet {α : Type} {op : Op α} (h : Calm op) : Quiet op :=
  h.mono fun _ _ => Debugger.Calm.quiet

/-! ## The primitives -/

theorem calm_modifySession {f : Session → Session}
    (hf : ∀ s, (f s).pending = s.pending ∧ (f s).debugInfo = s.debugInfo ∧
      (f s).channel = s.channel) : Calm (modifySession f) := fun d =>
  ⟨(hf d.session).1, (hf d.session).2.1, (hf d.session).2.2, rfl, rfl, rfl, fun _ => rfl, rfl⟩

theorem calm_modifyHost {f : Host → Host}
    (hf : ∀ h number, ((f h).breakpoints.get? number).map Breakpoint.placing =
      (h.breakpoints.get? number).map Breakpoint.placing)
    (hnumbers : ∀ h, (f h).breakpoints.numbers = h.breakpoints.numbers) :
    Calm (modifyHost f) := fun d =>
  ⟨rfl, rfl, rfl, rfl, rfl, rfl, hf d.host, hnumbers d.host⟩

theorem calm_modifyWorld {f : World → World}
    (hf : ∀ w, (f w).transmissions = w.transmissions ∧ (f w).replies = w.replies ∧
      (f w).memory = w.memory) : Calm (modifyWorld f) := fun d =>
  ⟨rfl, rfl, rfl, (hf d.world).1, (hf d.world).2.1, (hf d.world).2.2, fun _ => rfl, rfl⟩

theorem calm_modifyAgent (f : AgentState → AgentState) : Calm (modifyAgent f) :=
  calm_modifySession fun _ => ⟨rfl, rfl, rfl⟩

theorem calm_notify (text : String) : Calm (notify text) :=
  calm_modifyHost (fun _ _ => rfl) fun _ => rfl

theorem calm_refreshSegments : Calm refreshSegments := by
  refine .bind .world fun w => .bind (.ofExcept _) fun segments => ?_
  exact calm_modifySession fun _ => ⟨rfl, rfl, rfl⟩

end Op

/-- The waves that the agent publishes, as they are read. While no wave is reported the region is
not looked at. -/
def Debugger.publishedWaves (d : Debugger) : Except Error (List Wave) :=
  if d.session.agent.activeWaves.toNat = 0 then .ok []
  else
    match d.world.memory.read .waveInfo with
    | some raw => Wave.decodeTable raw d.session.agent.activeWaves.toNat
    | none => .ok []

namespace Op

theorem run_readWaves (d : Debugger) : readWaves.run d = (ofExcept d.publishedWaves).run d := by
  unfold readWaves Debugger.publishedWaves
  rw [bind_of_ok (run_session d)]
  dsimp only
  split
  · rfl
  · rw [bind_of_ok (run_world d)]
    cases d.world.memory.read .waveInfo <;> rfl

theorem run_readWaves_of_ok {d : Debugger} {waves : List Wave} (h : d.publishedWaves = .ok waves) :
    readWaves.run d = .ok waves d := by
  rw [run_readWaves, h, run_ofExcept_ok]

theorem run_readWaves_of_error {d : Debugger} {e : Error} (h : d.publishedWaves = .error e) :
    readWaves.run d = .error e d := by
  rw [run_readWaves, h, run_ofExcept_error]

theorem final_readWaves (d : Debugger) : readWaves.final d = d := by
  rw [final, run_readWaves]
  exact final_ofExcept d.publishedWaves d

theorem calm_readWaves : Calm readWaves :=
  .of_final_eq final_readWaves

/-! ## Focus and stop reports -/

theorem closed_calm : Closed Calm :=
  closed_respects Debugger.Calm

theorem calm_focus (focus : Focus) : Calm (modifySession ({ · with focus })) :=
  calm_modifySession fun _ => ⟨rfl, rfl, rfl⟩

theorem calm_moveFocus (target : Focus) (waves : List Wave) : Calm (moveFocus target waves) :=
  closed_calm.moveFocus calm_notify calm_focus target waves

theorem calm_evaluate (expression : String) : Calm (evaluate expression) := by
  intro d
  unfold evaluate Host.evaluate final
  simp only [EStateM.run_bind, run_host]
  by_cases hfails : d.host.evaluationFails = true
  · simp only [if_pos hfails, run_ofExcept_error]
    exact refl_of _ d
  · simp only [if_neg hfails, run_ofExcept_ok, run_modifyHost]
    exact ⟨rfl, rfl, rfl, rfl, rfl, rfl, fun _ => rfl, rfl⟩

theorem calm_switchFocus (arguments : String) : Calm (switchFocus arguments) := by
  refine .bind (.ofExcept _) fun target => .bind calm_readWaves fun waves => ?_
  refine .ite (.bind (calm_notify _) fun _ => .pure _) ?_
  exact .bind .session fun s => .bind (calm_evaluate _) fun _ => calm_moveFocus target waves

theorem calm_onFocusChange (target : Focus) : Calm (onFocusChange target) :=
  .bind calm_readWaves fun waves => .bind (calm_moveFocus target waves) fun _ => .pure _

theorem calm_findReport : Calm findReport := by
  refine .bind calm_readWaves fun waves => ?_
  cases waves with
  | nil =>
    refine .bind .session fun s => ?_
    exact .ite (.bind .host fun h => .pure _) (.pure _)
  | cons first others => exact closed_calm.reportWaves calm_notify calm_focus first _

theorem calm_reportStop : Calm reportStop := by
  refine .bind calm_findReport fun report => ?_
  cases report with
  | none => exact .bind (.pure _) fun _ => .pure _
  | some r => exact .bind (closed_calm.forM_notify calm_notify r.lines) fun _ => .pure _

/-! ## The start and the end of a step -/

theorem calm_currentPc : Calm currentPc := by
  refine .bind calm_readWaves fun waves => .bind .session fun s => ?_
  split
  · exact .ofExcept _
  · exact .pure _

theorem calm_abandonStep (text : String) : Calm (abandonStep text) :=
  .bind (calm_notify text) fun _ => .pure _

/-! ## What users ask for -/

theorem calm_killWaves (quits : Bool) : Calm (killWaves quits) := by
  refine .bind .session fun s => ?_
  exact .ite (.pure _) (.bind (calm_evaluate _) fun _ => .pure _)

theorem calm_selectDispatchThread : Calm selectDispatchThread := by
  intro d
  unfold selectDispatchThread final
  simp only [EStateM.run_bind, run_session]
  cases d.session.agent.dispatchThread with
  | none => exact refl_of _ d
  | some thread =>
    simp only [EStateM.run_bind, run_host, run_modifyHost, EStateM.run_pure, Host.select]
    split <;> exact ⟨rfl, rfl, rfl, rfl, rfl, rfl, fun _ => rfl, rfl⟩

theorem placing_countHits (h : Host) (number count n : Int32) :
    ((countHits number count h).breakpoints.get? n).map Breakpoint.placing =
      (h.breakpoints.get? n).map Breakpoint.placing := by
  unfold countHits
  split
  · rfl
  · exact h.placing_update number n fun _ => rfl

theorem numbers_countHits (h : Host) (number count : Int32) :
    (countHits number count h).breakpoints.numbers = h.breakpoints.numbers := by
  unfold countHits
  split
  · rfl
  · exact h.numbers_update number fun _ => rfl

theorem calm_updateStatistics (numbers counts : List Int32) :
    Calm (updateStatistics numbers counts) := by
  refine calm_modifyHost (fun h n => ?_) fun h => ?_
  · induction numbers.zip counts generalizing h with
    | nil => rfl
    | cons report reports ih =>
      rw [List.foldl_cons]
      exact (ih _).trans (placing_countHits h report.1 report.2 n)
  · induction numbers.zip counts generalizing h with
    | nil => rfl
    | cons report reports ih =>
      rw [List.foldl_cons]
      exact (ih _).trans (numbers_countHits h report.1 report.2)

/-! ## The ends of a session -/

theorem calm_attachInbox (inbox : Inbox) : Calm (attachInbox inbox) :=
  calm_modifySession fun _ => ⟨rfl, rfl, rfl⟩

theorem calm_attachFile : Calm attachFile :=
  .bind .session fun _ => .bind .world fun _ => .bind (.ofExcept _) fun _ => calm_attachInbox _

theorem calm_cleanUp : Calm cleanUp :=
  calm_modifySession fun _ => ⟨rfl, rfl, rfl⟩

/-! ## Notifications -/

end Op

/-- Whether the notification concerns neither the code object nor the end of debugging. -/
def Notification.isPlain : Notification → Bool
  | newBinary .. | endDebugging _ => false
  | _ => true

namespace Op

theorem calm_dispatchNotification {n : Notification} (hn : n.isPlain = true) :
    Calm (dispatchNotification n) := by
  unfold dispatchNotification
  cases n with
  | newBinary kernel groupSize gridSize => cases hn
  | predispatch state hostThread => exact calm_modifyAgent _
  | startDebugThread thread => exact calm_modifyAgent _
  | breakpointHit numbers hits activeWaves =>
    exact .bind (calm_updateStatistics numbers hits) fun _ => calm_modifyAgent _
  | beginDebugging => exact calm_modifyAgent _
  | endDebugging completed => cases hn
  | focusChange workGroup workItem => exact calm_onFocusChange _
  | agentError code => exact .bind (calm_modifyAgent _) fun _ => calm_notify _
  | killComplete successful => exact .ite (calm_modifyAgent _) (calm_notify _)
  | newActiveWaves count => exact calm_modifyAgent _
  | devices reported => exact calm_modifySession fun _ => ⟨rfl, rfl, rfl⟩
  | unknown tag => exact .pure _

/-! ## Files and the inbox -/

theorem calm_files (files : Files) : Calm (modifyWorld ({ · with files })) :=
  calm_modifyWorld fun _ => ⟨rfl, rfl, rfl⟩

theorem calm_saveIsa : Calm saveIsa :=
  respects_saveIsa calm_files

/-- Reading takes from the arrivals, and changes nothing else in the world. -/
theorem poll_world (i : Inbox) (w : World) :
    (i.poll w).2.2 = { w with arrivals := (i.poll w).2.2.arrivals } := by
  have readPipe : (Inbox.readPipe w).2 =
      { w with arrivals := (Inbox.readPipe w).2.arrivals } := by
    unfold Inbox.readPipe
    split <;> rfl
  have read : (i.read w).2.2 = { w with arrivals := (i.read w).2.2.arrivals } := by
    unfold Inbox.read
    split
    · exact readPipe
    · rfl
  unfold Inbox.poll
  split
  · next hread => simpa only [hread] using read
  · next hread =>
    simp only [hread] at read
    split <;> exact read

/-- The state after a read. -/
def polled (inbox : Inbox) (d : Debugger) : Debugger :=
  { d with
    session := { d.session with inbox := some (inbox.poll d.world).2.1 }
    world := (inbox.poll d.world).2.2 }

theorem run_pollInbox (inbox : Inbox) (d : Debugger) :
    (pollInbox inbox).run d = (ofExcept (inbox.poll d.world).1).run (polled inbox d) := rfl

theorem calm_polled (inbox : Inbox) (d : Debugger) : d.Calm (polled inbox d) := by
  have hworld : (polled inbox d).world =
      { d.world with arrivals := (polled inbox d).world.arrivals } := poll_world inbox d.world
  refine ⟨rfl, rfl, rfl, ?_, ?_, ?_, fun _ => rfl, rfl⟩
  all_goals rw [hworld]

theorem calm_pollInbox (inbox : Inbox) : Calm (pollInbox inbox) := by
  intro d
  rw [final, run_pollInbox]
  exact trans_of Debugger.Calm (calm_polled inbox d) (Respects.ofExcept _ _)

end Op

end GpuDebug
