import GpuDebug.Proofs.Contract

/-!
# The channel after a failure

Every operation of the session honours the contract: if it fails because the contract is broken, the
channel is closed, unless what could not be read was the load map or the wave table.

* `Debugger.Garbled`: the load map or the wave table cannot be read.
* `Action.fault?`: the failure of an action. `Action.fault_cases` tells the two kinds apart.
* `Action.open_after_fault_iff`: when the channel is open after a failure that breaks the contract.
-/

namespace GpuDebug

/-- The load map or the wave table that the agent publishes cannot be read. -/
def Debugger.Garbled (d : Debugger) (e : Error) : Prop :=
  d.publishedMap = .error e ∨ d.publishedWaves = .error e

theorem Debugger.Garbled.isOfRecord {d : Debugger} {e : Error} (h : d.Garbled e) :
    e.IsOfRecord := by
  rcases h with hmap | hwaves
  · exact SegmentTable.isOfRecord_of_ofRegion hmap
  · unfold publishedWaves at hwaves
    split at hwaves
    · cases hwaves
    · split at hwaves
      · exact Wave.isOfRecord_of_decodeTable hwaves
      · cases hwaves

namespace Op

open Debugger (Silent Talks)

variable {α : Type} {d : Debugger}

/-! ## Operations that read the wave table -/

theorem Fair.focus (focus : Focus) : Fair (Op.modifySession ({ · with focus })) :=
  .modifySession fun _ => rfl

theorem Fair.modifyAgent (f : AgentState → AgentState) : Fair (modifyAgent f) :=
  .modifySession fun _ => rfl

theorem fair_evaluate (expression : String) : Fair (evaluate expression) := by
  refine .bind .host fun h => .bind (.ofExcept fun e he => ?_) fun _ => .modifyHost _
  unfold Host.evaluate at he
  split at he
  · cases he
    rfl
  · cases he

/-- The wave table is read first. -/
theorem honours_readWaves_bind {f : List Wave → Op α} (hf : ∀ waves, Fair (f waves))
    (d : Debugger) : Honours d.Garbled (readWaves >>= f) d := by
  have hrun := run_readWaves d
  cases hwaves : d.publishedWaves with
  | error e =>
    rw [hwaves, run_ofExcept_error] at hrun
    rw [Honours, bind_of_error hrun]
    exact .failed (fun _ => .inr hwaves) (refl_of Talks d)
  | ok waves =>
    rw [hwaves, run_ofExcept_ok] at hrun
    rw [Honours, bind_of_ok hrun]
    exact (hf waves).honours d

theorem honours_onFocusChange (target : Focus) (d : Debugger) :
    Honours d.Garbled (onFocusChange target) d :=
  honours_readWaves_bind (fun waves =>
    .bind (Fair.closed.moveFocus .notify .focus target waves) fun _ => .pure _) d

theorem honours_switchFocus (arguments : String) (d : Debugger) :
    Honours d.Garbled (switchFocus arguments) d := by
  have hparse : ∀ e, Focus.parse arguments = .error e → e.breaksContract = false := by
    intro e he
    unfold Focus.parse at he
    dsimp only at he
    repeat' split at he
    all_goals cases he
    all_goals rfl
  refine .bind ((Fair.ofExcept hparse).honours d) fun target d₁ hrun => ?_
  rw [← final_of_ok hrun, final_ofExcept]
  refine honours_readWaves_bind (fun waves => .ite (.bind (.notify _) fun _ => .pure _) ?_) d
  exact .bind .session fun s => .bind (fair_evaluate _) fun _ =>
    Fair.closed.moveFocus .notify .focus target waves

theorem honours_reportStop (d : Debugger) : Honours d.Garbled reportStop d := by
  have hfind : Honours d.Garbled findReport d := by
    refine honours_readWaves_bind (fun waves => ?_) d
    cases waves with
    | nil => exact .bind .session fun s => .ite (.bind .host fun _ => .pure _) (.pure _)
    | cons first others => exact Fair.closed.reportWaves .notify .focus first _
  refine .bind hfind fun report d₁ _ => Fair.honours ?_ d₁
  cases report with
  | none => exact .bind (.pure _) fun _ => .pure _
  | some r => exact .bind (Fair.closed.forM_notify .notify r.lines) fun _ => .pure _

theorem honours_currentPc (d : Debugger) : Honours d.Garbled currentPc d := by
  refine honours_readWaves_bind (fun waves => .bind .session fun s => ?_) d
  split
  · refine .ofExcept fun e he => ?_
    unfold SegmentTable.toCode at he
    split at he
    · cases he
    · cases he
      rfl
  · exact .pure _

theorem honours_step (kind : StepKind) (count : UInt32) (d : Debugger) :
    Honours d.Garbled (step kind count) d := by
  have abandon : ∀ text, Fair (abandonStep text) := fun text =>
    .bind (.notify text) fun _ => .pure _
  have publish := Fair.closed.publishMomentary fun _ => .modifyWorld fun _ => rfl
  have start := Fair.closed.startStep (fun _ => fair_send _) fair_continueDispatch
  refine .bind (honours_currentPc d) fun pc d₁ _ => Fair.honours (.bind .session fun s => ?_) d₁
  dsimp only
  split
  · exact abandon _
  · exact .ite (abandon _) (Fair.closed.plantStep .notify publish start _ _ _ _)

/-! ## Notifications -/

theorem honours_dispatchNotification (n : Notification) (d : Debugger) :
    Honours d.Garbled (dispatchNotification n) d := by
  unfold dispatchNotification
  cases n with
  | newBinary kernel groupSize gridSize => exact (honours_onNewBinary _ d).mono fun _ => .inl
  | predispatch state hostThread => exact (Fair.modifyAgent _).honours d
  | startDebugThread thread => exact (Fair.modifyAgent _).honours d
  | breakpointHit numbers hits activeWaves =>
    exact (Fair.bind (.modifyHost _) fun _ => .modifyAgent _).honours d
  | beginDebugging => exact (Fair.modifyAgent _).honours d
  | endDebugging completed =>
    refine Fair.honours ?_ d
    exact .modifySession fun _ => rfl
  | focusChange workGroup workItem => exact honours_onFocusChange _ d
  | agentError code => exact (Fair.bind (.modifyAgent _) fun _ => .notify _).honours d
  | killComplete successful => exact (Fair.ite (.modifyAgent _) (.notify _)).honours d
  | newActiveWaves count => exact (Fair.modifyAgent _).honours d
  | devices reported =>
    refine Fair.honours ?_ d
    exact .modifySession fun _ => rfl
  | unknown tag => exact (Fair.pure ()).honours d

/-- A read fails only if the operating system refuses it. -/
theorem poll_error {inbox : Inbox} {w : World} {e : Error} (h : (inbox.poll w).1 = .error e) :
    e.breaksContract = false := by
  have pipe : ∀ e, (Inbox.readPipe w).1 = .error e → e.breaksContract = false := by
    intro e h
    unfold Inbox.readPipe at h
    split at h
    all_goals cases h
    rfl
  have file : ∀ path offset e, (inbox.readFile w path offset).1 = .error e →
      e.breaksContract = false := by
    intro path offset e h
    unfold Inbox.readFile at h
    split at h
    all_goals cases h
    rfl
  have read : ∀ e, (inbox.read w).1 = .error e → e.breaksContract = false := by
    intro e h
    unfold Inbox.read at h
    split at h
    · exact pipe e h
    · exact file _ _ e h
  unfold Inbox.poll at h
  split at h
  · next hread =>
    refine read e ?_
    rw [hread]
    cases h
    rfl
  · next bytes _ _ _ =>
    obtain ⟨outcome, houtcome⟩ := Inbox.outcome_total bytes
    rw [houtcome] at h
    split at h
    all_goals cases h

theorem garbled_polled {inbox : Inbox} {e : Error} (h : (polled inbox d).Garbled e) :
    d.Garbled e := by
  have hmemory : (polled inbox d).world.memory = d.world.memory := (calm_polled inbox d).memory
  unfold Debugger.Garbled Debugger.publishedMap Debugger.publishedWaves at h ⊢
  rw [hmemory] at h
  exact h

theorem honours_handleEvent (d : Debugger) : Honours d.Garbled handleEvent d := by
  refine .bind (Fair.session.honours d) fun s d₁ hrun => ?_
  cases hrun
  cases d.session.inbox with
  | none => exact (Fair.pure _).honours d
  | some inbox =>
    have hrun := run_pollInbox inbox d
    have htalks : d.Talks (polled inbox d) := (calm_polled inbox d).silent.talks
    dsimp only
    cases hpoll : (inbox.poll d.world).1 with
    | error e =>
      rw [hpoll, run_ofExcept_error] at hrun
      rw [Honours, bind_of_error hrun]
      exact .failed (fun he => absurd he (by simp [poll_error hpoll])) htalks
    | ok outcome =>
      rw [hpoll, run_ofExcept_ok] at hrun
      rw [Honours, bind_of_ok hrun]
      refine Ends.after htalks ?_
      cases outcome with
      | idle => exact (Fair.bind (.pure ()) fun _ => .pure _).honours _
      | short count => exact (Fair.bind (.notify _) fun _ => .pure _).honours _
      | packet n =>
        have hdispatch := (honours_dispatchNotification n (polled inbox d)).mono fun _ =>
          garbled_polled
        exact Honours.bind hdispatch fun _ d₂ _ => (Fair.pure _).honours d₂

/-! ## The course of a session -/

theorem fair_killWaves (quits : Bool) : Fair (killWaves quits) :=
  .bind .session fun _ => .ite (.pure _) (.bind (fair_evaluate _) fun _ => .pure _)

theorem fair_selectDispatchThread : Fair selectDispatchThread := by
  refine .bind .session fun s => ?_
  split
  · exact .pure _
  · exact .bind .host fun h => .bind (.modifyHost _) fun _ => .pure _

theorem fair_attachFile : Fair attachFile := by
  refine .bind .session fun s => .bind .world fun w => .bind (.ofExcept fun e he => ?_) fun _ =>
    .modifySession fun _ => rfl
  unfold Inbox.onFile at he
  split at he
  · cases he
  · cases he
    rfl

/-- Opening a channel starts from the state with this channel. -/
theorem honours_openChannel (channel : Channel) (d : Debugger) :
    Ends d.Garbled (d.on channel) ((openChannel channel).run d) := by
  let d₁ : Debugger :=
    { d with session := { d.session with channel, kernels := KernelCatalog.empty } }
  have hfirst : (d.on channel).Silent d₁ := ⟨rfl, rfl⟩
  have hflush : ∀ d₂, d₁.Steady d₂ → Honours d.Garbled flushPending d₂ := by
    intro d₂ hs
    refine (honours_flushPending d₂).mono fun e he => .inl ?_
    rw [publishedMap_of_steady hs] at he
    exact he
  unfold openChannel
  rw [bind_of_ok (show (modifySession _).run d = .ok () d₁ from rfl)]
  refine Ends.after hfirst.talks ?_
  rw [bind_of_ok (run_session d₁)]
  dsimp only
  rw [bind_of_ok (run_world d₁)]
  split
  · refine Honours.bind ((fair_setAgentLogging true).honours d₁) fun _ d₂ hrun => ?_
    exact hflush d₂ ((steady_setAgentLogging true).of_ok hrun)
  · exact hflush d₁ (refl_of Debugger.Steady d₁)

theorem honours_openFile (d : Debugger) :
    Ends d.Garbled (d.on (Action.channel .openFile d)) (openFile.run d) := by
  unfold openFile Action.channel
  rw [bind_of_ok (run_session d)]
  dsimp only
  rw [bind_of_ok (run_world d)]
  cases hfile : Channel.onFile d.world.files d.session.config.pipes.toAgent with
  | error e =>
    have he : e.breaksContract = false := by
      unfold Channel.onFile at hfile
      split at hfile
      · cases hfile
      · cases hfile
        rfl
    rw [bind_of_error (run_ofExcept_error e d)]
    exact .failed (fun hbreaks => absurd hbreaks (by simp [he])) (refl_of Talks d)
  | ok channel =>
    rw [bind_of_ok (run_ofExcept_ok channel d)]
    exact honours_openChannel channel d

/-- The failure of an operation at a state, if it fails there. -/
def fault? (op : Op α) (d : Debugger) : Option Error :=
  match op.run d with
  | .ok _ _ => none
  | .error e _ => some e

theorem Ends.of_fault? {G : Error → Prop} {op : Op α} {b : Debugger} {e : Error}
    (h : Ends G b (op.run d)) (he : op.fault? d = some e) (hbreaks : e.breaksContract = true) :
    (e.IsOfCommand ∧ (op.final d).session.channel.isOpen = false) ∨
      (G e ∧ b.Talks (op.final d)) := by
  unfold fault? at he
  cases hop : op.run d with
  | ok a d' =>
    rw [hop] at he
    cases he
  | error e' d' =>
    rw [hop] at he h
    cases he
    rw [final_of_error hop]
    cases h with
    | broken hcommand hclosed => exact .inl ⟨hcommand, hclosed⟩
    | failed hG h => exact .inr ⟨hG hbreaks, h⟩

end Op

/-! ## Actions -/

namespace Action

open Debugger (Talks)

variable {a : Action} {d : Debugger} {e : Error}

/-- The failure of an action at a state, if it fails there. -/
def fault? : Action → Debugger → Option Error
  | resolve r => (Op.resolve r).fault?
  | flush => Op.flushPending.fault?
  | adjust => Op.adjustAll.fault?
  | delete number => (Op.deleteBreakpoint number).fault?
  | disable number => (Op.disableBreakpoint number).fault?
  | statistics numbers counts => (Op.updateStatistics numbers counts).fault?
  | notification n => (Op.dispatchNotification n).fault?
  | event => Op.handleEvent.fault?
  | attach inbox => (Op.attachInbox inbox).fault?
  | attachFile => Op.attachFile.fault?
  | openChannel channel => (Op.openChannel channel).fault?
  | openFile => Op.openFile.fault?
  | logging enabled => (Op.setAgentLogging enabled).fault?
  | kill quits => (Op.killWaves quits).fault?
  | focus arguments => (Op.switchFocus arguments).fault?
  | thread => Op.selectDispatchThread.fault?
  | stop => Op.reportStop.fault?
  | step kind count => (Op.step kind count).fault?
  | go => Op.continueDispatch.fault?
  | close => Op.close.fault?
  | cleanUp => Op.cleanUp.fault?
  | store _ | discard _ | outside .. => fun _ => none

/-- **Two kinds of failures break the contract.** A command was not valid or was cut short, and the
channel is closed; or a record could not be read, and the channel is as the commands left it that
were written before. -/
theorem fault_cases (he : a.fault? d = some e) (hbreaks : e.breaksContract = true) :
    (e.IsOfCommand ∧ (a.run d).session.channel.isOpen = false) ∨
      (d.Garbled e ∧ (d.on (a.channel d)).Talks (a.run d)) := by
  have fair : ∀ {α : Type} {op : Op α}, Op.Fair op → op.fault? d = some e →
      (e.IsOfCommand ∧ (op.final d).session.channel.isOpen = false) ∨
        (d.Garbled e ∧ d.Talks (op.final d)) := fun h he => (h.honours d).of_fault? he hbreaks
  have map : ∀ {α : Type} {op : Op α}, Op.Honours (d.publishedMap = .error ·) op d →
      op.fault? d = some e → (e.IsOfCommand ∧ (op.final d).session.channel.isOpen = false) ∨
        (d.Garbled e ∧ d.Talks (op.final d)) := fun h he =>
    (h.mono fun _ => .inl).of_fault? he hbreaks
  cases a with
  | resolve r => exact map (Op.honours_resolve r d) he
  | flush => exact map (Op.honours_flushPending d) he
  | adjust => exact map (Op.honours_adjustAll d) he
  | delete number => exact fair (Op.fair_deleteBreakpoint number) he
  | disable number => exact fair (Op.fair_disableBreakpoint number) he
  | statistics numbers counts => cases he
  | notification n => exact (Op.honours_dispatchNotification n d).of_fault? he hbreaks
  | event => exact (Op.honours_handleEvent d).of_fault? he hbreaks
  | attach inbox => cases he
  | attachFile => exact fair Op.fair_attachFile he
  | openChannel channel => exact (Op.honours_openChannel channel d).of_fault? he hbreaks
  | openFile => exact (Op.honours_openFile d).of_fault? he hbreaks
  | logging enabled => exact fair (Op.fair_setAgentLogging enabled) he
  | kill quits => exact fair (Op.fair_killWaves quits) he
  | focus arguments => exact (Op.honours_switchFocus arguments d).of_fault? he hbreaks
  | thread => exact fair Op.fair_selectDispatchThread he
  | stop => exact (Op.honours_reportStop d).of_fault? he hbreaks
  | step kind count => exact (Op.honours_step kind count d).of_fault? he hbreaks
  | go => exact fair Op.fair_continueDispatch he
  | close => cases he
  | cleanUp => cases he
  | store r => cases he
  | discard number => cases he
  | outside h w => cases he

/-- Whether the action opens a channel. -/
def opens : Action → Bool
  | openChannel _ | openFile => true
  | _ => false

/-- Over a closed channel nothing is written until one is opened. -/
theorem silent_after {actions : List Action} (hclosed : d.session.channel.isOpen = false)
    (hactions : ∀ a ∈ actions, a.opens = false) :
    (d.after actions).world.transmissions = d.world.transmissions := by
  induction actions generalizing d with
  | nil => rfl
  | cons a actions ih =>
    rw [List.forall_mem_cons] at hactions
    have hpasses : (d.on (a.channel d)).Passes _ (a.run d) := a.passes_any d
    have hstill : (a.channel d).isOpen = false := by
      cases a with
      | openChannel channel => cases hactions.1
      | openFile => cases hactions.1
      | close => rfl
      | _ => exact hclosed
    obtain ⟨hclosed', hlog⟩ := hpasses.of_closed hstill
    exact (ih hclosed' hactions.2).trans hlog

/-- **When the channel is open after a failure that breaks the contract.** The channel with which
the action works has to be open, every command written has to be taken whole, and the failure has to
be that the load map or the wave table cannot be read. In all other cases the channel is closed, and
then nothing is written until a channel is opened. -/
theorem open_after_fault_iff (he : a.fault? d = some e) (hbreaks : e.breaksContract = true) :
    ((a.run d).session.channel.isOpen = true ↔
      (a.channel d).isOpen = true ∧
      (∀ t ∈ (a.run d).world.transmissions.drop d.world.transmissions.length,
        t.isComplete = true) ∧
      d.Garbled e) ∧
    ((a.run d).session.channel.isOpen = false → ∀ actions : List Action,
      (∀ b ∈ actions, b.opens = false) →
      ((a.run d).after actions).world.transmissions = (a.run d).world.transmissions) := by
  refine ⟨?_, fun hclosed actions => silent_after hclosed⟩
  rcases fault_cases he hbreaks with ⟨hcommand, hclosed⟩ | ⟨hgarbled, htalks⟩
  · refine iff_of_false (by rw [hclosed]; exact Bool.false_ne_true) ?_
    rintro ⟨-, -, hgarbled⟩
    exact hcommand.not_isOfRecord hgarbled.isOfRecord
  · rw [htalks.isOpen_iff, and_iff_left hgarbled]
    exact Iff.rfl

end Action

/-! ## A wave table that cannot be read -/

/-- One wave is reported, and the wave table holds one byte. -/
def Debugger.unreadable : Debugger :=
  Debugger.after
    ⟨Session.ofConfig { Config.standard with pendingCapacity := 4 } fun _ _ => .error .noDebugInfo,
      .empty, .ofMemory ⟨.growing none, { PerRegion.const none with waveInfo := some [0] }⟩⟩
    [.openChannel .onPipe, .notification (.newActiveWaves 1)]

/-- The stop report fails because the contract is broken; the channel stays open, and the next
command is written. -/
theorem Debugger.unreadable_waves_keep_channel :
    Debugger.unreadable.Reachable ∧
    ∃ e, Action.stop.fault? Debugger.unreadable = some e ∧ e.breaksContract = true ∧
      (Action.stop.run Debugger.unreadable).session.channel.isOpen = true ∧
      (Action.go.run (Action.stop.run Debugger.unreadable)).world.transmissions.map (·.command) =
        [.continueDispatch] := by
  have hfault : Action.stop.fault? Debugger.unreadable =
      some (Wire.Cursor.truncated 4 ⟨0, [0]⟩) := rfl
  have hgarbled : Debugger.unreadable.Garbled (Wire.Cursor.truncated 4 ⟨0, [0]⟩) := .inr rfl
  have hlog : (Action.stop.run Debugger.unreadable).world.transmissions = [] := rfl
  refine ⟨Reachable.after (.start _ _ _ _ rfl) _, _, hfault, rfl, ?_, rfl⟩
  refine (Action.open_after_fault_iff hfault rfl).1.mpr ⟨rfl, fun t ht => ?_, hgarbled⟩
  rw [hlog, List.drop_nil] at ht
  cases ht

end GpuDebug
