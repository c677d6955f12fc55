import GpuDebug.Proofs.Lookup
import GpuDebug.Proofs.Passing
import GpuDebug.Proofs.Reload
import GpuDebug.Proofs.StepTargets

/-!
# Where debug information comes from

Three kinds of actions concern the debug information of a session: taking over a code object loads
it or drops it, and the end of a dispatch and closing the session make it unavailable. Every other
action leaves it as it is. So the last action of these kinds decides which line table counts.

* `Action.nextInfo`, `Action.debugInfo_run`: the debug information after an action.
* `Action.mark`: the line table that an action of one of these kinds leaves, if it leaves one.
* `Debugger.marks`, `Debugger.current?_after`: those of a sequence of actions, and the one that
  counts after it.
* `Action.ready`: the state in which an action begins to write commands.
* `Debugger.sent_from_last_object`: addresses are sent only from the line table of the last action
  of these kinds.
-/

namespace GpuDebug

/-! ## The line table that counts -/

namespace DebugInfo

/-- The line table, if it counts. -/
def current? (i : DebugInfo) : Option LineTable :=
  if i.isCurrent then i.table else none

theorem isAvailable_iff {i : DebugInfo} :
    i.isAvailable = true ↔ ∃ table, i.current? = some table := by
  unfold isAvailable current?
  cases i.isCurrent with
  | false => exact iff_of_false nofun nofun
  | true => exact Option.isSome_iff_exists

theorem current?_of_available {i : DebugInfo} (h : i.isAvailable = true) :
    i.current? = i.table := by
  rw [current?, if_pos (Bool.and_eq_true_iff.mp h).1]

/-- A table that was adopted counts, and the reader stays. -/
theorem adopt_current? (i : DebugInfo) (files : Files) (table : LineTable) :
    (i.adopt files table).2.1.current? = some table ∧
      (i.adopt files table).2.1.reader = i.reader := by
  unfold adopt
  dsimp only
  split
  · split <;> exact ⟨rfl, rfl⟩
  · exact ⟨rfl, rfl⟩

theorem load_current? (i : DebugInfo) (files : Files) (image : Bytes) :
    (i.load files image).2.1.current? = (openImage i.reader image).toOption.map (·.1) ∧
      (i.load files image).2.1.reader = i.reader := by
  unfold load
  cases openImage i.reader image with
  | error fault => exact ⟨rfl, rfl⟩
  | ok opened =>
    obtain ⟨table, format⟩ := opened
    exact i.adopt_current? files table

end DebugInfo

namespace Debugger

/-- The line table of the code object that the agent publishes, if it can be read. -/
def publishedTable? (d : Debugger) : Option LineTable :=
  match d.world.memory.readImage d.session.config.regions.binaryImage.maxSize with
  | .ok (some image) =>
    (DebugInfo.openImage d.session.debugInfo.reader image).toOption.map (·.1)
  | _ => none

/-- The debug information once the code object that the agent publishes was taken over. -/
def reloaded (d : Debugger) : DebugInfo :=
  match d.world.memory.readImage d.session.config.regions.binaryImage.maxSize with
  | .ok (some image) => (d.session.debugInfo.invalidate.load d.world.files image).2.1
  | _ => d.session.debugInfo.invalidate

theorem reloaded_current? (d : Debugger) :
    d.reloaded.current? = d.publishedTable? ∧ d.reloaded.reader = d.session.debugInfo.reader := by
  unfold reloaded publishedTable?
  split
  · exact d.session.debugInfo.invalidate.load_current? d.world.files _
  · exact ⟨rfl, rfl⟩

end Debugger

/-! ## The debug information after an action -/

namespace Op

variable {d : Debugger}

/-- The operation leaves the debug information as it is. -/
abbrev KeepsInfo {α : Type} (op : Op α) : Prop :=
  Respects (fun d d' => d'.session.debugInfo = d.session.debugInfo) op

instance : IsPreorder Debugger fun d d' => d'.session.debugInfo = d.session.debugInfo where
  refl _ := rfl
  trans _ _ _ h h' := h'.trans h

theorem Respects.keepsInfo {α : Type} {op : Op α} (h : Respects Debugger.Steady op) :
    KeepsInfo op :=
  h.mono fun _ _ hs => hs.debugInfo

theorem closed_keepsInfo : Closed KeepsInfo :=
  closed_respects fun d d' => d'.session.debugInfo = d.session.debugInfo

theorem keepsInfo_openChannel (channel : Channel) : KeepsInfo (openChannel channel) := by
  have flush : KeepsInfo flushPending := (respects_flushPending steady_flushSlot).keepsInfo
  refine .bind (fun _ => rfl) fun _ => .bind .session fun _ => .bind .world fun _ => ?_
  exact .ite (.bind (steady_setAgentLogging true).keepsInfo fun _ => flush) flush

theorem loadImage_debugInfo (d : Debugger) :
    (loadImage.final (invalidated d)).session.debugInfo = d.reloaded := by
  unfold loadImage Debugger.reloaded
  rw [final_bind_of_ok (run_session _), final_bind_of_ok (run_world _)]
  show (Op.final (ofExcept (d.world.memory.readImage
    d.session.config.regions.binaryImage.maxSize) >>= _) (invalidated d)).session.debugInfo = _
  cases d.world.memory.readImage d.session.config.regions.binaryImage.maxSize with
  | error e => rfl
  | ok image? =>
    rw [final_bind_of_ok (run_ofExcept_ok image? _)]
    cases image? with
    | none => rfl
    | some image =>
      dsimp only
      rw [final_bind_of_ok (run_modifySession _ _), final_bind_of_ok (run_modifyWorld _ _),
        final_ofExcept]
      rfl

theorem debugInfo_prepare (launch : Launch) (d : Debugger) :
    ((prepare launch).final d).session.debugInfo = d.reloaded :=
  (calm_prepare launch d).debugInfo.trans (loadImage_debugInfo d)

theorem debugInfo_onNewBinary (launch : Launch) (d : Debugger) :
    ((onNewBinary launch).final d).session.debugInfo = d.reloaded :=
  (steady_onNewBinary launch d).debugInfo.trans (debugInfo_prepare launch d)

end Op

/-- The debug information after a notification. -/
def Notification.nextInfo (n : Notification) (d : Debugger) : DebugInfo :=
  match n with
  | newBinary .. => d.reloaded
  | endDebugging true => d.session.debugInfo.setUnavailable
  | _ => d.session.debugInfo

theorem Op.debugInfo_dispatchNotification (n : Notification) (d : Debugger) :
    ((dispatchNotification n).final d).session.debugInfo = n.nextInfo d := by
  cases n with
  | newBinary kernel groupSize gridSize => exact debugInfo_onNewBinary _ d
  | endDebugging completed => cases completed <;> rfl
  | _ => exact (calm_dispatchNotification rfl d).debugInfo

namespace Action

/-- The notification that an action applies, if it applies one. -/
def notification? (a : Action) (d : Debugger) : Option Notification :=
  match a with
  | notification n => some n
  | event =>
    match d.session.inbox with
    | none => none
    | some inbox =>
      match (inbox.poll d.world).1 with
      | .ok (.packet n) => some n
      | _ => none
  | _ => none

/-- The state in which a notification is applied: by then it has been read. -/
def received (a : Action) (d : Debugger) : Debugger :=
  match a, d.session.inbox with
  | event, some inbox => Op.polled inbox d
  | _, _ => d

theorem calm_received (a : Action) (d : Debugger) : d.Calm (a.received d) := by
  unfold received
  split
  · exact Op.calm_polled _ d
  · exact refl_of Debugger.Calm d

/-- An action that applies a notification does nothing else but read it. -/
theorem run_of_notification? {a : Action} {d : Debugger} {n : Notification}
    (h : a.notification? d = some n) :
    a.run d = (Op.dispatchNotification n).final (a.received d) := by
  cases a with
  | notification n' =>
    cases h
    rfl
  | event =>
    unfold notification? at h
    unfold received
    change Op.handleEvent.final d = _
    unfold Op.handleEvent
    rw [Op.final_bind_of_ok (Op.run_session d)]
    cases hinbox : d.session.inbox with
    | none =>
      rw [hinbox] at h
      cases h
    | some inbox =>
      rw [hinbox] at h
      dsimp only at h ⊢
      have hrun := Op.run_pollInbox inbox d
      split at h
      · next n' hpoll =>
        cases h
        rw [hpoll] at hrun
        rw [Op.final_bind_of_ok hrun]
        dsimp only
        rw [Op.final_bind_of_final_eq fun _ _ => rfl]
      · cases h
  | _ => cases h

/-- The debug information after an action. -/
def nextInfo (a : Action) (d : Debugger) : DebugInfo :=
  match a.notification? d with
  | some n => n.nextInfo d
  | none =>
    match a with
    | close => d.session.debugInfo.invalidate
    | _ => d.session.debugInfo

theorem reloaded_received (a : Action) (d : Debugger) : (a.received d).reloaded = d.reloaded := by
  have hcalm := a.calm_received d
  have hconfig : (a.received d).session.config = d.session.config := by
    unfold received
    split <;> rfl
  have hfiles : (a.received d).world.files = d.world.files := by
    unfold received
    split
    · change (Inbox.poll _ d.world).2.2.files = _
      rw [Op.poll_world]
    · rfl
  unfold Debugger.reloaded
  rw [hcalm.memory, hcalm.debugInfo, hconfig, hfiles]

theorem nextInfo_received (n : Notification) (a : Action) (d : Debugger) :
    n.nextInfo (a.received d) = n.nextInfo d := by
  unfold Notification.nextInfo
  rw [a.reloaded_received, (a.calm_received d).debugInfo]

/-- The line about a read that brought too few bytes. -/
def shortNotice (count : Nat) : String :=
  s!"Incomplete notification from the agent ({count} of {Notification.size} bytes)"

/-- Reading an event that is not a notification does nothing else, but for a line about a read that
brought too few bytes. -/
theorem event_of_notification?_eq_none {d : Debugger} (h : event.notification? d = none) :
    Op.handleEvent.final d = event.received d ∨
      ∃ count, Op.handleEvent.final d =
        (Op.notify (shortNotice count)).final (event.received d) := by
  unfold notification? at h
  unfold Op.handleEvent received
  rw [Op.final_bind_of_ok (Op.run_session d)]
  cases hinbox : d.session.inbox with
  | none => exact .inl rfl
  | some inbox =>
    rw [hinbox] at h
    dsimp only at h ⊢
    have hrun := Op.run_pollInbox inbox d
    cases hpoll : (inbox.poll d.world).1 with
    | error e =>
      rw [hpoll] at hrun
      rw [Op.final_of_error (Op.bind_of_error hrun)]
      exact .inl rfl
    | ok outcome =>
      rw [hpoll] at hrun h
      rw [Op.final_bind_of_ok hrun]
      cases outcome with
      | packet n => cases h
      | idle => exact .inl rfl
      | short count => exact .inr ⟨count, rfl⟩

/-- Reading an event that is not a notification leaves the debug information as it is. -/
theorem debugInfo_event {d : Debugger} (h : event.notification? d = none) :
    (Op.handleEvent.final d).session.debugInfo = d.session.debugInfo := by
  have hreceived : (event.received d).session.debugInfo = d.session.debugInfo :=
    (event.calm_received d).debugInfo
  rcases event_of_notification?_eq_none h with heq | ⟨count, heq⟩
  · rw [heq, hreceived]
  · rw [heq]
    exact hreceived

/-- **The debug information after an action.** -/
theorem debugInfo_run (a : Action) (d : Debugger) :
    (a.run d).session.debugInfo = a.nextInfo d := by
  cases a with
  | resolve r =>
    exact (Op.respects_resolve (Op.steady_sendRequest r) (Op.steady_buffer r) d).debugInfo
  | flush => exact (Op.respects_flushPending Op.steady_flushSlot d).debugInfo
  | adjust => exact (Op.respects_adjustAll Op.steady_adjust d).debugInfo
  | delete number =>
    have keeps : Op.KeepsInfo (Op.deleteBreakpoint number) :=
      .bind (fun _ => rfl) fun _ => .bind .session fun _ =>
        .ite (Op.steady_send _).keepsInfo (.pure _)
    exact keeps d
  | disable number =>
    have keeps : Op.KeepsInfo (Op.disableBreakpoint number) :=
      .bind (Op.steady_send _).keepsInfo fun _ _ => rfl
    exact keeps d
  | statistics numbers counts => rfl
  | notification n => exact Op.debugInfo_dispatchNotification n d
  | event =>
    unfold nextInfo
    cases h : event.notification? d with
    | some n =>
      rw [run_of_notification? h, Op.debugInfo_dispatchNotification, nextInfo_received]
    | none => exact debugInfo_event h
  | attach inbox => rfl
  | attachFile => exact (Op.calm_attachFile d).debugInfo
  | openChannel channel => exact Op.keepsInfo_openChannel channel d
  | openFile =>
    have keeps : Op.KeepsInfo Op.openFile :=
      .bind .session fun _ => .bind .world fun _ => .bind (.ofExcept _) fun channel =>
        Op.keepsInfo_openChannel channel
    exact keeps d
  | logging enabled => exact (Op.steady_setAgentLogging enabled d).debugInfo
  | kill quits => exact (Op.calm_killWaves quits d).debugInfo
  | focus arguments => exact (Op.calm_switchFocus arguments d).debugInfo
  | thread => exact (Op.calm_selectDispatchThread d).debugInfo
  | stop => exact (Op.calm_reportStop d).debugInfo
  | step kind count =>
    exact Op.respects_step (fun _ _ h => h.debugInfo)
      (Op.closed_keepsInfo.publishMomentary fun _ _ => rfl)
      (Op.closed_keepsInfo.startStep (fun _ => (Op.steady_send _).keepsInfo)
        (Op.steady_send _).keepsInfo) kind count d
  | go => exact (Op.steady_send _ d).debugInfo
  | close => rfl
  | cleanUp => rfl
  | store r => rfl
  | discard number => rfl
  | outside h w => rfl

end Action

/-! ## The last action that counts -/

/-- The line table that a notification leaves, if it concerns the debug information: that of the
published code object, or none. -/
def Notification.mark (n : Notification) (d : Debugger) : Option (Option LineTable) :=
  match n with
  | newBinary .. => some d.publishedTable?
  | endDebugging true => some none
  | _ => none

theorem Notification.current?_nextInfo (n : Notification) (d : Debugger) :
    (n.nextInfo d).current? = (n.mark d).getD d.session.debugInfo.current? := by
  unfold nextInfo mark
  split
  · exact d.reloaded_current?.1
  · rfl
  · rfl

namespace Action

/-- The line table that an action leaves, if it concerns the debug information: it takes over a code
object, or it ends a dispatch or the session. -/
def mark (a : Action) (d : Debugger) : Option (Option LineTable) :=
  match a.notification? d with
  | some n => n.mark d
  | none =>
    match a with
    | close => some none
    | _ => none

theorem current?_run (a : Action) (d : Debugger) :
    (a.run d).session.debugInfo.current? = (a.mark d).getD d.session.debugInfo.current? := by
  rw [debugInfo_run]
  unfold nextInfo mark
  cases a.notification? d with
  | some n => exact n.current?_nextInfo d
  | none => cases a <;> rfl

end Action

namespace Debugger

/-- The line tables that the actions leave that concern the debug information, in order. -/
def marks (d : Debugger) : List Action → List (Option LineTable)
  | [] => []
  | a :: actions => (a.mark d).toList ++ (a.run d).marks actions

/-- The last mark decides which line table counts. -/
theorem current?_after (d : Debugger) (actions : List Action) :
    (d.after actions).session.debugInfo.current? =
      (d.marks actions).getLast?.getD d.session.debugInfo.current? := by
  induction actions generalizing d with
  | nil => rfl
  | cons a actions ih =>
    change ((a.run d).after actions).session.debugInfo.current? = _
    rw [ih, marks, List.getLast?_append, a.current?_run]
    cases a.mark d with
    | none => simp
    | some table? => simp

/-- In a new session a line table counts exactly if it is that of the last mark. -/
theorem isAvailable_after_iff {d : Debugger} (hnone : d.session.debugInfo.current? = none)
    (actions : List Action) (table : LineTable) :
    (d.after actions).session.debugInfo.current? = some table ↔
      (d.marks actions).getLast? = some (some table) := by
  rw [current?_after, hnone]
  cases (d.marks actions).getLast? with
  | none => exact iff_of_false nofun nofun
  | some table? => simp

end Debugger

/-! ## Where addresses come from -/

namespace Command

/-- The command creates a breakpoint at a source line. -/
def IsSource (c : Command) : Prop :=
  c.tag = .createBreakpoint ∧ c.kernel = ""

instance (c : Command) : Decidable c.IsSource :=
  inferInstanceAs (Decidable (_ ∧ _))

/-- The command carries the first address of the nearest line with code, moved to where the segments
are loaded. -/
def PlacedBy (c : Command) (table : LineTable) (segments : SegmentTable) : Prop :=
  ∃ line place address others, table.nearest none line = .ok place ∧
    table.addresses place = .ok (address :: others) ∧ segments.toProcess address = .ok c.pc ∧
    Op.packetLine place.line = .ok c.line

/-- The command announces momentary breakpoints that stand in a region, at the addresses of a
step. -/
def PlantedBy (c : Command) (table : LineTable) (region : Option Bytes) : Prop :=
  ∃ kind pc addresses rest, Op.stepAddresses table kind pc = .ok addresses ∧
    c.momentaryCount = Int32.ofNat addresses.length ∧
    region = some (Momentary.encodeTable (addresses.map (Op.momentaryAt table)) ++ rest) ∧
    ∀ address ∈ addresses, ∃ row ∈ table.rows, row.address = address

end Command

namespace Debugger.Issues

variable {Q : Request → Prop} {N : Int32 → Prop} {d : Debugger} {c : Command}

/-- A source line that a state sends is one of its table. -/
theorem placed (h : d.Issues Q N c) (hvalid : c.isValid = true) (hsource : c.IsSource) :
    d.session.debugInfo.isAvailable = true ∧ ∃ table segments,
      d.session.debugInfo.table = some table ∧ d.usableSegments = .ok segments ∧
        c.PlacedBy table segments := by
  obtain ⟨htag, hkernel⟩ := hsource
  have entry : ∀ (r : Request) name, c = .createKernel r.number name r.condition.toPacket →
      False := by
    rintro r name rfl
    have hname : name = "" := hkernel
    subst hname
    simp [Command.isValid, Command.createKernel, Command.blank] at hvalid
  cases h with
  | @request r c hr havailable hc =>
    cases hlocation : r.location with
    | unknown =>
      rw [command?, hlocation] at hc
      cases hc
    | kernel name =>
      rw [command?, hlocation] at hc
      cases hc
      exact (entry r name rfl).elim
    | anywhere name =>
      rw [command?, hlocation] at hc
      cases hc
      exact (entry r name rfl).elim
    | source file line statement =>
      obtain ⟨p, hp, rfl⟩ := (command?_eq_some_iff hlocation).mp hc
      obtain ⟨table, place, others, segments, htable, hnearest, haddresses, hsegments, hpc,
        hpacket⟩ := placement?_eq_some hp
      refine ⟨havailable (by rw [Request.kind, hlocation]; rfl), table, segments, htable, hsegments,
        line, place, p.address, others, hnearest, haddresses, hpc, hpacket⟩
  | _ => cases htag

/-- The momentary breakpoints that a state announces are at addresses of its table. -/
theorem planted (h : d.Issues Q N c) (htag : c.tag = .momentaryBreakpoint) :
    d.session.debugInfo.isAvailable = true ∧ ∃ table, d.session.debugInfo.table = some table ∧
      c.PlantedBy table (d.world.memory.read .momentaryBreakpoints) := by
  cases h with
  | @momentary table kind pc addresses rest havailable htable haddresses hsome hcount hregion =>
    exact ⟨havailable, table, htable, kind, pc, addresses, rest, haddresses, rfl, hregion,
      fun address hmem => Op.mem_stepAddresses haddresses hmem⟩
  | request hr havailable hc =>
    rw [(command?_creates hc).1] at htag
    cases htag
  | _ => cases htag

end Debugger.Issues

/-! ## Runs -/

namespace Action

variable {a : Action} {d : Debugger}

/-- The state in which an action begins to write commands: a new code object is loaded by then. -/
def ready (a : Action) (d : Debugger) : Debugger :=
  match a.notification? d with
  | some (.newBinary kernel groupSize gridSize) =>
    (Op.prepare ⟨kernel, groupSize, gridSize⟩).final (a.received d)
  | _ => d

theorem log_ready (a : Action) (d : Debugger) :
    (a.ready d).world.transmissions = d.world.transmissions := by
  unfold ready
  split
  · exact (Op.silent_prepare _ (a.received d)).log.trans (a.calm_received d).transmissions
  · rfl

/-- If debug information is available after an action, then it was as it is now when the action
began to write. -/
theorem debugInfo_ready (h : (a.run d).session.debugInfo.isAvailable = true) :
    (a.ready d).session.debugInfo = (a.run d).session.debugInfo := by
  rw [debugInfo_run] at h ⊢
  unfold nextInfo ready at *
  cases hn : a.notification? d with
  | some n =>
    rw [hn] at h
    cases n with
    | newBinary kernel groupSize gridSize =>
      exact (Op.debugInfo_prepare _ _).trans (a.reloaded_received d)
    | endDebugging completed =>
      cases completed with
      | true => cases h
      | false => rfl
    | _ => rfl
  | none =>
    rw [hn] at h
    cases a with
    | close => cases h
    | _ => rfl

/-- What an action passes belongs to the state after it. -/
theorem passes_any (a : Action) (d : Debugger) :
    (d.on (a.channel d)).Passes ((a.run d).Issues (fun _ => True) fun _ => True) (a.run d) := by
  have hd : d.Holds fun _ => True := ⟨fun _ _ _ => trivial, fun _ _ _ => trivial⟩
  have ha : a.Asks (fun _ => True) fun _ => True := by cases a <;> trivial
  exact passes (fun _ _ => id) hd ha

/-- What an action writes belongs to the state after it, and is valid. -/
theorem issues_of_written {t : Transmission}
    (ht : t ∈ (a.run d).world.transmissions.drop d.world.transmissions.length) :
    (a.run d).Issues (fun _ => True) (fun _ => True) t.command ∧ t.command.isValid = true :=
  (a.passes_any d).of_mem_drop ht

end Action

namespace Debugger

/-- **Addresses are sent from the last code object only.** In every run from a new session, debug
information is available exactly if the last action that concerned it took over a code object that
could be read. Every command for a source line, and every one that announces momentary breakpoints,
is written while debug information is available: it was there when the action began to write, and
is the same when the action ends. The addresses are those of the line table of the last code
object. -/
theorem sent_from_last_object (config : Config) (reader : ImageReader) (host : Host) (world : World)
    (actions : List Action) :
    let start : Debugger := ⟨Session.ofConfig config reader, host, world⟩
    let d := start.after actions
    (d.session.debugInfo.isAvailable = true ↔
      ∃ table, (start.marks actions).getLast? = some (some table)) ∧
    ∀ a : Action, ∀ t ∈ (a.run d).world.transmissions.drop d.world.transmissions.length,
      t.command.IsSource ∨ t.command.tag = .momentaryBreakpoint →
      (a.run d).session.debugInfo.isAvailable = true ∧
      (a.ready d).session.debugInfo = (a.run d).session.debugInfo ∧
      (a.ready d).world.transmissions = d.world.transmissions ∧
      ∃ table, (start.marks (actions ++ [a])).getLast? = some (some table) ∧
        (t.command.IsSource → ∃ segments, (a.run d).usableSegments = .ok segments ∧
          t.command.PlacedBy table segments) ∧
        (t.command.tag = .momentaryBreakpoint →
          t.command.PlantedBy table ((a.run d).world.memory.read .momentaryBreakpoints)) := by
  intro start d
  have hnone : start.session.debugInfo.current? = none := rfl
  refine ⟨?_, fun a t ht hsort => ?_⟩
  · rw [DebugInfo.isAvailable_iff]
    exact exists_congr fun table => isAvailable_after_iff hnone actions table
  · obtain ⟨hissued, hvalid⟩ := a.issues_of_written ht
    have hmark : ∀ table, (a.run d).session.debugInfo.isAvailable = true →
        (a.run d).session.debugInfo.table = some table →
        (start.marks (actions ++ [a])).getLast? = some (some table) := by
      intro table havailable htable
      rw [← isAvailable_after_iff hnone]
      have hafter : start.after (actions ++ [a]) = a.run d := List.foldl_append
      rw [hafter, DebugInfo.current?_of_available havailable, htable]
    rcases hsort with hsource | htag
    · obtain ⟨havailable, table, segments, htable, hsegments, hplaced⟩ :=
        hissued.placed hvalid hsource
      refine ⟨havailable, Action.debugInfo_ready havailable, a.log_ready d, table,
        hmark table havailable htable, fun _ => ⟨segments, hsegments, hplaced⟩, fun htag => ?_⟩
      cases hsource.1.symm.trans htag
    · obtain ⟨havailable, table, htable, hplanted⟩ := hissued.planted htag
      refine ⟨havailable, Action.debugInfo_ready havailable, a.log_ready d, table,
        hmark table havailable htable, fun hsource => ?_, fun _ => hplanted⟩
      cases hsource.1.symm.trans htag

/-- A code object is taken over, and a breakpoint on its line 4 is sent: the line table counts, and
the address comes from it. -/
theorem line_sent_from_its_object :
    ∃ t ∈ ((Action.resolve ⟨1, .any, .source none 4 none⟩).run (Debugger.after
        ⟨Session.ofConfig { Config.standard with pendingCapacity := 4 } Op.twoObjects, .empty,
          Op.publishing [1]⟩
        [.openChannel .onPipe, .notification Op.published])).world.transmissions,
      t.command.pc = 65792 ∧ ∃ segments, t.command.PlacedBy ⟨[⟨256, 4, none⟩], none⟩ segments := by
  have hall := (sent_from_last_object { Config.standard with pendingCapacity := 4 } Op.twoObjects
    .empty (Op.publishing [1]) [.openChannel .onPipe, .notification Op.published]).2
    (.resolve ⟨1, .any, .source none 4 none⟩) _ (List.mem_singleton_self _) (.inl ⟨rfl, rfl⟩)
  obtain ⟨-, -, -, table, hlast, hplaced, -⟩ := hall
  obtain ⟨segments, -, hplaced⟩ := hplaced ⟨rfl, rfl⟩
  have htable : some (some table) = some (some ⟨[⟨256, 4, none⟩], none⟩) := hlast.symm.trans rfl
  cases htable
  exact ⟨_, List.mem_singleton_self _, rfl, segments, hplaced⟩

end Debugger

end GpuDebug
