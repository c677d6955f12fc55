import GpuDebug.Proofs.Setting

/-!
# The course of a session

* `Action`: one thing that happens to a debugger: an operation of the session, a change of the
  host's breakpoints, or anything that happens in the world outside.
* `Debugger.Reachable`: the states after any sequence of actions, from a new session and a host
  without breakpoints.
* `Debugger.Sound`: the invariant of reachable states. Requests that wait are distinct, stored
  breakpoints carry the number under which they are stored, and a process address stands beside
  the address inside the code object from which it was computed.
* `Debugger.Reachable.ascending`: the host keeps its breakpoints in ascending order.
-/

namespace GpuDebug

/-- One thing that happens to a debugger. -/
inductive Action
  | resolve (r : Request)
  | flush
  | adjust
  | delete (number : Int32)
  | disable (number : Int32)
  | statistics (numbers counts : List Int32)
  | notification (n : Notification)
  | event
  | attach (inbox : Inbox)
  | attachFile
  | openChannel (channel : Channel)
  | openFile
  | logging (enabled : Bool)
  | kill (quits : Bool)
  | focus (arguments : String)
  | thread
  | stop
  | step (kind : StepKind) (count : UInt32)
  | go
  | close
  | cleanUp
  /-- The host stores a breakpoint for a request. -/
  | store (r : Request)
  /-- The host removes the breakpoint of a number. -/
  | discard (number : Int32)
  /-- The host and the world become others, with the breakpoints and the log as they were. -/
  | outside (h : Host) (w : World)

namespace Action

/-- The state after an action. -/
def run : Action → Debugger → Debugger
  | resolve r => (Op.resolve r).final
  | flush => Op.flushPending.final
  | adjust => Op.adjustAll.final
  | delete number => (Op.deleteBreakpoint number).final
  | disable number => (Op.disableBreakpoint number).final
  | statistics numbers counts => (Op.updateStatistics numbers counts).final
  | notification n => (Op.dispatchNotification n).final
  | event => Op.handleEvent.final
  | attach inbox => (Op.attachInbox inbox).final
  | attachFile => Op.attachFile.final
  | openChannel channel => (Op.openChannel channel).final
  | openFile => Op.openFile.final
  | logging enabled => (Op.setAgentLogging enabled).final
  | kill quits => (Op.killWaves quits).final
  | focus arguments => (Op.switchFocus arguments).final
  | thread => Op.selectDispatchThread.final
  | stop => Op.reportStop.final
  | step kind count => (Op.step kind count).final
  | go => Op.continueDispatch.final
  | close => Op.close.final
  | cleanUp => Op.cleanUp.final
  | store r => fun d => { d with host := d.host.add r }
  | discard number => fun d =>
    { d with host := { d.host with breakpoints := d.host.breakpoints.erase number } }
  | outside h w => fun d =>
    { d with
      host := { h with breakpoints := d.host.breakpoints }
      world := { w with transmissions := d.world.transmissions } }

/-- Whether the action asks for the breakpoint of a number. -/
def resolves (number : Int32) : Action → Bool
  | resolve r => r.number == number
  | _ => false

/-- Whether the action names a breakpoint, or happens outside. -/
def isSpecial : Action → Bool
  | resolve _ | delete _ | store _ | discard _ | outside .. => true
  | _ => false

end Action

/-- The state after some actions. -/
def Debugger.after (d : Debugger) (actions : List Action) : Debugger :=
  actions.foldl (fun d a => a.run d) d

/-- The states after any sequence of actions, from a new session and a host without breakpoints. -/
inductive Debugger.Reachable : Debugger → Prop
  | start (config : Config) (reader : ImageReader) (host : Host) (world : World)
      (h : host.breakpoints = .empty) : Reachable ⟨Session.ofConfig config reader, host, world⟩
  | step (a : Action) {d : Debugger} (h : Reachable d) : Reachable (a.run d)

/-- A new session in an empty world, with room for four requests. -/
def Debugger.fresh : Debugger where
  session := Session.ofConfig { Config.standard with pendingCapacity := 4 } fun _ _ =>
    .error .noDebugInfo
  host := Host.empty
  world := default

instance : Inhabited Debugger := ⟨Debugger.fresh⟩

theorem Debugger.reachable_fresh : Debugger.fresh.Reachable :=
  .start _ _ _ _ rfl

theorem Debugger.Reachable.after {d : Debugger} (h : d.Reachable) (actions : List Action) :
    (d.after actions).Reachable := by
  induction actions generalizing d with
  | nil => exact h
  | cons a actions ih => exact ih (h.step a)

namespace Op

/-- All actions but the special ones are made of quiet steps, flushing and resolving again. -/
theorem Carried.run {R : Debugger → Debugger → Prop} [IsPreorder Debugger R] (h : Carried R)
    {a : Action} (ha : a.isSpecial = false) (d : Debugger) : R d (a.run d) := by
  have quiet : ∀ {α : Type} {op : Op α}, Quiet op → R d (op.final d) := fun hop =>
    h.quiet _ _ (hop d)
  cases a with
  | resolve r => cases ha
  | flush => exact respects_flushPending h.flushSlot d
  | adjust => exact respects_adjustAll h.adjust d
  | delete number => cases ha
  | disable number => exact quiet (quiet_disableBreakpoint number)
  | statistics numbers counts => exact quiet (calm_updateStatistics numbers counts).quiet
  | notification n => exact h.dispatchNotification n d
  | event => exact h.handleEvent d
  | attach inbox => exact quiet (calm_attachInbox inbox).quiet
  | attachFile => exact quiet calm_attachFile.quiet
  | openChannel channel => exact h.openChannel channel d
  | openFile => exact h.openFile d
  | logging enabled => exact quiet (quiet_setAgentLogging enabled)
  | kill quits => exact quiet (calm_killWaves quits).quiet
  | focus arguments => exact quiet (calm_switchFocus arguments).quiet
  | thread => exact quiet calm_selectDispatchThread.quiet
  | stop => exact quiet calm_reportStop.quiet
  | step kind count => exact quiet (quiet_step kind count)
  | go => exact quiet quiet_continueDispatch
  | close => exact quiet quiet_close
  | cleanUp => exact quiet calm_cleanUp.quiet
  | store r => cases ha
  | discard number => cases ha
  | outside h w => cases ha

end Op

/-! ## Actions on another number -/

namespace Debugger

variable {d : Debugger} {n number : Int32}

theorem untouched_store {r : Request} (hr : r.number ≠ number) :
    Untouched number d ((Action.store r).run d) := by
  refine ⟨.of_world_eq rfl, ?_⟩
  change View.mk _ (((d.host.add r).breakpoints.get? number).map Breakpoint.placing) _ = _
  rw [Host.get?_add, if_neg hr]
  rfl

theorem untouched_discard (hn : n ≠ number) : Untouched number d ((Action.discard n).run d) := by
  refine ⟨.of_world_eq rfl, ?_⟩
  change View.mk _ (((d.host.breakpoints.erase n).get? number).map Breakpoint.placing) _ = _
  rw [BreakpointTable.get?_erase, if_neg hn]
  rfl

theorem untouched_delete (hn : n ≠ number) : Untouched number d ((Action.delete n).run d) := by
  have hsend : Op.Respects (Untouched number) (Op.send (.delete n)) :=
    Op.untouched_send fun t ht => by simp [Transmission.concerns, ht, Command.delete, hn]
  have hdelete : Op.Respects (Untouched number) (Op.deleteBreakpoint n) :=
    .bind (Op.untouched_removePending hn) fun _ => .bind .session fun _ => .ite hsend (.pure _)
  exact hdelete d

theorem untouched_resolve {r : Request} (hr : r.number ≠ number) :
    Untouched number d ((Action.resolve r).run d) :=
  Op.respects_resolve (Op.untouched_sendRequest hr) (Op.untouched_buffer hr) d

end Debugger

/-! ## The invariant of reachable states -/

namespace Debugger

/-- The host stores breakpoints under the numbers of their requests. -/
def Keyed (d : Debugger) : Prop :=
  ∀ number b, (d.view number).stored = some b → b.request.number = number

theorem Keyed.sentState {d' : Debugger} (h : d'.Keyed) (d : Debugger) (r : Request) :
    (d.sentState r d').Keyed := by
  intro number b hb
  rcases stored_sentState_cases hb with hold | ⟨_, _, _, p, c, rfl, -, -, rfl⟩
  · exact h number b hold
  · exact r.number_withStatement p.statement

/-- The invariant of reachable states. -/
structure Sound (d : Debugger) : Prop where
  distinct : d.session.pending.Distinct
  keyed : d.Keyed
  placed : ∀ number b, (d.view number).stored = some b → b.pc.isSome = b.codeAddress.isSome

namespace Sound

variable {d d' : Debugger}

/-- The log of commands does not matter. -/
theorem congr (h : d.Sound) (hw : ∀ number, (d'.view number).waiting = (d.view number).waiting)
    (hs : ∀ number, (d'.view number).stored = (d.view number).stored) : d'.Sound where
  distinct number := by
    have hd := h.distinct number
    rwa [show d'.session.pending.waiting number = _ from hw number]
  keyed number b hb := h.keyed number b (hs number ▸ hb)
  placed number b hb := h.placed number b (hs number ▸ hb)

theorem of_quiet (h : d.Sound) (hq : Quiet d d') : d'.Sound :=
  h.congr (fun number => congrArg View.waiting (hq.untouched number).view) fun number =>
    congrArg View.stored (hq.untouched number).view

theorem withPending (h : d.Sound) {pending : Pending} (hp : pending.Distinct) :
    (d.withPending pending).Sound where
  distinct := hp
  keyed := h.keyed
  placed := h.placed

end Sound

/-- The breakpoint that the host stores, with its counters. -/
theorem stored_of_get? {d : Debugger} {number : Int32} {b : Breakpoint}
    (h : d.host.breakpoints.get? number = some b) : (d.view number).stored = some b.placing := by
  rw [view, h]
  rfl

theorem Sound.number_of_get? {d : Debugger} (h : d.Sound) {number : Int32} {b : Breakpoint}
    (hb : d.host.breakpoints.get? number = some b) : b.request.number = number :=
  h.keyed number b.placing (stored_of_get? hb)

theorem sound_start (config : Config) (reader : ImageReader) (host : Host) (world : World)
    (h : host.breakpoints = .empty) :
    Sound ⟨Session.ofConfig config reader, host, world⟩ := by
  have hnone : ∀ number, (view ⟨Session.ofConfig config reader, host, world⟩ number).stored =
      none := by
    intro number
    rw [view, h]
    rfl
  refine ⟨Pending.distinct_ofCapacity _, fun number b hb => ?_, fun number b hb => ?_⟩
  · rw [hnone] at hb
    cases hb
  · rw [hnone] at hb
    cases hb

end Debugger

namespace Op

open Debugger (Sound)

theorem sound_send (c : Command) : Preserves Sound (send c) := by
  intro d hd
  obtain ⟨hpending, hhost⟩ := send_keeps c d
  refine hd.congr (fun number => ?_) fun number => ?_
  · rw [Debugger.view, hpending]
    rfl
  · rw [Debugger.view, hhost]
    rfl

theorem sound_sendRequest (r : Request) : Preserves Sound (sendRequest r) := by
  refine respects_sendRequest (fun _ _ hl hd => hd.of_quiet hl.quiet) (fun c _ _ => sound_send c) ?_
  intro d d' _ hd
  refine ⟨hd.distinct, hd.keyed.sentState d r, fun number b hb => ?_⟩
  rcases Debugger.stored_sentState_cases hb with hold | ⟨_, _, _, p, c, rfl, -, -, rfl⟩
  · exact hd.placed number b hold
  · rfl

theorem sound_buffer (r : Request) : Preserves Sound (buffer r) := by
  intro d hd
  rcases buffer_final r d with h | ⟨slot, pending, hp, h⟩
  · rw [h]
    exact hd
  · rw [h]
    exact hd.withPending (hd.distinct.push hp)

/-- Quiet steps, flushing and resolving again keep the invariant. -/
theorem carried_sound : Carried fun d d' => Sound d → Sound d' where
  quiet _ _ hq hd := hd.of_quiet hq
  flushSlot _ _ := flushSlot_related fun r _ =>
    ⟨fun hd => hd.withPending (hd.distinct.take _), sound_sendRequest r, sound_buffer r⟩
  adjust _ _ := adjust_related fun r _ =>
    ⟨fun hd => hd.withPending (hd.distinct.remove _), sound_sendRequest r, sound_buffer r⟩

theorem sound_deleteBreakpoint (number : Int32) : Preserves Sound (deleteBreakpoint number) := by
  refine .bind (fun d hd => ?_) fun _ => .bind .session fun s => .ite (sound_send _) (.pure _)
  exact hd.withPending (hd.distinct.remove number)

end Op

namespace Debugger

/-- Every action keeps the invariant. -/
theorem Sound.run {d : Debugger} (hd : d.Sound) (a : Action) : (a.run d).Sound := by
  cases hspecial : a.isSpecial with
  | false => exact Op.carried_sound.run hspecial d hd
  | true =>
    cases a with
    | resolve r => exact Op.respects_resolve (Op.sound_sendRequest r) (Op.sound_buffer r) d hd
    | delete number => exact Op.sound_deleteBreakpoint number d hd
    | store r =>
      have stored : ∀ number b, ((Action.run (.store r) d).view number).stored = some b →
          (d.view number).stored = some b ∨
            (r.number = number ∧ b = Breakpoint.ofRequest r) := by
        intro number b hb
        change ((d.host.add r).breakpoints.get? number).map Breakpoint.placing = some b at hb
        rw [Host.get?_add] at hb
        split at hb
        · next hn => exact .inr ⟨hn, (Option.some.inj hb).symm⟩
        · exact .inl hb
      refine ⟨hd.distinct, fun number b hb => ?_, fun number b hb => ?_⟩
      · rcases stored number b hb with hold | ⟨rfl, rfl⟩
        · exact hd.keyed number b hold
        · rfl
      · rcases stored number b hb with hold | ⟨rfl, rfl⟩
        · exact hd.placed number b hold
        · rfl
    | discard n =>
      have stored : ∀ number b, ((Action.run (.discard n) d).view number).stored = some b →
          (d.view number).stored = some b := by
        intro number b hb
        change ((d.host.breakpoints.erase n).get? number).map Breakpoint.placing = some b at hb
        rw [BreakpointTable.get?_erase] at hb
        split at hb
        · cases hb
        · exact hb
      exact ⟨hd.distinct, fun number b hb => hd.keyed number b (stored number b hb),
        fun number b hb => hd.placed number b (stored number b hb)⟩
    | outside h w => exact hd.congr (fun _ => rfl) fun _ => rfl
    | _ => cases hspecial

/-- **Every reachable state is sound.** -/
theorem Reachable.sound {d : Debugger} (h : d.Reachable) : d.Sound := by
  induction h with
  | start config reader host world h => exact sound_start config reader host world h
  | step a h ih => exact ih.run a

end Debugger

/-! ## The order of the breakpoints -/

/-- The breakpoints of the host stand in ascending order. -/
def Debugger.Ordered (d : Debugger) : Prop :=
  d.host.breakpoints.Ascending

namespace Debugger

variable {d d' : Debugger}

theorem Ordered.of_numbers_eq (h : d.Ordered)
    (heq : d'.host.breakpoints.numbers = d.host.breakpoints.numbers) : d'.Ordered := by
  unfold Ordered BreakpointTable.Ascending at h ⊢
  rw [heq]
  exact h

theorem numbers_recorded (d : Debugger) (r : Request) (h : Host) :
    (d.recorded r h).breakpoints.numbers = h.breakpoints.numbers := by
  rcases d.recorded_cases r h with heq | ⟨file, line, statement, p, -, -, heq⟩
  · rw [heq]
  · rw [heq, h.numbers_update _ (p.record_number r)]

end Debugger

namespace Op

open Debugger (Ordered)

theorem ordered_send (c : Command) : Preserves Ordered (send c) := by
  intro d hd
  refine hd.of_numbers_eq ?_
  rw [(send_keeps c d).2]

theorem ordered_sendRequest (r : Request) : Preserves Ordered (sendRequest r) :=
  respects_sendRequest (fun _ _ hl hd => hd.of_numbers_eq hl.quiet.numbers)
    (fun c _ _ => ordered_send c) fun d d' _ hd => hd.of_numbers_eq (d.numbers_recorded r d'.host)

theorem ordered_buffer (r : Request) : Preserves Ordered (buffer r) := by
  intro d hd
  rcases buffer_final r d with h | ⟨slot, pending, -, h⟩
  · rw [h]
    exact hd
  · rw [h]
    exact hd

theorem carried_ordered : Carried fun d d' => Ordered d → Ordered d' where
  quiet _ _ hq hd := hd.of_numbers_eq hq.numbers
  flushSlot _ _ := flushSlot_related fun r _ => ⟨id, ordered_sendRequest r, ordered_buffer r⟩
  adjust _ _ := adjust_related fun r _ => ⟨id, ordered_sendRequest r, ordered_buffer r⟩

end Op

namespace Debugger

theorem Ordered.run {d : Debugger} (hd : d.Ordered) (a : Action) : (a.run d).Ordered := by
  cases hspecial : a.isSpecial with
  | false => exact Op.carried_ordered.run hspecial d hd
  | true =>
    cases a with
    | resolve r => exact Op.respects_resolve (Op.ordered_sendRequest r) (Op.ordered_buffer r) d hd
    | delete number =>
      have hdelete : Op.Preserves Ordered (Op.deleteBreakpoint number) :=
        .bind (fun _ => id) fun _ => .bind .session fun _ => .ite (Op.ordered_send _) (.pure _)
      exact hdelete d hd
    | store r => exact BreakpointTable.Ascending.insert hd _
    | discard number => exact BreakpointTable.Ascending.erase hd number
    | outside h w => exact hd
    | _ => cases hspecial

/-- **The host keeps its breakpoints in ascending order.** -/
theorem Reachable.ascending {d : Debugger} (h : d.Reachable) : d.host.breakpoints.Ascending := by
  induction h with
  | start config reader host world h => exact h ▸ BreakpointTable.ascending_empty
  | step a h ih => exact Ordered.run ih a

end Debugger

end GpuDebug
