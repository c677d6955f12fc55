import GpuDebug.Proofs.Quiet

/-!
# Operations that do not notice a change

Parts of a state can be exchanged without an operation noticing: it does the same, and treats the
new parts as it would have treated the old ones.

* `Backdrop`: what is put in the place of parts of a state: the requests that wait, the reader of
  notifications, what arrives, and the lines that were shown before.
* `Op.Oblivious`: the operation does the same against another backdrop. Sequences inherit this from
  their parts; looking at the state is oblivious if what follows does not depend on the backdrop.
* `Op.oblivious_sendRequest`, `Op.oblivious_prepare`: operations that neither look at the requests
  that wait nor change them.
-/

namespace GpuDebug

/-- What is put in the place of parts of a state. A part that is missing here stays as it is, and
the lines come before those that the state has shown. -/
structure Backdrop where
  pending : Option Pending
  inbox : Option (Option Inbox)
  arrivals : Option (List Arrival)
  notices : List String

namespace Backdrop

variable (b : Backdrop)

def session (s : Session) : Session :=
  { s with pending := b.pending.getD s.pending, inbox := b.inbox.getD s.inbox }

def host (h : Host) : Host :=
  { h with notices := b.notices ++ h.notices }

def world (w : World) : World :=
  { w with arrivals := b.arrivals.getD w.arrivals }

theorem host_display (h : Host) (line : String) :
    (b.host h).display line = b.host (h.display line) := by
  unfold host Host.display
  rw [List.append_assoc]

theorem host_update (h : Host) (number : Int32) (f : Breakpoint → Breakpoint) :
    (b.host h).update number f = b.host (h.update number f) := by
  have hbreakpoints : (b.host h).breakpoints = h.breakpoints := rfl
  unfold Host.update
  rw [hbreakpoints]
  cases h.breakpoints.get? number <;> rfl

theorem world_nextReply (w : World) :
    (b.world w).nextReply = (w.nextReply.1, b.world w.nextReply.2) := by
  have hreplies : (b.world w).replies = w.replies := rfl
  unfold World.nextReply
  rw [hreplies]
  cases w.replies <;> rfl

end Backdrop

/-- The state against a backdrop. -/
def Debugger.against (d : Debugger) (b : Backdrop) : Debugger :=
  ⟨b.session d.session, b.host d.host, b.world d.world⟩

/-- Sending a command neither looks at what arrives nor changes it. -/
theorem Channel.send_against (b : Backdrop) (c : Channel) (w : World) (command : Command) :
    c.send (b.world w) command =
      ((c.send w command).1, (c.send w command).2.1, b.world (c.send w command).2.2) := by
  unfold send
  split
  · rfl
  · split
    · rfl
    · split
      · unfold sendPipe
        rw [b.world_nextReply]
        rfl
      · rfl

namespace Op

variable {α β : Type} {b : Backdrop}

/-- The result with its state against a backdrop. -/
def resultAgainst (b : Backdrop) :
    EStateM.Result Error Debugger α → EStateM.Result Error Debugger α
  | .ok a d => .ok a (d.against b)
  | .error e d => .error e (d.against b)

/-- The operation does the same against the backdrop. -/
def Oblivious (b : Backdrop) (op : Op α) : Prop :=
  ∀ d, op.run (d.against b) = resultAgainst b (op.run d)

namespace Oblivious

variable {op : Op α}

theorem final (h : Oblivious b op) (d : Debugger) :
    op.final (d.against b) = (op.final d).against b := by
  unfold Op.final
  rw [h]
  cases op.run d with
  | ok a d' => rfl
  | error e d' => rfl

theorem pure (a : α) : Oblivious b (pure a) := fun _ => rfl

theorem throw (e : Error) : Oblivious b (throw e : Op α) := fun _ => rfl

theorem ofExcept (x : Except Error α) : Oblivious b (Op.ofExcept x) := by
  cases x with
  | ok a => exact .pure a
  | error e => exact .throw e

theorem bind {f : α → Op β} (h : Oblivious b op) (hf : ∀ a, Oblivious b (f a)) :
    Oblivious b (op >>= f) := by
  intro d
  rw [EStateM.run_bind, EStateM.run_bind, h]
  cases op.run d with
  | ok a d' => exact hf a d'
  | error e d' => rfl

theorem attempt (h : Oblivious b op) : Oblivious b (Op.attempt op) := by
  intro d
  have hrun := h d
  cases hop : op.run d with
  | ok a d' =>
    rw [hop] at hrun
    rw [attempt_of_ok hop, attempt_of_ok hrun]
    rfl
  | error e d' =>
    rw [hop] at hrun
    rw [attempt_of_error hop, attempt_of_error hrun]
    rfl

theorem ite {c : Prop} [Decidable c] {op' : Op α} (h : Oblivious b op) (h' : Oblivious b op') :
    Oblivious b (if c then op else op') :=
  iteInduction (motive := Oblivious b) (fun _ => h) fun _ => h'

/-! ### Looking at the state and going on in a way that does not depend on the backdrop -/

theorem session_bind {f : Session → Op β} (hsame : ∀ s, f (b.session s) = f s)
    (hf : ∀ s, Oblivious b (f s)) : Oblivious b (session >>= f) := by
  intro d
  rw [bind_of_ok (run_session _), bind_of_ok (run_session d)]
  show (f (b.session d.session)).run (d.against b) = _
  rw [hsame]
  exact hf d.session d

theorem host_bind {f : Host → Op β} (hsame : ∀ h, f (b.host h) = f h)
    (hf : ∀ h, Oblivious b (f h)) : Oblivious b (host >>= f) := by
  intro d
  rw [bind_of_ok (run_host _), bind_of_ok (run_host d)]
  show (f (b.host d.host)).run (d.against b) = _
  rw [hsame]
  exact hf d.host d

theorem world_bind {f : World → Op β} (hsame : ∀ w, f (b.world w) = f w)
    (hf : ∀ w, Oblivious b (f w)) : Oblivious b (world >>= f) := by
  intro d
  rw [bind_of_ok (run_world _), bind_of_ok (run_world d)]
  show (f (b.world d.world)).run (d.against b) = _
  rw [hsame]
  exact hf d.world d

/-! ### Changing the state in a way that leaves the backdrop -/

theorem modifySession {f : Session → Session} (hf : ∀ s, f (b.session s) = b.session (f s)) :
    Oblivious b (modifySession f) := by
  intro d
  rw [run_modifySession, run_modifySession]
  show EStateM.Result.ok () (Debugger.mk (f (b.session d.session)) _ _) = _
  rw [hf]
  rfl

theorem modifyHost {f : Host → Host} (hf : ∀ h, f (b.host h) = b.host (f h)) :
    Oblivious b (modifyHost f) := by
  intro d
  rw [run_modifyHost, run_modifyHost]
  show EStateM.Result.ok () (Debugger.mk _ (f (b.host d.host)) _) = _
  rw [hf]
  rfl

theorem modifyWorld {f : World → World} (hf : ∀ w, f (b.world w) = b.world (f w)) :
    Oblivious b (modifyWorld f) := by
  intro d
  rw [run_modifyWorld, run_modifyWorld]
  show EStateM.Result.ok () (Debugger.mk _ _ (f (b.world d.world))) = _
  rw [hf]
  rfl

end Oblivious

/-! ## Sending a request -/

theorem oblivious_notify (text : String) : Oblivious b (notify text) :=
  .modifyHost fun h => b.host_display h _

theorem oblivious_update (number : Int32) (f : Breakpoint → Breakpoint) :
    Oblivious b (modifyHost (·.update number f)) :=
  .modifyHost fun h => b.host_update h number f

theorem oblivious_send (c : Command) : Oblivious b (send c) := by
  intro d
  have run_send : ∀ d : Debugger, (send c).run d =
      (ofExcept (d.session.channel.send d.world c).1).run
        ⟨{ d.session with channel := (d.session.channel.send d.world c).2.1 }, d.host,
          (d.session.channel.send d.world c).2.2⟩ := fun _ => rfl
  have hsend : (d.against b).session.channel.send (d.against b).world c = _ :=
    d.session.channel.send_against b d.world c
  rw [run_send, run_send, hsend]
  exact Oblivious.ofExcept (d.session.channel.send d.world c).1
    ⟨{ d.session with channel := (d.session.channel.send d.world c).2.1 }, d.host,
      (d.session.channel.send d.world c).2.2⟩

theorem oblivious_refreshSegments : Oblivious b refreshSegments :=
  .world_bind (fun _ => rfl) fun _ => .bind (.ofExcept _) fun _ => .modifySession fun _ => rfl

theorem oblivious_sendSource (r : Request) (file : Option String) (line : UInt64) :
    Oblivious b (sendSource r file line) := by
  have place : ∀ (address : UInt64) (place : CodeLocation), Oblivious b (do
      let pc ← ofExcept ((← session).segments.toProcess address)
      let statement := (← session).debugInfo.statement place.line
      let packetLine ← ofExcept (packetLine place.line)
      send (.createSource r.number pc packetLine statement r.condition.toPacket)
      modifyHost (·.update r.number fun b =>
        { b with request := r.withStatement statement, pc := some pc, codeAddress := some address })
      return Resolution.sent (some pc)) := fun address place =>
    .session_bind (fun _ => rfl) fun _ => .bind (.ofExcept _) fun _ =>
      .session_bind (fun _ => rfl) fun _ => .bind (.ofExcept _) fun _ =>
        .bind (oblivious_send _) fun _ => .bind (oblivious_update _ _) fun _ => .pure _
  refine .session_bind (fun _ => rfl) fun s => .bind (.ofExcept _) fun place? => ?_
  cases place? with
  | none =>
    exact .session_bind (fun _ => rfl) fun _ =>
      .bind (.modifyHost fun h => b.host_display h _) fun _ => .pure _
  | some location =>
    refine .session_bind (fun _ => rfl) fun s => .bind (.ofExcept _) fun address? => ?_
    cases address? with
    | none => exact .pure _
    | some address =>
      refine .session_bind (fun _ => rfl) fun s => ?_
      exact .ite (.bind oblivious_refreshSegments fun _ => place address location)
        (place address location)

theorem oblivious_sendRequest (r : Request) : Oblivious b (sendRequest r) := by
  unfold sendRequest
  cases r.location with
  | kernel name => exact .bind (oblivious_send _) fun _ => .pure _
  | anywhere name => exact .bind (oblivious_send _) fun _ => .pure _
  | source file line statement => exact oblivious_sendSource r file line
  | unknown => exact .throw _

/-! ## Taking over a code object -/

theorem oblivious_loadImage : Oblivious b loadImage := by
  refine .session_bind (fun _ => rfl) fun s => .world_bind (fun _ => rfl) fun w => ?_
  refine .bind (.ofExcept _) fun image? => ?_
  cases image? with
  | none => exact .throw _
  | some image =>
    exact .bind (.modifySession fun _ => rfl) fun _ => .bind (.modifyWorld fun _ => rfl) fun _ =>
      .ofExcept _

theorem oblivious_saveIsa : Oblivious b saveIsa := by
  refine .session_bind (fun _ => rfl) fun s => .world_bind (fun _ => rfl) fun w => ?_
  dsimp only
  split
  · exact .throw _
  · split
    · exact .throw _
    · exact .modifyWorld fun _ => rfl

theorem oblivious_register (launch : Launch) (loaded : Bool) :
    Oblivious b (register launch loaded) := by
  have refresh : Oblivious b (do let _ ← Op.attempt refreshSegments) :=
    .bind oblivious_refreshSegments.attempt fun _ => .pure _
  refine .bind (.modifySession fun _ => rfl) fun _ => .session_bind (fun _ => rfl) fun _ => ?_
  exact .ite (.bind oblivious_saveIsa.attempt fun _ => refresh) refresh

/-- The first part of taking over a code object. -/
theorem oblivious_prepare (launch : Launch) : Oblivious b (prepare launch) := by
  refine .bind (.modifySession fun _ => rfl) fun _ => .bind oblivious_loadImage.attempt ?_
  intro loaded
  exact .ite (.bind (oblivious_notify _) fun _ => oblivious_register launch _)
    (oblivious_register launch _)

/-! ## Logging -/

theorem oblivious_setAgentLogging (enabled : Bool) : Oblivious b (setAgentLogging enabled) := by
  refine .session_bind (fun _ => rfl) fun s => .world_bind (fun _ => rfl) fun w => ?_
  refine .ite (oblivious_notify _) (.bind (.modifySession fun _ => rfl) fun _ => ?_)
  exact .session_bind (fun _ => rfl) fun _ => .ite (oblivious_send _) (.pure _)

end Op

end GpuDebug
