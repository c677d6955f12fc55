import GpuDebug.Proofs.Backdrop
import GpuDebug.Proofs.Setting

/-!
# Operations that do not look at the requests that wait

Most operations neither read the pending cache nor change it. Such an operation does the same
whatever waits, and what waits is the same afterwards.

* `Op.overlay`: a result in which other requests wait.
* `Op.Blind`: the operation does the same with other requests waiting; `Op.Blind.pending` says that
  it leaves them as they are.
* `Op.blind_sendRequest`, `Op.blind_prepare`, `Op.blind_connect`: sending a request, and what comes
  before requests are flushed.
-/

namespace GpuDebug

namespace Op

variable {α : Type}

/-- The result with other requests waiting. -/
def overlay (pending : Pending) :
    EStateM.Result Error Debugger α → EStateM.Result Error Debugger α
  | .ok a d => .ok a (d.withPending pending)
  | .error e d => .error e (d.withPending pending)

/-- The operation does the same whatever waits. -/
def Blind (op : Op α) : Prop :=
  ∀ pending d, op.run (d.withPending pending) = overlay pending (op.run d)

namespace Blind

variable {op : Op α}

/-- The requests that wait are part of a backdrop. -/
theorem of_oblivious (h : ∀ b, Oblivious b op) : Blind op := by
  intro pending d
  refine (h ⟨some pending, none, none, []⟩ d).trans ?_
  cases op.run d <;> rfl

theorem final (h : Blind op) (pending : Pending) (d : Debugger) :
    op.final (d.withPending pending) = (op.final d).withPending pending := by
  unfold Op.final
  rw [h]
  cases op.run d with
  | ok a d' => rfl
  | error e d' => rfl

/-- What waits before the operation waits after it. -/
theorem pending (h : Blind op) (d : Debugger) :
    (op.final d).session.pending = d.session.pending := by
  have hsame : op.final d = (op.final d).withPending d.session.pending :=
    h.final d.session.pending d
  rw [hsame]
  rfl

end Blind

theorem blind_sendRequest (r : Request) : Blind (sendRequest r) :=
  .of_oblivious fun _ => oblivious_sendRequest r

/-! ## Before requests are flushed -/

theorem blind_prepare (launch : Launch) : Blind (prepare launch) :=
  .of_oblivious fun _ => oblivious_prepare launch

/-- The first part of opening a channel: kernels are forgotten, and the agent's logging is switched
on if it should be. -/
def connect (channel : Channel) : Op Unit := do
  modifySession ({ · with channel, kernels := KernelCatalog.empty })
  let config := (← session).config
  if config.agentLogging || config.forcesLogging (← world).environment then setAgentLogging true

theorem openChannel_eq (channel : Channel) : openChannel channel = (do
    connect channel
    flushPending) := by
  unfold openChannel connect
  simp only [bind_assoc]
  refine bind_congr fun _ => bind_congr fun s => bind_congr fun w => ?_
  split <;> simp only [pure_bind]

theorem blind_connect (channel : Channel) : Blind (connect channel) := by
  refine .of_oblivious fun b => .bind (.modifySession fun _ => rfl) fun _ => ?_
  refine .session_bind (fun _ => rfl) fun s => .world_bind (fun _ => rfl) fun w => ?_
  exact .ite (oblivious_setAgentLogging true) (.pure _)

end Op

end GpuDebug
