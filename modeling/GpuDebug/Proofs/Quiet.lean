import GpuDebug.Proofs.Calm

/-!
# Operations that set no breakpoint

Calm operations leave what is held about every number as it was. So do stepping, logging, switching
a breakpoint off and closing the channel, which command the agent or change the channel, and every
notification but that of a new code object. Of that one it is the first part, which loads the code
object (`Op.prepare`, `Op.onNewBinary_eq`).
-/

namespace GpuDebug.Op

/-! ## Stepping -/

theorem quiet_continueDispatch : Quiet continueDispatch :=
  quiet_send nofun nofun

theorem quiet_publishMomentary (entries : List Momentary) : Quiet (publishMomentary entries) :=
  (closed_respects Debugger.Quiet).publishMomentary
    (fun _ => quiet_modifyWorld fun _ => ⟨rfl, rfl⟩) entries

/-- A step is made of calm parts, of publishing its momentary breakpoints and of starting it. -/
theorem respects_step {R : Debugger → Debugger → Prop} [IsPreorder Debugger R]
    (calm : ∀ d d', Debugger.Calm d d' → R d d')
    (publish : ∀ entries, Respects R (publishMomentary entries))
    (start : ∀ count, Respects R (startStep count)) (kind : StepKind) (count : UInt32) :
    Respects R (step kind count) :=
  (closed_respects R).step (calm_currentPc.mono calm) (fun text => (calm_notify text).mono calm)
    publish start kind count

theorem quiet_startStep (count : Nat) : Quiet (startStep count) :=
  (closed_respects Debugger.Quiet).startStep (fun _ => quiet_send nofun nofun)
    quiet_continueDispatch count

theorem quiet_step (kind : StepKind) (count : UInt32) : Quiet (step kind count) :=
  respects_step (fun _ _ h => h.quiet) quiet_publishMomentary quiet_startStep kind count

theorem quiet_setAgentLogging (enabled : Bool) : Quiet (setAgentLogging enabled) := by
  refine .bind .session fun s => .bind .world fun w => ?_
  refine .ite (calm_notify _).quiet ?_
  refine .bind (quiet_modifySession fun _ => rfl) fun _ => .bind .session fun s => ?_
  exact .ite (quiet_send nofun nofun) (.pure _)

theorem quiet_disableBreakpoint (number : Int32) : Quiet (disableBreakpoint number) :=
  .bind (quiet_send nofun nofun) fun _ =>
    quiet_modifyHost (fun h n => h.placing_update number n fun _ => rfl) fun h =>
      h.numbers_update number fun _ => rfl

/-! ## The end of a session -/

theorem quiet_close : Quiet close :=
  .bind .session fun _ => .bind (quiet_modifyWorld fun _ => ⟨rfl, rfl⟩) fun _ =>
    quiet_modifySession fun _ => rfl

/-! ## Taking over a code object -/

theorem quiet_loadImage : Quiet loadImage :=
  respects_loadImage (fun files => (calm_files files).quiet) fun _ =>
    quiet_modifySession fun _ => rfl

/-- Registers a launch, saves the machine code if a code object was loaded and it should be shown,
and reads the segments. -/
def register (launch : Launch) (loaded : Bool) : Op Unit := do
  modifySession fun s => { s with kernels := s.kernels.register launch }
  if loaded && (← session).config.isa.shown then
    let _ ← attempt saveIsa
  let _ ← attempt refreshSegments

/-- The first part of taking over a new code object: it is loaded, and its launch is registered. -/
def prepare (launch : Launch) : Op Unit := do
  modifySession fun s => { s with debugInfo := s.debugInfo.invalidate }
  let loaded ← attempt loadImage
  if loaded.toOption.isNone then notify noDebugInfoNotice
  register launch loaded.toOption.isSome

/-- Taking over a code object: after the first part, breakpoints are resolved again, and requests
that wait are sent. -/
theorem onNewBinary_eq (launch : Launch) : onNewBinary launch = (do
    prepare launch
    let _ ← adjustAll
    let _ ← flushPending
    return ()) := by
  unfold onNewBinary prepare register
  simp only [bind_assoc]
  refine bind_congr fun _ => bind_congr fun loaded => ?_
  -- With the notice or without it, with a copy of the machine code or without it, the rest is the
  -- same.
  split
  · simp only [bind_assoc]
    refine bind_congr fun _ => bind_congr fun _ => bind_congr fun s => ?_
    split <;> simp only [bind_assoc, pure_bind]
  · simp only [bind_assoc]
    refine bind_congr fun _ => bind_congr fun s => ?_
    split <;> simp only [bind_assoc, pure_bind]

section Respects

variable {R : Debugger → Debugger → Prop} [IsPreorder Debugger R] {launch : Launch}

theorem respects_register
    (kernels : Respects R (modifySession fun s => { s with kernels := s.kernels.register launch }))
    (save : Respects R saveIsa) (refresh : Respects R refreshSegments) (loaded : Bool) :
    Respects R (register launch loaded) := by
  have refresh : Respects R (do let _ ← Op.attempt refreshSegments) :=
    .bind refresh.attempt fun _ => .pure _
  refine .bind kernels fun _ => .bind .session fun _ => ?_
  exact .ite (.bind save.attempt fun _ => refresh) refresh

theorem respects_prepare
    (invalidate : Respects R
      (modifySession fun s => { s with debugInfo := s.debugInfo.invalidate }))
    (load : Respects R loadImage) (notice : Respects R (notify noDebugInfoNotice))
    (register : ∀ loaded, Respects R (register launch loaded)) : Respects R (prepare launch) := by
  refine .bind invalidate fun _ => .bind load.attempt fun loaded => ?_
  exact .ite (.bind notice fun _ => register _) (register _)

end Respects

theorem calm_register (launch : Launch) (loaded : Bool) : Calm (register launch loaded) :=
  respects_register (calm_modifySession fun _ => ⟨rfl, rfl, rfl⟩) calm_saveIsa calm_refreshSegments
    loaded

theorem quiet_prepare (launch : Launch) : Quiet (prepare launch) :=
  respects_prepare (quiet_modifySession fun _ => rfl) quiet_loadImage (calm_notify _).quiet
    fun loaded => (calm_register launch loaded).quiet

theorem total_modifySession (f : Session → Session) : Total (modifySession f) :=
  fun d => ⟨(), _, run_modifySession f d⟩

theorem total_register (launch : Launch) (loaded : Bool) : Total (register launch loaded) := by
  have refresh : Total (do let _ ← Op.attempt refreshSegments) :=
    .bind (.attempt _) fun _ => .pure _
  refine .bind (total_modifySession _) fun _ => .bind (fun d => ⟨_, d, run_session d⟩) fun _ => ?_
  exact .ite (.bind (.attempt _) fun _ => refresh) refresh

theorem total_prepare (launch : Launch) : Total (prepare launch) := by
  have total_notify : ∀ text, Total (notify text) := fun text d => ⟨(), _, run_modifyHost _ d⟩
  refine .bind (total_modifySession _) fun _ => .bind (.attempt _) fun loaded => ?_
  exact .ite (.bind (total_notify _) fun _ => total_register launch _) (total_register launch _)

/-! ## Notifications -/

/-- Every notification but that of a new code object. -/
theorem quiet_dispatchNotification {n : Notification}
    (hn : ∀ kernel groupSize gridSize, n ≠ .newBinary kernel groupSize gridSize) :
    Quiet (dispatchNotification n) := by
  cases n with
  | newBinary kernel groupSize gridSize => exact absurd rfl (hn kernel groupSize gridSize)
  | endDebugging completed => exact quiet_modifySession fun _ => rfl
  | _ => exact (calm_dispatchNotification rfl).quiet

end GpuDebug.Op
