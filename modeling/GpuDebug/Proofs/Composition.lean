import GpuDebug.Proofs.Operation

/-!
# Operations that are put together from parts

A property that sequences of operations inherit from their parts holds of an operation as soon as it
holds of what the operation is made of.

* `Op.Closed`: such a property.
* `Op.closed_respects`: respecting a preorder is one.
* `Op.respects_loadImage`, `Op.respects_saveIsa`: what loading a code object changes.
* `Op.Closed.reportWaves`, `Op.Closed.plantStep` and others: the operations for stop reports, for
  the focus and for steps, put together from their parts.
-/

namespace GpuDebug

/-- A region that cannot be written does not break the contract. -/
theorem SharedMemory.breaksContract_of_write {m : SharedMemory} {region : Region} {bytes : Bytes}
    {e : Error} (h : m.write region bytes = .error e) : e.breaksContract = false := by
  have unprepared : ∀ {e}, m.prepared region = .error e → e.breaksContract = false := by
    intro e h
    unfold prepared at h
    repeat' split at h
    all_goals cases h
    all_goals rfl
  have rest : ∀ {e}, (do
      let previous ← m.prepared region
      return { m with contents := m.contents.set region (some (overwrite bytes previous)) } :
        Except Error SharedMemory) = .error e → e.breaksContract = false := by
    intro e h
    rcases except_bind_eq_error h with h | ⟨previous, -, h⟩
    · exact unprepared h
    · cases h
  unfold write at h
  dsimp only at h
  split at h
  · split at h
    · cases h
      rfl
    · exact rest h
  · exact rest h

namespace Op

/-- A property of operations that sequences inherit from their parts. Looking at the state has it,
and so has every failure that does not break the contract. -/
structure Closed (K : ∀ {α : Type}, Op α → Prop) : Prop where
  pure : ∀ {α : Type} (a : α), K (pure a : Op α)
  bind : ∀ {α β : Type} {op : Op α} {f : α → Op β}, K op → (∀ a, K (f a)) → K (op >>= f)
  throw : ∀ {α : Type} {e : Error}, e.breaksContract = false → K (throw e : Op α)
  session : K Op.session
  host : K Op.host
  world : K Op.world

theorem closed_respects (R : Debugger → Debugger → Prop) [IsPreorder Debugger R] :
    Closed (Respects R) where
  pure := .pure
  bind := .bind
  throw _ := .throw _
  session := .session
  host := .host
  world := .world

section CodeObject

variable {R : Debugger → Debugger → Prop} [IsPreorder Debugger R]
  (files : ∀ files, Respects R (modifyWorld ({ · with files })))

include files

/-- Loading a code object exchanges the debug information and writes files. -/
theorem respects_loadImage
    (debugInfo : ∀ debugInfo, Respects R (modifySession ({ · with debugInfo }))) :
    Respects R loadImage := by
  refine .bind .session fun s => .bind .world fun w => .bind (.ofExcept _) fun image => ?_
  cases image with
  | none => exact .throw _
  | some image =>
    exact .bind (debugInfo _) fun _ => .bind (files _) fun _ => .ofExcept _

/-- Saving the machine code writes a file. -/
theorem respects_saveIsa : Respects R saveIsa := by
  refine .bind .session fun s => .bind .world fun w => ?_
  dsimp only
  split
  · exact .throw _
  · split
    · exact .throw _
    · exact files _

end CodeObject

namespace Closed

variable {K : ∀ {α : Type}, Op α → Prop} (h : Closed K)

theorem ite (_ : Closed K) {α : Type} {c : Prop} [Decidable c] {op op' : Op α} (hop : K op)
    (hop' : K op') : K (if c then op else op') :=
  iteInduction (motive := K) (fun _ => hop) fun _ => hop'

include h

theorem ofExcept {α : Type} {x : Except Error α}
    (hx : ∀ e, x = .error e → e.breaksContract = false) : K (Op.ofExcept x) := by
  cases x with
  | ok a => exact h.pure a
  | error e => exact h.throw (hx e rfl)

/-! ## Focus and stop reports -/

section Focus

variable (notify : ∀ text, K (notify text)) (focus : ∀ focus, K (modifySession ({ · with focus })))

include focus

theorem moveFocusSilently (target : Focus) (waves : List Wave) :
    K (moveFocusSilently target waves) :=
  h.bind h.session fun _ => h.bind (focus _) fun _ => h.pure _

include notify

theorem moveFocus (target : Focus) (waves : List Wave) : K (moveFocus target waves) := by
  refine h.bind h.session fun s => h.bind (focus _) fun _ => ?_
  dsimp only
  exact h.ite (h.bind (notify _) fun _ => h.pure _) (h.pure _)

theorem reportWaves (first : Wave) (waves : List Wave) : K (reportWaves first waves) := by
  have announce : ∀ (moved : Bool) (report : Option StopReport), K (do
      if moved then Op.notify (← Op.session).focus.announcement
      return report) := by
    intro moved report
    dsimp only
    exact h.ite (h.bind h.session fun s => h.bind (notify _) fun _ => h.pure _) (h.pure _)
  refine h.bind h.session fun s => ?_
  dsimp only
  refine h.ite (h.bind (h.moveFocusSilently focus _ _) fun moved => ?_)
    (h.bind (h.pure _) fun moved => ?_)
  -- Whether the focus moved or not, the waves are searched for one with a report.
  all_goals
    refine h.bind h.session fun s => h.bind h.host fun hosted => ?_
    split
    · exact h.bind (h.moveFocusSilently focus _ _) fun again => announce (moved || again) _
    · exact h.bind (h.pure _) fun again => announce (moved || again) _

end Focus

theorem forM_notify (notify : ∀ text, K (notify text)) (lines : List String) :
    K (lines.forM Op.notify) := by
  induction lines with
  | nil => exact h.pure _
  | cons line lines ih => exact h.bind (notify line) fun _ => ih

/-! ## Steps -/

/-- Momentary breakpoints are published by a write to shared memory. -/
theorem publishMomentary (memory : ∀ memory, K (modifyWorld ({ · with memory })))
    (entries : List Momentary) : K (publishMomentary entries) := by
  have write : K (do
      let memory ← Op.ofExcept ((← Op.world).memory.write .momentaryBreakpoints
        (Momentary.encodeTable entries))
      modifyWorld ({ · with memory })) :=
    h.bind h.world fun _ =>
      h.bind (h.ofExcept fun _ => SharedMemory.breaksContract_of_write) fun _ => memory _
  refine h.bind h.session fun s => ?_
  dsimp only
  exact h.ite (h.bind (h.throw rfl) fun _ => write) write

theorem startStep (announce : ∀ count, K (send (.momentary count))) (go : K continueDispatch)
    (count : Nat) : K (startStep count) := by
  have start : K (do
      send (.momentary (Int32.ofNat count))
      continueDispatch
      return count) :=
    h.bind (announce _) fun _ => h.bind go fun _ => h.pure _
  unfold Op.startStep
  dsimp only
  exact h.ite (h.bind (h.throw rfl) fun _ => start) start

/-- A step is made of notices, of publishing its momentary breakpoints and of starting it. -/
theorem plantStep (notify : ∀ text, K (notify text))
    (publish : ∀ entries, K (Op.publishMomentary entries)) (start : ∀ count, K (Op.startStep count))
    (table : LineTable) (kind : StepKind) (pc : UInt64) (count : UInt32) :
    K (plantStep table kind pc count) := by
  unfold Op.plantStep
  dsimp only
  refine h.ite (h.bind (notify _) fun _ => ?_) ?_
  -- With the notice or without it, the step is planted in the same way.
  all_goals
    split
    · exact h.throw rfl
    · exact h.bind (notify _) fun _ => h.pure _
    · exact h.bind (publish _) fun _ => start _

theorem step (currentPc : K currentPc) (notify : ∀ text, K (notify text))
    (publish : ∀ entries, K (Op.publishMomentary entries)) (start : ∀ count, K (Op.startStep count))
    (kind : StepKind) (count : UInt32) : K (step kind count) := by
  have abandon : ∀ text, K (abandonStep text) := fun text =>
    h.bind (notify text) fun _ => h.pure _
  refine h.bind currentPc fun pc => h.bind h.session fun s => ?_
  dsimp only
  split
  · exact abandon _
  · exact h.ite (abandon _) (h.plantStep notify publish start _ _ _ _)

end Closed

end Op

end GpuDebug
