import GpuDebug.Proofs.Backdrop

/-!
# Applying notifications without looking at the reader

Whatever a notification sets off, it reads no further notification and does not look at the lines
that were shown before.

* `Backdrop.listening`: another reader, other arrivals and lines that were shown before.
* `Op.oblivious_flushPending`, `Op.oblivious_adjustAll`, `Op.oblivious_dispatchNotification`: what a
  notification sets off is the same against such a backdrop.
-/

namespace GpuDebug

/-- Another reader, other arrivals and lines that were shown before. -/
def Backdrop.listening (inbox : Option Inbox) (arrivals : List Arrival) (notices : List String) :
    Backdrop :=
  ⟨none, some inbox, some arrivals, notices⟩

theorem Backdrop.host_countHits (b : Backdrop) (number count : Int32) (h : Host) :
    Op.countHits number count (b.host h) = b.host (Op.countHits number count h) := by
  unfold Op.countHits
  split
  · rfl
  · exact b.host_update h _ _

namespace Op

variable {inbox : Option Inbox} {arrivals : List Arrival} {notices : List String}

/-! ## The requests that wait -/

theorem oblivious_buffer (r : Request) : Oblivious (.listening inbox arrivals notices) (buffer r) :=
  .session_bind (fun _ => rfl) fun _ => .bind (.ofExcept _) fun _ => .modifySession fun _ => rfl

theorem oblivious_takePending (slot : Nat) :
    Oblivious (.listening inbox arrivals notices) (takePending slot) :=
  .session_bind (fun _ => rfl) fun _ => .bind (.modifySession fun _ => rfl) fun _ => .pure _

theorem oblivious_removePending (number : Int32) :
    Oblivious (.listening inbox arrivals notices) (removePending number) :=
  .session_bind (fun _ => rfl) fun _ => .bind (.modifySession fun _ => rfl) fun _ => .pure _

theorem oblivious_resolve (r : Request) :
    Oblivious (.listening inbox arrivals notices) (resolve r) :=
  .session_bind (fun _ => rfl) fun _ =>
    .ite (oblivious_sendRequest r) (.bind (oblivious_buffer r) fun _ => .pure _)

/-! ## Flushing -/

theorem oblivious_flushSlot (slot : Nat) :
    Oblivious (.listening inbox arrivals notices) (flushSlot slot) := by
  refine .bind (oblivious_takePending slot) fun taken => ?_
  cases taken with
  | none => exact .pure _
  | some r =>
    refine .bind (oblivious_sendRequest r).attempt fun result => ?_
    cases result with
    | ok outcome => exact .pure _
    | error e =>
      exact .ite (.bind (oblivious_buffer r) fun _ => .bind (.throw e) fun _ => .pure _) (.pure _)

theorem oblivious_flushSlots (slots : List Nat) :
    Oblivious (.listening inbox arrivals notices) (flushSlots slots) := by
  induction slots with
  | nil => exact .pure _
  | cons slot slots ih =>
    exact .bind (oblivious_flushSlot slot) fun _ => .bind ih fun _ => .pure _

theorem oblivious_flushPending : Oblivious (.listening inbox arrivals notices) flushPending :=
  .session_bind (fun _ => rfl) fun _ => oblivious_flushSlots _

/-! ## Resolving again -/

theorem oblivious_adjust (number : Int32) :
    Oblivious (.listening inbox arrivals notices) (adjust number) := by
  refine .host_bind (fun _ => rfl) fun h => ?_
  cases (h.breakpoints.get? number).bind placedRequest? with
  | none => exact .pure _
  | some r =>
    refine .bind (oblivious_removePending number) fun _ => ?_
    refine .bind (oblivious_resolve r).attempt fun result => ?_
    cases result with
    | ok outcome => exact .pure _
    | error e => exact .ite (.bind (.throw e) fun _ => .pure _) (.pure _)

theorem oblivious_adjustEach (numbers : List Int32) :
    Oblivious (.listening inbox arrivals notices) (adjustEach numbers) := by
  induction numbers with
  | nil => exact .pure _
  | cons number numbers ih =>
    exact .bind (oblivious_adjust number) fun _ => .bind ih fun _ => .pure _

theorem oblivious_adjustAll : Oblivious (.listening inbox arrivals notices) adjustAll :=
  .host_bind (fun _ => rfl) fun _ => oblivious_adjustEach _

theorem oblivious_onNewBinary (launch : Launch) :
    Oblivious (.listening inbox arrivals notices) (onNewBinary launch) := by
  rw [onNewBinary_eq]
  exact .bind (oblivious_prepare launch) fun _ => .bind oblivious_adjustAll fun _ =>
    .bind oblivious_flushPending fun _ => .pure _

/-! ## The other notifications -/

theorem oblivious_onFocusChange (target : Focus) :
    Oblivious (.listening inbox arrivals notices) (onFocusChange target) := by
  have readWaves : Oblivious (.listening inbox arrivals notices) readWaves := by
    refine .session_bind (fun _ => rfl) fun s => .ite (.pure _) ?_
    refine .world_bind (fun _ => rfl) fun w => ?_
    cases w.memory.read .waveInfo with
    | none => exact .pure _
    | some raw => exact .ofExcept _
  have moveFocus : ∀ waves,
      Oblivious (.listening inbox arrivals notices) (moveFocus target waves) := by
    refine fun waves => .session_bind (fun _ => rfl) fun s => ?_
    exact .bind (.modifySession fun _ => rfl) fun _ =>
      .ite (.bind (oblivious_notify _) fun _ => .pure _) (.pure _)
  exact .bind readWaves fun waves => .bind (moveFocus waves) fun _ => .pure _

theorem oblivious_updateStatistics (numbers counts : List Int32) :
    Oblivious (.listening inbox arrivals notices) (updateStatistics numbers counts) := by
  refine .modifyHost fun h => ?_
  induction numbers.zip counts generalizing h with
  | nil => rfl
  | cons report reports ih =>
    simp only [List.foldl_cons, Backdrop.host_countHits]
    exact ih _

/-- **Applying a notification is the same with another reader.** -/
theorem oblivious_dispatchNotification (n : Notification) :
    Oblivious (.listening inbox arrivals notices) (dispatchNotification n) := by
  unfold dispatchNotification
  cases n with
  | newBinary kernel groupSize gridSize => exact oblivious_onNewBinary _
  | breakpointHit numbers hits activeWaves =>
    exact .bind (oblivious_updateStatistics numbers hits) fun _ => .modifySession fun _ => rfl
  | focusChange workGroup workItem => exact oblivious_onFocusChange _
  | agentError code =>
    exact .bind (.modifySession fun _ => rfl) fun _ => oblivious_notify _
  | killComplete successful =>
    exact .ite (.modifySession fun _ => rfl) (oblivious_notify _)
  | unknown tag => exact .pure _
  | _ => exact .modifySession fun _ => rfl

end Op

end GpuDebug
