import GpuDebug.Proofs.Holding

/-!
# What is passed to the channel

An action reaches the agent only by sending commands. Between two of these it neither adds to the
log of commands nor opens or closes the channel.

* `Debugger.Passes P`: a state comes from another one by silent steps and by sending commands that
  satisfy `P`. `Debugger.Passes.written` and `Debugger.Passes.closes` say what that means for the
  log and for the channel.
* `Debugger.Issues`: the commands that belong to a state: those of requests, as the state looks them
  up, one for the momentary breakpoints of a step, and those that depend on nothing.
* `Op.Issuing`: an operation passes only commands that belong to the state after it.
* `Action.passes`: every action is of this kind.
-/

namespace GpuDebug

namespace SharedMemory

/-- A write that succeeds fits the limit, and replaces the start of what the region held. -/
theorem write_eq_ok {m m' : SharedMemory} {region : Region} {bytes : Bytes}
    (h : m.write region bytes = .ok m') :
    (∀ limit, m.limit? region = some limit → bytes.length ≤ limit) ∧ ∃ previous,
      m' = { m with contents := m.contents.set region (some (overwrite bytes previous)) } := by
  have stored : ∀ {x : Except Error Bytes}, (do
      let previous ← x
      return { m with contents := m.contents.set region (some (overwrite bytes previous)) }) =
        Except.ok m' → ∃ previous,
      m' = { m with contents := m.contents.set region (some (overwrite bytes previous)) } := by
    intro x hx
    cases x with
    | error e => cases hx
    | ok previous =>
      cases hx
      exact ⟨previous, rfl⟩
  unfold write at h
  dsimp only at h
  cases hlimit : m.limit? region with
  | none =>
    rw [hlimit] at h
    exact ⟨nofun, stored h⟩
  | some limit =>
    rw [hlimit] at h
    dsimp only at h
    split at h
    · cases h
    · next hle =>
      refine ⟨fun limit' heq => ?_, stored h⟩
      cases heq
      exact Nat.le_of_not_lt hle

/-- What is written stands at the start of the region. -/
theorem read_write {m m' : SharedMemory} {region : Region} {bytes : Bytes}
    (h : m.write region bytes = .ok m') : ∃ rest, m'.read region = some (bytes ++ rest) := by
  obtain ⟨hlimit, previous, rfl⟩ := write_eq_ok h
  unfold limit? at hlimit
  unfold read
  dsimp only
  rw [PerRegion.get_set, if_pos rfl]
  cases hprovision : m.provision with
  | growing limits => exact ⟨_, rfl⟩
  | fixed limits =>
    rw [hprovision] at hlimit
    refine ⟨(previous.drop bytes.length).take (limits.get region - bytes.length), ?_⟩
    dsimp only
    rw [Option.map_some, overwrite, List.take_append, List.take_of_length_le (hlimit _ rfl)]

end SharedMemory

namespace Debugger

/-- The step writes no command, and neither opens nor closes the channel. -/
structure Silent (d d' : Debugger) : Prop where
  log : d'.world.transmissions = d.world.transmissions
  channel : d'.session.channel = d.session.channel

instance : IsPreorder Debugger Silent where
  refl _ := ⟨rfl, rfl⟩
  trans _ _ _ h h' := ⟨h'.log.trans h.log, h'.channel.trans h.channel⟩

theorem Calm.silent {d d' : Debugger} (h : d.Calm d') : d.Silent d' :=
  ⟨h.transmissions, h.channel⟩

theorem Looked.silent {d d' : Debugger} (h : d.Looked d') : d.Silent d' :=
  ⟨by rw [h.world], by rw [h.session]⟩

/-- The state `d'` comes from `d` by silent steps and by sending commands that satisfy `P`. -/
inductive Passes (P : Command → Prop) (d : Debugger) : Debugger → Prop
  | refl : Passes P d d
  | silent {m d' : Debugger} (h : Passes P d m) (hs : m.Silent d') : Passes P d d'
  | send {m : Debugger} {c : Command} (h : Passes P d m) (hc : P c) :
      Passes P d ((Op.send c).final m)

namespace Passes

variable {P P' : Command → Prop} {d d' : Debugger}

instance : IsPreorder Debugger (Passes P) where
  refl _ := .refl
  trans _ _ _ h h' := by
    induction h' with
    | refl => exact h
    | silent _ hs ih => exact ih.silent hs
    | send _ hc ih => exact ih.send hc

theorem of_silent (h : d.Silent d') : d.Passes P d' :=
  .silent .refl h

theorem mono (h : d.Passes P d') (hP : ∀ c, P c → P' c) : d.Passes P' d' := by
  induction h with
  | refl => exact .refl
  | silent _ hs ih => exact ih.silent hs
  | send _ hc ih => exact ih.send (hP _ hc)

/-- What was written on the way was passed, and valid. -/
theorem written (h : d.Passes P d') :
    ∃ later, d'.world.transmissions = d.world.transmissions ++ later ∧
      ∀ t ∈ later, P t.command ∧ t.command.isValid = true := by
  induction h with
  | refl => exact ⟨[], (List.append_nil _).symm, fun _ ht => absurd ht List.not_mem_nil⟩
  | silent _ hs ih =>
    obtain ⟨later, hlog, hall⟩ := ih
    exact ⟨later, hs.log.trans hlog, hall⟩
  | @send m c _ hc ih =>
    obtain ⟨later, hlog, hall⟩ := ih
    rcases Op.send_final_cases c m with hsame | ⟨-, ⟨-, hshut⟩ | ⟨hvalid, t, rfl, ht⟩⟩
    · exact ⟨later, by rw [hsame, hlog], hall⟩
    · exact ⟨later, by rw [hshut]; exact hlog, hall⟩
    · refine ⟨later ++ [t], by rw [ht.log, hlog, List.append_assoc], ?_⟩
      rw [List.forall_mem_append, List.forall_mem_singleton]
      exact ⟨hall, hc, hvalid⟩

/-- A command that is in the log afterwards and not before. -/
theorem of_mem_drop (h : d.Passes P d') {t : Transmission}
    (ht : t ∈ d'.world.transmissions.drop d.world.transmissions.length) :
    P t.command ∧ t.command.isValid = true := by
  obtain ⟨later, hlog, hall⟩ := h.written
  rw [hlog, List.drop_left] at ht
  exact hall t ht

/-- Over a closed channel nothing is written. -/
theorem of_closed (h : d.Passes P d') (hclosed : d.session.channel.isOpen = false) :
    d'.session.channel.isOpen = false ∧ d'.world.transmissions = d.world.transmissions := by
  induction h with
  | refl => exact ⟨hclosed, rfl⟩
  | silent _ hs ih => exact ⟨by rw [hs.channel]; exact ih.1, hs.log.trans ih.2⟩
  | @send m c _ _ ih =>
    rcases Op.send_final_cases c m with hsame | ⟨hopen, -⟩
    · rw [hsame]
      exact ih
    · rw [ih.1] at hopen
      cases hopen

/-- If only valid commands are passed, then an open channel is closed only by a command that was
written and not taken whole. -/
theorem closes (h : d.Passes P d') (hP : ∀ c, P c → c.isValid = true)
    (hopen : d.session.channel.isOpen = true) (hclosed : d'.session.channel.isOpen = false) :
    ∃ t ∈ d'.world.transmissions.drop d.world.transmissions.length, t.isComplete = false := by
  induction h with
  | refl =>
    rw [hopen] at hclosed
    cases hclosed
  | silent _ hs ih =>
    rw [hs.channel] at hclosed
    rw [hs.log]
    exact ih hclosed
  | @send m c h hc ih =>
    rcases Op.send_final_cases c m with hsame | ⟨-, ⟨hinvalid, -⟩ | ⟨-, t, -, ht⟩⟩
    · rw [hsame] at hclosed ⊢
      exact ih hclosed
    · exact absurd (hP c hc) hinvalid
    · rw [ht.isOpen] at hclosed
      obtain ⟨later, hlog, -⟩ := h.written
      refine ⟨t, ?_, hclosed⟩
      rw [ht.log, hlog, List.append_assoc, List.drop_left]
      exact List.mem_append_right _ (List.mem_singleton_self t)

end Passes

/-! ## The commands of a state -/

/-- The commands that belong to a state, given which requests and which numbers count. -/
inductive Issues (Q : Request → Prop) (N : Int32 → Prop) (d : Debugger) : Command → Prop
  /-- The command of a request, as the state looks it up. Source lines need debug information. -/
  | request {r : Request} {c : Command} (hr : Q r)
      (havailable : r.kind = .source → d.session.debugInfo.isAvailable = true)
      (hc : d.command? r = .ok (some c)) : Issues Q N d c
  | delete {number : Int32} (h : N number) : Issues Q N d (.delete number)
  | disable {number : Int32} (h : N number) : Issues Q N d (.disable number)
  /-- The momentary breakpoints of a step stand in shared memory. -/
  | momentary {table : LineTable} {kind : StepKind} {pc : UInt64} {addresses : List UInt64}
      {rest : Bytes} (havailable : d.session.debugInfo.isAvailable = true)
      (htable : d.session.debugInfo.table = some table)
      (haddresses : Op.stepAddresses table kind pc = .ok addresses) (hsome : addresses ≠ [])
      (hcount : addresses.length < 0x80000000)
      (hregion : d.world.memory.read .momentaryBreakpoints =
        some (Momentary.encodeTable (addresses.map (Op.momentaryAt table)) ++ rest)) :
      Issues Q N d (.momentary (Int32.ofNat addresses.length))
  | continueDispatch : Issues Q N d .continueDispatch
  | logging (enabled : Bool) :
      Issues Q N d (.setLogging (if enabled then .enableAll else .disableAll))

variable {Q : Request → Prop} {N : Int32 → Prop}

/-- Steady steps change none of these commands. -/
theorem Issues.steady {d d' : Debugger} {c : Command} (h : d.Issues Q N c) (hs : d.Steady d') :
    d'.Issues Q N c := by
  cases h with
  | request hr havailable hc =>
    refine .request hr (fun hsource => ?_) ((hs.command? _).trans hc)
    rw [hs.debugInfo]
    exact havailable hsource
  | delete h => exact .delete h
  | disable h => exact .disable h
  | momentary havailable htable haddresses hsome hcount hregion =>
    rw [← hs.debugInfo] at havailable htable
    rw [← hs.memory] at hregion
    exact .momentary havailable htable haddresses hsome hcount hregion
  | continueDispatch => exact .continueDispatch
  | logging enabled => exact .logging enabled

/-- The state came from `b` by steady steps, and its requests satisfy `Q`. -/
structure Serving (Q : Request → Prop) (b d : Debugger) : Prop where
  steady : b.Steady d
  holds : d.Holds Q

/-- A step from a state that came from `b` passes only commands that belong to `b`. -/
def Serves (Q : Request → Prop) (N : Int32 → Prop) (b d d' : Debugger) : Prop :=
  b.Serving Q d → d.Passes (b.Issues Q N) d' ∧ b.Serving Q d'

instance (b : Debugger) : IsPreorder Debugger (Serves Q N b) where
  refl _ hd := ⟨.refl, hd⟩
  trans _ _ _ h h' hd :=
    ⟨trans_of (Passes _) (h hd).1 (h' (h hd).2).1, (h' (h hd).2).2⟩

end Debugger

namespace Op

open Debugger (Holds Issues Passes Serves Serving Silent Steady)

variable {α β : Type} {P : Command → Prop} {Q : Request → Prop} {N : Int32 → Prop}

theorem passes_send {c : Command} (hc : P c) : Respects (Passes P) (send c) := fun _ =>
  .send .refl hc

theorem Respects.silent {op : Op α} (h : Calm op) : Respects Silent op :=
  h.mono fun _ _ => Debugger.Calm.silent

theorem silent_buffer (r : Request) : Respects Silent (buffer r) := by
  intro d
  rcases buffer_final r d with h | ⟨slot, pending, -, h⟩
  · rw [h]
    exact refl_of _ d
  · rw [h]
    exact ⟨rfl, rfl⟩

/-! ## Requests -/

section Requests

variable {b : Debugger} {r : Request}
  (hstatement : ∀ (r : Request) (statement : String), Q r → Q (r.withStatement statement))

theorem serves_withPending {d : Debugger} {pending : Pending}
    (h : d.Holds Q → (d.withPending pending).Holds Q) :
    Serves Q N b d (d.withPending pending) := fun hd =>
  ⟨.of_silent ⟨rfl, rfl⟩, trans_of Steady hd.steady (d.steady_withPending pending), h hd.holds⟩

theorem serves_buffer (hr : Q r) : Respects (Serves Q N b) (buffer r) := fun d hd =>
  ⟨.of_silent (silent_buffer r d), trans_of Steady hd.steady (steady_buffer r d),
    holds_buffer hr d hd.holds⟩

include hstatement

theorem serves_sendRequest (hr : Q r)
    (havailable : r.kind = .source → b.session.debugInfo.isAvailable = true) :
    Respects (Serves Q N b) (sendRequest r) := by
  intro d hd
  have issued : ∀ {c : Command}, d.command? r = .ok (some c) → b.Issues Q N c := fun hc =>
    .request hr havailable ((hd.steady.command? r).symm.trans hc)
  refine ⟨?_, trans_of Steady hd.steady (steady_sendRequest r d),
    holds_sendRequest hstatement hr d hd.holds⟩
  cases hrun : (sendRequest r).run d with
  | ok resolution d' =>
    rw [final_of_ok hrun]
    cases Hands.of_run hrun with
    | unmapped hc hl => exact .of_silent hl.silent
    | sent hc hl hs =>
      have hsent := (Passes.of_silent hl.silent).send (issued hc)
      rw [final_of_ok hs] at hsent
      exact hsent.silent ⟨rfl, rfl⟩
  | error e d' =>
    rw [final_of_error hrun]
    cases Hands.of_run hrun with
    | failed hc hl => exact .of_silent hl.silent
    | unsent hc hl hs =>
      have hsent := (Passes.of_silent hl.silent).send (issued hc)
      rwa [final_of_error hs] at hsent

theorem serves_resolve (hr : Q r) : Respects (Serves Q N b) (resolve r) := by
  intro d hd
  rw [resolve_final]
  by_cases hready : d.session.readyFor r = true
  · rw [if_pos hready]
    refine serves_sendRequest hstatement hr (fun hsource => ?_) d hd
    rw [← hd.steady.debugInfo]
    simpa [Session.readyFor, hsource] using (Bool.and_eq_true_iff.mp hready).2
  · rw [if_neg hready]
    exact serves_buffer hr d hd

theorem serves_adjust (number : Int32) : Respects (Serves Q N b) (adjust number) := by
  intro d hd
  cases hplaced : (d.host.breakpoints.get? number).bind placedRequest? with
  | none =>
    rw [final_of_ok (run_adjust_unplaced hplaced)]
    exact ⟨.refl, hd⟩
  | some r =>
    rw [adjust_final hplaced]
    have hforget : Serves Q N b d (forgetting d number) :=
      serves_withPending fun hd => hd.forgetting number
    have hresolve := serves_resolve (N := N) (b := b) hstatement (hd.holds.of_placed hplaced)
    exact trans_of (Serves Q N b) hforget (hresolve _) hd

theorem serves_adjustAll : Respects (Serves Q N b) adjustAll :=
  respects_adjustAll (serves_adjust hstatement)

theorem serves_flushPending : Respects (Serves Q N b) flushPending := by
  intro d hd
  rw [flushPending_final]
  refine flushSlots_related (R := Serves Q N b)
    (P := fun r => Q r ∧ (r.kind = .source → b.session.debugInfo.isAvailable = true))
    (fun d slot => serves_withPending fun hd => hd.without slot)
    (fun r hr => serves_sendRequest hstatement hr.1 hr.2) (fun r hr => serves_buffer hr.1)
    (fun slot hslot r hget => ⟨hd.holds.of_slot hget, fun hsource => ?_⟩) hd
  have hready := Pending.ready_of_mem_readySlots hslot hget
  rw [← hd.steady.debugInfo]
  simpa [Session.readyFor, hsource] using (Bool.and_eq_true_iff.mp hready).2

end Requests

/-! ## Operations that serve a state -/

section Serving

variable {b : Debugger}

theorem serves_send {c : Command} (hc : b.Issues Q N c) : Respects (Serves Q N b) (send c) :=
  fun d hd => ⟨passes_send hc d, trans_of Steady hd.steady (steady_send c d),
    holds_send c d hd.holds⟩

theorem serves_of_calm {op : Op α} (h : Calm op) (hs : Respects Steady op) :
    Respects (Serves Q N b) op := fun d hd =>
  ⟨.of_silent (h d).silent, trans_of Steady hd.steady (hs d), hd.holds.of_quiet (h d).quiet⟩

theorem serves_notify (text : String) : Respects (Serves Q N b) (notify text) :=
  serves_of_calm (calm_notify text) fun _ => ⟨rfl, rfl, rfl, id⟩

theorem serves_setAgentLogging (enabled : Bool) :
    Respects (Serves Q N b) (setAgentLogging enabled) := by
  refine .bind .session fun s => .bind .world fun w => .ite (serves_notify _) (.bind ?_ fun _ => ?_)
  · refine serves_of_calm (calm_modifySession ?_) fun _ => ⟨rfl, rfl, rfl, id⟩
    exact fun _ => ⟨rfl, rfl, rfl⟩
  · exact .bind .session fun s => .ite (serves_send (.logging enabled)) (.pure _)

theorem serves_deleteBreakpoint {number : Int32} (hn : N number) :
    Respects (Serves Q N b) (deleteBreakpoint number) := by
  have hforget : Respects (Serves Q N b) (removePending number) := fun d =>
    serves_withPending fun hd => hd.forgetting number
  exact .bind hforget fun _ => .bind .session fun _ => .ite (serves_send (.delete hn)) (.pure _)

theorem serves_disableBreakpoint {number : Int32} (hn : N number) :
    Respects (Serves Q N b) (disableBreakpoint number) := by
  refine .bind (serves_send (.disable hn)) fun _ => serves_of_calm ?_ fun _ => ⟨rfl, rfl, rfl, id⟩
  exact calm_modifyHost (fun h n => h.placing_update number n fun _ => rfl) fun h =>
    h.numbers_update number fun _ => rfl

theorem serves_continueDispatch : Respects (Serves Q N b) continueDispatch :=
  serves_send .continueDispatch

theorem serves_startStep {count : Nat}
    (hissued : count < 0x80000000 → b.Issues Q N (.momentary (Int32.ofNat count))) :
    Respects (Serves Q N b) (startStep count) := by
  unfold startStep
  by_cases hcount : 0x80000000 ≤ count
  · simp only [if_pos hcount]
    exact .of_final_eq fun _ => rfl
  · simp only [if_neg hcount]
    exact .bind (serves_send (hissued (Nat.lt_of_not_le hcount))) fun _ =>
      .bind serves_continueDispatch fun _ => .pure _

end Serving

/-! ## What an operation issues -/

/-- The operation passes only commands that belong to the state after it. -/
def Issuing (Q : Request → Prop) (N : Int32 → Prop) (op : Op α) (d : Debugger) : Prop :=
  d.Passes ((op.final d).Issues Q N) (op.final d)

namespace Issuing

variable {op : Op α} {d : Debugger}

theorem of_silent (h : Respects Silent op) : Issuing Q N op d :=
  Passes.of_silent (h d)

theorem of_serves (h : Respects (Serves Q N d) op) (hd : d.Holds Q) : Issuing Q N op d := by
  obtain ⟨hpasses, hserving⟩ := h d ⟨refl_of Steady d, hd⟩
  exact hpasses.mono fun _ hc => hc.steady hserving.steady

/-- What comes after a silent part. -/
theorem bind_of_silent {f : α → Op β} (h : Respects Silent op)
    (hf : ∀ a d', op.run d = .ok a d' → Issuing Q N (f a) d') : Issuing Q N (op >>= f) d := by
  unfold Issuing
  cases hop : op.run d with
  | ok a d' =>
    rw [final_bind_of_ok hop]
    exact trans_of (Passes _) (Passes.of_silent (h.of_ok hop)) (hf a d' hop)
  | error e d' =>
    rw [final_of_error (bind_of_error hop)]
    exact Passes.of_silent (h.of_error hop)

/-- What comes after the session was read. -/
theorem session_bind {f : Session → Op β} (hf : Issuing Q N (f d.session) d) :
    Issuing Q N (session >>= f) d := by
  unfold Issuing
  rw [final_bind_of_ok (run_session d)]
  exact hf

end Issuing

/-! ## Stepping -/

section Stepping

variable {d : Debugger} {table : LineTable}

theorem run_publishMomentary {entries : List Momentary} {d' : Debugger}
    (h : (publishMomentary entries).run d = .ok () d') :
    ∃ memory, d.world.memory.write .momentaryBreakpoints (Momentary.encodeTable entries) =
      .ok memory ∧ d' = { d with world := { d.world with memory } } := by
  unfold publishMomentary at h
  rw [bind_of_ok (run_session d)] at h
  dsimp only at h
  split at h
  · cases h
  · rw [bind_of_ok (run_world d)] at h
    cases hwrite : d.world.memory.write .momentaryBreakpoints (Momentary.encodeTable entries) with
    | error e =>
      rw [hwrite, bind_of_error (run_ofExcept_error e d)] at h
      cases h
    | ok memory =>
      rw [hwrite, bind_of_ok (run_ofExcept_ok memory d)] at h
      cases h
      exact ⟨memory, rfl, rfl⟩

theorem silent_publishMomentary (entries : List Momentary) :
    Respects Silent (publishMomentary entries) :=
  (closed_respects Silent).publishMomentary (fun _ _ => ⟨rfl, rfl⟩) entries

/-- A single step is planted as it is; for more than one the user is told so first. -/
theorem plantStep_eq (table : LineTable) (kind : StepKind) (pc : UInt64) (count : UInt32) :
    plantStep table kind pc count =
      if count != 1 then
        notify "Only single steps are currently supported, converting to single step" >>=
          fun _ => plantStep table kind pc 1
      else plantStep table kind pc 1 :=
  rfl

/-- A single step that is planted: its addresses are those of the table, and stand in shared
memory. -/
theorem issuing_plantSingle (hd : d.Holds Q) (havailable : d.session.debugInfo.isAvailable = true)
    (htable : d.session.debugInfo.table = some table) (kind : StepKind) (pc : UInt64) :
    Issuing Q N (plantStep table kind pc 1) d := by
  unfold plantStep
  dsimp only
  rw [if_neg (by decide)]
  split
  · exact .of_silent (.throw _)
  · exact .of_silent (calm_abandonStep _).silent
  · next addresses hsome haddresses =>
    refine .bind_of_silent (silent_publishMomentary _) fun _ d₁ hrun => ?_
    have hquiet := (quiet_publishMomentary _).of_ok hrun
    obtain ⟨memory, hwrite, rfl⟩ := run_publishMomentary hrun
    obtain ⟨rest, hregion⟩ := SharedMemory.read_write hwrite
    refine .of_serves (serves_startStep fun hcount => ?_) (hd.of_quiet hquiet)
    exact .momentary havailable htable haddresses (fun hnil => hsome (hnil ▸ rfl)) hcount hregion

theorem issuing_plantStep (hd : d.Holds Q) (havailable : d.session.debugInfo.isAvailable = true)
    (htable : d.session.debugInfo.table = some table) (kind : StepKind) (pc : UInt64)
    (count : UInt32) : Issuing Q N (plantStep table kind pc count) d := by
  rw [plantStep_eq]
  split
  · refine .bind_of_silent (calm_notify _).silent fun _ d₁ hrun => ?_
    have hcalm := (calm_notify _).of_ok hrun
    refine issuing_plantSingle (hd.of_quiet hcalm.quiet) ?_ ?_ kind pc
    · rw [hcalm.debugInfo]
      exact havailable
    · rw [hcalm.debugInfo]
      exact htable
  · exact issuing_plantSingle hd havailable htable kind pc

theorem issuing_step (hd : d.Holds Q) (kind : StepKind) (count : UInt32) :
    Issuing Q N (step kind count) d := by
  refine .bind_of_silent calm_currentPc.silent fun pc d₁ hrun => .session_bind ?_
  have hd₁ : d₁.Holds Q := hd.of_quiet (calm_currentPc.of_ok hrun).quiet
  dsimp only
  split
  · exact .of_silent (calm_abandonStep _).silent
  · next table htable =>
    split at htable
    · next havailable =>
      split
      · exact .of_silent (calm_abandonStep _).silent
      · exact issuing_plantStep hd₁ havailable htable _ _ _
    · cases htable

end Stepping

/-! ## Notifications -/

section Notifications

variable {d : Debugger}

theorem silent_modifySession {f : Session → Session} (hf : ∀ s, (f s).channel = s.channel) :
    Respects Silent (modifySession f) := fun d =>
  ⟨rfl, hf d.session⟩

theorem silent_prepare (launch : Launch) : Respects Silent (prepare launch) := by
  have load : Respects Silent loadImage :=
    respects_loadImage (fun _ _ => ⟨rfl, rfl⟩) fun _ => silent_modifySession fun _ => rfl
  exact respects_prepare (silent_modifySession fun _ => rfl) load (calm_notify _).silent
    fun loaded => (calm_register launch loaded).silent

variable (hstatement : ∀ (r : Request) (statement : String), Q r → Q (r.withStatement statement))

include hstatement

/-- The code object is loaded before the first command is passed. -/
theorem issuing_onNewBinary (hd : d.Holds Q) (launch : Launch) :
    Issuing Q N (onNewBinary launch) d := by
  rw [onNewBinary_eq]
  refine .bind_of_silent (silent_prepare launch) fun _ d₁ hrun => .of_serves ?_ ?_
  · exact .bind (serves_adjustAll hstatement) fun _ =>
      .bind (serves_flushPending hstatement) fun _ => .pure _
  · exact hd.of_quiet ((quiet_prepare launch).of_ok hrun)

theorem issuing_dispatchNotification (hd : d.Holds Q) (n : Notification) :
    Issuing Q N (dispatchNotification n) d := by
  cases n with
  | newBinary kernel groupSize gridSize => exact issuing_onNewBinary hstatement hd _
  | endDebugging completed => exact .of_silent (silent_modifySession fun _ => rfl)
  | _ => exact .of_silent (calm_dispatchNotification rfl).silent

theorem issuing_handleEvent (hd : d.Holds Q) : Issuing Q N handleEvent d := by
  refine .session_bind ?_
  cases d.session.inbox with
  | none => exact .of_silent (.pure _)
  | some inbox =>
    refine .bind_of_silent (calm_pollInbox inbox).silent fun outcome d₁ hrun => ?_
    have hd₁ : d₁.Holds Q := hd.of_quiet ((calm_pollInbox inbox).of_ok hrun).quiet
    cases outcome with
    | idle => exact .of_silent (.bind (.pure _) fun _ => .pure _)
    | short count => exact .of_silent (.bind (calm_notify _).silent fun _ => .pure _)
    | packet n =>
      unfold Issuing
      rw [final_bind_of_final_eq fun _ _ => rfl]
      exact issuing_dispatchNotification hstatement hd₁ n

end Notifications

end Op

/-! ## Actions -/

/-- The state with another command channel. -/
def Debugger.on (d : Debugger) (channel : Channel) : Debugger :=
  { d with session := { d.session with channel } }

namespace Action

open Debugger (Issues Passes)

/-- The channel that an action works with: the one that it opens or leaves closed, or that of the
session. -/
def channel (a : Action) (d : Debugger) : Channel :=
  match a with
  | openChannel channel => channel
  | openFile =>
    ((Channel.onFile d.world.files d.session.config.pipes.toAgent).toOption).getD d.session.channel
  | close => d.session.channel.close
  | _ => d.session.channel

variable {Q : Request → Prop} {N : Int32 → Prop} {d : Debugger}
  (hstatement : ∀ (r : Request) (statement : String), Q r → Q (r.withStatement statement))

include hstatement

theorem passes_openChannel (hd : d.Holds Q) (channel : Channel) :
    (d.on channel).Passes (((Op.openChannel channel).final d).Issues Q N)
      ((Op.openChannel channel).final d) := by
  let d₁ : Debugger :=
    { d with session := { d.session with channel, kernels := KernelCatalog.empty } }
  have hd₁ : d₁.Holds Q := hd.of_view_eq (fun _ => rfl) fun _ => rfl
  have hfirst : (d.on channel).Silent d₁ := ⟨rfl, rfl⟩
  unfold Op.openChannel
  rw [Op.final_bind_of_ok (show (Op.modifySession _).run d = .ok () d₁ from rfl)]
  refine trans_of (Passes _) (.of_silent hfirst) (Op.Issuing.of_serves ?_ hd₁)
  refine .bind .session fun s => .bind .world fun w => .ite ?_ (Op.serves_flushPending hstatement)
  exact .bind (Op.serves_setAgentLogging true) fun _ => Op.serves_flushPending hstatement

theorem passes_openFile (hd : d.Holds Q) :
    (d.on (channel .openFile d)).Passes ((Op.openFile.final d).Issues Q N)
      (Op.openFile.final d) := by
  unfold Op.openFile channel
  rw [Op.final_bind_of_ok (Op.run_session d), Op.final_bind_of_ok (Op.run_world d)]
  cases Channel.onFile d.world.files d.session.config.pipes.toAgent with
  | error e => exact .refl
  | ok channel =>
    rw [Op.final_bind_of_ok (Op.run_ofExcept_ok channel d)]
    exact passes_openChannel hstatement hd channel

/-- **What actions pass.** From the channel that it works with, every action passes only commands
that belong to the state after it. -/
theorem passes (hd : d.Holds Q) {a : Action} (ha : a.Asks Q N) :
    (d.on (a.channel d)).Passes ((a.run d).Issues Q N) (a.run d) := by
  have serves : ∀ {α : Type} {op : Op α}, Op.Respects (Debugger.Serves Q N d) op →
      d.Passes ((op.final d).Issues Q N) (op.final d) := fun h => Op.Issuing.of_serves h hd
  have calm : ∀ {α : Type} {op : Op α}, Op.Calm op →
      d.Passes ((op.final d).Issues Q N) (op.final d) := fun h => .of_silent (h d).silent
  cases a with
  | resolve r => exact serves (Op.serves_resolve hstatement ha)
  | flush => exact serves (Op.serves_flushPending hstatement)
  | adjust => exact serves (Op.serves_adjustAll hstatement)
  | delete number => exact serves (Op.serves_deleteBreakpoint ha)
  | disable number => exact serves (Op.serves_disableBreakpoint ha)
  | statistics numbers counts => exact calm (Op.calm_updateStatistics numbers counts)
  | notification n => exact Op.issuing_dispatchNotification hstatement hd n
  | event => exact Op.issuing_handleEvent hstatement hd
  | attach inbox => exact calm (Op.calm_attachInbox inbox)
  | attachFile => exact calm Op.calm_attachFile
  | openChannel channel => exact passes_openChannel hstatement hd channel
  | openFile => exact passes_openFile hstatement hd
  | logging enabled => exact serves (Op.serves_setAgentLogging enabled)
  | kill quits => exact calm (Op.calm_killWaves quits)
  | focus arguments => exact calm (Op.calm_switchFocus arguments)
  | thread => exact calm Op.calm_selectDispatchThread
  | stop => exact calm Op.calm_reportStop
  | step kind count => exact Op.issuing_step hd kind count
  | go => exact serves Op.serves_continueDispatch
  | close => exact .of_silent ⟨rfl, rfl⟩
  | cleanUp => exact calm Op.calm_cleanUp
  | store r => exact .of_silent ⟨rfl, rfl⟩
  | discard number => exact .of_silent ⟨rfl, rfl⟩
  | outside h w => exact .of_silent ⟨rfl, rfl⟩

end Action

end GpuDebug
