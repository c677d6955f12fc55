import GpuDebug.Proofs.Course
import GpuDebug.Proofs.Requests
import Mathlib.Logic.Function.Basic
import Mathlib.Order.Basic

/-!
# Agreement on kernel breakpoints

With a pipe that takes everything, the agent and the host agree on the breakpoints at the entry of
kernels: such a breakpoint either waits to be sent, or its creation is the last that the agent heard
of its number. This holds as long as no breakpoint is created under a number for which a request
still waits while the host has a breakpoint of that number; otherwise the number ends up with two
requests.

* `Op.create`, `Op.remove`: what the host does to set and to remove a breakpoint.
* `Debugger.Phase`: the four phases of a number: absent, waiting, announced, or at a source line.
* `Debugger.Course`: the runs in question, with the number of commands that had been written when
  a breakpoint was created.
* `Debugger.Course.agrees`: every number is in one of the phases.
* `Debugger.Course.waits_xor_announced`: the main result.
-/

namespace GpuDebug

namespace Op

/-- Creates a breakpoint: the host stores it, and the session resolves its request. -/
def create (number : Int32) (text : String) (condition : Option String) : Op Resolution := do
  let r ← parseBreakpoint number text condition
  modifyHost (·.add r)
  resolve r

/-- Removes a breakpoint from the host and from the session. -/
def remove (number : Int32) : Op Unit := do
  modifyHost fun h => { h with breakpoints := h.breakpoints.erase number }
  deleteBreakpoint number

end Op

theorem Request.isUnknown_of_entry {r : Request} {name : String}
    (h : r.location.kernelName? = some name) : r.isUnknown = false := by
  unfold isUnknown kind
  cases hr : r.location with
  | unknown =>
    rw [hr] at h
    cases h
  | _ => rfl

namespace Debugger

/-- The commands written since `birth` do not create the breakpoint of a number. -/
def UncreatedSince (number : Int32) (birth : Nat) (d : Debugger) : Prop :=
  ∀ t ∈ d.world.transmissions.drop birth, t.creates number = false

/-- The last command about a number was delivered, and creates the breakpoint of a request on the
entry of a kernel. -/
def Announces (number : Int32) (r : Request) (name : String) (d : Debugger) : Prop :=
  ∃ t, (d.view number).written.getLast? = some t ∧ t.fate = .delivered ∧
    t.command = .createKernel number name r.condition.toPacket

/-- A command that creates a breakpoint is the last one about it once it was written. -/
theorem getLast?_written {number : Int32} {t : Transmission} {d d' : Debugger}
    (h : d'.world.transmissions = d.world.transmissions ++ [t])
    (htag : t.command.tag = .createBreakpoint) (hnumber : t.command.breakpoint = number) :
    (d'.view number).written.getLast? = some t := by
  have hconcerns : t.concerns number = true := by
    rw [Transmission.concerns, htag, hnumber]
    simp
  change (d'.world.transmissions.filter (·.concerns number)).getLast? = some t
  rw [h, List.filter_append, List.filter_cons_of_pos (by exact hconcerns), List.filter_nil,
    List.getLast?_concat]

/-- The phases of a number; `birth` commands had been written when its breakpoint was created. -/
inductive Phase (number : Int32) (birth : Nat) (d : Debugger) : Prop
  | absent (hs : (d.view number).stored = none) (hw : (d.view number).waiting = [])
  | waits (b : Breakpoint) (name : String) (hs : (d.view number).stored = some b)
      (hname : b.request.location.kernelName? = some name)
      (hw : (d.view number).waiting = [b.request]) (hlog : UncreatedSince number birth d)
  | announced (b : Breakpoint) (name : String) (hs : (d.view number).stored = some b)
      (hname : b.request.location.kernelName? = some name) (hw : (d.view number).waiting = [])
      (hlog : Announces number b.request name d)
  /-- At a source line; a request that waits is for a source line as well. -/
  | source (b : Breakpoint) (hs : (d.view number).stored = some b)
      (hname : b.request.location.kernelName? = none)
      (hlength : (d.view number).waiting.length ≤ 1)
      (hw : ∀ r ∈ (d.view number).waiting, r.location.kernelName? = none)

theorem Phase.of_source {number : Int32} {birth : Nat} {d : Debugger} {b : Breakpoint} {r : Request}
    (hs : (d.view number).stored = some b) (hname : b.request.location.kernelName? = none)
    (hr : r.location.kernelName? = none)
    (hw : d.session.pending.waiting number = [] ∨ d.session.pending.waiting number = [r]) :
    d.Phase number birth := by
  have hw : (d.view number).waiting = [] ∨ (d.view number).waiting = [r] := hw
  rcases hw with hw | hw
  · refine .source b hs hname (by rw [hw]; exact Nat.zero_le 1) fun s hs => ?_
    rw [hw] at hs
    cases hs
  · refine .source b hs hname (by rw [hw]; exact Nat.le_refl 1) fun s hs => ?_
    rw [hw, List.mem_singleton] at hs
    rw [hs]
    exact hr

theorem length_waiting_le_one {number : Int32} {birth : Nat} {d : Debugger}
    (h : d.Phase number birth) : (d.session.pending.waiting number).length ≤ 1 := by
  change (d.view number).waiting.length ≤ 1
  cases h with
  | absent hs hw => rw [hw]; exact Nat.zero_le 1
  | waits b name hs hname hw hlog => rw [hw]; exact Nat.le_refl 1
  | announced b name hs hname hw hlog => rw [hw]; exact Nat.zero_le 1
  | source b hs hname hlength hw => exact hlength

/-- The invariant: the state is sound, the pipe takes everything, and the number is in a phase. -/
structure Agrees (number : Int32) (birth : Nat) (d : Debugger) : Prop where
  sound : d.Sound
  accepts : d.world.Accepts
  born : birth ≤ d.world.transmissions.length
  phase : d.Phase number birth

variable {number : Int32} {birth : Nat} {d d' : Debugger}

theorem Untouched.phase (h : Untouched number d d') (hborn : birth ≤ d.world.transmissions.length)
    (hp : d.Phase number birth) : d'.Phase number birth := by
  obtain ⟨later, hlog, hlater⟩ := h.later
  cases hp with
  | absent hs hw => exact .absent (h.view ▸ hs) (h.view ▸ hw)
  | waits b name hs hname hw hcreated =>
    refine .waits b name (h.view ▸ hs) hname (h.view ▸ hw) fun t ht => ?_
    rw [hlog, List.drop_append_of_le_length hborn] at ht
    rcases List.mem_append.mp ht with ht | ht
    · exact hcreated t ht
    · exact Bool.eq_false_iff.mpr fun hc =>
        Bool.eq_false_iff.mp (hlater t ht) (Transmission.concerns_of_creates hc)
  | announced b name hs hname hw hlast =>
    refine .announced b name (h.view ▸ hs) hname (h.view ▸ hw) ?_
    unfold Announces
    rw [h.view]
    exact hlast
  | source b hs hname hlength hw =>
    exact .source b (h.view ▸ hs) hname (h.view ▸ hlength) (h.view ▸ hw)

theorem Untouched.agrees (h : Untouched number d d') (hsound : d.Sound → d'.Sound)
    (ha : d.Agrees number birth) : d'.Agrees number birth where
  sound := hsound ha.sound
  accepts := h.accepts ha.accepts
  born := Nat.le_trans ha.born h.log.length_le
  phase := h.phase ha.born ha.phase

end Debugger

namespace Op

open Debugger (Agrees Phase)

variable {number : Int32} {birth : Nat}

/-! ## Handing over -/

/-- A request on the entry of a kernel is sent, or the flush stops and nothing was written. -/
theorem sendRequest_entry {r : Request} {name : String} {d : Debugger}
    (hname : r.location.kernelName? = some name) (ha : d.world.Accepts) :
    (∃ t pc d', (sendRequest r).run d = .ok (.sent pc) d' ∧ t.fate = .delivered ∧
      t.command = .createKernel r.number name r.condition.toPacket ∧
      d'.world.transmissions = d.world.transmissions ++ [t] ∧
      d'.host.breakpoints = d.host.breakpoints) ∨
    ∃ e d', (sendRequest r).run d = .error e d' ∧ stopsFlush e = true ∧
      d'.world.transmissions = d.world.transmissions ∧
      d'.host.breakpoints = d.host.breakpoints := by
  have hcommand : d.command? r = .ok (some (.createKernel r.number name r.condition.toPacket)) := by
    unfold Debugger.command?
    cases hr : r.location with
    | kernel name' => rw [hr] at hname; cases hname; rfl
    | anywhere name' => rw [hr] at hname; cases hname; rfl
    | source file line statement => rw [hr] at hname; cases hname
    | unknown => rw [hr] at hname; cases hname
  have hrecorded : ∀ h, d.recorded r h = h := by
    intro h
    rcases d.recorded_cases r h with heq | ⟨file, line, statement, p, hr, -, -⟩
    · exact heq
    · rw [hr] at hname
      cases hname
  cases hrun : (sendRequest r).run d with
  | ok resolution d' =>
    cases Hands.of_run hrun with
    | unmapped hc hl =>
      rw [hcommand] at hc
      cases hc
    | sent hc hl hs =>
      cases hcommand.symm.trans hc
      obtain ⟨t, htc, hfate, hd⟩ := send_eq_ok hs
      refine .inl ⟨t, _, _, rfl, hfate, htc, ?_, ?_⟩
      · rw [← hl.world]
        exact hd.log
      · rw [Debugger.sentState, hrecorded, hd.host, hl.breakpoints]
  | error e d' =>
    cases Hands.of_run hrun with
    | failed hc hl =>
      rw [hcommand] at hc
      cases hc
    | @unsent c e d₁ d' hc hl hs =>
      rcases send_eq_error hs with ⟨hworld, -, hstops⟩ | ⟨t, -, hfate, hd, -⟩
      · have hhost := (send_keeps c d₁).2
        rw [final_of_error hs] at hhost
        exact .inr ⟨e, d', rfl, hstops, by rw [hworld, hl.world], by rw [hhost, hl.breakpoints]⟩
      -- A pipe that takes everything delivers every command that is written.
      · exact absurd (hd.delivered (hl.world.symm ▸ ha)) hfate

/-- A breakpoint that is not on the entry of a kernel is stored. -/
def StoresSource (number : Int32) (d : Debugger) : Prop :=
  ∃ b, (d.view number).stored = some b ∧ b.request.location.kernelName? = none

theorem storesSource_sendRequest (r : Request) :
    Preserves (StoresSource number) (sendRequest r) := by
  have of_stored : ∀ {d d' : Debugger}, (d'.view number).stored = (d.view number).stored →
      StoresSource number d → StoresSource number d' := by
    rintro d d' h ⟨b, hb, hkind⟩
    exact ⟨b, h.trans hb, hkind⟩
  refine respects_sendRequest (fun d d' hl => of_stored (hl.quiet.untouched number).stored)
    (fun c _ _ d => of_stored ?_) ?_
  · rw [Debugger.view, (send_keeps c d).2]
    rfl
  · rintro d d' - ⟨b, hb, hkind⟩
    rcases d.recorded_cases r d'.host with h | ⟨file, line, statement, p, hr, hp, -⟩
    · exact ⟨b, by rw [Debugger.sentState, h]; exact hb, hkind⟩
    · rw [StoresSource, Debugger.stored_sentState hr hp]
      split
      · obtain ⟨c, hc, -⟩ := Option.map_eq_some_iff.mp hb
        refine ⟨_, by rw [hc]; rfl, ?_⟩
        change (r.withStatement p.statement).location.kernelName? = none
        rw [Request.withStatement, hr]
        rfl
      · exact ⟨b, hb, hkind⟩

theorem storesSource_buffer (r : Request) : Preserves (StoresSource number) (buffer r) := by
  intro d hd
  rcases buffer_final r d with h | ⟨slot, pending, -, h⟩
  · rw [h]
    exact hd
  · rw [h]
    exact hd

/-! ## Flushing -/

/-- Flushing the slot of a request for the entry of a kernel that waits. -/
theorem phase_flushSlot_entry {slot : Nat} {r : Request} {name : String} {b : Breakpoint}
    {d : Debugger} (ha : d.world.Accepts) (hd : d.Sound)
    (hget : d.session.pending.get? slot = some r) (hs : (d.view r.number).stored = some b)
    (hrequest : b.request = r) (hname : r.location.kernelName? = some name)
    (hothers : (without d slot).session.pending.waiting r.number = [])
    (hlog : Debugger.UncreatedSince r.number birth d) :
    Phase r.number birth ((flushSlot slot).final d) := by
  have hpending := pending_sendRequest r (without d slot)
  have hstored : ∀ {d' : Debugger}, d'.host.breakpoints = d.host.breakpoints →
      (d'.view r.number).stored = some b := by
    intro d' hhost
    rw [← hs, Debugger.view, hhost]
    rfl
  rcases sendRequest_entry hname (d := without d slot) ha with
    ⟨t, pc, d', hrun, hfate, hcommand, htransmissions, hhost⟩ |
    ⟨e, d', hrun, hstop, htransmissions, hhost⟩
  · have hfinal : (flushSlot slot).final d = d' := by rw [flushSlot_final hget, hrun]
    rw [final_of_ok hrun] at hpending
    rw [hfinal]
    refine .announced b name (hstored hhost) (hrequest ▸ hname) ?_ ⟨t, ?_, hfate, ?_⟩
    · change d'.session.pending.waiting r.number = []
      rw [hpending]
      exact hothers
    · exact Debugger.getLast?_written htransmissions (by rw [hcommand]; rfl) (by rw [hcommand]; rfl)
    · rw [hrequest]
      exact hcommand
  · rw [final_of_error hrun] at hpending
    obtain ⟨pending, hbuffer, hperm⟩ := buffer_taken hd.distinct hget hpending
    have hfinal : (flushSlot slot).final d = d'.withPending pending := by
      rw [flushSlot_final hget, hrun]
      dsimp only
      rw [if_pos hstop, final_of_ok hbuffer]
    rw [hfinal]
    refine .waits b name (hstored hhost) (hrequest ▸ hname) ?_ ?_
    · have hwaiting := hperm.filter (·.number == r.number)
      rw [List.filter_append, Pending.filter_occupant,
        Pending.occupant_of_known (Request.isUnknown_of_entry hname)] at hwaiting
      change pending.waiting r.number = [b.request]
      rw [hrequest]
      exact List.perm_singleton.mp (hwaiting.trans (.of_eq (congrArg (r :: ·) hothers)))
    · intro t ht
      exact hlog t (htransmissions ▸ ht)

/-- Flushing the slot of a request for a source line that waits. -/
theorem phase_flushSlot_source {slot : Nat} {r : Request} {d : Debugger}
    (hget : d.session.pending.get? slot = some r) (hs : StoresSource r.number d)
    (hname : r.location.kernelName? = none)
    (hothers : (without d slot).session.pending.waiting r.number = []) :
    Phase r.number birth ((flushSlot slot).final d) := by
  have hpending := pending_sendRequest r (without d slot)
  have hsent : ((sendRequest r).final (without d slot)).session.pending.waiting r.number = [] := by
    rw [hpending]
    exact hothers
  obtain ⟨b, hb, hkind⟩ : StoresSource r.number ((flushSlot slot).final d) :=
    flushSlot_related (R := fun d d' => StoresSource r.number d → StoresSource r.number d')
      (fun r' _ => ⟨id, storesSource_sendRequest r', storesSource_buffer r'⟩) hs
  have hwaiting : ((flushSlot slot).final d).session.pending.waiting r.number = [] ∨
      ((flushSlot slot).final d).session.pending.waiting r.number = [r] := by
    rw [flushSlot_final hget]
    cases hrun : (sendRequest r).run (without d slot) with
    | ok outcome d₁ =>
      rw [final_of_ok hrun] at hsent
      exact .inl hsent
    | error e d₁ =>
      rw [final_of_error hrun] at hsent
      by_cases he : stopsFlush e = true
      · simp only [if_pos he]
        exact waiting_buffer hsent
      · simp only [if_neg he]
        exact .inl hsent
  exact .of_source hb hkind hname hwaiting

theorem phase_flushSlot {slot : Nat} {d : Debugger} (ha : d.Agrees number birth) :
    Phase number birth ((flushSlot slot).final d) := by
  have untouched (h : ∀ r, d.session.pending.get? slot = some r → r.number ≠ number) :
      Phase number birth ((flushSlot slot).final d) :=
    (untouched_flushSlot h).phase ha.born ha.phase
  cases hget : d.session.pending.get? slot with
  | none => exact untouched fun r h => by rw [hget] at h; cases h
  | some r =>
    by_cases hn : r.number = number
    · subst hn
      have hperm := (Pending.waiting_take hget).2
      have hmem : r ∈ (d.view r.number).waiting := hperm.mem_iff.mpr List.mem_cons_self
      have hlength : (d.view r.number).waiting.length =
          ((without d slot).session.pending.waiting r.number).length + 1 := hperm.length_eq
      have hothers : (d.view r.number).waiting.length ≤ 1 →
          (without d slot).session.pending.waiting r.number = [] := fun h =>
        List.eq_nil_of_length_eq_zero (by omega)
      cases ha.phase with
      | absent hs hw =>
        rw [hw] at hmem
        cases hmem
      | announced b name hs hname hw =>
        rw [hw] at hmem
        cases hmem
      | waits b name hs hname hw hlog =>
        rw [hw, List.mem_singleton] at hmem
        exact phase_flushSlot_entry ha.accepts ha.sound hget hs hmem.symm (hmem ▸ hname)
          (hothers (by rw [hw]; exact Nat.le_refl 1)) hlog
      | source b hs hname hlength hw =>
        exact phase_flushSlot_source hget ⟨b, hs, hname⟩ (hw r hmem) (hothers hlength)
    · exact untouched fun r' h => by
        cases hget.symm.trans h
        exact hn

/-! ## Resolving again -/

/-- Resolving a source breakpoint again. -/
theorem phase_adjust_source {r : Request} {d : Debugger}
    (hplaced : (d.host.breakpoints.get? number).bind placedRequest? = some r)
    (hnumber : r.number = number) (hname : r.location.kernelName? = none)
    (hs : StoresSource number d) (hlength : (d.session.pending.waiting number).length ≤ 1) :
    Phase number birth ((adjust number).final d) := by
  obtain ⟨b, hb, hkind⟩ : StoresSource number ((adjust number).final d) :=
    adjust_related (R := fun d d' => StoresSource number d → StoresSource number d')
      (fun r' _ => ⟨id, storesSource_sendRequest r', storesSource_buffer r'⟩) hs
  subst hnumber
  have hforgotten : (forgetting d r.number).session.pending.waiting r.number = [] := by
    change (d.session.pending.remove r.number).2.waiting r.number = []
    rw [Pending.waiting_remove, if_pos rfl]
    exact List.eq_nil_of_length_eq_zero (by rw [List.length_tail]; omega)
  refine .of_source hb hkind hname ?_
  rw [adjust_final hplaced, resolve_final]
  split
  · rw [pending_sendRequest]
    exact .inl hforgotten
  · exact waiting_buffer hforgotten

theorem phase_adjust {n : Int32} {d : Debugger} (ha : d.Agrees number birth) :
    Phase number birth ((adjust n).final d) := by
  by_cases hn : n = number
  · subst hn
    cases hplaced : (d.host.breakpoints.get? n).bind placedRequest? with
    | none =>
      rw [final_of_ok (run_adjust_unplaced hplaced)]
      exact ha.phase
    | some r =>
      obtain ⟨b, hb, hr⟩ := Option.bind_eq_some_iff.mp hplaced
      obtain ⟨hrequest, -, hkind⟩ := placedRequest?_eq_some hr
      have hstored := Debugger.stored_of_get? hb
      have hnumber : r.number = n := hrequest ▸ ha.sound.keyed n b.placing hstored
      have hname : r.location.kernelName? = none := by
        unfold Request.kind at hkind
        cases hl : r.location <;> rw [hl] at hkind <;> first | rfl | cases hkind
      exact phase_adjust_source hplaced hnumber hname ⟨b.placing, hstored, hrequest ▸ hname⟩
        (Debugger.length_waiting_le_one ha.phase)
  · refine (untouched_adjust fun b hb _ => ⟨hn, ?_⟩).phase ha.born ha.phase
    exact fun h => hn ((ha.sound.keyed n _ (Debugger.stored_of_get? hb)).symm.trans h)

/-- Quiet steps, flushing and resolving again keep host and agent in agreement. -/
theorem carried_agrees (number : Int32) (birth : Nat) :
    Carried fun d d' => d.Agrees number birth → d'.Agrees number birth where
  quiet _ _ hq ha := (hq.untouched number).agrees (fun hs => hs.of_quiet hq) ha
  flushSlot slot d ha :=
    { sound := carried_sound.flushSlot slot d ha.sound
      accepts := (advances_flushSlot slot d).accepts ha.accepts
      born := Nat.le_trans ha.born (advances_flushSlot slot d).log.length_le
      phase := phase_flushSlot ha }
  adjust n d ha :=
    { sound := carried_sound.adjust n d ha.sound
      accepts := (advances_adjust n d).accepts ha.accepts
      born := Nat.le_trans ha.born (advances_adjust n d).log.length_le
      phase := phase_adjust ha }

end Op

/-! ## Creating and removing -/

namespace Op

open Debugger (Phase)

/-- Creating a breakpoint ends well if the text makes a request and the request is resolved. -/
theorem create_eq_ok {number : Int32} {text : String} {condition : Option String}
    {outcome : Resolution} {d d' : Debugger}
    (h : (create number text condition).run d = .ok outcome d') :
    ∃ r : Request, r.number = number ∧
      (resolve r).run ((Action.store r).run d) = .ok outcome d' := by
  unfold create parseBreakpoint at h
  simp only [EStateM.run_bind, run_session] at h
  cases hparse : d.session.grammar.parse number text condition with
  | error e =>
    rw [hparse] at h
    cases h
  | ok r =>
    rw [hparse] at h
    exact ⟨r, (Grammar.parse_eq_ok hparse).1, h⟩

theorem remove_final (number : Int32) (d : Debugger) :
    (remove number).final d = (Action.delete number).run ((Action.discard number).run d) := by
  unfold remove final
  rw [bind_of_ok (run_modifyHost _ d)]
  rfl

/-- Buffering a request where none of its number waits, if there is room. -/
theorem buffer_eq_ok {r : Request} {u : Unit} {d d' : Debugger} (hknown : r.isUnknown = false)
    (hw : d.session.pending.waiting r.number = []) (h : (buffer r).run d = .ok u d') :
    ∃ pending, d' = d.withPending pending ∧ pending.waiting r.number = [r] := by
  rw [run_buffer] at h
  cases hp : d.session.pending.push r with
  | error e =>
    rw [hp] at h
    cases h
  | ok pushed =>
    rw [hp] at h
    cases h
    refine ⟨pushed.2, rfl, ?_⟩
    rcases (Pending.waiting_push hp).2 with ⟨-, s, hs, -⟩ | ⟨-, hperm⟩
    · rw [hw] at hs
      cases hs
    · rw [hw, List.append_nil, Pending.occupant_of_known hknown] at hperm
      exact List.perm_singleton.mp hperm

/-- A request that is resolved under a number of which none waits. -/
theorem phase_resolve {r : Request} {outcome : Resolution} {d d' : Debugger}
    (ha : d.world.Accepts) (hw : d.session.pending.waiting r.number = [])
    (h : (resolve r).run ((Action.store r).run d) = .ok outcome d') :
    Phase r.number d.world.transmissions.length d' := by
  have hfinal : (resolve r).final ((Action.store r).run d) = d' := final_of_ok h
  have hstored : (((Action.store r).run d).view r.number).stored =
      some (Breakpoint.ofRequest r) := by
    change ((d.host.add r).breakpoints.get? r.number).map Breakpoint.placing = _
    rw [Host.get?_add, if_pos rfl]
    rfl
  cases hname : r.location.kernelName? with
  | none =>
    obtain ⟨b, hb, hkind⟩ : StoresSource r.number d' := hfinal ▸
      respects_resolve (storesSource_sendRequest r) (storesSource_buffer r) _ ⟨_, hstored, hname⟩
    refine .of_source hb hkind hname ?_
    rw [← hfinal, resolve_final]
    split
    · rw [pending_sendRequest]
      exact .inl hw
    · exact waiting_buffer hw
  | some name =>
    rw [run_resolve] at h
    by_cases hready : ((Action.store r).run d).session.readyFor r = true
    · rw [if_pos hready] at h
      have hpending := pending_sendRequest r ((Action.store r).run d)
      rw [final_of_ok h] at hpending
      rcases sendRequest_entry hname (d := (Action.store r).run d) ha with
        ⟨t, pc, d₁, hrun, hfate, hcommand, htransmissions, hhost⟩ | ⟨e, d₁, hrun, -⟩
      · cases hrun.symm.trans h
        refine .announced (Breakpoint.ofRequest r) name ?_ hname ?_ ⟨t, ?_, hfate, hcommand⟩
        · rw [← hstored, Debugger.view, hhost]
          rfl
        · change d'.session.pending.waiting r.number = []
          rw [hpending]
          exact hw
        · exact Debugger.getLast?_written htransmissions (by rw [hcommand]; rfl)
            (by rw [hcommand]; rfl)
      · rw [hrun] at h
        cases h
    · rw [if_neg hready] at h
      obtain ⟨u, d₁, hbuffer, hpure⟩ := bind_eq_ok h
      cases hpure
      have hfree : ((Action.store r).run d).session.pending.waiting r.number = [] := hw
      obtain ⟨pending, rfl, hwaiting⟩ :=
        buffer_eq_ok (Request.isUnknown_of_entry hname) hfree hbuffer
      refine .waits (Breakpoint.ofRequest r) name hstored hname hwaiting fun t ht => ?_
      change t ∈ d.world.transmissions.drop d.world.transmissions.length at ht
      rw [List.drop_length] at ht
      cases ht

end Op

namespace Debugger

/-- No request waits under the number, or the host has no breakpoint of it. -/
def Free (d : Debugger) (number : Int32) : Prop :=
  d.host.breakpoints.get? number = none ∨ ∀ r ∈ d.session.pending.requests, r.number ≠ number

/-- The runs of a session whose pipe takes everything. Breakpoints are created where that is
`allowed`, and removed; everything else that the session can do, and what happens outside, comes in
between. With each number goes how many commands had been written when its breakpoint was last
created. -/
inductive Course (allowed : Debugger → Int32 → Prop) : Debugger → (Int32 → Nat) → Prop
  | start (config : Config) (reader : ImageReader) (host : Host) (world : World)
      (hhost : host.breakpoints = .empty) (hworld : world.Accepts) :
      Course allowed ⟨Session.ofConfig config reader, host, world⟩ fun _ => 0
  | create {d d' : Debugger} {births : Int32 → Nat} {number : Int32} {text : String}
      {condition : Option String} {outcome : Resolution} (h : Course allowed d births)
      (hallowed : allowed d number)
      (hok : (Op.create number text condition).run d = .ok outcome d') :
      Course allowed d' (Function.update births number d.world.transmissions.length)
  | remove {d : Debugger} {births : Int32 → Nat} (number : Int32) (h : Course allowed d births) :
      Course allowed ((Op.remove number).final d) births
  | other {d : Debugger} {births : Int32 → Nat} {a : Action} (h : Course allowed d births)
      (ha : a.isSpecial = false) : Course allowed (a.run d) births
  | outside {d : Debugger} {births : Int32 → Nat} {host : Host} {world : World}
      (h : Course allowed d births) (hworld : world.Accepts) :
      Course allowed ((Action.outside host world).run d) births

namespace Course

variable {d d' : Debugger} {births : Int32 → Nat} {number : Int32}

/-- Nothing waits under a number that is free and in a phase. -/
theorem waiting_of_free {birth : Nat} (hfree : d.Free number) (hp : d.Phase number birth) :
    d.session.pending.waiting number = [] := by
  have hnil : (∀ r ∈ d.session.pending.requests, r.number ≠ number) →
      d.session.pending.waiting number = [] := fun h =>
    List.filter_eq_nil_iff.mpr fun r hr heq => h r hr (beq_iff_eq.mp heq)
  rcases hfree with hnone | hfree
  · have hstored : (d.view number).stored = none := by rw [view, hnone]; rfl
    cases hp with
    | absent hs hw => exact hw
    | waits b name hs => rw [hstored] at hs; cases hs
    | announced b name hs => rw [hstored] at hs; cases hs
    | source b hs => rw [hstored] at hs; cases hs
  · exact hnil hfree

theorem agrees_create {n : Int32} {text : String} {condition : Option String}
    {outcome : Resolution} (ih : ∀ number, d.Agrees number (births number)) (hfree : d.Free n)
    (hok : (Op.create n text condition).run d = .ok outcome d') (number : Int32) :
    d'.Agrees number (Function.update births n d.world.transmissions.length number) := by
  obtain ⟨r, hr, hresolve⟩ := Op.create_eq_ok hok
  subst hr
  have hd' : (Action.resolve r).run ((Action.store r).run d) = d' := Op.final_of_ok hresolve
  have hadvances : Advances d d' := by
    have hsend : Op.Respects Advances (Op.resolve r) :=
      Op.respects_resolve (Op.advances_sendRequest r) (Op.advances_buffer r)
    have hstore : Advances d ((Action.store r).run d) := .of_world_eq rfl
    exact trans_of Advances hstore (hsend.of_ok hresolve)
  have hsound : d.Sound → d'.Sound := fun hs => hd' ▸ (hs.run (.store r)).run (.resolve r)
  have ha := ih number
  by_cases hn : r.number = number
  · subst hn
    rw [Function.update_self]
    exact
      { sound := hsound ha.sound
        accepts := hadvances.accepts ha.accepts
        born := hadvances.log.length_le
        phase := Op.phase_resolve ha.accepts (waiting_of_free hfree ha.phase) hresolve }
  · rw [Function.update_of_ne (Ne.symm hn)]
    have hstore : Untouched number d ((Action.store r).run d) := untouched_store hn
    have huntouched : Untouched number d d' := hd' ▸ trans_of _ hstore (untouched_resolve hn)
    exact huntouched.agrees hsound ha

theorem agrees_remove {n : Int32} (ih : ∀ number, d.Agrees number (births number))
    (number : Int32) : ((Op.remove n).final d).Agrees number (births number) := by
  rw [Op.remove_final]
  have ha := ih number
  have hsound : d.Sound → ((Action.delete n).run ((Action.discard n).run d)).Sound := fun hs =>
    (hs.run (.discard n)).run (.delete n)
  by_cases hn : n = number
  · subst hn
    obtain ⟨hwaiting, hstored⟩ := Op.view_deleteBreakpoint n ((Action.discard n).run d)
    have hadvances : Advances d ((Action.delete n).run ((Action.discard n).run d)) := by
      have hdelete : Op.Respects Advances (Op.deleteBreakpoint n) :=
        .bind (fun _ => .of_world_eq rfl) fun _ => .bind .session fun _ =>
          .ite (Op.advances_send _) (.pure _)
      have hdiscard : Advances d ((Action.discard n).run d) := .of_world_eq rfl
      exact trans_of Advances hdiscard (hdelete ((Action.discard n).run d))
    have hlength := length_waiting_le_one ha.phase
    refine ⟨hsound ha.sound, hadvances.accepts ha.accepts,
      Nat.le_trans ha.born hadvances.log.length_le, .absent ?_ ?_⟩
    · refine hstored.trans ?_
      change ((d.host.breakpoints.erase n).get? n).map Breakpoint.placing = none
      rw [BreakpointTable.get?_erase, if_pos rfl, Option.map_none]
    · refine hwaiting.trans ?_
      change (d.session.pending.waiting n).tail = []
      exact List.eq_nil_of_length_eq_zero (by rw [List.length_tail]; omega)
  · have hdiscard : Untouched number d ((Action.discard n).run d) := untouched_discard hn
    exact (trans_of _ hdiscard (untouched_delete hn)).agrees hsound ha

/-- **Host and agent agree in every state of a run** in which breakpoints are created under free
numbers only. -/
theorem agrees (h : Course Free d births) (number : Int32) : d.Agrees number (births number) := by
  induction h generalizing number with
  | start config reader host world hhost hworld =>
    refine ⟨sound_start config reader host world hhost, hworld, Nat.zero_le _, .absent ?_ ?_⟩
    · rw [view, hhost]
      rfl
    · change (Pending.ofCapacity config.pendingCapacity).waiting number = []
      rw [Pending.waiting, Pending.requests_ofCapacity, List.filter_nil]
  | create h hfree hok ih => exact agrees_create ih hfree hok number
  | remove n h ih => exact agrees_remove ih number
  | other h ha ih => exact (Op.carried_agrees number _).run ha _ (ih number)
  | @outside d births host world h hworld ih =>
    obtain ⟨hsound, -, hborn, hphase⟩ := ih number
    refine ⟨hsound.run (.outside host world), hworld, hborn, ?_⟩
    cases hphase with
    | absent hs hw => exact .absent hs hw
    | waits b name hs hname hw hlog => exact .waits b name hs hname hw hlog
    | announced b name hs hname hw hlog => exact .announced b name hs hname hw hlog
    | source b hs hname hlength hw => exact .source b hs hname hlength hw

/-- **A breakpoint on the entry of a kernel either waits or was announced.** Either exactly one
request of its number waits, which is that of the breakpoint, and no command has created it since
it was created by the user; or none waits, and the last command about the number was delivered and
creates the breakpoint with its kernel name and condition. -/
theorem waits_xor_announced (h : Course Free d births) {b : Breakpoint} {name : String}
    (hb : d.host.breakpoints.get? number = some b)
    (hname : b.request.location.kernelName? = some name) :
    Xor
      (d.session.pending.waiting number = [b.request] ∧ UncreatedSince number (births number) d)
      (d.session.pending.waiting number = [] ∧ Announces number b.request name d) := by
  have hstored := stored_of_get? hb
  cases (h.agrees number).phase with
  | absent hs hw =>
    rw [hstored] at hs
    cases hs
  | waits c name' hs hname' hw hlog =>
    cases hstored.symm.trans hs
    refine .inl ⟨⟨hw, hlog⟩, fun hother => ?_⟩
    have hnil : (d.view number).waiting = [] := hother.1
    rw [hw] at hnil
    cases hnil
  | announced c name' hs hname' hw hlog =>
    cases hstored.symm.trans hs
    cases hname.symm.trans hname'
    refine .inr ⟨⟨hw, hlog⟩, fun hother => ?_⟩
    have hone : (d.view number).waiting = [b.request] := hother.1
    rw [hw] at hone
    cases hone
  | source c hs hname' =>
    cases hstored.symm.trans hs
    cases hname.symm.trans hname'

end Course

/-! ## A breakpoint created once, and one created twice -/

/-- A breakpoint on a kernel was created before the channel was opened. -/
def createdOnce : Debugger :=
  (Op.create 1 "rocm:a" none).final fresh

/-- The host has created a second breakpoint under the number of the first. -/
def createdTwice : Debugger :=
  (Op.create 1 "rocm:b" none).final createdOnce

theorem course_createdOnce {allowed : Debugger → Int32 → Prop} (h : allowed fresh 1) :
    Course allowed createdOnce (Function.update (fun _ => 0) 1 0) := by
  have hworld : fresh.world.Accepts := fun _ hreply => absurd hreply List.not_mem_nil
  have hok : (Op.create 1 "rocm:a" none).run fresh = .ok .buffered createdOnce := rfl
  exact .create (.start _ _ _ _ rfl hworld) h hok

/-- Opening the channel announces a breakpoint that was created once. -/
theorem created_once_agrees :
    Xor
      (((Action.openChannel .onPipe).run createdOnce).session.pending.waiting 1 =
          [⟨1, .any, .kernel "a"⟩] ∧
        UncreatedSince 1 0 ((Action.openChannel .onPipe).run createdOnce))
      (((Action.openChannel .onPipe).run createdOnce).session.pending.waiting 1 = [] ∧
        Announces 1 ⟨1, .any, .kernel "a"⟩ "a" ((Action.openChannel .onPipe).run createdOnce)) := by
  have hrun : Course Free ((Action.openChannel .onPipe).run createdOnce)
      (Function.update (fun _ => 0) 1 0) := .other (course_createdOnce (.inl rfl)) rfl
  exact hrun.waits_xor_announced (b := .ofRequest ⟨1, .any, .kernel "a"⟩) rfl rfl

/-- A breakpoint that is created again while its request waits leaves two requests under one
number. -/
theorem created_twice_disagrees :
    (∃ births, Course (fun _ _ => True) createdTwice births) ∧
    createdTwice.host.breakpoints.get? 1 = some (.ofRequest ⟨1, .any, .kernel "b"⟩) ∧
    ∀ birth, ¬ Xor
      (createdTwice.session.pending.waiting 1 = [⟨1, .any, .kernel "b"⟩] ∧
        UncreatedSince 1 birth createdTwice)
      (createdTwice.session.pending.waiting 1 = [] ∧
        Announces 1 ⟨1, .any, .kernel "b"⟩ "b" createdTwice) := by
  have hwaiting : createdTwice.session.pending.waiting 1 =
      [⟨1, .any, .kernel "a"⟩, ⟨1, .any, .kernel "b"⟩] := rfl
  have hok : (Op.create 1 "rocm:b" none).run createdOnce = .ok .buffered createdTwice := rfl
  refine ⟨⟨_, .create (course_createdOnce trivial) trivial hok⟩, rfl, ?_⟩
  rw [hwaiting]
  rintro birth (⟨⟨hw, -⟩, -⟩ | ⟨⟨hw, -⟩, -⟩)
  · exact absurd (congrArg List.length hw) (by decide)
  · exact absurd (congrArg List.length hw) (by decide)

end Debugger

end GpuDebug
