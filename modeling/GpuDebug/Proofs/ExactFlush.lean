import GpuDebug.Proofs.Draining
import GpuDebug.Proofs.Exchange
import GpuDebug.Proofs.Pending

/-!
# What a flush sends

A flush takes out the requests that can be sent, slot after slot. If nothing is in the way of it,
each of them comes to the command of its lookup, or to none if the lookup has no result, and never
puts an end to the flush. Sending one request changes no lookup and no other slot, so that the
commands are those which the state before the flush has for them.

* `Debugger.creation?`: the command that creates the breakpoint of a request.
* `Debugger.Unhindered`: nothing is in the way of a flush.
* `Debugger.Wrote`: a step that writes some commands and leaves all lookups as they were.
* `Op.flushSlot_exact`, `Op.flushSlots_exact`: one slot and several.
* `Op.flushPending_exact`: the main result.
-/

namespace GpuDebug

namespace Debugger

/-- The command that creates the breakpoint of a request, if its lookup succeeds. -/
def creation? (d : Debugger) (r : Request) : Option Command :=
  match d.command? r with
  | .ok c => c
  | .error _ => none

theorem Steady.creation? {d d' : Debugger} (h : d.Steady d') : d'.creation? = d.creation? := by
  ext r
  rw [Debugger.creation?, Debugger.creation?, h.command?]

theorem creation?_of_ok {d : Debugger} {r : Request} {c : Option Command}
    (h : d.command? r = .ok c) : d.creation? r = c := by
  rw [creation?, h]

theorem creation?_eq_some {d : Debugger} {r : Request} {c : Command} (h : d.creation? r = some c) :
    d.command? r = .ok (some c) := by
  unfold creation? at h
  split at h
  · next hc => rw [hc, h]
  · cases h

theorem creation?_of_error {d : Debugger} {r : Request} {e : Error} (h : d.command? r = .error e) :
    d.creation? r = none := by
  rw [creation?, h]

/-- The command that creates the breakpoint of the request in a slot. -/
def creationAt? (d : Debugger) (slot : Nat) : Option Command :=
  (d.session.pending.get? slot).bind d.creation?

/-- Nothing is in the way of a flush: the channel is open and the agent takes everything, the
segments are known or can be read, and lines have numbers. -/
structure Unhindered (d : Debugger) : Prop where
  isOpen : d.session.channel.isOpen = true
  takesAll : d.TakesAll
  segments : ∃ segments, d.usableSegments = .ok segments
  numbered : d.session.debugInfo.Numbered

theorem Unhindered.withPending {d : Debugger} (h : d.Unhindered) (pending : Pending) :
    (d.withPending pending).Unhindered :=
  ⟨h.isOpen, h.takesAll, h.segments, h.numbered⟩

/-- The step writes the commands, which are delivered, and changes no lookup. -/
structure Wrote (commands : List Command) (d d' : Debugger) : Prop where
  log : ∃ written, d'.world.transmissions = d.world.transmissions ++ written ∧
    written.map (·.command) = commands ∧ ∀ t ∈ written, t.fate = .delivered
  steady : d.Steady d'
  isOpen : d'.session.channel.isOpen = true
  takesAll : d'.TakesAll

namespace Wrote

variable {commands commands' : List Command} {d d₁ d₂ : Debugger}

theorem unhindered (h : d.Wrote commands d₁) (hd : d.Unhindered) : d₁.Unhindered where
  isOpen := h.isOpen
  takesAll := h.takesAll
  segments := by
    rw [h.steady.segments]
    exact hd.segments
  numbered := by
    rw [h.steady.debugInfo]
    exact hd.numbered

theorem nothing (hopen : d.session.channel.isOpen = true) (htakes : d.TakesAll) : d.Wrote [] d :=
  ⟨⟨[], (List.append_nil _).symm, rfl, fun _ ht => absurd ht List.not_mem_nil⟩, refl_of _ d,
    hopen, htakes⟩

theorem append (h : d.Wrote commands d₁) (h' : d₁.Wrote commands' d₂) :
    d.Wrote (commands ++ commands') d₂ := by
  obtain ⟨written, hlog, hcommands, hfate⟩ := h.log
  obtain ⟨written', hlog', hcommands', hfate'⟩ := h'.log
  refine ⟨⟨written ++ written', ?_, ?_, List.forall_mem_append.mpr ⟨hfate, hfate'⟩⟩,
    trans_of _ h.steady h'.steady, h'.isOpen, h'.takesAll⟩
  · rw [hlog', hlog, List.append_assoc]
  · rw [List.map_append, hcommands, hcommands']

end Wrote

/-- A lookup writes nothing. -/
theorem Looked.wrote {d d₁ : Debugger} (h : d.Looked d₁)
    (hopen : d.session.channel.isOpen = true) (htakes : d.TakesAll) : d.Wrote [] d₁ := by
  refine ⟨⟨[], ?_, rfl, fun _ ht => absurd ht List.not_mem_nil⟩, h.steady, ?_, ?_⟩
  · rw [h.world, List.append_nil]
  · rw [h.session]
    exact hopen
  · rw [TakesAll, h.session, h.world]
    exact htakes

end Debugger

namespace Op

open Debugger (Unhindered Wrote)

variable {d : Debugger} {r : Request} {slot : Nat}

/-! ## One request -/

/-- A valid command is written. -/
theorem wrote_of_send {c : Command} (hvalid : c.isValid = true)
    (hopen : d.session.channel.isOpen = true) (htakes : d.TakesAll) :
    ∃ d', (send c).run d = .ok () d' ∧ d.Wrote [c] d' := by
  obtain ⟨t, d', hrun, hc, hfate, hd, htakes'⟩ := send_of_takesAll hvalid hopen htakes
  refine ⟨d', hrun, ⟨[t], hd.log, ?_, List.forall_mem_singleton.mpr hfate⟩, hd.steady hopen, ?_,
    htakes'⟩
  · rw [List.map_singleton, hc]
  · rw [hd.isOpen, Transmission.isComplete, hfate]

/-- Handing over a request writes its command, or fails in a way that does not stop a flush if its
lookup does. -/
theorem sendRequest_exact (hd : d.Unhindered) (hnumber : 0 ≤ r.number)
    (hnamed : r.location.Named) :
    d.Wrote (d.creation? r).toList ((sendRequest r).final d) ∧
      ((∃ outcome d', (sendRequest r).run d = .ok outcome d' ∧
          outcome.isSent = (d.creation? r).isSome) ∨
        ∃ e d', (sendRequest r).run d = .error e d' ∧ stopsFlush e = false ∧
          d.creation? r = none) := by
  obtain ⟨segments, hsegments⟩ := hd.segments
  have hsend : ∀ {c d₁}, d.command? r = .ok (some c) → d.Looked d₁ →
      ∃ d₂, (send c).run d₁ = .ok () d₂ ∧ d.Wrote [c] d₂ := by
    intro c d₁ hc hl
    have hlooked := hl.wrote hd.isOpen hd.takesAll
    have hvalid := Debugger.isValid_of_command? hd.numbered hnumber hnamed hc
    obtain ⟨d₂, hrun, hwrote⟩ := wrote_of_send hvalid hlooked.isOpen hlooked.takesAll
    exact ⟨d₂, hrun, hlooked.append hwrote⟩
  cases hrun : (sendRequest r).run d with
  | ok outcome d' =>
    rw [final_of_ok hrun]
    cases Hands.of_run hrun with
    | unmapped hc hl =>
      rw [Debugger.creation?_of_ok hc]
      exact ⟨hl.wrote hd.isOpen hd.takesAll, .inl ⟨_, _, rfl, rfl⟩⟩
    | sent hc hl hs =>
      rw [Debugger.creation?_of_ok hc]
      obtain ⟨d₂, hsent, hwrote⟩ := hsend hc hl
      cases hs.symm.trans hsent
      refine ⟨⟨hwrote.log, ?_, hwrote.isOpen, hwrote.takesAll⟩, .inl ⟨_, _, rfl, rfl⟩⟩
      exact ⟨hwrote.steady.debugInfo, hwrote.steady.segments, hwrote.steady.memory,
        hwrote.steady.isOpen⟩
  | error e d' =>
    rw [final_of_error hrun]
    cases Hands.of_run hrun with
    | failed hc hl =>
      rw [Debugger.creation?_of_error hc]
      refine ⟨hl.wrote hd.isOpen hd.takesAll, .inr ⟨e, d', rfl, ?_, rfl⟩⟩
      exact Debugger.harmless_command? hsegments r e hc
    | unsent hc hl hs =>
      obtain ⟨d₂, hsent, -⟩ := hsend hc hl
      rw [hs] at hsent
      cases hsent

/-! ## Slots -/

/-- **Flushing a slot** writes the command for its request, if its lookup succeeds, and frees the
slot in either case. -/
theorem flushSlot_exact (hd : d.Unhindered)
    (hr : ∀ r, d.session.pending.get? slot = some r → 0 ≤ r.number ∧ r.location.Named) :
    ∃ d', (flushSlot slot).run d = .ok (d.creationAt? slot).isSome d' ∧
      d.Wrote (d.creationAt? slot).toList d' ∧
      d'.session.pending = (d.session.pending.take slot).2 := by
  unfold Debugger.creationAt?
  cases hget : d.session.pending.get? slot with
  | none =>
    refine ⟨d, run_flushSlot_free hget, .nothing hd.isOpen hd.takesAll, ?_⟩
    rw [Pending.take_of_get?_none hget]
  | some r =>
    obtain ⟨hnumber, hnamed⟩ := hr r hget
    have hsteady : d.Steady (without d slot) := d.steady_withPending _
    have hwithout : (without d slot).Unhindered := hd.withPending _
    obtain ⟨hwrote, hrun⟩ := sendRequest_exact hwithout hnumber hnamed
    rw [hsteady.creation?] at hwrote hrun
    have hflushed : d.Wrote (d.creation? r).toList ((sendRequest r).final (without d slot)) :=
      ⟨hwrote.log, trans_of _ hsteady hwrote.steady, hwrote.isOpen, hwrote.takesAll⟩
    refine ⟨_, ?_, hflushed, pending_sendRequest r _⟩
    rw [run_flushSlot hget, Option.bind_some]
    rcases hrun with ⟨outcome, d', hok, hsent⟩ | ⟨e, d', herror, hstops, hnone⟩
    · rw [hok, final_of_ok hok, ← hsent]
    · rw [herror, final_of_error herror, hnone]
      simp only [hstops, Bool.false_eq_true, if_false]
      rfl

/-- **Flushing some slots** writes the commands for their requests, in the order of the slots, and
frees them. -/
theorem flushSlots_exact {slots : List Nat} (hd : d.Unhindered) (hslots : slots.Nodup)
    (hr : ∀ slot ∈ slots, ∀ r, d.session.pending.get? slot = some r →
      0 ≤ r.number ∧ r.location.Named) :
    ∃ d', (flushSlots slots).run d = .ok (slots.filterMap d.creationAt?).length d' ∧
      d.Wrote (slots.filterMap d.creationAt?) d' ∧
      d'.session.pending.capacity = d.session.pending.capacity ∧
      ∀ i, d'.session.pending.get? i = if i ∈ slots then none else d.session.pending.get? i := by
  induction slots generalizing d with
  | nil => exact ⟨d, rfl, .nothing hd.isOpen hd.takesAll, rfl, fun _ => (if_neg nofun).symm⟩
  | cons slot slots ih =>
    rw [List.forall_mem_cons] at hr
    obtain ⟨hfirst, hnodup⟩ := List.nodup_cons.mp hslots
    obtain ⟨d₁, hrun, hwrote, hpending⟩ := flushSlot_exact hd hr.1
    have hget : ∀ i, d₁.session.pending.get? i =
        if i = slot then none else d.session.pending.get? i := by
      intro i
      rw [hpending, Pending.get?_take]
    -- The other slots hold what they held, and their lookups are the same.
    have hother : ∀ i ∈ slots, d₁.session.pending.get? i = d.session.pending.get? i := by
      intro i hi
      rw [hget, if_neg]
      rintro rfl
      exact hfirst hi
    have hsame : slots.filterMap d₁.creationAt? = slots.filterMap d.creationAt? := by
      refine List.filterMap_congr fun i hi => ?_
      rw [Debugger.creationAt?, Debugger.creationAt?, hother i hi, hwrote.steady.creation?]
    obtain ⟨d', hrest, hwrote', hcapacity, hget'⟩ := ih (hwrote.unhindered hd) hnodup
      fun i hi r hi' => hr.2 i hi r ((hother i hi).symm.trans hi')
    rw [hsame] at hrest hwrote'
    have hcommands : (slot :: slots).filterMap d.creationAt? =
        (d.creationAt? slot).toList ++ slots.filterMap d.creationAt? := by
      rw [List.filterMap_cons]
      cases d.creationAt? slot <;> rfl
    rw [hcommands]
    refine ⟨d', ?_, hwrote.append hwrote', ?_, fun i => ?_⟩
    · rw [flushSlots, bind_of_ok hrun, bind_of_ok hrest, List.length_append]
      cases d.creationAt? slot <;> rfl
    · rw [hcapacity, hpending, Pending.capacity_take]
    · rw [hget', hget]
      by_cases hi : i = slot
      · simp [hi]
      · simp [hi]

/-! ## A whole flush -/

theorem run_flushPending (d : Debugger) : flushPending.run d =
    (flushSlots (d.session.pending.readySlots d.session.readyFor)).run d := by
  unfold flushPending
  rw [bind_of_ok (run_session d)]

/-- Over a closed channel nothing is flushed. -/
theorem run_flushPending_of_closed (hclosed : d.session.channel.isOpen = false) :
    flushPending.run d = .ok 0 d := by
  have hnone : d.session.pending.readySlots d.session.readyFor = [] := by
    refine List.filterMap_eq_nil_iff.mpr fun ⟨entry, i⟩ _ => if_neg ?_
    cases entry <;> simp [Session.readyFor, hclosed]
  rw [run_flushPending, hnone]
  rfl

/-- The requests that wait after a flush. -/
theorem get?_of_flushed {p p' : Pending} {ready : Request → Bool} {i : Nat}
    (h : p'.get? i = if i ∈ p.readySlots ready then none else p.get? i) :
    p'.get? i = (p.get? i).filter fun r => !ready r := by
  cases hget : p.get? i with
  | none => rw [h, hget, ite_self, Option.filter_none]
  | some r =>
    rw [h, hget]
    by_cases hready : ready r = true
    · rw [if_pos (Pending.mem_readySlots hget hready)]
      simp [Option.filter, hready]
    · rw [if_neg fun hmem => hready (Pending.ready_of_mem_readySlots hmem hget)]
      simp [Option.filter, hready]

/-- **What a flush sends.** Over a closed channel it sends nothing and changes nothing. Over an open
one, if the agent takes everything and the load map can be read, and all that wait are requests of
users on a line table whose lines are counted from one, it writes and counts the commands that
create the breakpoints of the ready requests whose lookups succeed, in the order of their slots, and
nothing else. No ready request waits afterwards, and the others are where they were. -/
theorem flushPending_exact (d : Debugger) :
    (d.session.channel.isOpen = false → flushPending.run d = .ok 0 d) ∧
    ∀ segments : SegmentTable, d.session.channel.isOpen = true → d.TakesAll →
      SegmentTable.ofRegion (d.world.memory.read .loadMap) = .ok segments →
      d.session.debugInfo.Numbered → (∀ r ∈ d.session.pending.requests, r.Typed) →
      ∃ d' written, flushPending.run d = .ok written.length d' ∧
        d'.world.transmissions = d.world.transmissions ++ written ∧
        written.map (·.command) =
          (d.session.pending.requests.filter d.session.readyFor).filterMap d.creation? ∧
        (∀ t ∈ written, t.command.tag = .createBreakpoint ∧ t.fate = .delivered) ∧
        d'.session.pending.capacity = d.session.pending.capacity ∧
        ∀ slot, d'.session.pending.get? slot =
          (d.session.pending.get? slot).filter fun r => !d.session.readyFor r := by
  refine ⟨run_flushPending_of_closed, fun segments hopen htakes hsegments hnumbered htyped => ?_⟩
  have hd : d.Unhindered :=
    ⟨hopen, htakes, Debugger.exists_usableSegments hsegments, hnumbered⟩
  have hnodup : (d.session.pending.readySlots d.session.readyFor).Nodup :=
    (d.session.pending.readySlots_pairwise_lt _).imp Nat.ne_of_lt
  obtain ⟨d', hrun, hwrote, hcapacity, hget⟩ := flushSlots_exact hd hnodup fun slot _ r hr =>
    (htyped r (Pending.mem_requests_iff.mpr ⟨slot, hr⟩)).sendable
  obtain ⟨written, hlog, hcommands, hfate⟩ := hwrote.log
  have hslots : (d.session.pending.readySlots d.session.readyFor).filterMap d.creationAt? =
      (d.session.pending.requests.filter d.session.readyFor).filterMap d.creation? := by
    rw [← Pending.filterMap_get?_readySlots, List.filterMap_filterMap]
    rfl
  refine ⟨d', written, ?_, hlog, hcommands.trans hslots, fun t ht => ⟨?_, hfate t ht⟩, hcapacity,
    fun slot => get?_of_flushed (hget slot)⟩
  · rw [run_flushPending, hrun, ← hcommands, List.length_map]
  · have hmem : t.command ∈ (d.session.pending.readySlots d.session.readyFor).filterMap
        d.creationAt? := hcommands ▸ List.mem_map_of_mem ht
    rw [hslots] at hmem
    obtain ⟨r, -, hc⟩ := List.mem_filterMap.mp hmem
    exact (Debugger.command?_creates (Debugger.creation?_eq_some hc)).1

/-- Requests on a kernel, on a line without code and on a line with code, and a free slot. The code
object is loaded, and the channel was just opened. -/
def mixed : Debugger :=
  (Debugger.after
    ⟨Session.ofConfig { Config.standard with pendingCapacity := 4 } twoObjects, .empty,
      publishing [1]⟩
    [.resolve ⟨1, .any, .kernel "vadd"⟩, .resolve ⟨2, .any, .source (some "temp_source") 9 none⟩,
      .resolve ⟨3, .any, .anywhere "*"⟩, .resolve ⟨4, .any, .source (some "temp_source") 4 none⟩,
      .delete 3, .notification published]).on .onPipe

/-- Two of the three requests have a command. -/
theorem mixed_flush_sends_two :
    mixed.session.pending.slots = [some ⟨1, .any, .kernel "vadd"⟩,
      some ⟨2, .any, .source (some "temp_source") 9 none⟩, none,
      some ⟨4, .any, .source (some "temp_source") 4 none⟩] ∧
    ∃ d' written, flushPending.run mixed = .ok 2 d' ∧
      d'.world.transmissions = mixed.world.transmissions ++ written ∧
      written.map (·.command) = [.createKernel 1 "vadd" (Condition.toPacket .any),
        .createSource 4 65792 4 " " (Condition.toPacket .any)] ∧
      ∀ slot, d'.session.pending.get? slot = none := by
  have hslots : mixed.session.pending.slots = [some ⟨1, .any, .kernel "vadd"⟩,
      some ⟨2, .any, .source (some "temp_source") 9 none⟩, none,
      some ⟨4, .any, .source (some "temp_source") 4 none⟩] := by decide +kernel
  have htyped : ∀ r ∈ mixed.session.pending.requests, r.Typed := by
    have hparse : ∀ number text r, 0 ≤ number →
        Grammar.parse ⟨"rocm", "temp_source"⟩ number text none = .ok r → r.Typed :=
      fun _ _ _ hnumber h => .parsed hnumber h
    rw [Pending.requests, hslots]
    simp only [List.filterMap_cons, id, List.filterMap_nil, List.forall_mem_cons]
    exact ⟨hparse 1 "rocm:vadd" _ (by decide) rfl, hparse 2 "rocm:9" _ (by decide) rfl,
      hparse 4 "rocm:4" _ (by decide) rfl, List.forall_mem_nil _⟩
  have hnumbered : mixed.session.debugInfo.Numbered := by
    intro table htable
    obtain rfl : ⟨[⟨256, 4, none⟩], none⟩ = table := Option.some.inj htable
    decide
  obtain ⟨d', written, hrun, hlog, hcommands, -, -, hget⟩ :=
    (flushPending_exact mixed).2 _ rfl (fun _ => List.forall_mem_nil _) rfl hnumbered htyped
  have hcreations : (mixed.session.pending.requests.filter mixed.session.readyFor).filterMap
      mixed.creation? = [.createKernel 1 "vadd" (Condition.toPacket .any),
        .createSource 4 65792 4 " " (Condition.toPacket .any)] := by decide +kernel
  rw [hcreations] at hcommands
  have hlength : written.length = 2 := by
    rw [← List.length_map (f := (·.command)), hcommands]
    rfl
  refine ⟨hslots, d', written, hlength ▸ hrun, hlog, hcommands, fun slot => ?_⟩
  have hready : ∀ r ∈ mixed.session.pending.requests, mixed.session.readyFor r = true := by
    decide +kernel
  rw [hget, Option.filter_eq_none_iff]
  intro r hr
  simp [hready r (Pending.mem_requests_iff.mpr ⟨slot, hr⟩)]

end Op

end GpuDebug
