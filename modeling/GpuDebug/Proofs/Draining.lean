import GpuDebug.Proofs.Renewal
import GpuDebug.Proofs.Validity

/-!
# A flush without debug information

Without debug information a flush hands over requests on kernels only. If the agent takes
everything, all of them are sent, and requests on source lines wait as before.

* `Debugger.TakesAll`: the agent takes whatever is sent, if anything can be sent.
* `Request.CreatesEntry`: the command for a request on kernels.
* `Debugger.Drains`: a step that sends requests on kernels that wait, and does nothing else.
* `Op.run_flushPending_of_unavailable`: the main result.
-/

namespace GpuDebug

/-! ## Requests on kernels -/

theorem Location.Named.exists_kernelName? {l : Location} (h : l.Named) (hkind : l.kind ≠ .source) :
    ∃ name, l.kernelName? = some name ∧ name ≠ "" := by
  cases l with
  | unknown => exact h.elim
  | source file line statement => exact absurd rfl hkind
  | kernel name => exact ⟨name, rfl, h⟩
  | anywhere name => exact ⟨name, rfl, h⟩

/-- The command creates the breakpoint of a request on kernels of some name. -/
def Request.CreatesEntry (r : Request) (c : Command) : Prop :=
  ∃ name, r.location.kernelName? = some name ∧ name ≠ "" ∧
    c = .createKernel r.number name r.condition.toPacket

/-- A breakpoint on kernels is not created as one at a source line. -/
theorem Request.CreatesEntry.not_isSource {r : Request} {c : Command} (h : r.CreatesEntry c) :
    ¬ c.IsSource := by
  obtain ⟨name, -, hname, rfl⟩ := h
  exact fun hsource => hname hsource.2

namespace Pending

variable {p : Pending} {slot : Nat} {r : Request}

theorem mem_offSource_of_get? (hget : p.get? slot = some r) (hkind : r.kind ≠ .source) :
    r ∈ p.offSource := by
  obtain ⟨-, before, after, -, hp, -, -⟩ := take_requests hget
  refine List.mem_filter.mpr ⟨?_, by simpa using hkind⟩
  rw [hp]
  exact List.mem_append_right before List.mem_cons_self

/-- Taking out a request that is not for a source line leaves those that are. -/
theorem onSource_take (hget : p.get? slot = some r) (hkind : r.kind ≠ .source) :
    (p.take slot).2.onSource = p.onSource :=
  filter_take hget (by simpa using hkind)

theorem offSource_take_subset (hget : p.get? slot = some r) :
    (p.take slot).2.offSource ⊆ p.offSource := by
  obtain ⟨p', before, after, htake, hp, hp', -⟩ := take_requests hget
  rw [htake, offSource, offSource, hp, show p'.requests = _ from hp']
  exact ((List.sublist_cons_self r after).append_left before).filter _ |>.subset

end Pending

namespace Debugger

/-- The agent takes whatever is sent over the pipe, if the channel goes there. Files take everything
anyhow, and over a closed channel nothing is sent. -/
def TakesAll (d : Debugger) : Prop :=
  d.session.channel.target = some .pipe → d.world.Accepts

/-- The step sends requests on kernels that wait, and does nothing else. -/
structure Drains (d d' : Debugger) : Prop where
  session : d'.session =
    { d.session with channel := d'.session.channel, pending := d'.session.pending }
  host : d'.host = d.host
  isOpen : d.session.channel.isOpen = true → d'.session.channel.isOpen = true
  onSource : d'.session.pending.onSource = d.session.pending.onSource
  offSource : d'.session.pending.offSource ⊆ d.session.pending.offSource
  log : ∃ later, d'.world.transmissions = d.world.transmissions ++ later ∧
    ∀ t ∈ later, ∃ r ∈ d.session.pending.offSource, r.CreatesEntry t.command

instance : IsPreorder Debugger Drains where
  refl _ := ⟨rfl, rfl, id, rfl, List.Subset.refl _, [], (List.append_nil _).symm,
    fun _ ht => absurd ht List.not_mem_nil⟩
  trans d d' d'' h h' := by
    obtain ⟨first, hfirst, hentries⟩ := h.log
    obtain ⟨second, hsecond, hentries'⟩ := h'.log
    refine ⟨?_, h'.host.trans h.host, h'.isOpen ∘ h.isOpen, h'.onSource.trans h.onSource,
      List.Subset.trans h'.offSource h.offSource, first ++ second, ?_, ?_⟩
    · rw [h'.session, h.session]
    · rw [hsecond, hfirst, List.append_assoc]
    · refine List.forall_mem_append.mpr ⟨hentries, fun t ht => ?_⟩
      obtain ⟨r, hr, hcommand⟩ := hentries' t ht
      exact ⟨r, h.offSource hr, hcommand⟩

end Debugger

namespace Op

open Debugger (TakesAll Drains Holds)

variable {d : Debugger} {r : Request} {slot : Nat}

/-- A valid command over an open channel is sent, if the agent takes everything. -/
theorem send_of_takesAll {c : Command} (hvalid : c.isValid = true)
    (hopen : d.session.channel.isOpen = true) (htakes : d.TakesAll) :
    ∃ t d', (send c).run d = .ok () d' ∧ t.command = c ∧ t.fate = .delivered ∧ d.Written t d' ∧
      d'.TakesAll := by
  obtain ⟨target, htarget⟩ := Channel.isOpen_iff.mp hopen
  cases target with
  | pipe =>
    have haccepts := htakes htarget
    rcases send_of_accepts hopen haccepts with ⟨t, d', hc, hfate, hd, hrun⟩ | ⟨hinvalid, -⟩
    · exact ⟨t, d', hrun, hc, hfate, hd, fun _ => hd.advances.accepts haccepts⟩
    · exact absurd hvalid hinvalid
  | file path offset =>
    unfold send
    simp only [EStateM.run_bind, run_session, run_world, run_modifySession, run_modifyWorld]
    unfold Channel.send Command.validate
    simp only [htarget, if_pos hvalid]
    exact ⟨⟨c, .delivered, .file path offset⟩, _, rfl, rfl, rfl,
      ⟨rfl, List.suffix_rfl, rfl, rfl, rfl, rfl, fun _ => rfl⟩, fun hpipe => by cases hpipe⟩

/-- A request on kernels is sent, if the agent takes everything. -/
theorem sendRequest_of_takesAll (hnumber : 0 ≤ r.number) (hnamed : r.location.Named)
    (hkind : r.kind ≠ .source) (hopen : d.session.channel.isOpen = true) (htakes : d.TakesAll) :
    ∃ t d', (sendRequest r).run d = .ok (.sent none) d' ∧ r.CreatesEntry t.command ∧
      t.fate = .delivered ∧ d.Written t d' ∧ d'.TakesAll := by
  obtain ⟨name, hname, hnonempty⟩ := hnamed.exists_kernelName? hkind
  have hvalid := Command.isValid_createKernel hnumber hnonempty r.condition.toPacket
  obtain ⟨t, d', hrun, hc, hfate, hd, htakes'⟩ := send_of_takesAll hvalid hopen htakes
  refine ⟨t, d', ?_, ⟨name, hname, hnonempty, hc⟩, hfate, hd, htakes'⟩
  unfold sendRequest
  cases hr : r.location with
  | unknown => exact absurd (hr ▸ hname) nofun
  | source file line statement => exact absurd (hr ▸ hname) nofun
  | kernel _ =>
    rw [hr] at hname
    cases hname
    exact bind_of_ok hrun
  | anywhere _ =>
    rw [hr] at hname
    cases hname
    exact bind_of_ok hrun

/-- Flushing the slot of a request on kernels. -/
theorem flushSlot_of_takesAll (hget : d.session.pending.get? slot = some r)
    (hnumber : 0 ≤ r.number) (hnamed : r.location.Named) (hkind : r.kind ≠ .source)
    (hopen : d.session.channel.isOpen = true) (htakes : d.TakesAll) :
    ∃ d', (flushSlot slot).run d = .ok true d' ∧ d.Drains d' ∧ d'.TakesAll := by
  obtain ⟨t, d', hrun, hentry, hfate, hd, htakes'⟩ :=
    sendRequest_of_takesAll (d := without d slot) hnumber hnamed hkind hopen htakes
  have hpending : d'.session.pending = (d.session.pending.take slot).2 := by
    rw [hd.session]
    rfl
  refine ⟨d', by rw [run_flushSlot hget, hrun]; rfl, ?_, htakes'⟩
  refine ⟨?_, hd.host, fun _ => ?_, ?_, ?_, [t], hd.log, ?_⟩
  · rw [hd.session]
    rfl
  · rw [hd.isOpen, Transmission.isComplete, hfate]
  · rw [hpending, Pending.onSource_take hget hkind]
  · rw [hpending]
    exact Pending.offSource_take_subset hget
  · exact List.forall_mem_singleton.mpr ⟨r, Pending.mem_offSource_of_get? hget hkind, hentry⟩

/-- Flushing slots of requests on kernels. A slot that is flushed is free, so that no other request
comes into it. -/
theorem flushSlots_of_takesAll {slots : List Nat}
    (h : ∀ slot ∈ slots, ∀ r, d.session.pending.get? slot = some r →
      0 ≤ r.number ∧ r.location.Named ∧ r.kind ≠ .source ∧ d.session.channel.isOpen = true)
    (htakes : d.TakesAll) :
    ∃ count d', (flushSlots slots).run d = .ok count d' ∧ d.Drains d' := by
  induction slots generalizing d with
  | nil => exact ⟨0, d, rfl, refl_of _ d⟩
  | cons slot slots ih =>
    rw [List.forall_mem_cons] at h
    obtain ⟨sent, d₁, hrun, hdrains, htakes₁⟩ :
        ∃ sent d₁, (flushSlot slot).run d = .ok sent d₁ ∧ d.Drains d₁ ∧ d₁.TakesAll := by
      cases hget : d.session.pending.get? slot with
      | none => exact ⟨false, d, run_flushSlot_free hget, refl_of _ d, htakes⟩
      | some r =>
        obtain ⟨hnumber, hnamed, hkind, hopen⟩ := h.1 r hget
        exact ⟨true, flushSlot_of_takesAll hget hnumber hnamed hkind hopen htakes⟩
    have hothers : ∀ slot' ∈ slots, ∀ r, d₁.session.pending.get? slot' = some r →
        0 ≤ r.number ∧ r.location.Named ∧ r.kind ≠ .source ∧
          d₁.session.channel.isOpen = true := by
      intro slot' hmem r hget
      obtain ⟨hnumber, hnamed, hkind, hopen⟩ := h.2 slot' hmem r (get?_of_flushSlot hrun hget)
      exact ⟨hnumber, hnamed, hkind, hdrains.isOpen hopen⟩
    obtain ⟨count, d', hrest, hdrains'⟩ := ih hothers htakes₁
    refine ⟨(if sent then 1 else 0) + count, d', ?_, trans_of _ hdrains hdrains'⟩
    rw [flushSlots, bind_of_ok hrun, bind_of_ok hrest]
    rfl

/-- **Without debug information, a flush sends requests on kernels only**, and does not fail if the
agent takes everything. -/
theorem run_flushPending_of_unavailable (hnone : d.session.debugInfo.isAvailable = false)
    (htyped : d.Holds Request.Typed) (htakes : d.TakesAll) :
    ∃ count d', flushPending.run d = .ok count d' ∧ d.Drains d' := by
  unfold flushPending
  rw [bind_of_ok (run_session d)]
  refine flushSlots_of_takesAll (fun slot hmem r hget => ?_) htakes
  have hready := Pending.ready_of_mem_readySlots hmem hget
  rw [Session.readyFor, hnone, Bool.or_false, Bool.and_eq_true, bne_iff_ne] at hready
  obtain ⟨hnumber, hnamed⟩ := (htyped.of_slot hget).sendable
  exact ⟨hnumber, hnamed, hready.2, hready.1⟩

end Op

end GpuDebug
