import GpuDebug.Proofs.BreakpointTable
import GpuDebug.Proofs.Pending
import GpuDebug.Proofs.Sending

/-!
# What the state holds about one number

Breakpoints are told apart by their number, and three parts of the state speak of it: the requests
that wait, the breakpoint that the host stores, and the commands written to the agent.

* `Debugger.view`: these parts, for one number.
* `Debugger.Advances`: a step that adds to the log of commands.
* `Debugger.Untouched`: one that leaves the view of a number as it was.
* `Debugger.Quiet`: one that leaves the view of every number, the pending cache and the numbers of
  the host as they were. Most operations are quiet (`Op.Quiet`); those that set and remove
  breakpoints are treated elsewhere.

The hit count of a stored breakpoint and its switch do not belong to the view.
-/

namespace GpuDebug

namespace Transmission

/-- Whether the command creates the breakpoint of a number. -/
def creates (t : Transmission) (number : Int32) : Bool :=
  t.command.tag == .createBreakpoint && t.command.breakpoint == number

/-- Whether the command creates or deletes the breakpoint of a number. -/
def concerns (t : Transmission) (number : Int32) : Bool :=
  (t.command.tag == .createBreakpoint || t.command.tag == .deleteBreakpoint) &&
    t.command.breakpoint == number

theorem concerns_of_creates {t : Transmission} {number : Int32} (h : t.creates number = true) :
    t.concerns number = true := by
  simp only [creates, Bool.and_eq_true] at h
  simp [concerns, h.1, h.2]

end Transmission

/-- All that a state holds about one number. -/
structure View where
  /-- The requests that wait, in slot order. -/
  waiting : List Request
  /-- The breakpoint of the host. -/
  stored : Option Breakpoint
  /-- The commands written so far that create or delete the breakpoint, the first one first. -/
  written : List Transmission
  deriving DecidableEq, Repr

namespace Debugger

/-- All that the state holds about a number. -/
def view (d : Debugger) (number : Int32) : View where
  waiting := d.session.pending.waiting number
  stored := (d.host.breakpoints.get? number).map Breakpoint.placing
  written := d.world.transmissions.filter (·.concerns number)

/-- The log of commands grows, and the replies of the pipe are used up in order. -/
structure Advances (d d' : Debugger) : Prop where
  log : d.world.transmissions <+: d'.world.transmissions
  replies : d'.world.replies <:+ d.world.replies

instance : IsPreorder Debugger Advances where
  refl _ := ⟨List.prefix_rfl, List.suffix_rfl⟩
  trans _ _ _ h h' := ⟨h.log.trans h'.log, h'.replies.trans h.replies⟩

/-- A step that advances in the same world. -/
theorem Advances.of_world_eq {d d' : Debugger} (h : d'.world = d.world) : Advances d d' :=
  ⟨h ▸ List.prefix_rfl, h ▸ List.suffix_rfl⟩

theorem Advances.accepts {d d' : Debugger} (h : Advances d d') (ha : d.world.Accepts) :
    d'.world.Accepts :=
  fun reply hreply => ha reply (h.replies.subset hreply)

theorem Written.advances {t : Transmission} {d d' : Debugger} (h : d.Written t d') :
    Advances d d' :=
  ⟨h.log ▸ List.prefix_append _ _, h.replies⟩

/-- The step advances and leaves the view of a number as it was. -/
structure Untouched (number : Int32) (d d' : Debugger) : Prop extends Advances d d' where
  view : d'.view number = d.view number

namespace Untouched

variable {number : Int32} {d d' : Debugger}

instance : IsPreorder Debugger (Untouched number) where
  refl d := ⟨refl_of Advances d, rfl⟩
  trans _ _ _ h h' := ⟨trans_of Advances h.toAdvances h'.toAdvances, h'.view.trans h.view⟩

theorem waiting (h : Untouched number d d') :
    d'.session.pending.waiting number = d.session.pending.waiting number :=
  congrArg View.waiting h.view

theorem stored (h : Untouched number d d') :
    (d'.host.breakpoints.get? number).map Breakpoint.placing =
      (d.host.breakpoints.get? number).map Breakpoint.placing :=
  congrArg View.stored h.view

/-- None of the commands that were written concerns the number. -/
theorem later (h : Untouched number d d') :
    ∃ later, d'.world.transmissions = d.world.transmissions ++ later ∧
      ∀ t ∈ later, t.concerns number = false := by
  obtain ⟨later, hlater⟩ := h.log
  refine ⟨later, hlater.symm, fun t ht => ?_⟩
  have hw : d'.world.transmissions.filter (·.concerns number) =
      d.world.transmissions.filter (·.concerns number) := congrArg View.written h.view
  rw [← hlater, List.filter_append, List.append_right_eq_self] at hw
  exact Bool.eq_false_iff.mpr (List.filter_eq_nil_iff.mp hw t ht)

end Untouched

/-- The step leaves the view of every number and the pending cache as they were, and the host has
the same numbers. -/
structure Quiet (d d' : Debugger) : Prop where
  untouched : ∀ number, Untouched number d d'
  pending : d'.session.pending = d.session.pending
  numbers : d'.host.breakpoints.numbers = d.host.breakpoints.numbers

instance : IsPreorder Debugger Quiet where
  refl d := ⟨fun _ => refl_of _ d, rfl, rfl⟩
  trans _ _ _ h h' :=
    ⟨fun number => trans_of _ (h.untouched number) (h'.untouched number),
      h'.pending.trans h.pending, h'.numbers.trans h.numbers⟩

end Debugger

namespace Op

/-- Every run of the operation leaves the view of every number as it was. -/
abbrev Quiet {α : Type} (op : Op α) : Prop :=
  Respects Debugger.Quiet op

/-! ## The primitives -/

theorem quiet_modifySession {f : Session → Session} (hf : ∀ s, (f s).pending = s.pending) :
    Quiet (modifySession f) := by
  refine fun d => ⟨fun number => ⟨.of_world_eq rfl, ?_⟩, hf d.session, rfl⟩
  change View.mk ((f d.session).pending.waiting number) _ _ = _
  rw [hf]
  rfl

theorem quiet_modifyHost {f : Host → Host}
    (hf : ∀ h number, ((f h).breakpoints.get? number).map Breakpoint.placing =
      (h.breakpoints.get? number).map Breakpoint.placing)
    (hnumbers : ∀ h, (f h).breakpoints.numbers = h.breakpoints.numbers) :
    Quiet (modifyHost f) := by
  refine fun d => ⟨fun number => ⟨.of_world_eq rfl, ?_⟩, rfl, hnumbers d.host⟩
  change View.mk _ (((f d.host).breakpoints.get? number).map Breakpoint.placing) _ = _
  rw [hf]
  rfl

theorem quiet_modifyWorld {f : World → World}
    (hf : ∀ w, (f w).transmissions = w.transmissions ∧ (f w).replies = w.replies) :
    Quiet (modifyWorld f) := by
  intro d
  obtain ⟨ht, hr⟩ := hf d.world
  refine ⟨fun number => ⟨⟨?_, ?_⟩, ?_⟩, rfl, rfl⟩
  · change d.world.transmissions <+: (f d.world).transmissions
    exact ht ▸ List.prefix_rfl
  · change (f d.world).replies <:+ d.world.replies
    exact hr ▸ List.suffix_rfl
  · change View.mk _ _ ((f d.world).transmissions.filter _) = _
    rw [ht]
    rfl

theorem advances_send (c : Command) : Respects Debugger.Advances (send c) := by
  intro d
  rcases send_final c d with h | ⟨-, h | ⟨t, -, h⟩⟩
  · exact .of_world_eq (by rw [h])
  · exact .of_world_eq (by rw [h]; rfl)
  · exact h.advances

/-- Sending a command that does not concern a number. -/
theorem untouched_send {c : Command} {number : Int32}
    (hc : ∀ t : Transmission, t.command = c → t.concerns number = false) :
    Respects (Debugger.Untouched number) (send c) := by
  intro d
  refine ⟨advances_send c d, ?_⟩
  rcases send_final c d with h | ⟨-, h | ⟨t, htc, h⟩⟩
  · rw [h]
  · rw [h]
    rfl
  · unfold Debugger.view
    rw [h.host, h.log, h.session, List.filter_append, List.filter_cons_of_neg (by simp [hc t htc]),
      List.filter_nil, List.append_nil]

/-- Sending a command that neither creates nor deletes a breakpoint. -/
theorem quiet_send {c : Command} (hcreate : c.tag ≠ .createBreakpoint)
    (hdelete : c.tag ≠ .deleteBreakpoint) : Quiet (send c) := by
  refine fun d => ⟨fun number => untouched_send (fun t ht => ?_) d, (send_keeps c d).1, ?_⟩
  · simp [Transmission.concerns, ht, hcreate, hdelete]
  · rw [(send_keeps c d).2]

end Op

end GpuDebug
