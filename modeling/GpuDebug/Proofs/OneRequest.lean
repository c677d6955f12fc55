import GpuDebug.Proofs.Creation
import GpuDebug.Proofs.Holding

/-!
# One request for each number

As long as the host keeps one request for each number, whatever waits under a number and whatever
the host stores under it comes from one request. Only the text of the line may differ, which is
filled in when a breakpoint is sent.

* `Request.bare`: the request without this text.
* `Debugger.OneRequest`: all requests of a number are one request.
* `Debugger.Orderly.oneRequest`: the main result.
-/

namespace GpuDebug

namespace Request

/-- The request without the text of its line. -/
def bare (r : Request) : Request :=
  match r.location with
  | .source file line _ => { r with location := .source file line none }
  | _ => r

variable {r s : Request}

theorem bare_withStatement (r : Request) (statement : String) :
    (r.withStatement statement).bare = r.bare := by
  unfold withStatement
  split
  · next h => simp only [bare, h]
  · rfl

theorem kind_bare (r : Request) : r.bare.kind = r.kind := by
  unfold bare
  split
  · next h => simp only [kind, h, Location.kind]
  · rfl

theorem kind_eq_of_bare_eq (h : r.bare = s.bare) : r.kind = s.kind := by
  rw [← r.kind_bare, h, s.kind_bare]

end Request

namespace Debugger

variable {d : Debugger} {number : Int32}

/-- All requests of a number, those that wait and that of the host, are one request. -/
def OneRequest (number : Int32) (d : Debugger) : Prop :=
  ∃ request, d.Holds fun r => r.number = number → r.bare = request

/-- Requests of other numbers do not matter. -/
theorem OneRequest.of_view {request : Request} (hd : d.Sound)
    (hw : ∀ r ∈ (d.view number).waiting, r.bare = request)
    (hs : ∀ b, (d.view number).stored = some b → b.request.bare = request) :
    d.OneRequest number := by
  refine ⟨request, fun n r hr hn => ?_, fun n b hb hn => ?_⟩
  · obtain rfl := (Pending.mem_waiting.mp hr).2.symm.trans hn
    exact hw r hr
  · obtain rfl := (hd.keyed n b hb).symm.trans hn
    exact hs b hb

theorem OneRequest.bare_eq (h : d.OneRequest number) (hd : d.Sound) {r : Request} {b : Breakpoint}
    (hr : r ∈ d.session.pending.waiting number) (hb : d.host.breakpoints.get? number = some b) :
    r.bare = b.request.bare := by
  obtain ⟨request, hholds⟩ := h
  have hn : b.request.number = number := hd.number_of_get? hb
  calc r.bare
      = request := hholds.waiting number r hr (Pending.mem_waiting.mp hr).2
    _ = b.request.bare := (hholds.stored number b.placing (stored_of_get? hb) hn).symm

namespace Orderly

/-- A request that the host stores while none of its number waits is the one from then on. -/
theorem oneRequest_of_stored (h : d.Orderly) {r : Request} (hw : (d.view number).waiting = [])
    (hs : (d.view number).stored = some (Breakpoint.ofRequest r)) : d.OneRequest number := by
  have hwaiting : ∀ s ∈ (d.view number).waiting, s.bare = r.bare := by
    rw [hw]
    exact fun _ hmem => absurd hmem List.not_mem_nil
  have hstored : ∀ b, (d.view number).stored = some b → b.request.bare = r.bare := by
    intro b hb
    cases hs.symm.trans hb
    rfl
  exact .of_view h.reachable.sound hwaiting hstored

theorem stored_store (r : Request) (d : Debugger) :
    (((Action.store r).run d).view r.number).stored = some (Breakpoint.ofRequest r) := by
  change ((d.host.add r).breakpoints.get? r.number).map Breakpoint.placing = _
  rw [Host.get?_add, if_pos rfl]
  rfl

/-- The host stores a request, and before or after that its breakpoint is deleted. -/
theorem view_replace {r : Request} {actions : List Action}
    (hactions : actions = [.store r, .delete r.number] ∨ actions = [.delete r.number, .store r])
    (h : (d.view r.number).waiting.length ≤ 1) :
    ((d.after actions).view r.number).waiting = [] ∧
      ((d.after actions).view r.number).stored = some (Breakpoint.ofRequest r) := by
  rcases hactions with rfl | rfl
  · refine ⟨waiting_delete (d := (Action.store r).run d) h, ?_⟩
    exact (Op.view_deleteBreakpoint r.number ((Action.store r).run d)).2.trans (stored_store r d)
  · exact ⟨waiting_delete h, stored_store r _⟩

/-- **The requests of a number are one request**, as long as the host keeps one for each number. -/
theorem oneRequest (h : d.Orderly) (number : Int32) : d.OneRequest number := by
  have hstatement : ∀ (request r : Request) (statement : String),
      (r.number = number → r.bare = request) → (r.withStatement statement).number = number →
        (r.withStatement statement).bare = request := by
    intro request r statement hr hn
    rw [r.bare_withStatement]
    exact hr ((r.number_withStatement statement).symm.trans hn)
  induction h with
  | start config reader host world h => exact ⟨.cleared, holds_start config reader host world h⟩
  | store r h hfree ih =>
    by_cases hn : r.number = number
    · subst hn
      have hw := (h.tidy r.number).waiting_of_free hfree
      exact (h.store r hfree).oneRequest_of_stored hw (stored_store r _)
    · obtain ⟨request, hholds⟩ := ih
      exact ⟨request, hholds.run (hstatement request) (N := fun _ => True) fun heq => absurd heq hn⟩
  | resolve n h hb ih =>
    obtain ⟨request, hholds⟩ := ih
    exact ⟨request, hholds.run (hstatement request) (N := fun _ => True)
      (hholds.stored n (Breakpoint.placing _) (stored_of_get? hb))⟩
  | replace r h hactions ih =>
    by_cases hn : r.number = number
    · subst hn
      obtain ⟨hw, hs⟩ := view_replace hactions (h.tidy r.number).length_waiting_le_one
      exact (h.replace r hactions).oneRequest_of_stored hw hs
    · obtain ⟨request, hholds⟩ := ih
      refine ⟨request, hholds.after (hstatement request) (N := fun _ => True) ?_⟩
      rcases hactions with rfl | rfl <;> simp [Action.Asks, hn]
  | remove n h hactions ih =>
    obtain ⟨request, hholds⟩ := ih
    refine ⟨request, hholds.after (hstatement request) (N := fun _ => True) ?_⟩
    rcases hactions with rfl | rfl <;> simp [Action.Asks]
  | delete n h ih =>
    obtain ⟨request, hholds⟩ := ih
    exact ⟨request, hholds.run (hstatement request) (N := fun _ => True) trivial⟩
  | other h ha ih =>
    obtain ⟨request, hholds⟩ := ih
    exact ⟨request, (Op.carried_holds (hstatement request)).run ha _ hholds⟩
  | outside host world h ih =>
    obtain ⟨request, hholds⟩ := ih
    exact ⟨request, hholds.run (hstatement request) (N := fun _ => True) trivial⟩

end Orderly

end Debugger

end GpuDebug
