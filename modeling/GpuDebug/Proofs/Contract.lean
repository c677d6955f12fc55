import GpuDebug.Proofs.Decoding
import GpuDebug.Proofs.LoadMap

/-!
# Failures that break the contract

An operation that fails because the contract with the agent is broken has either sent a command that
was not valid or was cut short, and then the channel is closed; or it could not read a record in
shared memory, and then the channel stays as it is.

* `Debugger.Talks`: the commands that were written decide whether the channel is open.
* `Op.Ends`, `Op.Honours`: what an operation comes to. Sending, reading and everything that is made
  of both is of this kind.
* `Op.Fair`: an operation that honours the contract and reads no record.
-/

namespace GpuDebug

/-! ## Two kinds of failures -/

/-- The failure of sending a command that is not valid, or of which only a part was taken. -/
def Error.IsOfCommand (e : Error) : Prop :=
  (∃ c : Command, e = c.incomplete) ∨ ∃ count, e = .shortWrite count Command.size

namespace Error.IsOfCommand

variable {e : Error}

theorem breaksContract (h : e.IsOfCommand) : e.breaksContract = true := by
  rcases h with ⟨c, rfl⟩ | ⟨count, rfl⟩ <;> rfl

theorem not_isOfRecord (h : e.IsOfCommand) : ¬ e.IsOfRecord := by
  rcases h with ⟨c, rfl⟩ | ⟨count, rfl⟩
  · exact c.not_isOfRecord_incomplete
  · rintro ⟨text, initial, heq, -⟩
    cases heq

end Error.IsOfCommand

namespace Debugger

variable {d d' : Debugger} {e : Error}

/-! ## The channel and the log -/

/-- The commands that were written decide whether the channel is open: an open channel stays open
as long as they are taken whole, and a closed one stays closed. -/
def Talks (d d' : Debugger) : Prop :=
  ∃ later, d'.world.transmissions = d.world.transmissions ++ later ∧
    (d'.session.channel.isOpen = true ↔
      d.session.channel.isOpen = true ∧ ∀ t ∈ later, t.isComplete = true)

theorem Silent.talks (h : d.Silent d') : d.Talks d' := by
  refine ⟨[], by rw [h.log, List.append_nil], ?_⟩
  rw [h.channel]
  exact ⟨fun hopen => ⟨hopen, fun _ => nofun⟩, And.left⟩

instance : IsPreorder Debugger Talks where
  refl d := Silent.talks (refl_of Silent d)
  trans _ _ _ h h' := by
    obtain ⟨later, hlog, hopen⟩ := h
    obtain ⟨later', hlog', hopen'⟩ := h'
    refine ⟨later ++ later', by rw [hlog', hlog, List.append_assoc], ?_⟩
    rw [hopen', hopen, List.forall_mem_append, and_assoc]

theorem Written.talks {t : Transmission} (hopen : d.session.channel.isOpen = true)
    (h : d.Written t d') : d.Talks d' := by
  refine ⟨[t], h.log, ?_⟩
  rw [h.isOpen, List.forall_mem_singleton]
  exact (and_iff_right hopen).symm

/-- What the channel was, and what became of the commands that are new in the log. -/
theorem Talks.isOpen_iff (h : d.Talks d') :
    d'.session.channel.isOpen = true ↔ d.session.channel.isOpen = true ∧
      ∀ t ∈ d'.world.transmissions.drop d.world.transmissions.length, t.isComplete = true := by
  obtain ⟨later, hlog, hopen⟩ := h
  rw [hlog, List.drop_left]
  exact hopen

end Debugger

namespace Op

open Debugger (Silent Talks)

variable {α β : Type} {G H : Error → Prop} {d : Debugger}

/-! ## What operations come to -/

/-- What an operation comes to, if `G` are the failures of records that it may meet. -/
inductive Ends (G : Error → Prop) (d : Debugger) : EStateM.Result Error Debugger α → Prop
  | ok {a : α} {d' : Debugger} (h : d.Talks d') : Ends G d (.ok a d')
  /-- A command broke the contract, and the channel is closed. -/
  | broken {e : Error} {d' : Debugger} (he : e.IsOfCommand)
      (hclosed : d'.session.channel.isOpen = false) : Ends G d (.error e d')
  | failed {e : Error} {d' : Debugger} (he : e.breaksContract = true → G e) (h : d.Talks d') :
      Ends G d (.error e d')

namespace Ends

variable {x : EStateM.Result Error Debugger α} {d₁ d₂ : Debugger} {e : Error}

theorem after (hfirst : d.Talks d₁) (h : Ends G d₁ x) : Ends G d x := by
  cases h with
  | ok h => exact .ok (trans_of Talks hfirst h)
  | broken he hclosed => exact .broken he hclosed
  | failed he h => exact .failed he (trans_of Talks hfirst h)

theorem mono (h : Ends G d x) (hGH : ∀ e, G e → H e) : Ends H d x := by
  cases h with
  | ok h => exact .ok h
  | broken he hclosed => exact .broken he hclosed
  | failed he h => exact .failed (fun hbreaks => hGH _ (he hbreaks)) h

/-- Silent steps on the way out of a failure. -/
theorem throw (h : Ends G d (.error e d₁ : EStateM.Result Error Debugger α)) (hs : d₁.Silent d₂) :
    Ends G d (.error e d₂ : EStateM.Result Error Debugger β) := by
  cases h with
  | broken he hclosed => exact .broken he (by rw [hs.channel]; exact hclosed)
  | failed he h => exact .failed he (trans_of Talks h hs.talks)

/-- A failure that does not break the contract may be passed over. -/
theorem talks (h : Ends G d (.error e d₁ : EStateM.Result Error Debugger α))
    (he : ¬ e.breaksContract = true) : d.Talks d₁ := by
  cases h with
  | broken hcommand => exact absurd hcommand.breaksContract he
  | failed _ h => exact h

end Ends

/-- The operation honours the contract at a state. -/
def Honours (G : Error → Prop) (op : Op α) (d : Debugger) : Prop :=
  Ends G d (op.run d)

theorem Honours.of_run {op : Op α} {x : EStateM.Result Error Debugger α} (h : Honours G op d)
    (hop : op.run d = x) : Ends G d x :=
  hop ▸ h

/-- The operation honours the contract everywhere, and reads no record. -/
def Fair (op : Op α) : Prop :=
  ∀ d, Honours (fun _ => False) op d

theorem Honours.bind {op : Op α} {f : α → Op β} (h : Honours G op d)
    (hf : ∀ a d', op.run d = .ok a d' → Honours G (f a) d') : Honours G (op >>= f) d := by
  cases hop : op.run d with
  | ok a d' =>
    rw [Honours, bind_of_ok hop]
    cases h.of_run hop with
    | ok h => exact (hf a d' hop).after h
  | error e d' =>
    rw [Honours, bind_of_error hop]
    exact (h.of_run hop).throw (refl_of Silent d')

namespace Fair

variable {op : Op α}

theorem honours (h : Fair op) (d : Debugger) : Honours G op d :=
  (h d).mono fun _ => False.elim

theorem bind {f : α → Op β} (h : Fair op) (hf : ∀ a, Fair (f a)) : Fair (op >>= f) := fun d =>
  (h d).bind fun a d' _ => hf a d'

theorem pure (a : α) : Fair (pure a) := fun d => .ok (refl_of Talks d)

theorem throw {e : Error} (he : e.breaksContract = false) : Fair (throw e : Op α) := fun d =>
  .failed (fun hbreaks => Bool.false_ne_true (he.symm.trans hbreaks)) (refl_of Talks d)

theorem session : Fair Op.session := fun d => .ok (refl_of Talks d)

theorem host : Fair Op.host := fun d => .ok (refl_of Talks d)

theorem world : Fair Op.world := fun d => .ok (refl_of Talks d)

theorem closed : Closed Fair where
  pure := .pure
  bind := .bind
  throw := .throw
  session := .session
  host := .host
  world := .world

theorem ite {c : Prop} [Decidable c] {op' : Op α} (h : Fair op) (h' : Fair op') :
    Fair (if c then op else op') :=
  closed.ite h h'

theorem ofExcept {x : Except Error α} (h : ∀ e, x = .error e → e.breaksContract = false) :
    Fair (Op.ofExcept x) :=
  closed.ofExcept h

theorem modifySession {f : Session → Session} (hf : ∀ s, (f s).channel = s.channel) :
    Fair (Op.modifySession f) := fun d =>
  .ok (Silent.talks ⟨rfl, hf d.session⟩)

theorem modifyHost (f : Host → Host) : Fair (Op.modifyHost f) := fun _ =>
  .ok (Silent.talks ⟨rfl, rfl⟩)

theorem modifyWorld {f : World → World} (hf : ∀ w, (f w).transmissions = w.transmissions) :
    Fair (Op.modifyWorld f) := fun d =>
  .ok (Silent.talks ⟨hf d.world, rfl⟩)

theorem notify (text : String) : Fair (notify text) :=
  .modifyHost _

end Fair

/-! ## Sending -/

theorem fair_send (c : Command) : Fair (send c) := by
  have silent : ∀ {d : Debugger} {e : Error}, e.breaksContract = false →
      Ends (fun _ => False) d (.error e d : EStateM.Result Error Debugger Unit) := fun he =>
    .failed (fun hbreaks => Bool.false_ne_true (he.symm.trans hbreaks)) (refl_of Talks _)
  intro d
  unfold Honours
  cases hs : (send c).run d with
  | ok u d' =>
    cases Sends.of_run hs with
    | delivered hopen hd hc ht => exact .ok (hd.talks hopen)
  | error e d' =>
    cases Sends.of_run hs with
    | closed hclosed => exact silent rfl
    | invalid hopen hinvalid => exact .broken (.inl ⟨c, rfl⟩) rfl
    | unflushed hopen hd hc ht => exact .failed nofun (hd.talks hopen)
    | refused hopen hd hc ht => exact .failed nofun (hd.talks hopen)
    | cut hopen hd hc ht =>
      refine .broken (.inr ⟨_, rfl⟩) ?_
      rw [hd.isOpen, Transmission.isComplete, ht]

theorem fair_continueDispatch : Fair continueDispatch :=
  fair_send _

theorem fair_setAgentLogging (enabled : Bool) : Fair (setAgentLogging enabled) := by
  refine .bind .session fun s => .bind .world fun w => .ite (.notify _) ?_
  exact .bind (.modifySession fun _ => rfl) fun _ => .bind .session fun s =>
    .ite (fair_send _) (.pure _)

theorem fair_deleteBreakpoint (number : Int32) : Fair (deleteBreakpoint number) := by
  have forget : Fair (removePending number) :=
    .bind .session fun _ => .bind (.modifySession fun _ => rfl) fun _ => .pure _
  exact .bind forget fun _ => .bind .session fun _ => .ite (fair_send _) (.pure _)

theorem fair_disableBreakpoint (number : Int32) : Fair (disableBreakpoint number) :=
  .bind (fair_send _) fun _ => .modifyHost _

/-! ## Requests -/

theorem Harmless.breaksContract {x : Except Error α} (h : Harmless x) {e : Error}
    (hx : x = .error e) : e.breaksContract = false :=
  (Bool.or_eq_false_iff.mp (h e hx)).1

/-- If looking a line up breaks the contract, then because the load map cannot be read. -/
theorem usableSegments_of_placement? {line : UInt64} {e : Error}
    (h : d.placement? line = .error e) (he : e.breaksContract = true) :
    d.usableSegments = .error e := by
  have harmless : ∀ {β : Type} {x : Except Error β}, Harmless x → x ≠ .error e := fun hx heq =>
    Bool.false_ne_true ((hx.breaksContract heq).symm.trans he)
  rcases except_bind_eq_error h with hplace | ⟨place?, -, h⟩
  · exact absurd hplace (harmless (DebugInfo.harmless_resolveLine _ _ _))
  · cases place? with
    | none => cases h
    | some place =>
      rcases except_bind_eq_error h with haddress | ⟨address?, -, h⟩
      · exact absurd haddress (harmless (DebugInfo.harmless_firstAddress _ _))
      · cases address? with
        | none => cases h
        | some address =>
          rcases except_bind_eq_error h with hsegments | ⟨segments, -, h⟩
          · exact hsegments
          · have hrest : Harmless (do
                let pc ← segments.toProcess address
                let line ← packetLine place.line
                return some (Placement.mk line address pc
                  (d.session.debugInfo.statement place.line))) :=
              .bind (Debugger.harmless_toProcess segments address) fun pc _ =>
                .bind (harmless_packetLine _) fun line _ => .ok _
            exact absurd h (harmless hrest)

theorem publishedMap_of_command? {r : Request} {e : Error} (h : d.command? r = .error e)
    (he : e.breaksContract = true) : d.publishedMap = .error e := by
  cases hr : r.location with
  | source file line statement =>
    rw [Debugger.command?_source hr] at h
    have hsegments : d.usableSegments = .error e := by
      cases hplacement : d.placement? line with
      | ok p? =>
        rw [hplacement] at h
        cases h
      | error e' =>
        rw [hplacement] at h
        cases h
        exact usableSegments_of_placement? hplacement he
    unfold Debugger.usableSegments at hsegments
    split at hsegments
    · exact hsegments
    · cases hsegments
  | unknown =>
    rw [Debugger.command?, hr] at h
    cases h
    cases he
  | kernel name =>
    rw [Debugger.command?, hr] at h
    cases h
  | anywhere name =>
    rw [Debugger.command?, hr] at h
    cases h

theorem honours_sendRequest (r : Request) (d : Debugger) :
    Honours (d.publishedMap = .error ·) (sendRequest r) d := by
  unfold Honours
  cases hs : (sendRequest r).run d with
  | ok outcome d' =>
    cases Hands.of_run hs with
    | unmapped hc hl => exact .ok hl.silent.talks
    | @sent c pc d₁ d₂ hc hl hsend =>
      cases (fair_send c d₁).of_run hsend with
      | ok h =>
        have hhost : d₂.Silent (d.sentState r d₂) := ⟨rfl, rfl⟩
        exact .ok (trans_of Talks (trans_of Talks hl.silent.talks h) hhost.talks)
  | error e d' =>
    cases Hands.of_run hs with
    | failed hc hl => exact .failed (publishedMap_of_command? hc) hl.silent.talks
    | unsent hc hl hsend =>
      have hends := (fair_send _ _).of_run hsend
      exact ((hends.throw (refl_of Silent d')).after hl.silent.talks).mono fun _ => False.elim

theorem fair_buffer (r : Request) : Fair (buffer r) := by
  have full : ∀ (p : Pending) e, p.push r = .error e → e.breaksContract = false := by
    intro p e h
    unfold Pending.push at h
    split at h
    · cases h
    · split at h
      · cases h
        rfl
      · cases h
  exact .bind .session fun s => .bind (.ofExcept (full s.pending)) fun _ =>
    .modifySession fun _ => rfl

theorem honours_resolve (r : Request) (d : Debugger) :
    Honours (d.publishedMap = .error ·) (resolve r) d := by
  unfold Honours
  rw [run_resolve]
  split
  · exact honours_sendRequest r d
  · exact (Fair.bind (fair_buffer r) fun _ => .pure _).honours d

/-- A request that was taken out of its slot can be buffered again. -/
theorem push_taken {p : Pending} {slot : Nat} {r : Request} (h : p.get? slot = some r) :
    ∃ pushed, (p.take slot).2.push r = .ok pushed := by
  unfold Pending.push
  split
  · exact ⟨_, rfl⟩
  · split
    · next hfull =>
      rw [List.findIdx?_eq_none_iff] at hfull
      have hslot : slot < p.slots.length := by
        unfold Pending.get? at h
        cases hentry : p.slots[slot]? with
        | none =>
          rw [hentry] at h
          cases h
        | some entry => exact (List.getElem?_eq_some_iff.mp hentry).1
      have hfree : none ∈ (p.take slot).2.slots := by
        unfold Pending.take
        rw [h]
        exact List.mem_set hslot none
      cases hfull none hfree
    · exact ⟨_, rfl⟩

theorem honours_flushSlot (slot : Nat) (d : Debugger) :
    Honours (d.publishedMap = .error ·) (flushSlot slot) d := by
  unfold Honours
  cases hget : d.session.pending.get? slot with
  | none =>
    rw [run_flushSlot_free hget]
    exact .ok (refl_of Talks d)
  | some r =>
    have htaken : d.Silent (without d slot) := ⟨rfl, rfl⟩
    have hsend : Honours (d.publishedMap = .error ·) (sendRequest r) (without d slot) :=
      honours_sendRequest r (without d slot)
    rw [run_flushSlot hget]
    cases hs : (sendRequest r).run (without d slot) with
    | ok outcome d₁ =>
      cases (hsend.of_run hs).after htaken.talks with
      | ok h => exact .ok h
    | error e d₁ =>
      have hends := (hsend.of_run hs).after htaken.talks
      by_cases hstops : stopsFlush e = true
      · simp only [if_pos hstops]
        have hpending : d₁.session.pending = (d.session.pending.take slot).2 := by
          rw [← final_of_error hs]
          exact pending_sendRequest r (without d slot)
        obtain ⟨⟨back, pending⟩, hpush⟩ := push_taken hget
        have hbuffer : (buffer r).run d₁ = .ok () (d₁.withPending pending) := by
          rw [run_buffer, hpending, hpush]
        rw [bind_of_ok hbuffer, run_throw]
        exact hends.throw ⟨rfl, rfl⟩
      · simp only [if_neg hstops]
        exact .ok (hends.talks fun hbreaks => hstops (by simp [stopsFlush, hbreaks]))

/-- Steady steps do not change the published load map. -/
theorem publishedMap_of_steady {d' : Debugger} (h : d.Steady d') :
    d'.publishedMap = d.publishedMap := by
  unfold Debugger.publishedMap
  rw [h.memory]

theorem honours_flushSlots (slots : List Nat) (d : Debugger) :
    Honours (d.publishedMap = .error ·) (flushSlots slots) d := by
  induction slots generalizing d with
  | nil => exact (Fair.pure 0).honours d
  | cons slot slots ih =>
    refine .bind (honours_flushSlot slot d) fun sent d₁ hrun => ?_
    rw [← publishedMap_of_steady ((steady_flushSlot slot).of_ok hrun)]
    exact .bind (ih d₁) fun others d₂ _ => (Fair.pure _).honours d₂

theorem honours_flushPending (d : Debugger) :
    Honours (d.publishedMap = .error ·) flushPending d := by
  refine .bind (Fair.session.honours d) fun s d₁ hrun => ?_
  cases hrun
  exact honours_flushSlots _ d

theorem honours_adjust (number : Int32) (d : Debugger) :
    Honours (d.publishedMap = .error ·) (adjust number) d := by
  unfold Honours
  cases hplaced : (d.host.breakpoints.get? number).bind placedRequest? with
  | none =>
    rw [run_adjust_unplaced hplaced]
    exact .ok (refl_of Talks d)
  | some r =>
    have hforget : d.Silent (forgetting d number) := ⟨rfl, rfl⟩
    have hresolve : Honours (d.publishedMap = .error ·) (resolve r) (forgetting d number) :=
      honours_resolve r (forgetting d number)
    rw [run_adjust hplaced]
    cases hs : (resolve r).run (forgetting d number) with
    | ok outcome d₁ =>
      cases (hresolve.of_run hs).after hforget.talks with
      | ok h => exact .ok h
    | error e d₁ =>
      have hends := (hresolve.of_run hs).after hforget.talks
      by_cases hbreaks : e.breaksContract = true
      · simp only [if_pos hbreaks]
        exact hends.throw (refl_of Silent d₁)
      · simp only [if_neg hbreaks]
        exact .ok (hends.talks hbreaks)

theorem honours_adjustEach (numbers : List Int32) (d : Debugger) :
    Honours (d.publishedMap = .error ·) (adjustEach numbers) d := by
  induction numbers generalizing d with
  | nil => exact (Fair.pure 0).honours d
  | cons number numbers ih =>
    refine .bind (honours_adjust number d) fun adjusted d₁ hrun => ?_
    rw [← publishedMap_of_steady ((steady_adjust number).of_ok hrun)]
    exact .bind (ih d₁) fun others d₂ _ => (Fair.pure _).honours d₂

theorem honours_adjustAll (d : Debugger) :
    Honours (d.publishedMap = .error ·) adjustAll d := by
  refine .bind (Fair.host.honours d) fun h d₁ hrun => ?_
  cases hrun
  exact honours_adjustEach _ d

theorem honours_onNewBinary (launch : Launch) (d : Debugger) :
    Honours (d.publishedMap = .error ·) (onNewBinary launch) d := by
  have hmap : ((prepare launch).final d).publishedMap = d.publishedMap := by
    unfold Debugger.publishedMap
    rw [memory_prepare]
  have hprepare := (total_prepare launch).run d
  unfold Honours
  rw [onNewBinary_eq, bind_of_ok hprepare, ← hmap]
  refine Ends.after (silent_prepare launch d).talks ?_
  refine Honours.bind (honours_adjustAll _) fun adjusted d₁ hrun => ?_
  rw [← publishedMap_of_steady ((respects_adjustAll steady_adjust).of_ok hrun)]
  exact .bind (honours_flushPending d₁) fun _ d₂ _ => (Fair.pure ()).honours d₂

end Op

end GpuDebug
