import GpuDebug.Session.Events
import GpuDebug.Session.Lifecycle
import GpuDebug.Session.Stepping
import GpuDebug.Session.Stop
import Mathlib.Order.Defs.Unbundled

/-!
# Running operations

An operation takes a state to a result and a state, and what it did before it failed stays done.
Statements about what an operation leaves behind are therefore statements about the state after
it, whether it failed or not.

* `Op.final`: the state after an operation.
* `Op.Total`: an operation that does not fail.
* `Op.Respects R`: every run of the operation is a step of the relation `R`. If `R` is a preorder,
  operations built from such operations are of this kind (`Op.Respects.bind`).
* `Op.Preserves P`: every run of the operation that starts in `P` ends in `P`, which is the case
  of the preorder "if `P` holds before, it holds after".
* `Debugger.showing`: the state in which the user was shown some lines.
-/

namespace GpuDebug

/-- A computation in sequence gives a value only if both of its parts do. -/
theorem except_bind_eq_ok {ε α β : Type} {x : Except ε α} {f : α → Except ε β} {b : β}
    (h : (x >>= f) = .ok b) : ∃ a, x = .ok a ∧ f a = .ok b := by
  cases x with
  | error e => cases h
  | ok a => exact ⟨a, rfl, h⟩

theorem except_bind_eq_error {ε α β : Type} {x : Except ε α} {f : α → Except ε β} {e : ε}
    (h : (x >>= f) = .error e) : x = .error e ∨ ∃ a, x = .ok a ∧ f a = .error e := by
  cases x with
  | error e' =>
    cases h
    exact .inl rfl
  | ok a => exact .inr ⟨a, rfl, h⟩

namespace Op

variable {α β : Type}

/-! ## The primitives at a state -/

theorem bind_of_ok {op : Op α} {f : α → Op β} {d d' : Debugger} {a : α}
    (h : op.run d = .ok a d') : (op >>= f).run d = (f a).run d' := by
  rw [EStateM.run_bind, h]

theorem bind_of_error {op : Op α} {f : α → Op β} {d d' : Debugger} {e : Error}
    (h : op.run d = .error e d') : (op >>= f).run d = .error e d' := by
  rw [EStateM.run_bind, h]

/-- A sequence ends well only if both of its parts do. -/
theorem bind_eq_ok {op : Op α} {f : α → Op β} {d d' : Debugger} {b : β}
    (h : (op >>= f).run d = .ok b d') :
    ∃ a d₁, op.run d = .ok a d₁ ∧ (f a).run d₁ = .ok b d' := by
  cases hop : op.run d with
  | ok a d₁ =>
    rw [bind_of_ok hop] at h
    exact ⟨a, d₁, rfl, h⟩
  | error e d₁ =>
    rw [bind_of_error hop] at h
    cases h

@[simp] theorem run_throw (e : Error) (d : Debugger) : (throw e : Op α).run d = .error e d := rfl

@[simp] theorem run_session (d : Debugger) : session.run d = .ok d.session d := rfl

@[simp] theorem run_host (d : Debugger) : host.run d = .ok d.host d := rfl

@[simp] theorem run_world (d : Debugger) : world.run d = .ok d.world d := rfl

@[simp] theorem run_modifySession (f : Session → Session) (d : Debugger) :
    (modifySession f).run d = .ok () { d with session := f d.session } := rfl

@[simp] theorem run_modifyHost (f : Host → Host) (d : Debugger) :
    (modifyHost f).run d = .ok () { d with host := f d.host } := rfl

@[simp] theorem run_modifyWorld (f : World → World) (d : Debugger) :
    (modifyWorld f).run d = .ok () { d with world := f d.world } := rfl

@[simp] theorem run_ofExcept_ok (a : α) (d : Debugger) : (ofExcept (.ok a)).run d = .ok a d := rfl

@[simp] theorem run_ofExcept_error (e : Error) (d : Debugger) :
    (ofExcept (.error e) : Op α).run d = .error e d := rfl

theorem attempt_of_ok {op : Op α} {d d' : Debugger} {a : α} (h : op.run d = .ok a d') :
    (attempt op).run d = .ok (.ok a) d' := by
  unfold EStateM.run at h ⊢
  rw [attempt, h]

theorem attempt_of_error {op : Op α} {d d' : Debugger} {e : Error} (h : op.run d = .error e d') :
    (attempt op).run d = .ok (.error e) d' := by
  unfold EStateM.run at h ⊢
  rw [attempt, h]

/-! ## The state after an operation -/

/-- The state after an operation, whether it failed or not. -/
def final (op : Op α) (d : Debugger) : Debugger :=
  match op.run d with
  | .ok _ d => d
  | .error _ d => d

theorem final_of_ok {op : Op α} {d d' : Debugger} {a : α} (h : op.run d = .ok a d') :
    op.final d = d' := by
  rw [final, h]

theorem final_of_error {op : Op α} {d d' : Debugger} {e : Error} (h : op.run d = .error e d') :
    op.final d = d' := by
  rw [final, h]

theorem final_bind_of_ok {op : Op α} {f : α → Op β} {d d' : Debugger} {a : α}
    (h : op.run d = .ok a d') : (op >>= f).final d = (f a).final d' := by
  unfold final
  rw [bind_of_ok h]

/-- A second operation that leaves the state as it is. -/
theorem final_bind_of_final_eq {f : α → Op β} (hf : ∀ a d, (f a).final d = d) (op : Op α)
    (d : Debugger) : (op >>= f).final d = op.final d := by
  cases hop : op.run d with
  | ok a d' => rw [final_bind_of_ok hop, hf, final_of_ok hop]
  | error e d' => rw [final_of_error (bind_of_error hop), final_of_error hop]

@[simp] theorem final_ofExcept (x : Except Error α) (d : Debugger) : (ofExcept x).final d = d := by
  cases x <;> rfl

@[simp] theorem final_attempt (op : Op α) (d : Debugger) : (attempt op).final d = op.final d := by
  cases h : op.run d with
  | ok a d' => rw [final_of_ok (attempt_of_ok h), final_of_ok h]
  | error e d' => rw [final_of_ok (attempt_of_error h), final_of_error h]

/-! ## Operations that do not fail -/

/-- No run of the operation fails. -/
def Total (op : Op α) : Prop :=
  ∀ d, ∃ a d', op.run d = .ok a d'

namespace Total

variable {op : Op α}

theorem pure (a : α) : Total (pure a) := fun d => ⟨a, d, rfl⟩

theorem attempt (op : Op α) : Total (Op.attempt op) := by
  intro d
  cases h : op.run d with
  | ok a d' => exact ⟨_, d', attempt_of_ok h⟩
  | error e d' => exact ⟨_, d', attempt_of_error h⟩

theorem bind {f : α → Op β} (h : Total op) (hf : ∀ a, Total (f a)) : Total (op >>= f) := by
  intro d
  obtain ⟨a, d₁, hop⟩ := h d
  obtain ⟨b, d₂, hrest⟩ := hf a d₁
  refine ⟨b, d₂, ?_⟩
  rw [bind_of_ok hop, hrest]

theorem ite {c : Prop} [Decidable c] {op' : Op α} (h : Total op) (h' : Total op') :
    Total (if c then op else op') :=
  iteInduction (motive := Total) (fun _ => h) fun _ => h'

theorem run {op : Op Unit} (h : Total op) (d : Debugger) : op.run d = .ok () (op.final d) := by
  obtain ⟨u, d', hop⟩ := h d
  rw [final_of_ok hop, hop]

end Total

/-! ## Relations between the states before and after -/

/-- Every run of the operation, failed or not, is a step of `R`. -/
def Respects (R : Debugger → Debugger → Prop) (op : Op α) : Prop :=
  ∀ d, R d (op.final d)

namespace Respects

variable {R : Debugger → Debugger → Prop} {op : Op α}

theorem of_ok (h : Respects R op) {d d' : Debugger} {a : α} (hop : op.run d = .ok a d') : R d d' :=
  final_of_ok hop ▸ h d

theorem of_error (h : Respects R op) {d d' : Debugger} {e : Error} (hop : op.run d = .error e d') :
    R d d' :=
  final_of_error hop ▸ h d

theorem mono {S : Debugger → Debugger → Prop} (h : Respects R op)
    (hRS : ∀ d d', R d d' → S d d') : Respects S op :=
  fun d => hRS _ _ (h d)

theorem attempt (h : Respects R op) : Respects R (Op.attempt op) := by
  intro d
  rw [final_attempt]
  exact h d

/-- An operation that only reads the state and computes is a step of every preorder. -/
theorem of_final_eq [IsPreorder Debugger R] (h : ∀ d, op.final d = d) : Respects R op := by
  intro d
  rw [h d]
  exact refl_of R d

theorem ite {c : Prop} [Decidable c] {op' : Op α} (h : Respects R op) (h' : Respects R op') :
    Respects R (if c then op else op') :=
  iteInduction (motive := Respects R) (fun _ => h) fun _ => h'

variable [IsPreorder Debugger R]

theorem pure (a : α) : Respects R (pure a) := of_final_eq fun _ => rfl

theorem throw (e : Error) : Respects R (throw e : Op α) := of_final_eq fun _ => rfl

theorem ofExcept (x : Except Error α) : Respects R (Op.ofExcept x) := of_final_eq (final_ofExcept x)

theorem session : Respects R Op.session := of_final_eq fun _ => rfl

theorem host : Respects R Op.host := of_final_eq fun _ => rfl

theorem world : Respects R Op.world := of_final_eq fun _ => rfl

/-- Operations in sequence. The second one has to be looked at only where the first one ends
well. -/
theorem bind_of_ok {f : α → Op β} (h : Respects R op)
    (hf : ∀ d a d', op.run d = .ok a d' → R d' ((f a).final d')) : Respects R (op >>= f) := by
  intro d
  cases hop : op.run d with
  | ok a d' =>
    rw [final_bind_of_ok hop]
    exact trans_of R (h.of_ok hop) (hf d a d' hop)
  | error e d' =>
    rw [final_of_error (bind_of_error hop)]
    exact h.of_error hop

theorem bind {f : α → Op β} (h : Respects R op) (hf : ∀ a, Respects R (f a)) :
    Respects R (op >>= f) :=
  h.bind_of_ok fun _ a d' _ => hf a d'

end Respects

/-! ## Properties that stay -/

/-- Every run of the operation, failed or not, keeps `P`. -/
def Preserves (P : Debugger → Prop) (op : Op α) : Prop :=
  Respects (fun d d' => P d → P d') op

instance (P : Debugger → Prop) : IsPreorder Debugger fun d d' => P d → P d' where
  refl _ := id
  trans _ _ _ h h' := h' ∘ h

end Op

/-! ## What the user is shown -/

namespace Debugger

/-- The state in which the user was shown some lines. -/
def showing (d : Debugger) (lines : List String) : Debugger :=
  { d with host := { d.host with notices := d.host.notices ++ lines } }

theorem showing_nil (d : Debugger) : d.showing [] = d := by
  rw [showing, List.append_nil]

theorem showing_showing (d : Debugger) (lines lines' : List String) :
    (d.showing lines).showing lines' = d.showing (lines ++ lines') := by
  unfold showing
  rw [List.append_assoc]

end Debugger

namespace Op

theorem run_notify (text : String) (d : Debugger) :
    (notify text).run d = .ok () (d.showing [noticeMark ++ text]) := rfl

theorem run_forM_notify (lines : List String) (d : Debugger) :
    (lines.forM notify).run d = .ok () (d.showing (lines.map (noticeMark ++ ·))) := by
  induction lines generalizing d with
  | nil =>
    rw [List.map_nil, Debugger.showing_nil]
    rfl
  | cons line lines ih =>
    change (notify line >>= fun _ => lines.forM notify).run d = _
    rw [bind_of_ok (run_notify line d), ih, Debugger.showing_showing]
    rfl

end Op

end GpuDebug
