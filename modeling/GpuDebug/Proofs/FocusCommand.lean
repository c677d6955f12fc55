import GpuDebug.Proofs.ArgumentForms
import GpuDebug.Proofs.FocusMoves

/-!
# The focus command

The user moves the focus of the debugged program and that of the debugger by one command. The target
is checked, then the program is told by an expression, and only then the debugger's focus moves,
which has a check of its own. That check never refuses what the program was told.

* `Numeral.int_repr_inj`, `Op.focusExpression_inj`: a written number is of one number only, so an
  expression names one target.
* `Op.Switches`: the ways in which the command can end; `Op.switchFocus_switches` says that it ends
  in one of them.
* `Op.switchFocus_moves_both`: the main result.
-/

namespace GpuDebug

/-! ## Written numbers -/

namespace Numeral

/-- A number is written with digits only. -/
theorem notMem_repr {c : Char} (hc : digit? 10 c = none) (n : Nat) : c ∉ n.repr.toList := by
  rw [Nat.toList_repr]
  exact (denotes_toDigits (by decide) n).notMem (by decide) hc

/-- A number that is written is read back. -/
theorem value?_repr (n : Nat) : value? 10 n.repr.toList = some n := by
  rw [Nat.toList_repr, value?_eq_some_iff (by decide)]
  exact denotes_toDigits (by decide) n

theorem repr_inj {m n : Nat} (h : m.repr = n.repr) : m = n := by
  have hread : some m = some n := by rw [← value?_repr m, h, value?_repr n]
  exact Option.some.inj hread

/-- The sign sets negative numbers apart. -/
theorem sign_append_ne (m n : Nat) : "-" ++ m.repr ≠ n.repr := by
  intro h
  refine notMem_repr (c := '-') (by decide) n ?_
  rw [← h, String.toList_append]
  exact List.mem_append_left _ (by decide)

theorem int_repr_inj {i j : Int} (h : i.repr = j.repr) : i = j := by
  rw [Int.repr_eq_if, Int.repr_eq_if] at h
  by_cases hi : 0 ≤ i <;> by_cases hj : 0 ≤ j
  · rw [if_pos hi, if_pos hj] at h
    have hsame : i.toNat = j.toNat := repr_inj h
    omega
  · rw [if_pos hi, if_neg hj] at h
    exact absurd h.symm (sign_append_ne _ _)
  · rw [if_neg hi, if_pos hj] at h
    exact absurd h (sign_append_ne _ _)
  · rw [if_neg hi, if_neg hj] at h
    have hsame : (-i).toNat = (-j).toNat := repr_inj ((String.append_right_inj "-").mp h)
    omega

end Numeral

/-! ## Coordinates in an expression -/

namespace Dim

/-- There is no comma in a component. -/
theorem comma_notMem_toString (n : Int32) : ',' ∉ (toString n).toList := by
  change ',' ∉ n.toInt.repr.toList
  rw [Int.repr_eq_if]
  split
  · exact Numeral.notMem_repr (by decide) _
  · rw [String.toList_append, List.mem_append, not_or]
    exact ⟨by decide, Numeral.notMem_repr (by decide) _⟩

theorem toString_inj {m n : Int32} : (toString m).toList = (toString n).toList ↔ m = n := by
  rw [String.toList_inj, ← Int32.toInt_inj]
  exact ⟨Numeral.int_repr_inj, congrArg Int.repr⟩

end Dim

namespace Op

theorem toList_focusExpression (function : String) (f : Focus) :
    (focusExpression function f).toList =
      function.toList ++ '(' :: ((toString f.workGroup.x).toList ++
        ',' :: ((toString f.workGroup.y).toList ++ ',' :: ((toString f.workGroup.z).toList ++
        ',' :: ((toString f.workItem.x).toList ++ ',' :: ((toString f.workItem.y).toList ++
        ',' :: ((toString f.workItem.z).toList ++ [')'])))))) := by
  have hopen : (toString "(").toList = ['('] := by simp [toString]
  have hcomma : (toString ",").toList = [','] := by simp [toString]
  have hclose : (toString ")").toList = [')'] := by simp [toString]
  have hfunction : (toString function).toList = function.toList := rfl
  simp [focusExpression, String.toList_append, Dim.toList_text, hopen, hcomma, hclose, hfunction]

/-- **An expression names one target.** -/
theorem focusExpression_inj {function : String} {f g : Focus} :
    focusExpression function f = focusExpression function g ↔ f = g := by
  rw [← String.toList_inj, toList_focusExpression, toList_focusExpression]
  simp only [List.append_cancel_left_eq, List.cons.injEq, true_and,
    Text.append_cons_inj (Dim.comma_notMem_toString _) (Dim.comma_notMem_toString _),
    List.append_cancel_right_eq, Dim.toString_inj]
  obtain ⟨⟨x, y, z⟩, ⟨x', y', z'⟩⟩ := f
  obtain ⟨⟨a, b, c⟩, ⟨a', b', c'⟩⟩ := g
  simp [and_assoc]

end Op

/-! ## The course of the command -/

theorem Host.evaluate_eq_ok_iff {h host : Host} {expression : String} :
    h.evaluate expression = .ok host ↔
      h.evaluationFails = false ∧
        host = { h with expressions := h.expressions ++ [expression] } := by
  unfold Host.evaluate
  cases h.evaluationFails <;> simp [eq_comm]

/-- A move to a lane that executes is not refused, whether the focus was known or not. -/
theorem Focus.move_of_isActive (f : Focus) {target : Focus} {waves : List Wave}
    (h : Wave.isActive waves target.workGroup target.workItem = true) :
    (f.move target waves).1 ≠ .rejected ∧ (f.move target waves).2 = target := by
  unfold move
  by_cases hunknown : f.isUnknown = true
  · simp [hunknown]
  · by_cases hsame : f = target
    · subst hsame
      simp [hunknown, h]
    · simp [hunknown, h, hsame]

namespace Op

variable {arguments : String} {d : Debugger} {target : Focus} {waves : List Wave}

/-- The line about a target that does not execute. -/
def inactiveNotice : String := "work-group and work-item provided not active"

/-- The ways in which the focus command can end: the text is refused, or the waves cannot be read,
or the target does not execute, or the program cannot be told, or it is told and the focus
follows. -/
inductive Switches (arguments : String) (d : Debugger) :
    EStateM.Result Error Debugger FocusChange → Prop
  | misspelled {e : Error} : Focus.parse arguments = .error e →
    Switches arguments d (.error e d)
  | unreadable {target : Focus} {e : Error} : Focus.parse arguments = .ok target →
    d.publishedWaves = .error e → Switches arguments d (.error e d)
  | inactive {target : Focus} {waves : List Wave} : Focus.parse arguments = .ok target →
    d.publishedWaves = .ok waves →
    Wave.isActive waves target.workGroup target.workItem = false →
    Switches arguments d (.ok .rejected (d.showing [noticeMark ++ inactiveNotice]))
  | untold {target : Focus} {waves : List Wave} {e : Error} :
    Focus.parse arguments = .ok target → d.publishedWaves = .ok waves →
    Wave.isActive waves target.workGroup target.workItem = true →
    d.host.evaluate (focusExpression d.session.config.functions.setFocus target) = .error e →
    Switches arguments d (.error e d)
  | told {target : Focus} {waves : List Wave} {host : Host} {change : FocusChange}
    {lines : List String} : Focus.parse arguments = .ok target → d.publishedWaves = .ok waves →
    Wave.isActive waves target.workGroup target.workItem = true →
    d.host.evaluate (focusExpression d.session.config.functions.setFocus target) = .ok host →
    change ≠ .rejected →
    Switches arguments d (.ok change ((focusing { d with host } target).showing lines))

/-- A move, and the lines that tell the user about it. -/
theorem run_moveFocus_eq (target : Focus) (waves : List Wave) (d : Debugger) : ∃ lines,
    (moveFocus target waves).run d = .ok (d.session.focus.move target waves).1
      ((focusing d (d.session.focus.move target waves).2).showing lines) := by
  unfold moveFocus
  rw [bind_of_ok (run_session d), bind_of_ok (run_modifySession _ d)]
  dsimp only
  split
  · exact ⟨[noticeMark ++ (d.session.focus.move target waves).2.announcement], rfl⟩
  · exact ⟨[], by rw [Debugger.showing_nil]; rfl⟩

theorem run_evaluate_of_ok {expression : String} {host : Host}
    (h : d.host.evaluate expression = .ok host) :
    (evaluate expression).run d = .ok () { d with host } := by
  unfold evaluate
  rw [bind_of_ok (run_host d), h]
  rfl

theorem run_evaluate_of_error {expression : String} {e : Error}
    (h : d.host.evaluate expression = .error e) :
    (evaluate expression).run d = .error e d := by
  unfold evaluate
  rw [bind_of_ok (run_host d), h]
  rfl

/-- **Every run of the command ends in one of these ways.** -/
theorem switchFocus_switches (arguments : String) (d : Debugger) :
    Switches arguments d ((switchFocus arguments).run d) := by
  unfold switchFocus
  cases htarget : Focus.parse arguments with
  | error e => exact .misspelled htarget
  | ok target =>
    rw [bind_of_ok (run_ofExcept_ok target d)]
    cases hwaves : d.publishedWaves with
    | error e =>
      rw [bind_of_error (run_readWaves_of_error hwaves)]
      exact .unreadable htarget hwaves
    | ok waves =>
      rw [bind_of_ok (run_readWaves_of_ok hwaves)]
      cases hactive : Wave.isActive waves target.workGroup target.workItem with
      | false => exact .inactive htarget hwaves hactive
      | true =>
        simp only [Bool.not_true, Bool.false_eq_true, if_false]
        rw [bind_of_ok (run_session d)]
        cases hevaluate : d.host.evaluate
            (focusExpression d.session.config.functions.setFocus target) with
        | error e =>
          rw [bind_of_error (run_evaluate_of_error hevaluate)]
          exact .untold htarget hwaves hactive hevaluate
        | ok host =>
          rw [bind_of_ok (run_evaluate_of_ok hevaluate)]
          obtain ⟨lines, hmove⟩ := run_moveFocus_eq target waves { d with host }
          obtain ⟨hchange, hfocus⟩ := d.session.focus.move_of_isActive hactive
          rw [hmove]
          dsimp only
          rw [hfocus]
          exact .told htarget hwaves hactive hevaluate hchange

/-- **The focus of the program and the focus of the debugger move together.** If the focus command
gives a change that is not a refusal, then exactly one expression was evaluated, it names the target
that the text gives and no other one, the target is a lane that executes in the waves that the agent
publishes, and it is in focus afterwards. If the command is refused or fails, the focus stays where
it was and no expression was evaluated. The target is not refused exactly if the text gives one, the
waves can be read, the target executes in them and the program can evaluate expressions. -/
theorem switchFocus_moves_both (arguments : String) (d : Debugger) :
    (∀ change d', (switchFocus arguments).run d = .ok change d' → change ≠ .rejected →
      ∃ target waves expression, Focus.parse arguments = .ok target ∧
        d.publishedWaves = .ok waves ∧
        (∃ w ∈ waves, w.hasActiveLane target.workGroup target.workItem = true) ∧
        d'.host.expressions = d.host.expressions ++ [expression] ∧
        (∀ f, expression = focusExpression d.session.config.functions.setFocus f ↔ f = target) ∧
        d'.session.focus = target) ∧
      (∀ d', (switchFocus arguments).run d = .ok .rejected d' ∨
          (∃ e, (switchFocus arguments).run d = .error e d') →
        d'.session.focus = d.session.focus ∧ d'.host.expressions = d.host.expressions) ∧
      ((∃ change d', (switchFocus arguments).run d = .ok change d' ∧ change ≠ .rejected) ↔
        ∃ target waves, Focus.parse arguments = .ok target ∧ d.publishedWaves = .ok waves ∧
          (∃ w ∈ waves, w.hasActiveLane target.workGroup target.workItem = true) ∧
          d.host.evaluationFails = false) := by
  have h := switchFocus_switches arguments d
  generalize (switchFocus arguments).run d = result at h
  refine ⟨fun change d' hresult hchange => ?_, fun d' hresult => ?_, ?_, ?_⟩
  · subst hresult
    cases h with
    | inactive => exact absurd rfl hchange
    | told htarget hwaves hactive hevaluate =>
      obtain ⟨-, rfl⟩ := Host.evaluate_eq_ok_iff.mp hevaluate
      refine ⟨_, _, _, htarget, hwaves, List.any_eq_true.mp hactive, rfl, fun f => ?_, rfl⟩
      rw [focusExpression_inj, eq_comm]
  · rcases hresult with rfl | ⟨e, rfl⟩
    · cases h with
      | inactive => exact ⟨rfl, rfl⟩
      | told _ _ _ _ hchange => exact absurd rfl hchange
    · cases h <;> exact ⟨rfl, rfl⟩
  · rintro ⟨change, d', rfl, hchange⟩
    cases h with
    | inactive => exact absurd rfl hchange
    | told htarget hwaves hactive hevaluate =>
      exact ⟨_, _, htarget, hwaves, List.any_eq_true.mp hactive,
        (Host.evaluate_eq_ok_iff.mp hevaluate).1⟩
  · rintro ⟨target, waves, htarget, hwaves, hactive, hworks⟩
    have hactive : Wave.isActive waves target.workGroup target.workItem = true :=
      List.any_eq_true.mpr hactive
    cases h with
    | misspelled h => cases htarget.symm.trans h
    | unreadable _ h => cases hwaves.symm.trans h
    | inactive h h' hidle =>
      cases htarget.symm.trans h
      cases hwaves.symm.trans h'
      cases hactive.symm.trans hidle
    | untold h _ _ hfails =>
      rw [Host.evaluate_eq_ok_iff.mpr ⟨hworks, rfl⟩] at hfails
      cases hfails
    | told _ _ _ _ hchange => exact ⟨_, _, rfl, hchange⟩

/-- The user moves the focus to the other lane of the wave. -/
theorem other_lane_chosen :
    Focus.parse "wg:0,0,0 wi:1,0,0" = .ok ⟨⟨0, 0, 0⟩, ⟨1, 0, 0⟩⟩ ∧
      ∃ change d', (switchFocus "wg:0,0,0 wi:1,0,0").run Action.paused = .ok change d' ∧
        change ≠ .rejected ∧ d'.session.focus = ⟨⟨0, 0, 0⟩, ⟨1, 0, 0⟩⟩ := by
  have htarget : Focus.parse "wg:0,0,0 wi:1,0,0" = .ok ⟨⟨0, 0, 0⟩, ⟨1, 0, 0⟩⟩ := by
    decide +kernel
  obtain ⟨hmoves, -, hexact⟩ := switchFocus_moves_both "wg:0,0,0 wi:1,0,0" Action.paused
  obtain ⟨change, d', hrun, hchange⟩ := hexact.mpr ⟨_, _, htarget, Action.publishedWaves_paused,
    ⟨Action.paired, List.mem_singleton_self _, by decide⟩, by decide +kernel⟩
  obtain ⟨target, waves, expression, hparse, -, -, -, -, hfocus⟩ := hmoves change d' hrun hchange
  cases htarget.symm.trans hparse
  exact ⟨htarget, change, d', hrun, hchange, hfocus⟩

end Op

end GpuDebug
