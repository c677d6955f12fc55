import GpuDebug.Proofs.DebugHistory

/-!
# Operations that leave the focus alone

Users are told of every new focus by a line that starts in a way of its own. All operations but
those that follow the agent, the user or a stop leave the focus where it is, and show no such line.

* `Focus.announces`: whether a line announces a focus.
* `Debugger.Still`: a step that leaves the focus alone.
* `Op.still_sendRequest`, `Op.still_dispatchNotification` and others: one lemma for each operation;
  `Action.still_run` puts them together.
-/

namespace GpuDebug

/-! ## Lines that announce a focus -/

namespace Focus

/-- How the lines start that announce a focus. -/
def announcementStart : String := "Switching to "

/-- Whether a line that is shown announces a focus. -/
def announces (line : String) : Bool :=
  (Op.noticeMark ++ announcementStart).toList.isPrefixOf line.toList

theorem announces_mark (text : String) :
    announces (Op.noticeMark ++ text) = announcementStart.toList.isPrefixOf text.toList := by
  rw [announces, Bool.eq_iff_iff, List.isPrefixOf_iff_prefix, List.isPrefixOf_iff_prefix,
    String.toList_append, String.toList_append, List.prefix_append_right_inj]

theorem announces_announcement (f : Focus) :
    announces (Op.noticeMark ++ f.announcement) = true := by
  have hstart : announcementStart.toList <+: (toString "Switching to work-group (").toList := by
    simp [toString, announcementStart]
  rw [announces_mark, List.isPrefixOf_iff_prefix]
  unfold announcement
  simp only [String.toList_append, List.append_assoc]
  exact hstart.trans (List.prefix_append _ _)

/-- A text that starts with another letter announces no focus. -/
theorem announces_of_head? {text : String} {c : Char} (hhead : text.toList.head? = some c)
    (hc : c ≠ 'S') : announces (Op.noticeMark ++ text) = false := by
  rw [announces_mark]
  cases htext : text.toList with
  | nil => rfl
  | cons first others =>
    rw [htext] at hhead
    cases hhead
    have hne : ('S' == c) = false := beq_eq_false_iff_ne.mpr hc.symm
    have hstart : announcementStart.toList = 'S' :: "witching to ".toList := by
      simp [announcementStart]
    rw [hstart, List.isPrefixOf_cons_cons, hne, Bool.false_and]

theorem head?_append {s t : String} {c : Char} (h : s.toList.head? = some c) :
    (s ++ t).toList.head? = some c := by
  rw [String.toList_append, List.head?_append, h, Option.some_or]

/-- The line about a source line without code carries another mark. -/
theorem announces_unmappedNotice (line : UInt64) (file : String) :
    announces (Op.unmappedNotice line file) = false := by
  have hmark : (Op.noticeMark ++ announcementStart).toList =
      '[' :: 'R' :: "OCm-gdb]: Switching to ".toList := by
    simp [Op.noticeMark, announcementStart]
  have hnotice : (toString "[rocm-gdb: No line ").toList =
      '[' :: 'r' :: "ocm-gdb: No line ".toList := by simp [toString]
  have hne : ('R' == 'r') = false := rfl
  unfold announces Op.unmappedNotice
  simp only [hmark, String.toList_append, hnotice, List.cons_append, List.isPrefixOf_cons_cons, hne,
    Bool.false_and, Bool.and_false]

end Focus

/-! ## Steps that leave the focus alone -/

namespace Debugger

/-- The step leaves the focus where it is, and no line that it shows announces one. -/
structure Still (d d' : Debugger) : Prop where
  focus : d'.session.focus = d.session.focus
  notices : ∃ later, d'.host.notices = d.host.notices ++ later ∧
    ∀ line ∈ later, Focus.announces line = false

namespace Still

variable {d d' : Debugger}

/-- A step that shows nothing. -/
theorem of_eq (hfocus : d'.session.focus = d.session.focus)
    (hnotices : d'.host.notices = d.host.notices) : d.Still d' :=
  ⟨hfocus, [], by rw [hnotices, List.append_nil], nofun⟩

instance : IsPreorder Debugger Still where
  refl _ := .of_eq rfl rfl
  trans _ _ _ h h' := by
    obtain ⟨later, hlog, hlater⟩ := h.notices
    obtain ⟨later', hlog', hlater'⟩ := h'.notices
    refine ⟨h'.focus.trans h.focus, later ++ later', ?_, fun line hline => ?_⟩
    · rw [hlog', hlog, List.append_assoc]
    · rcases List.mem_append.mp hline with hline | hline
      · exact hlater line hline
      · exact hlater' line hline

end Still

end Debugger

theorem Host.notices_update (h : Host) (number : Int32) (f : Breakpoint → Breakpoint) :
    (h.update number f).notices = h.notices := by
  unfold update
  split <;> rfl

namespace Op

open Debugger (Still)

variable {α : Type}

/-! ## The primitives -/

theorem still_modifySession {f : Session → Session} (hf : ∀ s, (f s).focus = s.focus) :
    Respects Still (modifySession f) :=
  fun d => .of_eq (hf d.session) rfl

theorem still_modifyHost {f : Host → Host} (hf : ∀ h, (f h).notices = h.notices) :
    Respects Still (modifyHost f) :=
  fun d => .of_eq rfl (hf d.host)

theorem still_modifyWorld (f : World → World) : Respects Still (modifyWorld f) :=
  fun _ => .of_eq rfl rfl

theorem still_modifyAgent (f : AgentState → AgentState) : Respects Still (modifyAgent f) :=
  still_modifySession fun _ => rfl

/-- Showing a line. -/
theorem still_display {line : String} (hline : Focus.announces line = false) :
    Respects Still (modifyHost (·.display line)) := fun _ =>
  ⟨rfl, [line], rfl, fun _ h => List.mem_singleton.mp h ▸ hline⟩

theorem still_notify {text : String} {c : Char} (hhead : text.toList.head? = some c)
    (hc : c ≠ 'S') : Respects Still (notify text) :=
  still_display (Focus.announces_of_head? hhead hc)

theorem still_send (c : Command) : Respects Still (send c) := by
  intro d
  rcases send_final c d with h | ⟨-, h | ⟨t, -, h⟩⟩
  · rw [h]
    exact refl_of Still d
  · rw [h]
    exact .of_eq rfl rfl
  · exact .of_eq (by rw [h.session]) (by rw [h.host])

theorem still_readWaves : Respects Still readWaves :=
  .of_final_eq final_readWaves

theorem still_evaluate (expression : String) : Respects Still (evaluate expression) := by
  intro d
  unfold evaluate Host.evaluate final
  simp only [EStateM.run_bind, run_host]
  by_cases hfails : d.host.evaluationFails = true
  · simp only [if_pos hfails, run_ofExcept_error]
    exact refl_of Still d
  · simp only [if_neg hfails, run_ofExcept_ok, run_modifyHost]
    exact .of_eq rfl rfl

/-! ## Requests -/

theorem still_refreshSegments : Respects Still refreshSegments :=
  .bind .world fun _ => .bind (.ofExcept _) fun _ => still_modifySession fun _ => rfl

theorem still_sendSource (r : Request) (file : Option String) (line : UInt64) :
    Respects Still (sendSource r file line) := by
  have place : ∀ (address : UInt64) (place : CodeLocation), Respects Still (do
      let pc ← ofExcept ((← session).segments.toProcess address)
      let statement := (← session).debugInfo.statement place.line
      let packetLine ← ofExcept (packetLine place.line)
      send (.createSource r.number pc packetLine statement r.condition.toPacket)
      modifyHost (·.update r.number fun b =>
        { b with request := r.withStatement statement, pc := some pc, codeAddress := some address })
      return Resolution.sent (some pc)) := fun address place =>
    .bind .session fun _ => .bind (.ofExcept _) fun _ => .bind .session fun _ =>
      .bind (.ofExcept _) fun _ => .bind (still_send _) fun _ =>
        .bind (still_modifyHost fun h => h.notices_update _ _) fun _ => .pure _
  refine .bind .session fun s => .bind (.ofExcept _) fun place? => ?_
  cases place? with
  | none =>
    exact .bind .session fun _ =>
      .bind (still_display (Focus.announces_unmappedNotice _ _)) fun _ => .pure _
  | some location =>
    refine .bind .session fun s => .bind (.ofExcept _) fun address? => ?_
    cases address? with
    | none => exact .pure _
    | some address =>
      refine .bind .session fun s => ?_
      exact .ite (.bind still_refreshSegments fun _ => place address location)
        (place address location)

theorem still_sendRequest (r : Request) : Respects Still (sendRequest r) := by
  unfold sendRequest
  cases r.location with
  | kernel name => exact .bind (still_send _) fun _ => .pure _
  | anywhere name => exact .bind (still_send _) fun _ => .pure _
  | source file line statement => exact still_sendSource r file line
  | unknown => exact .throw _

theorem still_buffer (r : Request) : Respects Still (buffer r) :=
  .bind .session fun _ => .bind (.ofExcept _) fun _ => still_modifySession fun _ => rfl

theorem still_resolve (r : Request) : Respects Still (resolve r) :=
  respects_resolve (still_sendRequest r) (still_buffer r)

theorem still_withPending (d : Debugger) (pending : Pending) : d.Still (d.withPending pending) :=
  .of_eq rfl rfl

theorem still_flushSlot (slot : Nat) : Respects Still (flushSlot slot) := fun d =>
  flushSlot_related fun r _ => ⟨still_withPending d _, still_sendRequest r, still_buffer r⟩

theorem still_adjust (number : Int32) : Respects Still (adjust number) := fun d =>
  adjust_related fun r _ => ⟨still_withPending d _, still_sendRequest r, still_buffer r⟩

theorem still_flushPending : Respects Still flushPending :=
  respects_flushPending still_flushSlot

theorem still_adjustAll : Respects Still adjustAll :=
  respects_adjustAll still_adjust

theorem still_removePending (number : Int32) : Respects Still (removePending number) := fun d =>
  still_withPending d _

theorem still_deleteBreakpoint (number : Int32) : Respects Still (deleteBreakpoint number) :=
  .bind (still_removePending number) fun _ => .bind .session fun _ => .ite (still_send _) (.pure _)

theorem still_disableBreakpoint (number : Int32) : Respects Still (disableBreakpoint number) :=
  .bind (still_send _) fun _ => still_modifyHost fun h => h.notices_update _ _

theorem still_updateStatistics (numbers counts : List Int32) :
    Respects Still (updateStatistics numbers counts) := by
  refine still_modifyHost fun h => ?_
  induction numbers.zip counts generalizing h with
  | nil => rfl
  | cons report reports ih =>
    refine (ih _).trans ?_
    change (countHits report.1 report.2 h).notices = h.notices
    unfold countHits
    split
    · rfl
    · exact h.notices_update _ _

/-! ## Taking over a code object -/

theorem still_prepare (launch : Launch) : Respects Still (prepare launch) := by
  have load : Respects Still loadImage :=
    respects_loadImage (fun _ => still_modifyWorld _) fun _ => still_modifySession fun _ => rfl
  have save : Respects Still saveIsa := respects_saveIsa fun _ => still_modifyWorld _
  exact respects_prepare (still_modifySession fun _ => rfl) load
    (still_notify (c := 'T') rfl (by decide))
    (respects_register (still_modifySession fun _ => rfl) save still_refreshSegments)

theorem still_onNewBinary (launch : Launch) : Respects Still (onNewBinary launch) := by
  rw [onNewBinary_eq]
  exact .bind (still_prepare launch) fun _ => .bind still_adjustAll fun _ =>
    .bind still_flushPending fun _ => .pure _

end Op

/-! ## Notifications -/

/-- Whether the notification concerns the focus. -/
def Notification.concernsFocus : Notification → Bool
  | focusChange .. | endDebugging _ => true
  | _ => false

namespace Op

open Debugger (Still)

theorem still_dispatchNotification {n : Notification} (hn : n.concernsFocus = false) :
    Respects Still (dispatchNotification n) := by
  unfold dispatchNotification
  cases n with
  | newBinary kernel groupSize gridSize => exact still_onNewBinary _
  | predispatch state hostThread => exact still_modifyAgent _
  | startDebugThread thread => exact still_modifyAgent _
  | breakpointHit numbers hits activeWaves =>
    exact .bind (still_updateStatistics numbers hits) fun _ => still_modifyAgent _
  | beginDebugging => exact still_modifyAgent _
  | endDebugging completed => cases hn
  | focusChange workGroup workItem => cases hn
  | agentError code =>
    exact .bind (still_modifyAgent _) fun _ =>
      still_notify (c := 'A') (Focus.head?_append rfl) (by decide)
  | killComplete successful =>
    exact .ite (still_modifyAgent _) (still_notify (c := 'C') rfl (by decide))
  | newActiveWaves count => exact still_modifyAgent _
  | devices reported => exact still_modifySession fun _ => rfl
  | unknown tag => exact .pure _

theorem still_shortNotice (count : Nat) : Respects Still (notify (Action.shortNotice count)) := by
  refine still_notify (c := 'I') ?_ (by decide)
  exact Focus.head?_append (Focus.head?_append (Focus.head?_append (Focus.head?_append rfl)))

/-! ## What users ask for -/

theorem still_setAgentLogging (enabled : Bool) : Respects Still (setAgentLogging enabled) := by
  refine .bind .session fun s => .bind .world fun w => .ite ?_ ?_
  · exact still_notify (c := 'A') (Focus.head?_append (Focus.head?_append rfl)) (by decide)
  · exact .bind (still_modifySession fun _ => rfl) fun _ => .bind .session fun _ =>
      .ite (still_send _) (.pure _)

theorem still_openChannel (channel : Channel) : Respects Still (openChannel channel) := by
  refine .bind (still_modifySession fun _ => rfl) fun _ => .bind .session fun s => ?_
  exact .bind .world fun w => .ite (.bind (still_setAgentLogging true) fun _ => still_flushPending)
    still_flushPending

theorem still_killWaves (quits : Bool) : Respects Still (killWaves quits) := by
  refine .bind .session fun s => ?_
  exact .ite (.pure _) (.bind (still_evaluate _) fun _ => .pure _)

theorem still_selectDispatchThread : Respects Still selectDispatchThread := by
  intro d
  unfold selectDispatchThread final
  simp only [EStateM.run_bind, run_session]
  cases d.session.agent.dispatchThread with
  | none => exact refl_of Still d
  | some thread =>
    simp only [EStateM.run_bind, run_host, run_modifyHost, EStateM.run_pure, Host.select]
    split <;> exact .of_eq rfl rfl

/-! ## Steps -/

theorem still_currentPc : Respects Still currentPc := by
  refine .bind still_readWaves fun waves => .bind .session fun s => ?_
  split
  · exact .ofExcept _
  · exact .pure _

theorem still_plantStep (table : LineTable) (kind : StepKind) (pc : UInt64) (count : UInt32) :
    Respects Still (plantStep table kind pc count) := by
  have publish : ∀ entries, Respects Still (publishMomentary entries) :=
    (closed_respects Still).publishMomentary fun _ => still_modifyWorld _
  have start : ∀ count, Respects Still (startStep count) :=
    (closed_respects Still).startStep (fun _ => still_send _) (still_send _)
  unfold plantStep
  dsimp only
  refine .ite (.bind (still_notify (c := 'O') rfl (by decide)) fun _ => ?_) ?_
  -- With the notice or without it, the step is planted in the same way.
  all_goals
    split
    · exact .throw _
    · exact .bind (still_notify (c := 'C') rfl (by decide)) fun _ => .pure _
    · exact .bind (publish _) fun _ => start _

theorem still_step (kind : StepKind) (count : UInt32) : Respects Still (step kind count) := by
  have abandon : Respects Still (abandonStep "could not perform GPU step") :=
    .bind (still_notify (c := 'c') rfl (by decide)) fun _ => .pure _
  refine .bind still_currentPc fun pc => .bind .session fun s => ?_
  dsimp only
  split
  · exact abandon
  · exact .ite abandon (still_plantStep _ _ _ _)

end Op

/-! ## Actions -/

namespace Action

/-- Whether an action may move the focus, or happens outside the session. -/
def concernsFocus (a : Action) (d : Debugger) : Bool :=
  match a.notification? d with
  | some n => n.concernsFocus
  | none =>
    match a with
    | focus _ | stop | outside .. => true
    | _ => false

theorem still_received (a : Action) (d : Debugger) : d.Still (a.received d) := by
  unfold received
  split
  · exact .of_eq rfl rfl
  · exact refl_of Debugger.Still d

/-- Applying a notification that does not concern the focus. -/
theorem still_of_notification? {a : Action} {d : Debugger} {n : Notification}
    (h : a.notification? d = some n) (hn : n.concernsFocus = false) : d.Still (a.run d) := by
  rw [run_of_notification? h]
  exact trans_of Debugger.Still (a.still_received d) (Op.still_dispatchNotification hn _)

/-- **All actions but those that follow the agent, the user or a stop leave the focus alone.** -/
theorem still_run {a : Action} {d : Debugger} (ha : a.concernsFocus d = false) :
    d.Still (a.run d) := by
  unfold concernsFocus at ha
  cases hn : a.notification? d with
  | some n =>
    rw [hn] at ha
    exact still_of_notification? hn ha
  | none =>
    rw [hn] at ha
    cases a with
    | resolve r => exact Op.still_resolve r d
    | flush => exact Op.still_flushPending d
    | adjust => exact Op.still_adjustAll d
    | delete number => exact Op.still_deleteBreakpoint number d
    | disable number => exact Op.still_disableBreakpoint number d
    | statistics numbers counts => exact Op.still_updateStatistics numbers counts d
    | notification n => cases hn
    | event =>
      change d.Still (Op.handleEvent.final d)
      rcases event_of_notification?_eq_none hn with heq | ⟨count, heq⟩
      · rw [heq]
        exact event.still_received d
      · rw [heq]
        exact trans_of Debugger.Still (event.still_received d) (Op.still_shortNotice count _)
    | attach inbox => exact .of_eq rfl rfl
    | attachFile =>
      have still : Op.Respects Debugger.Still Op.attachFile :=
        .bind .session fun _ => .bind .world fun _ => .bind (.ofExcept _) fun _ =>
          Op.still_modifySession fun _ => rfl
      exact still d
    | openChannel channel => exact Op.still_openChannel channel d
    | openFile =>
      have still : Op.Respects Debugger.Still Op.openFile :=
        .bind .session fun _ => .bind .world fun _ => .bind (.ofExcept _) fun channel =>
          Op.still_openChannel channel
      exact still d
    | logging enabled => exact Op.still_setAgentLogging enabled d
    | kill quits => exact Op.still_killWaves quits d
    | focus arguments => cases ha
    | thread => exact Op.still_selectDispatchThread d
    | stop => cases ha
    | step kind count => exact Op.still_step kind count d
    | go => exact Op.still_send _ d
    | close => exact .of_eq rfl rfl
    | cleanUp => exact .of_eq rfl rfl
    | store r => exact .of_eq rfl rfl
    | discard number => exact .of_eq rfl rfl
    | outside h w => cases ha

end Action

end GpuDebug
