import GpuDebug.Proofs.Course
import GpuDebug.Proofs.Lines
import Mathlib.Data.List.Infix

/-!
# Addresses after a reload

A new code object brings a new line table, and every breakpoint on a source line is resolved again.
A breakpoint for which no place comes of that keeps the addresses it had in the code object before,
so the host may hold addresses that mean nothing any more.

* `Breakpoint.IsCurrent`: the addresses of a breakpoint are those of its line;
  `Breakpoint.not_isCurrent_iff` says what else they can be.
* `Debugger.Moves`: a step that places the breakpoint of a number only where its line is.
* `Debugger.Settled`: what resolving again leaves of the breakpoint of a number;
  `Op.settled_adjustAll` says that it leaves all breakpoints like that.
* `Op.onNewBinary_eq_ok`: the parts of taking over a new code object; `Op.settled_newBinary` puts
  them together.
* `Op.stale_after_reload_iff`: the main result, with the three ways in which a breakpoint may keep
  its addresses.
-/

namespace GpuDebug

/-- The addresses of a breakpoint, if it has any, are those of a line: the first one of the nearest
line with code, and the process address of that one. -/
def Breakpoint.IsCurrent (b : Breakpoint) (table : LineTable) (segments : SegmentTable)
    (line : UInt64) : Prop :=
  ∀ pc, b.pc = some pc → ∃ address, b.codeAddress = some address ∧ table.StartsAt line address ∧
    segments.toProcess address = .ok pc

/-- The nearest line with code starts at an address that is not the one of the breakpoint, in the
code object or in the process. -/
def Breakpoint.IsElsewhere (b : Breakpoint) (table : LineTable) (segments : SegmentTable)
    (line : UInt64) : Prop :=
  ∃ address, table.StartsAt line address ∧
    (b.codeAddress ≠ some address ∨
      ∀ pc, segments.toProcess address = .ok pc → b.pc ≠ some pc)

/-- The addresses of a breakpoint are out of date in two ways: there is no line for them, or the
line is somewhere else. -/
theorem Breakpoint.not_isCurrent_iff {b : Breakpoint} {table : LineTable} {segments : SegmentTable}
    {line : UInt64} (hpc : b.pc ≠ none) :
    ¬ b.IsCurrent table segments line ↔
      table.nearest none line = .error .notFound ∨ b.IsElsewhere table segments line := by
  constructor
  · intro hstale
    rcases table.startsAt_or_not_found line with ⟨address, hstarts⟩ | hnone
    · refine .inr ⟨address, hstarts, or_iff_not_imp_left.mpr fun hcode pc hprocess hpc => ?_⟩
      refine hstale fun pc' hpc' => ⟨address, not_not.mp hcode, hstarts, ?_⟩
      rw [hprocess, Option.some.inj (hpc.symm.trans hpc')]
    · exact .inl hnone
  · intro h hcurrent
    obtain ⟨pc, hpc⟩ := Option.ne_none_iff_exists'.mp hpc
    obtain ⟨address, hcode, hstarts, hprocess⟩ := hcurrent pc hpc
    rcases h with hnone | ⟨address', hstarts', hother⟩
    · exact LineTable.not_startsAt hnone hstarts
    · cases hstarts'.unique hstarts
      rcases hother with hne | hne
      · exact hne hcode
      · exact hne pc hprocess hpc

/-- The nearest line with code has a number that no packet can carry. -/
def LineTable.Unsendable (t : LineTable) (line : UInt64) : Prop :=
  ∃ place, t.nearest none line = .ok place ∧ 0x80000000 ≤ place.line.toNat

theorem DebugInfo.table_adopt (d : DebugInfo) (files : Files) (table : LineTable) :
    (d.adopt files table).2.1.table = some table := by
  unfold adopt
  dsimp only
  split
  · split <;> rfl
  · rfl

theorem DebugInfo.isAvailable_adopt (d : DebugInfo) (files : Files) (table : LineTable) :
    (d.adopt files table).2.1.isAvailable = true := by
  unfold adopt
  dsimp only
  split
  · split <;> rfl
  · rfl

/-- Loading a code object leaves debug information only if the object could be read. -/
theorem DebugInfo.load_available {d : DebugInfo} {files : Files} {image : Bytes}
    (h : (d.load files image).2.1.isAvailable = true) :
    ∃ table format, openImage d.reader image = .ok (table, format) ∧
      (d.load files image).2.1.table = some table := by
  unfold load at h ⊢
  cases hopen : openImage d.reader image with
  | error fault =>
    rw [hopen] at h
    cases h
  | ok opened =>
    obtain ⟨table, format⟩ := opened
    exact ⟨table, format, rfl, d.table_adopt files table⟩

/-! ## Places -/

namespace Debugger

variable {d d' : Debugger} {table : LineTable} {line : UInt64} {number : Int32} {since : Nat}

/-- Where the code of a line is, read off the tables. -/
theorem placement?_cases (ht : d.session.debugInfo.table = some table)
    (hexecuting : d.session.segments.executing.isSome = true) (line : UInt64) :
    (table.nearest none line = .error .notFound ∧ d.placement? line = .ok none) ∨
    ∃ place address others pc, table.nearest none line = .ok place ∧
      table.addresses place = .ok (address :: others) ∧
      d.session.segments.toProcess address = .ok pc ∧
      d.placement? line = (Op.packetLine place.line).map fun line =>
        some ⟨line, address, pc, d.session.debugInfo.statement place.line⟩ := by
  obtain ⟨segment, hsegment⟩ := Option.isSome_iff_exists.mp hexecuting
  have husable : d.usableSegments = .ok d.session.segments := by
    rw [usableSegments, hsegment, Option.isNone_some, if_neg Bool.false_ne_true]
  have hrequire : d.session.debugInfo.require = .ok table := by
    rw [DebugInfo.require, ht]
  rcases table.nearest_cases none line with ⟨r, hr, hplace⟩ | hnone
  · obtain ⟨address, others, haddresses⟩ := LineTable.addresses_location hr
    have hpc : d.session.segments.toProcess address =
        .ok (address - segment.codeBase + segment.base) := by
      rw [SegmentTable.toProcess, hsegment]
    refine .inr ⟨_, address, others, _, hplace, haddresses, hpc, ?_⟩
    unfold placement? DebugInfo.resolveLine DebugInfo.firstAddress
    simp only [hrequire, hplace, haddresses, husable, hpc, bind, Except.bind, pure, Except.pure,
      List.head?_cons]
    cases Op.packetLine r.location.line <;> rfl
  · refine .inl ⟨hnone, ?_⟩
    unfold placement? DebugInfo.resolveLine
    simp only [hrequire, hnone, bind, Except.bind, pure, Except.pure]

/-- A breakpoint of the host is where its line is. -/
def PlacedAt (d : Debugger) (b : Breakpoint) : Prop :=
  ∃ file line statement p, b.request.location = .source file line statement ∧
    d.placement? line = .ok (some p) ∧ b.pc = some p.pc ∧ b.codeAddress = some p.address

theorem placedAt_record {r : Request} {file statement : Option String} {p : Placement}
    (hr : r.location = .source file line statement) (hp : d.placement? line = .ok (some p))
    (b : Breakpoint) : d.PlacedAt (p.record r b).placing := by
  refine ⟨file, line, some p.statement, p, ?_, hp, rfl, rfl⟩
  change (r.withStatement p.statement).location = _
  rw [Request.withStatement, hr]

theorem Steady.placedAt (h : d.Steady d') {b : Breakpoint} (hb : d.PlacedAt b) : d'.PlacedAt b := by
  obtain ⟨file, line, statement, p, hlocation, hp, hpc, haddress⟩ := hb
  exact ⟨file, line, statement, p, hlocation, (h.placement? line).trans hp, hpc, haddress⟩

theorem PlacedAt.isCurrent {b : Breakpoint} {file statement : Option String}
    (ht : d.session.debugInfo.table = some table)
    (hexecuting : d.session.segments.executing.isSome = true)
    (hlocation : b.request.location = .source file line statement) (h : d.PlacedAt b) :
    b.IsCurrent table d.session.segments line := by
  obtain ⟨file', line', statement', p, hlocation', hp, hpc, haddress⟩ := h
  cases hlocation.symm.trans hlocation'
  intro pc hpc'
  cases hpc.symm.trans hpc'
  rcases placement?_cases ht hexecuting line with ⟨-, hnone⟩ | ⟨place, address, others, pc, hplace,
    haddresses, htranslate, hplacement⟩
  · rw [hp] at hnone
    cases hnone
  · rw [hp] at hplacement
    cases hpacket : Op.packetLine place.line with
    | error e =>
      rw [hpacket] at hplacement
      cases hplacement
    | ok packetLine =>
      rw [hpacket] at hplacement
      cases hplacement
      exact ⟨address, haddress, ⟨place, others, hplace, haddresses⟩, htranslate⟩

/-- Why a line may have no place. -/
theorem unplaced_cases (ht : d.session.debugInfo.table = some table)
    (hexecuting : d.session.segments.executing.isSome = true)
    (h : ∀ p, d.placement? line ≠ .ok (some p)) :
    table.nearest none line = .error .notFound ∨ table.Unsendable line := by
  rcases placement?_cases ht hexecuting line with ⟨hnone, -⟩ | ⟨place, address, others, pc, hplace,
    -, -, hplacement⟩
  · exact .inl hnone
  · refine .inr ⟨place, hplace, Nat.le_of_not_lt fun hfits => ?_⟩
    rw [Op.packetLine, if_pos hfits] at hplacement
    exact h _ hplacement

/-! ## Steps that place breakpoints -/

/-- The step changes no lookup, and places the breakpoint of a number only where its line is. -/
structure Moves (number : Int32) (d d' : Debugger) : Prop extends Steady d d', Advances d d' where
  stored : ∀ b, (d'.view number).stored = some b →
    (d.view number).stored = some b ∨ d'.PlacedAt b

instance : IsPreorder Debugger (Moves number) where
  refl d := ⟨refl_of Steady d, refl_of Advances d, fun _ hb => .inl hb⟩
  trans d d' d'' h h' := by
    refine ⟨trans_of Steady h.toSteady h'.toSteady, trans_of Advances h.toAdvances h'.toAdvances,
      fun b hb => ?_⟩
    rcases h'.stored b hb with hb' | hplaced
    · rcases h.stored b hb' with hb | hplaced
      · exact .inl hb
      · exact .inr (h'.toSteady.placedAt hplaced)
    · exact .inr hplaced

/-- A step that leaves the breakpoints of the host as they are. -/
theorem Moves.of_stored_eq (hs : d.Steady d') (ha : Advances d d')
    (h : (d'.view number).stored = (d.view number).stored) : Moves number d d' :=
  ⟨hs, ha, fun _ hb => .inl (h ▸ hb)⟩

/-- What is known of a source breakpoint that was resolved again: it is where its line is, or it has
no addresses, or its line has no place, or its command was not passed on. -/
def Settled (number : Int32) (since : Nat) (d : Debugger) : Prop :=
  ∀ b file line statement, (d.view number).stored = some b →
    b.request.location = .source file line statement →
    d.PlacedAt b ∨ b.pc = none ∨ (∀ p, d.placement? line ≠ .ok (some p)) ∨
      ∃ t ∈ d.world.transmissions.drop since, t.creates number = true ∧ t.fate = .unflushed

theorem Settled.moves (h : d.Settled number since) (hm : Moves number d d') :
    d'.Settled number since := by
  intro b file line statement hb hlocation
  rcases hm.stored b hb with hb | hplaced
  · rcases h b file line statement hb hlocation with
      hplaced | hpc | hnone | ⟨t, ht, hcreates, hfate⟩
    · exact .inl (hm.toSteady.placedAt hplaced)
    · exact .inr (.inl hpc)
    · exact .inr (.inr (.inl fun p hp => hnone p ((hm.toSteady.placement? line).symm.trans hp)))
    · exact .inr (.inr (.inr ⟨t, (List.IsPrefix.drop hm.log since).subset ht, hcreates, hfate⟩))
  · exact .inl hplaced

end Debugger

namespace Op

open Debugger (Moves Settled Sound)

variable {d d' : Debugger} {number : Int32} {since : Nat}

theorem moves_sendRequest (r : Request) : Respects (Moves number) (sendRequest r) := by
  refine respects_sendRequest (fun d d' h => ?_) (fun c _ _ d => ?_) fun d d' h => ?_
  · exact .of_stored_eq h.steady (.of_world_eq h.world) (h.quiet.untouched number).stored
  · refine .of_stored_eq (steady_send c d) (advances_send c d) ?_
    rw [Debugger.view, (send_keeps c d).2]
    rfl
  · have hsteady : d'.Steady (d.sentState r d') := ⟨rfl, rfl, rfl, id⟩
    refine ⟨hsteady, .of_world_eq rfl, fun b hb => ?_⟩
    rcases Debugger.stored_sentState_cases hb with hold | ⟨_, _, _, p, c, -, hr, hp, rfl⟩
    · exact .inl hold
    · exact .inr ((trans_of Debugger.Steady h hsteady).placedAt (Debugger.placedAt_record hr hp c))

theorem moves_withPending (d : Debugger) (pending : Pending) :
    Moves number d (d.withPending pending) :=
  .of_stored_eq (d.steady_withPending pending) (.of_world_eq rfl) rfl

theorem moves_buffer (r : Request) : Respects (Moves number) (buffer r) := by
  intro d
  rcases buffer_final r d with h | ⟨slot, pending, -, h⟩
  · rw [h]
    exact refl_of _ d
  · rw [h]
    exact moves_withPending d pending

theorem moves_flushSlot (slot : Nat) : Respects (Moves number) (flushSlot slot) := fun d =>
  flushSlot_related fun r _ => ⟨moves_withPending d _, moves_sendRequest r, moves_buffer r⟩

theorem moves_adjust (n : Int32) : Respects (Moves number) (adjust n) := fun d =>
  adjust_related fun r _ => ⟨moves_withPending d _, moves_sendRequest r, moves_buffer r⟩

/-! ## Resolving one breakpoint again -/

/-- Handing over the request of a stored source breakpoint, if the channel stays open. -/
theorem settled_sendRequest {r : Request} {file : Option String} {line : UInt64}
    {statement : Option String} (hr : r.location = .source file line statement)
    (hstored : ∀ b, (d.view r.number).stored = some b → b.request = r)
    (hsince : since ≤ d.world.transmissions.length)
    (hopen : ((sendRequest r).final d).session.channel.isOpen = true) :
    ((sendRequest r).final d).Settled r.number since := by
  have hsteady := steady_sendRequest r d
  intro b file' line' statement' hb hlocation
  -- A request without a place leaves the breakpoint as it was, so the line is that of the request.
  have unplaced : (d.view r.number).stored = some b →
      (∀ c, d.command? r ≠ .ok (some c)) →
      ∀ p, ((sendRequest r).final d).placement? line' ≠ .ok (some p) := by
    intro hold hnone p hp
    rw [hstored b hold, hr] at hlocation
    cases hlocation
    rw [hsteady.placement? line] at hp
    exact hnone _ ((Debugger.command?_eq_some_iff hr).mpr ⟨p, hp, rfl⟩)
  cases hrun : (sendRequest r).run d with
  | ok resolution d₂ =>
    rw [final_of_ok hrun] at hopen hsteady hb unplaced ⊢
    cases Hands.of_run hrun with
    | unmapped hc hl =>
      have hold := (hl.quiet.untouched r.number).stored.symm.trans hb
      exact .inr (.inr (.inl (unplaced hold fun c hc' => by rw [hc] at hc'; cases hc')))
    | sent hc hl hs =>
      obtain ⟨p, hp, -⟩ := (Debugger.command?_eq_some_iff hr).mp hc
      rw [Debugger.stored_sentState hr hp, if_pos rfl] at hb
      obtain ⟨c, -, rfl⟩ := Option.map_eq_some_iff.mp hb
      exact .inl (hsteady.placedAt (Debugger.placedAt_record hr hp c))
  | error e d₂ =>
    rw [final_of_error hrun] at hopen hsteady hb unplaced ⊢
    cases Hands.of_run hrun with
    | failed hc hl =>
      have hold := (hl.quiet.untouched r.number).stored.symm.trans hb
      exact .inr (.inr (.inl (unplaced hold fun c hc' => by rw [hc] at hc'; cases hc')))
    | unsent hc hl hs =>
      rcases send_eq_error hs with ⟨-, hclosed, -⟩ | ⟨t, rfl, hfate, hd, -⟩
      · rw [hclosed] at hopen
        cases hopen
      · have hunflushed : t.fate = .unflushed := by
          rw [hd.isOpen, Transmission.isComplete] at hopen
          cases hf : t.fate with
          | unflushed => rfl
          | delivered => exact absurd hf hfate
          | _ =>
            rw [hf] at hopen
            cases hopen
        refine .inr (.inr (.inr ⟨t, ?_, ?_, hunflushed⟩))
        · rw [hd.log, hl.world, List.drop_append_of_le_length hsince]
          exact List.mem_append_right _ List.mem_cons_self
        · obtain ⟨htag, hnumber⟩ := Debugger.command?_creates hc
          rw [Transmission.creates, htag, hnumber]
          simp

/-- A source breakpoint that is not resolved again has no place. -/
theorem pc_of_placedRequest?_eq_none {b : Breakpoint} {file : Option String} {line : UInt64}
    {statement : Option String} (h : placedRequest? b = none)
    (hlocation : b.request.location = .source file line statement)
    (hplaced : b.pc.isSome = b.codeAddress.isSome) : b.pc = none := by
  have haddress : b.codeAddress.isSome = false := by
    rw [placedRequest?, Request.kind, hlocation] at h
    simpa [Location.kind] using h
  exact Option.isNone_iff_eq_none.mp (Option.isSome_eq_false_iff.mp (hplaced.trans haddress))

/-- Resolving one breakpoint again, if the channel stays open. -/
theorem settled_adjust (hd : d.Sound) (havailable : d.session.debugInfo.isAvailable = true)
    (hsince : since ≤ d.world.transmissions.length)
    (hopen : ((adjust number).final d).session.channel.isOpen = true) :
    ((adjust number).final d).Settled number since := by
  cases hplaced : (d.host.breakpoints.get? number).bind placedRequest? with
  | none =>
    rw [final_of_ok (run_adjust_unplaced hplaced)]
    intro b file line statement hb hlocation
    obtain ⟨c, hget, rfl⟩ := Option.map_eq_some_iff.mp hb
    rw [hget, Option.bind_some] at hplaced
    exact .inr (.inl (pc_of_placedRequest?_eq_none hplaced hlocation (hd.placed number _ hb)))
  | some r =>
    obtain ⟨c, hget, hrequest⟩ := Option.bind_eq_some_iff.mp hplaced
    obtain ⟨rfl, -, hkind⟩ := placedRequest?_eq_some hrequest
    have hready : (forgetting d number).session.readyFor c.request = true := by
      have hopen' : d.session.channel.isOpen = true := (steady_adjust number d).isOpen hopen
      change (d.session.channel.isOpen && (_ || d.session.debugInfo.isAvailable)) = true
      rw [hopen', havailable, Bool.or_true, Bool.and_true]
    rw [adjust_final hplaced, resolve_final, if_pos hready] at hopen ⊢
    have hnumber : c.request.number = number :=
      hd.keyed number c.placing (Debugger.stored_of_get? hget)
    have hstored : ∀ b, ((forgetting d number).view c.request.number).stored = some b →
        b.request = c.request := by
      intro b hb
      change (d.view c.request.number).stored = some b at hb
      rw [hnumber, Debugger.stored_of_get? hget] at hb
      cases hb
      rfl
    rw [← hnumber] at hstored hopen ⊢
    cases hlocation : c.request.location with
    | source file line statement =>
      exact settled_sendRequest hlocation hstored hsince hopen
    | _ =>
      rw [Request.kind, hlocation] at hkind
      cases hkind

/-! ## Resolving all breakpoints again -/

/-- Resolving some breakpoints again settles each of them, if the channel is open afterwards. -/
theorem settled_adjustEach {numbers : List Int32} {count : Nat} (hd : d.Sound)
    (hrun : (adjustEach numbers).run d = .ok count d') (hnumber : number ∈ numbers)
    (havailable : d.session.debugInfo.isAvailable = true)
    (hsince : since ≤ d.world.transmissions.length)
    (hopen : d'.session.channel.isOpen = true) : d'.Settled number since := by
  induction numbers generalizing d count with
  | nil => cases hnumber
  | cons n numbers ih =>
    obtain ⟨adjusted, d₁, hadjust, hrest⟩ := bind_eq_ok hrun
    obtain ⟨others, d₂, hothers, hpure⟩ := bind_eq_ok hrest
    cases hpure
    have hmoves : Moves number d₁ d' := (respects_adjustEach moves_adjust numbers).of_ok hothers
    rcases List.mem_cons.mp hnumber with rfl | hmem
    · have hfinal := final_of_ok hadjust
      have hsettled : ((adjust number).final d).Settled number since :=
        settled_adjust hd havailable hsince (by rw [hfinal]; exact hmoves.isOpen hopen)
      rw [hfinal] at hsettled
      exact hsettled.moves hmoves
    · have hstep : Moves number d d₁ := (moves_adjust n).of_ok hadjust
      refine ih ((carried_sound.adjust n).of_ok hadjust hd) hothers hmem ?_ ?_
      · rw [hstep.debugInfo]
        exact havailable
      · exact hsince.trans hstep.log.length_le

/-- Resolving all breakpoints again settles them, if the channel is open afterwards. -/
theorem settled_adjustAll {count : Nat} (hd : d.Sound) (hrun : adjustAll.run d = .ok count d')
    (havailable : d.session.debugInfo.isAvailable = true)
    (hsince : since ≤ d.world.transmissions.length)
    (hopen : d'.session.channel.isOpen = true) : d'.Settled number since := by
  have heach : (adjustEach d.host.breakpoints.numbers).run d = .ok count d' := by
    unfold adjustAll at hrun
    rwa [bind_of_ok (run_host d)] at hrun
  by_cases hmem : number ∈ d.host.breakpoints.numbers
  · exact settled_adjustEach hd heach hmem havailable hsince hopen
  · -- The host had no such breakpoint, so one that it has now was just placed.
    intro b file line statement hb hlocation
    have hmoves : Moves number d d' := (respects_adjustEach moves_adjust _).of_ok heach
    rcases hmoves.stored b hb with hold | hplaced
    · obtain ⟨c, hget, -⟩ := Option.map_eq_some_iff.mp hold
      exact absurd (BreakpointTable.mem_numbers.mpr (by rw [hget]; rfl)) hmem
    · exact .inl hplaced

/-! ## Taking over a new code object -/

/-- The state without debug information. -/
def invalidated (d : Debugger) : Debugger :=
  { d with session := { d.session with debugInfo := d.session.debugInfo.invalidate } }

/-- Once the code object is loaded, the first part of taking it over concerns neither breakpoints
nor the debug information. -/
theorem calm_prepare (launch : Launch) (d : Debugger) :
    (loadImage.final (invalidated d)).Calm ((prepare launch).final d) := by
  have hdrop : (modifySession fun s => { s with debugInfo := s.debugInfo.invalidate }).run d =
      .ok () (invalidated d) := rfl
  obtain ⟨loaded, d₀, hload⟩ := Total.attempt loadImage (invalidated d)
  have hloaded : loadImage.final (invalidated d) = d₀ := by
    rw [← final_attempt]
    exact final_of_ok hload
  have hrest := Respects.ite (c := loaded.toOption.isNone = true)
    (.bind (calm_notify noDebugInfoNotice) fun _ => calm_register launch loaded.toOption.isSome)
    (calm_register launch loaded.toOption.isSome)
  unfold prepare
  rw [hloaded, final_bind_of_ok hdrop, final_bind_of_ok hload]
  exact hrest d₀

/-- The parts of taking over a new code object. -/
theorem onNewBinary_eq_ok {launch : Launch} (h : (onNewBinary launch).run d = .ok () d') :
    ∃ d₁ d₂ adjusted flushed, (loadImage.final (invalidated d)).Calm d₁ ∧
      adjustAll.run d₁ = .ok adjusted d₂ ∧ flushPending.run d₂ = .ok flushed d' := by
  rw [onNewBinary_eq, bind_of_ok ((total_prepare launch).run d)] at h
  obtain ⟨adjusted, d₂, hadjust, hrest⟩ := bind_eq_ok h
  obtain ⟨flushed, d₃, hflush, hpure⟩ := bind_eq_ok hrest
  cases hpure
  exact ⟨_, d₂, adjusted, flushed, calm_prepare launch d, hadjust, hflush⟩

/-- Loading leaves debug information only if the image could be read. -/
theorem loadImage_available (hnone : d.session.debugInfo.isAvailable = false)
    (h : (loadImage.final d).session.debugInfo.isAvailable = true) :
    ∃ image table format,
      d.world.memory.readImage d.session.config.regions.binaryImage.maxSize = .ok (some image) ∧
      DebugInfo.openImage d.session.debugInfo.reader image = .ok (table, format) ∧
      (loadImage.final d).session.debugInfo.table = some table := by
  unfold loadImage at h ⊢
  rw [final_bind_of_ok (run_session d), final_bind_of_ok (run_world d)] at h ⊢
  cases himage : d.world.memory.readImage d.session.config.regions.binaryImage.maxSize with
  | error e =>
    rw [himage, final_of_error (bind_of_error (run_ofExcept_error e d)), hnone] at h
    cases h
  | ok image? =>
    rw [himage, final_bind_of_ok (run_ofExcept_ok image? d)] at h
    rw [final_bind_of_ok (run_ofExcept_ok image? d)]
    cases image? with
    | none =>
      rw [final_of_error (run_throw _ d), hnone] at h
      cases h
    | some image =>
      dsimp only at h ⊢
      rw [final_bind_of_ok (run_modifySession _ d), final_bind_of_ok (run_modifyWorld _ _),
        final_ofExcept] at h ⊢
      obtain ⟨table, format, hopen, htable⟩ := DebugInfo.load_available h
      exact ⟨image, table, format, rfl, hopen, htable⟩

/-! ## The whole reload -/

/-- A reload settles every breakpoint, and places breakpoints only where their lines are. -/
theorem settled_newBinary {kernel : String} {groupSize gridSize : Dim} (hd : d.Reachable)
    (hok : (dispatchNotification (.newBinary kernel groupSize gridSize)).run d = .ok () d')
    (hopen : d'.session.channel.isOpen = true)
    (havailable : d'.session.debugInfo.isAvailable = true) :
    ∃ image table format,
      d.world.memory.readImage d.session.config.regions.binaryImage.maxSize = .ok (some image) ∧
      DebugInfo.openImage d.session.debugInfo.reader image = .ok (table, format) ∧
      d'.session.debugInfo.table = some table ∧
      ∀ number, d'.Settled number d.world.transmissions.length ∧
        ∀ b, (d'.view number).stored = some b →
          (d.view number).stored = some b ∨ d'.PlacedAt b := by
  obtain ⟨d₁, d₂, adjusted, flushed, hcalm, hadjust, hflush⟩ := onNewBinary_eq_ok hok
  have hmoves₂ : ∀ number, Moves number d₂ d' := fun _ =>
    (respects_flushPending moves_flushSlot).of_ok hflush
  have hmoves : ∀ number, Moves number d₁ d' := fun number =>
    trans_of _ ((respects_adjustAll moves_adjust).of_ok hadjust) (hmoves₂ number)
  have hquiet : Debugger.Quiet d d₁ := by
    have hinvalidated : Debugger.Quiet d (invalidated d) :=
      ⟨fun _ => ⟨.of_world_eq rfl, rfl⟩, rfl, rfl⟩
    exact trans_of _ hinvalidated (trans_of _ (quiet_loadImage _) hcalm.quiet)
  have havailable₁ : d₁.session.debugInfo.isAvailable = true := (hmoves 0).debugInfo ▸ havailable
  obtain ⟨image, table, format, himage, hformat, htable⟩ :=
    loadImage_available (d := invalidated d) rfl (hcalm.debugInfo ▸ havailable₁)
  refine ⟨image, table, format, himage, hformat, ?_, fun number => ⟨?_, fun b hb => ?_⟩⟩
  · rw [(hmoves 0).debugInfo, hcalm.debugInfo, htable]
  · have hsettled : d₂.Settled number d.world.transmissions.length :=
      settled_adjustAll (hd.sound.of_quiet hquiet) hadjust havailable₁
        (hquiet.untouched number).log.length_le ((hmoves₂ number).isOpen hopen)
    exact hsettled.moves (hmoves₂ number)
  · rcases (hmoves number).stored b hb with hold | hplaced
    · exact .inl ((hquiet.untouched number).stored.symm.trans hold)
    · exact .inr hplaced

/-- **Addresses after a reload.** If a new code object was taken over and there are an open channel,
debug information and an executing segment afterwards, then the addresses of a source breakpoint are
those of its line in the new line table, with two exceptions. In both of them the breakpoint kept
the addresses that it had: its line has no code any more, or the code of its line is elsewhere now
and the line has a number that no packet can carry, or the command of the breakpoint was taken and
not passed on. -/
theorem stale_after_reload_iff {kernel : String} {groupSize gridSize : Dim} (hd : d.Reachable)
    (hok : (dispatchNotification (.newBinary kernel groupSize gridSize)).run d = .ok () d')
    (hopen : d'.session.channel.isOpen = true)
    (havailable : d'.session.debugInfo.isAvailable = true)
    (hexecuting : d'.session.segments.executing.isSome = true) :
    ∃ image table format,
      d.world.memory.readImage d.session.config.regions.binaryImage.maxSize = .ok (some image) ∧
      DebugInfo.openImage d.session.debugInfo.reader image = .ok (table, format) ∧
      d'.session.debugInfo.table = some table ∧
      ∀ number b file line statement, d'.host.breakpoints.get? number = some b →
        b.request.location = .source file line statement →
        (¬ b.IsCurrent table d'.session.segments line ↔
          b.pc ≠ none ∧ (d.view number).stored = some b.placing ∧
            (table.nearest none line = .error .notFound ∨
              (b.IsElsewhere table d'.session.segments line ∧
                (table.Unsendable line ∨
                  ∃ t ∈ d'.world.transmissions.drop d.world.transmissions.length,
                    t.creates number = true ∧ t.fate = .unflushed)))) := by
  obtain ⟨image, table, format, himage, hformat, htable, hall⟩ :=
    settled_newBinary hd hok hopen havailable
  refine ⟨image, table, format, himage, hformat, htable, ?_⟩
  intro number b file line statement hget hlocation
  obtain ⟨hsettled, hmoved⟩ := hall number
  have hstored : (d'.view number).stored = some b.placing := Debugger.stored_of_get? hget
  constructor
  · intro hstale
    have hmisplaced : ¬ d'.PlacedAt b.placing := fun hplaced =>
      hstale (hplaced.isCurrent htable hexecuting hlocation)
    have hpc : b.pc ≠ none := fun hnone => hstale fun pc hpc => by
      rw [hnone] at hpc
      cases hpc
    refine ⟨hpc, (hmoved _ hstored).resolve_right hmisplaced, ?_⟩
    rcases (Breakpoint.not_isCurrent_iff hpc).mp hstale with hunmapped | helsewhere
    · exact .inl hunmapped
    rcases hsettled _ file line statement hstored hlocation with hplaced | hnone | hunplaced | hlost
    · exact absurd hplaced hmisplaced
    · exact absurd hnone hpc
    · rcases Debugger.unplaced_cases htable hexecuting hunplaced with hunmapped | hunsendable
      · exact .inl hunmapped
      · exact .inr ⟨helsewhere, .inl hunsendable⟩
    · exact .inr ⟨helsewhere, .inr hlost⟩
  · rintro ⟨hpc, -, hunmapped | ⟨helsewhere, -⟩⟩
    · exact (Breakpoint.not_isCurrent_iff hpc).mpr (.inl hunmapped)
    · exact (Breakpoint.not_isCurrent_iff hpc).mpr (.inr helsewhere)

/-! ## A line that lost its code -/

/-- Reads two code objects. The only line with code is line 4 in the first one, and line 2 in the
second one. -/
def twoObjects : ImageReader := fun image _ =>
  .ok ⟨[⟨256, if image = [1] then 4 else 2, none⟩], none⟩

/-- A world in which a code object and one executing segment are published. -/
def publishing (image : Bytes) : World :=
  .ofMemory ⟨.growing none,
    { binaryImage := some (Wire.u64 (UInt64.ofNat image.length) ++ image)
      waveInfo := none
      loadMap := some (Segment.encodeMap
        [{ (default : Segment) with base := 65536, isExecuted := true }])
      momentaryBreakpoints := none }⟩

/-- The notification of a code object. -/
def published : Notification :=
  .newBinary "k" ⟨1, 1, 1⟩ ⟨1, 1, 1⟩

/-- A breakpoint on line 4 was sent, and the second code object is published. -/
def outdated : Debugger :=
  Debugger.after ⟨Session.ofConfig { Config.standard with pendingCapacity := 4 } twoObjects, .empty,
      publishing [1]⟩
    [.openChannel .onPipe, .notification published, .store ⟨1, .any, .source none 4 none⟩,
      .resolve ⟨1, .any, .source none 4 none⟩, .outside .empty (publishing [2])]

theorem reachable_outdated : outdated.Reachable :=
  Debugger.Reachable.after (.start _ _ _ _ rfl) _

/-- Line 4 has no code in the second code object, and its breakpoint keeps its addresses. -/
theorem unmapped_line_keeps_addresses :
    ∃ table b, ((Action.notification published).run outdated).session.debugInfo.table = some table ∧
      ((Action.notification published).run outdated).host.breakpoints.get? 1 = some b ∧
      b.request.location = .source none 4 (some " ") ∧
      ¬ b.IsCurrent table ((Action.notification published).run outdated).session.segments 4 := by
  have hok : (dispatchNotification published).run outdated =
      .ok () ((Action.notification published).run outdated) := rfl
  obtain ⟨image, table, format, -, -, htable, hstale⟩ :=
    stale_after_reload_iff reachable_outdated hok rfl rfl rfl
  have hsecond : ((Action.notification published).run outdated).session.debugInfo.table =
      some ⟨[⟨256, 2, none⟩], none⟩ := rfl
  cases htable.symm.trans hsecond
  refine ⟨_, _, htable, rfl, rfl, (hstale 1 _ none 4 _ rfl rfl).mpr ⟨?_, rfl, .inl rfl⟩⟩
  exact Option.some_ne_none _

end Op

end GpuDebug
