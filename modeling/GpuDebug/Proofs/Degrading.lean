import GpuDebug.Proofs.Catalog
import GpuDebug.Proofs.Draining
import GpuDebug.Proofs.OneRequest
import GpuDebug.Proofs.Overlay

/-!
# A code object that cannot be loaded

A code object that is not published, or cannot be read, only takes features away. Its launch is
counted, source breakpoints are buffered until another code object comes, and what the agent can do
without debug information is still sent.

* `Debugger.renewed`: the pending cache once the requests of breakpoints that were placed were
  buffered anew; `Op.run_adjustAll_of_unavailable` says that resolving again comes to that.
* `Debugger.Orderly.waits_of_renewed`, `Debugger.Orderly.placed_of_renewed`: what waits then.
* `Debugger.Degraded`: what is left of a state.
* `Debugger.Orderly.degraded`: the main result.
-/

namespace GpuDebug

namespace Debugger

variable {d : Debugger} {number : Int32} {r : Request}

/-- The requests of the breakpoints on source lines that were placed in a code object. -/
def placedRequests (d : Debugger) (numbers : List Int32) : List Request :=
  numbers.filterMap fun number => (d.host.breakpoints.get? number).bind Op.placedRequest?

/-- The pending cache once these requests were buffered anew. -/
def renewed (d : Debugger) : Pending :=
  d.session.pending.renewAll (d.placedRequests d.host.breakpoints.numbers)

/-- A request that was placed is stored under its number. -/
theorem Keyed.number_of_placed (h : d.Keyed)
    (hplaced : (d.host.breakpoints.get? number).bind Op.placedRequest? = some r) :
    r.number = number ∧ r.kind = .source ∧
      ∃ b, d.host.breakpoints.get? number = some b ∧ b.request = r := by
  obtain ⟨b, hb, hr⟩ := Option.bind_eq_some_iff.mp hplaced
  obtain ⟨rfl, -, hkind⟩ := Op.placedRequest?_eq_some hr
  exact ⟨h number b.placing (stored_of_get? hb), hkind, b, hb, rfl⟩

end Debugger

/-! ## Resolving again without debug information -/

namespace Op

variable {d : Debugger} {number : Int32} {r : Request}

theorem run_adjust_of_unavailable (hkeyed : d.Keyed)
    (hnone : d.session.debugInfo.isAvailable = false)
    (hplaced : (d.host.breakpoints.get? number).bind placedRequest? = some r) :
    ∃ adjusted, (adjust number).run d =
      .ok adjusted (d.withPending (d.session.pending.renew r)) := by
  obtain ⟨rfl, hkind, -⟩ := hkeyed.number_of_placed hplaced
  have hready : (forgetting d r.number).session.readyFor r = false := by
    change (_ && (_ || d.session.debugInfo.isAvailable)) = false
    rw [hnone, hkind]
    simp
  have hpending : (forgetting d r.number).session.pending =
      (d.session.pending.remove r.number).2 := rfl
  have hbuffer := run_buffer r (forgetting d r.number)
  rw [hpending] at hbuffer
  rw [run_adjust hplaced, run_resolve, hready, if_neg Bool.false_ne_true]
  unfold Pending.renew
  cases hpush : (d.session.pending.remove r.number).2.push r with
  | ok pushed =>
    rw [hpush] at hbuffer
    rw [bind_of_ok hbuffer]
    exact ⟨true, rfl⟩
  | error e =>
    rw [hpush] at hbuffer
    rw [bind_of_error hbuffer]
    -- A full cache does not break the channel, so resolving goes on.
    obtain rfl := Pending.error_of_push hpush
    exact ⟨false, rfl⟩

theorem run_adjustEach_of_unavailable (hkeyed : d.Keyed)
    (hnone : d.session.debugInfo.isAvailable = false) (numbers : List Int32) :
    ∃ count, (adjustEach numbers).run d =
      .ok count (d.withPending (d.session.pending.renewAll (d.placedRequests numbers))) := by
  induction numbers generalizing d with
  | nil => exact ⟨0, rfl⟩
  | cons number numbers ih =>
    cases hplaced : (d.host.breakpoints.get? number).bind placedRequest? with
    | none =>
      obtain ⟨count, hrest⟩ := ih hkeyed hnone
      have hcons : d.placedRequests (number :: numbers) = d.placedRequests numbers :=
        List.filterMap_cons_none hplaced
      refine ⟨0 + count, ?_⟩
      rw [hcons, adjustEach, bind_of_ok (run_adjust_unplaced hplaced), bind_of_ok hrest]
      rfl
    | some r =>
      obtain ⟨adjusted, hrun⟩ := run_adjust_of_unavailable hkeyed hnone hplaced
      obtain ⟨count, hrest⟩ := ih (d := d.withPending (d.session.pending.renew r)) hkeyed hnone
      have hcons : d.placedRequests (number :: numbers) = r :: d.placedRequests numbers :=
        List.filterMap_cons_some hplaced
      refine ⟨(if adjusted then 1 else 0) + count, ?_⟩
      rw [hcons, adjustEach, bind_of_ok hrun, bind_of_ok hrest]
      rfl

/-- **Without debug information, resolving all breakpoints again buffers their requests anew.** -/
theorem run_adjustAll_of_unavailable (hkeyed : d.Keyed)
    (hnone : d.session.debugInfo.isAvailable = false) :
    ∃ count, adjustAll.run d = .ok count (d.withPending d.renewed) := by
  unfold adjustAll
  rw [bind_of_ok (run_host d)]
  exact run_adjustEach_of_unavailable hkeyed hnone _

end Op

/-! ## Taking over a code object -/

namespace Debugger

/-- The step changes neither the kernels nor the breakpoints of the host. -/
structure Leaves (d d' : Debugger) : Prop where
  kernels : d'.session.kernels = d.session.kernels
  breakpoints : d'.host.breakpoints = d.host.breakpoints

instance : IsPreorder Debugger Leaves where
  refl _ := ⟨rfl, rfl⟩
  trans _ _ _ h h' := ⟨h'.kernels.trans h.kernels, h'.breakpoints.trans h.breakpoints⟩

/-- The state with one more launch in the catalog. -/
def launched (d : Debugger) (launch : Launch) : Debugger :=
  { d with session := { d.session with kernels := d.session.kernels.register launch } }

theorem Leaves.launched {d d' : Debugger} (h : d.Leaves d') (launch : Launch) :
    (d.launched launch).Leaves (d'.launched launch) :=
  ⟨congrArg (·.register launch) h.kernels, h.breakpoints⟩

end Debugger

namespace Op

open Debugger (Leaves)

variable {d : Debugger}

theorem leaves_loadImage : Respects Leaves loadImage :=
  respects_loadImage (fun _ _ => ⟨rfl, rfl⟩) fun _ _ => ⟨rfl, rfl⟩

theorem leaves_register (launch : Launch) (loaded : Bool) (d : Debugger) :
    (d.launched launch).Leaves ((register launch loaded).final d) := by
  have files : ∀ files, Respects Leaves (modifyWorld ({ · with files })) := fun _ _ => ⟨rfl, rfl⟩
  have refresh : Respects Leaves (do let _ ← attempt refreshSegments) := by
    refine .bind (.attempt ?_) fun _ => .pure _
    exact .bind .world fun _ => .bind (.ofExcept _) fun _ _ => ⟨rfl, rfl⟩
  have rest : Respects Leaves (do
      if loaded && (← session).config.isa.shown then
        let _ ← attempt saveIsa
      let _ ← attempt refreshSegments) := by
    refine .bind .session fun _ => ?_
    exact .ite (.bind (respects_saveIsa files).attempt fun _ => refresh) refresh
  exact rest (d.launched launch)

/-- Before breakpoints are resolved again, a new code object changes the kernels by its launch. -/
theorem leaves_prepare (launch : Launch) (d : Debugger) :
    (d.launched launch).Leaves ((prepare launch).final d) := by
  have hdrop : (modifySession fun s => { s with debugInfo := s.debugInfo.invalidate }).run d =
      .ok () (invalidated d) := rfl
  obtain ⟨loaded, d₀, hload⟩ := Total.attempt loadImage (invalidated d)
  have hinvalidated : d.Leaves (invalidated d) := ⟨rfl, rfl⟩
  have hleaves : d.Leaves d₀ := trans_of Leaves hinvalidated (leaves_loadImage.attempt.of_ok hload)
  unfold prepare
  rw [final_bind_of_ok hdrop, final_bind_of_ok hload]
  dsimp only
  split
  · have hnotice : (notify noDebugInfoNotice).run d₀ =
        .ok () { d₀ with host := d₀.host.display (noticeMark ++ noDebugInfoNotice) } := rfl
    have hshown : d.Leaves { d₀ with
        host := d₀.host.display (noticeMark ++ noDebugInfoNotice) } :=
      ⟨hleaves.kernels, hleaves.breakpoints⟩
    rw [final_bind_of_ok hnotice]
    exact trans_of Leaves (hshown.launched launch) (leaves_register launch _ _)
  · exact trans_of Leaves (hleaves.launched launch) (leaves_register launch _ _)

end Op

namespace Debugger

variable {d : Debugger} {number : Int32} {r : Request}

/-! ## The requests that are buffered anew -/

namespace Orderly

/-- The requests of breakpoints that were placed can be buffered anew. -/
theorem renewable (h : d.Orderly) (numbers : List Int32) (hr : r ∈ d.placedRequests numbers) :
    d.session.pending.Renewable r := by
  obtain ⟨number, -, hplaced⟩ := List.mem_filterMap.mp hr
  obtain ⟨rfl, hkind, b, hb, rfl⟩ := h.reachable.sound.keyed.number_of_placed hplaced
  refine ⟨hkind, (h.tidy b.request.number).length_waiting_le_one, fun s hs => ?_⟩
  -- What waits of this number is the same request, so it is for a source line as well.
  have hbare := (h.oneRequest b.request.number).bare_eq h.reachable.sound hs hb
  exact (Request.kind_eq_of_bare_eq hbare).trans hkind

theorem distinct_placedRequests (h : d.Orderly) :
    (d.placedRequests d.host.breakpoints.numbers).Pairwise fun r s => r.number ≠ s.number := by
  have hkeyed := h.reachable.sound.keyed
  refine List.pairwise_filterMap.mpr (h.reachable.ascending.nodup.imp fun hne r hr s hs heq => ?_)
  rw [(hkeyed.number_of_placed hr).1, (hkeyed.number_of_placed hs).1] at heq
  exact hne heq

end Orderly

/-! ## What is left -/

/-- What is left of the state `d` once a code object came that cannot be loaded. -/
structure Degraded (launch : Launch) (d d' : Debugger) : Prop where
  unavailable : d'.session.debugInfo.isAvailable = false
  registered : d'.session.kernels = d.session.kernels.register launch
  /-- The launch is the active one, and is counted. -/
  active : ∃ k, d'.session.kernels.activeDispatch? = some (k,
    ⟨launch.groupSize, launch.gridSize, d.session.kernels.launches launch + 1⟩) ∧
      k.name = launch.kernel
  /-- The host keeps its breakpoints, with the addresses in the code object before. -/
  breakpoints : d'.host.breakpoints = d.host.breakpoints
  /-- Of the requests that waited, those on kernels may be sent; nothing else is. -/
  sent : ∃ later, d'.world.transmissions = d.world.transmissions ++ later ∧
    ∀ t ∈ later, ¬ t.command.IsSource ∧
      ∃ r ∈ d.session.pending.offSource, r.CreatesEntry t.command
  /-- Requests on source lines wait as before. -/
  waits : ∀ r ∈ d.session.pending.onSource, ∃ s ∈ d'.session.pending.onSource, s.bare = r.bare
  /-- So do those of the breakpoints that have an address, unless every slot is taken by a request
  on a source line or by another one that waited. -/
  placed : ∀ number b, d.host.breakpoints.get? number = some b → b.request.kind = .source →
    b.pc.isSome = true → b.request ∈ d'.session.pending.onSource ∨
      d.session.pending.capacity ≤
        d.session.pending.offSource.length + d'.session.pending.onSource.length

/-- The first part of taking over a code object that cannot be loaded. -/
theorem prepared_unavailable (launch : Launch) (hbad : d.publishedTable? = none) :
    ((Op.prepare launch).final d).session.debugInfo.isAvailable = false := by
  rw [Op.debugInfo_prepare, Bool.eq_false_iff, ne_eq, DebugInfo.isAvailable_iff,
    d.reloaded_current?.1, hbad]
  exact nofun

/-- The agent still takes everything after the first part of taking over a code object. -/
theorem TakesAll.prepare (h : d.TakesAll) (launch : Launch) :
    ((Op.prepare launch).final d).TakesAll := by
  intro htarget
  rw [(Op.silent_prepare launch d).channel] at htarget
  exact ((Op.quiet_prepare launch d).untouched 0).toAdvances.accepts (h htarget)

namespace Orderly

/-- Requests on source lines that wait still do after some of them were buffered anew. -/
theorem waits_of_renewed (h : d.Orderly) (hr : r ∈ d.session.pending.onSource) :
    ∃ s ∈ d.renewed.onSource, s.bare = r.bare := by
  obtain ⟨hmem, hkind⟩ := List.mem_filter.mp hr
  have hwaits : r ∈ d.session.pending.waiting r.number := Pending.mem_waiting.mpr ⟨hmem, rfl⟩
  by_cases hn : ∃ s ∈ d.placedRequests d.host.breakpoints.numbers, s.number = r.number
  · obtain ⟨s, hs, hn⟩ := hn
    rcases Pending.waiting_renewAll (fun _ => h.renewable _) h.distinct_placedRequests hs with
      hw | ⟨hnil, -⟩
    · refine ⟨s, Pending.mem_onSource_of_waiting (hw ▸ List.mem_singleton_self s)
        (h.renewable _ hs).source, ?_⟩
      obtain ⟨number, -, hplaced⟩ := List.mem_filterMap.mp hs
      obtain ⟨rfl, -, b, hb, rfl⟩ := h.reachable.sound.keyed.number_of_placed hplaced
      rw [← hn] at hwaits
      -- The request of the placed breakpoint took the place of this one, and both are one request.
      exact ((h.oneRequest b.request.number).bare_eq h.reachable.sound hwaits hb).symm
    · rw [← hn, hnil] at hwaits
      cases hwaits
  · -- No breakpoint of the number was placed, so nothing happened to the request.
    have hother : ∀ s ∈ d.placedRequests d.host.breakpoints.numbers, s.number ≠ r.number :=
      fun s hs heq => hn ⟨s, hs, heq⟩
    rw [← Pending.waiting_renewAll_of_ne hother] at hwaits
    exact ⟨r, Pending.mem_onSource_of_waiting hwaits (beq_iff_eq.mp hkind), rfl⟩

/-- The request of a breakpoint that was placed waits once it was buffered anew, unless the cache is
full. -/
theorem placed_of_renewed (h : d.Orderly) {b : Breakpoint}
    (hb : d.host.breakpoints.get? number = some b) (hkind : b.request.kind = .source)
    (hpc : b.pc.isSome = true) :
    b.request ∈ d.renewed.onSource ∨ d.renewed.Full := by
  have hcode : b.codeAddress.isSome = true :=
    (h.reachable.sound.placed number b.placing (stored_of_get? hb)).symm.trans hpc
  have hplaced : b.request ∈ d.placedRequests d.host.breakpoints.numbers := by
    refine List.mem_filterMap.mpr ⟨number, BreakpointTable.mem_numbers.mpr (by rw [hb]; rfl), ?_⟩
    rw [hb, Option.bind_some, Op.placedRequest?, hcode, hkind]
    rfl
  rcases Pending.waiting_renewAll (fun _ => h.renewable _) h.distinct_placedRequests hplaced with
    hw | ⟨-, hfull⟩
  · exact .inl (Pending.mem_onSource_of_waiting (hw ▸ List.mem_singleton_self b.request) hkind)
  · exact .inr hfull

/-- Taking over a code object that cannot be loaded: the launch is registered, the requests of
breakpoints that were placed are buffered anew, and requests on kernels are sent. -/
theorem run_onNewBinary (h : d.Orderly) (htyped : d.Holds Request.Typed) (htakes : d.TakesAll)
    (hbad : d.publishedTable? = none) (launch : Launch) :
    ∃ d₁ d', (Op.onNewBinary launch).run d = .ok () d' ∧
      d₁.session.debugInfo.isAvailable = false ∧ (d.launched launch).Leaves d₁ ∧ d.Silent d₁ ∧
      (d₁.withPending d.renewed).Drains d' := by
  have hprepare := (Op.total_prepare launch).run d
  have hpending := (Op.blind_prepare launch).pending d
  have hquiet := Op.quiet_prepare launch d
  have hleaves := Op.leaves_prepare launch d
  have hnone := prepared_unavailable launch hbad
  obtain ⟨adjusted, hadjust⟩ :=
    Op.run_adjustAll_of_unavailable (h.reachable.sound.of_quiet hquiet).keyed hnone
  have hrenewed : ((Op.prepare launch).final d).renewed = d.renewed := by
    rw [renewed, renewed, hpending, placedRequests, placedRequests, hleaves.breakpoints]
    rfl
  have htyped' : (((Op.prepare launch).final d).withPending d.renewed).Holds Request.Typed := by
    have hcarried := Op.respects_adjustAll
      (Op.carried_holds (Q := Request.Typed) fun _ statement hr => .filled statement hr).adjust
      ((Op.prepare launch).final d)
    rw [Op.final_of_ok hadjust, hrenewed] at hcarried
    exact hcarried (htyped.of_quiet hquiet)
  rw [hrenewed] at hadjust
  obtain ⟨count, d', hflush, hdrains⟩ :=
    Op.run_flushPending_of_unavailable (d := ((Op.prepare launch).final d).withPending d.renewed)
      hnone htyped' (htakes.prepare launch)
  refine ⟨_, d', ?_, hnone, hleaves, Op.silent_prepare launch d, hdrains⟩
  rw [Op.onNewBinary_eq, Op.bind_of_ok hprepare, Op.bind_of_ok hadjust, Op.bind_of_ok hflush]
  rfl

/-- **A code object that cannot be loaded only takes features away.** This is so as long as the host
keeps one request for each number, users typed the requests, and the agent takes everything. -/
theorem degraded (h : d.Orderly) (htyped : d.Holds Request.Typed) (htakes : d.TakesAll)
    (hbad : d.publishedTable? = none) (kernel : String) (groupSize gridSize : Dim) :
    ∃ d', (Op.dispatchNotification (.newBinary kernel groupSize gridSize)).run d = .ok () d' ∧
      d.Degraded ⟨kernel, groupSize, gridSize⟩ d' := by
  obtain ⟨d₁, d', hrun, hnone, hleaves, hsilent, hdrains⟩ :=
    h.run_onNewBinary htyped htakes hbad ⟨kernel, groupSize, gridSize⟩
  have hkernels : d'.session.kernels =
      d.session.kernels.register ⟨kernel, groupSize, gridSize⟩ := by
    rw [hdrains.session]
    exact hleaves.kernels
  have hothers : d.renewed.offSource = d.session.pending.offSource :=
    (Pending.offSource_renewAll (fun _ => h.renewable _) h.distinct_placedRequests).1
  refine ⟨d', hrun, ?_, hkernels, ?_, ?_, ?_, ?_, ?_⟩
  · rw [hdrains.session]
    exact hnone
  · rw [hkernels]
    exact d.session.kernels.activeDispatch?_register ⟨kernel, groupSize, gridSize⟩
  · rw [hdrains.host]
    exact hleaves.breakpoints
  · obtain ⟨later, hlater, hentries⟩ := hdrains.log
    refine ⟨later, hlater.trans (congrArg (· ++ later) hsilent.log), fun t ht => ?_⟩
    obtain ⟨r, hr, hentry⟩ := hentries t ht
    exact ⟨hentry.not_isSource, r, hothers ▸ hr, hentry⟩
  · intro r hr
    rw [hdrains.onSource]
    exact h.waits_of_renewed hr
  · intro number b hb hkind hpc
    rw [hdrains.onSource]
    refine (h.placed_of_renewed hb hkind hpc).imp_right fun hfull => ?_
    calc d.session.pending.capacity
        = d.renewed.capacity := (Pending.capacity_renewAll _ _).symm
      _ ≤ d.renewed.requests.length := hfull
      _ = d.renewed.offSource.length + d.renewed.onSource.length :=
        d.renewed.length_offSource_add.symm
      _ = d.session.pending.offSource.length + d.renewed.onSource.length := by rw [hothers]

end Orderly

/-- A breakpoint on line 4 was sent, and the code object that is published now cannot be read. -/
def losing : Debugger :=
  (Action.outside .empty (Op.publishing [2])).run placed

/-- The breakpoint on line 4 was typed. -/
theorem typed_losing : losing.Holds Request.Typed := by
  have htyped : Request.Typed ⟨1, .any, .source none 4 none⟩ := by
    have hparse : Grammar.parse ⟨"rocm", "temp_source"⟩ 1 "rocm::4" none =
        .ok ⟨1, .any, .source none 4 none⟩ := rfl
    exact .parsed (by decide) hparse
  have hstart := holds_start (Q := Request.Typed) { Config.standard with pendingCapacity := 4 }
    oneObject .empty (Op.publishing [1]) rfl
  have hplaced : placed.Holds Request.Typed := by
    refine hstart.after (fun _ statement hr => .filled statement hr) (N := fun _ => True) ?_
    simp only [List.forall_mem_cons]
    exact ⟨trivial, trivial, htyped, htyped, fun _ => nofun⟩
  exact hplaced.run (fun _ statement hr => .filled statement hr) (N := fun _ => True) trivial

/-- The breakpoint waits once the notification of the code object was handled. -/
theorem line_waits_after_loss :
    ∃ d', (Op.dispatchNotification Op.published).run losing = .ok () d' ∧
      losing.Degraded ⟨"k", ⟨1, 1, 1⟩, ⟨1, 1, 1⟩⟩ d' ∧
      d'.session.pending.onSource = [⟨1, .any, .source none 4 (some " ")⟩] := by
  have htakes : losing.TakesAll := fun _ _ => nofun
  have hbad : losing.publishedTable? = none := by decide +kernel
  obtain ⟨d', hrun, hdegraded⟩ := (orderly_placed.outside .empty (Op.publishing [2])).degraded
    typed_losing htakes hbad "k" ⟨1, 1, 1⟩ ⟨1, 1, 1⟩
  refine ⟨d', hrun, hdegraded, ?_⟩
  rw [← Op.final_of_ok hrun]
  decide +kernel

end Debugger

end GpuDebug
