import GpuDebug.Proofs.Draining
import GpuDebug.Proofs.NotificationFormat
import GpuDebug.Proofs.StepTargets

/-!
# What a step plants

A step crosses the wave table, the focus, the line table, shared memory and the channel. Whatever
ends it early does so before anything is written: the user may have been shown lines, and nothing
else has changed. A step that is planted has written its table to shared memory and sent two
commands.

* `Momentary.decodeTable_of_write`: a table that was written is read back.
* `StepKind.Ends`: where a step ends; `Op.ends_iff` says that the step looks there.
* `Op.Plants`: what a step comes to; `Op.step_plants` lists the cases, and `Op.step_of_fits` says
  when a step is planted.
* `Op.step_agrees`: the main result.
-/

namespace GpuDebug

open Wire (Cursor Decoder)

/-! ## The momentary region -/

namespace Momentary

theorem reads_encode (m : Momentary) : Decoder.Reads decode m.encode m :=
  (Decoder.Reads.u64 m.pc).bind (Decoder.Reads.u64 m.line).map

theorem length_encodeTable (entries : List Momentary) :
    (encodeTable entries).length = entries.length * size :=
  Wire.length_flatMap_of_length length_encode entries

/-- The records of a table, whatever stands behind it. -/
theorem decodeTable_encodeTable (entries : List Momentary) (rest : Bytes) :
    decodeTable (encodeTable entries ++ rest) entries.length = .ok entries := by
  have h : Decoder.Reads (Cursor.times decode entries.length) (encodeTable entries)
      (entries.map id) := .times entries fun m _ => m.reads_encode
  rw [List.map_id] at h
  exact h.decode rest

/-- A table that was written is read back, whatever the region held before. -/
theorem decodeTable_of_write {m m' : SharedMemory} {entries : List Momentary}
    (h : m.write .momentaryBreakpoints (encodeTable entries) = .ok m') :
    ∃ region, m'.read .momentaryBreakpoints = some region ∧
      decodeTable region entries.length = .ok entries := by
  obtain ⟨rest, hregion⟩ := SharedMemory.read_write h
  exact ⟨_, hregion, decodeTable_encodeTable entries rest⟩

end Momentary

namespace Op

variable {d : Debugger} {table : LineTable}

theorem pc_momentaryAt (table : LineTable) (address : UInt64) :
    (momentaryAt table address).pc = address := by
  unfold momentaryAt
  split <;> rfl

theorem map_pc_momentaryAt (table : LineTable) (addresses : List UInt64) :
    (addresses.map (momentaryAt table)).map (·.pc) = addresses := by
  rw [List.map_map]
  exact List.map_id'' (pc_momentaryAt table) addresses

/-- The momentary breakpoint at an address of a row has the line of the address. -/
theorem line_momentaryAt (h : table.Ordered) {row : LineRow} (hrow : row ∈ table.rows) :
    ∃ place, table.locate row.address = .ok place ∧
      (momentaryAt table row.address).line = place.line := by
  obtain ⟨place, hplace⟩ := h.exists_locate hrow
  refine ⟨place, hplace, ?_⟩
  rw [momentaryAt, hplace]

end Op

/-! ## Where a step ends -/

/-- The addresses at which a step from `pc` ends: all that the table maps, or those of the table's
own query. Before the first line has been reached a step over is a step into, and there is no step
out. -/
def StepKind.Ends (kind : StepKind) (table : LineTable) (pc : UInt64) (addresses : List UInt64) :
    Prop :=
  match kind with
  | .into => addresses = table.mapped
  | .over =>
    if pc = 0 then addresses = table.mapped else table.stepTargets pc false = .ok addresses
  | .out => pc ≠ 0 ∧ table.stepTargets pc true = .ok addresses

namespace Op

variable {kind : StepKind} {table : LineTable} {pc : UInt64} {addresses : List UInt64}

theorem effectiveKind_eq_self (h : kind = .over → pc ≠ 0) : effectiveKind kind pc = kind := by
  refine if_neg fun hboth => ?_
  obtain ⟨hpc, hkind⟩ := Bool.and_eq_true_iff.mp hboth
  exact h (of_decide_eq_true hkind) (of_decide_eq_true hpc)

/-- A step is not given up at once, and asks the table for these addresses. -/
theorem ends_iff : kind.Ends table pc addresses ↔
    ¬ (effectiveKind kind pc != .into && decide (pc = 0)) = true ∧
      stepAddresses table (effectiveKind kind pc) pc = .ok addresses := by
  by_cases hover : kind = .over → pc ≠ 0
  · rw [effectiveKind_eq_self hover]
    match kind, hover with
    | .into, _ => simp [StepKind.Ends, stepAddresses, eq_comm]
    | .over, hover => simp [StepKind.Ends, stepAddresses, hover rfl]
    | .out, _ => simp [StepKind.Ends, stepAddresses]
  · rw [Classical.not_imp, not_not] at hover
    obtain ⟨rfl, rfl⟩ := hover
    simp [StepKind.Ends, stepAddresses, effectiveKind, eq_comm]

end Op

/-! ## What a step comes to -/

namespace Debugger

/-- Where the wave in focus stands, or the first wave if none is in focus. -/
def focusPc (d : Debugger) : Except Error UInt64 := do
  let waves ← d.publishedWaves
  match d.session.focus.wave? waves <|> waves.head? with
  | some w => d.session.segments.toCode w.pc
  | none => return 0

end Debugger

namespace Op

variable {kind : StepKind} {d : Debugger}

/-- Where the wave in focus stands is read off the state. -/
theorem run_currentPc (d : Debugger) : currentPc.run d = (ofExcept d.focusPc).run d := by
  unfold currentPc Debugger.focusPc
  rw [EStateM.run_bind, run_readWaves]
  cases d.publishedWaves with
  | error e => rfl
  | ok waves =>
    dsimp only [run_ofExcept_ok]
    rw [bind_of_ok (run_session d)]
    change _ = (ofExcept (match d.session.focus.wave? waves <|> waves.head? with
      | some w => d.session.segments.toCode w.pc
      | none => return 0)).run d
    cases d.session.focus.wave? waves <|> waves.head? with
    | none => rfl
    | some w => rfl

theorem run_currentPc_eq_ok {pc : UInt64} : currentPc.run d = .ok pc d ↔ d.focusPc = .ok pc := by
  rw [run_currentPc]
  cases d.focusPc with
  | error e => exact iff_of_false nofun nofun
  | ok pc' => simp

/-- What a step comes to: it fails or is given up, and the user may have been shown lines; or it is
planted at some addresses. -/
inductive Plants (kind : StepKind) (d : Debugger) : EStateM.Result Error Debugger Nat → Prop
  | failed (e : Error) (lines : List String) : Plants kind d (.error e (d.showing lines))
  | abandoned (line : String) (lines : List String) :
      Plants kind d (.ok 0 (d.showing (line :: lines)))
  | planted {pc : UInt64} {table : LineTable} {addresses : List UInt64} {memory : SharedMemory}
      {t t' : Transmission} {d' : Debugger} (hpc : d.focusPc = .ok pc)
      (havailable : d.session.debugInfo.isAvailable = true)
      (htable : d.session.debugInfo.table = some table)
      (hends : kind.Ends table pc addresses) (hsome : addresses ≠ [])
      (hwrite : d.world.memory.write .momentaryBreakpoints
        (Momentary.encodeTable (addresses.map (momentaryAt table))) = .ok memory)
      (hmemory : d'.world.memory = memory)
      (hlog : d'.world.transmissions = d.world.transmissions ++ [t, t'])
      (ht : t.command = .momentary (Int32.ofNat addresses.length) ∧ t.fate = .delivered)
      (ht' : t'.command = .continueDispatch ∧ t'.fate = .delivered) :
      Plants kind d (.ok addresses.length d')

theorem Plants.unchanged (e : Error) : Plants kind d (.error e d) := by
  have h : Plants kind d (.error e (d.showing [])) := .failed e []
  rwa [Debugger.showing_nil] at h

/-- Lines that were shown before. -/
theorem Plants.of_showing {lines : List String} {result : EStateM.Result Error Debugger Nat}
    (h : Plants kind (d.showing lines) result) : Plants kind d result := by
  cases h with
  | failed e lines' =>
    rw [Debugger.showing_showing]
    exact .failed e _
  | abandoned line lines' =>
    rw [Debugger.showing_showing]
    cases lines with
    | nil => exact .abandoned line lines'
    | cons first others => exact .abandoned first _
  | planted hpc havailable htable hends hsome hwrite hmemory hlog ht ht' =>
    exact .planted hpc havailable htable hends hsome hwrite hmemory hlog ht ht'

/-- If a table cannot be published, nothing is changed. -/
theorem publishMomentary_error {entries : List Momentary} {e : Error} {d' : Debugger}
    (h : (publishMomentary entries).run d = .error e d') : d' = d := by
  unfold publishMomentary at h
  rw [bind_of_ok (run_session d)] at h
  dsimp only at h
  split at h
  · cases h
    rfl
  · rw [bind_of_ok (run_world d)] at h
    cases hwrite : d.world.memory.write .momentaryBreakpoints (Momentary.encodeTable entries) with
    | error e' =>
      rw [hwrite, bind_of_error (run_ofExcept_error e' d)] at h
      cases h
      rfl
    | ok memory =>
      rw [hwrite, bind_of_ok (run_ofExcept_ok memory d)] at h
      cases h

/-- A table that fits is published. -/
theorem publishMomentary_of_fits {entries : List Momentary} {memory : SharedMemory}
    (hlimit : entries.length * Momentary.size <
      d.session.config.regions.momentaryBreakpoints.maxSize)
    (hwrite : d.world.memory.write .momentaryBreakpoints (Momentary.encodeTable entries) =
      .ok memory) :
    (publishMomentary entries).run d = .ok () { d with world := { d.world with memory } } := by
  unfold publishMomentary
  rw [bind_of_ok (run_session d)]
  dsimp only
  rw [Momentary.length_encodeTable, if_neg (Nat.not_le.mpr hlimit), bind_of_ok (run_world d),
    hwrite, bind_of_ok (run_ofExcept_ok memory d)]
  rfl

/-- Starting a step sends two commands, if the agent takes everything. -/
theorem startStep_of_takesAll {n : Nat} (hpos : 0 < n) (hn : n < 0x80000000)
    (hopen : d.session.channel.isOpen = true) (htakes : d.TakesAll) :
    ∃ d' t t', (startStep n).run d = .ok n d' ∧ d'.world.memory = d.world.memory ∧
      d'.world.transmissions = d.world.transmissions ++ [t, t'] ∧
      (t.command = .momentary (Int32.ofNat n) ∧ t.fate = .delivered) ∧
      t'.command = .continueDispatch ∧ t'.fate = .delivered := by
  have hvalid : (Command.momentary (Int32.ofNat n)).isValid = true := by
    refine decide_eq_true (Int32.lt_iff_toInt_lt.mpr ?_)
    rw [Int32.toInt_zero]
    change 0 < (Int32.ofNat n).toInt
    rw [Int32.toInt_ofNat_of_lt hn]
    omega
  obtain ⟨t, d₁, hsend, hc, hfate, hwritten, htakes₁⟩ := send_of_takesAll hvalid hopen htakes
  have hopen₁ : d₁.session.channel.isOpen = true := by
    rw [hwritten.isOpen, Transmission.isComplete, hfate]
  obtain ⟨t', d', hgo, hc', hfate', hwritten', -⟩ :=
    send_of_takesAll (c := .continueDispatch) rfl hopen₁ htakes₁
  refine ⟨d', t, t', ?_, hwritten'.memory.trans hwritten.memory, ?_, ⟨hc, hfate⟩, hc', hfate'⟩
  · unfold startStep
    rw [if_neg (Nat.not_le.mpr hn)]
    rw [bind_of_ok hsend, continueDispatch, bind_of_ok hgo]
    rfl
  · rw [hwritten'.log, hwritten.log, List.append_assoc]
    rfl

section Planting

variable {pc : UInt64} {table : LineTable} {addresses : List UInt64}
  (hrows : table.rows.length < 0x80000000) (hopen : d.session.channel.isOpen = true)
  (htakes : d.TakesAll)

include hrows hopen htakes

theorem plantSingle_plants (hpc : d.focusPc = .ok pc)
    (havailable : d.session.debugInfo.isAvailable = true)
    (htable : d.session.debugInfo.table = some table)
    (hguard : ¬ (effectiveKind kind pc != .into && decide (pc = 0)) = true) :
    Plants kind d ((plantStep table (effectiveKind kind pc) pc 1).run d) := by
  unfold plantStep
  dsimp only
  rw [if_neg (by decide)]
  split
  · exact .unchanged _
  · exact .abandoned _ []
  · next addresses hsome haddresses =>
    have hne : addresses ≠ [] := fun hnil => hsome (hnil ▸ rfl)
    cases hpublish : (publishMomentary (addresses.map (momentaryAt table))).run d with
    | error e d₁ =>
      rw [bind_of_error hpublish, publishMomentary_error hpublish]
      exact .unchanged e
    | ok u d₁ =>
      obtain ⟨memory, hwrite, rfl⟩ := run_publishMomentary hpublish
      have hlength : addresses.length < 0x80000000 :=
        Nat.lt_of_le_of_lt (length_stepAddresses_le haddresses) hrows
      obtain ⟨d', t, t', hstart, hmemory, hlog, ht, ht'⟩ := startStep_of_takesAll
        (d := { d with world := { d.world with memory } }) (List.length_pos_iff.mpr hne) hlength
        hopen htakes
      rw [bind_of_ok hpublish, hstart]
      exact .planted hpc havailable htable (ends_iff.mpr ⟨hguard, haddresses⟩) hne hwrite hmemory
        hlog ht ht'

/-- A single step whose table fits is planted. -/
theorem plantSingle_of_fits {memory : SharedMemory}
    (haddresses : stepAddresses table kind pc = .ok addresses) (hsome : addresses ≠ [])
    (hlimit : addresses.length * Momentary.size <
      d.session.config.regions.momentaryBreakpoints.maxSize)
    (hwrite : d.world.memory.write .momentaryBreakpoints
      (Momentary.encodeTable (addresses.map (momentaryAt table))) = .ok memory) :
    ∃ d', (plantStep table kind pc 1).run d = .ok addresses.length d' := by
  obtain ⟨first, others, rfl⟩ := List.exists_cons_of_ne_nil hsome
  have hpublish := publishMomentary_of_fits (by rwa [List.length_map]) hwrite
  have hlength := Nat.lt_of_le_of_lt (length_stepAddresses_le haddresses) hrows
  obtain ⟨d', t, t', hstart, -⟩ := startStep_of_takesAll
    (d := { d with world := { d.world with memory } }) (Nat.succ_pos _) hlength hopen htakes
  refine ⟨d', ?_⟩
  unfold plantStep
  dsimp only
  rw [if_neg (by decide), haddresses]
  dsimp only
  rw [bind_of_ok hpublish]
  exact hstart

end Planting

/-- What a step comes to, if the agent takes everything and the line table is not too long. -/
theorem step_plants (kind : StepKind) (count : UInt32)
    (hrows : ∀ table, d.session.debugInfo.table = some table → table.rows.length < 0x80000000)
    (hopen : d.session.channel.isOpen = true) (htakes : d.TakesAll) :
    Plants kind d ((step kind count).run d) := by
  unfold step
  rw [EStateM.run_bind, run_currentPc]
  cases hpc : d.focusPc with
  | error e => exact .unchanged e
  | ok pc =>
    dsimp only [run_ofExcept_ok]
    rw [bind_of_ok (run_session d)]
    split
    · exact .abandoned _ []
    · next table htable =>
      split at htable
      · next havailable =>
        have hlength := hrows table htable
        split
        · exact .abandoned _ []
        · next hguard =>
          rw [plantStep_eq]
          split
          · rw [bind_of_ok (run_notify _ d)]
            exact .of_showing (plantSingle_plants hlength hopen htakes hpc havailable htable hguard)
          · exact plantSingle_plants hlength hopen htakes hpc havailable htable hguard
      · cases htable

/-- A step whose table fits is planted. -/
theorem step_of_fits {kind : StepKind} {pc : UInt64} {table : LineTable} {addresses : List UInt64}
    {memory : SharedMemory} (count : UInt32) (hrows : table.rows.length < 0x80000000)
    (hopen : d.session.channel.isOpen = true) (htakes : d.TakesAll) (hpc : d.focusPc = .ok pc)
    (havailable : d.session.debugInfo.isAvailable = true)
    (htable : d.session.debugInfo.table = some table) (hends : kind.Ends table pc addresses)
    (hsome : addresses ≠ [])
    (hlimit : addresses.length * Momentary.size <
      d.session.config.regions.momentaryBreakpoints.maxSize)
    (hwrite : d.world.memory.write .momentaryBreakpoints
      (Momentary.encodeTable (addresses.map (momentaryAt table))) = .ok memory) :
    ∃ d', (step kind count).run d = .ok addresses.length d' := by
  obtain ⟨hguard, haddresses⟩ := ends_iff.mp hends
  unfold step
  rw [EStateM.run_bind, run_currentPc, hpc]
  dsimp only [run_ofExcept_ok]
  rw [bind_of_ok (run_session d), if_pos havailable, htable]
  dsimp only
  rw [if_neg hguard, plantStep_eq]
  split
  · rw [bind_of_ok (run_notify _ d)]
    exact plantSingle_of_fits hrows hopen htakes haddresses hsome hlimit hwrite
  · exact plantSingle_of_fits hrows hopen htakes haddresses hsome hlimit hwrite

/-- **What is planted, what is sent and what the line table says agree.** Let the channel be open,
let the agent take everything, and let the line table, if there is one, have fewer than `2 ^ 31`
rows. If a step ends with `k` breakpoints planted and `k` is positive, then the first `k` records
of the momentary region are at the addresses where the step ends, lowest first and each once, with
the lines that the table gives for them; and the two commands that were written announce `k`
breakpoints and let the dispatch run. If none was planted, or if the step failed, then nothing has
changed but for lines shown to the user; if none was planted there is such a line. A step that ends
somewhere is planted if its table fits and shared memory can be written. -/
theorem step_agrees (kind : StepKind) (count : UInt32) {d : Debugger}
    (hopen : d.session.channel.isOpen = true) (htakes : d.TakesAll)
    (htable : ∀ table, d.session.debugInfo.table = some table →
      ∃ rows text, rows.length < 0x80000000 ∧ table = .ofRows rows text) :
    (∀ k d', (step kind count).run d = .ok k d' → 0 < k →
      ∃ pc table region entries, currentPc.run d = .ok pc d ∧
        d.session.debugInfo.isAvailable = true ∧ d.session.debugInfo.table = some table ∧
        d'.world.memory.read .momentaryBreakpoints = some region ∧
        Momentary.decodeTable region k = .ok entries ∧ entries.length = k ∧
        (entries.map (·.pc)).Pairwise (· < ·) ∧ kind.Ends table pc (entries.map (·.pc)) ∧
        (∀ e ∈ entries, ∃ place, table.locate e.pc = .ok place ∧ e.line = place.line) ∧
        ∃ t t', d'.world.transmissions = d.world.transmissions ++ [t, t'] ∧
          (t.command = .momentary (Int32.ofNat k) ∧ (Int32.ofNat k).toInt = k ∧
            t.fate = .delivered) ∧
          t'.command = .continueDispatch ∧ t'.fate = .delivered) ∧
    (∀ d', (step kind count).run d = .ok 0 d' → ∃ line lines, d' = d.showing (line :: lines)) ∧
    (∀ e d', (step kind count).run d = .error e d' → ∃ lines, d' = d.showing lines) ∧
    ∀ pc table addresses memory, currentPc.run d = .ok pc d →
      d.session.debugInfo.isAvailable = true → d.session.debugInfo.table = some table →
      kind.Ends table pc addresses → addresses ≠ [] →
      addresses.length * Momentary.size < d.session.config.regions.momentaryBreakpoints.maxSize →
      d.world.memory.write .momentaryBreakpoints
        (Momentary.encodeTable (addresses.map (momentaryAt table))) = .ok memory →
      ∃ d', (step kind count).run d = .ok addresses.length d' := by
  have hlength : ∀ table, d.session.debugInfo.table = some table →
      table.rows.length < 0x80000000 := by
    intro table hsome
    obtain ⟨rows, text, hrows, rfl⟩ := htable table hsome
    rwa [LineTable.length_ofRows]
  have hplants := step_plants kind count hlength hopen htakes
  refine ⟨fun k d' hrun hpos => ?_, fun d' hrun => ?_, fun e d' hrun => ?_, ?_⟩
  · rw [hrun] at hplants
    cases hplants with
    | abandoned => cases hpos
    | @planted pc table addresses memory t t' _ hpc havailable hsome hends hne hwrite hmemory hlog
        ht ht' =>
      obtain ⟨rows, text, -, rfl⟩ := htable table hsome
      obtain ⟨region, hregion, hdecode⟩ := Momentary.decodeTable_of_write hwrite
      have haddresses := (ends_iff.mp hends).2
      have hpcs := map_pc_momentaryAt (.ofRows rows text) addresses
      have hcount : (Int32.ofNat addresses.length).toInt = addresses.length :=
        Int32.toInt_ofNat_of_lt
          (Nat.lt_of_le_of_lt (length_stepAddresses_le haddresses) (hlength _ hsome))
      rw [List.length_map] at hdecode
      refine ⟨pc, _, region, _, run_currentPc_eq_ok.mpr hpc, havailable, hsome, hmemory ▸ hregion,
        hdecode, List.length_map _, ?_, ?_, ?_, t, t', hlog, ⟨ht.1, hcount, ht.2⟩, ht'⟩
      · rw [hpcs]
        exact pairwise_stepAddresses haddresses
      · rw [hpcs]
        exact hends
      · intro e he
        obtain ⟨address, hmem, rfl⟩ := List.mem_map.mp he
        obtain ⟨row, hrow, rfl⟩ := mem_stepAddresses haddresses hmem
        rw [pc_momentaryAt]
        exact line_momentaryAt (LineTable.ordered_ofRows rows text) hrow
  · generalize hresult : (step kind count).run d = result at hplants
    cases hplants with
    | failed => cases hresult.symm.trans hrun
    | abandoned line lines =>
      cases hresult.symm.trans hrun
      exact ⟨line, lines, rfl⟩
    | planted _ _ _ _ hne =>
      have hnil := (EStateM.Result.ok.inj (hresult.symm.trans hrun)).1
      exact absurd (List.length_eq_zero_iff.mp hnil) hne
  · rw [hrun] at hplants
    cases hplants with
    | failed _ lines => exact ⟨lines, rfl⟩
  · intro pc table addresses memory hpc havailable hsome hends hne hlimit hwrite
    exact step_of_fits count (hlength table hsome) hopen htakes (run_currentPc_eq_ok.mp hpc)
      havailable hsome hends hne hlimit hwrite

/-- No wave is live, two lines have code, and the momentary region holds three records. -/
def unstarted : Debugger where
  session :=
    { Session.ofConfig Config.standard fun _ _ => .error .noDebugInfo with
      debugInfo :=
        { DebugInfo.empty (fun _ _ => .error .noDebugInfo) "" with
          table := some ⟨[⟨256, 4, none⟩, ⟨264, 5, none⟩], none⟩
          isCurrent := true }
      channel := .onPipe }
  host := .empty
  world := .ofMemory
    ⟨.growing none, (PerRegion.const none).set .momentaryBreakpoints (some (List.replicate 48 255))⟩

/-- A step over from there plants two breakpoints, in front of what is left of the third record. -/
theorem unstarted_plants_two :
    ∃ d' region entries, (step .over 1).run unstarted = .ok 2 d' ∧
      d'.world.memory.read .momentaryBreakpoints = some region ∧ region.length = 48 ∧
      Momentary.decodeTable region 2 = .ok entries ∧ entries.map (·.pc) = [256, 264] := by
  have hrun : (step .over 1).run unstarted = .ok 2 ((step .over 1).final unstarted) := rfl
  have htable : ∀ table, unstarted.session.debugInfo.table = some table →
      ∃ rows text, rows.length < 0x80000000 ∧ table = .ofRows rows text := by
    rintro table ⟨⟩
    refine ⟨[⟨256, 4, none⟩, ⟨264, 5, none⟩], none, by decide, ?_⟩
    rw [LineTable.ofRows, List.mergeSort_of_pairwise (by decide)]
  obtain ⟨pc, table, region, entries, hpc, -, hsome, hregion, hdecode, -, -, hends, -⟩ :=
    (step_agrees .over 1 rfl (fun _ _ hreply => absurd hreply List.not_mem_nil) htable).1 2 _ hrun
      (by decide)
  have hlength : some region.length = some 48 := (congrArg (Option.map List.length) hregion).symm
  refine ⟨_, region, entries, hrun, hregion, Option.some.inj hlength, hdecode, ?_⟩
  cases hpc
  cases hsome
  exact hends

end Op

end GpuDebug
