import GpuDebug.Proofs.DebugHistory

/-!
# The load map during a reload

Taking over a code object reads the load map that the agent publishes. If the load map cannot be
decoded, the session keeps the one that it read before, and goes on to send breakpoints.

* `Debugger.refreshed`: the load map that a session holds after reading it.
* `Op.Refreshes`: an operation that ends in reading the load map; the first part of taking over a
  code object is one (`Op.refreshes_prepare`).
* `Action.usableSegments_reload`: the segments by which addresses are translated during a reload.
* `Debugger.reload_follows_map`: where the addresses come from that are sent during a reload.
-/

namespace GpuDebug

/-- The load map that the agent publishes, as it is read. -/
def Debugger.publishedMap (d : Debugger) : Except Error SegmentTable :=
  SegmentTable.ofRegion (d.world.memory.read .loadMap)

/-- The load map that a session holds after reading it. -/
def Debugger.refreshed (d : Debugger) : SegmentTable :=
  match d.publishedMap with
  | .ok segments => segments
  | .error _ => d.session.segments

namespace Op

variable {α β : Type}

/-- The operation leaves the load map of the session and the shared memory as they are. -/
abbrev KeepsMap (op : Op α) : Prop :=
  Respects (fun d d' => d'.session.segments = d.session.segments ∧
    d'.world.memory = d.world.memory) op

instance : IsPreorder Debugger fun d d' =>
    d'.session.segments = d.session.segments ∧ d'.world.memory = d.world.memory where
  refl _ := ⟨rfl, rfl⟩
  trans _ _ _ h h' := ⟨h'.1.trans h.1, h'.2.trans h.2⟩

theorem keepsMap_loadImage : KeepsMap loadImage :=
  respects_loadImage (fun _ _ => ⟨rfl, rfl⟩) fun _ _ => ⟨rfl, rfl⟩

theorem keepsMap_saveIsa : KeepsMap saveIsa :=
  respects_saveIsa fun _ _ => ⟨rfl, rfl⟩

/-- The operation ends in reading the load map, and does not touch it before. -/
def Refreshes (op : Op α) : Prop :=
  ∀ d, (op.final d).session.segments = d.refreshed

theorem refreshes_attempt : Refreshes (do let _ ← attempt refreshSegments) := by
  intro d
  rw [final_bind_of_final_eq fun _ _ => rfl, final_attempt]
  unfold refreshSegments Debugger.refreshed Debugger.publishedMap
  rw [final_bind_of_ok (run_world d)]
  cases SegmentTable.ofRegion (d.world.memory.read .loadMap) <;> rfl

/-- Reading the load map after an operation that does not touch it. -/
theorem Refreshes.bind {op : Op α} {f : α → Op β} (htotal : Total op) (hkeeps : KeepsMap op)
    (hf : ∀ a, Refreshes (f a)) : Refreshes (op >>= f) := by
  intro d
  obtain ⟨a, d', hop⟩ := htotal d
  obtain ⟨hsegments, hmemory⟩ := hkeeps.of_ok hop
  rw [final_bind_of_ok hop, hf]
  unfold Debugger.refreshed Debugger.publishedMap
  rw [hsegments, hmemory]

theorem Refreshes.ite {c : Prop} [Decidable c] {op op' : Op α} (h : Refreshes op)
    (h' : Refreshes op') : Refreshes (if c then op else op') :=
  iteInduction (motive := Refreshes) (fun _ => h) fun _ => h'

theorem refreshes_register (launch : Launch) (loaded : Bool) :
    Refreshes (register launch loaded) := by
  refine .bind (total_modifySession _) (fun _ => ⟨rfl, rfl⟩) fun _ => ?_
  refine .bind (fun d => ⟨_, d, run_session d⟩) .session fun _ => .ite ?_ refreshes_attempt
  exact .bind (.attempt _) keepsMap_saveIsa.attempt fun _ => refreshes_attempt

theorem refreshes_prepare (launch : Launch) : Refreshes (prepare launch) := by
  refine .bind (total_modifySession _) (fun _ => ⟨rfl, rfl⟩) fun _ => ?_
  refine .bind (.attempt _) keepsMap_loadImage.attempt fun loaded => .ite ?_ ?_
  · exact .bind (fun d => ⟨(), _, run_modifyHost _ d⟩) (fun _ => ⟨rfl, rfl⟩) fun _ =>
      refreshes_register launch _
  · exact refreshes_register launch _

theorem memory_prepare (launch : Launch) (d : Debugger) :
    ((prepare launch).final d).world.memory = d.world.memory :=
  (calm_prepare launch d).memory.trans (keepsMap_loadImage (invalidated d)).2

/-- Addresses are translated by the published load map; if it cannot be decoded, by the one that
was read before, if there is one. -/
theorem usableSegments_onNewBinary (launch : Launch) (d : Debugger) :
    ((onNewBinary launch).final d).usableSegments =
      match d.publishedMap with
      | .ok segments => .ok segments
      | .error _ => d.usableSegments := by
  rw [(steady_onNewBinary launch d).segments, Debugger.usableSegments, refreshes_prepare,
    memory_prepare, Debugger.refreshed]
  change (if _ then d.publishedMap else _) = _
  unfold Debugger.usableSegments
  cases hmap : d.publishedMap with
  | ok segments => exact ite_self _
  | error e =>
    change d.publishedMap = _ at hmap
    unfold Debugger.publishedMap at hmap
    rw [hmap]

end Op

namespace Action

theorem segments_received (a : Action) (d : Debugger) :
    (a.received d).session.segments = d.session.segments := by
  unfold received
  split <;> rfl

variable {a : Action} {d : Debugger} {kernel : String} {groupSize gridSize : Dim}

/-- The segments by which addresses are translated during a reload. -/
theorem usableSegments_reload
    (hreload : a.notification? d = some (.newBinary kernel groupSize gridSize)) :
    (a.run d).usableSegments =
      match d.publishedMap with
      | .ok segments => .ok segments
      | .error _ => d.usableSegments := by
  have hmap : (a.received d).publishedMap = d.publishedMap := by
    unfold Debugger.publishedMap
    rw [(a.calm_received d).memory]
  have husable : (a.received d).usableSegments = d.usableSegments := by
    unfold Debugger.usableSegments
    rw [(a.calm_received d).memory, a.segments_received d]
  rw [run_of_notification? hreload, ← hmap, ← husable]
  exact Op.usableSegments_onNewBinary _ (a.received d)

theorem publishedTable?_reload
    (hreload : a.notification? d = some (.newBinary kernel groupSize gridSize)) :
    (a.run d).session.debugInfo.current? = d.publishedTable? := by
  rw [current?_run]
  unfold mark
  rw [hreload]
  rfl

end Action

namespace Debugger

variable {a : Action} {d : Debugger} {kernel : String} {groupSize gridSize : Dim}

/-- **The load map during a reload.** The address of every source line that is sent while a code
object is taken over is that of the line in the new line table, translated by the published load
map; if that cannot be decoded, it is translated by the load map that was read before. Where the
published load map names no executing segment, no source line is sent. -/
theorem reload_follows_map
    (hreload : a.notification? d = some (.newBinary kernel groupSize gridSize)) :
    (∀ t ∈ (a.run d).world.transmissions.drop d.world.transmissions.length, t.command.IsSource →
      ∃ table, d.publishedTable? = some table ∧
        match d.publishedMap with
        | .ok segments => t.command.PlacedBy table segments
        | .error _ => t.command.PlacedBy table d.session.segments) ∧
    ∀ segments, d.publishedMap = .ok segments → segments.executing = none →
      ∀ t ∈ (a.run d).world.transmissions.drop d.world.transmissions.length,
        ¬ t.command.IsSource := by
  have placed : ∀ t ∈ (a.run d).world.transmissions.drop d.world.transmissions.length,
      t.command.IsSource → ∃ table segments, d.publishedTable? = some table ∧
        (a.run d).usableSegments = .ok segments ∧ t.command.PlacedBy table segments := by
    intro t ht hsource
    obtain ⟨hissued, hvalid⟩ := a.issues_of_written ht
    obtain ⟨havailable, table, segments, htable, hsegments, hplaced⟩ :=
      hissued.placed hvalid hsource
    refine ⟨table, segments, ?_, hsegments, hplaced⟩
    rw [← Action.publishedTable?_reload hreload, DebugInfo.current?_of_available havailable, htable]
  have husable := Action.usableSegments_reload hreload
  refine ⟨fun t ht hsource => ?_, fun segments hmap hnone t ht hsource => ?_⟩
  · obtain ⟨table, segments, htable, hsegments, hplaced⟩ := placed t ht hsource
    refine ⟨table, htable, ?_⟩
    rw [husable] at hsegments
    cases hmap : d.publishedMap with
    | ok published =>
      rw [hmap] at hsegments
      cases hsegments
      exact hplaced
    | error e =>
      rw [hmap] at hsegments
      -- The published load map is of no use, so the one that is used was read before.
      unfold usableSegments at hsegments
      dsimp only at hsegments ⊢
      split at hsegments
      · cases hmap.symm.trans hsegments
      · cases hsegments
        exact hplaced
  · obtain ⟨table, used, -, hused, line, place, address, others, -, -, hpc, -⟩ :=
      placed t ht hsource
    rw [husable, hmap] at hused
    cases hused
    rw [SegmentTable.toProcess, hnone] at hpc
    cases hpc

/-- The code object with line 4 is published, with a load map that ends after its first byte. -/
def cutShort : World :=
  .ofMemory ⟨.growing none, { (Op.publishing [1]).memory.contents with loadMap := some [255] }⟩

/-- A breakpoint on line 4 was sent, and then the load map was cut short. -/
def misled : Debugger :=
  Debugger.after ⟨Session.ofConfig { Config.standard with pendingCapacity := 4 } Op.twoObjects,
      .empty, Op.publishing [1]⟩
    [.openChannel .onPipe, .notification Op.published, .store ⟨1, .any, .source none 4 none⟩,
      .resolve ⟨1, .any, .source none 4 none⟩, .outside .empty cutShort]

/-- The load map cannot be decoded, and a source line is sent by the one that was read before. -/
theorem old_map_is_used :
    ∃ e, misled.publishedMap = .error e ∧
      ∃ t ∈ ((Action.notification Op.published).run misled).world.transmissions.drop
          misled.world.transmissions.length,
        t.command.pc = 65792 ∧ ∃ table, misled.publishedTable? = some table ∧
          t.command.PlacedBy table misled.session.segments := by
  have hall := (reload_follows_map (a := .notification Op.published) (d := misled) rfl).1 _
    (List.mem_singleton_self _) ⟨rfl, rfl⟩
  obtain ⟨table, htable, hplaced⟩ := hall
  exact ⟨_, rfl, _, List.mem_singleton_self _, rfl, table, htable, hplaced⟩

end Debugger

end GpuDebug
