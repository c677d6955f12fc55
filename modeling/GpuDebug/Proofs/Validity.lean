import GpuDebug.Proofs.DebugHistory
import GpuDebug.Proofs.LineNumbers

/-!
# Commands are valid

What a command needs comes from three places: the number of a breakpoint from the host, the name of
a kernel from the grammar, and the line from the line table. None of them is lost while a request
waits, while the host stores it and while it is resolved again.

* `Request.Typed`: the requests that users make.
* `DebugInfo.Counted`: line tables count lines from one, now and after every load.
* `Debugger.Issues.isValid`: the commands that belong to a state are valid then.
* `Debugger.only_valid_passed`: so only valid commands are passed to the channel.
-/

namespace GpuDebug

/-- A request that the grammar makes of a text, for a breakpoint with a number. The text of its line
may have been filled in since. -/
inductive Request.Typed : Request → Prop
  | parsed {g : Grammar} {number : Int32} {text : String} {condition : Option String} {r : Request}
      (hnumber : 0 ≤ number) (h : g.parse number text condition = .ok r) : Typed r
  | filled {r : Request} (statement : String) (h : Typed r) : Typed (r.withStatement statement)

namespace Request

variable {r : Request}

theorem named_withStatement (h : r.location.Named) (statement : String) :
    (r.withStatement statement).location.Named := by
  unfold withStatement
  split
  · trivial
  · exact h

/-- A typed request has a number and a target. -/
theorem Typed.sendable (h : r.Typed) : 0 ≤ r.number ∧ r.location.Named := by
  induction h with
  | parsed hnumber h =>
    rw [(Grammar.parse_eq_ok h).1]
    exact ⟨hnumber, Grammar.named_parse h⟩
  | @filled r statement _ ih =>
    rw [r.number_withStatement statement]
    exact ⟨ih.1, named_withStatement ih.2 statement⟩

end Request

/-- The action asks for typed requests, and names breakpoints by their numbers. -/
abbrev Action.IsTyped (a : Action) : Prop :=
  a.Asks Request.Typed (0 ≤ ·)

/-! ## Lines are counted from one -/

/-- Lines are counted from one in the line table, and in every one that will be read. -/
structure DebugInfo.Counted (i : DebugInfo) : Prop where
  table : i.Numbered
  reader : i.reader.Numbered

namespace DebugInfo

variable {i : DebugInfo}

theorem numbered_of_table_eq_none (h : i.table = none) : i.Numbered := by
  intro table htable
  rw [h] at htable
  cases htable

theorem Counted.setUnavailable (h : i.Counted) : i.setUnavailable.Counted :=
  ⟨h.table, h.reader⟩

theorem Counted.invalidate (h : i.Counted) : i.invalidate.Counted :=
  ⟨numbered_of_table_eq_none rfl, h.reader⟩

theorem one_le_line_of_openImage {reader : ImageReader} (hreader : reader.Numbered) {image : Bytes}
    {table : LineTable} {format : ImageFormat} (h : openImage reader image = .ok (table, format)) :
    ∀ row ∈ table.rows, 1 ≤ row.line := by
  unfold openImage at h
  split at h
  · next hread =>
    cases h
    exact hreader image .twoLevel table hread
  · cases hread : reader image .singleLevel with
    | error fault =>
      rw [hread] at h
      cases h
    | ok single =>
      rw [hread] at h
      cases h
      exact hreader image .singleLevel table hread
  · cases h

theorem Counted.load (h : i.Counted) (files : Files) (image : Bytes) :
    (i.load files image).2.1.Counted := by
  refine ⟨?_, ?_⟩
  · unfold DebugInfo.load
    cases hopen : openImage i.reader image with
    | error fault => exact numbered_of_table_eq_none rfl
    | ok opened =>
      obtain ⟨table, format⟩ := opened
      intro table' htable
      cases (i.table_adopt files table).symm.trans htable
      exact one_le_line_of_openImage h.reader hopen
  · rw [(i.load_current? files image).2]
    exact h.reader

end DebugInfo

namespace Debugger

variable {d : Debugger}

theorem counted_reloaded (h : d.session.debugInfo.Counted) : d.reloaded.Counted := by
  unfold reloaded
  split
  · exact h.invalidate.load d.world.files _
  · exact h.invalidate

/-- An action leaves debug information whose lines are counted from one. -/
theorem counted_run (h : d.session.debugInfo.Counted) (a : Action) :
    (a.run d).session.debugInfo.Counted := by
  rw [Action.debugInfo_run]
  unfold Action.nextInfo
  split
  · unfold Notification.nextInfo
    split
    · exact counted_reloaded h
    · exact h.setUnavailable
    · exact h
  · split
    · exact h.invalidate
    · exact h

/-! ## The commands that belong to a state -/

/-- **The commands of a state are valid**, if requests are typed and lines are counted from one. -/
theorem Issues.isValid {c : Command} (h : d.Issues Request.Typed (0 ≤ ·) c)
    (hcounted : d.session.debugInfo.Counted) : c.isValid = true := by
  cases h with
  | request hr _ hc => exact isValid_of_command? hcounted.table hr.sendable.1 hr.sendable.2 hc
  | delete h => exact decide_eq_true h
  | disable h => exact decide_eq_true h
  | @momentary table kind pc addresses rest _ _ _ hsome hcount _ =>
    have hlength : 0 < addresses.length := List.length_pos_iff.mpr hsome
    have hpos : 0 < Int32.ofNat addresses.length := by
      rw [Int32.lt_iff_toInt_lt, Int32.toInt_ofNat_of_lt hcount, Int32.toInt_zero]
      omega
    exact decide_eq_true hpos
  | continueDispatch => rfl
  | logging enabled => cases enabled <;> rfl

/-! ## Runs in which requests are typed -/

/-- Every request of the state is typed, and lines are counted from one. -/
structure WellTyped (d : Debugger) : Prop where
  requests : d.Holds Request.Typed
  lines : d.session.debugInfo.Counted

namespace WellTyped

theorem run (h : d.WellTyped) {a : Action} (ha : a.IsTyped) : (a.run d).WellTyped :=
  ⟨h.requests.run (fun _ statement hr => .filled statement hr) ha, counted_run h.lines a⟩

theorem after (h : d.WellTyped) {actions : List Action} (ha : ∀ a ∈ actions, a.IsTyped) :
    (d.after actions).WellTyped := by
  induction actions generalizing d with
  | nil => exact h
  | cons a actions ih =>
    rw [List.forall_mem_cons] at ha
    exact ih (h.run ha.1) ha.2

/-- The channel does not matter. -/
theorem on (h : d.WellTyped) (channel : Channel) : (d.on channel).WellTyped :=
  ⟨h.requests.of_view_eq (fun _ => rfl) fun _ => rfl, h.lines⟩

theorem passes (h : d.WellTyped) {a : Action} (ha : a.IsTyped) :
    (d.on (a.channel d)).Passes (fun c => c.isValid = true) (a.run d) :=
  (a.passes (fun _ statement hr => .filled statement hr) h.requests ha).mono fun _ hc =>
    hc.isValid (counted_run h.lines a)

end WellTyped

/-- **No request of a user makes the session pass an invalid command.** The reader of code objects
counts lines from one. With any reader that does so, take any run in which requests come from the
grammar and breakpoints have numbers. Whatever the channel is then, the next action passes only
valid commands, and closes an open channel only by a command that was not taken whole. -/
theorem only_valid_passed :
    ImageReader.Numbered CodeObject.read ∧
    ∀ (config : Config) (reader : ImageReader) (host : Host) (world : World)
      (actions : List Action) (a : Action) (channel : Channel),
      reader.Numbered → host.breakpoints = .empty → (∀ b ∈ a :: actions, b.IsTyped) →
      let d := (Debugger.after ⟨Session.ofConfig config reader, host, world⟩ actions).on channel
      (d.on (a.channel d)).Passes (fun c => c.isValid = true) (a.run d) ∧
      ((a.channel d).isOpen = true → (a.run d).session.channel.isOpen = false →
        ∃ t ∈ (a.run d).world.transmissions.drop d.world.transmissions.length,
          t.isComplete = false) := by
  refine ⟨CodeObject.read_numbered, fun config reader host world actions a channel hreader hhost
    ha => ?_⟩
  intro d
  rw [List.forall_mem_cons] at ha
  have hstart : WellTyped ⟨Session.ofConfig config reader, host, world⟩ :=
    ⟨holds_start config reader host world hhost, DebugInfo.numbered_of_table_eq_none rfl, hreader⟩
  have hpasses := ((hstart.after ha.2).on channel).passes ha.1
  exact ⟨hpasses, hpasses.closes fun _ => id⟩

/-- A code object is taken over, and a breakpoint on its line 4 is typed, stored and sent. -/
def typing : List Action :=
  [.openChannel .onPipe, .notification Op.published,
    .store ⟨1, .any, .source (some "temp_source") 4 none⟩,
    .resolve ⟨1, .any, .source (some "temp_source") 4 none⟩]

/-- The code object is taken over once more: the breakpoint is resolved again from the copy of the
host, and only valid commands are passed. -/
theorem typed_line_passed :
    let d := (Debugger.after
      ⟨Session.ofConfig { Config.standard with pendingCapacity := 4 } Op.twoObjects, .empty,
        Op.publishing [1]⟩ typing).on (.onPipe)
    d.Passes (fun c => c.isValid = true) ((Action.notification Op.published).run d) ∧
      ((Action.notification Op.published).run d).world.transmissions.map (·.command.line) =
        [4, 4] := by
  have hreader : ImageReader.Numbered Op.twoObjects := by
    intro image format table htable row hrow
    cases htable
    obtain rfl := List.mem_singleton.mp hrow
    dsimp only
    split <;> decide
  have htyped : Request.Typed ⟨1, .any, .source (some "temp_source") 4 none⟩ := by
    have hparse : Grammar.parse ⟨"rocm", "temp_source"⟩ 1 "rocm:4" none =
        .ok ⟨1, .any, .source (some "temp_source") 4 none⟩ := rfl
    exact .parsed (by decide) hparse
  have hactions : ∀ b ∈ Action.notification Op.published :: typing, b.IsTyped := by
    simp only [typing, List.forall_mem_cons]
    exact ⟨trivial, trivial, trivial, htyped, htyped, fun _ => nofun⟩
  exact ⟨(only_valid_passed.2 { Config.standard with pendingCapacity := 4 } Op.twoObjects .empty
    (Op.publishing [1]) typing (.notification Op.published) .onPipe hreader rfl hactions).1,
    by decide +kernel⟩

end Debugger

end GpuDebug
