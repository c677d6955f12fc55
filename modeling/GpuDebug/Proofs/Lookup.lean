import GpuDebug.Proofs.Flushing
import GpuDebug.Proofs.Lines
import GpuDebug.Proofs.Requests

/-!
# Requests that do not stop a flush

While a flush goes on, a request stops it only if its command breaks the channel. Over an open pipe
that takes everything this takes a command that is not valid. Looking a request up does not stop a
flush if the load map can be read, and the command that is found is valid if the request has a
number, a kernel has a name, and the lines of the line table have numbers.

* `Op.Harmless`: no failure stops a flush.
* `Debugger.harmless_command?`: looking a request up is harmless.
* `Debugger.isValid_of_command?`: what is found is valid.
* `Op.sendRequest_of_accepts`: handing a request over an open pipe that takes everything.
* `Op.not_stops`: such a request does not stop a flush.
-/

namespace GpuDebug

/-- A command for a breakpoint on a kernel is valid, if the breakpoint has a number and the kernel a
name. -/
theorem Command.isValid_createKernel {number : Int32} {name : String} (hnumber : 0 ≤ number)
    (hname : name ≠ "") (condition : PacketCondition) :
    (createKernel number name condition).isValid = true := by
  simp [isValid, createKernel, blank, hnumber, hname]

namespace Op

variable {α β : Type}

/-- If there is a failure, it is none that stops a flush. -/
def Harmless (x : Except Error α) : Prop :=
  ∀ e, x = .error e → stopsFlush e = false

namespace Harmless

theorem ok (a : α) : Harmless (.ok a) := nofun

theorem error {e : Error} (h : stopsFlush e = false) : Harmless (.error e : Except Error α) := by
  intro e' heq
  cases heq
  exact h

theorem bind {x : Except Error α} {f : α → Except Error β} (h : Harmless x)
    (hf : ∀ a, x = .ok a → Harmless (f a)) : Harmless (x >>= f) := by
  cases hx : x with
  | error e => exact .error (h e hx)
  | ok a => exact hf a hx

end Harmless

theorem harmless_packetLine (line : UInt64) : Harmless (packetLine line) := by
  unfold packetLine
  split
  · exact .ok _
  · exact .error rfl

/-- A packet carries lines as positive numbers. -/
theorem packetLine_pos {line : UInt64} {packet : Int32} (hline : 1 ≤ line)
    (h : packetLine line = .ok packet) : 0 < packet := by
  unfold packetLine at h
  split at h
  · next hlt =>
    cases h
    have hone : 1 ≤ line.toNat := UInt64.le_iff_toNat_le.mp hline
    rw [Int32.lt_iff_toInt_lt, Int32.toInt_ofNat_of_lt hlt, Int32.toInt_zero]
    omega
  · cases h

end Op

open Op (Harmless)

namespace DebugInfo

variable {i : DebugInfo}

theorem harmless_require (i : DebugInfo) : Harmless i.require := by
  unfold require
  split
  · exact .ok _
  · exact .error rfl

theorem harmless_resolveLine (i : DebugInfo) (file : Option String) (line : UInt64) :
    Harmless (i.resolveLine file line) := by
  unfold resolveLine
  refine .bind i.harmless_require fun table _ => ?_
  split
  · exact .ok _
  · exact .ok _
  · exact .error rfl

theorem harmless_firstAddress (i : DebugInfo) (place : CodeLocation) :
    Harmless (i.firstAddress place) := by
  unfold firstAddress
  refine .bind i.harmless_require fun table _ => ?_
  split
  · exact .ok _
  · exact .ok _
  · exact .error rfl

/-- The lines of the line table have numbers, counted from one. -/
def Numbered (i : DebugInfo) : Prop :=
  ∀ table, i.table = some table → ∀ row ∈ table.rows, 1 ≤ row.line

theorem require_eq_ok {table : LineTable} (h : i.require = .ok table) : i.table = some table := by
  unfold require at h
  split at h
  · next table' htable =>
    cases h
    exact htable
  · cases h

/-- A line that is found is the nearest one of the table. -/
theorem resolveLine_eq_some {file : Option String} {line : UInt64} {place : CodeLocation}
    (h : i.resolveLine file line = .ok (some place)) :
    ∃ table, i.table = some table ∧ table.nearest file line = .ok place := by
  obtain ⟨table, hrequire, h⟩ := except_bind_eq_ok h
  refine ⟨table, require_eq_ok hrequire, ?_⟩
  split at h
  · next place' hplace =>
    cases h
    exact hplace
  · cases h
  · cases h

/-- An address that is found is the first one of the table. -/
theorem firstAddress_eq_some {place : CodeLocation} {address : UInt64} {table : LineTable}
    (htable : i.table = some table) (h : i.firstAddress place = .ok (some address)) :
    ∃ others, table.addresses place = .ok (address :: others) := by
  obtain ⟨table', hrequire, h⟩ := except_bind_eq_ok h
  cases htable.symm.trans (require_eq_ok hrequire)
  split at h
  · next addresses haddresses =>
    have hhead : addresses.head? = some address := Except.ok.inj h
    obtain ⟨others, rfl⟩ := List.head?_eq_some_iff.mp hhead
    exact ⟨others, haddresses⟩
  · cases h
  · cases h

end DebugInfo

namespace Debugger

variable {d : Debugger} {r : Request} {segments : SegmentTable}

theorem harmless_toProcess (segments : SegmentTable) (address : UInt64) :
    Harmless (segments.toProcess address) := by
  unfold SegmentTable.toProcess
  split
  · exact .ok _
  · exact .error rfl

theorem harmless_placement? (hsegments : d.usableSegments = .ok segments) (line : UInt64) :
    Harmless (d.placement? line) := by
  unfold placement?
  refine .bind (DebugInfo.harmless_resolveLine _ _ _) fun place? _ => ?_
  cases place? with
  | none => exact .ok _
  | some place =>
    refine .bind (DebugInfo.harmless_firstAddress _ _) fun address? _ => ?_
    cases address? with
    | none => exact .ok _
    | some address =>
      rw [hsegments]
      refine .bind (.ok segments) fun segments _ => .bind (harmless_toProcess _ _) fun pc _ => ?_
      exact .bind (Op.harmless_packetLine _) fun line _ => .ok _

theorem harmless_command? (hsegments : d.usableSegments = .ok segments) (r : Request) :
    Harmless (d.command? r) := by
  unfold command?
  cases r.location with
  | source file line statement =>
    refine fun e he => harmless_placement? hsegments line e ?_
    cases hplacement : d.placement? line with
    | error e' =>
      simp only [hplacement] at he
      cases he
      rfl
    | ok p? =>
      simp only [hplacement] at he
      cases he
  | kernel name => exact .ok _
  | anywhere name => exact .ok _
  | unknown => exact .error rfl

/-- **Where a line is**, if a place for it is found: at the first address of the nearest line with
code, moved to where the segments are loaded. -/
theorem placement?_eq_some {line : UInt64} {p : Placement} (h : d.placement? line = .ok (some p)) :
    ∃ table place others segments, d.session.debugInfo.table = some table ∧
      table.nearest none line = .ok place ∧ table.addresses place = .ok (p.address :: others) ∧
      d.usableSegments = .ok segments ∧ segments.toProcess p.address = .ok p.pc ∧
      Op.packetLine place.line = .ok p.line := by
  obtain ⟨place?, hplace, h⟩ := except_bind_eq_ok h
  cases place? with
  | none => cases h
  | some place =>
    obtain ⟨address?, haddress, h⟩ := except_bind_eq_ok h
    cases address? with
    | none => cases h
    | some address =>
      obtain ⟨segments, hsegments, h⟩ := except_bind_eq_ok h
      obtain ⟨pc, hpc, h⟩ := except_bind_eq_ok h
      obtain ⟨packet, hpacket, h⟩ := except_bind_eq_ok h
      cases h
      obtain ⟨table, htable, hnearest⟩ := DebugInfo.resolveLine_eq_some hplace
      obtain ⟨others, haddresses⟩ := DebugInfo.firstAddress_eq_some htable haddress
      exact ⟨table, place, others, segments, htable, hnearest, haddresses, hsegments, hpc, hpacket⟩

/-- The line of a place is that of the line table. -/
theorem placement?_line_pos (hnumbered : d.session.debugInfo.Numbered) {line : UInt64}
    {p : Placement} (h : d.placement? line = .ok (some p)) : 0 < p.line := by
  obtain ⟨table, place, others, segments, htable, hnearest, -, -, -, hpacket⟩ :=
    placement?_eq_some h
  rcases table.nearest_cases none line with ⟨row, hrow, hplace⟩ | hnone
  · cases hnearest.symm.trans hplace
    exact Op.packetLine_pos (hnumbered table htable row hrow) hpacket
  · rw [hnone] at hnearest
    cases hnearest

/-- The command that is found is valid, if kernels have names and lines have numbers. -/
theorem isValid_of_command? {c : Command} (hnumbered : d.session.debugInfo.Numbered)
    (hnumber : 0 ≤ r.number) (hnamed : r.location.Named) (h : d.command? r = .ok (some c)) :
    c.isValid = true := by
  cases hr : r.location with
  | unknown =>
    rw [hr] at hnamed
    exact hnamed.elim
  | kernel name =>
    rw [hr] at hnamed
    rw [command?, hr] at h
    cases h
    exact Command.isValid_createKernel hnumber hnamed _
  | anywhere name =>
    rw [hr] at hnamed
    rw [command?, hr] at h
    cases h
    exact Command.isValid_createKernel hnumber hnamed _
  | source file line statement =>
    obtain ⟨p, hp, rfl⟩ := (command?_eq_some_iff hr).mp h
    have hline := placement?_line_pos hnumbered hp
    simp [Command.isValid, Placement.command, Command.createSource, Command.blank, hnumber, hline]

end Debugger

namespace Op

variable {d : Debugger} {r : Request} {segments : SegmentTable}

/-- Handing a request over an open pipe that takes everything: the channel stays open and no failure
stops a flush, or the command is not valid and breaks the channel. -/
theorem sendRequest_of_accepts (hsegments : d.usableSegments = .ok segments)
    (hopen : d.session.channel.isOpen = true) (haccepts : d.world.Accepts) :
    (((sendRequest r).final d).session.channel.isOpen = true ∧
      ∀ e d', (sendRequest r).run d = .error e d' → stopsFlush e = false) ∨
    ∃ c e d', d.command? r = .ok (some c) ∧ ¬ c.isValid = true ∧
      (sendRequest r).run d = .error e d' ∧ e.breaksContract = true ∧
      d'.session.channel.isOpen = false := by
  have stays : ∀ {d₁ : Debugger}, d.Looked d₁ → d₁.session.channel.isOpen = true := by
    intro d₁ hl
    rw [hl.session]
    exact hopen
  cases hrun : (sendRequest r).run d with
  | ok outcome d' =>
    rw [final_of_ok hrun]
    refine .inl ⟨?_, fun e d'' h => by cases h⟩
    cases Hands.of_run hrun with
    | unmapped hc hl => exact stays hl
    | sent hc hl hs =>
      obtain ⟨t, -, hfate, hd⟩ := send_eq_ok hs
      have hcomplete : t.isComplete = true := by rw [Transmission.isComplete, hfate]
      exact hd.isOpen.trans hcomplete
  | error e d' =>
    rw [final_of_error hrun]
    cases Hands.of_run hrun with
    | failed hc hl =>
      refine .inl ⟨stays hl, fun e' d'' h => ?_⟩
      cases h
      exact Debugger.harmless_command? hsegments r e hc
    | @unsent c _ d₁ _ hc hl hs =>
      have haccepts₁ : d₁.world.Accepts := hl.world ▸ haccepts
      rcases send_of_accepts (c := c) (stays hl) haccepts₁ with
        ⟨_, _, -, -, -, hok⟩ | ⟨hinvalid, herror⟩
      · rw [hok] at hs
        cases hs
      · rw [herror] at hs
        cases hs
        exact .inr ⟨c, c.incomplete, d₁.shut, hc, hinvalid, rfl, rfl, rfl⟩

/-- A request with a valid command does not stop a flush over an open pipe that takes everything. -/
theorem not_stops (hsegments : d.usableSegments = .ok segments)
    (hopen : d.session.channel.isOpen = true) (haccepts : d.world.Accepts)
    (hvalid : ∀ c, d.command? r = .ok (some c) → c.isValid = true) : ¬ Stops r d := by
  rintro ⟨e, d', hrun, hstops⟩
  rcases sendRequest_of_accepts (r := r) hsegments hopen haccepts with
    ⟨-, hmild⟩ | ⟨c, _, _, hc, hinvalid, -⟩
  · rw [hmild e d' hrun] at hstops
    cases hstops
  · exact hinvalid (hvalid c hc)

end Op

end GpuDebug
