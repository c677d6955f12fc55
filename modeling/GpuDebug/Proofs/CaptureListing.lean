import GpuDebug.Cli.Program
import GpuDebug.Proofs.FileWriting
import GpuDebug.Proofs.HitReports
import GpuDebug.Proofs.NotificationFormat
import GpuDebug.Proofs.OneLine
import GpuDebug.Proofs.Reading
import Mathlib.Data.List.Forall2

/-!
# Listing a capture

Every file can be listed as a capture. Each whole packet gives one line, which depends on its number
and its own bytes only, and the bytes behind the last packet are counted in one line more.

* `Capture.Holds`: the notifications in the blocks of a capture.
* `Capture.exists_holds`, `Capture.lines_of_holds`: every capture holds notifications, and these are
  listed.
* `Capture.Holds.append`: what follows whole packets is read as if it stood alone.
* `Cli.Surroundings.OverFiles`: surroundings in which opening the log changes no other file;
  `Cli.run_decodeNotifications` says that there the program lists what a file holds.
* `Capture.every_capture_listed`: the main result.
-/

namespace GpuDebug

/-- The line about a notification, behind its number. -/
def Notification.numbered (n : Notification) (index : Nat) : String :=
  "#" ++ Numeral.padRight 4 (toString index) ++ " " ++ n.summary

namespace Capture

variable {bytes first second : Bytes} {shown others : List Notification} {k : Nat}

/-! ## The notifications of a capture -/

/-- The block of a capture with a number. -/
def block (bytes : Bytes) (index : Nat) : Bytes :=
  (bytes.drop (index * Notification.size)).take Notification.size

/-- A capture holds as many notifications as there are whole packets in it, each of them in its own
block. -/
structure Holds (bytes : Bytes) (shown : List Notification) : Prop where
  length : shown.length = bytes.length / Notification.size
  decode : ∀ i n, shown[i]? = some n → Notification.decode (block bytes i) = .ok n

/-- The packets are decoded one by one. -/
theorem holds_iff_forall₂ : Holds bytes shown ↔
    List.Forall₂ (fun packet n => Notification.decode packet = .ok n) (packets bytes) shown := by
  rw [List.forall₂_iff_get]
  constructor
  · rintro ⟨hlength, hdecode⟩
    refine ⟨(length_packets bytes).trans hlength.symm, fun i hi hi' => ?_⟩
    have hpacket := (getElem?_packets (List.getElem?_eq_getElem hi)).1
    rw [List.get_eq_getElem, hpacket]
    exact hdecode i _ (List.getElem?_eq_getElem hi')
  · rintro ⟨hlength, hdecode⟩
    refine ⟨hlength.symm.trans (length_packets bytes), fun i n hn => ?_⟩
    obtain ⟨hi', rfl⟩ := List.getElem?_eq_some_iff.mp hn
    have hi : i < (packets bytes).length := hlength.symm ▸ hi'
    have hpacket := (getElem?_packets (List.getElem?_eq_getElem hi)).1
    rw [block, ← hpacket]
    exact hdecode i hi hi'

/-- Every capture holds notifications, whatever its bytes are. -/
theorem exists_holds (bytes : Bytes) : ∃ shown, Holds bytes shown := by
  have hdecode : ∀ packet ∈ packets bytes, ∃ n, Notification.decode packet = .ok n := by
    intro packet hpacket
    obtain ⟨i, hi⟩ := List.mem_iff_getElem?.mp hpacket
    exact (Notification.exists_decode_iff packet).mpr (getElem?_packets hi).2
  choose! read hread using hdecode
  refine ⟨(packets bytes).map read, holds_iff_forall₂.mpr ?_⟩
  rw [List.forall₂_map_right_iff, List.forall₂_same]
  exact hread

/-- Whole packets do not change what stands behind them. -/
theorem packets_append (h : first.length = k * Notification.size) (second : Bytes) :
    packets (first ++ second) = packets first ++ packets second := by
  induction k generalizing first with
  | zero =>
    rw [Nat.zero_mul, List.length_eq_zero_iff] at h
    subst h
    rfl
  | succ k ih =>
    rw [Nat.succ_mul] at h
    have hle : Notification.size ≤ first.length := h ▸ Nat.le_add_left _ _
    have hrest : (first.drop Notification.size).length = k * Notification.size := by
      rw [List.length_drop, h, Nat.add_sub_cancel]
    have hle' : Notification.size ≤ (first ++ second).length := by
      rw [List.length_append]
      exact Nat.le_add_right_of_le hle
    rw [packets_of_le hle, packets_of_le hle', List.take_append_of_le_length hle,
      List.drop_append_of_le_length hle, ih hrest, List.cons_append]

/-- What follows whole packets is read as if it stood alone. -/
theorem Holds.append (h : Holds first shown) (h' : Holds second others)
    (hfirst : first.length = k * Notification.size) :
    Holds (first ++ second) (shown ++ others) := by
  rw [holds_iff_forall₂] at h h' ⊢
  rw [packets_append hfirst]
  exact List.rel_append h h'

/-! ## The lines of a capture -/

/-- Lines are made packet by packet, with growing numbers. -/
theorem mapM_packetLine {ps : List Bytes}
    (h : List.Forall₂ (fun packet n => Notification.decode packet = .ok n) ps shown)
    (start : Nat) :
    (ps.zipIdx start).mapM (fun (packet, index) => packetLine packet index) =
      .ok (shown.mapIdx fun i n => n.numbered (start + i)) := by
  induction h generalizing start with
  | nil => rfl
  | @cons packet n ps shown hdecode _ ih =>
    have hline : packetLine packet start = .ok (n.numbered start) := by
      rw [packetLine, hdecode]
      rfl
    rw [List.zipIdx_cons, List.mapM_cons, ih, List.mapIdx_cons]
    dsimp only
    rw [hline]
    simp only [Nat.add_assoc, Nat.add_comm 1]
    rfl

theorem lines_of_holds (h : Holds bytes shown) :
    lines bytes = .ok (shown.mapIdx (fun i n => n.numbered i) ++ trailer bytes) := by
  have hlines := mapM_packetLine (holds_iff_forall₂.mp h) 0
  simp only [Nat.zero_add] at hlines
  rw [lines, packetLines, hlines]
  rfl

/-- Whatever the texts in the packets are, no line is broken. -/
theorem oneLine_of_lines {lines : List String} (h : Capture.lines bytes = .ok lines) :
    ∀ line ∈ lines, Text.OneLine line := by
  obtain ⟨shown, hshown⟩ := exists_holds bytes
  rw [lines_of_holds hshown, Except.ok.injEq] at h
  subst h
  intro line hline
  rcases List.mem_append.mp hline with hline | hline
  · obtain ⟨i, hi, rfl⟩ := List.mem_mapIdx.mp hline
    exact .append (.append (.append (by decide) (.padRight (.ofNat i) 4)) (by decide))
      (Notification.oneLine_summary _)
  · unfold trailer at hline
    dsimp only at hline
    split at hline
    · cases hline
    · rw [List.mem_singleton.mp hline]
      exact .append (.append (.append (.ofNat _) (by decide : Text.OneLine _)) (.ofNat _))
        (by decide : Text.OneLine " bytes each)")

end Capture

/-! ## The command -/

namespace Cli

variable {s : Surroundings (StateM Files)} {fs : Files} {bytes : Bytes} {lines : List String}
  {file : String}

namespace Surroundings

/-- Surroundings with a store of files. Where the log goes, anything may be written; all other files
keep their bytes. -/
structure OverFiles (s : Surroundings (StateM Files)) : Prop where
  read : ∀ path fs, (s.read path).run fs = (fs.read path, fs)
  touch : ∀ log path fs bytes, fs.find log ≠ fs.find path → fs.read path = .ok bytes →
    ((s.touch log).run fs).2.read path = .ok bytes

theorem overFiles_files (memory : SharedMemory) : (files memory).OverFiles where
  read _ _ := rfl
  touch log _ _ _ _ hread := Files.read_touch hread log

/-- A log may have any content as soon as it is opened. -/
theorem overFiles_logging (memory : SharedMemory) (content : Files → Bytes) :
    OverFiles { files memory with
      touch := fun log => modify fun fs => (fs.write log (content fs)).toOption.getD fs } where
  read _ _ := rfl
  touch log path fs bytes hother hread := by
    change ((fs.write log (content fs)).toOption.getD fs).read path = .ok bytes
    cases hwrite : fs.write log (content fs) with
    | error fault => exact hread
    | ok written => exact Files.read_write hwrite hother hread

end Surroundings

/-- What the file holds is listed. -/
theorem execute_decodeNotifications (hs : s.OverFiles) (c : Config)
    (hread : fs.read file = .ok bytes) (hlines : Capture.lines bytes = .ok lines) :
    (execute s c (.decodeNotifications file)).run fs = (.ok lines, fs) := by
  rw [execute, StateT.run_bind, hs.read, hread]
  change ((Capture.lines bytes).mapError Failure.error, fs) = _
  rw [hlines]
  rfl

theorem configuration_state (hs : s.OverFiles) (name : Option String) :
    ((configuration s name).run fs).2 = fs := by
  cases name with
  | none => rfl
  | some path =>
    rw [configuration, StateT.run_map, hs.read]
    rfl

/-- Opening the log keeps the bytes of a file that it does not go to. -/
theorem read_prepareLog (hs : s.OverFiles) {settings : LogSettings}
    (hother : settings.toFile = true → fs.find settings.path ≠ fs.find file)
    (hread : fs.read file = .ok bytes) :
    ((prepareLog s settings).run fs).2.read file = .ok bytes := by
  unfold prepareLog
  split
  · next hfile => exact hs.touch _ _ _ _ (hother (Bool.and_eq_true_iff.mp hfile).1) hread
  · exact hread

/-- The file is read once the log is open. -/
theorem run_decodeNotifications {arguments : List String} {config : Option String} {c : Config}
    (hs : s.OverFiles)
    (hparse : Invocation.parse arguments = .ok ⟨config, .decodeNotifications file⟩)
    (hconfig : ((configuration s config).run fs).1 = .ok c)
    (hread : ((prepareLog s c.logging).run fs).2.read file = .ok bytes)
    (hlines : Capture.lines bytes = .ok lines) :
    ((run s arguments).run fs).1 = ⟨0, lines, []⟩ := by
  have hstart : (configuration s config).run fs = (.ok c, fs) :=
    Prod.ext hconfig (configuration_state hs config)
  have hexecute := execute_decodeNotifications hs c hread hlines
  unfold run
  rw [hparse]
  dsimp only
  rw [StateT.run_bind, hstart]
  exact congrArg (fun result => Outcome.ofLines result.1) hexecute

end Cli

/-! ## The main result -/

namespace Capture

open Notification (size)

/-- The last line is there exactly if some bytes are left. -/
theorem trailer_eq (bytes : Bytes) :
    trailer bytes = if size ∣ bytes.length then [] else
      [s!"{bytes.length % size} trailing bytes do not form a packet ({size} bytes each)"] := by
  unfold trailer
  simp only [Nat.dvd_iff_mod_eq_zero]

/-- **Every capture is listed.** The bytes of a capture do not matter: there is a line for each
whole packet, in order, which shows its number and what is in its block of the capture, and a last
line if some bytes are left. No line is broken. A packet that reports hits shows those of the slots
with a number that is not negative, in the order of the slots. Behind whole packets a capture has
the lines that it has alone, with greater numbers. The command that lists a file prints the lines of
what the file holds once the log is open, and succeeds. This is what the file held before, unless
the log goes to it. -/
theorem every_capture_listed :
    (∀ bytes : Bytes, ∃ shown, Holds bytes shown ∧ ∃ lines, Capture.lines bytes = .ok lines ∧
      lines = shown.mapIdx (fun i n => n.numbered i) ++
        (if size ∣ bytes.length then [] else
          [s!"{bytes.length % size} trailing bytes do not form a packet ({size} bytes each)"]) ∧
      ∀ line ∈ lines, Text.OneLine line) ∧
    (∀ (packet : Bytes) (n : Notification), Notification.decode packet = .ok n →
      ((∃ numbers hits activeWaves, n = .breakpointHit numbers hits activeWaves) ↔
        Wire.word packet 0 = 4) ∧
      (Wire.word packet 0 = 4 → n.summary =
        "BreakpointHit " ++ Quoted.list (((List.range 32).filter
          fun slot => 0 ≤ (Wire.word packet (1 + slot)).toInt32).map fun slot =>
            s!"{(Wire.word packet (1 + slot)).toInt32}x{(Wire.word packet (33 + slot)).toInt32}") ++
          s!" active_waves={Wire.word packet 65}")) ∧
    (∀ (k : Nat) (first second : Bytes) (shown others : List Notification),
      first.length = k * size → Holds first shown → Holds second others →
      Capture.lines first = .ok (shown.mapIdx fun i n => n.numbered i) ∧
      Capture.lines second = .ok (others.mapIdx (fun i n => n.numbered i) ++ trailer second) ∧
      Capture.lines (first ++ second) = .ok (shown.mapIdx (fun i n => n.numbered i) ++
        (others.mapIdx (fun i n => n.numbered (k + i)) ++ trailer second))) ∧
    ∀ (s : Cli.Surroundings (StateM Files)) (arguments : List String) (config : Option String)
      (file : String) (c : Config) (fs : Files),
      s.OverFiles → Cli.Invocation.parse arguments = .ok ⟨config, .decodeNotifications file⟩ →
      ((Cli.configuration s config).run fs).1 = .ok c →
      (∀ bytes, (c.logging.toFile = true → fs.find c.logging.path ≠ fs.find file) →
        fs.read file = .ok bytes →
        ((Cli.prepareLog s c.logging).run fs).2.read file = .ok bytes) ∧
      ∀ bytes lines, ((Cli.prepareLog s c.logging).run fs).2.read file = .ok bytes →
        Capture.lines bytes = .ok lines → ((Cli.run s arguments).run fs).1 = ⟨0, lines, []⟩ := by
  refine ⟨fun bytes => ?_, fun packet n hdecode => ?_,
    fun k first second shown others hfirst h h' => ?_,
    fun s arguments config file c fs hs hparse hconfig =>
      ⟨fun _ => Cli.read_prepareLog hs, fun _ _ => Cli.run_decodeNotifications hs hparse hconfig⟩⟩
  · obtain ⟨shown, hshown⟩ := exists_holds bytes
    have hlines := lines_of_holds hshown
    refine ⟨shown, hshown, _, hlines, ?_, oneLine_of_lines hlines⟩
    rw [trailer_eq]
  · have hreport := Notification.report_iff hdecode
    refine ⟨hreport.1, fun htag => ?_⟩
    rw [hreport.2 htag]
    exact Notification.summary_report packet
  · have hwhole : trailer first = [] := by
      rw [trailer_eq, if_pos (hfirst ▸ Nat.dvd_mul_left _ _)]
    have hnumber : (first ++ second).length % Notification.size =
        second.length % Notification.size := by
      rw [List.length_append, hfirst, Nat.mul_add_mod_self_right]
    have htrailer : trailer (first ++ second) = trailer second := by
      rw [trailer, trailer, hnumber]
    have hcount : shown.length = k := by
      rw [h.length, hfirst, Nat.mul_div_cancel k Notification.size_pos]
    refine ⟨?_, lines_of_holds h', ?_⟩
    · rw [lines_of_holds h, hwhole, List.append_nil]
    · rw [lines_of_holds (h.append h' hfirst), htrailer, List.mapIdx_append, hcount,
        List.append_assoc]
      simp only [Nat.add_comm]

theorem holds_encode {n : Notification} {tail : Bytes}
    (h : Notification.decode n.encode = .ok n) (htail : tail.length < size) :
    Holds (n.encode ++ tail) [n] where
  length := by
    rw [List.length_append, n.length_encode, Nat.add_div_left _ Notification.size_pos,
      Nat.div_eq_of_lt htail]
    rfl
  decode i m hm := by
    cases i with
    | zero =>
      cases hm
      rwa [block, Nat.zero_mul, List.drop_zero, List.take_left' n.length_encode]
    | succ i => cases hm

/-- A capture of one packet, and one behind it that ends in a part of a packet. -/
theorem two_captures_listed :
    (Notification.beginDebugging.encode.length = 1 * size ∧
      Holds Notification.beginDebugging.encode [.beginDebugging] ∧
      Holds ((Notification.agentError 7).encode ++ [1, 2, 3]) [.agentError 7]) ∧
    Capture.lines (Notification.beginDebugging.encode ++
        ((Notification.agentError 7).encode ++ [1, 2, 3])) =
      .ok ["#0    BeginDebugging", "#1    AgentError \x7b code: 7 \x7d",
        "3 trailing bytes do not form a packet (1676 bytes each)"] ∧
    ((Cli.run (.files (.empty (.growing none))) ["decode-notifications", "capture"]).run
        ⟨[(["capture"], .file (Notification.beginDebugging.encode ++
          ((Notification.agentError 7).encode ++ [1, 2, 3])) false)]⟩).1 =
      ⟨0, ["#0    BeginDebugging", "#1    AgentError \x7b code: 7 \x7d",
        "3 trailing bytes do not form a packet (1676 bytes each)"], []⟩ := by
  have hlength : Notification.beginDebugging.encode.length = 1 * size := by
    rw [Notification.length_encode, Nat.one_mul]
  have hfirst : Holds Notification.beginDebugging.encode [.beginDebugging] := by
    have h : Holds (Notification.beginDebugging.encode ++ []) [.beginDebugging] :=
      holds_encode (Notification.decode_encode nofun) Notification.size_pos
    rwa [List.append_nil] at h
  have hsecond : Holds ((Notification.agentError 7).encode ++ [1, 2, 3]) [.agentError 7] :=
    holds_encode (Notification.decode_encode nofun) (by decide)
  have htrailer : trailer ((Notification.agentError 7).encode ++ [1, 2, 3]) =
      ["3 trailing bytes do not form a packet (1676 bytes each)"] := by
    rw [trailer, List.length_append, Notification.length_encode]
    decide
  have hlines := (every_capture_listed.2.2.1 1 _ _ _ _ hlength hfirst hsecond).2.2
  rw [htrailer] at hlines
  have hshown : [Notification.beginDebugging].mapIdx (fun i n => n.numbered i) ++
      ([Notification.agentError 7].mapIdx (fun i n => n.numbered (1 + i)) ++
        ["3 trailing bytes do not form a packet (1676 bytes each)"]) =
      ["#0    BeginDebugging", "#1    AgentError \x7b code: 7 \x7d",
        "3 trailing bytes do not form a packet (1676 bytes each)"] := rfl
  rw [hshown] at hlines
  have hread : ∀ bytes : Bytes,
      (⟨[(["capture"], .file bytes false)]⟩ : Files).read "capture" = .ok bytes := fun _ => rfl
  have hparse : Cli.Invocation.parse ["decode-notifications", "capture"] =
      .ok ⟨none, .decodeNotifications "capture"⟩ := rfl
  have hconfig : ∀ (memory : SharedMemory) (fs : Files),
      ((Cli.configuration (.files memory) none).run fs).1 = .ok Config.standard := fun _ _ => rfl
  have hother : ∀ bytes : Bytes, let fs : Files := ⟨[(["capture"], .file bytes false)]⟩
      fs.find Config.standard.logging.path ≠ fs.find "capture" := fun _ => nofun
  have hrun : ∀ (memory : SharedMemory) (bytes : Bytes) (lines : List String),
      Capture.lines bytes = .ok lines →
      ((Cli.run (.files memory) ["decode-notifications", "capture"]).run
        ⟨[(["capture"], .file bytes false)]⟩).1 = ⟨0, lines, []⟩ := by
    intro memory bytes lines hlines
    obtain ⟨hkept, hlisted⟩ := every_capture_listed.2.2.2 (.files memory) _ none _ _ _
      (Cli.Surroundings.overFiles_files memory) hparse (hconfig _ _)
    exact hlisted bytes lines (hkept bytes (fun _ => hother bytes) (hread bytes)) hlines
  exact ⟨⟨hlength, hfirst, hsecond⟩, hlines, hrun _ _ _ hlines⟩

end Capture

end GpuDebug
