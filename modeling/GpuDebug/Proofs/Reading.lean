import GpuDebug.Packet.Capture
import GpuDebug.Proofs.Decoding
import GpuDebug.Inbox

/-!
# Reading what arrives

A poll of the pipe reads one packet at most, and leaves the rest of what arrived first in front. So
the polls go through what arrived in order: all packets of the first arrival, what is left of it
behind the last packet, then the next arrival. Nothing is lost, read twice or shifted, and bytes
that do not fill a packet are never put together with those of another arrival.

* `Capture.getElem?_packets`: the packets of some bytes are its consecutive blocks.
* `Arrival.outcomes`: what the polls of one arrival bring. `Arrival.isRagged` says that it ends in a
  part of a packet.
* `Inbox.polls`: some polls, one after the other.
* `Inbox.poll_step`: one poll brings the first outcome of what has arrived, and leaves the others.
* `Inbox.polls_run`: the same of some polls.
* `Inbox.polls_bring_all`: the main result.
-/

namespace GpuDebug

/-! ## The packets of some bytes -/

theorem Notification.size_pos : 0 < size := by decide

namespace Capture

variable {bytes : Bytes}

theorem packets_of_lt (h : bytes.length < Notification.size) : packets bytes = [] := by
  rw [packets, Nat.div_eq_of_lt h]
  rfl

theorem packets_of_le (h : Notification.size ≤ bytes.length) :
    packets bytes =
      bytes.take Notification.size :: packets (bytes.drop Notification.size) := by
  have hcount : bytes.length / Notification.size =
      (bytes.drop Notification.size).length / Notification.size + 1 := by
    rw [List.length_drop, Nat.div_eq_sub_div Notification.size_pos h]
  rw [packets, hcount]
  rfl

theorem length_packets (bytes : Bytes) :
    (packets bytes).length = bytes.length / Notification.size := by
  have hpieces : ∀ count bytes, (pieces count bytes).length = count := by
    intro count
    induction count with
    | zero => exact fun _ => rfl
    | succ count ih => exact fun bytes => congrArg (· + 1) (ih _)
  exact hpieces _ bytes

/-- The packets of some bytes are its consecutive blocks. -/
theorem getElem?_packets {bytes packet : Bytes} {index : Nat}
    (h : (packets bytes)[index]? = some packet) :
    packet = (bytes.drop (index * Notification.size)).take Notification.size ∧
      packet.length = Notification.size := by
  induction index generalizing bytes with
  | zero =>
    by_cases hlt : bytes.length < Notification.size
    · rw [packets_of_lt hlt] at h
      cases h
    · have hle := Nat.le_of_not_lt hlt
      rw [packets_of_le hle, List.getElem?_cons_zero, Option.some.injEq] at h
      subst h
      rw [Nat.zero_mul, List.drop_zero]
      exact ⟨rfl, List.length_take_of_le hle⟩
  | succ index ih =>
    by_cases hlt : bytes.length < Notification.size
    · rw [packets_of_lt hlt] at h
      cases h
    · rw [packets_of_le (Nat.le_of_not_lt hlt), List.getElem?_cons_succ] at h
      obtain ⟨hpacket, hlength⟩ := ih h
      rw [List.drop_drop] at hpacket
      rw [Nat.succ_mul, Nat.add_comm]
      exact ⟨hpacket, hlength⟩

end Capture

/-! ## What an arrival brings -/

namespace Arrival

/-- What the polls of an arrival bring, one after the other: its packets, and how many bytes are
behind the last of them. -/
def outcomes : Arrival → List (Except Error Poll)
  | bytes content =>
    if content.isEmpty then [.ok .idle]
    else
      (Capture.packets content).map (Poll.packet <$> Notification.decode ·) ++
        if content.length % Notification.size = 0 then []
        else [.ok (.short (content.length % Notification.size))]
  | wouldBlock | interrupted => [.ok .idle]
  | failure detail => [.error (.inputOutput detail)]

/-- The arrival ends in a part of a packet. -/
def isRagged : Arrival → Bool
  | bytes content => content.length % Notification.size != 0
  | wouldBlock | interrupted | failure _ => false

variable {content : Bytes}

theorem outcomes_of_lt (hne : content ≠ []) (h : content.length < Notification.size) :
    (bytes content).outcomes = [.ok (.short content.length)] := by
  have hlength : content.length ≠ 0 := fun h => hne (List.eq_nil_of_length_eq_zero h)
  rw [outcomes, if_neg (by simpa using hne), Capture.packets_of_lt h, Nat.mod_eq_of_lt h,
    if_neg hlength]
  rfl

/-- The first packet of an arrival, and the outcomes of the rest if there is one. -/
theorem outcomes_of_le (h : Notification.size ≤ content.length) :
    (bytes content).outcomes =
      (Poll.packet <$> Notification.decode (content.take Notification.size)) ::
        if (content.drop Notification.size).isEmpty then []
        else (bytes (content.drop Notification.size)).outcomes := by
  have hne : content.isEmpty = false := by
    cases content with
    | nil => exact absurd h (Nat.not_le_of_lt Notification.size_pos)
    | cons => rfl
  have hmod : content.length % Notification.size =
      (content.drop Notification.size).length % Notification.size := by
    rw [List.length_drop, Nat.mod_eq_sub_mod h]
  rw [outcomes, hne, if_neg Bool.false_ne_true, Capture.packets_of_le h, hmod, List.map_cons,
    List.cons_append]
  congr 1
  cases hrest : content.drop Notification.size with
  | nil => rfl
  | cons b rest => rfl

theorem outcomes_ne_nil (a : Arrival) : a.outcomes ≠ [] := by
  cases a with
  | bytes content =>
    by_cases hne : content = []
    · subst hne
      exact List.cons_ne_nil _ _
    · by_cases hlt : content.length < Notification.size
      · rw [outcomes_of_lt hne hlt]
        exact List.cons_ne_nil _ _
      · rw [outcomes_of_le (Nat.le_of_not_lt hlt)]
        exact List.cons_ne_nil _ _
  | _ => exact List.cons_ne_nil _ _

/-- The rest of an arrival behind its first packet ends as the arrival does. -/
theorem isRagged_drop (h : Notification.size ≤ content.length) :
    (bytes (content.drop Notification.size)).isRagged = (bytes content).isRagged := by
  rw [isRagged, isRagged, List.length_drop, ← Nat.mod_eq_sub_mod h]

end Arrival

namespace World

/-- What the next polls of the pipe bring. -/
def outcomes (w : World) : List (Except Error Poll) :=
  w.arrivals.flatMap Arrival.outcomes

/-- How many of the arrivals end in a part of a packet. -/
def ragged (w : World) : Nat :=
  w.arrivals.countP Arrival.isRagged

theorem outcomes_eq_nil_iff {w : World} : w.outcomes = [] ↔ w.arrivals = [] := by
  unfold outcomes
  cases w.arrivals with
  | nil => exact iff_of_true rfl rfl
  | cons a others =>
    refine iff_of_false (fun h => ?_) (List.cons_ne_nil _ _)
    rw [List.flatMap_cons, List.append_eq_nil_iff] at h
    exact a.outcomes_ne_nil h.1

end World

/-! ## Polls -/

namespace Inbox

/-- Some polls, one after the other: what they bring, and the reader and the world after them. -/
def polls : Inbox → World → Nat → List (Except Error Poll) × Inbox × World
  | i, w, 0 => ([], i, w)
  | i, w, count + 1 =>
    let (outcome, i, w) := i.poll w
    let (outcomes, i, w) := i.polls w count
    (outcome :: outcomes, i, w)

theorem polls_succ (i : Inbox) (w : World) (count : Nat) :
    i.polls w (count + 1) =
      ((i.poll w).1 :: ((i.poll w).2.1.polls (i.poll w).2.2 count).1,
        ((i.poll w).2.1.polls (i.poll w).2.2 count).2) := rfl

theorem outcome_of_short {bytes : Bytes} (hne : bytes ≠ [])
    (h : bytes.length < Notification.size) : outcome bytes = .ok (.short bytes.length) := by
  rw [outcome, if_neg (by simpa using hne), if_neg (Nat.ne_of_lt h)]

theorem outcome_of_packet {bytes : Bytes} (h : bytes.length = Notification.size) :
    ∃ n, Notification.decode bytes = .ok n ∧ outcome bytes = .ok (.packet n) := by
  obtain ⟨n, hdecode⟩ := (Notification.exists_decode_iff bytes).mpr h
  have hne : ¬ bytes.isEmpty = true := by
    rw [List.isEmpty_iff]
    rintro rfl
    exact absurd h (Nat.ne_of_lt Notification.size_pos)
  refine ⟨n, hdecode, ?_⟩
  rw [outcome, if_neg hne, if_pos h, hdecode]
  rfl

/-- One poll of the pipe, as a step from a reader and a world to others. -/
structure Step (i : Inbox) (w : World) (x : Except Error Poll) (i' : Inbox) (w' : World) :
    Prop where
  source : i'.source = i.source
  path : i'.path = i.path
  world : w' = { w with arrivals := w'.arrivals }
  /-- What is brought and what is left are what there was. -/
  outcomes : w.outcomes = x :: w'.outcomes
  shortReads : i'.shortReads + w'.ragged = i.shortReads + w.ragged

namespace Step

variable {i : Inbox} {w : World} {a rest : Arrival} {others : List Arrival} {x : Except Error Poll}

/-- The poll takes all of the first arrival. -/
theorem of_all (hw : w.arrivals = a :: others) (ha : a.outcomes = [x]) {shortReads : Nat}
    (hshort : shortReads = i.shortReads + if a.isRagged then 1 else 0) :
    Step i w x { i with shortReads } { w with arrivals := others } := by
  refine ⟨rfl, rfl, rfl, ?_, ?_⟩
  · rw [World.outcomes, hw, List.flatMap_cons, ha]
    rfl
  · rw [World.ragged, World.ragged, hw, List.countP_cons, hshort]
    change i.shortReads + _ + others.countP Arrival.isRagged = _
    omega

/-- The poll takes a part of the first arrival. -/
theorem of_part (hw : w.arrivals = a :: others) (ha : a.outcomes = x :: rest.outcomes)
    (hragged : rest.isRagged = a.isRagged) :
    Step i w x i { w with arrivals := rest :: others } := by
  refine ⟨rfl, rfl, rfl, ?_, ?_⟩
  · rw [World.outcomes, hw, List.flatMap_cons, ha]
    rfl
  · rw [World.ragged, World.ragged, hw, List.countP_cons, List.countP_cons, hragged]

end Step

variable {i : Inbox} {w w' : World}

/-- How many short reads an outcome counts for. -/
def shorts : Except Error Poll → Nat
  | .ok (.short _) => 1
  | _ => 0

/-- A poll of the pipe that reads some bytes. -/
theorem poll_of_readPipe (hi : i.source = .pipe) {bytes : Bytes}
    (h : readPipe w = (.ok bytes, w')) :
    i.poll w =
      (outcome bytes, { i with shortReads := i.shortReads + shorts (outcome bytes) }, w') := by
  have hread : i.read w = (.ok bytes, i, w') := by
    unfold read
    rw [hi]
    dsimp only
    rw [h]
  unfold poll
  rw [hread]
  dsimp only
  cases outcome bytes with
  | error e => rfl
  | ok p => cases p <;> rfl

theorem poll_of_readPipe_error (hi : i.source = .pipe) {e : Error}
    (h : readPipe w = (.error e, w')) : i.poll w = (.error e, i, w') := by
  have hread : i.read w = (.error e, i, w') := by
    unfold read
    rw [hi]
    dsimp only
    rw [h]
  unfold poll
  rw [hread]

/-- Where nothing has arrived, a poll brings nothing and changes nothing. -/
theorem poll_of_nothing (hi : i.source = .pipe) (hw : w.arrivals = []) :
    i.poll w = (.ok .idle, i, w) := by
  have hread : readPipe w = (.ok [], w) := by rw [readPipe, hw]
  exact poll_of_readPipe hi hread

/-- **One poll brings the first outcome of what has arrived, and leaves the others.** -/
theorem poll_step (hi : i.source = .pipe) (hw : w.arrivals ≠ []) :
    Step i w (i.poll w).1 (i.poll w).2.1 (i.poll w).2.2 := by
  obtain ⟨a, others, hw⟩ := List.exists_cons_of_ne_nil hw
  cases a with
  | bytes content =>
    have hread : readPipe w = (.ok (content.take Notification.size),
        { w with arrivals :=
            if (content.drop Notification.size).isEmpty then others
            else .bytes (content.drop Notification.size) :: others }) := by
      rw [readPipe, hw]
    have hpoll := poll_of_readPipe hi hread
    by_cases hlt : content.length < Notification.size
    · have htake : content.take Notification.size = content := List.take_of_length_le (by omega)
      have hdrop : content.drop Notification.size = [] := List.drop_of_length_le (by omega)
      rw [htake, hdrop] at hpoll
      by_cases hne : content = []
      · subst hne
        rw [hpoll]
        exact .of_all hw rfl rfl
      · rw [outcome_of_short hne hlt] at hpoll
        rw [hpoll]
        refine .of_all hw (Arrival.outcomes_of_lt hne hlt) ?_
        rw [shorts]
        have hlength : content.length ≠ 0 := fun h => hne (List.eq_nil_of_length_eq_zero h)
        rw [Arrival.isRagged, Nat.mod_eq_of_lt hlt, if_pos (by simpa using hne)]
    · have hle := Nat.le_of_not_lt hlt
      obtain ⟨n, hdecode, houtcome⟩ := outcome_of_packet (List.length_take_of_le hle)
      have hfirst := Arrival.outcomes_of_le hle
      rw [hdecode] at hfirst
      rw [houtcome] at hpoll
      rw [hpoll]
      cases hrest : content.drop Notification.size with
      | nil =>
        rw [hrest] at hfirst
        have hragged := Arrival.isRagged_drop hle
        rw [hrest] at hragged
        refine .of_all hw hfirst ?_
        rw [← hragged]
        rfl
      | cons b rest =>
        rw [hrest] at hfirst
        refine .of_part hw hfirst ?_
        rw [← hrest]
        exact Arrival.isRagged_drop hle
  | wouldBlock =>
    have hread : readPipe w = (.ok [], { w with arrivals := others }) := by rw [readPipe, hw]
    rw [poll_of_readPipe hi hread]
    exact .of_all hw rfl rfl
  | interrupted =>
    have hread : readPipe w = (.ok [], { w with arrivals := others }) := by rw [readPipe, hw]
    rw [poll_of_readPipe hi hread]
    exact .of_all hw rfl rfl
  | failure detail =>
    have hread : readPipe w = (.error (.inputOutput detail), { w with arrivals := others }) := by
      rw [readPipe, hw]
    rw [poll_of_readPipe_error hi hread]
    exact .of_all hw rfl rfl

/-! ## Some polls -/

/-- What some polls bring and what they leave. -/
structure Run (i : Inbox) (w : World) (count : Nat) (xs : List (Except Error Poll)) (i' : Inbox)
    (w' : World) : Prop where
  source : i'.source = i.source
  path : i'.path = i.path
  world : w' = { w with arrivals := w'.arrivals }
  brought : xs = w.outcomes.take count ++
    List.replicate (count - w.outcomes.length) (.ok .idle)
  left : w'.outcomes = w.outcomes.drop count
  shortReads : i'.shortReads + w'.ragged = i.shortReads + w.ragged

/-- **Some polls bring the first outcomes of what has arrived, and leave the others.** If there are
fewer outcomes than polls, the other polls bring nothing. -/
theorem polls_run (hi : i.source = .pipe) (count : Nat) :
    Run i w count (i.polls w count).1 (i.polls w count).2.1 (i.polls w count).2.2 := by
  induction count generalizing i w with
  | zero =>
    refine ⟨rfl, rfl, rfl, ?_, rfl, rfl⟩
    rw [Nat.zero_sub]
    rfl
  | succ count ih =>
    rw [polls_succ]
    by_cases hw : w.arrivals = []
    · rw [poll_of_nothing hi hw]
      have hrest := ih hi (w := w)
      have hbrought := hrest.brought
      have hleft := hrest.left
      rw [World.outcomes_eq_nil_iff.mpr hw, List.take_nil, List.nil_append] at hbrought
      rw [World.outcomes_eq_nil_iff.mpr hw, List.drop_nil] at hleft
      refine ⟨hrest.source, hrest.path, hrest.world, ?_, ?_, hrest.shortReads⟩
      · rw [World.outcomes_eq_nil_iff.mpr hw, hbrought]
        rfl
      · rw [World.outcomes_eq_nil_iff.mpr hw, hleft, List.drop_nil]
    · have hstep := poll_step hi hw
      have hrest := ih (hstep.source.trans hi) (w := (i.poll w).2.2)
      refine ⟨hrest.source.trans hstep.source, hrest.path.trans hstep.path, ?_, ?_, ?_,
        hrest.shortReads.trans hstep.shortReads⟩
      · rw [hrest.world, hstep.world]
      · rw [hrest.brought, hstep.outcomes, List.length_cons, Nat.add_sub_add_right]
        rfl
      · rw [hrest.left, hstep.outcomes]
        rfl

/-- **The polls of the pipe bring what has arrived, arrival after arrival**, whatever it is and
however often the pipe is polled. Of an arrival they bring its consecutive blocks, each of which is
a notification, and the number of the bytes behind the last one; or that nothing was there; or what
went wrong. Each arrival that ends in a part of a packet is counted. -/
theorem polls_bring_all (path : Option String) (shortReads : Nat) (w : World) :
    let i : Inbox := ⟨.pipe, path, shortReads⟩
    let outcomes := w.arrivals.flatMap Arrival.outcomes
    (∀ count, (i.polls w count).1 =
      outcomes.take count ++ List.replicate (count - outcomes.length) (.ok .idle)) ∧
    (∀ count, (i.polls w count).2.2.arrivals = [] ↔ outcomes.length ≤ count) ∧
    (∀ count, outcomes.length ≤ count →
      (i.polls w count).2.1 = ⟨.pipe, path, shortReads + w.arrivals.countP Arrival.isRagged⟩ ∧
        (i.polls w count).2.2 = { w with arrivals := [] }) ∧
    ∀ content : Bytes,
      (Capture.packets content).length = content.length / Notification.size ∧
      ∀ index packet, (Capture.packets content)[index]? = some packet →
        packet = (content.drop (index * Notification.size)).take Notification.size ∧
          ∃ n, Notification.decode packet = .ok n := by
  intro i outcomes
  have hrun : ∀ count, Run i w count (i.polls w count).1 (i.polls w count).2.1
      (i.polls w count).2.2 := fun count => polls_run rfl count
  have hdrained : ∀ count, (i.polls w count).2.2.arrivals = [] ↔ outcomes.length ≤ count := by
    intro count
    rw [← World.outcomes_eq_nil_iff, (hrun count).left, List.drop_eq_nil_iff]
    rfl
  refine ⟨fun count => (hrun count).brought, hdrained, fun count hcount => ?_, fun content => ?_⟩
  · obtain ⟨hsource, hpath, hworld, -, -, hshort⟩ := hrun count
    rw [(hdrained count).mpr hcount] at hworld
    rw [World.ragged, (hdrained count).mpr hcount] at hshort
    refine ⟨?_, hworld⟩
    generalize (i.polls w count).2.1 = final at hsource hpath hshort ⊢
    obtain ⟨_, _, _⟩ := final
    cases hsource
    cases hpath
    cases hshort
    rfl
  · refine ⟨Capture.length_packets content, fun index packet hpacket => ?_⟩
    obtain ⟨hblock, hlength⟩ := Capture.getElem?_packets hpacket
    exact ⟨hblock, (Notification.exists_decode_iff packet).mpr hlength⟩

/-- Three bytes, an interrupted read and one more poll. -/
example :
    let w : World := { (default : World) with arrivals := [.bytes [1, 2, 3], .interrupted] }
    (onPipe.polls w 3).1 = [.ok (.short 3), .ok .idle, .ok .idle] := rfl

end Inbox

end GpuDebug
