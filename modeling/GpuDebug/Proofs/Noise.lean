import GpuDebug.Proofs.DebugHistory
import GpuDebug.Proofs.Listening

/-!
# Noise from the agent

Reads that find nothing, reads that bring too few bytes and packets of an unknown kind make no
difference, wherever they come in a sequence of events. Only the user sees them, as one line for
each read that brought too few bytes.

* `Debugger.next`, `Debugger.found`: what the reads of a sequence of events find.
* `Op.respond`: what handling an event does about what was found; `Action.run_event` says that it
  does nothing else but read.
* `Arrival.isNoise`: what makes no difference. `Debugger.signals` is the rest of what is found, and
  `Debugger.complaints` are the lines that the noise shows.
* `Debugger.SameBut`: two states that differ in what belongs to reading, and in lines that only the
  first one has shown.
* `Debugger.noise_makes_no_difference`: the main result.
-/

namespace GpuDebug

/-! ## What reads find -/

namespace Arrival

/-- What is read where this arrived. -/
def read : Arrival → Except Error Bytes
  | bytes content => .ok content
  | wouldBlock | interrupted => .ok []
  | failure detail => .error (.inputOutput detail)

/-- What a poll makes of it. -/
def poll (a : Arrival) : Except Error Poll :=
  a.read >>= Inbox.outcome

/-- One read takes all of it. -/
def Fits : Arrival → Prop
  | bytes content => content.length ≤ Notification.size
  | _ => True

instance : DecidablePred Fits
  | bytes content => inferInstanceAs (Decidable (content.length ≤ Notification.size))
  | wouldBlock | interrupted | failure _ => .isTrue trivial

/-- What a read from the pipe finds: at most one packet of what arrived first. -/
def first : List Arrival → Arrival
  | [] => bytes []
  | bytes content :: _ => bytes (content.take Notification.size)
  | arrival :: _ => arrival

theorem fits_first (arrivals : List Arrival) : (first arrivals).Fits := by
  cases arrivals with
  | nil => exact Nat.zero_le _
  | cons arrival others =>
    cases arrival with
    | bytes content => exact List.length_take_le _ _
    | _ => trivial

end Arrival

namespace Inbox

/-- What the next read finds. -/
def next (i : Inbox) (w : World) : Arrival :=
  match i.source with
  | .pipe => Arrival.first w.arrivals
  | .file path offset =>
    match w.files.readAt path offset Notification.size with
    | .ok bytes => .bytes bytes
    | .error fault => .failure fault.message

theorem fits_next (i : Inbox) (w : World) : (i.next w).Fits := by
  obtain ⟨source, ownPath, shortReads⟩ := i
  cases source with
  | pipe => exact Arrival.fits_first _
  | file path offset =>
    unfold next
    dsimp only
    cases hread : w.files.readAt path offset Notification.size with
    | error fault => trivial
    | ok bytes =>
      obtain ⟨content, -, hbytes⟩ := except_bind_eq_ok hread
      cases hbytes
      exact List.length_take_le _ _

/-- A read from the pipe takes what arrived first, if it fits. -/
theorem arrivals_readPipe {w : World} {a : Arrival} {others : List Arrival}
    (hw : w.arrivals = a :: others) (ha : a.Fits) : (readPipe w).2.arrivals = others := by
  unfold readPipe
  rw [hw]
  cases a with
  | bytes content =>
    have hrest : content.drop Notification.size = [] := List.drop_eq_nil_of_le ha
    dsimp only
    rw [hrest]
    rfl
  | _ => rfl

/-- A reader of the pipe stays one. -/
theorem poll_snd_of_pipe {i : Inbox} (hi : i.source = .pipe) (w : World) :
    (i.poll w).2.1.source = .pipe ∧ (i.poll w).2.2 = (readPipe w).2 := by
  unfold poll read
  rw [hi]
  dsimp only
  cases (readPipe w).1 with
  | error e => exact ⟨hi, rfl⟩
  | ok bytes =>
    dsimp only
    split <;> exact ⟨hi, rfl⟩

theorem read_fst (i : Inbox) (w : World) : (i.read w).1 = (i.next w).read := by
  obtain ⟨source, ownPath, shortReads⟩ := i
  cases source with
  | pipe =>
    change (readPipe w).1 = (Arrival.first w.arrivals).read
    unfold readPipe
    cases w.arrivals with
    | nil => rfl
    | cons arrival others => cases arrival <;> rfl
  | file path offset =>
    unfold read next readFile
    dsimp only
    cases w.files.readAt path offset Notification.size <;> rfl

theorem poll_fst (i : Inbox) (w : World) : (i.poll w).1 = (i.next w).poll := by
  rw [Arrival.poll, ← i.read_fst w]
  unfold poll
  split
  · next hread =>
    rw [hread]
    rfl
  · next bytes _ _ hread =>
    rw [hread]
    change _ = outcome bytes
    split
    · next houtcome => rw [houtcome]
    · rfl

end Inbox

/-! ## Events -/

namespace Debugger

/-- What the next event finds. Without a reader nothing is read. -/
def next (d : Debugger) : Arrival :=
  match d.session.inbox with
  | none => .bytes []
  | some inbox => inbox.next d.world

/-- What the next events find, one after the other. -/
def found (d : Debugger) : Nat → List Arrival
  | 0 => []
  | count + 1 => d.next :: (Action.event.run d).found count

/-- The state after some events. -/
def afterEvents (d : Debugger) (count : Nat) : Debugger :=
  d.after (List.replicate count .event)

theorem fits_next (d : Debugger) : d.next.Fits := by
  unfold next
  split
  · exact Nat.zero_le _
  · exact Inbox.fits_next _ _

theorem fits_found {d : Debugger} {count : Nat} {a : Arrival} (h : a ∈ d.found count) :
    a.Fits := by
  induction count generalizing d with
  | zero => cases h
  | succ count ih =>
    rcases List.mem_cons.mp h with rfl | h
    · exact d.fits_next
    · exact ih h

end Debugger

/-- What handling an event does about what its read has found. -/
def Op.respond (a : Arrival) : Op Unit := do
  match ← ofExcept a.poll with
  | .idle => pure ()
  | .short count => notify (Action.shortNotice count)
  | .packet n => dispatchNotification n

/-- **An event reads, and responds to what it finds.** -/
theorem Action.run_event (d : Debugger) :
    event.run d = (Op.respond d.next).final (event.received d) := by
  change Op.handleEvent.final d = _
  unfold Op.handleEvent Debugger.next received
  rw [Op.final_bind_of_ok (Op.run_session d)]
  cases hinbox : d.session.inbox with
  | none => rfl
  | some inbox =>
    have hrun := Op.run_pollInbox inbox d
    rw [inbox.poll_fst] at hrun
    dsimp only
    unfold Op.respond
    cases hpoll : (inbox.next d.world).poll with
    | error e =>
      rw [hpoll] at hrun
      rw [Op.final_of_error (Op.bind_of_error hrun)]
      rfl
    | ok poll =>
      rw [hpoll] at hrun
      rw [Op.final_bind_of_ok hrun, Op.final_bind_of_ok (Op.run_ofExcept_ok poll _)]
      cases poll with
      | idle => rfl
      | short count => rfl
      | packet n => exact Op.final_bind_of_final_eq (fun _ _ => rfl) _ _

/-! ## Noise -/

/-- Whether a poll brings nothing, too few bytes or a packet of an unknown kind. -/
def Poll.isNoise : Poll → Bool
  | idle | short _ | packet (.unknown _) => true
  | packet _ => false

namespace Arrival

/-- Whether a poll brings noise where this arrived. A read that fails is not noise. -/
def isNoise (a : Arrival) : Bool :=
  match a.poll with
  | .ok poll => poll.isNoise
  | .error _ => false

/-- The line that is shown if too few bytes arrived. -/
def complaint? (a : Arrival) : Option String :=
  match a.poll with
  | .ok (.short count) => some (Op.noticeMark ++ Action.shortNotice count)
  | _ => none

theorem complaint?_eq_none {a : Arrival} (h : a.isNoise = false) : a.complaint? = none := by
  unfold isNoise at h
  unfold complaint?
  split
  · next hpoll =>
    rw [hpoll] at h
    cases h
  · rfl

end Arrival

namespace Op

/-- The only response to noise is a line about too few bytes. -/
theorem respond_of_isNoise {a : Arrival} (h : a.isNoise = true) (d : Debugger) :
    (respond a).final d =
      { d with host := { d.host with notices := d.host.notices ++ a.complaint?.toList } } := by
  have quiet : { d with host := { d.host with notices := d.host.notices ++ [] } } = d := by
    rw [List.append_nil]
  unfold Arrival.isNoise at h
  unfold respond Arrival.complaint?
  cases hpoll : a.poll with
  | error e =>
    rw [hpoll] at h
    cases h
  | ok poll =>
    rw [hpoll] at h
    rw [final_bind_of_ok (run_ofExcept_ok poll d)]
    cases poll with
    | idle => exact quiet.symm
    | short count => rfl
    | packet n =>
      cases n with
      | unknown tag => exact quiet.symm
      | _ => cases h

theorem oblivious_respond {inbox : Option Inbox} {arrivals : List Arrival} {notices : List String}
    (a : Arrival) : Oblivious (.listening inbox arrivals notices) (respond a) := by
  refine .bind (.ofExcept _) fun poll => ?_
  cases poll with
  | idle => exact .pure _
  | short count => exact oblivious_notify _
  | packet n => exact oblivious_dispatchNotification n

end Op

/-! ## States that differ in what belongs to reading -/

namespace Debugger

variable {d e : Debugger} {lines : List String}

/-- The state without the reader, what arrives, and the lines that were shown. -/
def bare (d : Debugger) : Debugger where
  session := { d.session with inbox := none }
  host := { d.host with notices := [] }
  world := { d.world with arrivals := [] }

/-- The states differ in the reader, in what arrives, and in some lines that only the first one has
shown, between those that both have shown. -/
structure SameBut (lines : List String) (d e : Debugger) : Prop where
  bare : d.bare = e.bare
  sublist : e.host.notices.Sublist d.host.notices
  perm : d.host.notices.Perm (e.host.notices ++ lines)

theorem against_bare (d : Debugger) :
    d.bare.against (.listening d.session.inbox d.world.arrivals d.host.notices) = d := by
  have hnotices : d.host.notices ++ [] = d.host.notices := List.append_nil _
  unfold against Backdrop.host
  change Debugger.mk _ { d.host with notices := d.host.notices ++ [] } _ = _
  rw [hnotices]
  rfl

theorem bare_received (d : Debugger) : (Action.event.received d).bare = d.bare := by
  unfold Action.received
  split
  · next inbox _ _ =>
    change Debugger.mk _ _ { (inbox.poll d.world).2.2 with arrivals := [] } = _
    rw [Op.poll_world]
    rfl
  · rfl

theorem notices_received (d : Debugger) :
    (Action.event.received d).host.notices = d.host.notices := by
  unfold Action.received
  split <;> rfl

/-- An operation that does not look at the reader is the same without it. -/
theorem final_eq_against {α : Type} {op : Op α}
    (hop : ∀ inbox arrivals notices, Op.Oblivious (.listening inbox arrivals notices) op)
    (d : Debugger) : op.final d = (op.final d.bare).against
      (.listening d.session.inbox d.world.arrivals d.host.notices) := by
  have hfinal := (hop d.session.inbox d.world.arrivals d.host.notices).final d.bare
  rwa [against_bare] at hfinal

namespace SameBut

theorem received (h : SameBut lines d e) :
    SameBut lines (Action.event.received d) (Action.event.received e) := by
  refine ⟨?_, ?_, ?_⟩
  · rw [bare_received, bare_received, h.bare]
  · rw [notices_received, notices_received]
    exact h.sublist
  · rw [notices_received, notices_received]
    exact h.perm

/-- An operation that does not look at the reader does the same to both states. -/
theorem final {α : Type} {op : Op α}
    (hop : ∀ inbox arrivals notices, Op.Oblivious (.listening inbox arrivals notices) op)
    (h : SameBut lines d e) : SameBut lines (op.final d) (op.final e) := by
  rw [final_eq_against hop d, final_eq_against hop e, h.bare]
  refine ⟨rfl, h.sublist.append_right _, (h.perm.append_right _).trans ?_⟩
  change List.Perm _ ((e.host.notices ++ (op.final e.bare).host.notices) ++ lines)
  rw [List.append_assoc, List.append_assoc]
  exact List.perm_append_comm.append_left _

/-- An event in both states whose reads find the same. -/
theorem run_event (h : SameBut lines d e) (hnext : e.next = d.next) :
    SameBut lines (Action.event.run d) (Action.event.run e) := by
  rw [Action.run_event, Action.run_event, hnext]
  exact h.received.final fun _ _ _ => Op.oblivious_respond _

/-- An event in the first state whose read finds noise. -/
theorem run_event_left (h : SameBut lines d e) (hnoise : d.next.isNoise = true) :
    SameBut (lines ++ d.next.complaint?.toList) (Action.event.run d) e := by
  have hnotices := notices_received d
  rw [Action.run_event, Op.respond_of_isNoise hnoise]
  refine ⟨(bare_received d).trans h.bare, ?_, ?_⟩
  · refine h.sublist.trans ?_
    rw [← hnotices]
    exact List.sublist_append_left _ _
  · rw [hnotices, ← List.append_assoc]
    exact h.perm.append_right _

end SameBut

/-! ## Hearing a sequence of arrivals -/

/-- The state with a reader of the pipe on which the arrivals wait. -/
def hearing (d : Debugger) (arrivals : List Arrival) : Debugger where
  session := { d.session with inbox := some .onPipe }
  host := d.host
  world := { d.world with arrivals }

theorem sameBut_hearing (d : Debugger) (arrivals : List Arrival) :
    SameBut [] d (d.hearing arrivals) := by
  refine ⟨rfl, .refl _, ?_⟩
  rw [List.append_nil]
  exact .refl _

/-- A reader of the pipe is attached, and the arrivals wait there. -/
structure Hears (d : Debugger) (arrivals : List Arrival) : Prop where
  source : d.session.inbox.map (·.source) = some .pipe
  arrivals : d.world.arrivals = arrivals

theorem hears_hearing (d : Debugger) (arrivals : List Arrival) :
    (d.hearing arrivals).Hears arrivals :=
  ⟨rfl, rfl⟩

namespace Hears

variable {a : Arrival} {arrivals : List Arrival}

/-- An arrival that fits in one read is what the next event finds. -/
theorem next (h : d.Hears (a :: arrivals)) (ha : a.Fits) : d.next = a := by
  obtain ⟨inbox, hinbox, hsource⟩ := Option.map_eq_some_iff.mp h.source
  unfold Debugger.next
  rw [hinbox]
  dsimp only
  rw [Inbox.next, hsource]
  dsimp only
  rw [h.arrivals]
  cases a with
  | bytes content => exact congrArg Arrival.bytes (List.take_of_length_le ha)
  | _ => rfl

/-- Reading takes it away. -/
theorem received (h : d.Hears (a :: arrivals)) (ha : a.Fits) :
    (Action.event.received d).Hears arrivals := by
  obtain ⟨inbox, hinbox, hsource⟩ := Option.map_eq_some_iff.mp h.source
  obtain ⟨hreader, hworld⟩ := Inbox.poll_snd_of_pipe hsource d.world
  unfold Action.received
  rw [hinbox]
  refine ⟨congrArg some hreader, ?_⟩
  change (inbox.poll d.world).2.2.arrivals = arrivals
  rw [hworld]
  exact Inbox.arrivals_readPipe h.arrivals ha

theorem final {α : Type} {op : Op α}
    (hop : ∀ inbox arrivals notices, Op.Oblivious (.listening inbox arrivals notices) op)
    (h : d.Hears arrivals) : (op.final d).Hears arrivals := by
  rw [final_eq_against hop d]
  exact ⟨h.source, h.arrivals⟩

theorem run_event (h : d.Hears (a :: arrivals)) (ha : a.Fits) :
    (Action.event.run d).Hears arrivals := by
  rw [Action.run_event]
  exact (h.received ha).final fun _ _ _ => Op.oblivious_respond _

/-- The events find what arrives. -/
theorem found (h : d.Hears arrivals) (hfits : ∀ a ∈ arrivals, a.Fits) :
    d.found arrivals.length = arrivals := by
  induction arrivals generalizing d with
  | nil => rfl
  | cons a arrivals ih =>
    have ha := hfits a List.mem_cons_self
    have hlater := ih (h.run_event ha) fun a' ha' => hfits a' (List.mem_cons_of_mem a ha')
    rw [List.length_cons, Debugger.found, h.next ha, hlater]

end Hears

/-! ## Leaving the noise out -/

/-- What the next events find that is not noise. -/
def signals (d : Debugger) (count : Nat) : List Arrival :=
  (d.found count).filter (!·.isNoise)

theorem signals_succ_of_isNoise {count : Nat} (h : d.next.isNoise = true) :
    d.signals (count + 1) = (Action.event.run d).signals count := by
  rw [signals, found, List.filter_cons_of_neg (by rw [h]; decide)]
  rfl

theorem signals_succ {count : Nat} (h : d.next.isNoise = false) :
    d.signals (count + 1) = d.next :: (Action.event.run d).signals count := by
  rw [signals, found, List.filter_cons_of_pos (by rw [h]; rfl)]
  rfl

/-- The lines about too few bytes that the next events show. -/
def complaints (d : Debugger) (count : Nat) : List String :=
  (d.found count).filterMap Arrival.complaint?

theorem complaints_succ (d : Debugger) (count : Nat) :
    d.complaints (count + 1) =
      d.next.complaint?.toList ++ (Action.event.run d).complaints count := by
  rw [complaints, found, List.filterMap_cons]
  cases d.next.complaint? <;> rfl

/-- Events in the first state, and in the second one those that find no noise. -/
theorem SameBut.afterEvents {count : Nat} (h : SameBut lines d e)
    (hfound : e.found (d.signals count).length = d.signals count) :
    SameBut (lines ++ d.complaints count) (d.afterEvents count)
      (e.afterEvents (d.signals count).length) := by
  induction count generalizing d e lines with
  | zero =>
    rw [complaints, Debugger.found, List.filterMap_nil, List.append_nil]
    exact h
  | succ count ih =>
    rw [complaints_succ]
    cases hnoise : d.next.isNoise with
    | true =>
      -- The second state stays where it is.
      rw [signals_succ_of_isNoise hnoise] at hfound ⊢
      rw [← List.append_assoc]
      exact ih (h.run_event_left hnoise) hfound
    | false =>
      -- Both states take one event, whose reads find the same.
      rw [signals_succ hnoise] at hfound ⊢
      rw [List.length_cons, Debugger.found] at hfound
      obtain ⟨hnext, hlater⟩ := List.cons_eq_cons.mp hfound
      rw [Arrival.complaint?_eq_none hnoise]
      exact ih (h.run_event hnext) hlater

/-- **Noise from the agent makes no difference.** Take any events in any state, and a second run
from there whose reads find the same without the noise; there is such a run. Both end in the same
state, but for the reader, what arrives, and one line in the first run for each read that brought
too few bytes. -/
theorem noise_makes_no_difference (d : Debugger) (count : Nat) :
    (∃ e, SameBut [] d e ∧ e.found (d.signals count).length = d.signals count) ∧
      ∀ e, SameBut [] d e → e.found (d.signals count).length = d.signals count →
        SameBut (d.complaints count) (d.afterEvents count)
          (e.afterEvents (d.signals count).length) := by
  refine ⟨⟨d.hearing (d.signals count), d.sameBut_hearing _, ?_⟩, fun e h hfound => ?_⟩
  · exact (d.hears_hearing _).found fun a ha => fits_found (List.mem_of_mem_filter ha)
  · exact h.afterEvents hfound

/-- The packet about two live waves. -/
def twoWaves : Arrival :=
  .bytes (Notification.newActiveWaves 2).encode

/-- The packet comes after three bytes, an empty read and a packet of an unknown kind. -/
def noisy : Debugger :=
  fresh.hearing
    [.bytes [1, 2, 3], .wouldBlock, .bytes (Notification.unknown 99).encode, twoWaves]

/-- The waves are known as if the packet had come alone, and the user is told of the three bytes. -/
theorem three_bytes_are_noise :
    noisy.signals 4 = [twoWaves] ∧ (noisy.afterEvents 4).session.agent.activeWaves = 2 ∧
      SameBut [Op.noticeMark ++ Action.shortNotice 3] (noisy.afterEvents 4)
        ((fresh.hearing [twoWaves]).afterEvents 1) := by
  have hfound : noisy.found 4 = noisy.world.arrivals :=
    (fresh.hears_hearing _).found (by decide +kernel)
  have hsignals : noisy.signals 4 = [twoWaves] := by
    rw [signals, hfound]
    decide +kernel
  have hlines : noisy.complaints 4 = [Op.noticeMark ++ Action.shortNotice 3] := by
    rw [complaints, hfound]
    decide +kernel
  have hsame := (noise_makes_no_difference noisy 4).2 (fresh.hearing [twoWaves])
    (noisy.sameBut_hearing _)
  rw [hsignals, hlines] at hsame
  exact ⟨hsignals, by decide +kernel, hsame ((fresh.hears_hearing _).found (by decide +kernel))⟩

end Debugger

end GpuDebug
