import RustTgCalls.Library.Counter
import RustTgCalls.Wrtc.Counting

namespace RustTgCalls.Wrtc

open Transition Media RtpSender InFlight

/-! The absolute send time: what the packets of a track tell of the sender's clock. -/

/-- `get_current_ntp_time`, by what the clock of the system shows since the epoch. -/
def getCurrentNtpTime (now : Duration) : UInt64 :=
  let ntpSecs := (UInt64.ofNat (now / 1000000000) + 2208988800).toUInt32
  let ntpFrac := (UInt64.ofNat (now % 1000000000) * ((1 : UInt64) <<< 32) / 1000000000).toUInt32
  (ntpSecs.toUInt64 <<< 32) ||| ntpFrac.toUInt64

namespace SendTime

/-- The units of the extension, 2^18 a second. -/
def ticks (now : Duration) : Nat := now * 2 ^ 18 / 1000000000

def perTurn : Nat := 2 ^ 24

/-- The number in the three bytes of the extension. -/
def sendTime : Bytes → Nat
  | [high, middle, low] => high.toNat * 65536 + middle.toNat * 256 + low.toNat
  | _ => 0

def stampOf (packet : RtpPacket) : Option Bytes :=
  packet.header.extensions.lookup extAbsSendTimeId

def stampAt (now : Duration) : Option Bytes := some (absTimeBytes (getCurrentNtpTime now))

theorem fraction_lt {nanos : Nat} (hnanos : nanos < 1000000000) :
    nanos * 2 ^ 32 / 1000000000 < 2 ^ 32 := by
  apply Nat.div_lt_of_lt_mul
  exact Nat.mul_lt_mul_of_pos_right hnanos (by decide)

theorem toNat_getCurrentNtpTime (now : Duration) :
    (getCurrentNtpTime now).toNat =
      (now / 1000000000 + 2208988800) % 2 ^ 32 * 2 ^ 32 +
        now % 1000000000 * 2 ^ 32 / 1000000000 := by
  have hnanos : now % 1000000000 < 1000000000 := Nat.mod_lt _ (by decide)
  have hfrac := fraction_lt hnanos
  have hsecs : (UInt64.ofNat (now / 1000000000) + 2208988800).toUInt32.toNat =
      (now / 1000000000 + 2208988800) % 2 ^ 32 := by
    simp
  have hpart : (UInt64.ofNat (now % 1000000000) * ((1 : UInt64) <<< 32) /
      1000000000).toUInt32.toNat = now % 1000000000 * 2 ^ 32 / 1000000000 := by
    have hshift : ((1 : UInt64) <<< 32).toNat = 2 ^ 32 := by decide
    have hsize : now % 1000000000 < UInt64.size := Nat.lt_trans hnanos (by decide)
    have hword : now % 1000000000 < 2 ^ 32 := Nat.lt_trans hnanos (by decide)
    have hproduct : now % 1000000000 * 2 ^ 32 < 2 ^ 64 :=
      Nat.mul_lt_mul_of_pos_right hword (by decide)
    rw [UInt64.toNat_toUInt32, UInt64.toNat_div, UInt64.toNat_mul, hshift,
      UInt64.toNat_ofNat_of_lt' hsize, Nat.mod_eq_of_lt hproduct]
    exact Nat.mod_eq_of_lt hfrac
  have hhigh : (now / 1000000000 + 2208988800) % 2 ^ 32 * 2 ^ 32 < 2 ^ 64 :=
    Nat.mul_lt_mul_of_pos_right (Nat.mod_lt _ (by decide)) (by decide)
  have hshift : (32 : UInt64).toNat % 64 = 32 := by decide
  simp only [getCurrentNtpTime, UInt64.toNat_or, UInt64.toNat_shiftLeft,
    UInt32.toNat_toUInt64, hsecs, hpart, hshift]
  rw [Nat.shiftLeft_eq, Nat.mod_eq_of_lt hhigh, ← Nat.shiftLeft_eq,
    ← Nat.shiftLeft_add_eq_or_of_lt hfrac]

/-- A turn of the extension is 64 seconds, and the offset of the era a multiple of
it. -/
theorem turn_seconds (secs frac : Nat) :
    ((secs + 2208988800) % 2 ^ 32 * 2 ^ 32 + frac) / 2 ^ 14 % perTurn =
      (secs * 2 ^ 18 + frac / 2 ^ 14) % perTurn := by
  rw [perTurn]
  omega

theorem shown_getCurrentNtpTime (now : Duration) :
    (getCurrentNtpTime now).toNat / 2 ^ 14 % perTurn = ticks now % perTurn := by
  have hsplit : now = 1000000000 * (now / 1000000000) + now % 1000000000 :=
    (Nat.div_add_mod now 1000000000).symm
  have hshorter : now % 1000000000 * 2 ^ 32 / 1000000000 / 2 ^ 14 =
      now % 1000000000 * 2 ^ 18 / 1000000000 := by
    rw [Nat.div_div_eq_div_mul, show (2 : Nat) ^ 32 = 2 ^ 18 * 2 ^ 14 by decide,
      ← Nat.mul_assoc]
    exact Nat.mul_div_mul_right _ _ (by decide)
  have hticks : ticks now =
      now / 1000000000 * 2 ^ 18 + now % 1000000000 * 2 ^ 18 / 1000000000 := by
    rw [ticks]
    conv_lhs => rw [hsplit]
    rw [Nat.add_mul, Nat.mul_assoc, Nat.mul_add_div (by decide)]
  rw [toNat_getCurrentNtpTime, turn_seconds, hshorter, hticks]

theorem sendTime_absTimeBytes (ntp : UInt64) :
    sendTime (absTimeBytes ntp) = ntp.toNat / 2 ^ 14 % perTurn := by
  have hmask (n : Nat) : n &&& 16777215 = n % 2 ^ 24 := Nat.and_two_pow_sub_one_eq_mod n 24
  have hbytes (n : Nat) (hn : n < 2 ^ 24) :
      n / 65536 % 256 * 65536 + n / 256 % 256 * 256 + n % 256 = n := by omega
  have hlt : ntp.toNat / 2 ^ 14 % 2 ^ 24 < 2 ^ 24 := Nat.mod_lt _ (by decide)
  rw [perTurn, ← hbytes _ hlt]
  have hnumber : ((ntp >>> 14) &&& 0x00FFFFFF).toUInt32.toNat =
      ntp.toNat / 2 ^ 14 % 2 ^ 24 := by
    rw [UInt64.toNat_toUInt32, UInt64.toNat_and, UInt64.toNat_shiftRight]
    have hshift : (14 : UInt64).toNat % 64 = 14 := by decide
    have hmaskNat : (0x00FFFFFF : UInt64).toNat = 16777215 := by decide
    rw [hshift, hmaskNat, hmask, Nat.shiftRight_eq_div_pow]
    exact Nat.mod_eq_of_lt (Nat.lt_trans hlt (by decide))
  simp only [sendTime, absTimeBytes, UInt32.toNat_toUInt8, UInt32.toNat_shiftRight,
    hnumber, Nat.shiftRight_eq_div_pow]
  rfl

/-- The extension tells the time to a unit, up to whole turns. -/
theorem sendTime_getCurrentNtpTime (now : Duration) :
    sendTime (absTimeBytes (getCurrentNtpTime now)) = ticks now % perTurn := by
  rw [sendTime_absTimeBytes, shown_getCurrentNtpTime]

/-! What one step of a call does to the stamps of a track. -/

/-- The stamps that a call has taken and not yet sent; a video frame has one for all
its packets until they are numbered. -/
def loaded : SendStage → List (Option Bytes)
  | .packetize _ _ ntp | .address _ _ ntp | .encrypt _ _ ntp => [some (absTimeBytes ntp)]
  | .transmit packets => packets.map stampOf
  | _ => []

/-- What a step of a call takes off the clock. -/
def reading (readings : Readings) : CallAt → Option (Option Bytes)
  | .sending (.stamp _) => some (some (absTimeBytes readings.packetNtp))
  | _ => none

/-- A reading comes in, or the one in hand goes on any number of packets. -/
inductive Marked (fresh : Option (Option Bytes)) :
    List (Option Bytes) → List (Option Bytes) → Prop
  | same (before : List (Option Bytes)) : Marked fresh before before
  | read (before : List (Option Bytes)) {mark : Option Bytes} (hmark : fresh = some mark) :
      Marked fresh before (before ++ [mark])
  | spread (before : List (Option Bytes)) (mark : Option Bytes) (count : Nat) :
      Marked fresh (before ++ [mark]) (before ++ List.replicate count mark)

theorem Marked.behind {fresh : Option (Option Bytes)} {before after : List (Option Bytes)}
    (hmarked : Marked fresh before after) (front : List (Option Bytes)) :
    Marked fresh (front ++ before) (front ++ after) := by
  cases hmarked with
  | same => exact .same _
  | read _ hmark =>
      rw [← List.append_assoc]
      exact .read _ hmark
  | spread before mark count =>
      rw [← List.append_assoc, ← List.append_assoc]
      exact .spread _ mark count

section Turn

variable {Payloader : Type _}
  (payloader : Payloader → Nat → Bytes → List Bytes × Payloader)
  (kind : StreamType) (sender : RtpSender Payloader) (readings : Readings)

/-- The stamps of a track: those on the wire, and those of the call in flight. -/
def marks (stage : SendStage) : List (Option Bytes) :=
  (transmitted kind sender.wire).map stampOf ++ loaded stage

theorem stampOf_videoPackets (ntp : UInt64) (ssrc timestamp : UInt32) (seq : UInt16)
    (chunks : List Bytes) :
    (videoPackets ntp ssrc timestamp seq chunks).1.map stampOf =
      List.replicate chunks.length (some (absTimeBytes ntp)) := by
  induction chunks generalizing seq with
  | nil => rfl
  | cons chunk rest ih =>
      simp only [videoPackets, List.map_cons, ih, List.length_cons, List.replicate_succ]
      rfl

theorem loaded_turn {stage : SendStage} (hwhole : Whole stage) :
    Marked (reading readings (.sending stage)) (loaded stage)
      (loaded (settled (Channel.turn payloader sender readings stage).2)) := by
  have hdropped (ntp : UInt64) : Marked none [some (absTimeBytes ntp)] [] :=
    .spread [] (some (absTimeBytes ntp)) 0
  cases stage with
  | idle | returned | senderReports args justStarted => exact .same _
  | testClosed args =>
      simp only [Channel.turn]
      split <;> exact .same _
  | mediaEpoch args =>
      simp only [Channel.turn]
      split <;> exact .same _
  | stamp args =>
      simp only [Channel.turn, sendAudio]
      split
      · split
        · exact .read [] rfl
        · exact .same _
      · exact .read [] rfl
  | packetize payload ts ntp =>
      simp only [Channel.turn]
      split
      · exact hdropped ntp
      · exact .same _
  | address chunks ts ntp =>
      simp only [Channel.turn]
      split
      · exact .same _
      · exact hdropped ntp
  | encrypt chunks ts ntp =>
      simp only [Channel.turn]
      split
      · have hafter : loaded (.transmit (videoPackets ntp (sender.tracks .video).ssrc ts
            (sender.tracks .video).seq chunks).1) =
            [] ++ List.replicate chunks.length (some (absTimeBytes ntp)) :=
          stampOf_videoPackets ntp _ ts _ chunks
        exact hafter ▸ .spread [] _ chunks.length
      · exact hdropped ntp
  | transmit packets =>
      obtain rfl : packets = [] := hwhole
      exact .same _

/-- A step of the call for the track itself. -/
theorem marks_turn {stage : SendStage} (hwhole : Whole stage) :
    Marked (reading readings (.sending stage)) (marks kind sender stage)
      (marks kind (Channel.turn payloader sender readings stage).1
        (settled (Channel.turn payloader sender readings stage).2)) := by
  unfold marks
  rw [(unmoved_turn payloader sender readings hwhole).wire]
  exact (loaded_turn payloader sender readings hwhole).behind _

variable {kind sender}

theorem marks_same {moved : RtpSender Payloader} (hsame : SameTrack kind sender moved)
    (stage : SendStage) : marks kind moved stage = marks kind sender stage := by
  unfold marks
  rw [hsame.wire]

/-- The stamp of a packet handed over goes from the call to the wire. -/
theorem marks_handOver (flight : InFlight Payloader) {packet : RtpPacket}
    (hkind : trackOf packet.header.payloadType = kind) (rest : List RtpPacket) (taken : Bool) :
    marks kind (flight.handOver packet taken).sender (.transmit rest) =
      marks kind flight.sender (.transmit (packet :: rest)) := by
  have hself : packetsOf kind [packet] = [packet] := packetsOf_self (by simp [hkind])
  simp only [marks, InFlight.handOver, transmitted_concat, hself]
  simp [loaded]

/-- One step of the call, whatever it is. -/
theorem marks_step {flight moved : InFlight Payloader} {taken : Bool}
    (hstepped : Stepped payloader flight kind readings taken moved)
    (hbranch : Branch kind (flight.calls kind).stage) :
    Marked (reading readings (flight.calls kind))
      (marks kind flight.sender (flight.calls kind).stage)
      (marks kind moved.sender (moved.calls kind).stage) := by
  cases hstepped with
  | turn hcall hwhole =>
      rw [hcall]
      simpa [InFlight.goOn, CallAt.stage] using
        marks_turn payloader kind flight.sender readings hwhole
  | @begin args hcall =>
      rw [hcall]
      have hsame : marks kind flight.sender (.senderReports args true) =
          marks kind flight.sender (.stamp args) := rfl
      simpa [InFlight.goOn, CallAt.stage, hsame] using .same _
  | @report args report hcall =>
      rw [hcall]
      have hsame := marks_same (sameTrack_sendReport flight report kind) (.stamp args)
      simpa only [InFlight.goOn, Function.update_self, stage_resumed, hsame] using .same _
  | @handOver packet rest hcall =>
      rw [hcall] at hbranch ⊢
      have hsame := marks_handOver flight (hbranch packet (by simp)) rest taken
      simpa [InFlight.goOn, CallAt.stage, hsame] using .same _
  | @countPacket packet rest hcall =>
      rw [hcall]
      have hsame := marks_same (sameTrack_countPacket flight kind kind) (.transmit rest)
      simpa [InFlight.goOn, CallAt.stage, hsame] using .same _
  | @countOctets packet rest hcall =>
      rw [hcall]
      have hsame := marks_same (sameTrack_countOctets flight kind packet kind) (.transmit rest)
      simpa [InFlight.goOn, CallAt.stage, hsame] using .same _

end Turn

/-! Both tracks in flight under the clock of the system. -/

/-- `reads` lists what the frames of a track were stamped with. -/
structure Clocked (Payloader : Type _) where
  flight : InFlight Payloader
  now : Duration
  reads : StreamType → List Duration

namespace Clocked

inductive Action where
  | pass (elapsed : Duration)
  | send (kind : StreamType) (sample : Sample)
  | step (kind : StreamType) (instant : Instant) (taken : Bool)
  | rtcpTimer

variable {Payloader : Type _}

def new (sender : RtpSender Payloader) (now : Duration) : Clocked Payloader where
  flight := .new sender
  now
  reads := fun _ => []

def readings (now : Duration) (instant : Instant) : Readings where
  epochInstant := instant
  epochNtp := getCurrentNtpTime now
  reportNtp := getCurrentNtpTime now
  packetNtp := getCurrentNtpTime now

/-- The reads once a step of the call has been made. -/
def readOn (clocked : Clocked Payloader) (kind : StreamType) : StreamType → List Duration :=
  match clocked.flight.calls kind with
  | .sending (.stamp _) => Function.update clocked.reads kind (clocked.reads kind ++ [clocked.now])
  | _ => clocked.reads

variable (payloader : Payloader → Nat → Bytes → List Bytes × Payloader)

def next (clocked : Clocked Payloader) : Action → Clocked Payloader
  | .pass elapsed => { clocked with now := clocked.now + elapsed }
  | .send kind sample =>
      { clocked with flight := clocked.flight.next payloader (.send kind sample) }
  | .step kind instant taken =>
      { clocked with
        flight := clocked.flight.next payloader
          (.step kind (readings clocked.now instant) taken)
        reads := clocked.readOn kind }
  | .rtcpTimer =>
      { clocked with
        flight := clocked.flight.next payloader
          (.rtcpTimer (getCurrentNtpTime clocked.now)) }

end Clocked

/-- The marks of a track are those of the times, which the clock has shown in this
order. -/
structure StampedAt (marks : List (Option Bytes)) (reads : List Duration) (now : Duration)
    (times : List Duration) : Prop where
  shown : marks = times.map stampAt
  sorted : times.Pairwise (· ≤ ·)
  past : ∀ time ∈ times, time ≤ now
  read : ∀ time ∈ times, time ∈ reads

namespace StampedAt

variable {before after : List (Option Bytes)} {reads longer : List Duration} {now : Duration}
  {times : List Duration}

theorem later (hstamped : StampedAt before reads now times) (elapsed : Duration) :
    StampedAt before reads (now + elapsed) times where
  shown := hstamped.shown
  sorted := hstamped.sorted
  past := fun time htime => Nat.le_add_right_of_le (hstamped.past time htime)
  read := hstamped.read

theorem more (hstamped : StampedAt before reads now times)
    (hlonger : ∀ time ∈ reads, time ∈ longer) : StampedAt before longer now times where
  shown := hstamped.shown
  sorted := hstamped.sorted
  past := hstamped.past
  read := fun time htime => hlonger time (hstamped.read time htime)

theorem take (hstamped : StampedAt before reads now times) (hnow : now ∈ reads) :
    StampedAt (before ++ [stampAt now]) reads now (times ++ [now]) where
  shown := by rw [hstamped.shown, List.map_append, List.map_singleton]
  sorted := by
    refine List.pairwise_append.mpr ⟨hstamped.sorted, List.pairwise_singleton _ _, ?_⟩
    intro time htime later hlater
    rw [List.mem_singleton.mp hlater]
    exact hstamped.past time htime
  past := by
    intro time htime
    obtain hold | hnew := List.mem_append.mp htime
    · exact hstamped.past time hold
    · exact Nat.le_of_eq (List.mem_singleton.mp hnew)
  read := by
    intro time htime
    obtain hold | hnew := List.mem_append.mp htime
    · exact hstamped.read time hold
    · exact List.mem_singleton.mp hnew ▸ hnow

/-- The packets of one frame have one time. -/
theorem spread {mark : Option Bytes}
    (hstamped : StampedAt (before ++ [mark]) reads now times) (count : Nat) :
    ∃ spread, StampedAt (before ++ List.replicate count mark) reads now spread := by
  obtain ⟨hshown, hsorted, hpast, hread⟩ := hstamped
  obtain ⟨front, rest, rfl, hfront, hrest⟩ := List.append_eq_map_iff.mp hshown
  obtain ⟨time, rfl, hmark⟩ := List.map_eq_singleton_iff.mp hrest
  refine ⟨front ++ List.replicate count time, ?_, ?_, ?_, ?_⟩
  · rw [List.map_append, List.map_replicate, hfront, hmark]
  · obtain ⟨hbefore, _, hbelow⟩ := List.pairwise_append.mp hsorted
    refine List.pairwise_append.mpr ⟨hbefore, ?_, ?_⟩
    · exact List.pairwise_replicate.mpr (.inr (Nat.le_refl time))
    · intro earlier hearlier later hlater
      rw [List.eq_of_mem_replicate hlater]
      exact hbelow earlier hearlier time (by simp)
  all_goals
    intro later hlater
    obtain hold | hnew := List.mem_append.mp hlater
  · exact hpast later (List.mem_append_left _ hold)
  · exact hpast later (by simp [List.eq_of_mem_replicate hnew])
  · exact hread later (List.mem_append_left _ hold)
  · exact hread later (by simp [List.eq_of_mem_replicate hnew])

theorem marked {fresh : Option (Option Bytes)} (hmarked : Marked fresh before after)
    (hfresh : ∀ mark, fresh = some mark → mark = stampAt now ∧ now ∈ reads)
    (hstamped : StampedAt before reads now times) :
    ∃ moved, StampedAt after reads now moved := by
  cases hmarked with
  | same => exact ⟨times, hstamped⟩
  | read _ hmark =>
      obtain ⟨rfl, hnow⟩ := hfresh _ hmark
      exact ⟨times ++ [now], hstamped.take hnow⟩
  | spread before mark count => exact hstamped.spread count

end StampedAt

/-! A run. -/

namespace Clocked

variable {Payloader : Type _} {payloader : Payloader → Nat → Bytes → List Bytes × Payloader}
  {start : RtpSender Payloader} {clocked : Clocked Payloader}

def marksOf (clocked : Clocked Payloader) (kind : StreamType) : List (Option Bytes) :=
  marks kind clocked.flight.sender (clocked.flight.calls kind).stage

structure Telling (payloader : Payloader → Nat → Bytes → List Bytes × Payloader)
    (start : RtpSender Payloader) (clocked : Clocked Payloader) : Prop where
  airing : Airing payloader start clocked.flight
  stamped : ∀ kind, ∃ times,
    StampedAt (clocked.marksOf kind) (clocked.reads kind) clocked.now times

theorem mem_readOn (kind other : StreamType) {time : Duration}
    (htime : time ∈ clocked.reads other) : time ∈ clocked.readOn kind other := by
  have hread : clocked.readOn kind =
        Function.update clocked.reads kind (clocked.reads kind ++ [clocked.now]) ∨
      clocked.readOn kind = clocked.reads := by
    unfold readOn
    split
    next => exact .inl rfl
    next => exact .inr rfl
  obtain hread | hread := hread
  · rw [hread]
    by_cases hsame : other = kind
    · subst hsame
      simp [htime]
    · simpa [hsame] using htime
  · rwa [hread]

theorem reading_now {kind : StreamType} {instant : Instant} {mark : Option Bytes}
    (hmark : reading (readings clocked.now instant) (clocked.flight.calls kind) = some mark) :
    mark = stampAt clocked.now ∧ clocked.now ∈ clocked.readOn kind kind := by
  unfold readOn
  unfold reading at hmark
  split at hmark
  next args hcall =>
    rw [hcall]
    exact ⟨(Option.some.inj hmark).symm, by simp⟩
  next => cases hmark

theorem Telling.step (htelling : Telling payloader start clocked) (kind : StreamType)
    (instant : Instant) (taken : Bool) :
    Telling payloader start (clocked.next payloader (.step kind instant taken)) := by
  obtain ⟨hairing, hstamped⟩ := htelling
  have hbranch := (hairing.onTrack kind).branch
  have hstepped := stepped_step payloader clocked.flight kind (readings clocked.now instant) taken
  refine ⟨airing_next clocked.flight (.step kind (readings clocked.now instant) taken) hairing,
    fun other => ?_⟩
  obtain ⟨times, htimes⟩ := hstamped other
  have hlonger := htimes.more fun time htime => mem_readOn kind other htime
  by_cases hsame : other = kind
  · subst hsame
    exact hlonger.marked (marks_step payloader _ hstepped hbranch) fun mark hmark =>
      reading_now hmark
  · have hafter : (clocked.next payloader (.step kind instant taken)).marksOf other =
        clocked.marksOf other := by
      have hkept := marks_same (hstepped.sameTrack hbranch hsame)
        (clocked.flight.calls other).stage
      rw [← hstepped.calls hsame] at hkept
      exact hkept.trans (by rw [hstepped.calls hsame]; rfl)
    rw [hafter]
    exact ⟨times, hlonger⟩

theorem marksOf_send (kind other : StreamType) (sample : Sample) :
    (clocked.next payloader (.send kind sample)).marksOf other = clocked.marksOf other := by
  simp only [marksOf, next, InFlight.next]
  split
  next hidle =>
    by_cases hsame : other = kind
    · subst hsame
      simp [InFlight.send, hidle, marks, CallAt.stage, loaded]
    · simp [InFlight.send, hsame]
  next => rfl

theorem telling_next (clocked : Clocked Payloader) (action : Action)
    (htelling : Telling payloader start clocked) :
    Telling payloader start (clocked.next payloader action) := by
  cases action with
  | pass elapsed =>
      refine ⟨htelling.airing, fun kind => ?_⟩
      obtain ⟨times, htimes⟩ := htelling.stamped kind
      exact ⟨times, htimes.later elapsed⟩
  | send kind sample =>
      refine ⟨airing_next clocked.flight (.send kind sample) htelling.airing,
        fun other => ?_⟩
      rw [marksOf_send]
      exact htelling.stamped other
  | step kind instant taken => exact htelling.step kind instant taken
  | rtcpTimer =>
      refine ⟨airing_next clocked.flight (.rtcpTimer (getCurrentNtpTime clocked.now))
        htelling.airing, fun kind => ?_⟩
      have hsame : (clocked.next payloader .rtcpTimer).marksOf kind = clocked.marksOf kind := by
        simp only [marksOf, next, InFlight.next, InFlight.rtcpTimer]
        split
        next => rfl
        next report _ =>
          rw [calls_sendReport]
          exact marks_same (sameTrack_sendReport clocked.flight report kind) _
      rw [hsame]
      exact htelling.stamped kind

theorem telling_new (hfresh : Fresh start) (now : Duration) :
    Telling payloader start (new start now) := by
  refine ⟨airing_new hfresh, fun kind => ⟨[], ?_, .nil, by simp, by simp⟩⟩
  simp [marksOf, new, InFlight.new, marks, CallAt.stage, loaded, hfresh.unsent]

/-- What the receiver makes of the packets of a track: the units from the first to
the last. -/
def heard (clocked : Clocked Payloader) (kind : StreamType) : Nat :=
  Counter.elapsed perTurn ((transmitted kind clocked.flight.sender.wire).filterMap
    fun packet => (stampOf packet).map sendTime)

/-- The packets of a track carry readings of the clock that the frames of the track
were stamped with, none before an earlier one, and the receiver knows how far
apart the first and the last are. -/
structure Tells (clocked : Clocked Payloader) (kind : StreamType) (times : List Duration) :
    Prop where
  shown : (transmitted kind clocked.flight.sender.wire).map
      (fun packet => (stampOf packet).map sendTime) =
    times.map fun time => some (ticks time % perTurn)
  sorted : times.Pairwise (· ≤ ·)
  read : ∀ time ∈ times, time ≤ clocked.now ∧ time ∈ clocked.reads kind
  heard : (times.IsChain fun earlier later => ticks later < ticks earlier + perTurn) →
    ∀ first ∈ times.head?, ∀ last ∈ times.getLast?,
      ticks first + clocked.heard kind = ticks last

theorem ticks_le {earlier later : Duration} (hle : earlier ≤ later) :
    ticks earlier ≤ ticks later :=
  Nat.div_le_div_right (Nat.mul_le_mul_right _ hle)

theorem forward_ticks {times : List Duration} (hsorted : times.Pairwise (· ≤ ·))
    (hclose : times.IsChain fun earlier later => ticks later < ticks earlier + perTurn) :
    (times.map ticks).IsChain (Counter.Forward perTurn) := by
  induction times with
  | nil => exact .nil
  | cons first rest ih =>
      cases rest with
      | nil => exact .singleton _
      | cons second rest =>
          obtain ⟨hfirst, hrest⟩ := List.pairwise_cons.mp hsorted
          obtain ⟨hstep, htail⟩ := List.isChain_cons_cons.mp hclose
          refine List.isChain_cons_cons.mpr ⟨⟨ticks_le (hfirst second (by simp)), hstep⟩, ?_⟩
          exact ih hrest htail

theorem heard_of_shown {kind : StreamType} {times : List Duration}
    (hshown : (transmitted kind clocked.flight.sender.wire).map
      (fun packet => (stampOf packet).map sendTime) =
        times.map fun time => some (ticks time % perTurn)) :
    clocked.heard kind = Counter.elapsed perTurn ((times.map ticks).map (· % perTurn)) := by
  have hsame : (transmitted kind clocked.flight.sender.wire).filterMap
      (fun packet => (stampOf packet).map sendTime) = (times.map ticks).map (· % perTurn) := by
    have hheard := congrArg (List.filterMap id) hshown
    simpa [List.filterMap_map, Function.comp_def] using hheard
  rw [heard, hsame]

theorem tells_of_stamped {kind : StreamType} {times : List Duration}
    (hstamped : StampedAt ((transmitted kind clocked.flight.sender.wire).map stampOf)
      (clocked.reads kind) clocked.now times) : Tells clocked kind times := by
  obtain ⟨hmarks, hsorted, hpast, hread⟩ := hstamped
  have hshown : (transmitted kind clocked.flight.sender.wire).map
      (fun packet => (stampOf packet).map sendTime) =
        times.map fun time => some (ticks time % perTurn) := by
    have hdecoded := congrArg (List.map (Option.map sendTime)) hmarks
    simpa [stampAt, sendTime_getCurrentNtpTime, Function.comp_def] using hdecoded
  refine ⟨hshown, hsorted, fun time htime => ⟨hpast time htime, hread time htime⟩, ?_⟩
  intro hclose first hfirst last hlast
  rw [heard_of_shown hshown]
  cases times with
  | nil => cases hfirst
  | cons head rest =>
      obtain rfl : head = first := by simpa using hfirst
      have hforward := forward_ticks hsorted hclose
      rw [List.map_cons] at hforward ⊢
      rw [Counter.elapsed_residues hforward]
      have hend : (head :: rest).getLast (List.cons_ne_nil head rest) = last := by
        simpa [List.getLast?_eq_some_getLast] using hlast
      have hmapped : ((head :: rest).map ticks).getLast (by simp) =
          ticks ((head :: rest).getLast (by simp)) := List.getLast_map _
      rw [← hend]
      exact hmapped

theorem StampedAt.front {before after : List (Option Bytes)} {reads : List Duration}
    {now : Duration} {times : List Duration}
    (hstamped : StampedAt (before ++ after) reads now times) :
    ∃ earlier, StampedAt before reads now earlier := by
  obtain ⟨hshown, hsorted, hpast, hread⟩ := hstamped
  obtain ⟨front, rest, rfl, hfront, _⟩ := List.append_eq_map_iff.mp hshown
  exact ⟨front, hfront.symm, (List.pairwise_append.mp hsorted).1,
    fun time htime => hpast time (List.mem_append_left _ htime),
    fun time htime => hread time (List.mem_append_left _ htime)⟩

theorem Telling.tells (htelling : Telling payloader start clocked) (kind : StreamType) :
    ∃ times, Tells clocked kind times := by
  obtain ⟨times, htimes⟩ := htelling.stamped kind
  obtain ⟨earlier, hearlier⟩ := StampedAt.front htimes
  exact ⟨earlier, tells_of_stamped hearlier⟩

/-- However the calls, the timer and the clock interleave. -/
theorem tells_always (payloader : Payloader → Nat → Bytes → List Bytes × Payloader)
    (start : RtpSender Payloader) (hfresh : Fresh start) (now : Duration)
    (actions : List Action) :
    Always (next payloader) (fun clocked => ∀ kind, ∃ times, Tells clocked kind times)
      (new start now) actions := by
  have hall : Along (next payloader) (fun _ _ => True) (new start now) actions := along_true
  have halways := hall.always
    (fun clocked action hnow _ => telling_next clocked action hnow) (telling_new hfresh now)
  exact halways.mono fun clocked hclocked => hclocked.tells

/-- Three audio frames, 50 seconds apart. -/
def threeFrames : List Action :=
  let frame : List Action :=
    .send .audio ⟨[9], 20000000⟩ :: List.replicate 21 (.step .audio 0 true)
  frame ++ .pass 50000000000 :: frame ++ .pass 50000000000 :: frame

theorem tells_threeFrames :
    Always (next twoByteChunks) (fun clocked => ∀ kind, ∃ times, Tells clocked kind times)
      (new connectedSender 1700000000000000000) threeFrames :=
  tells_always twoByteChunks connectedSender fresh_connectedSender 1700000000000000000
    threeFrames

example : (after (next twoByteChunks) (new connectedSender 1700000000000000000)
    threeFrames).heard .audio = 100 * 2 ^ 18 := by
  decide +kernel

end Clocked

end SendTime

end RustTgCalls.Wrtc
