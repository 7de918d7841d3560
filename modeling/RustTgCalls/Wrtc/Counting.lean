import RustTgCalls.Wrtc.InFlight

namespace RustTgCalls.Wrtc

open Transition Media RtpSender

/-! The counters of a track while packets are on their way into them, and the reports
that are made of them. -/

namespace CallAt

/-- The packet that `send_to` has been given and that is not in both counters yet. -/
def uncounted : CallAt → List RtpPacket
  | .countPacket packet _ | .countOctets packet _ => [packet]
  | _ => []

/-- What the packet counter has of it. -/
def ahead : CallAt → Nat
  | .countOctets _ _ => 1
  | _ => 0

end CallAt

namespace InFlight

variable {Payloader : Type _}

/-- The count is that of the first packets, `low` of them at the least. -/
def Within (low : Nat) (sent : List RtpPacket) (measure : List RtpPacket → Nat)
    (count : UInt32) : Prop :=
  ∃ n, low ≤ n ∧ n ≤ sent.length ∧ count = UInt32.ofNat (measure (sent.take n))

/-- Either counter may be behind the socket, by itself. -/
structure Counts (low : Nat) (sent : List RtpPacket) (packets octets : UInt32) : Prop where
  packets : Within low sent List.length packets
  octets : Within low sent octetsOf octets

section Within

variable {low lower : Nat} {sent later : List RtpPacket} {measure : List RtpPacket → Nat}
  {count : UInt32}

theorem Within.mono (hwithin : Within low sent measure count) (hlower : lower ≤ low)
    (hlater : sent <+: later) : Within lower later measure count := by
  obtain ⟨n, hlow, hlength, hcount⟩ := hwithin
  obtain ⟨rest, rfl⟩ := hlater
  refine ⟨n, Nat.le_trans hlower hlow, ?_, ?_⟩
  · rw [List.length_append]
    omega
  · rw [List.take_append_of_le_length hlength]
    exact hcount

theorem Within.exact (hwithin : Within sent.length sent measure count) :
    count = UInt32.ofNat (measure sent) := by
  obtain ⟨n, hlow, hlength, hcount⟩ := hwithin
  obtain rfl : n = sent.length := Nat.le_antisymm hlength hlow
  rwa [List.take_length] at hcount

theorem Counts.mono {packets octets : UInt32} (hcounts : Counts low sent packets octets)
    (hlower : lower ≤ low) (hlater : sent <+: later) : Counts lower later packets octets where
  packets := hcounts.packets.mono hlower hlater
  octets := hcounts.octets.mono hlower hlater

end Within

/-! The counters of a track and the call in flight for it. -/

/-- `front` are the packets in both counters. -/
structure Reckoned (track : RtpTrack) (front sent : List RtpPacket) (call : CallAt) : Prop where
  sent : sent = front ++ call.uncounted
  packets : track.packets = UInt32.ofNat (front.length + call.ahead)
  octets : track.octets = UInt32.ofNat (octetsOf front)

theorem ahead_le (call : CallAt) : call.ahead ≤ call.uncounted.length := by
  cases call <;> simp [CallAt.ahead, CallAt.uncounted]

theorem length_uncounted (call : CallAt) : call.uncounted.length ≤ 1 := by
  cases call <;> simp [CallAt.uncounted]

theorem Reckoned.counts {track : RtpTrack} {front sent : List RtpPacket} {call : CallAt}
    (hreckoned : Reckoned track front sent call) :
    Counts front.length sent track.packets track.octets := by
  obtain ⟨rfl, hpackets, hoctets⟩ := hreckoned
  have hahead := ahead_le call
  constructor
  case packets =>
    refine ⟨front.length + call.ahead, by omega, by rw [List.length_append]; omega, ?_⟩
    rw [hpackets, List.length_take, List.length_append]
    congr 1
    omega
  case octets =>
    refine ⟨front.length, Nat.le_refl _, by rw [List.length_append]; omega, ?_⟩
    rw [hoctets, List.take_left]

/-- The counters of a track against what it has on the wire. -/
def Tallied (flight : InFlight Payloader) (kind : StreamType) (call : CallAt) : Prop :=
  ∃ front, Reckoned (flight.sender.tracks kind) front
    (transmitted kind flight.sender.wire) call ∧ front.length = flight.counted kind

section Tallied

variable {flight moved : InFlight Payloader} {kind : StreamType} {call after : CallAt}

/-- Neither the counters of the track nor its packets on the wire have moved. -/
structure SameTally (kind : StreamType) (flight moved : InFlight Payloader) : Prop where
  wire : transmitted kind moved.sender.wire = transmitted kind flight.sender.wire
  packets : (moved.sender.tracks kind).packets = (flight.sender.tracks kind).packets
  octets : (moved.sender.tracks kind).octets = (flight.sender.tracks kind).octets
  counted : moved.counted kind = flight.counted kind

theorem Tallied.same (htallied : Tallied flight kind call) (hsame : SameTally kind flight moved)
    (huncounted : after.uncounted = call.uncounted) (hahead : after.ahead = call.ahead) :
    Tallied moved kind after := by
  obtain ⟨front, ⟨hsent, hpackets, hoctets⟩, hcounted⟩ := htallied
  refine ⟨front, ⟨?_, ?_, ?_⟩, hcounted.trans hsame.counted.symm⟩
  · rw [hsame.wire, huncounted]
    exact hsent
  · rw [hsame.packets, hahead]
    exact hpackets
  · rw [hsame.octets]
    exact hoctets

theorem Tallied.handOver {packet : RtpPacket} {rest : List RtpPacket}
    (htallied : Tallied flight kind (.sending (.transmit (packet :: rest))))
    (hkind : trackOf packet.header.payloadType = kind) (taken : Bool) :
    Tallied (flight.handOver packet taken) kind (.countPacket packet rest) := by
  obtain ⟨front, ⟨hsent, hpackets, hoctets⟩, hcounted⟩ := htallied
  have hself : packetsOf kind [packet] = [packet] := packetsOf_self (by simp [hkind])
  refine ⟨front, ⟨?_, hpackets, hoctets⟩, hcounted⟩
  simp only [CallAt.uncounted, List.append_nil] at hsent
  rw [InFlight.handOver, transmitted_concat, hself, hsent]
  rfl

theorem Tallied.countPacket {packet : RtpPacket} {rest : List RtpPacket}
    (htallied : Tallied flight kind (.countPacket packet rest)) :
    Tallied (flight.countPacket kind) kind (.countOctets packet rest) := by
  obtain ⟨front, ⟨hsent, hpackets, hoctets⟩, hcounted⟩ := htallied
  refine ⟨front, ⟨hsent, ?_, ?_⟩, hcounted⟩
  · have hone : front.length + (CallAt.countOctets packet rest).ahead =
        front.length + (CallAt.countPacket packet rest).ahead + 1 := rfl
    rw [hone, UInt32.ofNat_add, ← hpackets]
    simp [InFlight.countPacket, setTrack]
  · simpa [InFlight.countPacket, setTrack] using hoctets

theorem Tallied.countOctets {packet : RtpPacket} {rest : List RtpPacket}
    (htallied : Tallied flight kind (.countOctets packet rest)) :
    Tallied (flight.countOctets kind packet) kind (.sending (.transmit rest)) := by
  obtain ⟨front, ⟨hsent, hpackets, hoctets⟩, hcounted⟩ := htallied
  refine ⟨front ++ [packet], ⟨?_, ?_, ?_⟩, ?_⟩
  · simpa [InFlight.countOctets, setTrack, CallAt.uncounted] using hsent
  · simpa [InFlight.countOctets, setTrack, CallAt.ahead] using hpackets
  · simp only [InFlight.countOctets, setTrack, Function.update_self, hoctets]
    rw [octetsOf_append, UInt32.ofNat_add]
    simp [octetsOf]
  · simp [InFlight.countOctets, hcounted]

end Tallied

/-! Reports in the making. -/

/-- What has been loaded of a draft lies between what was counted when its loads began
and what is on the wire. -/
structure Drafted (start : RtpTrack) (kind : StreamType) (flight : InFlight Payloader)
    (due : List ReportField) (draft : Draft) : Prop where
  ssrc : (draft.tracks kind).ssrc = start.ssrc
  begun : draft.begun kind ≤ flight.counted kind
  packets : .packets kind ∉ due → Within (draft.begun kind)
    (transmitted kind flight.sender.wire) List.length (draft.tracks kind).packets
  octets : .octets kind ∉ due → Within (draft.begun kind)
    (transmitted kind flight.sender.wire) octetsOf (draft.tracks kind).octets

def Gathered (start : RtpTrack) (kind : StreamType) (flight : InFlight Payloader) :
    EmitAt → Prop
  | .epoch => True
  | .loads due draft => Drafted start kind flight due draft
  | .address draft | .sendTo _ draft => Drafted start kind flight [] draft

section Gathered

variable {start : RtpTrack} {kind : StreamType} {flight moved : InFlight Payloader}
  {due : List ReportField} {draft : Draft} {report after : EmitAt}

/-- The packets of the track go on, on the wire and into the counters. -/
structure Onward (kind : StreamType) (flight moved : InFlight Payloader) : Prop where
  wire : transmitted kind flight.sender.wire <+: transmitted kind moved.sender.wire
  counted : flight.counted kind ≤ moved.counted kind

theorem Drafted.mono (hdrafted : Drafted start kind flight due draft)
    (honward : Onward kind flight moved) : Drafted start kind moved due draft where
  ssrc := hdrafted.ssrc
  begun := Nat.le_trans hdrafted.begun honward.counted
  packets := fun hdue => (hdrafted.packets hdue).mono (Nat.le_refl _) honward.wire
  octets := fun hdue => (hdrafted.octets hdue).mono (Nat.le_refl _) honward.wire

theorem Gathered.mono (hgathered : Gathered start kind flight report)
    (honward : Onward kind flight moved) : Gathered start kind moved report := by
  cases report with
  | epoch => trivial
  | loads due draft => exact Drafted.mono hgathered honward
  | address draft => exact Drafted.mono hgathered honward
  | sendTo due draft => exact Drafted.mono hgathered honward

/-! One load. -/

theorem load_tracks (tracks : StreamType → RtpTrack) (load : ReportField) :
    ((draft.load tracks load).tracks kind).ssrc = (draft.tracks kind).ssrc ∧
      ((draft.load tracks load).tracks kind).packets =
        (if load = .packets kind then (tracks kind).packets else (draft.tracks kind).packets) ∧
      ((draft.load tracks load).tracks kind).octets =
        (if load = .octets kind then (tracks kind).octets else (draft.tracks kind).octets) := by
  have hkept (track : StreamType) (loaded : RtpTrack) (hkind : kind ≠ track) :
      (draft.set track loaded).tracks kind = draft.tracks kind := by
    simp [Draft.set, hkind]
  cases load with
  | ts track | packets track | octets track =>
      by_cases hkind : kind = track
      · subst hkind
        simp [Draft.load, Draft.set]
      · simp [Draft.load, hkept track _ hkind, Ne.symm hkind]

theorem begun_load (tracks : StreamType → RtpTrack) (load : ReportField) :
    (draft.load tracks load).begun = draft.begun := by
  cases load <;> rfl

/-- A counter is loaded at what it shows by then. -/
theorem Drafted.load {load : ReportField} (hdrafted : Drafted start kind flight (load :: due) draft)
    (hcounts : Counts (flight.counted kind) (transmitted kind flight.sender.wire)
      (flight.sender.tracks kind).packets (flight.sender.tracks kind).octets) :
    Drafted start kind flight due (draft.load flight.sender.tracks load) := by
  obtain ⟨hssrc, hbegun, hpackets, hoctets⟩ := hdrafted
  have hnow := hcounts.mono hbegun (List.prefix_refl _)
  obtain ⟨hssrcAfter, hpacketsAfter, hoctetsAfter⟩ :=
    @load_tracks kind draft flight.sender.tracks load
  constructor
  case ssrc => exact hssrcAfter.trans hssrc
  case begun => rwa [begun_load]
  case packets =>
    intro hdue
    rw [hpacketsAfter, begun_load]
    split
    next => exact hnow.packets
    next hload => exact hpackets (by simp [hdue, Ne.symm hload])
  case octets =>
    intro hdue
    rw [hoctetsAfter, begun_load]
    split
    next => exact hnow.octets
    next hload => exact hoctets (by simp [hdue, Ne.symm hload])

theorem drafted_new (hssrc : (flight.sender.tracks kind).ssrc = start.ssrc) (ntp : UInt64) :
    Drafted start kind flight ReportField.all (.new flight.sender.tracks ntp flight.counted) where
  ssrc := hssrc
  begun := Nat.le_refl _
  packets := fun hdue => absurd (by cases kind <;> decide) hdue
  octets := fun hdue => absurd (by cases kind <;> decide) hdue

/-- One step of the reports in the making. -/
theorem Gathered.next (hgathered : Gathered start kind flight report)
    (hssrc : (flight.sender.tracks kind).ssrc = start.ssrc)
    (hcounts : Counts (flight.counted kind) (transmitted kind flight.sender.wire)
      (flight.sender.tracks kind).packets (flight.sender.tracks kind).octets)
    {ntp : UInt64} {worker : Bool}
    (hnext : report.next flight.sender flight.counted ntp worker = some after) :
    Gathered start kind flight after := by
  cases report with
  | epoch =>
      simp only [EmitAt.next, Option.ite_none_right_eq_some, Option.some.injEq] at hnext
      obtain ⟨_, rfl⟩ := hnext
      exact drafted_new hssrc ntp
  | loads due draft =>
      cases due with
      | nil =>
          simp only [EmitAt.next, Option.ite_none_right_eq_some, Option.some.injEq] at hnext
          obtain ⟨_, rfl⟩ := hnext
          cases worker <;> exact hgathered
      | cons load due =>
          obtain rfl := Option.some.inj hnext
          exact Drafted.load hgathered hcounts
  | address draft =>
      simp only [EmitAt.next, Option.ite_none_right_eq_some, Option.some.injEq] at hnext
      obtain ⟨_, rfl⟩ := hnext
      exact hgathered
  | sendTo due draft =>
      cases due with
      | nil => cases hnext
      | cons track due =>
          obtain rfl := Option.some.inj hnext
          exact hgathered

end Gathered

/-! The reports on the wire. -/

/-- Each report on the wire is of the packets before it: of none that came later, and of
all those that were counted in full when its loads began. -/
def Reported (start : RtpTrack) (kind : StreamType) (begun : Nat → StreamType → Nat)
    (wire : List Sent) : Prop :=
  ∀ before report, before ++ [.report kind report] <+: wire →
    report.ssrc = start.ssrc ∧
      Counts (begun before.length kind) (transmitted kind before) report.packetCount
        report.octetCount

theorem Reported.packet {start : RtpTrack} {kind : StreamType} {begun : Nat → StreamType → Nat}
    {wire : List Sent} (hreported : Reported start kind begun wire) (packet : RtpPacket) :
    Reported start kind begun (wire ++ [.rtp packet]) := by
  intro before report hprefix
  obtain hnew | hold := List.prefix_concat_iff.mp hprefix
  · have hlast := (List.append_inj' hnew rfl).2
    simp at hlast
  · exact hreported before report hold

theorem Reported.report {start : RtpTrack} {kind track : StreamType}
    {flight : InFlight Payloader} {due : List StreamType} {draft : Draft}
    (hreported : Reported start kind flight.begun flight.sender.wire)
    (hgathered : Gathered start kind flight (.sendTo (track :: due) draft)) :
    Reported start kind (flight.sendReport (.sendTo (track :: due) draft)).begun
      (flight.sendReport (.sendTo (track :: due) draft)).sender.wire := by
  intro before report hprefix
  have hdrafted : Drafted start kind flight [] draft := hgathered
  obtain hnew | hold := List.prefix_concat_iff.mp hprefix
  · obtain ⟨hbefore, hreport⟩ := List.append_inj' hnew rfl
    simp only [List.cons.injEq, Sent.report.injEq, and_true] at hreport
    obtain ⟨hkind, hreport⟩ := hreport
    subst hkind hbefore hreport
    refine ⟨hdrafted.ssrc, ?_⟩
    simp only [sendReport, Function.update_self]
    exact ⟨hdrafted.packets (by simp), hdrafted.octets (by simp)⟩
  · obtain ⟨hssrc, hcounts⟩ := hreported before report hold
    have hindex : before.length ≠ flight.sender.wire.length := by
      have hlength := hold.length_le
      simp only [List.length_append, List.length_singleton] at hlength
      omega
    refine ⟨hssrc, ?_⟩
    simpa [sendReport, Function.update_of_ne hindex] using hcounts

/-! A run. -/

theorem Tallied.counts {flight : InFlight Payloader} {kind : StreamType} {call : CallAt}
    (htallied : Tallied flight kind call) :
    Counts (flight.counted kind) (transmitted kind flight.sender.wire)
      (flight.sender.tracks kind).packets (flight.sender.tracks kind).octets := by
  obtain ⟨front, hreckoned, hcounted⟩ := htallied
  exact hcounted ▸ hreckoned.counts

theorem SameTally.onward {kind : StreamType} {flight moved : InFlight Payloader}
    (hsame : SameTally kind flight moved) : Onward kind flight moved where
  wire := by rw [hsame.wire]
  counted := Nat.le_of_eq hsame.counted.symm

theorem sameTally_sendReport (flight : InFlight Payloader) (report : EmitAt)
    (kind : StreamType) : SameTally kind flight (flight.sendReport report) := by
  have hwire := (sameTrack_sendReport flight report kind).wire
  unfold sendReport at hwire ⊢
  split
  · exact ⟨hwire, rfl, rfl, rfl⟩
  · exact ⟨rfl, rfl, rfl, rfl⟩

theorem reported_sendReport {start : RtpTrack} {kind : StreamType}
    {flight : InFlight Payloader} {report : EmitAt}
    (hreported : Reported start kind flight.begun flight.sender.wire)
    (hgathered : Gathered start kind flight report) :
    Reported start kind (flight.sendReport report).begun
      (flight.sendReport report).sender.wire := by
  cases report with
  | sendTo due draft =>
      cases due with
      | nil => exact hreported
      | cons track due => exact hreported.report hgathered
  | _ => exact hreported

/-- Both tracks with their reports, on the wire and in the making. -/
structure Counting (start : RtpSender Payloader) (flight : InFlight Payloader) : Prop where
  tallied : ∀ kind, Tallied flight kind (flight.calls kind)
  inCall : ∀ each args report, flight.calls each = .reporting args report →
    ∀ kind, Gathered (start.tracks kind) kind flight report
  inWorker : ∀ report, flight.worker = some report →
    ∀ kind, Gathered (start.tracks kind) kind flight report
  reported : ∀ kind, Reported (start.tracks kind) kind flight.begun flight.sender.wire

section Run

variable {payloader : Payloader → Nat → Bytes → List Bytes × Payloader}
  {start : RtpSender Payloader} {flight : InFlight Payloader}

theorem counting_new (hfresh : Fresh start) : Counting start (new start) where
  tallied := fun kind => by
    obtain ⟨hpackets, hoctets⟩ := hfresh.uncounted kind
    exact ⟨[], ⟨by simp [new, hfresh.unsent, CallAt.uncounted], hpackets, hoctets⟩, rfl⟩
  inCall := fun each args report hcall => by cases hcall
  inWorker := fun report hworker => by cases hworker
  reported := fun kind before report hprefix => by simp [new, hfresh.unsent] at hprefix

/-- A step of one call, by what it does to the counters and the reports. -/
theorem Counting.goOn (hcounting : Counting start flight) (moved : InFlight Payloader)
    (hcalls : moved.calls = flight.calls) (hworker : moved.worker = flight.worker)
    {kind : StreamType} {call : CallAt} (hown : Tallied moved kind call)
    (hothers : ∀ other, other ≠ kind → SameTally other flight moved)
    (honward : Onward kind flight moved)
    (hcall : ∀ args report, call = .reporting args report →
      ∀ other, Gathered (start.tracks other) other flight report)
    (hreported : ∀ other, Reported (start.tracks other) other moved.begun moved.sender.wire) :
    Counting start (moved.goOn kind call) := by
  have honward (other : StreamType) : Onward other flight (moved.goOn kind call) := by
    by_cases hsame : other = kind
    · subst hsame
      exact ⟨honward.wire, honward.counted⟩
    · have hother := (hothers other hsame).onward
      exact ⟨hother.wire, hother.counted⟩
  constructor
  case tallied =>
    intro other
    by_cases hsame : other = kind
    · subst hsame
      simpa [InFlight.goOn, Tallied] using hown
    · have hother := (hcounting.tallied other).same (hothers other hsame) rfl rfl
      simpa [InFlight.goOn, Tallied, hsame, hcalls] using hother
  case inCall =>
    intro each args report heach other
    have hgathered : Gathered (start.tracks other) other flight report := by
      by_cases hsame : each = kind
      · subst hsame
        exact hcall args report (by simpa [InFlight.goOn] using heach) other
      · exact hcounting.inCall each args report
          (by simpa [InFlight.goOn, hsame, hcalls] using heach) other
    exact hgathered.mono (honward other)
  case inWorker =>
    intro report hreport other
    exact (hcounting.inWorker report (hworker ▸ hreport) other).mono (honward other)
  case reported => exact hreported

theorem Counting.send (hcounting : Counting start flight) {kind : StreamType}
    (hidle : flight.calls kind = .idle) (sample : Sample) :
    Counting start (flight.send kind sample) := by
  have hown := hcounting.tallied kind
  rw [hidle] at hown
  exact hcounting.goOn
    { flight with given := Function.update flight.given kind (flight.given kind ++ [sample]) }
    rfl rfl (hown.same ⟨rfl, rfl, rfl, rfl⟩ rfl rfl) (fun _ _ => ⟨rfl, rfl, rfl, rfl⟩)
    ⟨List.prefix_refl _, Nat.le_refl _⟩ (fun args report hcall => by cases hcall)
    hcounting.reported

theorem Counting.step (hcounting : Counting start flight) (hairing : Airing payloader start flight)
    (kind : StreamType) (readings : Readings) (taken : Bool) :
    Counting start (flight.step payloader kind readings taken) := by
  have hown := hcounting.tallied kind
  have hbranch := (hairing.onTrack kind).branch
  have hstepped := stepped_step payloader flight kind readings taken
  generalize flight.step payloader kind readings taken = moved at hstepped
  cases hstepped with
  | @turn stage hcall hwhole =>
      rw [hcall] at hown
      have hunmoved := unmoved_turn payloader flight.sender readings hwhole
      have hsame (other : StreamType) : SameTally other flight
          { flight with sender := (Channel.turn payloader flight.sender readings stage).1 } :=
        ⟨congrArg (transmitted other) hunmoved.wire, hunmoved.packets other,
          hunmoved.octets other, rfl⟩
      refine hcounting.goOn
        { flight with sender := (Channel.turn payloader flight.sender readings stage).1 }
        rfl rfl (hown.same (hsame kind) rfl rfl) (fun other _ => hsame other)
        (hsame kind).onward (fun args report hcall => by cases hcall) fun other => ?_
      simpa [hunmoved.wire] using hcounting.reported other
  | begin hcall =>
      rw [hcall] at hown
      refine hcounting.goOn flight rfl rfl (hown.same ⟨rfl, rfl, rfl, rfl⟩ rfl rfl)
        (fun _ _ => ⟨rfl, rfl, rfl, rfl⟩) ⟨List.prefix_refl _, Nat.le_refl _⟩ ?_
        hcounting.reported
      rintro args report hcall other
      cases hcall
      trivial
  | @report args report hcall =>
      rw [hcall] at hown
      have hgathered := hcounting.inCall kind args report hcall
      have hsame (other : StreamType) := sameTally_sendReport flight report other
      refine hcounting.goOn (flight.sendReport report) (calls_sendReport flight report) ?_ ?_
        (fun other _ => hsame other) (hsame kind).onward ?_
        fun other => reported_sendReport (hcounting.reported other) (hgathered other)
      · unfold sendReport
        split <;> rfl
      · cases hnext : report.next flight.sender flight.counted readings.reportNtp false with
        | none => exact hown.same (hsame kind) rfl rfl
        | some after => exact hown.same (hsame kind) rfl rfl
      · intro moved after hafter other
        cases hnext : report.next flight.sender flight.counted readings.reportNtp false with
        | none => simp [resumed, hnext] at hafter
        | some next =>
            simp only [resumed, hnext, CallAt.reporting.injEq] at hafter
            obtain ⟨_, rfl⟩ := hafter
            exact (hgathered other).next (hairing.onTrack other).numbered.ssrc
              (hcounting.tallied other).counts hnext
  | @handOver packet rest hcall =>
      rw [hcall] at hown hbranch
      have hkind : trackOf packet.header.payloadType = kind := hbranch packet (by simp)
      refine hcounting.goOn (flight.handOver packet taken) rfl rfl (hown.handOver hkind taken)
        (fun other hother => ⟨?_, rfl, rfl, rfl⟩) ⟨?_, Nat.le_refl _⟩
        (fun args report hcall => by cases hcall)
        fun other => (hcounting.reported other).packet packet
      · exact (sameTrack_handOver flight (hkind ▸ hother) taken).wire
      · rw [InFlight.handOver, transmitted_concat]
        exact List.prefix_append _ _
  | @countPacket packet rest hcall =>
      rw [hcall] at hown
      refine hcounting.goOn (flight.countPacket kind) rfl rfl hown.countPacket
        (fun other hother => ⟨rfl, ?_, ?_, rfl⟩) ⟨List.prefix_refl _, Nat.le_refl _⟩
        (fun args report hcall => by cases hcall) hcounting.reported
      all_goals simp [InFlight.countPacket, setTrack, hother]
  | @countOctets packet rest hcall =>
      rw [hcall] at hown
      refine hcounting.goOn (flight.countOctets kind packet) rfl rfl hown.countOctets
        (fun other hother => ⟨rfl, ?_, ?_, ?_⟩) ⟨List.prefix_refl _, ?_⟩
        (fun args report hcall => by cases hcall) hcounting.reported
      · simp [InFlight.countOctets, setTrack, hother]
      · simp [InFlight.countOctets, setTrack, hother]
      · simp [InFlight.countOctets, hother]
      · simp [InFlight.countOctets]

theorem Counting.rtcpTimer (hcounting : Counting start flight)
    (hairing : Airing payloader start flight) (ntp : UInt64) :
    Counting start (flight.rtcpTimer ntp) := by
  unfold InFlight.rtcpTimer
  split
  next =>
    have honward (kind : StreamType) :
        Onward kind flight { flight with worker := some .epoch } :=
      ⟨List.prefix_refl _, Nat.le_refl _⟩
    refine ⟨hcounting.tallied, fun each args inCall hcall kind => ?_, ?_, hcounting.reported⟩
    · exact (hcounting.inCall each args inCall hcall kind).mono (honward kind)
    · rintro report hreport kind
      cases hreport
      trivial
  next report hworker =>
    have hgathered := hcounting.inWorker report hworker
    have honward (kind : StreamType) : Onward kind flight { flight.sendReport report with
        worker := report.next flight.sender flight.counted ntp true } := by
      have hsame := (sameTally_sendReport flight report kind).onward
      exact ⟨hsame.wire, hsame.counted⟩
    constructor
    case tallied =>
      intro kind
      simpa [Tallied] using
        (hcounting.tallied kind).same (sameTally_sendReport flight report kind) rfl rfl
    case inCall =>
      intro each args inCall hcall kind
      rw [calls_sendReport] at hcall
      exact (hcounting.inCall each args inCall hcall kind).mono (honward kind)
    case inWorker =>
      intro after hnext kind
      exact ((hgathered kind).next (hairing.onTrack kind).numbered.ssrc
        (hcounting.tallied kind).counts hnext).mono (honward kind)
    case reported =>
      exact fun kind => reported_sendReport (hcounting.reported kind) (hgathered kind)

theorem counting_next (flight : InFlight Payloader) (action : Action)
    (hcounting : Counting start flight) (hairing : Airing payloader start flight) :
    Counting start (flight.next payloader action) := by
  cases action with
  | send kind sample =>
      simp only [InFlight.next]
      split
      next hidle => exact hcounting.send hidle sample
      next => exact hcounting
  | step kind readings taken => exact hcounting.step hairing kind readings taken
  | rtcpTimer ntp => exact hcounting.rtcpTimer hairing ntp

/-! What the socket takes. -/

def takes : Action → Bool
  | .step _ _ taken => taken
  | _ => true

def Takes (_ : InFlight Payloader) (action : Action) : Prop := takes action = true

instance (flight : InFlight Payloader) : DecidablePred (Takes flight) := fun action =>
  inferInstanceAs (Decidable (takes action = true))

/-- What a step hands over has arrived, if `send_to` takes it. -/
structure Passes (kind : StreamType) (flight moved : InFlight Payloader) (taken : Bool)
    (handed : List RtpPacket) : Prop where
  wire : transmitted kind moved.sender.wire = transmitted kind flight.sender.wire ++ handed
  arrived : packetsOf kind moved.arrived =
    packetsOf kind flight.arrived ++ if taken then handed else []

theorem passes_nothing {moved : InFlight Payloader} {kind : StreamType} (taken : Bool)
    (hwire : transmitted kind moved.sender.wire = transmitted kind flight.sender.wire)
    (harrived : moved.arrived = flight.arrived) : Passes kind flight moved taken [] where
  wire := by rw [hwire, List.append_nil]
  arrived := by
    rw [harrived]
    cases taken <;> simp

theorem arrived_sendReport (report : EmitAt) :
    (flight.sendReport report).arrived = flight.arrived := by
  unfold sendReport
  split <;> rfl

theorem passes_step (flight : InFlight Payloader) (kind other : StreamType)
    (readings : Readings) (taken : Bool) :
    ∃ handed, Passes other flight (flight.step payloader kind readings taken) taken handed := by
  have hstepped := stepped_step payloader flight kind readings taken
  generalize flight.step payloader kind readings taken = moved at hstepped
  cases hstepped with
  | turn hcall hwhole =>
      have hwire := (unmoved_turn payloader flight.sender readings hwhole).wire
      exact ⟨[], passes_nothing taken (congrArg (transmitted other) hwire) rfl⟩
  | @report args report hcall =>
      have hwire := (sameTrack_sendReport flight report other).wire
      exact ⟨[], passes_nothing taken hwire (arrived_sendReport report)⟩
  | @handOver packet rest hcall =>
      refine ⟨packetsOf other [packet], transmitted_concat other flight.sender.wire packet, ?_⟩
      cases taken
      · simp [InFlight.goOn, InFlight.handOver]
      · simp [InFlight.goOn, InFlight.handOver, packetsOf_append]
  | begin hcall => exact ⟨[], passes_nothing taken rfl rfl⟩
  | countPacket hcall => exact ⟨[], passes_nothing taken rfl rfl⟩
  | countOctets hcall => exact ⟨[], passes_nothing taken rfl rfl⟩

theorem passes_next (flight : InFlight Payloader) (action : Action) (kind : StreamType) :
    ∃ handed, Passes kind flight (flight.next payloader action) (takes action) handed := by
  cases action with
  | send track sample =>
      refine ⟨[], ?_⟩
      simp only [InFlight.next]
      split <;> exact passes_nothing true rfl rfl
  | step track readings taken => exact passes_step flight track kind readings taken
  | rtcpTimer ntp =>
      refine ⟨[], ?_⟩
      simp only [InFlight.next, InFlight.rtcpTimer]
      split
      next => exact passes_nothing true rfl rfl
      next report _ =>
        exact passes_nothing true (sameTrack_sendReport flight report kind).wire
          (arrived_sendReport report)

/-- Everything of both tracks that a run keeps. -/
structure Kept (payloader : Payloader → Nat → Bytes → List Bytes × Payloader)
    (start : RtpSender Payloader) (flight : InFlight Payloader) : Prop where
  airing : Airing payloader start flight
  counting : Counting start flight
  arrived : ∀ kind,
    (packetsOf kind flight.arrived).Sublist (transmitted kind flight.sender.wire)

theorem kept_new (hfresh : Fresh start) : Kept payloader start (new start) where
  airing := airing_new hfresh
  counting := counting_new hfresh
  arrived := fun kind => by simp [new]

theorem kept_next (flight : InFlight Payloader) (action : Action)
    (hkept : Kept payloader start flight) :
    Kept payloader start (flight.next payloader action) where
  airing := airing_next flight action hkept.airing
  counting := counting_next flight action hkept.counting hkept.airing
  arrived := fun kind => by
    obtain ⟨handed, hwire, harrived⟩ := @passes_next _ payloader flight action kind
    rw [hwire, harrived]
    apply (hkept.arrived kind).append
    split
    next => exact List.Sublist.refl _
    next => exact List.nil_sublist _

/-- What of a run shows on the wire.  Each track's packets are the beginning of what its
samples alone lead to, and all of it once no call is in flight, numbered without a
gap.  Its counters are at most one packet behind them, and right when no call is in
flight; what `send_to` took of them comes in their order. -/
structure OnWire (payloader : Payloader → Nat → Bytes → List Bytes × Payloader)
    (start : RtpSender Payloader) (kind : StreamType) (flight : InFlight Payloader) :
    Prop where
  content : (transmitted kind flight.sender.wire).map RtpPacket.aired <+:
    (standOf kind start.videoPayloader start).aired payloader kind (flight.given kind)
  settled : flight.calls kind = .idle →
    (transmitted kind flight.sender.wire).map RtpPacket.aired =
      (standOf kind start.videoPayloader start).aired payloader kind (flight.given kind)
  numbered : ∀ i packet, (transmitted kind flight.sender.wire)[i]? = some packet →
    packet.header.ssrc = (start.tracks kind).ssrc ∧
      packet.header.sequenceNumber = (start.tracks kind).seq + UInt16.ofNat i
  counts : Counts (flight.counted kind) (transmitted kind flight.sender.wire)
    (flight.sender.tracks kind).packets (flight.sender.tracks kind).octets
  behind : (transmitted kind flight.sender.wire).length ≤ flight.counted kind + 1
  caughtUp : flight.calls kind = .idle →
    (flight.sender.tracks kind).packets =
        UInt32.ofNat (transmitted kind flight.sender.wire).length ∧
      (flight.sender.tracks kind).octets =
        UInt32.ofNat (octetsOf (transmitted kind flight.sender.wire))
  reported : Reported (start.tracks kind) kind flight.begun flight.sender.wire
  arrived : (packetsOf kind flight.arrived).Sublist (transmitted kind flight.sender.wire)

theorem length_tallied {kind : StreamType} {call : CallAt} (htallied : Tallied flight kind call) :
    (transmitted kind flight.sender.wire).length =
      flight.counted kind + call.uncounted.length := by
  obtain ⟨front, hreckoned, hcounted⟩ := htallied
  rw [hreckoned.sent, List.length_append, hcounted]

theorem Kept.onWire (hkept : Kept payloader start flight) (kind : StreamType) :
    OnWire payloader start kind flight := by
  obtain ⟨_, hcontent, _, hnumbered⟩ := hkept.airing.onTrack kind
  have htallied := hkept.counting.tallied kind
  have hlength := length_tallied htallied
  constructor
  case content => exact ⟨_, hcontent⟩
  case settled =>
    intro hidle
    rw [← hcontent, hidle]
    simp [CallAt.stage, owed]
  case numbered =>
    intro i packet hpacket
    apply hnumbered.each
    obtain ⟨hi, _⟩ := List.getElem?_eq_some_iff.mp hpacket
    rw [numberedOf, List.getElem?_append_left hi]
    exact hpacket
  case counts => exact htallied.counts
  case behind =>
    have hone := length_uncounted (flight.calls kind)
    omega
  case caughtUp =>
    intro hidle
    rw [hidle] at hlength
    have hcounts := htallied.counts
    have hall : flight.counted kind = (transmitted kind flight.sender.wire).length :=
      hlength.symm
    rw [hall] at hcounts
    exact ⟨hcounts.packets.exact, hcounts.octets.exact⟩
  case reported => exact hkept.counting.reported kind
  case arrived => exact hkept.arrived kind

/-- However the calls for the two tracks and the timer interleave, each track is aired
as if it were alone, and no report says more of it than has been handed over. -/
theorem onWire_always (payloader : Payloader → Nat → Bytes → List Bytes × Payloader)
    (start : RtpSender Payloader) (hfresh : Fresh start) (actions : List Action) :
    Always (next payloader) (fun now => ∀ kind, OnWire payloader start kind now)
      (new start) actions := by
  have hall : Along (next payloader) (fun _ _ => True) (new start) actions := along_true
  have halways := hall.always (fun now action hnow _ => kept_next now action hnow)
    (kept_new hfresh)
  exact halways.mono fun now hnow => hnow.onWire

end Run

theorem fresh_connectedSender : Fresh connectedSender := by
  refine ⟨rfl, rfl, rfl, rfl, fun _ => rfl, fun kind => ?_⟩
  cases kind <;> exact ⟨rfl, rfl⟩

/-- The worker makes its reports between the first packet of a video frame and the
counting of it, and an audio frame goes out before the second packet. -/
def overlapping : List Action :=
  let readings : Readings := ⟨0, 0, 0, 0⟩
  let steps (kind : StreamType) (count : Nat) : List Action :=
    List.replicate count (.step kind readings true)
  .send .video ⟨[1, 2, 3], 40000000⟩ :: steps .video 20 ++ List.replicate 11 (.rtcpTimer 7) ++
    (.send .audio ⟨[9], 20000000⟩ :: steps .audio 9) ++ steps .video 7

theorem onWire_overlapping :
    Always (next twoByteChunks) (fun now => ∀ kind, OnWire twoByteChunks connectedSender kind now)
      (new connectedSender) overlapping :=
  onWire_always twoByteChunks connectedSender fresh_connectedSender overlapping

/-- The payloads on the wire, and the packet counts of the reports between them. -/
def outline (wire : List Sent) : List (StreamType × (Bytes ⊕ UInt32)) :=
  wire.map fun
    | .rtp packet => (trackOf packet.header.payloadType, .inl packet.payload)
    | .report kind report => (kind, .inr report.packetCount)

example : outline (after (next twoByteChunks) (new connectedSender) overlapping).sender.wire =
    [(.audio, .inr 0), (.video, .inr 0), (.video, .inl [1, 2]), (.audio, .inr 0),
      (.video, .inr 0), (.audio, .inl [9]), (.video, .inl [3])] := by
  decide +kernel

end InFlight

end RustTgCalls.Wrtc
