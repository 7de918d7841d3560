import RustTgCalls.Wrtc.InFlight
import RustTgCalls.Wrtc.LocalSchema

namespace RustTgCalls.Wrtc

open Transition Media RtpSender InFlight

/-! What a transport announces of itself, and what it then sends. -/

def base64urlCharset : List Char :=
  "ABCDEFGHIJKLMNOPQRSTUVWXYZabcdefghijklmnopqrstuvwxyz0123456789-_".toList

/-- What `new` and `new_with_ssrc` draw at random. -/
structure Draws where
  audioSsrc : UInt32
  videoSsrc : UInt32
  ufrag : List (Fin 64)
  pwd : List (Fin 64)
  audioSeq : UInt16
  videoSeq : UInt16
  audioRange : 0x10000000 ≤ audioSsrc ∧ audioSsrc ≤ 0x7FFFFFFF
  videoRange : 0x10000000 ≤ videoSsrc ∧ videoSsrc ≤ 0x7FFFFFFF
  ufragLength : ufrag.length = 16
  pwdLength : pwd.length = 32
  seqRange : 1000 ≤ audioSeq ∧ audioSeq < 5000 ∧ 1000 ≤ videoSeq ∧ videoSeq < 5000

def credential (indices : List (Fin 64)) : String :=
  String.ofList (indices.map fun idx => base64urlCharset.getD idx 'A')

/-- `DirectTransport` as far as it announces itself and sends. -/
structure DirectTransport (Payloader : Type _) where
  ufrag : String
  pwd : String
  fingerprintSha256 : String
  audioSsrc : UInt32
  videoSsrc : UInt32
  sender : RtpSender Payloader

namespace DirectTransport

variable {Payloader : Type _}

def ssrcOf (transport : DirectTransport Payloader) : StreamType → UInt32
  | .audio => transport.audioSsrc
  | .video => transport.videoSsrc

def startingTrack (ssrc : UInt32) (seq : UInt16) : RtpTrack where
  ssrc
  seq
  ts := 0
  first := true
  packets := 0
  octets := 0

def newWithSsrc (fingerprintSha256 : String) (videoPayloader : Payloader) (draws : Draws)
    (audioSsrc videoSsrc : UInt32) : DirectTransport Payloader where
  ufrag := credential draws.ufrag
  pwd := credential draws.pwd
  fingerprintSha256
  audioSsrc
  videoSsrc
  sender :=
    { closed := false
      udpSocket := false
      remoteAddr := false
      srtpContext := false
      tracks := fun
        | .audio => startingTrack audioSsrc draws.audioSeq
        | .video => startingTrack videoSsrc draws.videoSeq
      videoPayloader
      mediaEpoch := none
      outgoing := []
      wire := []
      frames := fun _ => [] }

def new (fingerprintSha256 : String) (videoPayloader : Payloader) (draws : Draws) :
    DirectTransport Payloader :=
  newWithSsrc fingerprintSha256 videoPayloader draws draws.audioSsrc draws.videoSsrc

def buildLocalParams (transport : DirectTransport Payloader) :
    Except RustTgCallsError LocalParams :=
  Wrtc.buildLocalParams transport.ufrag transport.pwd transport.fingerprintSha256
    transport.audioSsrc transport.videoSsrc

/-- `reset_media_track_state`, with a new payloader. -/
def resetMediaTrackState (sender : RtpSender Payloader) (videoPayloader : Payloader) :
    RtpSender Payloader :=
  { sender with
    tracks := fun kind => { sender.tracks kind with first := true }
    mediaEpoch := none
    videoPayloader }

end DirectTransport

/-! Any number of calls of `send_rtp_bytes` on one transport, beside the tasks that
write its shared fields. -/

structure Traffic (Payloader : Type _) where
  sender : RtpSender Payloader
  calls : Nat → SendStage

namespace Traffic

/-- `shared` is what `connect`, the worker and `close` leave in the shared fields. -/
inductive Action (Payloader : Type _) where
  | call (id : Nat) (args : SendArgs)
  | step (id : Nat) (readings : Readings)
  | rtcpTimer (ntp : UInt64)
  | resetMediaTrackState (videoPayloader : Payloader)
  | shared (closed udpSocket remoteAddr srtpContext : Bool) (mediaEpoch : Option MediaEpoch)

variable {Payloader : Type _}

def new (sender : RtpSender Payloader) : Traffic Payloader where
  sender
  calls := fun _ => .idle

variable (payloader : Payloader → Nat → Bytes → List Bytes × Payloader)

def next (traffic : Traffic Payloader) : Action Payloader → Traffic Payloader
  | .call id args =>
      match traffic.calls id with
      | .idle | .returned =>
          { traffic with calls := Function.update traffic.calls id (.testClosed args) }
      | _ => traffic
  | .step id readings =>
      let turned := Channel.turn payloader traffic.sender readings (traffic.calls id)
      { sender := turned.1, calls := Function.update traffic.calls id turned.2 }
  | .rtcpTimer ntp => { traffic with sender := traffic.sender.emitRtcpSenderReports ntp }
  | .resetMediaTrackState videoPayloader =>
      { traffic with
        sender := DirectTransport.resetMediaTrackState traffic.sender videoPayloader }
  | .shared closed udpSocket remoteAddr srtpContext mediaEpoch =>
      { traffic with
        sender :=
          { traffic.sender with closed, udpSocket, remoteAddr, srtpContext, mediaEpoch } }

end Traffic

/-! What a reader of the parameters is told of the packets to come. -/

namespace LocalParams

def primarySsrc (params : LocalParams) : StreamType → Option UInt32
  | .audio => some params.ssrc
  | .video => params.ssrcGroups.head?.bind fun group => group.sources.head?

end LocalParams

/-- Half a unit, for the timestamps that are rounded to the nearest. -/
def rounding : StreamType → Nat
  | .audio => 0
  | .video => 500000000

/-- The timestamps of the track advance at this rate. -/
def ClockedAt (kind : StreamType) (clockrate : Nat) : Prop :=
  ∀ duration, tsInc kind duration =
    UInt32.ofNat ((duration * clockrate + rounding kind) / 1000000000)

def midOf : StreamType → Bytes
  | .audio => [0x30]
  | .video => [0x31]

/-- The data is of the form that the URI of the extension stands for. -/
def Carries (kind : StreamType) (uri : String) (data : Bytes) : Prop :=
  if uri = uriAbsSendTime then data.length = 3
  else if uri = uriSdesMid then data = midOf kind
  else (uri = uriAudioLevel ∧ kind = .audio ∨ uri = uriVideoOrientation ∧ kind = .video) ∧
    data.length = 1

/-- A packet as the parameters lead a reader to expect it. -/
structure Expected (params : LocalParams) (packet : RtpPacket) : Prop where
  version : packet.header.version = 2
  payloadType : ∃ type ∈ params.payloadTypes, type.id = packet.header.payloadType ∧
    ClockedAt (trackOf packet.header.payloadType) type.clockrate
  ssrc : params.primarySsrc (trackOf packet.header.payloadType) = some packet.header.ssrc
  extensions : ∀ extension ∈ packet.header.extensions, ∃ announced ∈ params.rtpHdrexts,
    announced.id = extension.1 ∧
      Carries (trackOf packet.header.payloadType) announced.uri extension.2
  distinct : (packet.header.extensions.map Prod.fst).Nodup

def ExpectedSent (params : LocalParams) : Sent → Prop
  | .rtp packet => Expected params packet
  | .report kind report =>
      params.primarySsrc kind = some report.ssrc ∧ report.cname = "rusttgcalls"

/-! Every packet that is numbered is of one of two forms. -/

def extensionsOf (ntp : UInt64) : StreamType → List (Nat × Bytes)
  | .audio =>
      [(extAudioLevelId, [0x80]), (extAbsSendTimeId, absTimeBytes ntp),
        (extSdesMidId, [0x30])]
  | .video =>
      [(extAbsSendTimeId, absTimeBytes ntp), (extSdesMidId, [0x31]),
        (extVideoOrientationId, [0x00])]

structure Issued (ssrcs : StreamType → UInt32) (packet : RtpPacket) : Prop where
  version : packet.header.version = 2
  payloadType : packet.header.payloadType =
    payloadTypeOf (trackOf packet.header.payloadType)
  ssrc : packet.header.ssrc = ssrcs (trackOf packet.header.payloadType)
  extensions : ∃ ntp, packet.header.extensions =
    extensionsOf ntp (trackOf packet.header.payloadType)

def IssuedSent (ssrcs : StreamType → UInt32) : Sent → Prop
  | .rtp packet => Issued ssrcs packet
  | .report kind report => report.ssrc = ssrcs kind ∧ report.cname = "rusttgcalls"

section Issued

variable {Payloader : Type _} {ssrcs : StreamType → UInt32}

theorem issued_audio {payloadType : UInt8} (haudio : trackOf payloadType = .audio)
    (payload : Bytes) (ntp : UInt64) {track : RtpTrack} (hssrc : track.ssrc = ssrcs .audio) :
    Issued ssrcs (audioPacket payloadType payload ntp track) := by
  have hopus : payloadType = opusPayloadType := by
    unfold trackOf at haudio
    split at haudio
    · assumption
    · cases haudio
  subst hopus
  exact ⟨rfl, rfl, hssrc, ntp, rfl⟩

theorem issued_video (ntp : UInt64) {ssrc : UInt32} (hssrc : ssrc = ssrcs .video)
    (timestamp : UInt32) (seq : UInt16) (chunks : List Bytes) :
    ∀ packet ∈ (videoPackets ntp ssrc timestamp seq chunks).1, Issued ssrcs packet := by
  induction chunks generalizing seq with
  | nil => simp [videoPackets]
  | cons chunk rest ih => exact List.forall_mem_cons.mpr ⟨⟨rfl, rfl, hssrc, ntp, rfl⟩, ih _⟩

/-- The tracks keep their SSRCs, and everything sent is of the transport's own. -/
structure Issuing (ssrcs : StreamType → UInt32) (sender : RtpSender Payloader) : Prop where
  kept : ∀ kind, (sender.tracks kind).ssrc = ssrcs kind
  wire : ∀ sent ∈ sender.wire, IssuedSent ssrcs sent

def IssuedStage (ssrcs : StreamType → UInt32) (stage : SendStage) : Prop :=
  ∀ packet ∈ unsent stage, Issued ssrcs packet

variable {sender : RtpSender Payloader}

theorem Issuing.emit (hissuing : Issuing ssrcs sender) (ntp : UInt64) :
    Issuing ssrcs (sender.emitRtcpSenderReports ntp) := by
  unfold emitRtcpSenderReports
  split
  · refine ⟨hissuing.kept, ?_⟩
    intro sent hsent
    obtain hold | hnew := List.mem_append.mp hsent
    · exact hissuing.wire sent hold
    · obtain rfl | rfl : sent = .report .audio (senderReport (sender.tracks .audio) ntp) ∨
          sent = .report .video (senderReport (sender.tracks .video) ntp) := by
        simpa using hnew
      · exact ⟨hissuing.kept .audio, rfl⟩
      · exact ⟨hissuing.kept .video, rfl⟩
  · exact hissuing

/-- What a step does to a track beside its SSRC is no concern. -/
theorem Issuing.move (hissuing : Issuing ssrcs sender) {moved : RtpSender Payloader}
    (hssrcs : ∀ kind, (moved.tracks kind).ssrc = (sender.tracks kind).ssrc)
    (hwire : moved.wire = sender.wire) : Issuing ssrcs moved :=
  ⟨fun kind => (hssrcs kind).trans (hissuing.kept kind), hwire ▸ hissuing.wire⟩

theorem ssrc_update (tracks : StreamType → RtpTrack) (kind : StreamType) {track : RtpTrack}
    (hssrc : track.ssrc = (tracks kind).ssrc) (other : StreamType) :
    (Function.update tracks kind track other).ssrc = (tracks other).ssrc := by
  by_cases hsame : other = kind
  · subst hsame
    simpa using hssrc
  · rw [Function.update_of_ne hsame]

variable (payloader : Payloader → Nat → Bytes → List Bytes × Payloader)

theorem Issuing.transmit (hissuing : Issuing ssrcs sender) (readings : Readings)
    {packets : List RtpPacket} (hstage : IssuedStage ssrcs (.transmit packets)) :
    Issuing ssrcs (Channel.turn payloader sender readings (.transmit packets)).1 ∧
      IssuedStage ssrcs (Channel.turn payloader sender readings (.transmit packets)).2 := by
  cases packets with
  | nil => exact ⟨hissuing.move (fun _ => rfl) rfl, hstage⟩
  | cons packet rest =>
      obtain ⟨hpacket, hrest⟩ := List.forall_mem_cons.mp hstage
      simp only [Channel.turn, RtpSender.transmit]
      refine ⟨⟨fun kind => ?_, ?_⟩, hrest⟩
      · rw [← hissuing.kept kind]
        apply ssrc_update
        rfl
      · intro sent hsent
        obtain hold | hnew := List.mem_append.mp hsent
        · exact hissuing.wire sent hold
        · rw [List.mem_singleton.mp hnew]
          exact hpacket

theorem Issuing.stamp (hissuing : Issuing ssrcs sender) (readings : Readings)
    (args : SendArgs) :
    Issuing ssrcs (Channel.turn payloader sender readings (.stamp args)).1 ∧
      IssuedStage ssrcs (Channel.turn payloader sender readings (.stamp args)).2 := by
  simp only [Channel.turn]
  cases hkind : trackOf args.payloadType with
  | audio =>
      have hpacket := issued_audio hkind args.payload readings.packetNtp
        (hissuing.kept .audio)
      simp only [sendAudio]
      split
      · exact ⟨hissuing.move (ssrc_update sender.tracks .audio rfl) rfl,
          List.forall_mem_singleton.mpr hpacket⟩
      · exact ⟨hissuing.move (ssrc_update sender.tracks .audio rfl) rfl,
          List.forall_mem_nil _⟩
  | video =>
      exact ⟨hissuing.move (ssrc_update sender.tracks .video rfl) rfl,
        List.forall_mem_nil _⟩

/-- A step of a call. -/
theorem Issuing.turn (hissuing : Issuing ssrcs sender) (readings : Readings)
    {stage : SendStage} (hstage : IssuedStage ssrcs stage) :
    Issuing ssrcs (Channel.turn payloader sender readings stage).1 ∧
      IssuedStage ssrcs (Channel.turn payloader sender readings stage).2 := by
  cases stage with
  | idle | returned => exact ⟨hissuing, hstage⟩
  | testClosed args =>
      refine ⟨hissuing, ?_⟩
      simp only [Channel.turn]
      split <;> exact List.forall_mem_nil _
  | mediaEpoch args =>
      simp only [Channel.turn]
      split
      · exact ⟨hissuing, List.forall_mem_nil _⟩
      · exact ⟨hissuing.move (fun _ => rfl) rfl, List.forall_mem_nil _⟩
  | senderReports args justStarted =>
      cases justStarted with
      | false => exact ⟨hissuing, List.forall_mem_nil _⟩
      | true => exact ⟨hissuing.emit readings.reportNtp, List.forall_mem_nil _⟩
  | stamp args => exact hissuing.stamp payloader readings args
  | packetize payload ts ntp =>
      refine ⟨hissuing.move (fun _ => rfl) rfl, ?_⟩
      simp only [Channel.turn]
      split <;> exact List.forall_mem_nil _
  | address chunks ts ntp =>
      refine ⟨hissuing, ?_⟩
      simp only [Channel.turn]
      split <;> exact List.forall_mem_nil _
  | encrypt chunks ts ntp =>
      simp only [Channel.turn]
      split
      · exact ⟨hissuing.move (ssrc_update sender.tracks .video rfl) rfl,
          issued_video ntp (hissuing.kept .video) ts _ chunks⟩
      · exact ⟨hissuing, List.forall_mem_nil _⟩
  | transmit packets => exact hissuing.transmit payloader readings hstage

end Issued

namespace Traffic

variable {Payloader : Type _} {payloader : Payloader → Nat → Bytes → List Bytes × Payloader}
  {ssrcs : StreamType → UInt32}

structure Issuing (ssrcs : StreamType → UInt32) (traffic : Traffic Payloader) : Prop where
  sender : Wrtc.Issuing ssrcs traffic.sender
  calls : ∀ id, IssuedStage ssrcs (traffic.calls id)

theorem issued_update {calls : Nat → SendStage} (hcalls : ∀ id, IssuedStage ssrcs (calls id))
    (id : Nat) {stage : SendStage} (hstage : IssuedStage ssrcs stage) (other : Nat) :
    IssuedStage ssrcs (Function.update calls id stage other) := by
  by_cases hsame : other = id
  · subst hsame
    simpa using hstage
  · rw [Function.update_of_ne hsame]
    exact hcalls other

theorem issuing_next (traffic : Traffic Payloader) (action : Action Payloader)
    (hissuing : Issuing ssrcs traffic) : Issuing ssrcs (traffic.next payloader action) := by
  obtain ⟨hsender, hcalls⟩ := hissuing
  cases action with
  | call id args =>
      have hbegun : Issuing ssrcs
          { traffic with calls := Function.update traffic.calls id (.testClosed args) } :=
        ⟨hsender, issued_update hcalls id (List.forall_mem_nil _)⟩
      simp only [next]
      cases traffic.calls id with
      | idle | returned => exact hbegun
      | _ => exact ⟨hsender, hcalls⟩
  | step id readings =>
      obtain ⟨hmoved, hstage⟩ := hsender.turn payloader readings (hcalls id)
      exact ⟨hmoved, issued_update hcalls id hstage⟩
  | rtcpTimer ntp => exact ⟨hsender.emit ntp, hcalls⟩
  | resetMediaTrackState videoPayloader =>
      exact ⟨hsender.move (fun _ => rfl) rfl, hcalls⟩
  | shared closed udpSocket remoteAddr srtpContext mediaEpoch =>
      exact ⟨hsender.move (fun _ => rfl) rfl, hcalls⟩

end Traffic

/-! What the parameters say of such packets. -/

section Announced

variable {Payloader : Type _} {transport : DirectTransport Payloader}
  {params written : LocalParams}

/-- What `build_local_params` puts down, whatever the credentials. -/
structure Describes (transport : DirectTransport Payloader) (params : LocalParams) :
    Prop where
  primary : ∀ kind, params.primarySsrc kind = some (transport.ssrcOf kind)
  payloadTypes : ∀ kind, ∃ type ∈ params.payloadTypes, type.id = payloadTypeOf kind ∧
    ClockedAt kind type.clockrate
  rtpHdrexts : params.rtpHdrexts = rtpHdrexts

theorem clockedAt_audio : ClockedAt .audio 48000 := by
  intro duration
  simp [tsInc, rounding]

theorem clockedAt_video : ClockedAt .video 90000 := by
  intro duration
  simp [tsInc, rounding]

theorem describes_buildLocalParams (hvideo : transport.videoSsrc ≠ 0)
    (hbuilt : transport.buildLocalParams = .ok params) : Describes transport params := by
  obtain rfl := eq_of_buildLocalParams hbuilt
  refine ⟨?_, ?_, rfl⟩
  · intro kind
    cases kind with
    | audio => rfl
    | video =>
        rw [LocalParams.primarySsrc, if_pos hvideo]
        rfl
  · intro kind
    cases kind with
    | audio => exact ⟨_, List.mem_cons_self, rfl, clockedAt_audio⟩
    | video =>
        exact ⟨_, List.mem_cons_of_mem _ List.mem_cons_self, rfl, clockedAt_video⟩

/-- The order of the maps' entries changes nothing of this. -/
theorem Describes.sameAs (hdescribes : Describes transport params)
    (hsame : params.SameAs written) : Describes transport written := by
  obtain ⟨hprimary, htypes, hextensions⟩ := hdescribes
  obtain ⟨hrest, hforall⟩ := hsame
  refine ⟨?_, ?_, ?_⟩
  · intro kind
    rw [hrest]
    exact hprimary kind
  · intro kind
    obtain ⟨type, hmem, hid, hclock⟩ := htypes kind
    obtain ⟨other, hother, hsameType⟩ := PayloadType.SameAs.exists_other hforall hmem
    rw [hsameType.rest] at hother
    exact ⟨_, hother, hid, hclock⟩
  · rw [hrest]
    exact hextensions

theorem carries_absSendTime (kind : StreamType) (ntp : UInt64) :
    Carries kind uriAbsSendTime (absTimeBytes ntp) := by
  rw [Carries, if_pos rfl]
  rfl

theorem carries_sdesMid (kind : StreamType) : Carries kind uriSdesMid (midOf kind) := by
  rw [Carries, if_neg (by decide), if_pos rfl]

theorem carries_audioLevel (level : UInt8) : Carries .audio uriAudioLevel [level] := by
  rw [Carries, if_neg (by decide), if_neg (by decide)]
  exact ⟨.inl ⟨rfl, rfl⟩, rfl⟩

theorem carries_videoOrientation (rotation : UInt8) :
    Carries .video uriVideoOrientation [rotation] := by
  rw [Carries, if_neg (by decide), if_neg (by decide)]
  exact ⟨.inr ⟨rfl, rfl⟩, rfl⟩

theorem carries_extensions (kind : StreamType) (ntp : UInt64) :
    ∀ extension ∈ extensionsOf ntp kind, ∃ announced ∈ rtpHdrexts,
      announced.id = extension.1 ∧ Carries kind announced.uri extension.2 := by
  have hlevel : ⟨extAudioLevelId, uriAudioLevel⟩ ∈ rtpHdrexts := by simp [rtpHdrexts]
  have htime : ⟨extAbsSendTimeId, uriAbsSendTime⟩ ∈ rtpHdrexts := by simp [rtpHdrexts]
  have hmid : ⟨extSdesMidId, uriSdesMid⟩ ∈ rtpHdrexts := by simp [rtpHdrexts]
  have horientation : ⟨extVideoOrientationId, uriVideoOrientation⟩ ∈ rtpHdrexts := by
    simp [rtpHdrexts]
  intro extension hmem
  cases kind with
  | audio =>
      obtain rfl | rfl | rfl : extension = (extAudioLevelId, [0x80]) ∨
          extension = (extAbsSendTimeId, absTimeBytes ntp) ∨
          extension = (extSdesMidId, midOf .audio) := by
        simpa [extensionsOf, midOf] using hmem
      · exact ⟨_, hlevel, rfl, carries_audioLevel 0x80⟩
      · exact ⟨_, htime, rfl, carries_absSendTime .audio ntp⟩
      · exact ⟨_, hmid, rfl, carries_sdesMid .audio⟩
  | video =>
      obtain rfl | rfl | rfl : extension = (extAbsSendTimeId, absTimeBytes ntp) ∨
          extension = (extSdesMidId, midOf .video) ∨
          extension = (extVideoOrientationId, [0x00]) := by
        simpa [extensionsOf, midOf] using hmem
      · exact ⟨_, htime, rfl, carries_absSendTime .video ntp⟩
      · exact ⟨_, hmid, rfl, carries_sdesMid .video⟩
      · exact ⟨_, horientation, rfl, carries_videoOrientation 0x00⟩

theorem distinct_extensions (kind : StreamType) (ntp : UInt64) :
    ((extensionsOf ntp kind).map Prod.fst).Nodup := by
  cases kind with
  | audio =>
      exact (by decide : [extAudioLevelId, extAbsSendTimeId, extSdesMidId].Nodup)
  | video =>
      exact (by decide : [extAbsSendTimeId, extSdesMidId, extVideoOrientationId].Nodup)

theorem Describes.expected (hdescribes : Describes transport params) {packet : RtpPacket}
    (hissued : Issued transport.ssrcOf packet) : Expected params packet := by
  obtain ⟨hversion, hpayloadType, hssrc, ntp, hextensions⟩ := hissued
  refine ⟨hversion, ?_, ?_, ?_, ?_⟩
  · rw [hpayloadType, trackOf_payloadTypeOf]
    exact hdescribes.payloadTypes _
  · rw [hssrc]
    exact hdescribes.primary _
  · rw [hextensions, hdescribes.rtpHdrexts]
    exact carries_extensions _ ntp
  · rw [hextensions]
    exact distinct_extensions _ ntp

theorem Describes.expectedSent (hdescribes : Describes transport params) {sent : Sent}
    (hissued : IssuedSent transport.ssrcOf sent) : ExpectedSent params sent := by
  cases sent with
  | rtp packet => exact hdescribes.expected hissued
  | report kind report =>
      obtain ⟨hssrc, hcname⟩ := hissued
      exact ⟨hssrc ▸ hdescribes.primary kind, hcname⟩

end Announced

namespace DirectTransport

variable {Payloader : Type _}

theorem credential_ne_empty {indices : List (Fin 64)} {length : Nat}
    (hlength : indices.length = length + 1) : (credential indices).isEmpty = false := by
  cases indices with
  | nil => cases hlength
  | cons idx rest =>
      apply Bool.eq_false_iff.mpr
      intro hempty
      have hblank : credential (idx :: rest) = "" := String.isEmpty_iff.mp hempty
      have hnone := congrArg String.toList hblank
      simp [credential] at hnone

theorem announces (fingerprintSha256 : String) (hfingerprint : fingerprintSha256 ≠ "")
    (videoPayloader : Payloader) (draws : Draws) :
    ∃ params, (new fingerprintSha256 videoPayloader draws).buildLocalParams = .ok params := by
  have hssrc : draws.audioSsrc ≠ 0 := by
    intro hzero
    have hrange := draws.audioRange.1
    rw [hzero] at hrange
    exact absurd hrange (by decide)
  have hempty : fingerprintSha256.isEmpty = false := by simpa using hfingerprint
  exact buildLocalParams_ok (credential_ne_empty draws.ufragLength)
    (credential_ne_empty draws.pwdLength) hempty hssrc

theorem issuing_new (fingerprintSha256 : String) (videoPayloader : Payloader)
    (draws : Draws) :
    Traffic.Issuing (new fingerprintSha256 videoPayloader draws).ssrcOf
      (.new (new fingerprintSha256 videoPayloader draws).sender) := by
  refine ⟨⟨?_, by simp [Traffic.new, new, newWithSsrc]⟩, fun _ => List.forall_mem_nil _⟩
  intro kind
  cases kind <;> rfl

/-- A reader of the serialised parameters, whatever the order of their maps, expects
every packet and every report that the transport then sends, however the calls,
the timer, `connect`, the worker and `close` interleave. -/
theorem announced_always (payloader : Payloader → Nat → Bytes → List Bytes × Payloader)
    (fingerprintSha256 : String) (hfingerprint : fingerprintSha256 ≠ "")
    (videoPayloader : Payloader) (draws : Draws) (actions : List (Traffic.Action Payloader)) :
    ∃ params, (new fingerprintSha256 videoPayloader draws).buildLocalParams = .ok params ∧
      ∀ written, params.SameAs written →
        LocalParams.decode written.encode = some written ∧
          Always (Traffic.next payloader)
            (fun now => ∀ sent ∈ now.sender.wire, ExpectedSent written sent)
            (.new (new fingerprintSha256 videoPayloader draws).sender) actions := by
  obtain ⟨params, hbuilt⟩ :=
    announces fingerprintSha256 hfingerprint videoPayloader draws
  refine ⟨params, hbuilt, fun written hsame => ⟨?_, ?_⟩⟩
  · exact decode_encode_localParams (hsame.typed (typed_buildLocalParams hbuilt))
  · have hvideo : (new fingerprintSha256 videoPayloader draws).videoSsrc ≠ 0 := by
      intro hzero
      have hrange := draws.videoRange.1
      rw [show draws.videoSsrc = 0 from hzero] at hrange
      exact absurd hrange (by decide)
    have hdescribes := (describes_buildLocalParams hvideo hbuilt).sameAs hsame
    have hall : Along (Traffic.next payloader) (fun _ _ => True)
        (.new (new fingerprintSha256 videoPayloader draws).sender) actions := along_true
    have halways := hall.always
      (fun now action hnow _ => Traffic.issuing_next now action hnow)
      (issuing_new fingerprintSha256 videoPayloader draws)
    exact halways.mono fun now hnow sent hsent =>
      hdescribes.expectedSent (hnow.sender.wire sent hsent)

def someDraws : Draws where
  audioSsrc := 0x10000001
  videoSsrc := 0x10000002
  ufrag := List.replicate 16 7
  pwd := List.replicate 32 9
  audioSeq := 1000
  videoSeq := 1001
  audioRange := by decide
  videoRange := by decide
  ufragLength := rfl
  pwdLength := rfl
  seqRange := by decide

/-- A frame of each track, and the timer once the transport is connected. -/
def someTraffic : List (Traffic.Action Unit) :=
  let readings : Readings := ⟨0, 0, 0, 0⟩
  [.shared false true true true none,
    .call 0 ⟨opusPayloadType, [1], 20000000⟩, .call 1 ⟨vp8PayloadType, [2, 3, 4], 40000000⟩] ++
    (List.range 18).map (fun i => .step (i % 2) readings) ++ [.rtcpTimer 5]

theorem announced_someTraffic :
    ∃ params, (new "AB:CD" () someDraws).buildLocalParams = .ok params ∧
      ∀ written, params.SameAs written →
        LocalParams.decode written.encode = some written ∧
          Always (Traffic.next twoByteChunks)
            (fun now => ∀ sent ∈ now.sender.wire, ExpectedSent written sent)
            (.new (new "AB:CD" () someDraws).sender) someTraffic :=
  announced_always twoByteChunks "AB:CD" (by decide) () someDraws someTraffic

end DirectTransport

end RustTgCalls.Wrtc
