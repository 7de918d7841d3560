import RustTgCalls.Wrtc.Remote

namespace RustTgCalls.Wrtc

/-! The local parameters announced to Telegram. -/

structure SSRCGroup where
  semantics : String
  sources : List UInt32
  deriving DecidableEq, Repr

structure RTCPFb where
  feedbackType : String
  subtype : String
  deriving DecidableEq, Repr

structure PayloadType where
  id : UInt8
  name : String
  clockrate : Nat
  channels : Nat
  parameters : Option (List (String × String))
  rtcpFbs : List RTCPFb
  deriving DecidableEq, Repr

structure RTPHdrExt where
  id : Nat
  uri : String
  deriving DecidableEq, Repr

structure LocalParams where
  ufrag : String
  pwd : String
  fingerprints : List Fingerprint
  ssrcGroups : List SSRCGroup
  payloadTypes : List PayloadType
  rtpHdrexts : List RTPHdrExt
  ssrc : UInt32
  deriving DecidableEq, Repr


def extAudioLevelId : Nat := 1
def extAbsSendTimeId : Nat := 2
def extTransportCcId : Nat := 3
def extSdesMidId : Nat := 4
def extVideoOrientationId : Nat := 5

def uriAudioLevel : String := "urn:ietf:params:rtp-hdrext:ssrc-audio-level"
def uriAbsSendTime : String :=
  "http://www.webrtc.org/experiments/rtp-hdrext/abs-send-time"
def uriTransportCc : String :=
  "http://www.ietf.org/id/draft-holmer-rmcat-transport-wide-cc-extensions-01"
def uriSdesMid : String := "urn:ietf:params:rtp-hdrext:sdes:mid"
def uriVideoOrientation : String := "urn:3gpp:video-orientation"

def opusParams : List (String × String) :=
  [("minptime", "10"), ("useinbandfec", "1"), ("stereo", "1"),
    ("sprop-stereo", "1"), ("maxaveragebitrate", "510000")]

def payloadTypes : List PayloadType :=
  [{ id := opusPayloadType
     name := "opus"
     clockrate := opusSampleRate
     channels := defaultChannelCount
     parameters := some opusParams
     rtcpFbs := [⟨"transport-cc", ""⟩] },
    { id := vp8PayloadType
      name := "VP8"
      clockrate := 90000
      channels := 0
      parameters := none
      rtcpFbs :=
        [⟨"goog-remb", ""⟩, ⟨"transport-cc", ""⟩, ⟨"ccm", "fir"⟩,
          ⟨"nack", ""⟩, ⟨"nack", "pli"⟩] }]

def rtpHdrexts : List RTPHdrExt :=
  [⟨extAudioLevelId, uriAudioLevel⟩, ⟨extAbsSendTimeId, uriAbsSendTime⟩,
    ⟨extTransportCcId, uriTransportCc⟩, ⟨extSdesMidId, uriSdesMid⟩,
    ⟨extVideoOrientationId, uriVideoOrientation⟩]

/-- The parameters before their serialization, which cannot fail on them. -/
def buildLocalParams (ufrag pwd fingerprintSha256 : String)
    (audioSsrc videoSsrc : UInt32) : Except RustTgCallsError LocalParams :=
  if ufrag.isEmpty || pwd.isEmpty || fingerprintSha256.isEmpty then
    .error (.invalidParams "empty ufrag, pwd, or fingerprint")
  else if audioSsrc = 0 then
    .error (.invalidParams "audio_ssrc cannot be zero")
  else
    .ok
      { ufrag
        pwd
        ssrc := audioSsrc
        fingerprints := [⟨"sha-256", "passive", fingerprintSha256⟩]
        payloadTypes
        rtpHdrexts
        ssrcGroups :=
          if videoSsrc ≠ 0 then [⟨"FID", [videoSsrc, videoSsrc + 1]⟩] else [] }

/-- Every SSRC that the parameters name. -/
def LocalParams.ssrcs (params : LocalParams) : List UInt32 :=
  params.ssrc :: params.ssrcGroups.flatMap SSRCGroup.sources

theorem ssrcs_buildLocalParams {ufrag pwd fingerprint : String}
    {audio video : UInt32} {params : LocalParams}
    (hbuilt : buildLocalParams ufrag pwd fingerprint audio video = .ok params) :
    params.ssrcs = audio :: if video ≠ 0 then [video, video + 1] else [] := by
  unfold buildLocalParams at hbuilt
  split at hbuilt
  · cases hbuilt
  · split at hbuilt
    · cases hbuilt
    · cases hbuilt
      simp only [LocalParams.ssrcs]
      split <;> rfl

end RustTgCalls.Wrtc
