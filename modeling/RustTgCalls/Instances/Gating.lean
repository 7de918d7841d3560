import RustTgCalls.Library.Transition
import RustTgCalls.Instances.GroupCall

namespace RustTgCalls.Instances.GroupCall

open Media Transition

inductive Operation where
  | setSource (streams : Streams) (awaited : ConnState)
  | pause
  | resume
  | mute
  | unmute
  deriving DecidableEq, Repr

def perform (call : GroupCall) : Operation → GroupCall
  | .setSource streams awaited => (call.setSource streams awaited).call
  | .pause => call.pause.call
  | .resume => call.resume.call
  | .mute => call.mute.call
  | .unmute => call.unmute.call

/-- Each installed streamer is held back exactly by the flags that apply to it. -/
structure Gated (call : GroupCall) : Prop where
  audio : ∀ streamer, call.audioStreamer = some streamer →
    streamer.paused = (call.muted || call.paused)
  video : ∀ streamer, call.videoStreamer = some streamer →
    streamer.paused = call.paused

/-- No operation reopens the audio streamer past the other flag: a `resume` that
takes effect finds the call unmuted, an `unmute` finds it unpaused. -/
def Unopposed (call : GroupCall) : Operation → Prop
  | .resume => call.closed = false → call.paused = true →
      call.audioStreamer.isSome → call.muted = false
  | .unmute => call.closed = false → call.muted = true →
      call.audioStreamer.isSome → call.paused = false
  | _ => True

instance : DecidablePred Gated := fun call =>
  decidable_of_iff
    ((∀ streamer ∈ call.audioStreamer,
        streamer.paused = (call.muted || call.paused)) ∧
      ∀ streamer ∈ call.videoStreamer, streamer.paused = call.paused)
    ⟨fun hgated => ⟨hgated.1, hgated.2⟩, fun hgated => ⟨hgated.1, hgated.2⟩⟩

theorem paused_audioLeg (call : GroupCall) (syncBarrier : Option Nat)
    (source : Bytes) :
    (call.audioLeg syncBarrier source).paused = (call.muted || call.paused) := by
  unfold audioLeg
  cases hsilent : call.muted || call.paused <;> simp

theorem paused_videoLeg (call : GroupCall) (syncBarrier : Option Nat)
    (hasAudio : Bool) (source : Bytes) :
    (call.videoLeg syncBarrier hasAudio source).paused = call.paused := by
  unfold videoLeg
  cases hpaused : call.paused <;> cases hasAudio <;> simp

theorem gated_setSource (call : GroupCall) (streams : Streams)
    (awaited : ConnState) (hgated : Gated call) :
    Gated (call.setSource streams awaited).call := by
  unfold setSource
  split
  · exact hgated
  · split
    · exact hgated
    · constructor
      · intro streamer hstreamer
        obtain ⟨source, _, rfl⟩ := Option.map_eq_some_iff.mp hstreamer
        exact call.paused_audioLeg _ source
      · intro streamer hstreamer
        obtain ⟨source, _, rfl⟩ := Option.map_eq_some_iff.mp hstreamer
        exact call.paused_videoLeg _ _ source

theorem gated_toggle_iff (call swapped : GroupCall) (unchanged : Bool)
    (audio video : Streamer EndCallback → Streamer EndCallback)
    (hgated : Gated call) :
    Gated (call.toggle unchanged swapped audio video).call ↔
      (call.closed = false → unchanged = false →
        (∀ streamer, swapped.audioStreamer = some streamer →
          (audio streamer).paused = (swapped.muted || swapped.paused)) ∧
        ∀ streamer, swapped.videoStreamer = some streamer →
          (video streamer).paused = swapped.paused) := by
  unfold toggle
  split
  next hclosed => simp [refuse, hclosed, hgated]
  next hopen =>
    split
    next hunchanged => simp [hunchanged, hgated]
    next hchanged =>
      have hopen : call.closed = false := by simpa using hopen
      have hchanged : unchanged = false := by simpa using hchanged
      simp only [hopen, hchanged, forall_const]
      constructor
      · intro hnext
        constructor
        · intro streamer hstreamer
          exact hnext.audio (audio streamer) (by simp [hstreamer])
        · intro streamer hstreamer
          exact hnext.video (video streamer) (by simp [hstreamer])
      · rintro ⟨haudio, hvideo⟩
        constructor
        · intro streamer hstreamer
          obtain ⟨before, hbefore, rfl⟩ := Option.map_eq_some_iff.mp hstreamer
          exact haudio before hbefore
        · intro streamer hstreamer
          obtain ⟨before, hbefore, rfl⟩ := Option.map_eq_some_iff.mp hstreamer
          exact hvideo before hbefore

/-- From a gated call, one operation leaves it gated exactly when the operation
is unopposed. -/
theorem gated_perform_iff (call : GroupCall) (operation : Operation)
    (hgated : Gated call) :
    Gated (call.perform operation) ↔ Unopposed call operation := by
  cases operation with
  | setSource streams awaited =>
      exact ⟨fun _ => trivial, fun _ => gated_setSource call streams awaited hgated⟩
  | pause =>
      refine ⟨fun _ => trivial, fun _ => ?_⟩
      exact (gated_toggle_iff call _ _ _ _ hgated).mpr (by simp)
  | resume =>
      refine (gated_toggle_iff call _ _ _ _ hgated).trans ?_
      cases haudio : call.audioStreamer with
      | none => simp [Unopposed, haudio]
      | some streamer => simp [Unopposed, haudio]
  | mute =>
      refine ⟨fun _ => trivial, fun _ => ?_⟩
      refine (gated_toggle_iff call _ _ _ _ hgated).mpr ?_
      intro _ _
      exact ⟨by simp, fun streamer hstreamer => hgated.video streamer hstreamer⟩
  | unmute =>
      refine (gated_toggle_iff call _ _ _ _ hgated).trans ?_
      have hvideo := hgated.video
      cases haudio : call.audioStreamer with
      | none => simp_all [Unopposed]
      | some streamer => simp_all [Unopposed]

def connectedCall (chatId : Int) (connectTimeout : Duration)
    (events : GroupCallEvents) : GroupCall :=
  ((newWithEvents chatId connectTimeout events).connect (.ok ())
    .connected).call

theorem gated_connectedCall (chatId : Int) (connectTimeout : Duration)
    (events : GroupCallEvents) :
    Gated (connectedCall chatId connectTimeout events) := by
  constructor <;> simp [connectedCall, connect, newWithEvents]

/-- The streamers of a connected call follow the flags in every state of a run
exactly when every operation of the run is unopposed. -/
theorem always_gated_iff (chatId : Int) (connectTimeout : Duration)
    (events : GroupCallEvents) (operations : List Operation) :
    Always perform Gated (connectedCall chatId connectTimeout events)
        operations ↔
      Along perform Unopposed (connectedCall chatId connectTimeout events)
        operations :=
  always_iff_along (fun _ hgated => hgated)
    (fun call operation hgated => (gated_perform_iff call operation hgated).mpr)
    (fun call operation hgated => (gated_perform_iff call operation hgated).mp)
    (gated_connectedCall chatId connectTimeout events)

/-- A call muted and paused is audible again after `resume`. -/
theorem resume_opens_muted_audio :
    ¬ Always perform Gated
      (connectedCall 1 0 ⟨false, false, false⟩)
      [.setSource ⟨some [], none, none⟩ .connected, .mute, .pause, .resume] := by
  decide

end RustTgCalls.Instances.GroupCall
