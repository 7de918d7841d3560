import RustTgCalls.Reaping

namespace RustTgCalls

open Instances Media Transition

/-! Which callbacks hear of a change of a call's connection state and of a source
that comes to its end by itself.  `create_call` passes no dispatcher, so a leg calls
the callback itself. -/

inductive ClientEvent where
  | connectionChange (state : ConnState)
  | streamEnd (source : EndCallback) (error : Option RustTgCallsError)
  deriving DecidableEq, Repr

/-- One call of a callback. -/
structure Delivery where
  callback : Nat
  chatId : Int
  event : ClientEvent
  deriving DecidableEq, Repr

/-- What a delivery has to be about. -/
inductive Topic where
  | connectionChange (state : ConnState)
  | sourceEnd
  deriving DecidableEq, Repr

structure Due where
  callback : Nat
  chatId : Int
  topic : Topic
  deriving DecidableEq, Repr

def ClientEvent.topic : ClientEvent → Topic
  | .connectionChange state => .connectionChange state
  | .streamEnd _ _ => .sourceEnd

def Delivery.due (delivery : Delivery) : Due :=
  ⟨delivery.callback, delivery.chatId, delivery.event.topic⟩

namespace Instances

/-- The callback a leg is installed with: in a source of two legs the audio leg
tells the end. -/
def GroupCall.installedEnd (call : GroupCall) : StreamType → Option EndCallback
  | .audio => some ⟨.audio, .microphone⟩
  | .video => if call.hadAudio then none else some ⟨.video, .camera⟩

/-- The legs that play have their callbacks, but for those whose `set_source` has
still to register one. -/
structure GroupCall.Installed (call : GroupCall) (installing : Option Installing) :
    Prop where
  ends : ∀ leg, ∀ streamer ∈ call.playing leg,
    streamer.onEnd = if installing.isSome then none else call.installedEnd leg
  first : ∀ step ∈ installing,
    step.leg = .audio ∧ call.hadAudio = true ∨
      step.leg = .video ∧ call.hadAudio = false ∧ call.audioStreamer = none

namespace Call

def chatId : Call → Int
  | .group call => call.chatId
  | .rtmp call => call.chatId

/-- The event is the end of the source of the call. -/
def endsSource : Call → Event → Bool
  | .group call, .legEnded leg _ =>
      (call.playing leg).isSome && (call.installedEnd leg).isSome
  | .rtmp call, .processExited _ => call.cmd.isSome && !call.closed
  | _, _ => false

end Call

end Instances

namespace Facade

variable (formatSeconds : Nat → String) {facade : Facade}

/-- What the events of a group call make of an event. -/
def tell (captured : Captured) (call : GroupCall) : Event → List Delivery
  | .stateChanged state =>
      captured.onConnectionChange.toList.map fun callback =>
        ⟨callback, call.chatId, .connectionChange state⟩
  | .legEnded leg error =>
      match (call.playing leg).bind Streamer.onEnd with
      | some source =>
          captured.onStreamEnd.toList.map fun callback =>
            ⟨callback, call.chatId, .streamEnd source error⟩
      | none => []
  | _ => []

def deliveries (facade : Facade) : Action → List Delivery
  | .undergo id event =>
      match facade.objects id, facade.captured id with
      | some (.group call), some captured => tell captured call event
      | _, _ => []
  | _ => []

/-- The call an action is about. -/
def subject (facade : Facade) : Action → Option Nat
  | .invoke chat _ => facade.client.calls chat
  | .perform id _ | .enter id _ _ _ _ | .install id | .undergo id _ => some id
  | .stopRemoved id => if id ∈ facade.stopping then some id else none
  | .stopVisited =>
      match facade.closeAt with
      | .iterating _ visited => visited
      | _ => none
  | _ => none

def event : Action → Option Event
  | .undergo _ event => some event
  | _ => none

def stateAfter (facade : Facade) (action : Action) (id : Nat) : Option ConnState :=
  ((facade.next formatSeconds action).objects id).map Call.netState

/-- The action changes the connection state of its call. -/
def changesState (facade : Facade) (action : Action) (id : Nat) (call : Call) : Bool :=
  facade.stateAfter formatSeconds action id != some call.netState

/-- What is due to the callbacks registered at the moment. -/
def due (facade : Facade) (action : Action) (id : Nat) (call : Call) : List Due :=
  (if facade.changesState formatSeconds action id call then
    match facade.onConnectionChange, facade.stateAfter formatSeconds action id with
    | some callback, some state => [⟨callback, call.chatId, .connectionChange state⟩]
    | _, _ => []
  else []) ++
  (if (event action).any call.endsSource then
    facade.onStreamEnd.toList.map fun callback => ⟨callback, call.chatId, .sourceEnd⟩
  else [])

/-- An action on a live call delivers what is due. -/
def DeliversDue (facade : Facade) (action : Action) : Prop :=
  ∀ id ∈ facade.subject action, ∀ call ∈ facade.objects id, call.live = true →
    (facade.deliveries action).map Delivery.due =
      facade.due formatSeconds action id call

/-- The callback that the end of a call's source reaches. -/
def endCallback (facade : Facade) (id : Nat) : Call → Option Nat
  | .group _ =>
      if (facade.installing id).isSome then none
      else (facade.captured id).bind Captured.onStreamEnd
  | .rtmp _ => none

/-- No callback awaits changes of the state when it changes, and the callback for
ends is the one the call has captured and given to its leg. -/
def Wired (facade : Facade) (action : Action) : Prop :=
  ∀ id ∈ facade.subject action, ∀ call ∈ facade.objects id, call.live = true →
    (facade.changesState formatSeconds action id call = true →
      facade.onConnectionChange = none) ∧
    ((event action).any call.endsSource = true →
      facade.endCallback id call = facade.onStreamEnd)

/-- Every group call keeps its legs' callbacks installed, and the events it was
created with. -/
structure Plumbed (facade : Facade) : Prop where
  constructing : ∀ id request, facade.client.creators id = .construct request →
    ∃ registered, facade.captured id = some ⟨registered, none⟩
  installed : ∀ id call, facade.objects id = some (.group call) →
    call.Installed (facade.installing id) ∧
      ∃ registered, facade.captured id = some ⟨registered, none⟩
  idle : ∀ id, facade.objects id = none → facade.installing id = none

end Facade

/-! The legs of a group call keep the callbacks they were installed with. -/

namespace Instances.GroupCall

theorem playing_some {call : GroupCall} {leg : StreamType}
    {streamer : Streamer EndCallback} (hplaying : streamer ∈ call.playing leg) :
    streamer.doneFlag = false ∧
      match leg with
      | .audio => call.audioStreamer = some streamer
      | .video => call.videoStreamer = some streamer := by
  obtain ⟨hslot, hnotDone⟩ := Option.filter_eq_some_iff.mp hplaying
  refine ⟨by simpa using hnotDone, ?_⟩
  cases leg <;> exact hslot

theorem playing_of_slot {call : GroupCall} {streamer : Streamer EndCallback}
    (hnotDone : streamer.doneFlag = false) :
    (call.audioStreamer = some streamer → streamer ∈ call.playing .audio) ∧
      (call.videoStreamer = some streamer → streamer ∈ call.playing .video) := by
  constructor <;>
  · intro hslot
    simp [playing, hslot, hnotDone]

/-- Operations that leave `done_flag` and the callback of the legs alone. -/
theorem Installed.map {call after : GroupCall} {installing : Option Installing}
    {audio video : Streamer EndCallback → Streamer EndCallback}
    (hinstalled : call.Installed installing) (hhadAudio : after.hadAudio = call.hadAudio)
    (haudio : after.audioStreamer = call.audioStreamer.map audio)
    (hvideo : after.videoStreamer = call.videoStreamer.map video)
    (hkeeps : ∀ streamer, (audio streamer).doneFlag = streamer.doneFlag ∧
      (audio streamer).onEnd = streamer.onEnd ∧
      (video streamer).doneFlag = streamer.doneFlag ∧
      (video streamer).onEnd = streamer.onEnd) : after.Installed installing := by
  have hexpected (leg : StreamType) : after.installedEnd leg = call.installedEnd leg := by
    simp [installedEnd, hhadAudio]
  constructor
  · intro leg streamer hplaying
    obtain ⟨hnotDone, hslot⟩ := playing_some hplaying
    rw [hexpected]
    cases leg with
    | audio =>
        obtain ⟨before, hbefore, hmapped⟩ := Option.map_eq_some_iff.mp (haudio ▸ hslot)
        subst hmapped
        obtain ⟨hdone, hend, _⟩ := hkeeps before
        rw [hend]
        exact hinstalled.ends .audio before ((playing_of_slot (hdone ▸ hnotDone)).1 hbefore)
    | video =>
        obtain ⟨before, hbefore, hmapped⟩ := Option.map_eq_some_iff.mp (hvideo ▸ hslot)
        subst hmapped
        obtain ⟨_, _, hdone, hend⟩ := hkeeps before
        rw [hend]
        exact hinstalled.ends .video before ((playing_of_slot (hdone ▸ hnotDone)).2 hbefore)
  · intro step hstep
    rw [hhadAudio, haudio]
    exact (hinstalled.first step hstep).imp_right fun ⟨hleg, hnone, hslot⟩ =>
      ⟨hleg, hnone, by rw [hslot, Option.map_none]⟩

theorem installed_same {call after : GroupCall} {installing : Option Installing}
    (hinstalled : call.Installed installing) (hhadAudio : after.hadAudio = call.hadAudio)
    (haudio : after.audioStreamer = call.audioStreamer)
    (hvideo : after.videoStreamer = call.videoStreamer) : after.Installed installing :=
  @Installed.map call after installing id id hinstalled hhadAudio (by simp [haudio])
    (by simp [hvideo]) fun _ => ⟨rfl, rfl, rfl, rfl⟩

theorem installed_none {call : GroupCall} (haudio : call.audioStreamer = none)
    (hvideo : call.videoStreamer = none) : call.Installed none := by
  constructor
  · intro leg streamer hplaying
    obtain ⟨_, hslot⟩ := playing_some hplaying
    cases leg <;> simp_all
  · intro step hstep
    cases hstep

/-- The first leg that `set_source` constructs has no callback yet. -/
theorem installed_beginSource {call : GroupCall} (hinstalled : call.Installed none)
    (streams : Streams) (awaited : ConnState) :
    (call.beginSource streams awaited).1.Installed (call.beginSource streams awaited).2 := by
  unfold beginSource
  split
  · exact hinstalled
  · obtain ⟨audio, video, hook⟩ := streams
    cases audio with
    | some source =>
        constructor
        · intro leg streamer hplaying
          obtain ⟨_, hslot⟩ := playing_some hplaying
          cases leg <;> cases hslot
          rfl
        · intro step hstep
          cases hstep
          exact .inl ⟨rfl, rfl⟩
    | none =>
        cases video with
        | none => exact installed_none rfl rfl
        | some source =>
            constructor
            · intro leg streamer hplaying
              obtain ⟨_, hslot⟩ := playing_some hplaying
              cases leg <;> cases hslot
              rfl
            · intro step hstep
              cases hstep
              exact .inr ⟨rfl, rfl, rfl⟩

theorem installed_registerEnd {call : GroupCall} {installing : Installing}
    (hinstalled : call.Installed (some installing)) :
    (call.registerEnd installing).Installed none := by
  constructor
  · intro leg streamer hplaying
    obtain ⟨_, hslot⟩ := playing_some hplaying
    obtain ⟨hleg, hhad⟩ | ⟨hleg, hhad, hnone⟩ := hinstalled.first installing rfl
    · simp only [registerEnd, hleg, installedEnd, hhad] at hslot ⊢
      cases leg with
      | audio =>
          obtain ⟨before, _, hregistered⟩ := Option.map_eq_some_iff.mp hslot
          subst hregistered
          rfl
      | video =>
          obtain ⟨source, _, hconstructed⟩ := Option.map_eq_some_iff.mp hslot
          subst hconstructed
          unfold videoLeg
          cases call.paused <;> rfl
    · simp only [registerEnd, hleg, installedEnd, hhad] at hslot ⊢
      cases leg with
      | audio =>
          have hslot : call.audioStreamer = some streamer := hslot
          rw [hnone] at hslot
          cases hslot
      | video =>
          obtain ⟨before, _, hregistered⟩ := Option.map_eq_some_iff.mp hslot
          subst hregistered
          rfl
  · intro step hstep
    cases hstep

theorem installed_setSource {call : GroupCall} (hinstalled : call.Installed none)
    (streams : Streams) (awaited : ConnState) :
    (call.setSource streams awaited).call.Installed none := by
  cases hclosed : call.closed with
  | true =>
      unfold setSource
      rw [if_pos hclosed]
      exact hinstalled
  | false =>
      have hbegun := installed_beginSource hinstalled streams awaited
      rw [setSource_of_steps hclosed]
      cases hstep : (call.beginSource streams awaited).2 with
      | none => rwa [hstep] at hbegun
      | some installing => exact installed_registerEnd (hstep ▸ hbegun)

theorem installed_toggle {call swapped : GroupCall} (hinstalled : call.Installed none)
    (unchanged : Bool) {audio video : Streamer EndCallback → Streamer EndCallback}
    (hhadAudio : swapped.hadAudio = call.hadAudio)
    (haudio : swapped.audioStreamer = call.audioStreamer)
    (hvideo : swapped.videoStreamer = call.videoStreamer)
    (hkeeps : ∀ streamer, (audio streamer).doneFlag = streamer.doneFlag ∧
      (audio streamer).onEnd = streamer.onEnd ∧
      (video streamer).doneFlag = streamer.doneFlag ∧
      (video streamer).onEnd = streamer.onEnd) :
    (call.toggle unchanged swapped audio video).call.Installed none := by
  unfold toggle
  split
  · exact hinstalled
  · split
    · exact hinstalled
    · exact hinstalled.map hhadAudio (by rw [haudio]) (by rw [hvideo]) hkeeps

theorem installed_stop {call : GroupCall} (hinstalled : call.Installed none) :
    call.stop.call.Installed none := by
  unfold stop
  split
  · exact hinstalled
  · exact installed_none rfl rfl

theorem installed_legEnded {call : GroupCall} {installing : Option Installing}
    (hinstalled : call.Installed installing) (leg : StreamType) :
    (call.legEnded leg).Installed installing := by
  have hexpected (other : StreamType) :
      (call.legEnded leg).installedEnd other = call.installedEnd other := by
    cases leg <;> rfl
  constructor
  · intro other streamer hplaying
    obtain ⟨hnotDone, hslot⟩ := playing_some hplaying
    rw [hexpected]
    cases leg <;> cases other <;> simp only [legEnded] at hslot
    case audio.audio | video.video =>
      obtain ⟨before, _, hfinished⟩ := Option.map_eq_some_iff.mp hslot
      subst hfinished
      cases hnotDone
    case audio.video =>
      exact hinstalled.ends .video streamer ((playing_of_slot hnotDone).2 hslot)
    case video.audio =>
      exact hinstalled.ends .audio streamer ((playing_of_slot hnotDone).1 hslot)
  · intro step hstep
    obtain ⟨hleg, hhad⟩ | ⟨hleg, hhad, hnone⟩ := hinstalled.first step hstep
    · exact .inl ⟨hleg, by cases leg <;> exact hhad⟩
    · exact .inr ⟨hleg, by cases leg <;> exact hhad, by cases leg <;> simp [legEnded, hnone]⟩

end Instances.GroupCall

namespace Instances.Call

variable (formatSeconds : Nat → String)

/-- The call keeps its legs' callbacks installed. -/
def Installed (call : Call) (installing : Option Installing) : Prop :=
  ∀ group, call = .group group → group.Installed installing

theorem installed_perform {call : Call} {installing : Option Installing}
    (hinstalled : call.Installed installing) (op : Op)
    (hfree : (installing.isSome && op.locks) = false) :
    (call.perform formatSeconds op).1.Installed installing := by
  cases call with
  | rtmp call =>
      intro group hgroup
      cases op <;> cases hgroup
  | group call =>
      have hinstalled := hinstalled call rfl
      have hlocked (hlocks : op.locks = true) : installing = none := by
        rw [hlocks, Bool.and_true] at hfree
        simpa using hfree
      intro group hgroup
      cases op with
      | connect =>
          cases hgroup
          unfold GroupCall.beginConnect
          split
          · exact hinstalled
          · exact GroupCall.installed_same hinstalled rfl rfl rfl
      | setSource streams awaited now answer =>
          cases hgroup
          cases hlocked rfl
          exact GroupCall.installed_setSource hinstalled streams awaited
      | pause now | resume now answer | mute | unmute =>
          cases hgroup
          cases hlocked rfl
          exact GroupCall.installed_toggle hinstalled _ rfl rfl rfl
            fun _ => ⟨rfl, rfl, rfl, rfl⟩
      | stop =>
          cases hgroup
          cases hlocked rfl
          exact GroupCall.installed_stop hinstalled
      | seekBy now deltaMs =>
          cases hgroup
          exact hinstalled

theorem perform_rtmp (call : RTMPCall) (op : Op) :
    ∃ after : RTMPCall, (perform formatSeconds (.rtmp call) op).1 = .rtmp after := by
  cases op <;> exact ⟨_, rfl⟩

theorem undergo_rtmp (call : RTMPCall) (event : Event) :
    undergo (.rtmp call) event = .rtmp call := by
  cases event <;> rfl

theorem installed_undergo {call : Call} {installing : Option Installing}
    (hinstalled : call.Installed installing) (event : Event) :
    (call.undergo event).Installed installing := by
  cases call with
  | rtmp call =>
      rw [undergo_rtmp]
      exact hinstalled
  | group call =>
      have hinstalled := hinstalled call rfl
      intro group hgroup
      cases event with
      | legEnded leg error =>
          cases hgroup
          exact GroupCall.installed_legEnded hinstalled leg
      | processExited error =>
          cases hgroup
          exact hinstalled
      | transport state | stateChanged state | connected =>
          cases hgroup
          exact GroupCall.installed_same hinstalled rfl rfl rfl

theorem installed_begin {call : Call} (hinstalled : call.Installed none) (streams : Streams)
    (awaited : ConnState) (now : Instant) (answer : Except String Nat) :
    (call.beginSource formatSeconds streams awaited now answer).1.Installed
      (call.beginSource formatSeconds streams awaited now answer).2 := by
  cases call with
  | rtmp call =>
      intro group hgroup
      cases hgroup
  | group call =>
      intro group hgroup
      cases hgroup
      exact GroupCall.installed_beginSource (hinstalled call rfl) streams awaited

theorem installed_register {call : Call} {installing : Installing}
    (hinstalled : call.Installed (some installing)) :
    (call.registerEnd installing).Installed none := by
  cases call with
  | rtmp call =>
      intro group hgroup
      cases hgroup
  | group call =>
      intro group hgroup
      cases hgroup
      exact GroupCall.installed_registerEnd (hinstalled call rfl)

end Instances.Call

namespace Facade

variable (formatSeconds : Nat → String) {facade : Facade}

/-- A change of one call, and of what its `set_source` has still to do, that keeps it
installed keeps the plumbing. -/
theorem Plumbed.change (hplumbed : facade.Plumbed) (id : Nat) {change : Call → Call}
    {other : Facade} (hcreators : other.client.creators = facade.client.creators)
    (hobjects : other.objects = (facade.act id change).objects)
    (hcaptured : other.captured = facade.captured)
    (helse : ∀ which, which ≠ id → other.installing which = facade.installing which)
    (hnone : facade.objects id = none → other.installing id = none)
    (hrtmp : ∀ call : RTMPCall, ∃ after : RTMPCall, change (.rtmp call) = .rtmp after)
    (hkept : ∀ call, facade.objects id = some call → call.Installed (facade.installing id) →
      (change call).Installed (other.installing id)) : other.Plumbed := by
  constructor
  · rw [hcreators, hcaptured]
    exact hplumbed.constructing
  · intro which call hcall
    rw [hobjects, objects_act] at hcall
    rw [hcaptured]
    by_cases hwhich : which = id
    · subst hwhich
      rw [Function.update_self] at hcall
      obtain ⟨before, hbefore, hchange⟩ := Option.map_eq_some_iff.mp hcall
      have hinstalled : before.Installed (facade.installing which) :=
        fun group hgroup => (hplumbed.installed which group (hgroup ▸ hbefore)).1
      refine ⟨hkept before hbefore hinstalled call hchange, ?_⟩
      cases before with
      | group before => exact (hplumbed.installed which before hbefore).2
      | rtmp before =>
          obtain ⟨after, hafter⟩ := hrtmp before
          cases hafter.symm.trans hchange
    · rw [Function.update_of_ne hwhich] at hcall
      rw [helse which hwhich]
      exact hplumbed.installed which call hcall
  · intro which hempty
    rw [hobjects, objects_act] at hempty
    by_cases hwhich : which = id
    · subst hwhich
      rw [Function.update_self, Option.map_eq_none_iff] at hempty
      exact hnone hempty
    · rw [Function.update_of_ne hwhich] at hempty
      rw [helse which hwhich]
      exact hplumbed.idle which hempty

theorem plumbed_perform (hplumbed : facade.Plumbed) (id : Nat) (op : Op)
    (hfree : facade.waits id op = false) :
    (facade.act id fun call => (call.perform formatSeconds op).1).Plumbed :=
  @Plumbed.change facade hplumbed id (fun call => (call.perform formatSeconds op).1) _
    (by rw [client_act]) rfl (by rw [captured_act]) (fun _ _ => by rw [installing_act])
    (fun hnone => by rw [installing_act, hplumbed.idle id hnone])
    (fun call => Call.perform_rtmp formatSeconds call op) fun call _ hinstalled => by
      rw [installing_act]
      exact Call.installed_perform formatSeconds hinstalled op hfree

theorem plumbed_undergo (hplumbed : facade.Plumbed) (id : Nat) (event : Event) :
    (facade.act id (·.undergo event)).Plumbed :=
  @Plumbed.change facade hplumbed id (·.undergo event) _
    (by rw [client_act]) rfl (by rw [captured_act]) (fun _ _ => by rw [installing_act])
    (fun hnone => by rw [installing_act, hplumbed.idle id hnone])
    (fun call => ⟨call, Call.undergo_rtmp call event⟩) fun call _ hinstalled => by
      rw [installing_act]
      exact Call.installed_undergo hinstalled event

theorem Plumbed.same (hplumbed : facade.Plumbed) {other : Facade}
    (hcreators : other.client.creators = facade.client.creators)
    (hobjects : other.objects = facade.objects)
    (hcaptured : other.captured = facade.captured)
    (hinstalling : other.installing = facade.installing) : other.Plumbed := by
  constructor
  · rw [hcreators, hcaptured]
    exact hplumbed.constructing
  · rw [hobjects, hcaptured, hinstalling]
    exact hplumbed.installed
  · rw [hobjects, hinstalling]
    exact hplumbed.idle

theorem plumbed_operate (hplumbed : facade.Plumbed) (id : Nat) (op : Op) :
    (facade.operate formatSeconds id op).Plumbed := by
  obtain ⟨_, hsame⟩ | ⟨_, _, _, _, _, _, hbegun⟩ | ⟨hfree, hacted⟩ :=
    operate_cases formatSeconds facade id op
  · rwa [hsame]
  · rw [hbegun]
    exact hplumbed.same rfl rfl rfl rfl
  · rw [hacted]
    exact plumbed_perform formatSeconds hplumbed id op hfree

theorem plumbed_enter (hplumbed : facade.Plumbed) (id : Nat) (streams : Streams)
    (awaited : ConnState) (now : Instant) (answer : Except String Nat) :
    (facade.next formatSeconds (.enter id streams awaited now answer)).Plumbed := by
  simp only [next]
  split
  next henters =>
    refine hplumbed.change id (by rw [client_act]) rfl (captured_act ..)
      (fun which hwhich => Function.update_of_ne hwhich ..) ?_ ?_ ?_
    · intro hnone
      simp [hnone]
    · intro call
      exact ⟨_, rfl⟩
    · intro call hcall hinstalled
      rw [henters.2] at hinstalled
      simp only [Function.update_self, hcall, Option.bind_some]
      exact Call.installed_begin formatSeconds hinstalled streams awaited now answer
  next => exact hplumbed

theorem plumbed_install (hplumbed : facade.Plumbed) (id : Nat) :
    (facade.next formatSeconds (.install id)).Plumbed := by
  simp only [next]
  split
  next installing hinstalling =>
    refine hplumbed.change id (by rw [client_act]) rfl (captured_act ..)
      (fun which hwhich => Function.update_of_ne hwhich ..) ?_ ?_ ?_
    · intro _
      exact Function.update_self ..
    · intro call
      exact ⟨_, rfl⟩
    · intro call _ hinstalled
      rw [hinstalling] at hinstalled
      simp only [Function.update_self]
      exact Call.installed_register hinstalled
  next => exact hplumbed

theorem createTurn_localParams {client : Client} {stage : CreateAt} {input : CreateInput}
    (hturn : client.createTurn stage input = .localParams request) :
    stage = .construct request := by
  cases stage with
  | construct other =>
      cases input with
      | ok json =>
          cases hturn
          rfl
      | fails detail | invalid detail => cases hturn
  | test other =>
      simp only [Client.createTurn, Client.createTest] at hturn
      split at hturn
      · cases hturn
      · split at hturn <;> cases hturn
  | localParams other => cases input <;> cases hturn
  | idle | readCallback _ | insert _ _ | returned _ _ => cases hturn

/-- The group call a creation makes has no legs, the one it has made stays. -/
theorem made_group {id : Nat} {stage : CreateAt}
    (hmade : facade.made id stage = some (.group call)) :
    (∃ request, stage = .localParams request) ∧ call.Installed none ∨
      facade.objects id = some (.group call) := by
  cases stage with
  | localParams request =>
      cases hmade
      exact .inl ⟨⟨request, rfl⟩, GroupCall.installed_none rfl rfl⟩
  | insert request json =>
      obtain ⟨chatId, kind⟩ := request
      cases kind with
      | group => exact .inr (by cases json <;> exact hmade)
      | rtmp url =>
          cases json with
          | none => cases hmade
          | some json => exact .inr hmade
  | idle | test _ | readCallback _ | construct _ | returned _ _ => exact .inr hmade

theorem made_none {id : Nat} {stage : CreateAt} (hmade : facade.made id stage = none) :
    facade.objects id = none := by
  unfold made at hmade
  split at hmade
  · cases hmade
  · cases hmade
  · exact hmade

theorem capturedAt_events (id : Nat) (stage : CreateAt)
    (hevents : ∃ registered, facade.captured id = some ⟨registered, none⟩) :
    ∃ registered, facade.capturedAt id stage = some ⟨registered, none⟩ := by
  cases stage with
  | construct request => exact ⟨facade.onStreamEnd, rfl⟩
  | _ => exact hevents

theorem plumbed_step (hunmade : facade.Unmade) (hplumbed : facade.Plumbed) (id : Nat)
    (input : CreateInput) : (facade.next formatSeconds (.step id input)).Plumbed := by
  have hcreators := facade.client.creators_step id input
  constructor
  · intro other request hat
    simp only [next, hcreators] at hat ⊢
    by_cases hother : other = id
    · subst hother
      rw [Function.update_self] at hat ⊢
      rw [hat]
      exact ⟨facade.onStreamEnd, rfl⟩
    · rw [Function.update_of_ne hother] at hat ⊢
      exact hplumbed.constructing other request hat
  · intro other call hcall
    simp only [next] at hcall ⊢
    by_cases hother : other = id
    · subst hother
      rw [Function.update_self] at hcall ⊢
      obtain ⟨⟨request, hturn⟩, hinstalled⟩ | hbefore := made_group hcall
      · have hconstructs := createTurn_localParams hturn
        have hevents := hplumbed.constructing other request hconstructs
        have hnone := hunmade other (by rw [hconstructs]; rfl)
        rw [hplumbed.idle other hnone]
        exact ⟨hinstalled, capturedAt_events other _ hevents⟩
      · obtain ⟨hinstalled, hevents⟩ := hplumbed.installed other call hbefore
        exact ⟨hinstalled, capturedAt_events other _ hevents⟩
    · rw [Function.update_of_ne hother] at hcall ⊢
      exact hplumbed.installed other call hcall
  · intro other hempty
    simp only [next] at hempty ⊢
    by_cases hother : other = id
    · subst hother
      rw [Function.update_self] at hempty
      exact hplumbed.idle other (made_none hempty)
    · rw [Function.update_of_ne hother] at hempty
      exact hplumbed.idle other hempty

theorem plumbed_create (hplumbed : facade.Plumbed) (request : Request) :
    (facade.next formatSeconds (.create request)).Plumbed := by
  refine ⟨?_, hplumbed.installed, hplumbed.idle⟩
  intro other request' hat
  simp only [next, Client.next] at hat
  by_cases hother : other = facade.client.started
  · subst hother
    rw [Function.update_self] at hat
    cases hat
  · rw [Function.update_of_ne hother] at hat
    exact hplumbed.constructing other request' hat

theorem plumbed_next (facade : Facade) (action : Action) (hunmade : facade.Unmade)
    (hplumbed : facade.Plumbed) : (facade.next formatSeconds action).Plumbed := by
  have hstop (id : Nat) (hidle : facade.installing id = none) :
      (facade.act id fun call => (call.perform formatSeconds .stop).1).Plumbed :=
    plumbed_perform formatSeconds hplumbed id .stop (by simp [waits, hidle])
  cases action with
  | step id input => exact plumbed_step formatSeconds hunmade hplumbed id input
  | perform id op => exact plumbed_operate formatSeconds hplumbed id op
  | enter id streams awaited now answer =>
      exact plumbed_enter formatSeconds hplumbed id streams awaited now answer
  | install id => exact plumbed_install formatSeconds hplumbed id
  | undergo id event => exact plumbed_undergo hplumbed id event
  | invoke chat op =>
      simp only [next]
      split
      · exact plumbed_operate formatSeconds hplumbed _ op
      · exact hplumbed
  | create request => exact plumbed_create formatSeconds hplumbed request
  | stopRemoved id =>
      simp only [next]
      split
      next hstops => exact (hstop id hstops.2).same rfl rfl rfl rfl
      next => exact hplumbed
  | stopVisited =>
      simp only [next]
      split
      next due id _ =>
        split
        next hidle => exact (hstop id hidle).same rfl rfl rfl rfl
        next => exact hplumbed
      next => exact hplumbed
  | close | visit chat | clear =>
      simp only [next]
      split
      · exact hplumbed.same rfl rfl rfl rfl
      · exact hplumbed
  | onStreamEnd | onConnectionChange | remove chat => exact hplumbed.same rfl rfl rfl rfl

/-! What a step delivers is what is due exactly when it is wired. -/

theorem map_callback_inj {first second : Option Nat} {make : Nat → Due}
    (hmake : ∀ callback, (make callback).callback = callback) :
    first.toList.map make = second.toList.map make ↔ first = second := by
  constructor
  · intro hsame
    have hcallbacks := congrArg (List.map Due.callback) hsame
    simp only [List.map_map, Function.comp_def, hmake, List.map_id'] at hcallbacks
    cases first <;> cases second <;> simp_all
  · intro hsame
    rw [hsame]

/-- An installed leg tells its end to the captured callback. -/
theorem deliveries_due (hplumbed : facade.Plumbed) {action : Action} {id : Nat} {call : Call}
    (hsubject : facade.subject action = some id) (hcall : facade.objects id = some call) :
    (facade.deliveries action).map Delivery.due =
      if (event action).any call.endsSource then
        (facade.endCallback id call).toList.map fun callback =>
          ⟨callback, call.chatId, .sourceEnd⟩
      else [] := by
  cases action with
  | undergo which happening =>
      cases hsubject
      cases call with
      | rtmp call => cases happening <;> simp [deliveries, hcall, event, endCallback]
      | group call =>
          obtain ⟨hinstalled, registered, hcaptured⟩ := hplumbed.installed id call hcall
          cases happening with
          | legEnded leg error =>
              simp only [deliveries, hcall, hcaptured, tell, event, Option.any_some,
                Call.endsSource, endCallback, Option.bind_some]
              cases hplaying : call.playing leg with
              | none => rfl
              | some streamer =>
                  rw [Option.bind_some, hinstalled.ends leg streamer hplaying]
                  cases (facade.installing id).isSome <;> cases call.installedEnd leg <;>
                    cases registered <;> rfl
          | transport state | stateChanged state | connected | processExited error =>
              simp [deliveries, hcall, hcaptured, tell, event, Call.endsSource]
  | _ => rfl

/-- The end of a source changes no connection state. -/
theorem unchanged_of_ends {action : Action} {id : Nat} {call : Call}
    (hsubject : facade.subject action = some id) (hcall : facade.objects id = some call)
    (hends : (event action).any call.endsSource = true) :
    facade.changesState formatSeconds action id call = false := by
  cases action with
  | undergo which happening =>
      cases hsubject
      have hafter : facade.stateAfter formatSeconds (.undergo id happening) id =
          some (call.undergo happening).netState := by
        simp [stateAfter, next, objects_act, hcall]
      simp only [changesState, hafter, bne_eq_false_iff_eq, Option.some.injEq]
      cases call with
      | rtmp call => rw [Call.undergo_rtmp]
      | group call =>
          cases happening with
          | legEnded leg error => cases leg <;> rfl
          | _ => simp [event, Call.endsSource] at hends
  | _ => simp [event] at hends

theorem stateAfter_some {action : Action} {id : Nat} {call : Call}
    (hsubject : facade.subject action = some id) (hcall : facade.objects id = some call) :
    ∃ state, facade.stateAfter formatSeconds action id = some state := by
  have hacted (change : Call → Call) :
      ((facade.act id change).objects id).map Call.netState =
        some (change call).netState := by
    simp [objects_act, hcall]
  have hsame : (facade.objects id).map Call.netState = some call.netState := by
    rw [hcall, Option.map_some]
  have hoperated (op : Op) : ∃ state,
      ((facade.operate formatSeconds id op).objects id).map Call.netState = some state := by
    obtain ⟨_, hwaits⟩ | ⟨_, _, _, _, _, _, hbegun⟩ | ⟨_, hperformed⟩ :=
      operate_cases formatSeconds facade id op
    · exact ⟨_, by rw [hwaits]; exact hsame⟩
    · exact ⟨_, by rw [hbegun]; exact hsame⟩
    · exact ⟨_, by rw [hperformed]; exact hacted _⟩
  cases action with
  | invoke chat op =>
      have hcalls : facade.client.calls chat = some id := hsubject
      simp only [stateAfter, next, hcalls]
      exact hoperated op
  | perform which op =>
      cases hsubject
      exact hoperated op
  | undergo which event =>
      cases hsubject
      exact ⟨_, hacted _⟩
  | enter which streams awaited now answer =>
      cases hsubject
      simp only [stateAfter, next]
      split
      · exact ⟨_, hacted _⟩
      · exact ⟨_, hsame⟩
  | install which =>
      cases hsubject
      simp only [stateAfter, next]
      split
      · exact ⟨_, hacted _⟩
      · exact ⟨_, hsame⟩
  | stopRemoved which =>
      simp only [subject] at hsubject
      split at hsubject
      next =>
        cases hsubject
        simp only [stateAfter, next]
        split
        · exact ⟨_, hacted _⟩
        · exact ⟨_, hsame⟩
      next => cases hsubject
  | stopVisited =>
      simp only [subject] at hsubject
      split at hsubject
      next due visited hat =>
        subst hsubject
        simp only [stateAfter, next, hat]
        split
        · exact ⟨_, hacted _⟩
        · exact ⟨_, hsame⟩
      next => cases hsubject
  | _ => cases hsubject

theorem deliversDue_iff_wired (facade : Facade) (action : Action)
    (hplumbed : facade.Plumbed) :
    facade.DeliversDue formatSeconds action ↔ facade.Wired formatSeconds action := by
  refine forall_congr' fun id => forall_congr' fun hsubject => forall_congr' fun call =>
    forall_congr' fun hcall => forall_congr' fun _ => ?_
  rw [deliveries_due hplumbed hsubject hcall, due]
  cases hends : (event action).any call.endsSource with
  | true =>
      have hunchanged := unchanged_of_ends formatSeconds hsubject hcall hends
      simp only [hunchanged, if_true, Bool.false_eq_true, if_false, List.nil_append,
        false_implies, true_implies, true_and]
      exact map_callback_inj fun _ => rfl
  | false =>
      obtain ⟨state, hstate⟩ := stateAfter_some formatSeconds hsubject hcall
      simp only [hstate, Bool.false_eq_true, if_false, List.append_nil, false_implies,
        and_true]
      cases facade.changesState formatSeconds action id call <;>
        cases facade.onConnectionChange <;> simp

/-- In every run, what the steps deliver about live calls is what is due, exactly
when every step is wired. -/
theorem along_deliversDue_iff (connectTimeout : Duration) (actions : List Action) :
    Along (next formatSeconds) (DeliversDue formatSeconds) (new connectTimeout) actions ↔
      Along (next formatSeconds) (Wired formatSeconds) (new connectTimeout) actions := by
  let Kept (facade : Facade) : Prop := facade.Backed ∧ facade.Unmade ∧ facade.Plumbed
  have hstart : Kept (new connectTimeout) := by
    refine ⟨backed_new connectTimeout, unmade_new connectTimeout, ?_, ?_, fun _ _ => rfl⟩
    · intro id request hat
      cases hat
    · intro id call hcall
      cases hcall
  have hall : Along (next formatSeconds) (fun _ _ => True) (new connectTimeout) actions :=
    along_true
  refine along_congr_of ?_ ?_ hstart hall
  · intro facade action hkept _
    obtain ⟨hbacked, hunmade, hplumbed⟩ := hkept
    exact ⟨backed_next formatSeconds facade action hbacked,
      unmade_next formatSeconds facade action hbacked.numbered hunmade,
      plumbed_next formatSeconds facade action hunmade hplumbed⟩
  · intro facade action hkept _
    exact deliversDue_iff_wired formatSeconds facade action hkept.2.2

/-- A callback for ends is registered behind the creation of a call, which connects
and plays a source. -/
def lateCallbacks : List Action :=
  [.create ⟨7, .group⟩, .step 0 (.ok ""), .step 0 (.ok ""), .step 0 (.ok ""),
    .step 0 (.ok "local"), .step 0 (.ok ""), .onStreamEnd, .invoke 7 .connect,
    .undergo 0 (.stateChanged .connected),
    .invoke 7 (.setSource ⟨some [], none, none⟩ .connected 0 (.ok 1)),
    .enter 0 ⟨some [], none, none⟩ .connected 0 (.ok 1), .install 0]

/-- The end of the source is due to the callback and reaches none. -/
theorem late_callback_misses_end :
    let facade := after (next fun _ => "") (new 0) lateCallbacks
    let ends := Action.undergo 0 (.legEnded .audio (some .file))
    facade.deliveries ends = [] ∧
      (facade.objects 0).map (facade.due (fun _ => "") ends 0) = some [⟨0, 7, .sourceEnd⟩] ∧
      ¬ Along (next fun _ => "") (DeliversDue fun _ => "") (new 0) (lateCallbacks ++ [ends]) := by
  intro facade ends
  have hnothing : facade.deliveries ends = [] := by decide +kernel
  have hdue : (facade.objects 0).map (facade.due (fun _ => "") ends 0) =
      some [⟨0, 7, .sourceEnd⟩] := by decide +kernel
  have hlive : (facade.objects 0).all Call.live = true := by decide +kernel
  refine ⟨hnothing, hdue, ?_⟩
  intro halong
  obtain ⟨_, hdelivers, _⟩ := along_append.mp halong
  obtain ⟨call, hcall, hcallDue⟩ := Option.map_eq_some_iff.mp hdue
  rw [hcall] at hlive
  have hsame := hdelivers 0 rfl call hcall hlive
  rw [hcallDue, hnothing] at hsame
  cases hsame

end Facade

end RustTgCalls
