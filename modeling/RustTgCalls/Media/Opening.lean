import Mathlib.Data.List.Infix
import RustTgCalls.Media.ShellFlags
import RustTgCalls.Media.ShellSeek

namespace RustTgCalls.Media

/-! Opening a source that has a process for each of its legs, with what the call
leaves running. -/

/-- A process, by its command. -/
structure Command where
  program : String
  args : List String
  streamStderr : Bool
  deriving DecidableEq, Repr

/-- What the system does with a spawn; `stdout` is whether the child comes with
its pipe. -/
inductive SpawnAnswer where
  | fails (detail : String)
  | runs (stdout : Bool)
  deriving DecidableEq, Repr

/-- `ShellReader::new`, and the processes it leaves running. -/
def ShellReader.new (command : Command) :
    SpawnAnswer → Except RustTgCallsError Command × List Command
  | .fails detail => (.error (.ffmpegSpawn detail), [])
  | .runs true => (.ok command, [command])
  -- the child is dropped, which does not kill it
  | .runs false => (.error (.ffmpegSpawn "failed to capture ffmpeg stdout"), [command])

/-- The streams of a source, each the output of a process. -/
structure ShellStreams where
  audio : Option Command
  video : Option Command
  close : Option CloseHook
  deriving DecidableEq, Repr

structure OpenOutcome where
  result : Except RustTgCallsError ShellStreams
  live : List Command

/-- The legs a source asks for. -/
abbrev Legs := StreamType → Option Command

def openLeg (command : Option Command) (answer : SpawnAnswer) :
    Except RustTgCallsError (Option Command) × List Command :=
  match command with
  | none => (.ok none, [])
  | some command =>
      match ShellReader.new command answer with
      | (.error error, live) => (.error error, live)
      | (.ok reader, live) => (.ok (some reader), live)

@[simp] theorem openLeg_none (answer : SpawnAnswer) : openLeg none answer = (.ok none, []) := rfl

@[simp] theorem openLeg_fails (command : Command) (detail : String) :
    openLeg (some command) (.fails detail) = (.error (.ffmpegSpawn detail), []) := rfl

@[simp] theorem openLeg_runs (command : Command) :
    openLeg (some command) (.runs true) = (.ok (some command), [command]) := rfl

@[simp] theorem openLeg_unpiped (command : Command) :
    openLeg (some command) (.runs false) =
      (.error (.ffmpegSpawn "failed to capture ffmpeg stdout"), [command]) := rfl

/-- Both legs one after the other, the first error returned at once; nothing
that runs by then is closed. -/
def openLegs (mapErr : StreamType → RustTgCallsError → RustTgCallsError) (legs : Legs)
    (answer : StreamType → SpawnAnswer) : OpenOutcome :=
  match openLeg (legs .audio) (answer .audio) with
  | (.error error, live) => ⟨.error (mapErr .audio error), live⟩
  | (.ok audio, live) =>
      match openLeg (legs .video) (answer .video) with
      | (.error error, more) => ⟨.error (mapErr .video error), live ++ more⟩
      | (.ok video, more) => ⟨.ok ⟨audio, video, none⟩, live ++ more⟩

/-! `TranscodeSource` -/

structure TranscodeSource where
  path : String
  inputArgs : List String
  opt : EncodeOptions

def EncodeOptions.withDefaults (o : EncodeOptions) : EncodeOptions :=
  let orDefault (value default : Nat) : Nat := if value = 0 then default else value
  let tracks := if o.tracks = 0 then trackAudio else o.tracks
  { videoBitrateKbps := orDefault o.videoBitrateKbps 800
    videoWidth := orDefault o.videoWidth 1280
    videoHeight := orDefault o.videoHeight 720
    videoFps := orDefault o.videoFps 30
    audioBitrateKbps := orDefault o.audioBitrateKbps 128
    audioChannels := orDefault o.audioChannels defaultChannelCount
    tracks := if Track.has tracks trackVideo then tracks ||| trackAudio else tracks }

/-- What both legs begin with. -/
def ffArgsPrefix : List String :=
  ["-hide_banner", "-loglevel", "error", "-nostdin", "-fflags", "+discardcorrupt+genpts",
    "-err_detect", "ignore_err"]

def audioFfArgs (input : List String) (o : EncodeOptions) : List String :=
  ffArgsPrefix ++ input ++
    ["-map", "0:a?", "-vn", "-sn", "-dn", "-c:a", "libopus",
      "-b:a", toString o.audioBitrateKbps ++ "k", "-vbr", "on", "-compression_level", "10",
      "-frame_duration", toString opusFrameDurationMs,
      "-page_duration", toString (opusFrameDurationMs * 1000), "-application", "audio",
      "-mapping_family", "0", "-ar", toString opusSampleRate,
      "-ac", toString o.audioChannels, "-f", "ogg", "pipe:1"]

/-- The options are `u32`: the product with 1.5 saturates in the cast, the one
with 2 wraps. -/
def videoFfArgs (input : List String) (o : EncodeOptions) : List String :=
  let rate := toString o.videoBitrateKbps ++ "k"
  let maxRate := toString (min (o.videoBitrateKbps * 3 / 2) (UInt32.size - 1)) ++ "k"
  let bufSize := toString (o.videoBitrateKbps * 2 % UInt32.size) ++ "k"
  let gop := toString o.videoFps
  ffArgsPrefix ++ input ++
    ["-map", "0:v?", "-an", "-sn", "-dn", "-c:v", "libvpx", "-b:v", rate,
      "-maxrate", maxRate, "-bufsize", bufSize, "-quality", "realtime",
      "-deadline", "realtime", "-cpu-used", "16", "-threads", "4", "-slices", "4",
      "-arnr-maxframes", "0", "-rc_lookahead", "0", "-lag-in-frames", "0",
      "-vf", "scale=" ++ toString o.videoWidth ++ ":" ++ toString o.videoHeight,
      "-r", toString o.videoFps, "-g", gop, "-keyint_min", gop, "-auto-alt-ref", "0",
      "-error-resilient", "1", "-f", "ivf", "pipe:1"]

def userAgent : List String :=
  ["-user_agent", "Mozilla/5.0 (X11; Linux x86_64) AppleWebKit/537.36 (KHTML, like Gecko) Chrome/145.0.0.0 Safari/537.36"]

def ffmpegInputPrefix (input : String) : List String :=
  let isM3u8 := decide (".m3u8".toList <:+: input.toList)
  let isHttp := input.startsWith "http://" || input.startsWith "https://"
  if isM3u8 then
    userAgent ++ ["-protocol_whitelist", "file,http,https,tcp,tls", "-rw_timeout", "10000000",
      "-http_persistent", "1", "-analyzeduration", "0", "-probesize", "32k"]
  else if isHttp then
    userAgent ++ ["-reconnect", "1", "-reconnect_at_eof", "1", "-reconnect_streamed", "1",
      "-reconnect_on_network_error", "1", "-reconnect_on_http_error", "4xx,5xx",
      "-reconnect_delay_max", "5", "-rw_timeout", "15000000", "-timeout", "15000000",
      "-analyzeduration", "0", "-probesize", "128k"]
  else ["-analyzeduration", "0", "-probesize", "64k"]

namespace TranscodeSource

/-- The ffmpeg in use and whether its stderr is kept, both process-wide. -/
structure Settings where
  ffmpegPath : String
  stderrLog : Bool

variable (source : TranscodeSource) (settings : Settings)

def legs (input : List String) : Legs := fun leg =>
  let o := source.opt.withDefaults
  if o.tracks.has (Track.of leg) then
    let args := match leg with
      | .audio => audioFfArgs input o
      | .video => videoFfArgs input o
    some ⟨settings.ffmpegPath, args, settings.stderrLog⟩
  else none

def mapErr : StreamType → RustTgCallsError → RustTgCallsError
  | .audio, e => .ffmpegSpawn ("audio ffmpeg: " ++ e.display)
  | .video, e => .ffmpegSpawn ("video ffmpeg: " ++ e.display)

def openWith (input : List String) (answer : StreamType → SpawnAnswer) : OpenOutcome :=
  openLegs mapErr (source.legs settings input) answer

def «open» (answer : StreamType → SpawnAnswer) : OpenOutcome :=
  source.openWith settings source.inputArgs answer

def seekArgs (formatOffset : Duration → String) (offset : Duration) : List String :=
  ffmpegInputPrefix source.path ++ ["-i", source.path] ++
    (if offset.asMillis > 0 then ["-ss", formatOffset offset] else [])

def openAt (formatOffset : Duration → String) (offset : Duration)
    (answer : StreamType → SpawnAnswer) : OpenOutcome :=
  if source.path = "" then ⟨.error .seekUnsupported, []⟩
  else source.openWith settings (source.seekArgs formatOffset offset) answer

end TranscodeSource

/-! `MultiShellSource` -/

structure MultiShellSource where
  audioBin : String
  videoBin : String
  audioArgs : List String
  videoArgs : List String
  parallel : Bool

namespace MultiShellSource

def leg (bin : String) (args : List String) : Option Command :=
  if args ≠ [] then some ⟨if bin = "" then "ffmpeg" else bin, args, false⟩ else none

variable (source : MultiShellSource)

def legs (audioArgs videoArgs : List String) : Legs
  | .audio => leg source.audioBin audioArgs
  | .video => leg source.videoBin videoArgs

def openWith (audioArgs videoArgs : List String) (answer : StreamType → SpawnAnswer) :
    OpenOutcome :=
  openLegs (fun _ e => e) (source.legs audioArgs videoArgs) answer

def «open» (answer : StreamType → SpawnAnswer) : OpenOutcome :=
  source.openWith source.audioArgs source.videoArgs answer

def seekArgs (formatOffset : Duration → String) (offset : Duration) (args : List String) :
    List String :=
  if offset = 0 then args
  else if args ≠ [] then ShellSource.injectSeek formatOffset args offset
  else []

def openAt (formatOffset : Duration → String) (offset : Duration)
    (answer : StreamType → SpawnAnswer) : OpenOutcome :=
  source.openWith (seekArgs formatOffset offset source.audioArgs)
    (seekArgs formatOffset offset source.videoArgs) answer

end MultiShellSource

/-! The processes a call leaves running. -/

/-- None after an error, and else one for each stream of the result. -/
structure Balanced (outcome : OpenOutcome) : Prop where
  error : ∀ error, outcome.result = .error error → outcome.live = []
  ok : ∀ streams, outcome.result = .ok streams →
    outcome.live = streams.audio.toList ++ streams.video.toList

/-- A leg is left behind: its child comes without a stdout, or the second leg
fails to start after the first. -/
inductive LeftBehind (legs : Legs) (answer : StreamType → SpawnAnswer) : Prop
  | audio_unpiped (asked : (legs .audio).isSome) (unpiped : answer .audio = .runs false)
  | video_unpiped (reached : (legs .audio).isSome → answer .audio = .runs true)
      (asked : (legs .video).isSome) (unpiped : answer .video = .runs false)
  | video_fails (audio : (legs .audio).isSome) (runs : answer .audio = .runs true)
      (asked : (legs .video).isSome) (fails : answer .video = .fails detail)

/-- The four ways a source of two processes is opened. -/
inductive OpenCall where
  | transcode (source : TranscodeSource)
  | transcodeAt (source : TranscodeSource) (offset : Duration)
  | shells (source : MultiShellSource)
  | shellsAt (source : MultiShellSource) (offset : Duration)

namespace OpenCall

variable (settings : TranscodeSource.Settings) (formatOffset : Duration → String)

def run (answer : StreamType → SpawnAnswer) : OpenCall → OpenOutcome
  | .transcode source => source.open settings answer
  | .transcodeAt source offset => source.openAt settings formatOffset offset answer
  | .shells source => source.open answer
  | .shellsAt source offset => source.openAt formatOffset offset answer

/-- The legs the call asks for; none of a path that cannot be sought. -/
def legs : OpenCall → Legs
  | .transcode source => source.legs settings source.inputArgs
  | .transcodeAt source offset =>
      if source.path = "" then fun _ => none
      else source.legs settings (source.seekArgs formatOffset offset)
  | .shells source => source.legs source.audioArgs source.videoArgs
  | .shellsAt source offset =>
      source.legs (MultiShellSource.seekArgs formatOffset offset source.audioArgs)
        (MultiShellSource.seekArgs formatOffset offset source.videoArgs)

end OpenCall

section Legs

variable {mapErr : StreamType → RustTgCallsError → RustTgCallsError} {legs : Legs}
  {answer : StreamType → SpawnAnswer}

theorem unbalanced_of_leftBehind (hleft : LeftBehind legs answer) :
    ∃ error, (openLegs mapErr legs answer).result = .error error ∧
      (openLegs mapErr legs answer).live ≠ [] := by
  cases hleft with
  | audio_unpiped hasked hunpiped =>
      obtain ⟨command, hcommand⟩ := Option.isSome_iff_exists.mp hasked
      simp [openLegs, hcommand, hunpiped]
  | video_unpiped hreached hasked hunpiped =>
      obtain ⟨command, hcommand⟩ := Option.isSome_iff_exists.mp hasked
      cases haudio : legs .audio with
      | none => simp [openLegs, haudio, hcommand, hunpiped]
      | some audio =>
          have hruns := hreached (by simp [haudio])
          simp [openLegs, haudio, hruns, hcommand, hunpiped]
  | video_fails haudio hruns hasked hfails =>
      obtain ⟨audio, haudio⟩ := Option.isSome_iff_exists.mp haudio
      obtain ⟨command, hcommand⟩ := Option.isSome_iff_exists.mp hasked
      simp [openLegs, haudio, hruns, hcommand, hfails]

/-- After an audio leg that is absent or runs, the video leg alone decides. -/
theorem balanced_video (haudio : openLeg (legs .audio) (answer .audio) =
      (.ok (legs .audio), (legs .audio).toList))
    (hreached : (legs .audio).isSome → answer .audio = .runs true)
    (hclear : ¬ LeftBehind legs answer) : Balanced (openLegs mapErr legs answer) := by
  cases hvideo : legs .video with
  | none =>
      refine ⟨fun error herror => ?_, fun streams hok => ?_⟩
      · simp [openLegs, haudio, hvideo, openLeg_none] at herror
      · simp only [openLegs, haudio, hvideo, openLeg_none] at hok ⊢
        cases hok
        rfl
  | some command =>
      have hasked : (legs .video).isSome := by simp [hvideo]
      cases hanswer : answer .video with
      | fails detail =>
          have hnone : legs .audio = none := by
            by_contra hsome
            have hsome := Option.isSome_iff_ne_none.mpr hsome
            exact hclear (.video_fails hsome (hreached hsome) hasked hanswer)
          refine ⟨fun error _ => ?_, fun streams hok => ?_⟩
          · simp [openLegs, hvideo, hanswer, hnone]
          · simp [openLegs, haudio, hvideo, hanswer] at hok
      | runs stdout =>
          cases stdout with
          | false => exact absurd (.video_unpiped hreached hasked hanswer) hclear
          | true =>
              refine ⟨fun error herror => ?_, fun streams hok => ?_⟩
              · simp [openLegs, haudio, hvideo, hanswer] at herror
              · simp only [openLegs, haudio, hvideo, hanswer, openLeg_runs] at hok ⊢
                cases hok
                rfl

theorem balanced_openLegs :
    Balanced (openLegs mapErr legs answer) ↔ ¬ LeftBehind legs answer := by
  constructor
  · intro hbalanced hleft
    obtain ⟨error, herror, hlive⟩ := unbalanced_of_leftBehind hleft
    exact hlive (hbalanced.error error herror)
  · intro hclear
    cases haudio : legs .audio with
    | none =>
        apply balanced_video _ _ hclear
        · simp [haudio]
        · simp [haudio]
    | some command =>
        have hasked : (legs .audio).isSome := by simp [haudio]
        cases hanswer : answer .audio with
        | fails detail =>
            refine ⟨fun error _ => ?_, fun streams hok => ?_⟩
            · simp [openLegs, haudio, hanswer]
            · simp [openLegs, haudio, hanswer] at hok
        | runs stdout =>
            cases stdout with
            | false => exact absurd (.audio_unpiped hasked hanswer) hclear
            | true =>
                apply balanced_video _ (fun _ => hanswer) hclear
                simp [haudio, hanswer]

end Legs

/-- A call leaves nothing running but what its streams hold unless a leg is left
behind. -/
theorem balanced_iff (settings : TranscodeSource.Settings) (formatOffset : Duration → String)
    (answer : StreamType → SpawnAnswer) (call : OpenCall) :
    Balanced (call.run settings formatOffset answer) ↔
      ¬ LeftBehind (call.legs settings formatOffset) answer := by
  cases call with
  | transcode source => exact balanced_openLegs
  | transcodeAt source offset =>
      rw [OpenCall.run, OpenCall.legs, TranscodeSource.openAt]
      by_cases hpath : source.path = ""
      · rw [if_pos hpath, if_pos hpath]
        constructor
        · rintro _ (⟨hasked, _⟩ | ⟨_, hasked, _⟩ | ⟨hasked, _⟩) <;> cases hasked
        · intro _
          exact ⟨fun _ _ => rfl, fun streams hok => by cases hok⟩
      · rw [if_neg hpath, if_neg hpath]
        exact balanced_openLegs
  | shells source =>
      rw [OpenCall.run, OpenCall.legs, MultiShellSource.open, MultiShellSource.openWith]
      exact balanced_openLegs
  | shellsAt source offset =>
      rw [OpenCall.run, OpenCall.legs, MultiShellSource.openAt, MultiShellSource.openWith]
      exact balanced_openLegs

def filmSource : TranscodeSource where
  path := "film.mp4"
  inputArgs := ["-i", "film.mp4"]
  opt := { EncodeOptions.default with tracks := trackAudio ||| trackVideo }

def filmShells : MultiShellSource where
  audioBin := ""
  videoBin := ""
  audioArgs := ["-i", "film.mp4", "-f", "ogg", "pipe:1"]
  videoArgs := ["-i", "film.mp4", "-f", "ivf", "pipe:1"]
  parallel := false

/-- The system has no process left for the second leg. -/
def secondFails : StreamType → SpawnAnswer
  | .audio => .runs true
  | .video => .fails "Resource temporarily unavailable (os error 11)"

theorem secondFails_unbalanced :
    ¬ Balanced (filmSource.open ⟨"ffmpeg", false⟩ secondFails) ∧
      ¬ Balanced (filmShells.open secondFails) := by
  have htranscode : LeftBehind (filmSource.legs ⟨"ffmpeg", false⟩ filmSource.inputArgs)
      secondFails := .video_fails (by decide) rfl (by decide) rfl
  have hshells : LeftBehind (filmShells.legs filmShells.audioArgs filmShells.videoArgs)
      secondFails := .video_fails (by decide) rfl (by decide) rfl
  constructor
  · intro hbalanced
    obtain ⟨error, herror, hlive⟩ := unbalanced_of_leftBehind htranscode
    exact hlive (hbalanced.error error herror)
  · intro hbalanced
    obtain ⟨error, herror, hlive⟩ := unbalanced_of_leftBehind hshells
    exact hlive (hbalanced.error error herror)

end RustTgCalls.Media
