import RustTgCalls.Media.OggDemux
import RustTgCalls.Media.IvfDemux
import RustTgCalls.Media.Delivery
import RustTgCalls.Media.Streamer

namespace RustTgCalls.Media

open Pull Transition

namespace ReaderKind

/-- Every reader comes to an error. -/
theorem exists_yields (reader : ReaderKind) :
    ∃ samples error, Yields nextSample reader samples error := by
  cases reader with
  | opus reader =>
      obtain ⟨samples, error, hyields⟩ := Yields.exists_of_wellFounded
        OpusFrameReader.wellFounded_shorter
        (fun _ _ _ => OpusFrameReader.nextSample_shorter) reader
      exact ⟨samples, error, hyields.embed opus fun _ => rfl⟩
  | vp8 reader =>
      obtain ⟨samples, error, hyields⟩ := Yields.exists_of_wellFounded
        (measure fun reader : VP8FrameReader => reader.bytes.length).wf
        (fun _ _ _ => VP8FrameReader.nextSample_bytes_lt) reader
      exact ⟨samples, error, hyields.embed vp8 fun _ => rfl⟩

end ReaderKind

inductive Container where
  | ogg
  | ivf
  deriving DecidableEq, Repr

def Container.reader : Container → Bytes → ReaderKind
  | .ogg, bytes => .opus (.new bytes)
  | .ivf, bytes => .vp8 (.new bytes)

/-- "VP80" -/
def vp8Codec : Bytes := [0x56, 0x50, 0x38, 0x30]

/-- The streams that are whole, and the samples they carry.  In Ogg/Opus the head
has the first page to itself and the audio starts on a page of its own; the number
of frames in an IVF header is right or was left unknown.  The reader looks at neither
the codec nor that number: with others it gives the same samples and the same end. -/
inductive WellFormed : Container → Bytes → List Sample → Prop
  | ogg (head_opus : opusHead <+: head) (tags_opus : opusTags <+: tags)
      (packets_nonempty : ∀ pkt ∈ packets, pkt ≠ [])
      (head_page : Ogg.Muxes [head] [first])
      (tags_pages : Ogg.Muxes [tags] tagsPages)
      (audio_pages : Ogg.Muxes packets audioPages)
      (whole : Ogg.Bitstream ([first] ++ (tagsPages ++ audioPages))) :
      WellFormed .ogg (Ogg.encodePages ([first] ++ (tagsPages ++ audioPages)))
        (packets.map OpusFrameReader.sampleOf)
  | ivf (header : Ivf.Header) (frames : List Ivf.Frame)
      (codec : header.codec = vp8Codec)
      (counted : header.frameCount = littleEndian 4 frames.length ∨
        header.frameCount = Ivf.unknownCount) :
      WellFormed .ivf (Ivf.encode header frames)
        (frames.map fun frame => ⟨frame.payload, VP8FrameReader.durationOf header⟩)

theorem WellFormed.yields (hformed : WellFormed container bytes samples) :
    Yields ReaderKind.nextSample (container.reader bytes) samples .file := by
  cases hformed with
  | ogg hhead htags hpackets hheadPage htagsPages haudioPages _ =>
      have hmux := hheadPage.append (htagsPages.append haudioPages)
      have hyields := OpusFrameReader.demux_mux hhead htags hpackets hmux
      exact hyields.embed ReaderKind.opus fun _ => rfl
  | ivf header frames _ _ =>
      have hyields := VP8FrameReader.yields_encode header frames
      exact hyields.embed ReaderKind.vp8 fun _ => rfl

namespace Playing

variable {Reader : Type} {playing : Playing Reader}
  {nextSample : Reader → Except RustTgCallsError Sample × Reader}
  {error : RustTgCallsError} {samples : List Sample}

/-- A read meets the stall timeout. -/
def stalls (playing : Playing Reader) : Action → Bool
  | .reader true =>
      match playing.leg.readerAt with
      | .nextSample => true
      | _ => false
  | _ => false

/-- The stack refuses a frame. -/
def sendFails (playing : Playing Reader) : Action → Bool
  | .pacing (.sendFails _) => (passing playing.leg).isSome
  | _ => false

/-! Without a stop, an error is reported whatever has happened. -/

def ToldError (playing : Playing Reader) : Prop :=
  ∀ verdict ∈ playing.reports, verdict ≠ none

theorem reports_next (action : Action) :
    (playing.next nextSample action).reports = playing.reports ∨
      playing.leg.alive = false ∧
        (playing.next nextSample action).reports =
          playing.reports ++ [playing.leg.endError] := by
  cases action with
  | report =>
      simp only [next, report]
      split
      next => exact .inl rfl
      next registered hat _ =>
        cases registered with
        | false => exact .inl rfl
        | true => exact .inr ⟨by simp [Leg.alive, hat], rfl⟩
      next => exact .inl rfl
  | _ => exact .inl rfl

theorem toldError_next (hunstopped : Unstopped nextSample error samples playing)
    (htold : ToldError playing) (action : Action) :
    ToldError (playing.next nextSample action) := by
  intro verdict hmem
  obtain hsame | ⟨hdead, hmore⟩ := @reports_next _ playing nextSample action
  · rw [hsame] at hmem
    exact htold verdict hmem
  · rw [hmore] at hmem
    obtain hmem | hmem := List.mem_append.mp hmem
    · exact htold verdict hmem
    · rw [List.mem_singleton.mp hmem]
      exact hunstopped.ended hdead

theorem toldError_after {reader : Reader}
    (hyields : Yields nextSample reader samples error) (syncBarrier onEnd : Bool)
    (hkept : Along (next nextSample) Kept (new reader syncBarrier onEnd) actions) :
    ToldError (after (next nextSample) (new reader syncBarrier onEnd) actions) := by
  have hstep (now : Playing Reader) (action : Action)
      (hnow : Unstopped nextSample error samples now ∧ ToldError now)
      (haction : Kept now action) :
      Unstopped nextSample error samples (now.next nextSample action) ∧
        ToldError (now.next nextSample action) :=
    ⟨unstopped_next now action hnow.1 haction, toldError_next hnow.1 hnow.2 action⟩
  have hstart : ToldError (new reader syncBarrier onEnd) := by
    intro verdict hmem
    cases hmem
  exact (hkept.invariant hstep ⟨unstopped_new hyields syncBarrier onEnd, hstart⟩).2

/-! Without a stop, a stall or a refused frame, the error is that of the reader
behind the last sample. -/

/-- A step that is neither part of a stop nor disturbed is an undisturbed step. -/
theorem undisturbed_of_quiet {action : Action} (hkept : Kept playing action)
    (hstalls : stalls playing action = false) (hsends : sendFails playing action = false) :
    ∃ quiet, Undisturbed playing quiet ∧
      playing.next nextSample action = playing.next nextSample quiet := by
  have hsame (hread : action ≠ .reader true)
      (hsucceeds : ∀ error, action ≠ .pacing (.sendFails error)) :
      ∃ quiet, Undisturbed playing quiet ∧
        playing.next nextSample action = playing.next nextSample quiet :=
    ⟨action, ⟨hkept, hread, hsucceeds⟩, rfl⟩
  cases action with
  | reader stalled =>
      refine ⟨.reader false, ⟨trivial, by simp, by simp⟩, ?_⟩
      cases stalled with
      | false => rfl
      | true =>
          cases hat : playing.leg.readerAt with
          | nextSample => simp [stalls, hat] at hstalls
          | _ => simp only [next, Leg.readerStep, hat]
  | pacing input =>
      cases input with
      | sendFails error =>
          refine ⟨.pacing .proceed, ⟨trivial, by simp, by simp⟩, ?_⟩
          have hnone : passing playing.leg = none := by simpa [sendFails] using hsends
          cases hat : playing.leg.pacingAt with
          | sendRtp sample =>
              have hmuted : playing.leg.muted = true := by simpa [passing, hat] using hnone
              simp only [next, pacing, pacingLeg, Leg.pacingStep, hat, hmuted]
          | join slept received =>
              simp only [next, pacing, pacingLeg, Leg.pacingStep, hat, Leg.joinStep]
              cases received <;> rfl
          | _ => simp only [next, pacing, pacingLeg, Leg.pacingStep, hat]
      | proceed | slept => exact hsame (by simp) (by simp)
  | release | report | pause | resume => exact hsame (by simp) (by simp)
  | clearOnEnd | stopRunning => exact hkept.elim

/-- What a natural end has come to. -/
structure EndedWith (error : RustTgCallsError) (playing : Playing Reader) : Prop where
  endError : playing.leg.alive = false → playing.leg.endError = some error
  told : ∀ verdict ∈ playing.reports, playing.leg.alive = false ∧ verdict = some error

theorem error_of_failed {failed last : RustTgCallsError}
    {rest : List (Except RustTgCallsError Sample)}
    (hsame : samples.map .ok ++ (.error failed :: rest) =
      samples.map .ok ++ [.error last]) : failed = last := by
  have hrest := List.append_cancel_left hsame
  simp only [List.cons.injEq, Except.error.injEq] at hrest
  exact hrest.1

theorem endError_exit (hdelivered : Delivered nextSample error samples playing)
    {input : PacingInput} (hsucceeds : ∀ error, input ≠ .sendFails error)
    (halive : playing.leg.alive = true)
    (hdead : (playing.pacingLeg input).alive = false) :
    (playing.pacingLeg input).endError = some error := by
  obtain ⟨hrunning, hreceived, _, _⟩ := hdelivered.unstopped
  obtain ⟨failed, hat, hres, hend⟩ | ⟨failed, hfails, _⟩ :=
    exit_cases hrunning (hreceived halive) halive hdead
  · obtain ⟨_, _, future, hflow, _⟩ := hdelivered.flowing halive
    simp only [Leg.pipe, Leg.held, hat, hres, List.map_nil, List.nil_append,
      Option.toList_some, List.cons_append] at hflow
    obtain ⟨hsent, _⟩ := sent_of_failed hflow
    rw [hsent] at hflow
    rw [hend, error_of_failed hflow]
  · exact absurd hfails (hsucceeds failed)

theorem endedWith_next (hdelivered : Delivered nextSample error samples playing)
    (hended : EndedWith error playing) {action : Action}
    (hundisturbed : Undisturbed playing action) :
    EndedWith error (playing.next nextSample action) := by
  constructor
  · intro hdead'
    cases halive : playing.leg.alive with
    | false =>
        rw [endError_next action halive]
        exact hended.endError halive
    | true =>
        obtain ⟨input, hinput⟩ := pacing_of_exit halive hdead'
        subst hinput
        have hsucceeds (error : RustTgCallsError) : input ≠ .sendFails error :=
          fun hfails => hundisturbed.2.2 error (congrArg Action.pacing hfails)
        exact endError_exit hdelivered hsucceeds halive hdead'
  · intro verdict hmem
    obtain hsame | ⟨hdead, hmore⟩ := @reports_next _ playing nextSample action
    · rw [hsame] at hmem
      obtain ⟨hdead, herror⟩ := hended.told verdict hmem
      exact ⟨dead_of_dead action hdead, herror⟩
    · refine ⟨dead_of_dead action hdead, ?_⟩
      rw [hmore] at hmem
      obtain hmem | hmem := List.mem_append.mp hmem
      · exact (hended.told verdict hmem).2
      · rw [List.mem_singleton.mp hmem]
        exact hended.endError hdead

/-! The verdict on the end of a stream. -/

/-- A run over the bytes of a container. -/
def start (container : Container) (bytes : Bytes) (syncBarrier onEnd : Bool) :
    Playing ReaderKind :=
  new (container.reader bytes) syncBarrier onEnd

/-- The stream is whole, no read stalls and every send succeeds. -/
structure Natural (container : Container) (bytes : Bytes) (syncBarrier onEnd : Bool)
    (actions : List Action) : Prop where
  wellFormed : ∃ samples, WellFormed container bytes samples
  reads : Along (next ReaderKind.nextSample) (fun now action => stalls now action = false)
    (start container bytes syncBarrier onEnd) actions
  sends : Along (next ReaderKind.nextSample) (fun now action => sendFails now action = false)
    (start container bytes syncBarrier onEnd) actions

/-- Every verdict given is `none`, after all samples, for a natural end and an error
for any other. -/
def Classified (container : Container) (bytes : Bytes) (syncBarrier onEnd : Bool)
    (actions : List Action) : Prop :=
  let final := after (next ReaderKind.nextSample)
    (start container bytes syncBarrier onEnd) actions
  ∀ verdict ∈ final.reports,
    (Natural container bytes syncBarrier onEnd actions → verdict = none ∧
      ∀ samples, WellFormed container bytes samples → final.sent = samples) ∧
    (verdict ≠ none ↔ ¬ Natural container bytes syncBarrier onEnd actions)

section

variable {container : Container} {bytes : Bytes} {syncBarrier onEnd : Bool}
  {actions : List Action}

/-- A natural end is told as an error, after all samples. -/
theorem told_of_natural (hformed : WellFormed container bytes samples)
    (hkept : Along (next ReaderKind.nextSample) Kept
      (start container bytes syncBarrier onEnd) actions)
    (hnatural : Natural container bytes syncBarrier onEnd actions) :
    let final := after (next ReaderKind.nextSample)
      (start container bytes syncBarrier onEnd) actions
    ∀ verdict ∈ final.reports, verdict = some .file ∧ final.sent = samples := by
  obtain ⟨_, hreads, hsends⟩ := hnatural
  have hstep (now : Playing ReaderKind) (action : Action)
      (hnow : Delivered ReaderKind.nextSample .file samples now ∧ EndedWith .file now)
      (haction : Kept now action ∧ stalls now action = false ∧
        sendFails now action = false) :
      Delivered ReaderKind.nextSample .file samples
          (now.next ReaderKind.nextSample action) ∧
        EndedWith .file (now.next ReaderKind.nextSample action) := by
    obtain ⟨hkept, hstalls, hsends⟩ := haction
    obtain ⟨quiet, hundisturbed, hnext⟩ := undisturbed_of_quiet hkept hstalls hsends
    rw [hnext]
    exact ⟨delivered_next now quiet hnow.1 hundisturbed,
      endedWith_next hnow.1 hnow.2 hundisturbed⟩
  have hended : EndedWith .file (start container bytes syncBarrier onEnd) := by
    constructor
    · intro hdead
      cases hdead
    · intro _ hmem
      cases hmem
  have hdelivered := delivered_new hformed.yields syncBarrier onEnd
  have hall := along_and.mpr ⟨hkept, along_and.mpr ⟨hreads, hsends⟩⟩
  obtain ⟨hfinal, hverdicts⟩ := hall.invariant hstep ⟨hdelivered, hended⟩
  intro final verdict hmem
  obtain ⟨hdead, herror⟩ := hverdicts.told verdict hmem
  exact ⟨herror, (hfinal.whole hdead).1⟩

/-- A run that was never stopped and has given its verdict is classified rightly if
and only if its end was not a natural one. -/
theorem classified_iff
    (hkept : Along (next ReaderKind.nextSample) Kept
      (start container bytes syncBarrier onEnd) actions)
    (hreported : (after (next ReaderKind.nextSample)
      (start container bytes syncBarrier onEnd) actions).reports ≠ []) :
    Classified container bytes syncBarrier onEnd actions ↔
      ¬ Natural container bytes syncBarrier onEnd actions := by
  obtain ⟨samples, error, hyields⟩ := (container.reader bytes).exists_yields
  have htold := toldError_after hyields syncBarrier onEnd hkept
  constructor
  · intro hclassified hnatural
    obtain ⟨verdict, rest, hreports⟩ := List.exists_cons_of_ne_nil hreported
    have hmem : verdict ∈ (after (next ReaderKind.nextSample)
        (start container bytes syncBarrier onEnd) actions).reports := by
      rw [hreports]
      exact List.mem_cons_self
    exact htold verdict hmem ((hclassified verdict hmem).1 hnatural).1
  · intro hdisturbed verdict hmem
    exact ⟨fun hnatural => absurd hnatural hdisturbed,
      fun _ => hdisturbed, fun _ => htold verdict hmem⟩

end

/-- An IVF stream of one frame that lasts 33 ms. -/
def oneFrameHeader : Ivf.Header where
  codec := vp8Codec
  pictureSize := [0, 5, 0xD0, 2]
  timebaseDen := 30
  timebaseNum := 1
  frameCount := [1, 0, 0, 0]
  unused := [0, 0, 0, 0]
  codec_length := rfl
  pictureSize_length := rfl
  timebaseDen_lt := by decide
  timebaseNum_lt := by decide
  frameCount_length := rfl
  unused_length := rfl

def oneFrame : Ivf.Frame where
  timestamp := [0, 0, 0, 0, 0, 0, 0, 0]
  payload := [0x10, 0x20]
  timestamp_length := rfl
  payload_lt := by decide

/-- The reader task reads the frame and the end, then the pacing task plays the
frame and reports. -/
def playedOut : List Action :=
  List.replicate 10 (.reader false) ++
    (List.replicate 9 (.pacing .proceed) ++ [.pacing .slept] ++
      List.replicate 6 (.pacing .proceed)) ++ [.report, .report]

/-- The stream is whole and its end natural, and the verdict is an error. -/
theorem natural_end_told_as_error :
    let bytes := Ivf.encode oneFrameHeader [oneFrame]
    let final := after (next ReaderKind.nextSample) (start .ivf bytes false true) playedOut
    Along (next ReaderKind.nextSample) Kept (start .ivf bytes false true) playedOut ∧
      Natural .ivf bytes false true playedOut ∧ final.reports = [some .file] ∧
      ¬ Classified .ivf bytes false true playedOut := by
  intro bytes final
  have hnatural : Natural .ivf bytes false true playedOut :=
    ⟨⟨_, .ivf oneFrameHeader [oneFrame] rfl (.inl rfl)⟩, by decide +kernel, by decide +kernel⟩
  have hreports : final.reports = [some .file] := by decide +kernel
  refine ⟨by simp [playedOut, Kept], hnatural, hreports, ?_⟩
  intro hclassified
  have hreported : some .file ∈ final.reports := by
    rw [hreports]
    exact List.mem_singleton_self _
  have hverdict := (hclassified (some .file) hreported).1 hnatural
  exact absurd hverdict.1 (by decide)

/-- A stream cut off in its header is told as an error, rightly. -/
theorem classified_cutHeader :
    Classified .ivf (oneFrameHeader.encode.take 20) false true playedOut ↔
      ¬ Natural .ivf (oneFrameHeader.encode.take 20) false true playedOut :=
  classified_iff (by simp [playedOut, Kept]) (by decide +kernel)

end Playing

end RustTgCalls.Media
