import RustTgCalls.Library.Argv
import RustTgCalls.Media.ShellFlags

namespace RustTgCalls.Media.ShellSource

open Argv

/-! The output section of what `ensure_ffmpeg_flags` makes. -/

/-- The scan for a codec option of the track. -/
def hasCodec (args : List String) : StreamType → Bool
  | .audio => hasCa args
  | .video => hasCv args

/-- A format, a codec and one destination, all of them on the output side. -/
structure CompleteOutput (leg : StreamType) (output : List String) : Prop where
  format : "-f" ∈ output
  codec : Supplied output leg (codecOption leg)
  destination : ∃ before, output = before ++ ["pipe:1"] ∧
    "pipe:1" ∉ before ∧ "-" ∉ before

/-- Nothing hides the output side from the scan: without the `pipe:1` tokens, the
argv does not end in an `-i`, its output section names no destination, and has a
format and a codec of its own if the scan finds any. -/
structure Unshadowed (args : List String) (leg : StreamType) : Prop where
  closed : dangling "-i" (kept args) = false
  format : "-f" ∈ args → "-f" ∈ outputSection "-i" (kept args)
  codec : hasCodec args leg = true →
    Supplied (outputSection "-i" (kept args)) leg (codecOption leg)
  destination : "-" ∉ outputSection "-i" (kept args)

/-- What is put before the first `-i` changes no pair. -/
theorem afterInputs_ensure {args : List String} (hinput : "-i" ∈ args) (leg : StreamType) :
    afterInputs "-i" (ensureFfmpegFlags args (.of leg)) =
      afterInputs "-i" (kept args ++ (outputInject args (.of leg) ++ ["pipe:1"])) := by
  obtain ⟨front, rest, hkept, hfront, hwith⟩ := kept_withInputFlags hinput
  have hinjected : "-i" ∉ inputInject args := not_mem_inputInject (by decide)
  rw [ensure_eq, hwith, hkept]
  simp only [List.append_assoc]
  rw [afterInputs_append_left hfront, afterInputs_append_left hinjected,
    afterInputs_append_left hfront]

theorem input_of_pair {args : List String} (hpair : (afterInputs "-i" args).isSome) :
    "-i" ∈ args := by
  by_contra hnone
  rw [afterInputs_none hnone] at hpair
  cases hpair

theorem outputSection_ensure {args : List String} (hinput : "-i" ∈ args)
    (hclosed : dangling "-i" (kept args) = false) (leg : StreamType) :
    outputSection "-i" (ensureFfmpegFlags args (.of leg)) =
      outputSection "-i" (kept args) ++ outputInject args (.of leg) ++ ["pipe:1"] := by
  have htail : "-i" ∉ outputInject args (.of leg) ++ ["pipe:1"] := by
    simpa using not_mem_outputInject args leg (List.mem_cons_self (a := "-i"))
  have hkept : "-i" ∈ kept args := (mem_kept (by decide)).mpr hinput
  obtain ⟨output, houtput⟩ := Option.isSome_iff_exists.mp (afterInputs_isSome hkept hclosed)
  rw [outputSection, afterInputs_ensure hinput, afterInputs_append htail hclosed, outputSection,
    houtput]
  simp

/-- The `-i` at the end takes the first token that is put there. -/
theorem outputSection_dangling {args : List String} (hinput : "-i" ∈ args)
    (hdangling : dangling "-i" (kept args) = true) (leg : StreamType) :
    outputSection "-i" (ensureFfmpegFlags args (.of leg)) =
      (outputInject args (.of leg) ++ ["pipe:1"]).tail := by
  have htail : "-i" ∉ outputInject args (.of leg) ++ ["pipe:1"] := by
    simpa using not_mem_outputInject args leg (List.mem_cons_self (a := "-i"))
  rw [outputSection, afterInputs_ensure hinput]
  generalize outputInject args (.of leg) = injected at htail
  cases injected with
  | nil => simp [afterInputs_dangling (List.not_mem_nil (a := "-i")) hdangling]
  | cons token rest =>
      have hrest : "-i" ∉ rest ++ ["pipe:1"] := List.not_mem_of_not_mem_cons htail
      rw [List.cons_append, afterInputs_dangling hrest hdangling]
      rfl

/-- What a dangling `-i` leaves has no codec or no format. -/
theorem incomplete_tail (args : List String) (leg : StreamType) :
    ¬ CompleteOutput leg (outputInject args (.of leg) ++ ["pipe:1"]).tail := by
  intro hcomplete
  have hformat := hcomplete.format
  have hcodec := hcomplete.codec
  cases leg with
  | audio =>
      rw [outputInject_audio] at hcodec
      revert hcodec
      unfold Supplied
      cases hasCa args <;> cases hasF args <;> decide +kernel
  | video =>
      rw [outputInject_video] at hformat hcodec
      revert hformat hcodec
      unfold Supplied
      cases hasCv args <;> cases hasF args <;> decide +kernel

theorem mem_outputInject_format (args : List String) (leg : StreamType) :
    "-f" ∈ outputInject args (.of leg) ↔ "-f" ∉ args := by
  cases leg with
  | audio =>
      by_cases hargs : "-f" ∈ args
      · simp only [outputInject_audio, hasF_eq, hargs]
        cases hasCa args <;> decide
      · simp [outputInject_audio, hasF_eq, hargs]
  | video =>
      by_cases hargs : "-f" ∈ args
      · simp only [outputInject_video, hasF_eq, hargs]
        cases hasCv args <;> decide
      · simp [outputInject_video, hasF_eq, hargs]

theorem mem_outputInject_codec (args : List String) (leg : StreamType) :
    Supplied (outputInject args (.of leg)) leg (codecOption leg) ↔ hasCodec args leg = false := by
  unfold Supplied
  cases leg with
  | audio =>
      rw [outputInject_audio, hasCodec]
      cases hasCa args <;> cases hasF args <;> decide +kernel
  | video =>
      rw [outputInject_video, hasCodec]
      cases hasCv args <;> cases hasF args <;> decide +kernel

/-- What an output section that ends in `pipe:1` must have in one of its parts. -/
theorem completeOutput_append_iff {own added : List String} {leg : StreamType}
    (hown : "pipe:1" ∉ own) (hadded : "pipe:1" ∉ added) (hnoDash : "-" ∉ added) :
    CompleteOutput leg (own ++ added ++ ["pipe:1"]) ↔
      ("-f" ∈ own ∨ "-f" ∈ added) ∧
        (Supplied own leg (codecOption leg) ∨ Supplied added leg (codecOption leg)) ∧
        "-" ∉ own := by
  constructor
  · rintro ⟨hformat, ⟨a, hcodec, ha⟩, before, hsplit, _, hdash⟩
    have hbefore := (List.append_inj' hsplit rfl).1
    have hpipe : (codecOption leg).covers leg "pipe:1" = false := by cases leg <;> decide +kernel
    have hother : a ≠ "pipe:1" := by
      rintro rfl
      rw [hpipe] at ha
      cases ha
    have hparts : a ∈ own ∨ a ∈ added := by simpa [hother] using hcodec
    refine ⟨by simpa using hformat, ?_, fun hmem => ?_⟩
    · obtain hleft | hright := hparts
      · exact .inl ⟨a, hleft, ha⟩
      · exact .inr ⟨a, hright, ha⟩
    · rw [← hbefore] at hdash
      exact hdash (List.mem_append_left _ hmem)
  · rintro ⟨hformat, hcodec, hdash⟩
    refine ⟨by simpa using hformat, ?_, own ++ added, rfl, ?_, ?_⟩
    · obtain ⟨a, hleft, ha⟩ | ⟨a, hright, ha⟩ := hcodec
      · exact ⟨a, by simp [hleft], ha⟩
      · exact ⟨a, by simp [hright], ha⟩
    · simp [hown, hadded]
    · simp [hdash, hnoDash]

theorem completeOutput_iff (args : List String) (leg : StreamType)
    (hpair : (afterInputs "-i" args).isSome) :
    CompleteOutput leg (outputSection "-i" (ensureFfmpegFlags args (.of leg))) ↔
      Unshadowed args leg := by
  have hinput := input_of_pair hpair
  cases hdangling : dangling "-i" (kept args) with
  | true =>
      rw [outputSection_dangling hinput hdangling]
      constructor
      · exact fun hcomplete => absurd hcomplete (incomplete_tail args leg)
      · intro hunshadowed
        have hclosed := hunshadowed.closed
        rw [hdangling] at hclosed
        cases hclosed
  | false =>
      have hpipe : "pipe:1" ∉ outputSection "-i" (kept args) := fun hmem =>
        pipe_not_mem_kept args ((outputSection_suffix "-i" (kept args)).subset hmem)
      rw [outputSection_ensure hinput hdangling,
        completeOutput_append_iff hpipe (not_mem_outputInject args leg (by decide))
          (not_mem_outputInject args leg (by decide)),
        mem_outputInject_format, mem_outputInject_codec]
      constructor
      · rintro ⟨hformat, hcodec, hdash⟩
        refine ⟨hdangling, fun hargs => ?_, fun htested => ?_, hdash⟩
        · exact hformat.resolve_right (not_not.mpr hargs)
        · apply hcodec.resolve_right
          rw [htested]
          decide
      · rintro ⟨_, hformat, hcodec, hdash⟩
        refine ⟨?_, ?_, hdash⟩
        · by_cases hargs : "-f" ∈ args
          · exact .inl (hformat hargs)
          · exact .inr hargs
        · cases htested : hasCodec args leg with
          | true => exact .inl (hcodec htested)
          | false => exact .inr rfl

theorem completeOutput_iff_minimal :
    CompleteOutput .audio
        (outputSection "-i" (ensureFfmpegFlags ["-i", "song.mp3"] (.of .audio))) ↔
      Unshadowed ["-i", "song.mp3"] .audio :=
  completeOutput_iff ["-i", "song.mp3"] .audio (by decide)

/-- The recipe for a concat list comes out without an output format. -/
theorem concat_incomplete :
    ¬ ∀ args leg, (afterInputs "-i" args).isSome →
      CompleteOutput leg (outputSection "-i" (ensureFfmpegFlags args (.of leg))) := by
  intro hall
  have hformat := (hall ["-f", "concat", "-safe", "0", "-i", "playlist.txt"] .audio
    (by decide)).format
  revert hformat
  decide +kernel

/-! The validation of the output codec. -/

def rawPcm : List String :=
  ["s16le", "s16be", "s24le", "s32le", "f32le", "f64le", "u8", "alaw", "mulaw"]

/-- `starts_with("pcm_")` -/
def isPcm (value : String) : Bool := "pcm_".toList.isPrefixOf value.toList

/-- One round of the loop over the argv: what is wrong with a token and the next. -/
def rawRefusal (track : Track) (a next : String) : Option String :=
  if (a = "-acodec" ∨ a = "-c:a") ∧ isPcm next ∧ track.has trackAudio then
    some ("raw PCM codec " ++ next ++ " not supported; expected libopus in OGG")
  else if a = "-f" ∧ next ∈ rawPcm ∧ track.has trackAudio then
    some ("raw PCM container " ++ next ++ " not supported; expected -f ogg")
  else none

def validateOutputCodec (track : Track) : List String → Except RustTgCallsError Unit
  | [] => .ok ()
  | a :: rest =>
      match rawRefusal track a (rest.head?.getD "") with
      | some text => .error (.invalidParams text)
      | none => validateOutputCodec track rest

/-- Some token and the one after it are an option and a value like these. -/
def selects (chosen : String → String → Bool) : List String → Bool
  | option :: value :: rest => chosen option value || selects chosen (value :: rest)
  | _ => false

/-- The containers of ffmpeg that hold bare PCM samples. -/
def rawPcmFormats : List String :=
  ["alaw", "mulaw", "s8", "s16le", "s16be", "s24le", "s24be", "s32le", "s32be", "u8", "u16le",
    "u16be", "u24le", "u24be", "u32le", "u32be", "f32le", "f32be", "f64le", "f64be", "vidc"]

/-- A raw codec or container of the track. -/
def rawSelection : StreamType → String → String → Bool
  | .audio, option, value =>
      (codecOption .audio).covers .audio option && isPcm value ||
        option == "-f" && decide (value ∈ rawPcmFormats)
  | .video, option, value =>
      ((codecOption .video).covers .video option || option == "-f") && value == "rawvideo"

/-- What the validation looks for. -/
def listedSelection (option value : String) : Bool :=
  (option == "-acodec" || option == "-c:a") && isPcm value ||
    option == "-f" && decide (value ∈ rawPcm)

/-- What it does not: the other ways to write the codec option, and other
containers. -/
def unlistedSelection (option value : String) : Bool :=
  (codecOption .audio).covers .audio option && !(option == "-acodec" || option == "-c:a") &&
      isPcm value ||
    option == "-f" && decide (value ∈ rawPcmFormats) && !decide (value ∈ rawPcm)

/-- Refused if the output section selects something raw, and accepted otherwise. -/
structure ValidatedOutput (args : List String) (leg : StreamType) : Prop where
  refused : selects (rawSelection leg) (outputSection "-i" args) = true →
    ∃ text, validateOutputCodec (.of leg) args = .error (.invalidParams text)
  accepted : selects (rawSelection leg) (outputSection "-i" args) = false →
    validateOutputCodec (.of leg) args = .ok ()

/-- For audio, nothing that the validation looks for stands on the input side
alone, and a raw output that it does not look for comes with something that it
does; for video, the output is not raw. -/
def Discernible (args : List String) : StreamType → Prop
  | .audio =>
      (selects listedSelection args = true →
        selects (rawSelection .audio) (outputSection "-i" args) = true) ∧
      (selects unlistedSelection (outputSection "-i" args) = true →
        selects listedSelection args = true)
  | .video => selects (rawSelection .video) (outputSection "-i" args) = false

theorem selects_append_right {chosen : String → String → Bool} {later : List String}
    (hselects : selects chosen later = true) (before : List String) :
    selects chosen (before ++ later) = true := by
  induction before with
  | nil => exact hselects
  | cons token before ih =>
      cases hrest : before ++ later with
      | nil =>
          rw [hrest] at ih
          cases ih
      | cons value rest =>
          rw [hrest] at ih
          rw [List.cons_append, hrest, selects, ih, Bool.or_true]

theorem selects_or (first second : String → String → Bool) (args : List String) :
    selects (fun option value => first option value || second option value) args =
      (selects first args || selects second args) := by
  fun_induction selects first args with
  | case1 option value rest ih =>
      simp only [selects, ih, Bool.or_assoc]
      rw [Bool.or_left_comm (second option value)]
  | case2 args hshort => cases args with
      | nil => rfl
      | cons token rest =>
          cases rest with
          | nil => rfl
          | cons value rest => exact absurd rfl (hshort token value rest)

theorem rawSelection_audio :
    rawSelection .audio = fun option value =>
      listedSelection option value || unlistedSelection option value := by
  funext option value
  have hlisted : value ∈ rawPcm → value ∈ rawPcmFormats := by
    have hall : ∀ format ∈ rawPcm, format ∈ rawPcmFormats := by decide
    exact hall value
  have hname : (option == "-acodec" || option == "-c:a") = true →
      (codecOption .audio).covers .audio option = true := by
    simp only [Bool.or_eq_true, beq_iff_eq]
    rintro (rfl | rfl) <;> decide +kernel
  simp only [rawSelection, listedSelection, unlistedSelection]
  generalize (option == "-acodec" || option == "-c:a") = known at hname ⊢
  generalize (codecOption .audio).covers .audio option = codec at hname ⊢
  cases option == "-f" <;> cases known <;> cases codec <;> by_cases hknown : value ∈ rawPcm <;>
    simp_all

theorem rawRefusal_audio (a next : String) :
    (rawRefusal (.of .audio) a next).isSome = listedSelection a next := by
  have haudio : (Track.of .audio).has trackAudio = true := by decide
  unfold rawRefusal
  split
  next hpcm =>
    have hname : (a == "-acodec" || a == "-c:a") = true := by simpa using hpcm.1
    simp [listedSelection, hname, hpcm.2.1]
  next hpcm =>
    split
    next hraw => simp [listedSelection, hraw.1, hraw.2.1]
    next hraw =>
      symm
      simp only [listedSelection, Option.isSome_none, Bool.or_eq_false_iff,
        Bool.and_eq_false_imp, Bool.or_eq_true, decide_eq_false_iff_not, beq_iff_eq]
      constructor
      · intro ha
        by_contra hnext
        exact hpcm ⟨ha, by simpa using hnext, haudio⟩
      · intro ha hmem
        exact hraw ⟨ha, hmem, haudio⟩

theorem validate_audio (args : List String) :
    (selects listedSelection args = true →
      ∃ text, validateOutputCodec (.of .audio) args = .error (.invalidParams text)) ∧
    (selects listedSelection args = false →
      validateOutputCodec (.of .audio) args = .ok ()) := by
  induction args with
  | nil => exact ⟨fun hfalse => absurd hfalse (by decide), fun _ => rfl⟩
  | cons a rest ih =>
      have hround : selects listedSelection (a :: rest) =
          (listedSelection a (rest.head?.getD "") || selects listedSelection rest) := by
        cases rest with
        | nil =>
            have hnone : listedSelection a "" = false := by
              simp [listedSelection, isPcm, rawPcm]
            simp [selects, hnone]
        | cons value rest => rfl
      have hrefusal := rawRefusal_audio a (rest.head?.getD "")
      rw [hround, validateOutputCodec, ← hrefusal]
      cases rawRefusal (.of .audio) a (rest.head?.getD "") with
      | some text => exact ⟨fun _ => ⟨text, rfl⟩, fun hnone => by cases hnone⟩
      | none => exact ih

theorem validate_video (args : List String) :
    validateOutputCodec (.of .video) args = .ok () := by
  have haudio : (Track.of .video).has trackAudio = false := by decide
  have hnone (a next : String) : rawRefusal (.of .video) a next = none := by
    simp [rawRefusal, haudio]
  induction args with
  | nil => rfl
  | cons a rest ih => rw [validateOutputCodec, hnone, ih]

theorem validatedOutput_video (args : List String) :
    ValidatedOutput args .video ↔ Discernible args .video := by
  have hvalid := validate_video args
  constructor
  · intro hvalidated
    by_contra hraw
    obtain ⟨text, herror⟩ := hvalidated.refused (by simpa [Discernible] using hraw)
    rw [hvalid] at herror
    cases herror
  · intro hclean
    refine ⟨fun hraw => ?_, fun _ => hvalid⟩
    rw [Discernible, hraw] at hclean
    cases hclean

theorem selects_outputSection {chosen : String → String → Bool} {args : List String}
    (hselects : selects chosen (outputSection "-i" args) = true) :
    selects chosen args = true := by
  obtain ⟨front, hfront⟩ := outputSection_suffix "-i" args
  rw [← hfront]
  exact selects_append_right hselects front

theorem validatedOutput_audio (args : List String) :
    ValidatedOutput args .audio ↔ Discernible args .audio := by
  obtain ⟨hlisted, hclear⟩ := validate_audio args
  have hraw : selects (rawSelection .audio) (outputSection "-i" args) =
      (selects listedSelection (outputSection "-i" args) ||
        selects unlistedSelection (outputSection "-i" args)) := by
    rw [rawSelection_audio, selects_or]
  constructor
  · rintro ⟨hrefused, haccepted⟩
    constructor
    · intro hargs
      by_contra hclean
      obtain ⟨text, herror⟩ := hlisted hargs
      rw [haccepted (by simpa using hclean)] at herror
      cases herror
    · intro hunlisted
      by_contra hnone
      obtain ⟨text, herror⟩ := hrefused (by rw [hraw, hunlisted, Bool.or_true])
      rw [hclear (by simpa using hnone)] at herror
      cases herror
  · rintro ⟨honly, hknown⟩
    constructor
    · intro hsection
      rw [hraw, Bool.or_eq_true] at hsection
      obtain hown | hunlisted := hsection
      · exact hlisted (selects_outputSection hown)
      · exact hlisted (hknown hunlisted)
    · intro hclean
      apply hclear
      by_contra hargs
      rw [honly (by simpa using hargs)] at hclean
      cases hclean

theorem validatedOutput_iff (args : List String) (leg : StreamType) :
    ValidatedOutput args leg ↔ Discernible args leg := by
  cases leg with
  | audio => exact validatedOutput_audio args
  | video => exact validatedOutput_video args

/-- Raw video passes, and a raw file as an audio input does not. -/
theorem validation_mistaken :
    ¬ ValidatedOutput ["-i", "clip.mp4", "-f", "rawvideo"] .video ∧
      ¬ ValidatedOutput ["-f", "s16le", "-ar", "44100", "-ac", "2", "-i", "in.pcm"] .audio := by
  constructor
  · intro hvalidated
    obtain ⟨text, herror⟩ := hvalidated.refused (by decide +kernel)
    rw [validate_video] at herror
    cases herror
  · intro hvalidated
    have haccepted := hvalidated.accepted (by decide +kernel)
    obtain ⟨text, herror⟩ := (validate_audio
      ["-f", "s16le", "-ar", "44100", "-ac", "2", "-i", "in.pcm"]).1 (by decide +kernel)
    rw [herror] at haccepted
    cases haccepted

end RustTgCalls.Media.ShellSource
