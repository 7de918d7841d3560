import RustTgCalls.Library.Argv
import RustTgCalls.Media.Source
import Mathlib.Data.List.Basic
import Mathlib.Data.List.TakeWhile

namespace RustTgCalls.Media

def Track.has (track other : Track) : Bool := track &&& other ≠ 0

def Track.of : StreamType → Track
  | .audio => trackAudio
  | .video => trackVideo

namespace ShellSource

/-! The flags that `ensure_ffmpeg_flags` adds to an argv. -/

section Flags

variable (args : List String)

def hasCa : Bool := args.any fun a => a == "-c:a" || a == "-acodec"

def hasCv : Bool := args.any fun a => a == "-c:v" || a == "-vcodec"

def hasF : Bool := args.any fun a => a == "-f"

/-- Put before the first `-i`. -/
def inputInject : List String :=
  (if args.any fun a => a == "-analyzeduration" then [] else ["-analyzeduration", "0"]) ++
  (if args.any fun a => a == "-probesize" then [] else ["-probesize", "64k"]) ++
  (if args.any fun a => a == "-err_detect" then [] else ["-err_detect", "ignore_err"])

/-- Put at the end. -/
def outputInject (track : Track) : List String :=
  if track.has trackAudio then
    (if hasCa args then [] else ["-c:a", "libopus"]) ++
    ["-application", "audio", "-frame_duration", "20", "-page_duration", "20000",
      "-mapping_family", "0", "-ar", "48000", "-ac", "2"] ++
    (if hasF args then [] else ["-f", "ogg"])
  else if track.has trackVideo then
    (if hasCv args then [] else ["-c:v", "libvpx", "-deadline", "realtime"]) ++
    (if hasF args then [] else ["-f", "ivf"])
  else []

/-- The argv with the input flags. -/
def withInputFlags : List String :=
  match args.findIdx? fun a => a == "-i" with
  | some idx => args.take idx ++ inputInject args ++ args.drop idx
  | none => args

def ensureFfmpegFlags (track : Track) : List String :=
  let hasPipe := args.any fun a => a == "pipe:1" || a == "-"
  let out := withInputFlags args
  let out := if hasPipe then out.filter fun x => x != "pipe:1" else out
  out ++ outputInject args track ++ ["pipe:1"]

end Flags

example : ensureFfmpegFlags ["-i", "a.mp4", "-f", "ivf", "pipe:1"] trackVideo =
    ["-analyzeduration", "0", "-probesize", "64k", "-err_detect", "ignore_err", "-i", "a.mp4",
      "-f", "ivf", "-c:v", "libvpx", "-deadline", "realtime", "pipe:1"] := by
  decide +kernel

/-! What the result is made of. -/

/-- The tokens that stay. -/
def kept (args : List String) : List String := args.filter fun x => x != "pipe:1"

def injected (args : List String) (track : Track) : List String :=
  (if "-i" ∈ args then inputInject args else []) ++ outputInject args track

theorem any_token (args : List String) (token : String) :
    (args.any fun a => a == token) = decide (token ∈ args) := by
  by_cases htoken : token ∈ args
  · simp [htoken]
  · simp only [htoken, decide_false, List.any_eq_false, beq_iff_eq]
    exact fun a ha hsame => htoken (hsame ▸ ha)

theorem hasF_eq (args : List String) : hasF args = decide ("-f" ∈ args) :=
  any_token args "-f"

theorem hasCv_iff (args : List String) :
    hasCv args = true ↔ "-c:v" ∈ args ∨ "-vcodec" ∈ args := by
  simp [hasCv, and_or_left, exists_or]

theorem mem_inputInject {args : List String} {token : String}
    (htoken : token ∈ inputInject args) :
    token ∈ ["0", "64k", "ignore_err"] ∨
      token ∈ ["-analyzeduration", "-probesize", "-err_detect"] ∧ token ∉ args := by
  simp only [inputInject, any_token, decide_eq_true_eq, List.mem_append] at htoken
  obtain (hhead | hhead) | hhead := htoken
  all_goals
    split at hhead
    · simp at hhead
    · simp only [List.mem_cons, List.not_mem_nil, or_false] at hhead
      obtain rfl | rfl := hhead
      · exact .inr ⟨by decide, by assumption⟩
      · exact .inl (by decide)

theorem not_mem_inputInject {args : List String} {token : String}
    (hother : token ∉ ["0", "64k", "ignore_err", "-analyzeduration", "-probesize",
      "-err_detect"]) : token ∉ inputInject args := by
  intro htoken
  apply hother
  obtain hvalue | ⟨hflag, _⟩ := mem_inputInject htoken
  · exact List.mem_of_mem_take (i := 3) hvalue
  · exact List.mem_of_mem_drop (i := 3) hflag

/-- The first `-i` and what stands around it. -/
theorem withInputFlags_mem {args : List String} (hinput : "-i" ∈ args) :
    ∃ front rest, args = front ++ "-i" :: rest ∧ "-i" ∉ front ∧
      withInputFlags args = front ++ inputInject args ++ "-i" :: rest := by
  obtain ⟨front, rest, hargs, hfront⟩ := List.eq_append_cons_of_mem hinput
  refine ⟨front, rest, hargs, hfront, ?_⟩
  have hidx : (args.findIdx? fun a => a == "-i") = some front.length := by
    rw [hargs, Argv.findIdx_mark hfront]
  unfold withInputFlags
  rw [hidx]
  simp [hargs]

theorem withInputFlags_not_mem {args : List String} (hinput : "-i" ∉ args) :
    withInputFlags args = args := by
  unfold withInputFlags
  rw [Argv.findIdx_none hinput]

theorem mem_withInputFlags {args : List String} {token : String}
    (htoken : token ∈ withInputFlags args) : token ∈ args ∨ token ∈ inputInject args := by
  by_cases hinput : "-i" ∈ args
  · obtain ⟨front, rest, hargs, _, hwith⟩ := withInputFlags_mem hinput
    rw [hwith] at htoken
    have hsplit : token ∈ args ↔ token ∈ front ∨ token ∈ "-i" :: rest := by
      rw [hargs, List.mem_append]
    simp only [List.mem_append] at htoken
    tauto
  · rw [withInputFlags_not_mem hinput] at htoken
    exact .inl htoken

theorem kept_of_not_mem {args : List String} (hpipe : "pipe:1" ∉ args) : kept args = args :=
  List.filter_eq_self.mpr fun _ ha => bne_iff_ne.mpr fun hsame => hpipe (hsame ▸ ha)

theorem kept_append (first second : List String) :
    kept (first ++ second) = kept first ++ kept second :=
  List.filter_append ..

theorem mem_kept {args : List String} {token : String} (hother : token ≠ "pipe:1") :
    token ∈ kept args ↔ token ∈ args := by
  simp [kept, hother]

theorem pipe_not_mem_kept (args : List String) : "pipe:1" ∉ kept args := by
  simp [kept]

/-- The test for a pipe decides nothing. -/
theorem ensure_eq (args : List String) (track : Track) :
    ensureFfmpegFlags args track =
      kept (withInputFlags args) ++ outputInject args track ++ ["pipe:1"] := by
  unfold ensureFfmpegFlags
  dsimp only
  split
  next => rfl
  next hnone =>
    have hpipe : "pipe:1" ∉ withInputFlags args := by
      intro hmem
      obtain hargs | hinjected := mem_withInputFlags hmem
      · exact hnone (List.any_eq_true.mpr ⟨_, hargs, by decide⟩)
      · exact not_mem_inputInject (by decide) hinjected
    rw [kept_of_not_mem hpipe]

theorem kept_withInputFlags {args : List String} (hinput : "-i" ∈ args) :
    ∃ front rest, kept args = front ++ rest ∧ "-i" ∉ front ∧
      kept (withInputFlags args) = front ++ inputInject args ++ rest := by
  obtain ⟨front, rest, hargs, hfront, hwith⟩ := withInputFlags_mem hinput
  refine ⟨kept front, kept ("-i" :: rest), ?_, ?_, ?_⟩
  · rw [hargs, kept_append]
  · rwa [mem_kept (by decide)]
  · rw [hwith, kept_append, kept_append, kept_of_not_mem (not_mem_inputInject (by decide))]

/-! Which options a track is given, and which of them a user supplies. -/

/-- An option of ffmpeg: all its names, and whether a stream specifier may follow. -/
structure FfmpegOption where
  names : List String
  perStream : Bool

/-- What stands before the first colon. -/
def optionName (token : String) : List Char := token.toList.takeWhile (· != ':')

/-- The stream specifier, with its colon. -/
def specifier (token : String) : List Char := token.toList.dropWhile (· != ':')

/-- The letters of the streams that are not the track's. -/
def otherKinds : StreamType → List Char
  | .audio => ['v', 'V', 's', 'd', 't']
  | .video => ['a', 's', 'd', 't']

/-- An index, a program or the like may be the track's stream; a letter says. -/
def mayMean (leg : StreamType) : List Char → Bool
  | [':', kind] => decide (kind ∉ otherKinds leg)
  | ':' :: kind :: ':' :: _ => decide (kind ∉ otherKinds leg)
  | _ => true

/-- The token is the option, for the stream of the track. -/
def FfmpegOption.covers (option : FfmpegOption) (leg : StreamType) (token : String) : Bool :=
  decide (optionName token ∈ option.names.map String.toList) &&
    (decide (specifier token = []) || option.perStream && mayMean leg (specifier token))

/-- An option of a whole file. -/
def fileOption (name : String) : FfmpegOption := ⟨[name], false⟩

/-- An option of one name. -/
def streamOption (name : String) : FfmpegOption := ⟨[name], true⟩

def codecOption : StreamType → FfmpegOption
  | .audio => ⟨["-c", "-codec", "-acodec"], true⟩
  | .video => ⟨["-c", "-codec", "-vcodec"], true⟩

/-- libvpx has two names for it. -/
def deadlineOption : FfmpegOption := ⟨["-deadline", "-quality"], true⟩

def errDetectOption : FfmpegOption := streamOption "-err_detect"

/-- The options that may be injected. -/
def options : StreamType → List FfmpegOption
  | .audio =>
      [fileOption "-analyzeduration", fileOption "-probesize", errDetectOption,
        codecOption .audio, streamOption "-application", streamOption "-frame_duration",
        fileOption "-page_duration", streamOption "-mapping_family", streamOption "-ar",
        streamOption "-ac", fileOption "-f"]
  | .video =>
      [fileOption "-analyzeduration", fileOption "-probesize", errDetectOption,
        codecOption .video, deadlineOption, fileOption "-f"]

def occurrences (option : FfmpegOption) (leg : StreamType) (args : List String) : Nat :=
  args.countP (option.covers leg)

def Supplied (args : List String) (leg : StreamType) (option : FfmpegOption) : Prop :=
  ∃ a ∈ args, option.covers leg a = true

/-- What the user wrote stays in place, what the user supplied is not supplied
again, and a second filling adds nothing. -/
structure FilledPerFlag (args : List String) (leg : StreamType) : Prop where
  keeps : (kept args).Sublist (ensureFfmpegFlags args (.of leg))
  once : ∀ option ∈ options leg, Supplied args leg option →
    occurrences option leg (ensureFfmpegFlags args (.of leg)) = occurrences option leg args
  idempotent : ensureFfmpegFlags (ensureFfmpegFlags args (.of leg)) (.of leg) =
    ensureFfmpegFlags args (.of leg)

theorem covers_fileOption {name : String} (hplain : ':' ∉ name.toList) (leg : StreamType)
    (token : String) : (fileOption name).covers leg token = true ↔ token = name := by
  have hparts : optionName token ++ specifier token = token.toList :=
    List.takeWhile_append_dropWhile
  simp only [FfmpegOption.covers, fileOption, List.map_cons, List.map_nil, List.mem_singleton,
    Bool.false_and, Bool.or_false, Bool.and_eq_true, decide_eq_true_eq]
  constructor
  · rintro ⟨hname, hnone⟩
    rw [hname, hnone, List.append_nil] at hparts
    exact String.toList_inj.mp hparts.symm
  · rintro rfl
    have hall : ∀ c ∈ token.toList, (c != ':') = true := by
      intro c hc
      exact bne_iff_ne.mpr fun hcolon => hplain (hcolon ▸ hc)
    exact ⟨List.takeWhile_eq_self_iff.mpr hall, List.dropWhile_eq_nil_iff.mpr hall⟩

theorem outputInject_audio (args : List String) :
    outputInject args (.of .audio) =
      (if hasCa args then [] else ["-c:a", "libopus"]) ++
        ["-application", "audio", "-frame_duration", "20", "-page_duration", "20000",
          "-mapping_family", "0", "-ar", "48000", "-ac", "2"] ++
        (if hasF args then [] else ["-f", "ogg"]) := rfl

theorem outputInject_video (args : List String) :
    outputInject args (.of .video) =
      (if hasCv args then [] else ["-c:v", "libvpx", "-deadline", "realtime"]) ++
        (if hasF args then [] else ["-f", "ivf"]) := rfl

theorem keeps (args : List String) (track : Track) :
    (kept args).Sublist (ensureFfmpegFlags args track) := by
  rw [ensure_eq, List.append_assoc]
  apply List.Sublist.trans ?_ (List.sublist_append_left _ _)
  by_cases hinput : "-i" ∈ args
  · obtain ⟨front, rest, hkept, _, hwith⟩ := kept_withInputFlags hinput
    rw [hkept, hwith, List.append_assoc]
    exact (List.Sublist.refl front).append (List.sublist_append_right _ _)
  · rw [withInputFlags_not_mem hinput]

theorem occurrences_append (option : FfmpegOption) (leg : StreamType)
    (first second : List String) :
    occurrences option leg (first ++ second) =
      occurrences option leg first + occurrences option leg second :=
  List.countP_append ..

theorem occurrences_zero {option : FfmpegOption} {leg : StreamType} {args : List String} :
    occurrences option leg args = 0 ↔ ¬ Supplied args leg option := by
  simp [occurrences, List.countP_eq_zero, Supplied]

/-- A fill adds to an option what it injects. -/
theorem occurrences_ensure {option : FfmpegOption} {leg : StreamType}
    (hpipe : option.covers leg "pipe:1" = false) (args : List String) (track : Track) :
    occurrences option leg (ensureFfmpegFlags args track) =
      occurrences option leg args + occurrences option leg (injected args track) := by
  have hkept : occurrences option leg (kept args) = occurrences option leg args := by
    rw [occurrences, kept, List.countP_filter]
    apply List.countP_congr
    intro a _
    simp only [Bool.and_eq_true, bne_iff_ne, and_iff_left_iff_imp]
    rintro ha rfl
    rw [hpipe] at ha
    cases ha
  have hlast : occurrences option leg ["pipe:1"] = 0 := by simp [occurrences, hpipe]
  rw [ensure_eq, occurrences_append, occurrences_append, hlast, injected, occurrences_append,
    ← hkept]
  by_cases hinput : "-i" ∈ args
  · obtain ⟨front, rest, hsplit, _, hwith⟩ := kept_withInputFlags hinput
    rw [hwith, hsplit, if_pos hinput]
    simp only [occurrences_append]
    omega
  · rw [withInputFlags_not_mem hinput, if_neg hinput]
    simp [occurrences]

/-! The tests that are made for a video argv. -/

/-- What may be injected, each option with its own token. -/
def videoFlags : List (FfmpegOption × String) :=
  [(fileOption "-analyzeduration", "-analyzeduration"), (fileOption "-probesize", "-probesize"),
    (errDetectOption, "-err_detect"), (codecOption .video, "-c:v"),
    (deadlineOption, "-deadline"), (fileOption "-f", "-f")]

theorem options_video : options .video = videoFlags.map Prod.fst := rfl

theorem mem_outputInject_video {args : List String} {token : String} :
    token ∈ outputInject args (.of .video) ↔
      token ∈ ["-c:v", "libvpx", "-deadline", "realtime"] ∧ hasCv args = false ∨
        token ∈ ["-f", "ivf"] ∧ "-f" ∉ args := by
  rw [outputInject_video, List.mem_append, hasF_eq]
  cases hasCv args <;> by_cases hargs : "-f" ∈ args <;> simp [hargs]

theorem mem_injected_video {args : List String} {token : String}
    (htoken : token ∈ injected args (.of .video)) :
    token ∈ ["0", "64k", "ignore_err", "-analyzeduration", "-probesize", "-err_detect", "-c:v",
      "libvpx", "-deadline", "realtime", "-f", "ivf"] := by
  unfold injected at htoken
  obtain hinput | houtput := List.mem_append.mp htoken
  · split at hinput
    · by_contra hother
      exact not_mem_inputInject (fun hmem => hother (List.mem_of_mem_take (i := 6) hmem)) hinput
    · cases hinput
  · have hcodecs : ["-c:v", "libvpx", "-deadline", "realtime"] ⊆ ["0", "64k", "ignore_err",
        "-analyzeduration", "-probesize", "-err_detect", "-c:v", "libvpx", "-deadline",
        "realtime", "-f", "ivf"] := by
      decide
    obtain ⟨hcodec, _⟩ | ⟨hformat, _⟩ := mem_outputInject_video.mp houtput
    · exact hcodecs hcodec
    · exact List.mem_of_mem_drop (i := 10) hformat

/-- No injected token but its own is the option. -/
theorem occurrences_injected {flag : FfmpegOption × String} (hflag : flag ∈ videoFlags)
    (args : List String) :
    occurrences flag.1 .video (injected args (.of .video)) = 0 ↔
      flag.2 ∉ injected args (.of .video) := by
  have hown : ∀ each ∈ videoFlags, each.1.covers .video each.2 = true := by decide +kernel
  have hothers : ∀ each ∈ videoFlags, ∀ token ∈ ["0", "64k", "ignore_err", "-analyzeduration",
      "-probesize", "-err_detect", "-c:v", "libvpx", "-deadline", "realtime", "-f", "ivf"],
      each.1.covers .video token = true → token = each.2 := by
    decide +kernel
  rw [occurrences_zero]
  constructor
  · exact fun hnone hmem => hnone ⟨_, hmem, hown flag hflag⟩
  · rintro hnone ⟨token, hmem, hcovers⟩
    exact hnone (hothers flag hflag token (mem_injected_video hmem) hcovers ▸ hmem)

theorem inputInject_of_absent {args : List String} {flag : String}
    (hflag : flag ∈ ["-analyzeduration", "-probesize", "-err_detect"]) (habsent : flag ∉ args) :
    flag ∈ inputInject args := by
  simp only [List.mem_cons, List.not_mem_nil, or_false] at hflag
  obtain rfl | rfl | rfl := hflag <;> simp [inputInject, any_token, habsent]

theorem injected_input {args : List String} {flag : String}
    (hflag : flag ∈ ["-analyzeduration", "-probesize", "-err_detect"]) :
    flag ∈ injected args (.of .video) ↔ "-i" ∈ args ∧ flag ∉ args := by
  have hdisjoint : ∀ token ∈ ["-analyzeduration", "-probesize", "-err_detect"],
      token ∉ ["0", "64k", "ignore_err"] ∧ token ∉ ["-c:v", "libvpx", "-deadline", "realtime"] ∧
        token ∉ ["-f", "ivf"] := by
    decide
  obtain ⟨hvalue, hcodec, hformat⟩ := hdisjoint flag hflag
  have houtput : flag ∉ outputInject args (.of .video) := by
    simp [mem_outputInject_video, hcodec, hformat]
  rw [injected, List.mem_append, or_iff_left houtput]
  split
  next hinput =>
    simp only [hinput, true_and]
    constructor
    · intro hmem
      exact ((mem_inputInject hmem).resolve_left hvalue).2
    · exact inputInject_of_absent hflag
  next hinput => simp [hinput]

/-- The test for the codec stands for the deadline too. -/
theorem injected_codec {args : List String} {flag : String} (hflag : flag ∈ ["-c:v", "-deadline"]) :
    flag ∈ injected args (.of .video) ↔ ¬ ("-c:v" ∈ args ∨ "-vcodec" ∈ args) := by
  have hdisjoint : ∀ token ∈ ["-c:v", "-deadline"],
      token ∉ ["0", "64k", "ignore_err", "-analyzeduration", "-probesize", "-err_detect"] ∧
        token ∈ ["-c:v", "libvpx", "-deadline", "realtime"] ∧ token ∉ ["-f", "ivf"] := by
    decide
  obtain ⟨hother, hcodec, hformat⟩ := hdisjoint flag hflag
  have hinput : flag ∉ if "-i" ∈ args then inputInject args else [] := by
    split
    · exact not_mem_inputInject hother
    · exact List.not_mem_nil
  rw [injected, List.mem_append, or_iff_right hinput, mem_outputInject_video, ← hasCv_iff]
  simp [hcodec, hformat]

theorem injected_format {args : List String} :
    "-f" ∈ injected args (.of .video) ↔ "-f" ∉ args := by
  have hinput : "-f" ∉ if "-i" ∈ args then inputInject args else [] := by
    split
    · exact not_mem_inputInject (by decide)
    · exact List.not_mem_nil
  rw [injected, List.mem_append, or_iff_right hinput, mem_outputInject_video]
  simp

theorem supplied_fileOption {args : List String} {name : String} (hplain : ':' ∉ name.toList)
    (leg : StreamType) : Supplied args leg (fileOption name) ↔ name ∈ args := by
  simp [Supplied, covers_fileOption hplain]

/-- A video argv has what it supplies once if the scan finds what it is tested for. -/
theorem once_video_iff (args : List String) :
    (∀ option ∈ options .video, Supplied args .video option →
      occurrences option .video (ensureFfmpegFlags args (.of .video)) =
        occurrences option .video args) ↔
    ∀ flag ∈ videoFlags, Supplied args .video flag.1 → flag.2 ∉ injected args (.of .video) := by
  have hpipe : ∀ flag ∈ videoFlags, flag.1.covers .video "pipe:1" = false := by decide +kernel
  rw [options_video, List.forall_mem_map]
  refine forall₂_congr fun flag hflag => ?_
  rw [occurrences_ensure (hpipe flag hflag), Nat.add_eq_left, occurrences_injected hflag]

/-! A second filling. -/

theorem mem_ensure_of_mem {args : List String} {token : String} (track : Track)
    (hother : token ≠ "pipe:1") (htoken : token ∈ args) :
    token ∈ ensureFfmpegFlags args track :=
  (keeps args track).subset ((mem_kept hother).mpr htoken)

theorem mem_ensure {args : List String} {track : Track} {token : String}
    (htoken : token ∈ ensureFfmpegFlags args track) :
    token ∈ args ∨ token ∈ injected args track ∨ token = "pipe:1" := by
  rw [ensure_eq, List.mem_append, List.mem_append, List.mem_singleton] at htoken
  unfold injected
  obtain (hkept | houtput) | hlast := htoken
  · by_cases hinput : "-i" ∈ args
    · rw [if_pos hinput, List.mem_append]
      obtain hargs | hinjected := mem_withInputFlags (List.mem_of_mem_filter hkept)
      · exact .inl hargs
      · exact .inr (.inl (.inl hinjected))
    · rw [withInputFlags_not_mem hinput] at hkept
      exact .inl (List.mem_of_mem_filter hkept)
  · exact .inr (.inl (List.mem_append_right _ houtput))
  · exact .inr (.inr hlast)

/-- The input flags are there after a filling, if there is an input at all. -/
theorem inputInject_ensure {args : List String} (track : Track) (hinput : "-i" ∈ args) :
    inputInject (ensureFfmpegFlags args track) = [] := by
  have hpresent (flag : String)
      (hflag : flag ∈ ["-analyzeduration", "-probesize", "-err_detect"])
      (hother : flag ≠ "pipe:1") : flag ∈ ensureFfmpegFlags args track := by
    by_cases hargs : flag ∈ args
    · exact mem_ensure_of_mem track hother hargs
    · obtain ⟨front, rest, _, _, hwith⟩ := kept_withInputFlags hinput
      rw [ensure_eq, hwith]
      simp [inputInject_of_absent hflag hargs]
  simp [inputInject, any_token, hpresent]

theorem not_mem_outputInject (args : List String) (leg : StreamType) {token : String}
    (hother : token ∈ ["-i", "pipe:1", "-"]) : token ∉ outputInject args (.of leg) := by
  simp only [List.mem_cons, List.not_mem_nil, or_false] at hother
  cases leg with
  | audio =>
      rw [outputInject_audio]
      cases hasCa args <;> cases hasF args <;> obtain rfl | rfl | rfl := hother <;> decide
  | video =>
      rw [outputInject_video]
      cases hasCv args <;> cases hasF args <;> obtain rfl | rfl | rfl := hother <;> decide

theorem not_mem_injected_input (args : List String) (leg : StreamType) :
    "-i" ∉ injected args (.of leg) := by
  have houtput := not_mem_outputInject args leg (List.mem_cons_self (a := "-i"))
  unfold injected
  split
  · simpa [houtput] using @not_mem_inputInject args "-i" (by decide)
  · simpa using houtput

theorem withInputFlags_ensure (args : List String) (leg : StreamType) :
    withInputFlags (ensureFfmpegFlags args (.of leg)) = ensureFfmpegFlags args (.of leg) := by
  by_cases hinput : "-i" ∈ args
  · have hagain := mem_ensure_of_mem (.of leg) (by decide) hinput
    obtain ⟨front, rest, hsplit, _, hwith⟩ := withInputFlags_mem hagain
    rw [hwith, inputInject_ensure _ hinput, List.append_nil, ← hsplit]
  · apply withInputFlags_not_mem
    intro hmem
    obtain hargs | hinjected | hlast := mem_ensure hmem
    · exact hinput hargs
    · exact not_mem_injected_input args leg hinjected
    · exact absurd hlast (by decide)

theorem kept_ensure (args : List String) (leg : StreamType) :
    kept (ensureFfmpegFlags args (.of leg)) ++ ["pipe:1"] = ensureFfmpegFlags args (.of leg) := by
  have hpipe : "pipe:1" ∉ outputInject args (.of leg) :=
    not_mem_outputInject args leg (by decide)
  rw [ensure_eq, kept_append, kept_append, kept_of_not_mem hpipe,
    kept_of_not_mem (pipe_not_mem_kept _)]
  simp [kept]

theorem outputInject_ensure_video (args : List String) :
    outputInject (ensureFfmpegFlags args (.of .video)) (.of .video) = [] := by
  have hsubset : ∀ token ∈ outputInject args (.of .video),
      token ∈ ensureFfmpegFlags args (.of .video) := by
    intro token htoken
    rw [ensure_eq]
    simp [htoken]
  have hcodec : hasCv (ensureFfmpegFlags args (.of .video)) = true := by
    rw [hasCv_iff]
    by_cases htested : hasCv args = true
    · obtain hlong | hshort := (hasCv_iff args).mp htested
      · exact .inl (mem_ensure_of_mem _ (by decide) hlong)
      · exact .inr (mem_ensure_of_mem _ (by decide) hshort)
    · exact .inl (hsubset _ (by simp [outputInject_video, htested]))
  have hformat : "-f" ∈ ensureFfmpegFlags args (.of .video) := by
    by_cases hargs : "-f" ∈ args
    · exact mem_ensure_of_mem _ (by decide) hargs
    · exact hsubset _ (by simp [outputInject_video, hasF_eq, hargs])
  simp [outputInject_video, hcodec, hasF_eq, hformat]

theorem ensure_ensure_video (args : List String) :
    ensureFfmpegFlags (ensureFfmpegFlags args (.of .video)) (.of .video) =
      ensureFfmpegFlags args (.of .video) := by
  rw [ensure_eq (ensureFfmpegFlags args (.of .video)), withInputFlags_ensure,
    outputInject_ensure_video, List.append_nil, kept_ensure]

/-- Every filling of an audio argv adds one more `-application`. -/
theorem application_audio (args : List String) :
    occurrences (streamOption "-application") .audio (ensureFfmpegFlags args (.of .audio)) =
      occurrences (streamOption "-application") .audio args + 1 := by
  have hothers : ∀ token ∈ ["0", "64k", "ignore_err", "-analyzeduration", "-probesize",
      "-err_detect"], (streamOption "-application").covers .audio token = false := by
    decide +kernel
  have hinput : occurrences (streamOption "-application") .audio (inputInject args) = 0 := by
    rw [occurrences_zero]
    rintro ⟨token, hmem, hcovers⟩
    refine not_mem_inputInject (fun hlisted => ?_) hmem
    rw [hothers token hlisted] at hcovers
    cases hcovers
  have houtput :
      occurrences (streamOption "-application") .audio (outputInject args (.of .audio)) = 1 := by
    rw [outputInject_audio]
    cases hasCa args <;> cases hasF args <;> decide +kernel
  have hall : occurrences (streamOption "-application") .audio
      (injected args (.of .audio)) = 1 := by
    rw [injected, occurrences_append, houtput]
    split
    · rw [hinput]
    · rfl
  rw [occurrences_ensure (by decide +kernel), hall]

theorem filledPerFlag_iff (args : List String) (leg : StreamType) :
    FilledPerFlag args leg ↔
      leg = .video ∧
        (Supplied args .video (codecOption .video) ∨ Supplied args .video deadlineOption →
          "-c:v" ∈ args ∨ "-vcodec" ∈ args) ∧
        ("-i" ∈ args ∧ Supplied args .video errDetectOption → "-err_detect" ∈ args) := by
  cases leg with
  | audio =>
      constructor
      · intro hfilled
        have hagain := application_audio (ensureFfmpegFlags args (.of .audio))
        rw [hfilled.idempotent] at hagain
        omega
      · rintro ⟨hvideo, _⟩
        cases hvideo
  | video =>
      have hflags : FilledPerFlag args .video ↔ ∀ flag ∈ videoFlags,
          Supplied args .video flag.1 → flag.2 ∉ injected args (.of .video) := by
        rw [← once_video_iff]
        exact ⟨FilledPerFlag.once, fun honce =>
          ⟨keeps args _, honce, ensure_ensure_video args⟩⟩
      rw [hflags]
      simp only [videoFlags, List.forall_mem_cons, List.not_mem_nil, false_implies, implies_true,
        and_true, true_and, @injected_input args "-analyzeduration" (by decide),
        @injected_input args "-probesize" (by decide),
        @injected_input args "-err_detect" (by decide),
        @injected_codec args "-c:v" (by decide),
        @injected_codec args "-deadline" (by decide), injected_format,
        @supplied_fileOption args "-analyzeduration" (by decide),
        @supplied_fileOption args "-probesize" (by decide),
        @supplied_fileOption args "-f" (by decide), not_not]
      constructor
      · rintro ⟨_, _, herr, hcodec, hdeadline, _⟩
        refine ⟨fun hsupplied => hsupplied.elim hcodec hdeadline, ?_⟩
        rintro ⟨hinput, hsupplied⟩
        by_contra habsent
        exact herr hsupplied ⟨hinput, habsent⟩
      · rintro ⟨htested, herr⟩
        refine ⟨fun hown hmissing => hmissing.2 hown, fun hown hmissing => hmissing.2 hown, ?_,
          fun hsupplied => htested (.inl hsupplied), fun hsupplied => htested (.inr hsupplied),
          id⟩
        exact fun hsupplied hmissing => hmissing.2 (herr ⟨hmissing.1, hsupplied⟩)

/-- The user's frame duration is overridden. -/
theorem filled_again :
    ¬ ∀ args leg, FilledPerFlag args leg := by
  intro hall
  have honce := (hall ["-i", "song.mp3", "-frame_duration", "60"] .audio).once
    (streamOption "-frame_duration") (by simp [options])
    ⟨"-frame_duration", by decide, by decide +kernel⟩
  revert honce
  decide +kernel

end ShellSource

end RustTgCalls.Media
