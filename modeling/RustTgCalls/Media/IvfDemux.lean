import RustTgCalls.Library.Ivf
import RustTgCalls.Library.Pull
import RustTgCalls.Media.FrameReader

namespace RustTgCalls.Media

open Pull

theorem fromLeBytes_littleEndian (count value : Nat) :
    fromLeBytes (littleEndian count value) = value % 256 ^ count := by
  induction count generalizing value with
  | zero => simp [littleEndian, fromLeBytes, Nat.mod_one]
  | succ count ih =>
      have hsplit : value % 256 ^ (count + 1) =
          value % 256 + 256 * (value / 256 % 256 ^ count) := by
        rw [Nat.pow_succ', Nat.mod_mul]
      rw [littleEndian, fromLeBytes, ih, UInt8.toNat_ofNat', hsplit]

namespace VP8FrameReader

/-! The samples of a stream are its frames, with the duration of the header. -/

def durationOf (header : Ivf.Header) : Duration :=
  if header.timebaseDen > 0 ∧ header.timebaseNum > 0 then
    Duration.fromNanos (header.timebaseNum * 1000000000 / header.timebaseDen)
  else Duration.fromNanos 33333333

/-- The same for any header: 33333333 ns where the timebase says nothing. -/
def frameDurationOf (header : Ivf.OpenHeader) : Duration :=
  if header.timebaseDen > 0 ∧ header.timebaseNum > 0 then
    Duration.fromNanos (header.timebaseNum * 1000000000 / header.timebaseDen)
  else Duration.fromNanos 33333333

theorem readHeader_encode (header : Ivf.OpenHeader) (rest : Bytes) :
    (new (header.encode ++ rest)).readHeader =
      (.ok (), {
        bytes := rest
        headerRead := true
        frameDuration := frameDurationOf header }) := by
  have hread : readExact 32 (header.encode ++ rest) = (some header.encode, rest) := by
    rw [← header.length_encode, readExact_append]
  have hmagic : header.encode.take 4 = ivfMagic := header.take_encode
  have hden : fromLeBytes (littleEndian 4 header.timebaseDen) = header.timebaseDen := by
    rw [fromLeBytes_littleEndian, Nat.mod_eq_of_lt header.timebaseDen_lt]
  have hnum : fromLeBytes (littleEndian 4 header.timebaseNum) = header.timebaseNum := by
    rw [fromLeBytes_littleEndian, Nat.mod_eq_of_lt header.timebaseNum_lt]
  simp only [readHeader, new, hread, hmagic, ne_eq, not_true_eq_false, if_false,
    header.timebaseDen_encode, header.timebaseNum_encode, hden, hnum, frameDurationOf]

theorem readFrame_encode (duration : Duration) (frame : Ivf.Frame) (rest : Bytes) :
    readFrame ⟨frame.encode ++ rest, true, duration⟩ =
      (.ok ⟨frame.payload, duration⟩, ⟨rest, true, duration⟩) := by
  have hheader : readExact 12 (frame.encode ++ rest) =
      (some frame.sizeAndTime, frame.payload ++ rest) := by
    rw [Ivf.Frame.encode, List.append_assoc, ← frame.length_sizeAndTime, readExact_append]
  have hsize : fromLeBytes (littleEndian 4 frame.payload.length) = frame.payload.length := by
    rw [fromLeBytes_littleEndian, Nat.mod_eq_of_lt frame.payload_lt]
  simp only [readFrame, hheader, frame.take_sizeAndTime, hsize, readExact_append]

theorem yields_frames (duration : Duration) (frames : List Ivf.Frame) :
    Yields nextSample ⟨frames.flatMap Ivf.Frame.encode, true, duration⟩
      (frames.map fun frame => ⟨frame.payload, duration⟩) .file := by
  induction frames with
  | nil =>
      have hshort : readExact 12 ([] : Bytes) = (none, []) := readExact_short (by simp)
      have hfails : nextSample ⟨[], true, duration⟩ =
          (.error .file, ⟨[], true, duration⟩) := by
        simp only [nextSample, if_true, readFrame, hshort]
      exact .stop hfails
  | cons frame frames ih => exact .item (readFrame_encode duration frame _) ih

theorem nextSample_header (header : Ivf.OpenHeader) (rest : Bytes) :
    nextSample (new (header.encode ++ rest)) =
      nextSample ⟨rest, true, frameDurationOf header⟩ := by
  have hheader := readHeader_encode header rest
  simp only [nextSample, if_true]
  rw [hheader]
  rfl

theorem yields_encode (header : Ivf.Header) (frames : List Ivf.Frame) :
    Yields nextSample (new (Ivf.encode header frames))
      (frames.map fun frame => ⟨frame.payload, durationOf header⟩) .file :=
  (yields_frames (durationOf header) frames).of_next_eq (nextSample_header header.opened _)

/-! A stream that stops short gives the frames that are whole. -/

theorem readFrame_cut (duration : Duration) (frame : Ivf.Frame)
    (hcut : room < frame.encode.length) :
    ∃ left, readFrame ⟨frame.encode.take room, true, duration⟩ = (.error .file, left) := by
  by_cases hroom : room < 12
  · have hshort : readExact 12 (frame.encode.take room) = (none, []) :=
      readExact_short (by rw [List.length_take]; omega)
    exact ⟨⟨[], true, duration⟩, by simp only [readFrame, hshort]⟩
  · have hsplit : frame.encode.take room =
        frame.sizeAndTime ++ frame.payload.take (room - 12) := by
      rw [Ivf.Frame.encode, List.take_append, List.take_of_length_le (by simp; omega),
        frame.length_sizeAndTime]
    have hheader : readExact 12 (frame.encode.take room) =
        (some frame.sizeAndTime, frame.payload.take (room - 12)) := by
      rw [hsplit, ← frame.length_sizeAndTime, readExact_append]
    have hsize : fromLeBytes (littleEndian 4 frame.payload.length) = frame.payload.length := by
      rw [fromLeBytes_littleEndian, Nat.mod_eq_of_lt frame.payload_lt]
    have hshort : readExact frame.payload.length (frame.payload.take (room - 12)) =
        (none, []) := by
      rw [frame.length_encode] at hcut
      exact readExact_short (by rw [List.length_take]; omega)
    refine ⟨⟨[], true, duration⟩, ?_⟩
    simp only [readFrame, hheader, frame.take_sizeAndTime, hsize, hshort]

theorem yields_nothing (duration : Duration) :
    Yields nextSample ⟨[], true, duration⟩ [] .file :=
  yields_frames duration []

/-- The frames that lie wholly in the first `room` bytes are those before some
index, and the reader gives just them. -/
theorem yields_frames_cut (duration : Duration) (frames : List Ivf.Frame) (room : Nat) :
    ∃ count, (∀ index < frames.length, index < count ↔
        ((frames.take (index + 1)).flatMap Ivf.Frame.encode).length ≤ room) ∧
      Yields nextSample ⟨(frames.flatMap Ivf.Frame.encode).take room, true, duration⟩
        ((frames.take count).map fun frame => ⟨frame.payload, duration⟩) .file := by
  induction frames generalizing room with
  | nil => exact ⟨0, by simp, by simpa using yields_nothing duration⟩
  | cons frame frames ih =>
      by_cases hfits : frame.encode.length ≤ room
      · obtain ⟨count, hcount, hyields⟩ := ih (room - frame.encode.length)
        refine ⟨count + 1, ?_, ?_⟩
        · intro index hindex
          cases index with
          | zero => simpa using hfits
          | succ index =>
              have hbehind := hcount index (by simpa using hindex)
              rw [List.take_succ_cons, List.flatMap_cons, List.length_append]
              omega
        · have hbytes : ((frame :: frames).flatMap Ivf.Frame.encode).take room =
              frame.encode ++
                (frames.flatMap Ivf.Frame.encode).take (room - frame.encode.length) := by
            rw [List.flatMap_cons, List.take_append, List.take_of_length_le hfits]
          rw [hbytes]
          exact .item (readFrame_encode duration frame _) hyields
      · refine ⟨0, ?_, ?_⟩
        · intro index _
          rw [List.take_succ_cons, List.flatMap_cons, List.length_append]
          omega
        · have hbytes : ((frame :: frames).flatMap Ivf.Frame.encode).take room =
              frame.encode.take room := by
            rw [List.flatMap_cons, List.take_append_of_le_length (Nat.le_of_not_le hfits)]
          obtain ⟨left, hread⟩ := readFrame_cut duration frame (Nat.lt_of_not_le hfits)
          rw [hbytes]
          exact .stop hread

theorem yields_header_cut (header : Ivf.OpenHeader) (hstop : stop < 32) (rest : Bytes) :
    Yields nextSample (new ((header.encode ++ rest).take stop)) [] .file := by
  have hshort : readExact 32 ((header.encode ++ rest).take stop) = (none, []) :=
    readExact_short (by rw [List.length_take]; omega)
  have hfails : (new ((header.encode ++ rest).take stop)).nextSample =
      (.error .file, new []) := by
    simp [nextSample, readHeader, new, hshort]
  exact .stop hfails

/-- Whatever the header holds behind its signature, demuxing undoes muxing, and
of a stream that ends anywhere it gives the frames that end before. -/
theorem demux_stream (header : Ivf.OpenHeader) (frames : List Ivf.Frame) :
    Yields nextSample (new (header.stream frames))
        (frames.map fun frame => ⟨frame.payload, frameDurationOf header⟩) .file ∧
      ∀ stop, ∃ count, (∀ index < frames.length, index < count ↔
          (header.stream (frames.take (index + 1))).length ≤ stop) ∧
        Yields nextSample (new ((header.stream frames).take stop))
          ((frames.take count).map fun frame =>
            ⟨frame.payload, frameDurationOf header⟩) .file := by
  constructor
  · exact (yields_frames (frameDurationOf header) frames).of_next_eq
      (nextSample_header header _)
  · intro stop
    by_cases hstop : stop < 32
    · refine ⟨0, ?_, yields_header_cut header hstop _⟩
      intro index _
      rw [header.length_stream]
      omega
    · obtain ⟨count, hcount, hyields⟩ :=
        yields_frames_cut (frameDurationOf header) frames (stop - 32)
      refine ⟨count, ?_, ?_⟩
      · intro index hindex
        rw [hcount index hindex, header.length_stream]
        omega
      · have hbytes : (header.stream frames).take stop =
            header.encode ++ (frames.flatMap Ivf.Frame.encode).take (stop - 32) := by
          rw [Ivf.OpenHeader.stream, List.take_append,
            List.take_of_length_le (by rw [header.length_encode]; omega),
            header.length_encode]
        rw [hbytes]
        exact hyields.of_next_eq (nextSample_header header _)

/-! Whatever the bytes are, every sample takes some of them. -/

theorem readFrame_bytes_lt {reader left : VP8FrameReader}
    (hread : reader.readFrame = (.ok sample, left)) :
    left.bytes.length < reader.bytes.length := by
  unfold readFrame at hread
  split at hread
  next => simp at hread
  next frameHeader rest hheader =>
    dsimp only at hread
    split at hread
    next => simp at hread
    next frameBytes afterFrame hframe =>
      obtain ⟨_, rfl⟩ := Prod.mk.inj hread
      obtain ⟨hlength, hbytes⟩ := readExact_some hheader
      obtain ⟨_, hrest⟩ := readExact_some hframe
      rw [hbytes, hrest]
      simp only [List.length_append]
      omega

theorem readHeader_bytes_le {reader left : VP8FrameReader}
    (hread : reader.readHeader = (.ok (), left)) :
    left.bytes.length ≤ reader.bytes.length := by
  unfold readHeader at hread
  split at hread
  next => simp at hread
  next ivfHeader rest hheader =>
    split at hread
    · simp at hread
    · obtain ⟨_, rfl⟩ := Prod.mk.inj hread
      obtain ⟨_, hbytes⟩ := readExact_some hheader
      simp [hbytes]

theorem nextSample_bytes_lt {reader left : VP8FrameReader}
    (hnext : reader.nextSample = (.ok sample, left)) :
    left.bytes.length < reader.bytes.length := by
  unfold nextSample at hnext
  split at hnext
  · exact readFrame_bytes_lt hnext
  · split at hnext
    next => simp at hnext
    next hheader =>
      exact Nat.lt_of_lt_of_le (readFrame_bytes_lt hnext) (readHeader_bytes_le hheader)

end VP8FrameReader

end RustTgCalls.Media
