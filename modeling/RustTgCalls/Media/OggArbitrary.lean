import RustTgCalls.Media.OggDemux

namespace RustTgCalls.Media

open Lacing Pull

/-! The Opus reader on bytes of any kind: where it stops, what it has consumed by
then and that none of its indices is out of range. -/

/-- `&bytes[start..stop]`, or nothing where that panics. -/
def slice (bytes : Bytes) (start stop : Nat) : Option Bytes :=
  if start ≤ stop ∧ stop ≤ bytes.length then
    some ((bytes.drop start).take (stop - start))
  else
    none

theorem slice_some {bytes : Bytes} (hstart : start ≤ stop) (hstop : stop ≤ bytes.length) :
    slice bytes start stop = some ((bytes.drop start).take (stop - start)) :=
  if_pos ⟨hstart, hstop⟩

namespace OpusFrameReader

/-! The reader with its indices checked. -/

def takeSegmentChecked (payload : Bytes) :
    OpusFrameReader × Nat → UInt8 → Option (OpusFrameReader × Nat)
  | (reader, offset), segLen => do
      let stop := offset + segLen.toNat
      let (collected, offset) ←
        if stop ≤ payload.length then
          (slice payload offset stop).map fun segment =>
            (reader.currentPacket ++ segment, stop)
        else
          some (reader.currentPacket, offset)
      if segLen < 255 then
        some ({ reader with currentPacket := [] }.finishPacket collected, offset)
      else
        some ({ reader with currentPacket := collected }, offset)

/-- The segment table before it is read. -/
def segmentTable : Bytes := List.replicate 255 0

theorem length_segmentTable : segmentTable.length = 255 := List.length_replicate

def readPageChecked (reader : OpusFrameReader) :
    Option (Except RustTgCallsError Unit × OpusFrameReader) :=
  match readExact 27 reader.bytes with
  | (none, rest) => some (.error .file, { reader with bytes := rest })
  | (some header, rest) => do
      let magic ← slice header 0 4
      if magic ≠ oggMagic then
        some (.error (.internal "invalid Ogg magic header"), { reader with bytes := rest })
      else
        let pageSegments ← header[26]?
        let room ← slice segmentTable 0 pageSegments.toNat
        match readExact room.length rest with
        | (none, rest) => some (.error .file, { reader with bytes := rest })
        | (some segSlice, rest) =>
            let payloadSize := (segSlice.map UInt8.toNat).sum
            match readExact payloadSize rest with
            | (none, rest) => some (.error .file, { reader with bytes := rest })
            | (some payload, rest) => do
                let progress ← segSlice.foldlM (takeSegmentChecked payload)
                  ({ reader with bytes := rest }, 0)
                some (.ok (), progress.1)

theorem takeSegmentChecked_eq (payload : Bytes) (progress : OpusFrameReader × Nat)
    (segLen : UInt8) :
    takeSegmentChecked payload progress segLen =
      some (takeSegment payload progress segLen) := by
  obtain ⟨reader, offset⟩ := progress
  simp only [takeSegmentChecked, takeSegment]
  by_cases hstop : offset + segLen.toNat ≤ payload.length
  · rw [if_pos hstop, if_pos hstop, slice_some (by omega) hstop, Nat.add_sub_cancel_left]
    simp only [Option.map_some, Option.bind_eq_bind, Option.bind_some]
    split <;> rfl
  · rw [if_neg hstop, if_neg hstop]
    simp only [Option.bind_eq_bind, Option.bind_some]
    split <;> rfl

theorem foldlM_takeSegmentChecked (payload : Bytes) (progress : OpusFrameReader × Nat)
    (segSlice : Bytes) :
    segSlice.foldlM (takeSegmentChecked payload) progress =
      some (segSlice.foldl (takeSegment payload) progress) := by
  have htotal : takeSegmentChecked payload =
      fun progress segLen => pure (takeSegment payload progress segLen) := by
    funext progress segLen
    exact takeSegmentChecked_eq payload progress segLen
  rw [htotal, List.foldlM_pure]
  rfl

/-- Reading a page never panics. -/
theorem readPageChecked_eq (reader : OpusFrameReader) :
    reader.readPageChecked = some reader.readPage := by
  cases hheader : readExact 27 reader.bytes with
  | mk found rest =>
      cases found with
      | none => simp only [readPageChecked, readPage, hheader]
      | some header =>
          obtain ⟨hlength, _⟩ := readExact_some hheader
          have hmagic : slice header 0 4 = some (header.take 4) := by
            rw [slice_some (Nat.zero_le 4) (by omega), List.drop_zero]
          have hlast : header[26]? = some (header.getD 26 0) := by
            rw [List.getElem?_eq_getElem (by omega), List.getD_eq_getElem _ _ (by omega)]
          have hcount : (header.getD 26 0).toNat ≤ 255 :=
            Nat.le_of_lt_succ (UInt8.toNat_lt _)
          obtain ⟨room, hroom, hroomLength⟩ : ∃ room,
              slice segmentTable 0 (header.getD 26 0).toNat = some room ∧
                room.length = (header.getD 26 0).toNat := by
            refine ⟨_, slice_some (Nat.zero_le _) (by rw [length_segmentTable]; exact hcount), ?_⟩
            rw [List.length_take, List.length_drop, length_segmentTable]
            omega
          simp only [readPageChecked, readPage, hheader, hmagic, hlast, hroom,
            Option.bind_eq_bind, Option.bind_some, hroomLength]
          by_cases hogg : header.take 4 = oggMagic
          · simp only [hogg, ne_eq, not_true_eq_false, if_false]
            cases htable : readExact (header.getD 26 0).toNat rest with
            | mk found afterTable =>
                cases found with
                | none => rfl
                | some segSlice =>
                    cases hpayload : readExact (segSlice.map UInt8.toNat).sum afterTable with
                    | mk found afterPayload =>
                        cases found with
                        | none => simp only [hpayload]
                        | some payload =>
                            simp only [hpayload, foldlM_takeSegmentChecked,
                              Option.bind_some]
          · simp only [hogg, ne_eq, not_false_eq_true, if_true]

def nextSampleChecked (reader : OpusFrameReader) :
    Option (Except RustTgCallsError Sample × OpusFrameReader) :=
  match reader.queue with
  | pkt :: queue =>
      some (.ok ⟨pkt, parseOpusPacketDuration pkt⟩, { reader with queue := queue })
  | [] =>
      match _hpage : reader.readPageChecked with
      | none => none
      | some (.error error, left) => some (.error error, left)
      | some (.ok (), left) => nextSampleChecked left
termination_by reader.bytes.length
decreasing_by
  rw [readPageChecked_eq] at _hpage
  exact readPage_bytes_lt (Option.some.inj _hpage)

/-- Nor does reading a sample. -/
theorem nextSampleChecked_eq (reader : OpusFrameReader) :
    reader.nextSampleChecked = some reader.nextSample := by
  cases hqueue : reader.queue with
  | cons pkt queue =>
      rw [nextSampleChecked, hqueue, nextSample_queue reader pkt queue hqueue]
      rfl
  | nil =>
      have hchecked := reader.readPageChecked_eq
      cases hpage : reader.readPage with
      | mk result left =>
          rw [hpage] at hchecked
          cases result with
          | error error =>
              rw [nextSample_error hqueue hpage, nextSampleChecked, hqueue]
              grind
          | ok =>
              have hless := readPage_bytes_lt hpage
              have hrest := nextSampleChecked_eq left
              rw [nextSample_page hqueue hpage, ← hrest, nextSampleChecked, hqueue]
              grind
termination_by reader.bytes.length

/-! Every page read is a complete one at the front of the bytes. -/

theorem readPage_ok {reader left : OpusFrameReader}
    (hpage : reader.readPage = (.ok (), left)) :
    ∃ page rest, reader.bytes = Ogg.Page.encode page ++ rest := by
  unfold readPage at hpage
  split at hpage
  next => simp at hpage
  next header afterHeader hheader =>
    split at hpage
    · simp at hpage
    · next hmagic =>
        split at hpage
        next => simp at hpage
        next segSlice afterTable htable =>
          dsimp only at hpage
          split at hpage
          next => simp at hpage
          next payload rest hpayload =>
            obtain ⟨hheaderLength, hbytes⟩ := readExact_some hheader
            obtain ⟨htableLength, hafterHeader⟩ := readExact_some htable
            obtain ⟨hpayloadLength, hafterTable⟩ := readExact_some hpayload
            obtain ⟨page, hpage⟩ := Ogg.Page.exists_encode hheaderLength
              (Decidable.not_not.mp hmagic) htableLength hpayloadLength
            refine ⟨page, rest, ?_⟩
            rw [hpage, hbytes, hafterHeader, hafterTable]
            simp only [List.append_assoc]

theorem readPage_error {reader left : OpusFrameReader}
    (hpage : reader.readPage = (.error error, left)) :
    ∃ rest, left = { reader with bytes := rest } := by
  unfold readPage at hpage
  split at hpage
  next rest _ => exact ⟨rest, (Prod.mk.inj hpage).2.symm⟩
  next header afterHeader hheader =>
    split at hpage
    · exact ⟨afterHeader, (Prod.mk.inj hpage).2.symm⟩
    · split at hpage
      next rest _ => exact ⟨rest, (Prod.mk.inj hpage).2.symm⟩
      next segSlice afterTable htable =>
        dsimp only at hpage
        split at hpage
        next rest _ => exact ⟨rest, (Prod.mk.inj hpage).2.symm⟩
        next => simp at hpage

/-! What becomes of the packets the pages complete. -/

/-- The packets are consumed in this order, the two header packets skipped once
each and every other one a sample. -/
inductive Consumed : (skippedHeader skippedTags : Bool) → List Bytes → List Sample → Prop
  | done : Consumed header tags [] []
  | header (opens : opusHead <+: pkt) (rest : Consumed true tags packets samples) :
      Consumed false tags (pkt :: packets) samples
  | tags (opens : opusTags <+: pkt) (rest : Consumed header true packets samples) :
      Consumed header false (pkt :: packets) samples
  | sample (nonempty : pkt ≠ []) (not_header : ¬ (header = false ∧ opusHead <+: pkt))
      (not_tags : ¬ (tags = false ∧ opusTags <+: pkt))
      (rest : Consumed true true packets samples) :
      Consumed header tags (pkt :: packets) (sampleOf pkt :: samples)

theorem consumed_queued (header tags : Bool) (packets : List Bytes) :
    Consumed header tags (packets.filter (· ≠ []))
      ((queued header tags packets).map sampleOf) := by
  induction packets generalizing header tags with
  | nil => exact .done
  | cons pkt packets ih =>
      by_cases hnonempty : pkt = []
      · subst hnonempty
        have hqueued : queued header tags ([] :: packets) = queued header tags packets := by
          simp [queued, opusHead, opusTags]
        rw [hqueued]
        simpa using ih header tags
      · rw [List.filter_cons_of_pos (by simpa using hnonempty), queued]
        split
        next hhead =>
          obtain ⟨hheader, hopens⟩ := hhead
          simp only [Bool.not_eq_true'] at hheader
          subst hheader
          exact .header hopens (ih true tags)
        next hhead =>
          split
          next htags =>
            obtain ⟨htags, hopens⟩ := htags
            simp only [Bool.not_eq_true'] at htags
            subst htags
            exact .tags hopens (ih header true)
          next htags =>
            exact .sample hnonempty (by simpa using hhead) (by simpa using htags)
              (ih true true)

/-- A run of the reader up to the error, with the pages it has gone through and
the bytes that hold no further one. -/
structure Run (reader : OpusFrameReader) where
  pages : List Ogg.Page
  rest : Bytes
  error : RustTgCallsError
  final : OpusFrameReader
  bytes_eq : reader.bytes = Ogg.encodePages pages ++ rest
  no_page : ∀ page more, rest ≠ Ogg.Page.encode page ++ more
  drains : Drains nextSample reader
    ((reader.queue ++ queued reader.skippedHeader reader.skippedTags
      (unlace 255 reader.currentPacket (pages.flatMap Ogg.Page.segments)).1).map sampleOf)
    error final
  currentPacket : final.currentPacket =
    (unlace 255 reader.currentPacket (pages.flatMap Ogg.Page.segments)).2
  queue : final.queue = []

/-- A page before a run. -/
def Run.page {reader : OpusFrameReader} (page : Ogg.Page) {rest : Bytes}
    (hbytes : reader.bytes = page.encode ++ rest)
    (run : Run ({ reader with bytes := rest, queue := [] }.afterPackets
      (unlace 255 reader.currentPacket page.segments).1
      (unlace 255 reader.currentPacket page.segments).2)) : Run reader where
  pages := page :: run.pages
  rest := run.rest
  error := run.error
  final := run.final
  bytes_eq := by
    have hrest : rest = Ogg.encodePages run.pages ++ run.rest := by
      simpa using run.bytes_eq
    calc reader.bytes = page.encode ++ rest := hbytes
      _ = page.encode ++ (Ogg.encodePages run.pages ++ run.rest) := congrArg _ hrest
      _ = Ogg.encodePages (page :: run.pages) ++ run.rest := by
          rw [Ogg.encodePages, Ogg.encodePages, List.flatMap_cons, List.append_assoc]
  no_page := run.no_page
  drains := by
    have hpages := run.drains
    rw [currentPacket_afterPackets] at hpages
    rw [List.flatMap_cons, unlace_append]
    exact drains_page hbytes rfl hpages
  currentPacket := by
    rw [run.currentPacket, currentPacket_afterPackets, List.flatMap_cons, unlace_append]
  queue := run.queue

theorem exists_run (reader : OpusFrameReader) : Nonempty (Run reader) := by
  cases hpage : { reader with queue := [] }.readPage with
  | mk result left =>
      cases result with
      | error error =>
          obtain ⟨rest, hleft⟩ := readPage_error hpage
          refine ⟨{
            pages := []
            rest := reader.bytes
            error := error
            final := left
            bytes_eq := rfl
            no_page := ?_
            drains := ?_
            currentPacket := by rw [hleft]; rfl
            queue := by rw [hleft] }⟩
          · intro page more hbytes
            rw [readPage_encode { reader with queue := [] } page more hbytes] at hpage
            cases hpage
          · have hdrains := drains_queue reader.queue (.stop (nextSample_error rfl hpage))
            simpa [queued] using hdrains
      | ok =>
          obtain ⟨page, rest, hbytes⟩ := readPage_ok hpage
          have hless := readPage_bytes_lt hpage
          have hencode := readPage_encode { reader with queue := [] } page rest hbytes
          obtain ⟨_, hleft⟩ := Prod.mk.inj (hpage.symm.trans hencode)
          obtain ⟨run⟩ := exists_run left
          exact ⟨.page page hbytes (hleft ▸ run)⟩
termination_by reader.bytes.length

/-- The whole account of a byte string. -/
structure Account (bytes : Bytes) where
  pages : List Ogg.Page
  rest : Bytes
  consumed : List Bytes
  samples : List Sample
  error : RustTgCallsError
  final : OpusFrameReader
  /-- The complete pages, and bytes that do not begin with one. -/
  bytes_eq : bytes = Ogg.encodePages pages ++ rest
  no_page : ∀ page more, rest ≠ Ogg.Page.encode page ++ more
  drains : Drains nextSample (new bytes) samples error final
  consumed_samples : Consumed false false consumed samples
  conserved : consumed.flatten ++ final.currentPacket = pages.flatMap Ogg.Page.payload
  queue : final.queue = []

/-- On any bytes the reader comes to an error, with all indices in range, and
every payload byte of the pages it went through is in a packet it consumed or in
the packet still open. -/
theorem reads_anything (bytes : Bytes) :
    (∀ reader : OpusFrameReader, reader.nextSampleChecked = some reader.nextSample) ∧
      Nonempty (Account bytes) := by
  refine ⟨nextSampleChecked_eq, ?_⟩
  obtain ⟨run⟩ := exists_run (new bytes)
  refine ⟨{
    pages := run.pages
    rest := run.rest
    consumed := ((unlace 255 [] (run.pages.flatMap Ogg.Page.segments)).1).filter (· ≠ [])
    samples := _
    error := run.error
    final := run.final
    bytes_eq := run.bytes_eq
    no_page := run.no_page
    drains := run.drains
    consumed_samples := consumed_queued false false _
    conserved := ?_
    queue := run.queue }⟩
  rw [run.currentPacket, List.flatten_filter_ne_nil]
  have hall := @flatten_unlace _ 255 [] (run.pages.flatMap Ogg.Page.segments)
  simp only [new, List.nil_append] at hall ⊢
  rw [hall]
  simp only [List.flatMap, List.flatten_flatten, List.map_map]
  rfl

end OpusFrameReader

end RustTgCalls.Media
