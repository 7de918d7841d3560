import RustTgCalls.Library.Ogg
import RustTgCalls.Library.Pull
import RustTgCalls.Media.FrameReader

namespace RustTgCalls.Media

open Lacing Pull

namespace OpusFrameReader

/-! The segment loop collects packets as unlacing does. -/

/-- What the segment loop leaves of a reader once the packets were completed
and `left` was collected of the next one. -/
def afterPackets (reader : OpusFrameReader) (packets : List Bytes)
    (left : Bytes) : OpusFrameReader :=
  { packets.foldl finishPacket { reader with currentPacket := [] } with
    currentPacket := left }

@[simp] theorem finishPacket_currentPacket (reader : OpusFrameReader)
    (pkt collected : Bytes) :
    { reader with currentPacket := collected }.finishPacket pkt =
      { reader.finishPacket pkt with currentPacket := collected } := by
  simp only [finishPacket]
  split
  · rfl
  · split
    · rfl
    · split <;> rfl

theorem afterPackets_cons (reader : OpusFrameReader) (pkt : Bytes)
    (packets : List Bytes) (left : Bytes) :
    reader.afterPackets (pkt :: packets) left =
      (reader.finishPacket pkt).afterPackets packets left := by
  simp only [afterPackets, List.foldl_cons, finishPacket_currentPacket]

/-- Over a payload made of the segments, the loop of a page is `unlace`. -/
theorem foldl_takeSegment (reader : OpusFrameReader) (before : Bytes)
    (segments : List Bytes) (hsegments : ∀ segment ∈ segments, segment.length ≤ 255) :
    ((segments.map fun segment => UInt8.ofNat segment.length).foldl
        (takeSegment (before ++ segments.flatten)) (reader, before.length)).1 =
      reader.afterPackets (unlace 255 reader.currentPacket segments).1
        (unlace 255 reader.currentPacket segments).2 := by
  induction segments generalizing reader before with
  | nil => rfl
  | cons segment rest ih =>
      have hlength : segment.length ≤ 255 := hsegments segment (by simp)
      have hrest : ∀ other ∈ rest, other.length ≤ 255 :=
        fun other hother => hsegments other (by simp [hother])
      have htoNat : (UInt8.ofNat segment.length).toNat = segment.length := by
        rw [UInt8.toNat_ofNat']
        omega
      have hshort : UInt8.ofNat segment.length < 255 ↔ segment.length < 255 := by
        rw [UInt8.lt_iff_toNat_lt, htoNat]
        rfl
      have hpayload : before ++ (segment :: rest).flatten =
          (before ++ segment) ++ rest.flatten := by simp
      have hround : takeSegment ((before ++ segment) ++ rest.flatten)
          (reader, before.length) (UInt8.ofNat segment.length) =
          (if segment.length < 255 then
            { reader with currentPacket := [] }.finishPacket
              (reader.currentPacket ++ segment)
          else
            { reader with currentPacket := reader.currentPacket ++ segment },
          (before ++ segment).length) := by
        simp only [takeSegment, htoNat, hshort]
        by_cases hlt : segment.length < 255 <;> simp [hlt]
      rw [List.map_cons, List.foldl_cons, hpayload, hround]
      by_cases hlt : segment.length < 255
      · rw [if_pos hlt, unlace_short hlt, ih _ _ hrest, afterPackets_cons]
        simp [afterPackets]
      · rw [if_neg hlt, unlace_full hlt, ih _ _ hrest]
        rfl

@[simp] theorem bytes_afterPackets (reader : OpusFrameReader)
    (packets : List Bytes) (left : Bytes) :
    (reader.afterPackets packets left).bytes = reader.bytes := by
  induction packets generalizing reader with
  | nil => rfl
  | cons pkt packets ih => rw [afterPackets_cons, ih, bytes_finishPacket]

@[simp] theorem currentPacket_afterPackets (reader : OpusFrameReader)
    (packets : List Bytes) (left : Bytes) :
    (reader.afterPackets packets left).currentPacket = left := rfl

/-! What comes out of the queue, as a function of the completed packets. -/

def queued : (skippedHeader skippedTags : Bool) → List Bytes → List Bytes
  | _, _, [] => []
  | header, tags, pkt :: packets =>
      if !header ∧ opusHead <+: pkt then queued true tags packets
      else if !tags ∧ opusTags <+: pkt then queued header true packets
      else if pkt ≠ [] then pkt :: queued true true packets
      else queued header tags packets

/-- Filing packets keeps what is still to come: the queue, then what the
remaining packets will add to it. -/
theorem queue_afterPackets (reader : OpusFrameReader)
    (packets : List Bytes) (left : Bytes) (later : List Bytes) :
    (reader.afterPackets packets left).queue ++
        queued (reader.afterPackets packets left).skippedHeader
          (reader.afterPackets packets left).skippedTags later =
      reader.queue ++
        queued reader.skippedHeader reader.skippedTags (packets ++ later) := by
  induction packets generalizing reader with
  | nil => rfl
  | cons pkt packets ih =>
      rw [afterPackets_cons, ih, List.cons_append]
      simp only [finishPacket, queued]
      split
      · rfl
      · split
        · rfl
        · split
          · simp
          · rfl

theorem readPage_encode (reader : OpusFrameReader) (page : Ogg.Page)
    (rest : Bytes) (hbytes : reader.bytes = page.encode ++ rest) :
    reader.readPage =
      (.ok (), { reader with bytes := rest }.afterPackets
        (unlace 255 reader.currentPacket page.segments).1
        (unlace 255 reader.currentPacket page.segments).2) := by
  have hheader : readExact 27 reader.bytes =
      (some page.fixedHeader, page.segmentTable ++ (page.payload ++ rest)) := by
    rw [hbytes, Ogg.Page.encode, List.append_assoc, List.append_assoc,
      ← page.length_fixedHeader, readExact_append]
  have htable : readExact (page.fixedHeader.getD 26 0).toNat
      (page.segmentTable ++ (page.payload ++ rest)) =
      (some page.segmentTable, page.payload ++ rest) := by
    rw [page.segmentCount_fixedHeader, ← page.length_segmentTable,
      readExact_append]
  have hpayload : readExact (page.segmentTable.map UInt8.toNat).sum
      (page.payload ++ rest) = (some page.payload, rest) := by
    have hsize : (page.segmentTable.map UInt8.toNat).sum =
        page.payload.length := by
      rw [page.toNat_segmentTable, Ogg.Page.payload, List.length_flatten]
    rw [hsize, readExact_append]
  have hmagic : page.fixedHeader.take 4 = oggMagic := page.take_fixedHeader
  simp only [readPage, hheader, hmagic, ne_eq, not_true_eq_false, if_false,
    htable, hpayload]
  exact congrArg (Prod.mk _)
    (foldl_takeSegment { reader with bytes := rest } [] page.segments
      page.segment_le)

def sampleOf (pkt : Bytes) : Sample := ⟨pkt, parseOpusPacketDuration pkt⟩

theorem nextSample_queue (reader : OpusFrameReader) (pkt : Bytes)
    (queue : List Bytes) (hqueue : reader.queue = pkt :: queue) :
    reader.nextSample = (.ok (sampleOf pkt), { reader with queue := queue }) := by
  rw [nextSample, hqueue]
  rfl

theorem nextSample_page {reader left : OpusFrameReader}
    (hqueue : reader.queue = []) (hpage : reader.readPage = (.ok (), left)) :
    reader.nextSample = left.nextSample := by
  rw [nextSample, hqueue]
  simp only
  split
  next error _ herror =>
    rw [hpage] at herror
    simp at herror
  next other hother =>
    rw [hpage] at hother
    cases hother
    rfl

theorem nextSample_error {reader left : OpusFrameReader}
    (hqueue : reader.queue = []) (hpage : reader.readPage = (.error error, left)) :
    reader.nextSample = (.error error, left) := by
  rw [nextSample, hqueue]
  simp only
  split
  next _ _ herror =>
    rw [hpage] at herror
    cases herror
    rfl
  next _ hother =>
    rw [hpage] at hother
    simp at hother

theorem drains_queue {reader : OpusFrameReader} (queue : List Bytes)
    (hrest : Drains nextSample { reader with queue := [] } samples error final) :
    Drains nextSample { reader with queue := queue }
      (queue.map sampleOf ++ samples) error final := by
  induction queue with
  | nil => exact hrest
  | cons pkt queue ih => exact .item (nextSample_queue _ pkt queue rfl) ih

/-- A page at the front puts its packets between the queue and those still to
come. -/
theorem drains_page {reader left : OpusFrameReader} {page : Ogg.Page} {rest : Bytes}
    {later : List Bytes} (hbytes : reader.bytes = page.encode ++ rest)
    (hleft : left = { reader with bytes := rest, queue := [] }.afterPackets
      (unlace 255 reader.currentPacket page.segments).1
      (unlace 255 reader.currentPacket page.segments).2)
    (hlater : Drains nextSample left
      ((left.queue ++ queued left.skippedHeader left.skippedTags later).map sampleOf)
      error final) :
    Drains nextSample reader
      ((reader.queue ++ queued reader.skippedHeader reader.skippedTags
        ((unlace 255 reader.currentPacket page.segments).1 ++ later)).map sampleOf)
      error final := by
  have hpage := readPage_encode { reader with queue := [] } page rest hbytes
  rw [hleft, queue_afterPackets] at hlater
  have hdrained := hlater.of_next_eq (nextSample_page rfl hpage)
  have hdrains := drains_queue reader.queue hdrained
  rw [List.map_append]
  exact hdrains

/-- Whatever the pages hold, the reader yields exactly the queued ones among the
packets they complete. -/
theorem yields_encodePages (reader : OpusFrameReader) (pages : List Ogg.Page)
    (hbytes : reader.bytes = Ogg.encodePages pages) :
    Yields nextSample reader
      ((reader.queue ++ queued reader.skippedHeader reader.skippedTags
        (unlace 255 reader.currentPacket
          (pages.flatMap Ogg.Page.segments)).1).map sampleOf) .file := by
  suffices hdrains : ∃ final, Drains nextSample reader
      ((reader.queue ++ queued reader.skippedHeader reader.skippedTags
        (unlace 255 reader.currentPacket
          (pages.flatMap Ogg.Page.segments)).1).map sampleOf) .file final by
    obtain ⟨_, hdrains⟩ := hdrains
    exact hdrains.yields
  induction pages generalizing reader with
  | nil =>
      have hend : { reader with queue := [] }.readPage =
          (.error .file, { reader with bytes := [], queue := [] }) := by
        have hshort : readExact 27 reader.bytes = (none, []) := by
          rw [hbytes]
          exact readExact_short (by simp)
        simp only [readPage, hshort]
      have hstop := drains_queue reader.queue (.stop (nextSample_error rfl hend))
      exact ⟨_, by simpa [queued] using hstop⟩
  | cons page pages ih =>
      let left := { reader with bytes := Ogg.encodePages pages, queue := [] }.afterPackets
        (unlace 255 reader.currentPacket page.segments).1
        (unlace 255 reader.currentPacket page.segments).2
      obtain ⟨final, hlater⟩ := ih left (bytes_afterPackets _ _ _)
      rw [currentPacket_afterPackets] at hlater
      rw [List.flatMap_cons, unlace_append]
      exact ⟨final, drains_page hbytes rfl hlater⟩

theorem queued_nonempty {packets : List Bytes}
    (hpackets : ∀ pkt ∈ packets, pkt ≠ []) :
    queued true true packets = packets := by
  induction packets with
  | nil => rfl
  | cons pkt packets ih =>
      have hpkt := hpackets pkt (by simp)
      have hrest := ih fun other hother => hpackets other (by simp [hother])
      simp [queued, hpkt, hrest]

theorem not_opusHead_of_opusTags (htags : opusTags <+: pkt) :
    ¬ opusHead <+: pkt := by
  intro hhead
  have hsame : opusHead = opusTags :=
    (List.prefix_of_prefix_length_le hhead htags (by decide)).eq_of_length rfl
  exact absurd hsame (by decide)

/-- Demuxing undoes muxing: the two header packets are skipped, every later
packet comes out unchanged and in order, then the end of the stream. -/
theorem demux_mux {head tags : Bytes} {packets : List Bytes}
    {pages : List Ogg.Page} (hhead : opusHead <+: head)
    (htags : opusTags <+: tags) (hpackets : ∀ pkt ∈ packets, pkt ≠ [])
    (hmux : Ogg.Muxes (head :: tags :: packets) pages) :
    Yields nextSample (new (Ogg.encodePages pages))
      (packets.map sampleOf) .file := by
  have hyields := yields_encodePages (new (Ogg.encodePages pages)) pages rfl
  have hpackets : queued false false (head :: tags :: packets) = packets := by
    simp only [queued, hhead, htags, not_opusHead_of_opusTags htags,
      Bool.not_false, Bool.not_true, true_and, if_true, if_false]
    simp [queued_nonempty hpackets]
  have hunlaced : (unlace 255 [] (pages.flatMap Ogg.Page.segments)).1 =
      head :: tags :: packets := by
    rw [unlace_lacesAll hmux]
  simp only [new, hunlaced, hpackets, List.nil_append] at hyields
  exact hyields

/-! Whatever the bytes are, every sample comes out of the queue or takes a page. -/

/-- Fewer bytes, or the same bytes and fewer packets in the queue. -/
def Shorter (left reader : OpusFrameReader) : Prop :=
  Prod.Lex (· < ·) (· < ·) (left.bytes.length, left.queue.length)
    (reader.bytes.length, reader.queue.length)

theorem wellFounded_shorter : WellFounded Shorter :=
  InvImage.wf (fun reader : OpusFrameReader => (reader.bytes.length, reader.queue.length))
    (Prod.lex Nat.lt_wfRel Nat.lt_wfRel).wf

theorem Shorter.bytes_le {left reader : OpusFrameReader} (hshorter : Shorter left reader) :
    left.bytes.length ≤ reader.bytes.length := by
  obtain hbytes | ⟨hbytes, _⟩ := Prod.lex_def.mp hshorter
  · exact Nat.le_of_lt hbytes
  · exact Nat.le_of_eq hbytes

theorem nextSample_shorter {reader left : OpusFrameReader}
    (hnext : reader.nextSample = (.ok sample, left)) : Shorter left reader := by
  cases hqueue : reader.queue with
  | cons pkt queue =>
      rw [nextSample_queue reader pkt queue hqueue] at hnext
      obtain ⟨_, rfl⟩ := Prod.mk.inj hnext
      apply Prod.Lex.right
      simp [hqueue]
  | nil =>
      cases hpage : reader.readPage with
      | mk result paged =>
          cases result with
          | error error =>
              rw [nextSample_error hqueue hpage] at hnext
              cases hnext
          | ok =>
              have hless := readPage_bytes_lt hpage
              rw [nextSample_page hqueue hpage] at hnext
              have hrest := (nextSample_shorter hnext).bytes_le
              exact Prod.Lex.left _ _ (Nat.lt_of_le_of_lt hrest hless)
termination_by reader.bytes.length

theorem nextSample_duration {reader left : OpusFrameReader}
    (hnext : reader.nextSample = (.ok sample, left)) :
    sample.duration = parseOpusPacketDuration sample.data := by
  cases hqueue : reader.queue with
  | cons pkt queue =>
      rw [nextSample_queue reader pkt queue hqueue] at hnext
      cases hnext
      rfl
  | nil =>
      cases hpage : reader.readPage with
      | mk result paged =>
          cases result with
          | error error =>
              rw [nextSample_error hqueue hpage] at hnext
              cases hnext
          | ok =>
              have hless := readPage_bytes_lt hpage
              rw [nextSample_page hqueue hpage] at hnext
              exact nextSample_duration hnext
termination_by reader.bytes.length

def fullSegment : Bytes := List.replicate 255 7

theorem length_fullSegment : fullSegment.length = 255 := List.length_replicate

/-- The header packets share a page and the one audio packet spans two. -/
def spanningPages : List Ogg.Page :=
  [{ header := List.replicate 22 0
     segments := [opusHead, opusTags, fullSegment]
     header_length := rfl
     segments_le := by decide
     segment_le := by simp [opusHead, opusTags, length_fullSegment] },
   { header := List.replicate 22 1
     segments := [[8, 9]]
     header_length := rfl
     segments_le := by decide
     segment_le := by simp }]

theorem spanningPages_muxes :
    Ogg.Muxes [opusHead, opusTags, fullSegment ++ [8, 9]] spanningPages := by
  have hhead : Laces 255 opusHead [opusHead] := .last (by decide)
  have htags : Laces 255 opusTags [opusTags] := .last (by decide)
  have haudio : Laces 255 (fullSegment ++ [8, 9]) [fullSegment, [8, 9]] :=
    .full length_fullSegment (.last (by decide))
  have hall := LacesAll.cons hhead (.cons htags (.cons haudio .nil))
  exact hall

theorem demux_mux_spanning :
    Yields nextSample (new (Ogg.encodePages spanningPages))
      [sampleOf (fullSegment ++ [8, 9])] .file :=
  demux_mux (List.prefix_refl opusHead) (List.prefix_refl opusTags)
    (by simp) spanningPages_muxes

end OpusFrameReader

end RustTgCalls.Media
