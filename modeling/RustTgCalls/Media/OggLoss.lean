import RustTgCalls.Library.Delimited
import RustTgCalls.Media.EndOfStream

namespace RustTgCalls.Media

open Lacing Pull

namespace OpusFrameReader

/-! Which packets the reader drops: empty ones, and the two header packets as long
as nothing else was given out. -/

/-- The two flags of the reader behind a packet. -/
def headersSkipped : Bool × Bool → Bytes → Bool × Bool
  | (header, tags), pkt =>
      if !header ∧ opusHead <+: pkt then (true, tags)
      else if !tags ∧ opusTags <+: pkt then (header, true)
      else if pkt ≠ [] then (true, true)
      else (header, tags)

def Drops (flags : Bool × Bool) (pkt : Bytes) : Prop :=
  pkt = [] ∨ (!flags.1 ∧ opusHead <+: pkt) ∨ (!flags.2 ∧ opusTags <+: pkt)

instance (flags : Bool × Bool) (pkt : Bytes) : Decidable (Drops flags pkt) :=
  inferInstanceAs (Decidable (_ ∨ _))

@[simp] theorem opusHead_ne_nil : opusHead ≠ [] := by decide

@[simp] theorem opusTags_ne_nil : opusTags ≠ [] := by decide

@[simp] theorem headersSkipped_nil (flags : Bool × Bool) : headersSkipped flags [] = flags := by
  simp [headersSkipped]

@[simp] theorem headersSkipped_both (pkt : Bytes) :
    headersSkipped (true, true) pkt = (true, true) := by
  simp [headersSkipped]

theorem queued_cons (flags : Bool × Bool) (pkt : Bytes) (packets : List Bytes) :
    queued flags.1 flags.2 (pkt :: packets) =
      (if Drops flags pkt then [] else [pkt]) ++
        queued (headersSkipped flags pkt).1 (headersSkipped flags pkt).2 packets := by
  obtain ⟨header, tags⟩ := flags
  by_cases hhead : header = false ∧ opusHead <+: pkt
  · simp [queued, Drops, headersSkipped, hhead]
  · by_cases htags : tags = false ∧ opusTags <+: pkt
    · simp [queued, Drops, headersSkipped, hhead, htags]
    · by_cases hempty : pkt = []
      · simp [queued, Drops, hempty]
      · simp [queued, Drops, headersSkipped, hhead, htags, hempty]

/-- `queued` on the pieces that spell the packets. -/
def queuedPieces {Piece : Type _} (bytes : Piece → Bytes) :
    Bool × Bool → List Piece → List Piece
  | _, [] => []
  | flags, piece :: pieces =>
      (if Drops flags (bytes piece) then [] else [piece]) ++
        queuedPieces bytes (headersSkipped flags (bytes piece)) pieces

theorem map_queuedPieces {Piece : Type _} (bytes : Piece → Bytes) (flags : Bool × Bool)
    (pieces : List Piece) :
    (queuedPieces bytes flags pieces).map bytes =
      queued flags.1 flags.2 (pieces.map bytes) := by
  induction pieces generalizing flags with
  | nil => rfl
  | cons piece pieces ih =>
      rw [queuedPieces, List.map_append, ih, List.map_cons, queued_cons]
      split <;> rfl

theorem mem_queuedPieces_iff {Piece : Type _} {bytes : Piece → Bytes} {flags : Bool × Bool}
    {pieces : List Piece} {piece : Piece} :
    piece ∈ queuedPieces bytes flags pieces ↔
      ∃ before behind, pieces = before ++ piece :: behind ∧
        ¬ Drops ((before.map bytes).foldl headersSkipped flags) (bytes piece) := by
  induction pieces generalizing flags with
  | nil => simp [queuedPieces]
  | cons first pieces ih =>
      rw [queuedPieces, List.mem_append, ih]
      constructor
      · rintro (hmem | ⟨before, behind, rfl, hdrops⟩)
        · split at hmem
          · simp at hmem
          next hdrops =>
            cases List.mem_singleton.mp hmem
            exact ⟨[], pieces, rfl, hdrops⟩
        · exact ⟨first :: before, behind, rfl, hdrops⟩
      · rintro ⟨before, behind, hpieces, hdrops⟩
        cases before with
        | nil =>
            cases hpieces
            have hgiven : ¬ Drops flags (bytes piece) := hdrops
            left
            simp [hgiven]
        | cons other before =>
            cases hpieces
            exact .inr ⟨before, behind, rfl, hdrops⟩

/-- Nothing comes before but empty packets and at most one that starts with the
magic. -/
def OnlyHeader (magic : Bytes) (before : List Bytes) : Prop :=
  (before.filter (· ≠ [])).length ≤ 1 ∧ ∀ pkt ∈ before.filter (· ≠ []), magic <+: pkt

/-- The packet is empty, or it looks like a header packet and has at most the other
one before it. -/
def Skipped (before : List Bytes) (pkt : Bytes) : Prop :=
  pkt = [] ∨ (opusHead <+: pkt ∧ OnlyHeader opusTags before) ∨
    (opusTags <+: pkt ∧ OnlyHeader opusHead before)

theorem foldl_headersSkipped_filter (flags : Bool × Bool) (before : List Bytes) :
    before.foldl headersSkipped flags =
      (before.filter (· ≠ [])).foldl headersSkipped flags := by
  induction before generalizing flags with
  | nil => rfl
  | cons pkt before ih =>
      by_cases hempty : pkt = []
      · simp [hempty, ih]
      · simp [hempty, ih]

theorem foldl_headersSkipped_both (before : List Bytes) :
    before.foldl headersSkipped (true, true) = (true, true) := by
  induction before with
  | nil => rfl
  | cons pkt before ih => rw [List.foldl_cons, headersSkipped_both, ih]

/-- The first packet that is not empty sets a flag, and the second one the other. -/
theorem headersSkipped_second {first second : Bytes} (hfirst : first ≠ [])
    (hsecond : second ≠ []) :
    headersSkipped (headersSkipped (false, false) first) second = (true, true) := by
  by_cases hhead : opusHead <+: first
  · simp [headersSkipped, hhead, hsecond]
  · by_cases htags : opusTags <+: first
    · simp [headersSkipped, hhead, htags, hsecond]
    · simp [headersSkipped, hhead, htags, hfirst]

theorem drops_iff_skipped (before : List Bytes) (pkt : Bytes) :
    Drops (before.foldl headersSkipped (false, false)) pkt ↔ Skipped before pkt := by
  rw [foldl_headersSkipped_filter]
  unfold Drops Skipped OnlyHeader
  have hnonempty : ∀ other ∈ before.filter (· ≠ []), other ≠ [] := by
    intro other hother
    exact of_decide_eq_true (List.mem_filter.mp hother).2
  generalize before.filter (· ≠ []) = others at hnonempty
  match others with
  | [] => simp
  | [first] =>
      have hfirst : first ≠ [] := hnonempty first (by simp)
      by_cases hhead : opusHead <+: first
      · have htags : ¬ opusTags <+: first := fun htags => not_opusHead_of_opusTags htags hhead
        simp [headersSkipped, hhead, htags]
      · by_cases htags : opusTags <+: first
        · simp [headersSkipped, hhead, htags]
        · simp [headersSkipped, hhead, htags, hfirst]
  | first :: second :: rest =>
      have hboth : (first :: second :: rest).foldl headersSkipped (false, false) =
          (true, true) := by
        rw [List.foldl_cons, List.foldl_cons, headersSkipped_second
          (hnonempty first (by simp)) (hnonempty second (by simp)), foldl_headersSkipped_both]
      rw [hboth]
      simp

end OpusFrameReader

/-- A segment, the number of the page it lies on and its place there. -/
structure Segment where
  page : Nat
  place : Nat
  data : Bytes
  deriving DecidableEq, Repr

namespace Segment

/-- It ends a packet. -/
def Ends (segment : Segment) : Prop := segment.data.length < 255

instance : DecidablePred Ends := fun _ => inferInstanceAs (Decidable (_ < _))

/-- It is not on a lost page. -/
def Survives (lost : Finset Nat) (segment : Segment) : Prop := segment.page ∉ lost

instance (lost : Finset Nat) : DecidablePred (Survives lost) :=
  fun _ => inferInstanceAs (Decidable (_ ∉ _))

def bytes (piece : List Segment) : Bytes := piece.flatMap data

theorem bytes_ne_nil {piece : List Segment} (hopen : ∀ segment ∈ piece, ¬ segment.Ends) :
    bytes piece ≠ [] ↔ piece ≠ [] := by
  cases piece with
  | nil => simp [bytes]
  | cons segment rest =>
      have hfull : ¬ segment.data.length < 255 := hopen segment (by simp)
      have hdata : segment.data ≠ [] := by
        intro hempty
        simp [hempty] at hfull
      simp [bytes, hdata]

theorem unlace_data (current segments : List Segment) :
    unlace 255 (bytes current) (segments.map data) =
      ((Delimited.groups Ends current segments).map bytes,
        bytes (Delimited.pending Ends current segments)) :=
  unlace_map (fun _ => Iff.rfl) current segments

/-- The segments on a page with this number. -/
def on (page : Ogg.Page × Nat) : List Segment :=
  page.1.segments.zipIdx.map fun segment => ⟨page.2, segment.2, segment.1⟩

@[simp] theorem map_data_on (page : Ogg.Page × Nat) :
    (on page).map data = page.1.segments := by
  simp [on, Function.comp_def]

theorem page_of_mem_on {page : Ogg.Page × Nat} {segment : Segment}
    (hmem : segment ∈ on page) : segment.page = page.2 := by
  obtain ⟨_, _, rfl⟩ := List.mem_map.mp hmem
  rfl

theorem map_data_flatMap_on (pages : List (Ogg.Page × Nat)) :
    (pages.flatMap on).map data = (pages.map Prod.fst).flatMap Ogg.Page.segments := by
  simp [List.map_flatMap, List.flatMap_map]

theorem nodup_flatMap_on {pages : List (Ogg.Page × Nat)}
    (hnumbers : (pages.map Prod.snd).Nodup) : (pages.flatMap on).Nodup := by
  rw [List.nodup_flatMap]
  constructor
  · intro page _
    apply List.Nodup.map _ (List.Nodup.of_map Prod.snd (List.nodup_zipIdx_map_snd _))
    rintro ⟨data, place⟩ ⟨data', place'⟩ hsame
    cases hsame
    rfl
  · rw [List.Nodup, List.pairwise_map] at hnumbers
    apply hnumbers.imp
    intro first second hdifferent segment hfirst hsecond
    exact hdifferent ((page_of_mem_on hfirst).symm.trans (page_of_mem_on hsecond))

/-- Losing a page loses the segments on it. -/
theorem filter_flatMap_on (lost : Finset Nat) (pages : List (Ogg.Page × Nat)) :
    (pages.flatMap on).filter (Survives lost) =
      (pages.filter fun page => page.2 ∉ lost).flatMap on := by
  induction pages with
  | nil => rfl
  | cons page pages ih =>
      rw [List.flatMap_cons, List.filter_append, ih]
      by_cases hlost : page.2 ∈ lost
      · have hnone : (on page).filter (Survives lost) = [] := by
          simp only [List.filter_eq_nil_iff, decide_eq_true_eq]
          intro segment hmem
          simp [Survives, page_of_mem_on hmem, hlost]
        simp [hnone, hlost]
      · have hall : (on page).filter (Survives lost) = on page := by
          simp only [List.filter_eq_self, decide_eq_true_eq]
          intro segment hmem
          simp [Survives, page_of_mem_on hmem, hlost]
        simp [hall, hlost]

/-- A segment's place in the stream, page by page. -/
theorem exists_page {pages : List (Ogg.Page × Nat)} {front back : List Segment}
    {segment : Segment} (hsplit : pages.flatMap on = front ++ segment :: back) :
    ∃ before page behind earlier later, pages = before ++ page :: behind ∧
      on page = earlier ++ segment :: later ∧ front = before.flatMap on ++ earlier ∧
      back = later ++ behind.flatMap on := by
  induction pages generalizing front with
  | nil => simp at hsplit
  | cons first pages ih =>
      rw [List.flatMap_cons, List.append_eq_append_iff] at hsplit
      obtain ⟨middle, rfl, hrest⟩ | ⟨middle, hfirst, hrest⟩ := hsplit
      · obtain ⟨before, page, behind, earlier, later, rfl, hpage, rfl, rfl⟩ := ih hrest
        exact ⟨first :: before, page, behind, earlier, later, rfl, hpage, by simp, rfl⟩
      · cases middle with
        | nil =>
            obtain ⟨before, page, behind, earlier, later, rfl, hpage, hfront, rfl⟩ :=
              @ih [] (by simpa using hrest.symm)
            exact ⟨first :: before, page, behind, earlier, later, rfl, hpage,
              by simp [hfirst, hfront], rfl⟩
        | cons other middle =>
            obtain ⟨rfl, rfl⟩ := List.cons.inj hrest
            exact ⟨[], first, pages, front, middle, rfl, hfirst, rfl, rfl⟩

end Segment

/-- A whole Ogg/Opus stream. -/
structure OggOpus where
  head : Bytes
  tags : Bytes
  packets : List Bytes
  first : Ogg.Page
  tagsPages : List Ogg.Page
  audioPages : List Ogg.Page
  head_opus : opusHead <+: head
  tags_opus : opusTags <+: tags
  packets_nonempty : ∀ pkt ∈ packets, pkt ≠ []
  head_page : Ogg.Muxes [head] [first]
  tags_pages : Ogg.Muxes [tags] tagsPages
  audio_pages : Ogg.Muxes packets audioPages
  whole : Ogg.Bitstream ([first] ++ (tagsPages ++ audioPages))

namespace OggOpus

open Delimited Segment

def pages (stream : OggOpus) : List Ogg.Page :=
  [stream.first] ++ (stream.tagsPages ++ stream.audioPages)

def originals (stream : OggOpus) : List Bytes := stream.head :: stream.tags :: stream.packets

theorem wellFormed (stream : OggOpus) :
    WellFormed .ogg (Ogg.encodePages stream.pages)
      (stream.packets.map OpusFrameReader.sampleOf) :=
  .ogg stream.head_opus stream.tags_opus stream.packets_nonempty stream.head_page
    stream.tags_pages stream.audio_pages stream.whole

theorem muxes (stream : OggOpus) : Ogg.Muxes stream.originals stream.pages :=
  stream.head_page.append (stream.tags_pages.append stream.audio_pages)

def numbered (stream : OggOpus) : List (Ogg.Page × Nat) := stream.pages.zipIdx

def segments (stream : OggOpus) : List Segment := stream.numbered.flatMap Segment.on

/-- The segments of every packet of the stream. -/
def packetSegments (stream : OggOpus) : List (List Segment) := groups Ends [] stream.segments

theorem map_fst_numbered (stream : OggOpus) : stream.numbered.map Prod.fst = stream.pages := by
  simp [numbered]

theorem nodup_segments (stream : OggOpus) : stream.segments.Nodup :=
  nodup_flatMap_on (List.nodup_zipIdx_map_snd _)

theorem map_bytes_packetSegments (stream : OggOpus) :
    stream.packetSegments.map bytes = stream.originals := by
  have hunlaced := unlace_data [] stream.segments
  rw [segments, map_data_flatMap_on, map_fst_numbered] at hunlaced
  have hmux := unlace_lacesAll stream.muxes
  exact (congrArg Prod.fst hunlaced).symm.trans (congrArg Prod.fst hmux)

/-! Some of the pages are lost. -/

/-- The pages that are left. -/
def survivors (lost : Finset Nat) (pages : List (Ogg.Page × Nat)) : List Ogg.Page :=
  (pages.filter fun page => page.2 ∉ lost).map Prod.fst

def without (stream : OggOpus) (lost : Finset Nat) : List Ogg.Page :=
  survivors lost stream.numbered

/-- The packets the pages complete, and what they leave of the one still open. -/
def collected (pages : List Ogg.Page) : List Bytes × Bytes :=
  unlace 255 [] (pages.flatMap Ogg.Page.segments)

theorem map_data_filter (lost : Finset Nat) (pages : List (Ogg.Page × Nat)) :
    ((pages.flatMap Segment.on).filter (Survives lost)).map data =
      (survivors lost pages).flatMap Ogg.Page.segments := by
  rw [filter_flatMap_on, map_data_flatMap_on]
  rfl

theorem collected_survivors (lost : Finset Nat) (pages : List (Ogg.Page × Nat)) :
    collected (survivors lost pages) =
      ((groups Ends [] ((pages.flatMap Segment.on).filter (Survives lost))).map bytes,
        bytes (carried Ends (Survives lost) (pages.flatMap Segment.on))) := by
  rw [collected, ← map_data_filter]
  exact unlace_data [] _

/-- The segments each sample is made of: those the surviving pages put together, but
for the pieces the reader drops. -/
def sampleSegments (stream : OggOpus) (lost : Finset Nat) : List (List Segment) :=
  OpusFrameReader.queuedPieces bytes (false, false)
    (groups Ends [] (stream.segments.filter (Survives lost)))

theorem yields_without (stream : OggOpus) (lost : Finset Nat) :
    Yields OpusFrameReader.nextSample (.new (Ogg.encodePages (stream.without lost)))
      ((stream.sampleSegments lost).map fun piece => OpusFrameReader.sampleOf (bytes piece))
      .file := by
  have hyields := OpusFrameReader.yields_encodePages
    (.new (Ogg.encodePages (stream.without lost))) (stream.without lost) rfl
  have hpackets := congrArg Prod.fst (collected_survivors lost stream.numbered)
  have hsamples := OpusFrameReader.map_queuedPieces bytes (false, false)
    (groups Ends [] (stream.segments.filter (Survives lost)))
  rw [← Function.comp_def, ← List.map_map, sampleSegments, hsamples]
  change (unlace 255 [] ((stream.without lost).flatMap Ogg.Page.segments)).1 = _ at hpackets
  simp only [OpusFrameReader.new, List.nil_append, hpackets] at hyields
  exact hyields

theorem survives_of_mem {stream : OggOpus} {lost : Finset Nat} {piece : List Segment}
    (hpiece : piece ∈ stream.sampleSegments lost) :
    ∀ segment ∈ piece, segment.page ∉ lost := by
  obtain ⟨before, behind, hpieces, _⟩ := OpusFrameReader.mem_queuedPieces_iff.mp hpiece
  obtain ⟨front, last, back, hfilter, _, _, rfl⟩ := exists_of_groups hpieces
  intro segment hmem
  have hleft : segment ∈ stream.segments.filter (Survives lost) := by
    rw [hfilter]
    obtain hmem | hlast := List.mem_append.mp hmem
    · exact List.mem_append_left _ (pending_subset front hmem)
    · simp [List.mem_singleton.mp hlast]
  exact of_decide_eq_true (List.mem_filter.mp hleft).2

/-- Every sample the reader gives of the surviving pages is made of the segments of
one packet, all of them and no other, and their pages are all there. -/
structure Unspliced (stream : OggOpus) (lost : Finset Nat) : Prop where
  samples : Yields OpusFrameReader.nextSample (.new (Ogg.encodePages (stream.without lost)))
    ((stream.sampleSegments lost).map fun piece => OpusFrameReader.sampleOf (bytes piece))
    .file
  in_full : ∀ piece ∈ stream.sampleSegments lost, piece ∈ stream.packetSegments
  present : ∀ piece ∈ stream.sampleSegments lost, ∀ segment ∈ piece, segment.page ∉ lost

theorem Unspliced.forall_sample {stream : OggOpus} {lost : Finset Nat}
    (hunspliced : stream.Unspliced lost) :
    ∃ samples, Yields OpusFrameReader.nextSample
        (.new (Ogg.encodePages (stream.without lost))) samples .file ∧
      ∀ sample ∈ samples, sample.data ∈ stream.originals := by
  refine ⟨_, hunspliced.samples, ?_⟩
  intro sample hmem
  obtain ⟨piece, hpiece, rfl⟩ := List.mem_map.mp hmem
  rw [← map_bytes_packetSegments]
  exact List.mem_map_of_mem (hunspliced.in_full piece hpiece)

/-- Reading goes on at the page behind a loss: it survives, and the segment in front
of its first one does not. -/
structure Resumes (stream : OggOpus) (lost : Finset Nat) (before : List (Ogg.Page × Nat))
    (page : Ogg.Page × Nat) (behind : List (Ogg.Page × Nat)) : Prop where
  split : stream.numbered = before ++ page :: behind
  survives : page.2 ∉ lost
  nonempty : page.1.segments ≠ []
  loss : ∃ last ∈ (before.flatMap Segment.on).getLast?, last.page ∈ lost

/-- Behind a loss, the page's flags say that no packet is continued and the pages
before left none open.  Otherwise the piece put together there, if a packet still ends,
is one the reader skips. -/
def Harmless (stream : OggOpus) (lost : Finset Nat) : Prop :=
  ∀ before page behind, stream.Resumes lost before page behind →
    (page.1.Continued ∨ Ogg.leftOpen (survivors lost before) = true) →
    ∀ joined ∈ (unlace 255 (collected (survivors lost before)).2
        ((survivors lost (page :: behind)).flatMap Ogg.Page.segments)).1.head?,
      OpusFrameReader.Skipped (collected (survivors lost before)).1 joined

theorem in_full_iff (stream : OggOpus) (lost : Finset Nat) :
    (∀ piece ∈ stream.sampleSegments lost, piece ∈ stream.packetSegments) ↔
      ∀ before piece behind,
        groups Ends [] (stream.segments.filter (Survives lost)) = before ++ piece :: behind →
        piece ∈ stream.packetSegments ∨
          OpusFrameReader.Skipped (before.map bytes) (bytes piece) := by
  constructor
  · intro hfull before piece behind hpieces
    by_cases hskipped : OpusFrameReader.Skipped (before.map bytes) (bytes piece)
    · exact .inr hskipped
    · rw [← OpusFrameReader.drops_iff_skipped] at hskipped
      exact .inl (hfull piece (OpusFrameReader.mem_queuedPieces_iff.mpr
        ⟨before, behind, hpieces, hskipped⟩))
  · intro hfull piece hmem
    obtain ⟨before, behind, hpieces, hdrops⟩ :=
      OpusFrameReader.mem_queuedPieces_iff.mp hmem
    rw [OpusFrameReader.drops_iff_skipped] at hdrops
    exact (hfull before piece behind hpieces).resolve_right hdrops

/-- The pages at which reading resumes are those whose first segment is behind a
lost one. -/
theorem Resumes.seam {stream : OggOpus} {lost : Finset Nat}
    {before behind : List (Ogg.Page × Nat)} {page : Ogg.Page × Nat}
    (hresumes : stream.Resumes lost before page behind) :
    ∃ segment later, Segment.on page = segment :: later ∧
      Seam (Survives lost) stream.segments (before.flatMap Segment.on) segment
        (later ++ behind.flatMap Segment.on) := by
  cases hon : Segment.on page with
  | nil =>
      have hsegments := map_data_on page
      rw [hon] at hsegments
      exact absurd hsegments.symm hresumes.nonempty
  | cons segment later =>
      have hpage : segment.page = page.2 := page_of_mem_on (by simp [hon])
      obtain ⟨last, hlast, hlost⟩ := hresumes.loss
      refine ⟨segment, later, rfl, ?_, ?_, last, hlast, not_not_intro hlost⟩
      · rw [segments, hresumes.split, List.flatMap_append, List.flatMap_cons, hon]
        rfl
      · rw [Survives, hpage]
        exact hresumes.survives

theorem exists_resumes {stream : OggOpus} {lost : Finset Nat} {front back : List Segment}
    {segment : Segment} (hseam : Seam (Survives lost) stream.segments front segment back) :
    ∃ before page behind, stream.Resumes lost before page behind ∧
      front = before.flatMap Segment.on ∧
      segment :: back = (page :: behind).flatMap Segment.on := by
  obtain ⟨before, page, behind, earlier, later, hnumbered, hon, rfl, rfl⟩ :=
    exists_page hseam.split
  have hpage : segment.page = page.2 := page_of_mem_on (by simp [hon])
  have hsurvives : page.2 ∉ lost := hpage ▸ hseam.item_kept
  obtain ⟨last, hlast, herased⟩ := hseam.last_erased
  -- segments of one page are lost together, so the seam is at the page's start
  obtain rfl | ⟨others, other, rfl⟩ := earlier.eq_nil_or_concat'
  · rw [List.append_nil] at hlast
    refine ⟨before, page, behind, ⟨hnumbered, hsurvives, ?_, last, hlast, ?_⟩, by simp, ?_⟩
    · rw [← map_data_on, hon]
      simp
    · exact not_not.mp herased
    · rw [List.flatMap_cons, hon]
      rfl
  · rw [← List.append_assoc, List.getLast?_concat, Option.mem_some_iff] at hlast
    subst hlast
    have hother : other.page = page.2 := page_of_mem_on (by simp [hon])
    rw [Survives, hother] at herased
    exact absurd hsurvives herased

theorem continued_iff {stream : OggOpus} {lost : Finset Nat}
    {before behind : List (Ogg.Page × Nat)} {page : Ogg.Page × Nat}
    (hresumes : stream.Resumes lost before page behind) :
    page.1.Continued ↔ pending Ends [] (before.flatMap Segment.on) ≠ [] := by
  have hpages : stream.pages = before.map Prod.fst ++ page.1 :: behind.map Prod.fst := by
    rw [← map_fst_numbered, hresumes.split]
    simp
  obtain ⟨serial, hplaced⟩ := stream.whole
  rw [(hplaced _ _ _ hpages).continued_iff, Ogg.leftOpen, decide_eq_true_iff,
    ← map_data_flatMap_on]
  have hunlaced := congrArg Prod.snd (unlace_data [] (before.flatMap Segment.on))
  change (unlace 255 [] _).2 = _ at hunlaced
  rw [hunlaced, bytes_ne_nil fun segment => not_ends_of_mem_pending]

theorem leftOpen_survivors_iff (lost : Finset Nat) (before : List (Ogg.Page × Nat)) :
    Ogg.leftOpen (survivors lost before) = true ↔
      carried Ends (Survives lost) (before.flatMap Segment.on) ≠ [] := by
  have hcollected := congrArg Prod.snd (collected_survivors lost before)
  rw [Ogg.leftOpen, decide_eq_true_iff]
  change (collected (survivors lost before)).2 ≠ [] ↔ _
  rw [hcollected]
  exact bytes_ne_nil fun segment => not_ends_of_mem_pending

/-- What is put together behind a loss, in segments and in bytes. -/
theorem forall_joined_iff (lost : Finset Nat) (before after : List (Ogg.Page × Nat)) :
    (∀ joined ∈ (unlace 255 (collected (survivors lost before)).2
        ((survivors lost after).flatMap Ogg.Page.segments)).1.head?,
      OpusFrameReader.Skipped (collected (survivors lost before)).1 joined) ↔
    ∀ piece ∈ (groups Ends (carried Ends (Survives lost) (before.flatMap Segment.on))
        ((after.flatMap Segment.on).filter (Survives lost))).head?,
      OpusFrameReader.Skipped
        ((groups Ends [] ((before.flatMap Segment.on).filter (Survives lost))).map bytes)
        (bytes piece) := by
  rw [collected_survivors, ← map_data_filter, unlace_data]
  simp

/-- The samples are packets of the stream in full exactly if every loss is harmless. -/
theorem unspliced_iff (stream : OggOpus) (lost : Finset Nat) :
    stream.Unspliced lost ↔ stream.Harmless lost := by
  have hpieces := @forall_mem_or_iff _ Ends _ (Survives lost) _ _ stream.nodup_segments
    fun before piece => OpusFrameReader.Skipped (before.map bytes) (bytes piece)
  have hfull := (stream.in_full_iff lost).trans hpieces
  constructor
  · intro hunspliced before page behind hresumes hopen
    obtain ⟨segment, later, hon, hseam⟩ := hresumes.seam
    rw [continued_iff hresumes, leftOpen_survivors_iff] at hopen
    have hskipped := hfull.mp hunspliced.in_full _ _ _ hseam hopen
    rw [forall_joined_iff, List.flatMap_cons, hon]
    exact hskipped
  · intro hharmless
    refine ⟨stream.yields_without lost, hfull.mpr ?_, fun _ => survives_of_mem⟩
    intro front segment back hseam hopen
    obtain ⟨before, page, behind, hresumes, rfl, hrest⟩ := exists_resumes hseam
    rw [← continued_iff hresumes, ← leftOpen_survivors_iff] at hopen
    have hskipped := hharmless _ _ _ hresumes hopen
    rw [forall_joined_iff] at hskipped
    rw [hrest]
    exact hskipped

/-! A stream with a page that ends one packet and starts another. -/

def headPacket : Bytes := opusHead ++ [1, 1, 0x38, 1, 0x80, 0xBB, 0, 0, 0, 0, 0]

def tagsPacket : Bytes := opusTags ++ [0, 0, 0, 0, 0, 0, 0, 0]

def filled (toc : UInt8) : Bytes := List.replicate 255 toc

theorem length_filled (toc : UInt8) : (filled toc).length = 255 := List.length_replicate

def pageOf (flags number : UInt8) (granule : Bytes) (segments : List Bytes)
    (hgranule : granule.length = 8) (hcount : segments.length ≤ 255)
    (hlengths : ∀ segment ∈ segments, segment.length ≤ 255) : Ogg.Page where
  header := [0, flags] ++ granule ++ [1, 0, 0, 0] ++ [number, 0, 0, 0] ++ [0, 0, 0, 0]
  segments := segments
  header_length := by simp [hgranule]
  segments_le := hcount
  segment_le := hlengths

def headPage : Ogg.Page :=
  (pageOf 2 0 (List.replicate 8 0) [headPacket] rfl (by decide) (by decide)).withChecksum

def tagsPage : Ogg.Page :=
  (pageOf 0 1 (List.replicate 8 0) [tagsPacket] rfl (by decide) (by decide)).withChecksum

def openingPage : Ogg.Page :=
  (pageOf 0 2 (List.replicate 8 0xFF) [filled 8] rfl (by decide)
    (by simp [length_filled])).withChecksum

def sharedPage : Ogg.Page :=
  (pageOf 1 3 [0xC0, 3, 0, 0, 0, 0, 0, 0] [[1, 2], filled 0x48] rfl (by decide)
    (by simp [length_filled])).withChecksum

def closingPage : Ogg.Page :=
  (pageOf 5 4 [0x80, 7, 0, 0, 0, 0, 0, 0] [[3]] rfl (by decide) (by decide)).withChecksum

@[simp] theorem segments_headPage : headPage.segments = [headPacket] := rfl

@[simp] theorem segments_tagsPage : tagsPage.segments = [tagsPacket] := rfl

@[simp] theorem segments_openingPage : openingPage.segments = [filled 8] := rfl

@[simp] theorem segments_sharedPage : sharedPage.segments = [[1, 2], filled 0x48] := rfl

@[simp] theorem segments_closingPage : closingPage.segments = [[3]] := rfl

theorem placed_headPage : Ogg.Placed [1, 0, 0, 0] 5 [] headPage :=
  Ogg.Page.placed_withChecksum rfl (by decide) rfl rfl

theorem placed_tagsPage : Ogg.Placed [1, 0, 0, 0] 5 [headPage] tagsPage :=
  Ogg.Page.placed_withChecksum rfl (by decide) rfl rfl

theorem placed_openingPage : Ogg.Placed [1, 0, 0, 0] 5 [headPage, tagsPage] openingPage :=
  Ogg.Page.placed_withChecksum rfl (by decide) rfl rfl

theorem placed_sharedPage :
    Ogg.Placed [1, 0, 0, 0] 5 [headPage, tagsPage, openingPage] sharedPage :=
  Ogg.Page.placed_withChecksum rfl (by decide +kernel) rfl rfl

theorem placed_closingPage :
    Ogg.Placed [1, 0, 0, 0] 5 [headPage, tagsPage, openingPage, sharedPage] closingPage :=
  Ogg.Page.placed_withChecksum rfl (by decide +kernel) rfl rfl

theorem laces_first : Laces 255 (filled 8 ++ [1, 2]) [filled 8, [1, 2]] :=
  .full (length_filled 8) (.last (by decide))

theorem laces_second : Laces 255 (filled 0x48 ++ [3]) [filled 0x48, [3]] :=
  .full (length_filled 0x48) (.last (by decide))

theorem muxes_audio : Ogg.Muxes [filled 8 ++ [1, 2], filled 0x48 ++ [3]]
    [openingPage, sharedPage, closingPage] := by
  have hall := LacesAll.cons laces_first (.cons laces_second .nil)
  simpa [Ogg.Muxes] using hall

theorem placed_sharing : ∀ before page behind,
    [headPage, tagsPage, openingPage, sharedPage, closingPage] =
      before ++ page :: behind → Ogg.Placed [1, 0, 0, 0] 5 before page := by
  refine Ogg.forall_split_cons placed_headPage ?_
  refine Ogg.forall_split_cons placed_tagsPage ?_
  refine Ogg.forall_split_cons placed_openingPage ?_
  refine Ogg.forall_split_cons placed_sharedPage ?_
  refine Ogg.forall_split_cons placed_closingPage ?_
  simp

theorem bitstream_sharing :
    Ogg.Bitstream ([headPage] ++ ([tagsPage] ++ [openingPage, sharedPage, closingPage])) := by
  refine ⟨[1, 0, 0, 0], ?_⟩
  simp only [List.cons_append, List.nil_append, List.length_cons, List.length_nil]
  exact placed_sharing

theorem muxes_head : Ogg.Muxes [headPacket] [headPage] := .cons (.last (by decide)) .nil

theorem muxes_tags : Ogg.Muxes [tagsPacket] [tagsPage] := .cons (.last (by decide)) .nil

/-- Two packets of audio on three pages, the middle one shared. -/
def sharing : OggOpus where
  head := headPacket
  tags := tagsPacket
  packets := [filled 8 ++ [1, 2], filled 0x48 ++ [3]]
  first := headPage
  tagsPages := [tagsPage]
  audioPages := [openingPage, sharedPage, closingPage]
  head_opus := List.prefix_append _ _
  tags_opus := List.prefix_append _ _
  packets_nonempty := by simp
  head_page := muxes_head
  tags_pages := muxes_tags
  audio_pages := muxes_audio
  whole := bitstream_sharing

/-- Once the shared page is lost, the first packet's start is joined to the second
one's end. -/
theorem sharing_spliced :
    ∃ sample, Yields OpusFrameReader.nextSample
        (.new (Ogg.encodePages (sharing.without {3}))) [sample] .file ∧
      sample.data ∉ sharing.originals := by
  have hleft : sharing.without {3} = [headPage, tagsPage, openingPage, closingPage] := by
    simp [without, survivors, numbered, pages, sharing]
  have hspliced : Laces 255 (filled 8 ++ [3]) [filled 8, [3]] :=
    .full (length_filled 8) (.last (by decide))
  have hmux : Ogg.Muxes [headPacket, tagsPacket, filled 8 ++ [3]]
      [headPage, tagsPage, openingPage, closingPage] := by
    have haudio : Ogg.Muxes [filled 8 ++ [3]] [openingPage, closingPage] := by
      have hall := LacesAll.cons hspliced .nil
      simpa [Ogg.Muxes] using hall
    exact sharing.head_page.append (sharing.tags_pages.append haudio)
  refine ⟨OpusFrameReader.sampleOf (filled 8 ++ [3]), ?_, ?_⟩
  · rw [hleft]
    exact OpusFrameReader.demux_mux sharing.head_opus sharing.tags_opus (by simp) hmux
  · decide +kernel

end OggOpus

end RustTgCalls.Media
