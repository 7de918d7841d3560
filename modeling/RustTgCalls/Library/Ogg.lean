import Mathlib.Data.List.GetD
import Mathlib.Data.List.SplitLengths
import RustTgCalls.Library.Lacing
import RustTgCalls.Library.LittleEndian

namespace Ogg

open Lacing

/-! The Ogg page format: capture pattern, fixed header, segment table, payload. -/

abbrev Byte := UInt8

/-- "OggS" -/
def capturePattern : List Byte := [0x4F, 0x67, 0x67, 0x53]

/-- A page with the header bytes 4..25 left open. -/
structure Page where
  header : List Byte
  segments : List (List Byte)
  header_length : header.length = 22
  segments_le : segments.length ≤ 255
  segment_le : ∀ segment ∈ segments, segment.length ≤ 255

namespace Page

def segmentTable (page : Page) : List Byte :=
  page.segments.map fun segment => UInt8.ofNat segment.length

def payload (page : Page) : List Byte := page.segments.flatten

def fixedHeader (page : Page) : List Byte :=
  capturePattern ++ page.header ++ [UInt8.ofNat page.segments.length]

def encode (page : Page) : List Byte :=
  page.fixedHeader ++ page.segmentTable ++ page.payload

@[simp] theorem length_fixedHeader (page : Page) :
    page.fixedHeader.length = 27 := by
  simp [fixedHeader, capturePattern, page.header_length]

@[simp] theorem length_segmentTable (page : Page) :
    page.segmentTable.length = page.segments.length := by
  simp [segmentTable]

theorem take_fixedHeader (page : Page) :
    page.fixedHeader.take 4 = capturePattern := by
  simp [fixedHeader, capturePattern]

theorem segmentCount_fixedHeader (page : Page) :
    (page.fixedHeader.getD 26 0).toNat = page.segments.length := by
  have hsegments := page.segments_le
  have hlast : page.fixedHeader.getD 26 0 =
      UInt8.ofNat page.segments.length := by
    have hlength : (capturePattern ++ page.header).length = 26 := by
      simp [capturePattern, page.header_length]
    rw [fixedHeader, List.getD_append_right _ _ _ _ (by omega), hlength]
    rfl
  rw [hlast, UInt8.toNat_ofNat']
  omega

theorem toNat_segmentTable (page : Page) :
    page.segmentTable.map UInt8.toNat = page.segments.map List.length := by
  rw [segmentTable, List.map_map]
  apply List.map_congr_left
  intro segment hmem
  have hlength := page.segment_le segment hmem
  simp only [Function.comp, UInt8.toNat_ofNat']
  omega

/-- A capture pattern, a table of the announced length and a payload of the
table's sum are a page. -/
theorem exists_encode {fixed table payload : List Byte} (hfixed : fixed.length = 27)
    (hcapture : fixed.take 4 = capturePattern)
    (htable : table.length = (fixed.getD 26 0).toNat)
    (hpayload : payload.length = (table.map UInt8.toNat).sum) :
    ∃ page : Page, page.encode = fixed ++ table ++ payload := by
  let lengths := table.map UInt8.toNat
  let segments := lengths.splitLengths payload
  have hcount : segments.length = table.length := by
    simp [segments, lengths]
  have hlengths : segments.map List.length = lengths :=
    List.map_splitLengths_length payload lengths (Nat.le_of_eq hpayload.symm)
  have hlast : (fixed.getD 26 0).toNat ≤ 255 := Nat.le_of_lt_succ (UInt8.toNat_lt _)
  have hsegment : ∀ segment ∈ segments, segment.length ≤ 255 := by
    intro segment hmem
    have hmem' : segment.length ∈ lengths := hlengths ▸ List.mem_map_of_mem hmem
    obtain ⟨byte, _, hbyte⟩ := List.mem_map.mp hmem'
    rw [← hbyte]
    exact Nat.le_of_lt_succ byte.toNat_lt
  refine ⟨{
    header := (fixed.drop 4).take 22
    segments := segments
    header_length := by simp [hfixed]
    segments_le := by rw [hcount, htable]; exact hlast
    segment_le := hsegment }, ?_⟩
  have hfront : capturePattern ++ (fixed.drop 4).take 22 ++
      [UInt8.ofNat segments.length] = fixed := by
    have hbyte : UInt8.ofNat segments.length = fixed.getD 26 0 := by
      rw [hcount, htable, UInt8.ofNat_toNat]
    have hend : fixed.drop 26 = [fixed.getD 26 0] := by
      rw [List.drop_eq_getElem_cons (by omega), List.getD_eq_getElem _ _ (by omega),
        List.drop_of_length_le (Nat.le_of_eq hfixed)]
    have hmiddle : (fixed.drop 4).take 22 ++ fixed.drop 26 = fixed.drop 4 := by
      simpa using List.take_append_drop 22 (fixed.drop 4)
    rw [hbyte, ← hend, ← hcapture, List.append_assoc, hmiddle, List.take_append_drop]
  have hsegmentTable : segments.map (fun segment => UInt8.ofNat segment.length) = table := by
    have hbytes : segments.map (fun segment => UInt8.ofNat segment.length) =
        lengths.map UInt8.ofNat := by
      rw [← hlengths, List.map_map]
      rfl
    rw [hbytes]
    simp only [lengths, List.map_map, Function.comp_def, UInt8.ofNat_toNat, List.map_id']
  have hjoined : segments.flatten = payload :=
    List.flatten_splitLengths payload lengths (Nat.le_of_eq hpayload)
  simp only [encode, fixedHeader, Page.segmentTable, Page.payload, hfront, hsegmentTable,
    hjoined]

end Page

def encodePages (pages : List Page) : List Byte :=
  pages.flatMap Page.encode

@[simp] theorem encodePages_nil : encodePages [] = [] := rfl

/-- The pages carry the packets: their segments, read through page borders, are
the packets' lacings with segments of at most 255 bytes. -/
def Muxes (packets : List (List Byte)) (pages : List Page) : Prop :=
  LacesAll 255 packets (pages.flatMap Page.segments)

theorem Muxes.append {first second : List (List Byte)} {before behind : List Page}
    (hfirst : Muxes first before) (hsecond : Muxes second behind) :
    Muxes (first ++ second) (before ++ behind) := by
  unfold Muxes
  rw [List.flatMap_append]
  exact LacesAll.append hfirst hsecond

/-! The fields of the header that make the pages one logical bitstream. -/

def crcBit (crc : UInt32) : UInt32 :=
  if crc &&& 0x80000000 = 0 then crc <<< 1 else (crc <<< 1) ^^^ 0x04C11DB7

def crcByte (crc : UInt32) (byte : Byte) : UInt32 :=
  Nat.repeat crcBit 8 (crc ^^^ (byte.toUInt32 <<< 24))

def crc (bytes : List Byte) : UInt32 := bytes.foldl crcByte 0

/-- The usual check value, of the digits 1 to 9. -/
example : crc ((List.range' 0x31 9).map UInt8.ofNat) = 0x89A1897F := by
  decide +kernel

namespace Page

def version (page : Page) : Byte := page.header.getD 0 0
def flags (page : Page) : Byte := page.header.getD 1 0
def serial (page : Page) : List Byte := (page.header.drop 10).take 4
def sequence (page : Page) : List Byte := (page.header.drop 14).take 4
def checksum (page : Page) : List Byte := (page.header.drop 18).take 4

/-- The page as its checksum sees it, with zeros in the checksum's place. -/
def unchecked (page : Page) : List Byte :=
  capturePattern ++ page.header.take 18 ++ [0, 0, 0, 0] ++
    [UInt8.ofNat page.segments.length] ++ page.segmentTable ++ page.payload

end Page

/-- A packet is left open by the pages. -/
def leftOpen (pages : List Page) : Bool :=
  (unlace 255 [] (pages.flatMap Page.segments)).2 ≠ []

def pageFlags (continued first last : Bool) : Byte :=
  (if continued then 1 else 0) ||| (if first then 2 else 0) ||| (if last then 4 else 0)

/-- The page is the one at the index in a whole logical bitstream of `count`
pages that starts with `before`. -/
structure Placed (serial : List Byte) (count : Nat) (before : List Page) (page : Page) :
    Prop where
  version : page.version = 0
  flags : page.flags =
    pageFlags (leftOpen before) (before = []) (before.length + 1 = count)
  serial : page.serial = serial
  sequence : page.sequence = littleEndian 4 before.length
  checksum : page.checksum = littleEndian 4 (crc page.unchecked).toNat

/-- The page starts inside a packet, by its flags. -/
def Page.Continued (page : Page) : Prop := page.flags &&& 1 ≠ 0

instance (page : Page) : Decidable page.Continued := inferInstanceAs (Decidable (_ ≠ _))

theorem Placed.continued_iff {serial : List Byte} {before : List Page} {page : Page}
    (hplaced : Placed serial count before page) : page.Continued ↔ leftOpen before = true := by
  have hbit (continued first last : Bool) :
      pageFlags continued first last &&& 1 ≠ 0 ↔ continued = true := by
    revert continued first last
    decide
  rw [Page.Continued, hplaced.flags]
  exact hbit _ _ _

namespace Page

def withChecksum (page : Page) : Page where
  header := page.header.take 18 ++ littleEndian 4 (crc page.unchecked).toNat
  segments := page.segments
  header_length := by simp [page.header_length]
  segments_le := page.segments_le
  segment_le := page.segment_le

theorem take_withChecksum (page : Page) :
    page.withChecksum.header.take 18 = page.header.take 18 := by
  simp [withChecksum, page.header_length]

/-- The checksum leaves the fields before it alone, and sees no other. -/
theorem placed_withChecksum {serial : List Byte} {before : List Page} {page : Page}
    (hversion : page.version = 0)
    (hflags : page.flags =
      pageFlags (leftOpen before) (before = []) (before.length + 1 = count))
    (hserial : page.serial = serial)
    (hsequence : page.sequence = littleEndian 4 before.length) :
    Placed serial count before page.withChecksum := by
  have hbyte (index : Nat) (hindex : index < 18) :
      page.withChecksum.header.getD index 0 = page.header.getD index 0 := by
    have htake (bytes : List Byte) : (bytes.take 18).getD index 0 = bytes.getD index 0 := by
      simp [List.getD_eq_getElem?_getD, hindex]
    rw [← htake, take_withChecksum, htake]
  have hfield (start : Nat) (hstart : start + 4 ≤ 18) :
      (page.withChecksum.header.drop start).take 4 = (page.header.drop start).take 4 := by
    have htake (bytes : List Byte) :
        ((bytes.take 18).drop start).take 4 = (bytes.drop start).take 4 := by
      rw [List.drop_take, List.take_take, Nat.min_eq_left (by omega)]
    rw [← htake, take_withChecksum, htake]
  constructor
  · exact (hbyte 0 (by decide)).trans hversion
  · exact (hbyte 1 (by decide)).trans hflags
  · exact (hfield 10 (by decide)).trans hserial
  · exact (hfield 14 (by decide)).trans hsequence
  · have hunchecked : page.withChecksum.unchecked = page.unchecked := by
      rw [unchecked, take_withChecksum]
      rfl
    have hfront : (page.header.take 18).length = 18 := by simp [page.header_length]
    rw [hunchecked, checksum, withChecksum, List.drop_left' hfront,
      List.take_of_length_le (by simp)]

end Page

/-- From the page marked as the first to the one marked as the last. -/
def Bitstream (pages : List Page) : Prop :=
  ∃ serial, ∀ before page behind, pages = before ++ page :: behind →
    Placed serial pages.length before page

/-- A property of every item and those before it, one item at a time. -/
theorem forall_split_cons {α : Type _} {first : α} {rest : List α}
    {property : List α → α → Prop} (hfirst : property [] first)
    (hrest : ∀ before item behind, rest = before ++ item :: behind →
      property (first :: before) item) :
    ∀ before item behind, first :: rest = before ++ item :: behind →
      property before item := by
  intro before item behind hsplit
  cases before with
  | nil =>
      obtain ⟨rfl, _⟩ := List.cons.inj hsplit
      exact hfirst
  | cons other before =>
      obtain ⟨rfl, hbehind⟩ := List.cons.inj hsplit
      exact hrest before item behind hbehind

end Ogg
