import RustTgCalls.Media.OggLoss
import RustTgCalls.Wrtc.Counting

namespace RustTgCalls.Instances

open Transition Media Wrtc
open RtpSender (packetsOf transmitted maxVp8Payload)

/-! The two streamers of a source from the bytes of its containers to the packets on
the wire, with their four tasks, the calls in flight and the timer of the worker in
any order. -/

structure Broadcast (Payloader : Type _) where
  legs : StreamType → Playing ReaderKind
  flight : InFlight Payloader

namespace Broadcast

variable {Payloader : Type _}

inductive Action where
  | leg (kind : StreamType) (action : Playing.Action)
  | call (kind : StreamType) (readings : Readings) (taken : Bool)
  | rtcpTimer (ntp : UInt64)

def containerOf : StreamType → Container
  | .audio => .ogg
  | .video => .ivf

def new (sender : RtpSender Payloader) (bytes : StreamType → Bytes) (onEnd : Bool) :
    Broadcast Payloader where
  legs := fun kind => .new ((containerOf kind).reader (bytes kind)) true onEnd
  flight := .new sender

def play (broadcast : Broadcast Payloader) (kind : StreamType) (action : Playing.Action) :
    Broadcast Payloader :=
  { broadcast with
    legs := Function.update broadcast.legs kind
      ((broadcast.legs kind).next ReaderKind.nextSample action) }

/-- The barrier lets both legs go once both wait at it. -/
def meet (broadcast : Broadcast Payloader) : Broadcast Payloader :=
  if (broadcast.legs .audio).leg.waits && (broadcast.legs .video).leg.waits then
    (broadcast.play .audio .release).play .video .release
  else broadcast

/-- The pacing task awaits `send_rtp_bytes` before its next step. -/
def pace (broadcast : Broadcast Payloader) (kind : StreamType) (input : PacingInput) :
    Broadcast Payloader :=
  match broadcast.flight.calls kind with
  | .idle =>
      let played := broadcast.play kind (.pacing input)
      match Playing.passing (broadcast.legs kind).leg with
      | some sample => { played with flight := played.flight.send kind sample }
      | none => played
  | _ => broadcast

section Payloader

variable (payloader : Payloader → Nat → Bytes → List Bytes × Payloader)

def next (broadcast : Broadcast Payloader) : Action → Broadcast Payloader
  | .leg kind (.pacing input) => (broadcast.pace kind input).meet
  | .leg _ .release => broadcast
  | .leg kind action => broadcast.play kind action
  | .call kind readings taken =>
      { broadcast with flight := broadcast.flight.step payloader kind readings taken }
  | .rtcpTimer ntp => { broadcast with flight := broadcast.flight.rtcpTimer ntp }

end Payloader

/-! A receiver. -/

def EndsFrame (packet : Aired) : Prop := packet.marker = true

instance : DecidablePred EndsFrame := fun packet =>
  inferInstanceAs (Decidable (packet.marker = true))

/-- The frames whose last packet, the marked one, has come. -/
def reassemble (depayload : List Bytes → Bytes) (packets : List Aired) : List Bytes :=
  (Delimited.groups EndsFrame [] packets).map fun group =>
    depayload (group.map Aired.payload)

/-- What the packets of a track are decoded to. -/
def decoded (depayload : List Bytes → Bytes) (kind : StreamType) (packets : List RtpPacket) :
    List Bytes :=
  match kind with
  | .audio => (packets.map RtpPacket.aired).map Aired.payload
  | .video => reassemble depayload (packets.map RtpPacket.aired)

/-- The receiver gets what `send_to` takes; the code sends nothing again. -/
def received (depayload : List Bytes → Bytes) (kind : StreamType)
    (flight : InFlight Payloader) : List Bytes :=
  decoded depayload kind (packetsOf kind flight.arrived)

/-- The contents of a stream; an empty video frame has nothing to send. -/
def contents (kind : StreamType) (samples : List Sample) : List Bytes :=
  match kind with
  | .audio => samples.map Sample.data
  | .video => (samples.map Sample.data).filter (· ≠ [])

/-- A VP8 payloader whose chunks give the frame back. -/
structure Depayloads (payloader : Payloader → Nat → Bytes → List Bytes × Payloader)
    (depayload : List Bytes → Bytes) : Prop where
  empty : ∀ state, (payloader state maxVp8Payload []).1 = []
  frame : ∀ state frame, frame ≠ [] →
    (payloader state maxVp8Payload frame).1 ≠ [] ∧
      depayload (payloader state maxVp8Payload frame).1 = frame

section Receiver

variable {payloader : Payloader → Nat → Bytes → List Bytes × Payloader}
  {depayload : List Bytes → Bytes}

theorem groups_marked (ts : UInt32) (chunk : Bytes) (chunks : List Bytes)
    (current rest : List Aired) :
    Delimited.groups EndsFrame current (InFlight.marked ts (chunk :: chunks) ++ rest) =
      (current ++ InFlight.marked ts (chunk :: chunks)) ::
        Delimited.groups EndsFrame [] rest := by
  induction chunks generalizing chunk current with
  | nil =>
      have hends : EndsFrame ⟨chunk, true, ts⟩ := rfl
      exact Delimited.groups_ends hends _ _
  | cons second chunks ih =>
      have hopen : ¬ EndsFrame ⟨chunk, false, ts⟩ := by simp [EndsFrame]
      have hsplit : InFlight.marked ts (chunk :: second :: chunks) =
          ⟨chunk, false, ts⟩ :: InFlight.marked ts (second :: chunks) := rfl
      rw [hsplit, List.cons_append, Delimited.groups_open hopen, ih]
      simp

theorem payload_marked (ts : UInt32) (chunks : List Bytes) :
    (InFlight.marked ts chunks).map Aired.payload = chunks := by
  induction chunks with
  | nil => rfl
  | cons chunk rest ih => simp [InFlight.marked, ih]

/-- Of what the samples lead to, a receiver makes their contents. -/
theorem reassemble_aired (hdepayloads : Depayloads payloader depayload)
    (stand : InFlight.Stand Payloader) (samples : List Sample) :
    reassemble depayload (stand.aired payloader .video samples) =
      contents .video samples := by
  induction samples generalizing stand with
  | nil => rfl
  | cons sample rest ih =>
      have hrest := ih (stand.advance payloader .video sample)
      simp only [reassemble, contents] at hrest
      simp only [reassemble, contents, InFlight.Stand.aired, InFlight.Stand.airs,
        List.map_cons]
      by_cases hempty : sample.data = []
      · rw [hempty, hdepayloads.empty]
        simpa [InFlight.marked] using hrest
      · obtain ⟨hchunks, hframe⟩ := hdepayloads.frame stand.payloader sample.data hempty
        obtain ⟨chunk, chunks, hcons⟩ := List.exists_cons_of_ne_nil hchunks
        rw [hcons] at hframe ⊢
        rw [groups_marked, List.map_cons, hrest, List.nil_append, payload_marked, hframe]
        simp [hempty]

theorem reassemble_prefix {first packets : List Aired} (hinitial : first <+: packets) :
    reassemble depayload first <+: reassemble depayload packets := by
  obtain ⟨rest, rfl⟩ := hinitial
  simp only [reassemble, Delimited.groups_append, List.map_append]
  exact List.prefix_append _ _

theorem payload_aired (stand : InFlight.Stand Payloader) (samples : List Sample) :
    (stand.aired payloader .audio samples).map Aired.payload = contents .audio samples := by
  induction samples generalizing stand with
  | nil => rfl
  | cons sample rest ih =>
      have hrest := ih (stand.advance payloader .audio sample)
      simp only [contents] at hrest
      simp [InFlight.Stand.aired, InFlight.Stand.airs, contents, hrest]

theorem contents_initial (kind : StreamType) {first samples : List Sample}
    (hinitial : first <+: samples) : contents kind first <+: contents kind samples := by
  cases kind with
  | audio => exact hinitial.map Sample.data
  | video => exact (hinitial.map Sample.data).filter _

end Receiver

/-! The run. -/

section Run

variable {payloader : Payloader → Nat → Bytes → List Bytes × Payloader}
  {start : RtpSender Payloader} {bytes : StreamType → Bytes}
  {samples : StreamType → List Sample}

theorem sent_play (broadcast : Broadcast Payloader) (kind : StreamType)
    (action : Playing.Action) (hpaced : ∀ input, action ≠ .pacing input) :
    ((broadcast.legs kind).next ReaderKind.nextSample action).sent =
      (broadcast.legs kind).sent := by
  cases action with
  | pacing input => exact absurd rfl (hpaced input)
  | report =>
      simp only [Playing.next, Playing.report]
      split <;> rfl
  | _ => rfl

/-- Each leg gives what its container holds, and what it has passed on is what the
calls were made with. -/
structure Fed (payloader : Payloader → Nat → Bytes → List Bytes × Payloader)
    (start : RtpSender Payloader) (samples : StreamType → List Sample)
    (broadcast : Broadcast Payloader) : Prop where
  kept : InFlight.Kept payloader start broadcast.flight
  ordered : ∀ kind, Playing.Ordered ReaderKind.nextSample .file (samples kind)
    (broadcast.legs kind)
  given : ∀ kind, broadcast.flight.given kind = (broadcast.legs kind).sent

theorem fed_new (hfresh : RtpSender.Fresh start)
    (hformed : ∀ kind, WellFormed (containerOf kind) (bytes kind) (samples kind))
    (onEnd : Bool) : Fed payloader start samples (new start bytes onEnd) where
  kept := InFlight.kept_new hfresh
  ordered := fun kind => Playing.ordered_new (hformed kind).yields true onEnd
  given := fun _ => rfl

theorem Fed.orderedPlay {broadcast : Broadcast Payloader}
    (hfed : Fed payloader start samples broadcast) (kind : StreamType)
    (action : Playing.Action) (other : StreamType) :
    Playing.Ordered ReaderKind.nextSample .file (samples other)
      ((broadcast.play kind action).legs other) := by
  by_cases hother : other = kind
  · subst hother
    simpa [play] using Playing.ordered_next _ action (hfed.ordered other)
  · simpa [play, hother] using hfed.ordered other

theorem Fed.play {broadcast : Broadcast Payloader}
    (hfed : Fed payloader start samples broadcast) (kind : StreamType)
    (action : Playing.Action)
    (hsent : ((broadcast.legs kind).next ReaderKind.nextSample action).sent =
      (broadcast.legs kind).sent) :
    Fed payloader start samples (broadcast.play kind action) where
  kept := hfed.kept
  ordered := hfed.orderedPlay kind action
  given := fun other => by
    have hgiven := hfed.given other
    by_cases hother : other = kind
    · subst hother
      simpa [Broadcast.play, hsent] using hgiven
    · simpa [Broadcast.play, hother] using hgiven

theorem Fed.pace {broadcast : Broadcast Payloader}
    (hfed : Fed payloader start samples broadcast) (kind : StreamType)
    (input : PacingInput) : Fed payloader start samples (broadcast.pace kind input) := by
  unfold Broadcast.pace
  split
  next hidle =>
    have hsent : ((broadcast.legs kind).next ReaderKind.nextSample (.pacing input)).sent =
        (broadcast.legs kind).sent ++
          (Playing.passing (broadcast.legs kind).leg).toList := rfl
    cases hpassing : Playing.passing (broadcast.legs kind).leg with
    | none =>
        apply hfed.play
        rw [hsent, hpassing]
        simp
    | some sample =>
        rw [hpassing] at hsent
        have hkept := @InFlight.kept_next _ payloader _ _ (.send kind sample) hfed.kept
        simp only [InFlight.next, hidle] at hkept
        refine ⟨hkept, hfed.orderedPlay kind _, fun other => ?_⟩
        have hgiven := hfed.given other
        by_cases hother : other = kind
        · subst hother
          simpa [Broadcast.play, InFlight.send, hsent] using hgiven
        · simpa [Broadcast.play, InFlight.send, hother] using hgiven
  next => exact hfed

theorem Fed.meet {broadcast : Broadcast Payloader}
    (hfed : Fed payloader start samples broadcast) :
    Fed payloader start samples broadcast.meet := by
  unfold Broadcast.meet
  split
  · exact (hfed.play .audio .release rfl).play .video .release rfl
  · exact hfed

theorem fed_next (broadcast : Broadcast Payloader) (action : Action)
    (hfed : Fed payloader start samples broadcast) :
    Fed payloader start samples (broadcast.next payloader action) := by
  cases action with
  | leg kind action =>
      cases action with
      | pacing input => exact (hfed.pace kind input).meet
      | release => exact hfed
      | _ => exact hfed.play kind _ (sent_play broadcast kind _ (by simp))
  | call kind readings taken =>
      have hgiven := (InFlight.stepped_step payloader broadcast.flight kind readings taken).given
      exact ⟨InFlight.kept_next _ (.step kind readings taken) hfed.kept, hfed.ordered,
        fun other => (congrFun hgiven other).trans (hfed.given other)⟩
  | rtcpTimer ntp =>
      have hgiven := InFlight.given_rtcpTimer broadcast.flight ntp
      exact ⟨InFlight.kept_next _ (.rtcpTimer ntp) hfed.kept, hfed.ordered,
        fun other => (congrFun hgiven other).trans (hfed.given other)⟩

theorem decoded_eq {depayload : List Bytes → Bytes}
    (hdepayloads : Depayloads payloader depayload) {kind : StreamType}
    {given : List Sample} {packets : List RtpPacket} {stand : InFlight.Stand Payloader}
    (hpackets : packets.map RtpPacket.aired = stand.aired payloader kind given) :
    decoded depayload kind packets = contents kind given := by
  simp only [decoded, hpackets]
  cases kind with
  | audio => exact payload_aired stand given
  | video => exact reassemble_aired hdepayloads stand given

theorem decoded_initial {depayload : List Bytes → Bytes}
    (hdepayloads : Depayloads payloader depayload) {kind : StreamType}
    {given : List Sample} {packets : List RtpPacket} {stand : InFlight.Stand Payloader}
    (hpackets : packets.map RtpPacket.aired <+: stand.aired payloader kind given) :
    decoded depayload kind packets <+: contents kind given := by
  simp only [decoded]
  cases kind with
  | audio =>
      rw [← @payload_aired _ payloader stand]
      exact hpackets.map Aired.payload
  | video =>
      rw [← reassemble_aired hdepayloads stand]
      exact reassemble_prefix hpackets

/-- `send_to` takes what a step of a call hands it. -/
def Carried (_ : Broadcast Payloader) : Action → Prop
  | .call _ _ taken => taken = true
  | _ => True

/-- All that was handed to `send_to` has arrived. -/
def Arrived (broadcast : Broadcast Payloader) : Prop :=
  ∀ kind, packetsOf kind broadcast.flight.arrived =
    transmitted kind broadcast.flight.sender.wire

theorem arrived_of_passes {broadcast moved : Broadcast Payloader}
    (harrived : Arrived broadcast)
    (hpasses : ∀ kind, ∃ handed, InFlight.Passes kind broadcast.flight moved.flight true handed) :
    Arrived moved := by
  intro kind
  obtain ⟨handed, hwire, hthere⟩ := hpasses kind
  rw [hwire, hthere, harrived kind]
  rfl

theorem arrived_play {broadcast : Broadcast Payloader} (harrived : Arrived broadcast)
    (kind : StreamType) (action : Playing.Action) : Arrived (broadcast.play kind action) :=
  harrived

theorem arrived_next (broadcast : Broadcast Payloader) (action : Action)
    (harrived : Arrived broadcast) (hcarried : Carried broadcast action) :
    Arrived (broadcast.next payloader action) := by
  cases action with
  | leg kind action =>
      cases action with
      | pacing input =>
          have hpaced : Arrived (broadcast.pace kind input) := by
            unfold pace
            split
            · split <;> exact harrived
            · exact harrived
          simp only [next, meet]
          split <;> exact hpaced
      | release => exact harrived
      | _ => exact arrived_play harrived kind _
  | call kind readings taken =>
      obtain rfl : taken = true := hcarried
      exact arrived_of_passes harrived fun other =>
        InFlight.passes_next broadcast.flight (.step kind readings true) other
  | rtcpTimer ntp =>
      exact arrived_of_passes harrived fun other =>
        @InFlight.passes_next _ payloader broadcast.flight (.rtcpTimer ntp) other

/-- No stop, no stalled read and no refused frame. -/
def Undisturbed (broadcast : Broadcast Payloader) : Action → Prop
  | .leg kind action => Playing.Undisturbed (broadcast.legs kind) action
  | _ => True

def Running (samples : StreamType → List Sample) (broadcast : Broadcast Payloader) : Prop :=
  ∀ kind, Playing.Running ReaderKind.nextSample .file (samples kind) (broadcast.legs kind)

theorem running_play {broadcast : Broadcast Payloader} (hrunning : Running samples broadcast)
    {kind : StreamType} {action : Playing.Action}
    (hundisturbed : Playing.Undisturbed (broadcast.legs kind) action) :
    Running samples (broadcast.play kind action) := by
  intro other
  by_cases hother : other = kind
  · subst hother
    simpa [play] using Playing.running_step _ action (hrunning other) hundisturbed
  · simpa [play, hother] using hrunning other

theorem running_meet {broadcast : Broadcast Payloader} (hrunning : Running samples broadcast) :
    Running samples broadcast.meet := by
  have hreleased (now : Broadcast Payloader) (kind : StreamType) (hnow : Running samples now) :
      Running samples (now.play kind .release) :=
    running_play hnow ⟨trivial, by simp, by simp⟩
  unfold meet
  split
  · exact hreleased _ .video (hreleased broadcast .audio hrunning)
  · exact hrunning

theorem running_next (broadcast : Broadcast Payloader) (action : Action)
    (hrunning : Running samples broadcast) (hundisturbed : Undisturbed broadcast action) :
    Running samples (broadcast.next payloader action) := by
  cases action with
  | leg kind action =>
      cases action with
      | pacing input =>
          apply running_meet
          unfold pace
          split
          next =>
            have hplayed := running_play hrunning hundisturbed
            split
            · exact hplayed
            · exact hplayed
          next => exact hrunning
      | release => exact hrunning
      | _ => exact running_play hrunning hundisturbed
  | _ => exact hrunning

/-- What has been handed to `send_to` is at every moment a beginning of what is in the
container, at the times that its samples lead to; the receiver gets packets of it in
their order, none twice. -/
structure Faithful (payloader : Payloader → Nat → Bytes → List Bytes × Payloader)
    (start : RtpSender Payloader) (depayload : List Bytes → Bytes) (kind : StreamType)
    (samples : List Sample) (broadcast : Broadcast Payloader) : Prop where
  handed : decoded depayload kind (transmitted kind broadcast.flight.sender.wire) <+:
    contents kind samples
  given : broadcast.flight.given kind <+: samples
  onWire : InFlight.OnWire payloader start kind broadcast.flight
  audible : kind = .audio →
    (received depayload kind broadcast.flight).Sublist (contents kind samples)

theorem Fed.faithful {broadcast : Broadcast Payloader}
    (hfed : Fed payloader start samples broadcast) {depayload : List Bytes → Bytes}
    (hdepayloads : Depayloads payloader depayload) (kind : StreamType) :
    Faithful payloader start depayload kind (samples kind) broadcast := by
  have hgiven : broadcast.flight.given kind <+: samples kind := by
    rw [hfed.given kind]
    exact (hfed.ordered kind).sent
  have hwire := hfed.kept.onWire kind
  have hhanded := (decoded_initial hdepayloads hwire.content).trans (contents_initial kind hgiven)
  refine ⟨hhanded, hgiven, hwire, ?_⟩
  rintro rfl
  have harrived := (hwire.arrived.map RtpPacket.aired).map Aired.payload
  exact harrived.trans hhanded.sublist

/-- Whatever the schedule, what a leg hands to `send_to` is a beginning of what its
container holds, and a receiver has it all as long as `send_to` takes it; in an
undisturbed run, once the end of a streamer has been reported and its last call has
returned, that is the whole of it. -/
theorem broadcast_faithful
    (payloader : Payloader → Nat → Bytes → List Bytes × Payloader)
    (depayload : List Bytes → Bytes) (hdepayloads : Depayloads payloader depayload)
    (start : RtpSender Payloader) (hfresh : RtpSender.Fresh start)
    (bytes : StreamType → Bytes) (samples : StreamType → List Sample)
    (hformed : ∀ kind, WellFormed (containerOf kind) (bytes kind) (samples kind))
    (onEnd : Bool) (actions : List Action) :
    Always (next payloader)
        (fun now => ∀ kind, Faithful payloader start depayload kind (samples kind) now)
        (new start bytes onEnd) actions ∧
      (Along (next payloader) Carried (new start bytes onEnd) actions →
        Always (next payloader)
          (fun now => ∀ kind, received depayload kind now.flight <+: contents kind (samples kind))
          (new start bytes onEnd) actions) ∧
      (Along (next payloader) Carried (new start bytes onEnd) actions →
        Along (next payloader) Undisturbed (new start bytes onEnd) actions →
        let final := after (next payloader) (new start bytes onEnd) actions
        ∀ kind, Playing.EndReported (final.legs kind) → final.flight.calls kind = .idle →
          received depayload kind final.flight = contents kind (samples kind)) := by
  have hstart := @fed_new _ payloader _ _ _ hfresh hformed onEnd
  have hall : Along (next payloader) (fun _ _ => True) (new start bytes onEnd) actions :=
    along_true
  have hfed := hall.always (fun now action hnow _ => fed_next now action hnow) hstart
  have hfaithful := hfed.mono fun now hnow => hnow.faithful hdepayloads
  have hnothing : Arrived (new start bytes onEnd) := fun kind => by
    simp [new, InFlight.new, hfresh.unsent]
  refine ⟨hfaithful, ?_, ?_⟩
  · intro hcarried
    have harrived := hcarried.always arrived_next hnothing
    refine (hfaithful.and harrived).mono fun now hnow kind => ?_
    rw [received, hnow.2 kind]
    exact (hnow.1 kind).handed
  · intro hcarried hundisturbed final kind hreported hidle
    have hfed : Fed payloader start samples final :=
      hall.invariant (fun now action hnow _ => fed_next now action hnow) hstart
    have harrived : Arrived final := hcarried.invariant arrived_next hnothing
    have hrunning : Running samples final :=
      hundisturbed.invariant running_next fun kind =>
        Playing.running_new (hformed kind).yields true onEnd
    have hwhole := (hrunning kind).whole hreported
    rw [received, harrived kind, decoded_eq hdepayloads ((hfed.kept.onWire kind).settled hidle),
      hfed.given kind, hwhole]

end Run

/-! A VP8 payloader with `enable_picture_id`, its state the next picture id. -/

/-- Up to `size` bytes to a piece, from the front. -/
def pieces (size : Nat) (current : Bytes) : Bytes → List Bytes
  | [] => [current]
  | byte :: rest =>
      if current.length < size then pieces size (current ++ [byte]) rest
      else current :: pieces size [byte] rest

theorem flatten_pieces (size : Nat) (current frame : Bytes) :
    (pieces size current frame).flatten = current ++ frame := by
  induction frame generalizing current with
  | nil => simp [pieces]
  | cons byte rest ih =>
      simp only [pieces]
      split
      · simp [ih]
      · simp [ih]

/-- The extended descriptor, with S at the start of a frame, and the id in one byte or,
from 128 on, in two. -/
def descriptor (pictureId : UInt16) (start : Bool) : Bytes :=
  let head : UInt8 := if start then 0x90 else 0x80
  if pictureId < 128 then [head, 0x80, (pictureId &&& 0x7F).toUInt8]
  else [head, 0x80, (0x80 : UInt8) ||| ((pictureId >>> 8) &&& 0x7F).toUInt8, pictureId.toUInt8]

def described (pictureId : UInt16) : List Bytes → List Bytes
  | [] => []
  | piece :: rest =>
      (descriptor pictureId true ++ piece) :: rest.map (descriptor pictureId false ++ ·)

def vp8Payloader (pictureId : UInt16) (mtu : Nat) : Bytes → List Bytes × UInt16
  | [] => ([], pictureId)
  | byte :: rest =>
      let header := if pictureId < 128 then 3 else 4
      if mtu ≤ header then ([], pictureId)
      else
        (described pictureId (pieces (mtu - header) [byte] rest), (pictureId + 1) &&& 0x7FFF)

/-- By the X, I and M bits, the first bits of their bytes. -/
def withoutDescriptor : Bytes → Bytes
  | head :: flags :: id :: rest =>
      if head < 0x80 then flags :: id :: rest
      else if flags < 0x80 then id :: rest
      else if id < 0x80 then rest
      else rest.tail
  | chunk => chunk.tail

def withoutDescriptors (chunks : List Bytes) : Bytes := chunks.flatMap withoutDescriptor

theorem withoutDescriptor_descriptor (pictureId : UInt16) (start : Bool) (piece : Bytes) :
    withoutDescriptor (descriptor pictureId start ++ piece) = piece := by
  have hhead : ¬ (if start then 0x90 else 0x80 : UInt8) < 0x80 := by cases start <;> decide
  have hflags : ¬ (0x80 : UInt8) < 0x80 := by decide
  by_cases hshort : pictureId < 128
  · have hid : (pictureId &&& 0x7F).toUInt8 < 0x80 := by
      rw [UInt8.lt_iff_toNat_lt, UInt16.toNat_toUInt8, UInt16.toNat_and]
      have hmask : pictureId.toNat &&& (0x7F : UInt16).toNat ≤ 127 := Nat.and_le_right
      exact Nat.lt_of_le_of_lt (Nat.mod_le _ _) (Nat.lt_succ_of_le hmask)
    simp only [descriptor, hshort, if_true, List.cons_append, List.nil_append,
      withoutDescriptor, hhead, hflags, hid, if_false]
  · have hid : ¬ (0x80 : UInt8) ||| ((pictureId >>> 8) &&& 0x7F).toUInt8 < 0x80 := by
      rw [UInt8.lt_iff_toNat_lt, UInt8.toNat_or]
      exact Nat.not_lt.mpr Nat.left_le_or
    simp only [descriptor, hshort, if_false, List.cons_append, List.nil_append,
      withoutDescriptor, hhead, hflags, hid, List.tail_cons]

theorem withoutDescriptors_described (pictureId : UInt16) (chunks : List Bytes) :
    withoutDescriptors (described pictureId chunks) = chunks.flatten := by
  cases chunks with
  | nil => rfl
  | cons piece rest =>
      have hrest : (rest.map (descriptor pictureId false ++ ·)).flatMap withoutDescriptor =
          rest.flatten := by
        rw [List.flatMap_map]
        simp [withoutDescriptor_descriptor, List.flatMap_id']
      simp only [withoutDescriptors, described, List.flatMap_cons, hrest,
        withoutDescriptor_descriptor, List.flatten_cons]

theorem depayloads_vp8 : Depayloads vp8Payloader withoutDescriptors where
  empty := fun _ => rfl
  frame := fun pictureId frame hframe => by
    have hwhole : withoutDescriptors (vp8Payloader pictureId maxVp8Payload frame).1 = frame := by
      cases frame with
      | nil => exact absurd rfl hframe
      | cons byte rest =>
          have hfits : ¬ maxVp8Payload ≤ if pictureId < 128 then 3 else 4 := by
            split <;> decide
          simp only [vp8Payloader, hfits, if_false, withoutDescriptors_described,
            flatten_pieces]
          rfl
    refine ⟨fun hnone => hframe ?_, hwhole⟩
    rw [hnone] at hwhole
    exact hwhole.symm

/-- One frame has been packetized before there was a peer to send it to. -/
def clipSender : RtpSender UInt16 where
  closed := false
  udpSocket := true
  remoteAddr := true
  srtpContext := true
  tracks := RtpSender.connectedSender.tracks
  videoPayloader := 1
  mediaEpoch := none
  outgoing := []
  wire := []
  frames := fun _ => []

theorem fresh_clipSender : RtpSender.Fresh clipSender := by
  refine ⟨rfl, rfl, rfl, rfl, fun _ => rfl, fun kind => ?_⟩
  cases kind <;> exact ⟨rfl, rfl⟩

/-- Two packets of audio and a frame of video. -/
def clip : StreamType → Bytes
  | .audio => Ogg.encodePages OggOpus.sharing.pages
  | .video => Ivf.encode Playing.oneFrameHeader [Playing.oneFrame]

def clipSamples : StreamType → List Sample
  | .audio => OggOpus.sharing.packets.map OpusFrameReader.sampleOf
  | .video => [⟨Playing.oneFrame.payload, VP8FrameReader.durationOf Playing.oneFrameHeader⟩]

theorem wellFormed_clip (kind : StreamType) :
    WellFormed (containerOf kind) (clip kind) (clipSamples kind) := by
  cases kind with
  | audio => exact OggOpus.sharing.wellFormed
  | video => exact .ivf Playing.oneFrameHeader [Playing.oneFrame] rfl (.inl rfl)

/-- Both legs come to the barrier, and the video leg plays its frame and comes to its
end. -/
def videoPlayed : List Action :=
  let reads (kind : StreamType) : List Action := List.replicate 10 (.leg kind (.reader false))
  let paces (kind : StreamType) (count : Nat) : List Action :=
    List.replicate count (.leg kind (.pacing .proceed))
  let call : List Action := List.replicate 24 (.call .video ⟨0, 0, 0, 0⟩ true)
  reads .audio ++ paces .audio 6 ++ reads .video ++ paces .video 8 ++ call ++
    paces .video 2 ++ [.leg .video (.pacing .slept)] ++ paces .video 6 ++
      [.leg .video .report, .leg .video .report]

theorem broadcast_clip :
    Always (next vp8Payloader)
        (fun now => ∀ kind,
          Faithful vp8Payloader clipSender withoutDescriptors kind (clipSamples kind) now)
        (new clipSender clip true) videoPlayed ∧
      (Along (next vp8Payloader) Carried (new clipSender clip true) videoPlayed →
        Always (next vp8Payloader)
          (fun now => ∀ kind,
            received withoutDescriptors kind now.flight <+: contents kind (clipSamples kind))
          (new clipSender clip true) videoPlayed) ∧
      (Along (next vp8Payloader) Carried (new clipSender clip true) videoPlayed →
        Along (next vp8Payloader) Undisturbed (new clipSender clip true) videoPlayed →
        let final := after (next vp8Payloader) (new clipSender clip true) videoPlayed
        ∀ kind, Playing.EndReported (final.legs kind) → final.flight.calls kind = .idle →
          received withoutDescriptors kind final.flight = contents kind (clipSamples kind)) :=
  broadcast_faithful vp8Payloader withoutDescriptors depayloads_vp8 clipSender
    fresh_clipSender clip clipSamples wellFormed_clip true videoPlayed

example :
    let final := after (next vp8Payloader) (new clipSender clip true) videoPlayed
    (final.legs .video).reportAt = .returned ∧
      (transmitted .video final.flight.sender.wire).map RtpPacket.payload =
        [[0x90, 0x80, 0x01, 0x10, 0x20]] ∧
      received withoutDescriptors .video final.flight = [[0x10, 0x20]] := by
  decide +kernel

end Broadcast

end RustTgCalls.Instances
