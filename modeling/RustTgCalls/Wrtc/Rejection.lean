import RustTgCalls.Wrtc.Transport

namespace RustTgCalls.Wrtc.Transport

open Transition

/-! A `connect` whose remote JSON is rejected. -/

/-- A task of the transport makes a step, or a `connect` runs by itself as far as
the JSON decides. -/
inductive Move where
  | task (action : Action)
  | connect (json : String)

section Codec

variable (codec : Codec)

def connectAlone (transport : Transport) (json : String) : Transport :=
  after (next codec) transport
    [.connect json, .connectStep transport.started .proceed,
      .connectStep transport.started .proceed, .connectStep transport.started .proceed]

def goOn (transport : Transport) : Move → Transport
  | .task action => transport.next codec action
  | .connect json => transport.connectAlone codec json

/-- What a media send uses, and the state that is reported. -/
structure Untouched (before now : Shared) : Prop where
  state : now.state = before.state
  udpSocket : now.udpSocket = before.udpSocket
  remoteAddr : now.remoteAddr = before.remoteAddr
  srtpContext : now.srtpContext = before.srtpContext
  decryptSrtpContext : now.decryptSrtpContext = before.decryptSrtpContext

/-- An open transport that rejects the JSON says so, and stays as it is. -/
def RejectsUntouched (transport : Transport) : Move → Prop
  | .task _ => True
  | .connect json => transport.shared.closed = false →
      ∀ error, codec.acceptRemote json = .error error →
        (transport.connectAlone codec json).connects transport.started =
            .returned (.error error) ∧
          Untouched transport.shared (transport.connectAlone codec json).shared

/-- JSON is rejected only while the transport is connecting. -/
def RejectsEarly (transport : Transport) : Move → Prop
  | .task _ => True
  | .connect json => transport.shared.closed = false →
      (∃ error, codec.acceptRemote json = .error error) →
        transport.shared.state = .connecting

variable {codec}

/-- The state is stored before the JSON is read. -/
theorem connectAlone_rejected {transport : Transport} {json : String}
    {error : RustTgCallsError} (hopen : transport.shared.closed = false)
    (hrejected : codec.acceptRemote json = .error error) :
    (transport.connectAlone codec json).shared =
        { transport.shared with state := .connecting } ∧
      (transport.connectAlone codec json).connects transport.started =
        .returned (.error error) := by
  simp [connectAlone, next, writes, move, connectTurn, ConnectTurn.goto, ConnectTurn.fail, hopen,
    hrejected, Shared.write]

theorem untouched_connecting_iff (shared : Shared) :
    Untouched shared { shared with state := .connecting } ↔ shared.state = .connecting := by
  constructor
  · intro huntouched
    exact huntouched.state.symm
  · intro hstate
    exact ⟨hstate.symm, rfl, rfl, rfl, rfl⟩

theorem rejectsUntouched_iff (transport : Transport) (step : Move) :
    RejectsUntouched codec transport step ↔ RejectsEarly codec transport step := by
  cases step with
  | task action => exact Iff.rfl
  | connect json =>
      constructor
      · rintro huntouched hopen ⟨error, hrejected⟩
        have hshared := (connectAlone_rejected hopen hrejected).1
        have hsame := (huntouched hopen error hrejected).2
        rw [hshared, untouched_connecting_iff] at hsame
        exact hsame
      · intro hearly hopen error hrejected
        obtain ⟨hshared, hreturned⟩ := connectAlone_rejected hopen hrejected
        rw [hshared, untouched_connecting_iff]
        exact ⟨hreturned, hearly hopen ⟨error, hrejected⟩⟩

end Codec

/-- Along a run of the transport, whatever its tasks do in between, every
rejected `connect` leaves it as it was exactly when it was still connecting each
time. -/
theorem rejections_untouched_iff (codec : Codec) (transport : Transport)
    (moves : List Move) :
    Along (goOn codec) (RejectsUntouched codec) transport moves ↔
      Along (goOn codec) (RejectsEarly codec) transport moves := by
  apply along_congr
  exact rejectsUntouched_iff

/-- It decodes the sample answer and nothing else. -/
def strictCodec : Codec :=
  { sampleCodec with
    decode := fun raw =>
      if raw = "{}" then sampleCodec.decode raw
      else .error "expected value at line 1 column 1" }

/-- A connected transport is asked to connect again, with something that is no
JSON. -/
theorem rejection_disconnects :
    ¬ Along (goOn strictCodec) (RejectsUntouched strictCodec) new
      ((dial 0 ++ shake 0 sampleAddr [1]).map .task ++ [.connect "<html>"]) := by
  intro halong
  have hlast := (along_append.mp halong).2.1
  have huntouched := (hlast (by decide +kernel)
    (.invalidParams "decode remote params: expected value at line 1 column 1") rfl).2
  have hstate := huntouched.state
  revert hstate
  decide +kernel

end RustTgCalls.Wrtc.Transport
