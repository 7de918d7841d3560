import RustTgCalls.Instances.RtmpErrors
import Mathlib

namespace RustTgCalls.Instances.RTMPCall

open Transition

/-! How far a seek moves the position of an RTMP call. -/

/-- `i64` -/
def InI64 (value : Int) : Prop := -2 ^ 63 ≤ value ∧ value < 2 ^ 63

instance (value : Int) : Decidable (InI64 value) := inferInstanceAs (Decidable (_ ∧ _))

/-- The seek succeeds and moves the position that is read at the same time by
`deltaMs`; its addition does not overflow. -/
structure MovedBy (call : RTMPCall) (now : Instant) (deltaMs : Int) : Prop where
  result : (call.seekBy now deltaMs).result = .ok ()
  opened : (call.seekBy now deltaMs).call.closed = false
  moved : ((call.seekBy now deltaMs).call.elapsedMs now : Int) = call.elapsedMs now + deltaMs
  fits : InI64 (asI64 (call.elapsedMs now) + deltaMs)

/-- A call with a source is asked to seek, and not to before its start. -/
structure SeeksWithin (call : RTMPCall) (now : Instant) (deltaMs : Int) : Prop where
  opened : call.closed = false
  sourced : call.startedAt.isSome
  delta : InI64 deltaMs
  notNegative : 0 ≤ (call.elapsedMs now : Int) + deltaMs

def SeekExact (call : RTMPCall) (input : Input) : Prop :=
  ∀ deltaMs, input.operation = .seekBy deltaMs → SeeksWithin call input.now deltaMs →
    MovedBy call input.now deltaMs

/-- Milliseconds since the process was started, as far as they count. -/
def runningMs (call : RTMPCall) (now : Instant) : Nat :=
  if call.paused then 0
  else call.startedAt.elim 0 fun t => asU64 (Duration.asMillis (now - t))

/-- The position is all in `resume_ms`, and neither it nor the target leaves the
range of `i64`. -/
def SeekFits (call : RTMPCall) (input : Input) : Prop :=
  ∀ deltaMs, input.operation = .seekBy deltaMs → SeeksWithin call input.now deltaMs →
    call.runningMs input.now = 0 ∧ InI64 (call.elapsedMs input.now) ∧
      InI64 (call.elapsedMs input.now + deltaMs)

theorem size_eq : UInt64.size = 2 ^ 64 := rfl

theorem asI64_cases (value : Int) :
    ∃ turns : Int, asI64 value = value - 2 ^ 64 * turns ∧ InI64 (asI64 value) := by
  have hlow := @Int.le_bmod value UInt64.size (by decide)
  have hhigh := @Int.bmod_lt value UInt64.size (by decide)
  have hsplit := Int.bmod_add_bdiv value UInt64.size
  rw [size_eq] at hlow hhigh hsplit
  refine ⟨value.bdiv (2 ^ 64), ?_, ?_⟩
  · rw [asI64, size_eq]
    omega
  · rw [asI64, size_eq, InI64]
    omega

theorem asI64_eq {value : Int} (hvalue : InI64 value) : asI64 value = value := by
  obtain ⟨turns, hturns, hrange⟩ := asI64_cases value
  unfold InI64 at hvalue hrange
  omega

section Seek

variable {call : RTMPCall} {now : Instant} {deltaMs : Int}

def seekTarget (call : RTMPCall) (now : Instant) (deltaMs : Int) : Int :=
  asI64 (asI64 (call.elapsedMs now) + deltaMs)

theorem seekBy_below (hopen : call.closed = false) (hbelow : seekTarget call now deltaMs < 0) :
    (call.seekBy now deltaMs).call.closed = true := by
  have hstop : call.seekBy now deltaMs = call.stop := by
    simp only [seekBy, hopen, Bool.false_eq_true, if_false]
    exact if_pos hbelow
  simp [hstop, stop, hopen]

theorem seekBy_within (hopen : call.closed = false)
    (hwithin : 0 ≤ seekTarget call now deltaMs) :
    call.seekBy now deltaMs =
      ⟨{ call with resumeMs := asU64 (seekTarget call now deltaMs).toNat }, .ok (), [], none,
        none⟩ := by
  simp only [seekBy, hopen, Bool.false_eq_true, if_false]
  exact if_neg (Int.not_lt.mpr hwithin)

theorem settled_opened {outcome : PushOutcome Unit} {settled : RTMPCall}
    (houtcome : outcome = ⟨settled, .ok (), [], none, none⟩) (hopen : settled.closed = false) :
    outcome.result = .ok () ∧ outcome.call.closed = false := by
  subst houtcome
  exact ⟨rfl, hopen⟩

theorem seekBy_opened (hopen : call.closed = false)
    (hwithin : 0 ≤ seekTarget call now deltaMs) :
    (call.seekBy now deltaMs).result = .ok () ∧
      (call.seekBy now deltaMs).call.closed = false := by
  exact settled_opened (seekBy_within hopen hwithin) hopen

theorem runningMs_lt (call : RTMPCall) (now : Instant) :
    call.runningMs now < 2 ^ 64 := by
  unfold runningMs
  split
  · decide
  · cases call.startedAt with
    | none => exact Nat.two_pow_pos 64
    | some t =>
        rw [← size_eq]
        exact Nat.mod_lt _ (by decide)

/-- The time that has run is counted on top of the new position. -/
theorem elapsedMs_seek (hsourced : call.startedAt.isSome) (position : Nat)
    (hposition : position < 2 ^ 64) :
    ({ call with resumeMs := position } : RTMPCall).elapsedMs now =
      (position + call.runningMs now) % 2 ^ 64 := by
  obtain ⟨t, ht⟩ := Option.isSome_iff_exists.mp hsourced
  unfold elapsedMs runningMs
  cases hpaused : call.paused with
  | true =>
      simp only [if_true, Nat.add_zero]
      exact (Nat.mod_eq_of_lt hposition).symm
  | false =>
      simp only [ht, Bool.false_eq_true, if_false, Option.elim_some]
      rw [← size_eq]
      rfl

theorem natCast_position {target : Int} (htarget : 0 ≤ target) (running : Nat) :
    (((target.toNat + running) % 2 ^ 64 : Nat) : Int) = (target + running) % 2 ^ 64 := by
  omega

/-- A sum that comes out right modulo the range of `u64` has nothing added to it. -/
theorem position_exact {cur turns deltaMs : Int} {position running : Nat}
    (hcur : cur = position - 2 ^ 64 * turns) (hrange : InI64 cur)
    (hfits : InI64 (cur + deltaMs)) (hwithin : 0 ≤ cur + deltaMs)
    (hrunning : running < 2 ^ 64)
    (hexact : (cur + deltaMs + running) % 2 ^ 64 = position + deltaMs) :
    running = 0 ∧ InI64 position ∧ InI64 (position + deltaMs) := by
  unfold InI64 at *
  omega

theorem toNat_of_inI64 {target : Int} (hrange : InI64 target) : target.toNat < 2 ^ 64 := by
  unfold InI64 at hrange
  omega

theorem mod_of_inI64 {target : Int} (hrange : InI64 target) (htarget : 0 ≤ target) :
    target % 2 ^ 64 = target := by
  unfold InI64 at hrange
  omega

theorem inI64_seekTarget (call : RTMPCall) (now : Instant) (deltaMs : Int) :
    InI64 (seekTarget call now deltaMs) := by
  obtain ⟨_, _, hrange⟩ := asI64_cases (asI64 (call.elapsedMs now) + deltaMs)
  rw [seekTarget]
  exact hrange

theorem elapsedMs_seekBy (hopen : call.closed = false) (hsourced : call.startedAt.isSome)
    (hwithin : 0 ≤ seekTarget call now deltaMs) :
    ((call.seekBy now deltaMs).call.elapsedMs now : Int) =
      (seekTarget call now deltaMs + call.runningMs now) % 2 ^ 64 := by
  have hsmall := toNat_of_inI64 (inI64_seekTarget call now deltaMs)
  have hsame : asU64 (seekTarget call now deltaMs).toNat =
      (seekTarget call now deltaMs).toNat := by
    rw [asU64, size_eq, Nat.mod_eq_of_lt hsmall]
  have hposition := congrArg (fun outcome => outcome.call.elapsedMs now)
    (seekBy_within hopen hwithin)
  rw [hsame] at hposition
  rw [hposition, elapsedMs_seek hsourced _ hsmall, natCast_position hwithin]

theorem movedBy_iff (hseeks : SeeksWithin call now deltaMs) :
    MovedBy call now deltaMs ↔
      call.runningMs now = 0 ∧ InI64 (call.elapsedMs now) ∧
        InI64 (call.elapsedMs now + deltaMs) := by
  obtain ⟨hopen, hsourced, hdelta, hnotNegative⟩ := hseeks
  constructor
  · rintro ⟨_, hopened, hexact, hfits⟩
    obtain ⟨turns, hcur, hrange⟩ := asI64_cases (call.elapsedMs now)
    have hwithin : 0 ≤ seekTarget call now deltaMs := by
      by_contra hbelow
      rw [seekBy_below hopen (Int.not_le.mp hbelow)] at hopened
      cases hopened
    have hsum : seekTarget call now deltaMs = asI64 (call.elapsedMs now) + deltaMs := by
      rw [seekTarget, asI64_eq hfits]
    rw [elapsedMs_seekBy hopen hsourced hwithin, hsum] at hexact
    rw [hsum] at hwithin
    exact position_exact hcur hrange hfits hwithin (call.runningMs_lt now) hexact
  · rintro ⟨hnone, helapsed, hsumRange⟩
    have hsame := asI64_eq helapsed
    have hsum : seekTarget call now deltaMs = call.elapsedMs now + deltaMs := by
      rw [seekTarget, hsame, asI64_eq hsumRange]
    have hwithin : 0 ≤ seekTarget call now deltaMs := by
      rw [hsum]
      exact hnotNegative
    obtain ⟨hresult, hopened⟩ := seekBy_opened hopen hwithin
    refine ⟨hresult, hopened, ?_, ?_⟩
    · rw [elapsedMs_seekBy hopen hsourced hwithin, hsum, hnone, Int.natCast_zero, Int.add_zero]
      exact mod_of_inI64 hsumRange hnotNegative
    · rw [hsame]
      exact hsumRange

end Seek

theorem seekExact_iff (call : RTMPCall) (input : Input) :
    SeekExact call input ↔ SeekFits call input := by
  constructor
  · intro hexact deltaMs hoperation hseeks
    exact (movedBy_iff hseeks).mp (hexact deltaMs hoperation hseeks)
  · intro hfits deltaMs hoperation hseeks
    exact (movedBy_iff hseeks).mpr (hfits deltaMs hoperation hseeks)

/-- In a run of a call, every seek moves the position by its delta exactly when
each finds the position in `resume_ms` and stays within `i64`. -/
theorem seeks_exact_iff (formatSeconds : Nat → String) (call : RTMPCall)
    (inputs : List Input) :
    Along (afterAttempt formatSeconds) SeekExact call inputs ↔
      Along (afterAttempt formatSeconds) SeekFits call inputs := by
  apply along_congr
  exact seekExact_iff

/-- After one second, a seek by one more shows three; and a seek from the end of
the range stops a paused call. -/
theorem seek_inexact :
    ¬ Along (afterAttempt toString) SeekExact (newWithEvents 1 "rtmp://host/app" false)
        [⟨.setSource, 0, .ok 7⟩, ⟨.seekBy 1000, 1000000000, .ok 0⟩] ∧
      ¬ Along (afterAttempt toString) SeekExact (newWithEvents 1 "rtmp://host/app" false)
        [⟨.setSource, 0, .ok 7⟩, ⟨.pause, 0, .ok 0⟩,
          ⟨.seekBy 9223372036854775807, 0, .ok 0⟩, ⟨.seekBy 1, 0, .ok 0⟩] := by
  constructor
  · intro hexact
    have hmoved := (hexact.2.1 1000 rfl ⟨rfl, rfl, by decide, by decide⟩).moved
    revert hmoved
    decide
  · intro hexact
    have hopened := (hexact.2.2.2.1 1 rfl ⟨rfl, rfl, by decide, by decide⟩).opened
    revert hopened
    decide

end RustTgCalls.Instances.RTMPCall
