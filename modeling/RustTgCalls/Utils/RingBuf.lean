import Mathlib.Data.List.DropRight

namespace RustTgCalls.Utils

/-! The byte ring that keeps the tail of ffmpeg's stderr. -/

/-- `dst[start..].copy_from_slice(slice)`, which leaves what lies behind. -/
def copyInto (dst : List UInt8) (start : Nat) (slice : List UInt8) :
    List UInt8 :=
  dst.take start ++ slice ++ dst.drop (start + slice.length)

@[simp] theorem length_copyInto {dst slice : List UInt8} {start : Nat}
    (hfits : start + slice.length ≤ dst.length) :
    (copyInto dst start slice).length = dst.length := by
  simp only [copyInto, List.length_append, List.length_take, List.length_drop]
  omega

/-- `head` is where the next byte goes; a ring that is not full has been written
up to there. -/
structure RingBuffer where
  buf : List UInt8
  head : Nat
  full : Bool
  head_lt : head < buf.length

namespace RingBuffer

def capacityOf (capacity : Nat) : Nat :=
  if capacity = 0 then 4096 else capacity

theorem capacityOf_pos (capacity : Nat) : 0 < capacityOf capacity := by
  unfold capacityOf
  split <;> omega

def new (capacity : Nat) : RingBuffer where
  buf := List.replicate (capacityOf capacity) 0
  head := 0
  full := false
  head_lt := by simpa using capacityOf_pos capacity

def snapshot (ring : RingBuffer) : List UInt8 :=
  if !ring.full then ring.buf.take ring.head
  else ring.buf.drop ring.head ++ ring.buf.take ring.head

/-- What a write shorter than the ring leaves in `buf`: it is copied from `head`
on, and the rest of it to the front. -/
def overwrite (ring : RingBuffer) (p : List UInt8) : List UInt8 :=
  let written := min p.length (ring.buf.length - ring.head)
  let copied := copyInto ring.buf ring.head (p.take written)
  if written < p.length then copyInto copied 0 (p.drop written) else copied

theorem overwrite_fits {ring : RingBuffer} {p : List UInt8}
    (hfits : ring.head + p.length ≤ ring.buf.length) :
    ring.overwrite p = copyInto ring.buf ring.head p := by
  have hwritten : min p.length (ring.buf.length - ring.head) = p.length := by
    omega
  simp [overwrite, hwritten]

theorem overwrite_wraps {ring : RingBuffer} {p : List UInt8}
    (hwraps : ring.buf.length < ring.head + p.length) :
    ring.overwrite p =
      copyInto
        (copyInto ring.buf ring.head (p.take (ring.buf.length - ring.head))) 0
        (p.drop (ring.buf.length - ring.head)) := by
  have hwritten :
      min p.length (ring.buf.length - ring.head) =
        ring.buf.length - ring.head := by omega
  have hhead := ring.head_lt
  have hless : ring.buf.length - ring.head < p.length := by omega
  simp [overwrite, hwritten, hless]

theorem length_overwrite {ring : RingBuffer} {p : List UInt8}
    (hshort : p.length < ring.buf.length) :
    (ring.overwrite p).length = ring.buf.length := by
  have hhead := ring.head_lt
  by_cases hfits : ring.head + p.length ≤ ring.buf.length
  · rw [overwrite_fits hfits, length_copyInto hfits]
  · rw [overwrite_wraps (by omega), length_copyInto, length_copyInto]
    · simp only [List.length_take]
      omega
    · rw [length_copyInto]
      · simp only [List.length_drop]
        omega
      · simp only [List.length_take]
        omega

/-- `write`, which always returns `Ok`. -/
def write (ring : RingBuffer) (p : List UInt8) : Nat × RingBuffer :=
  let n := p.length
  let cap := ring.buf.length
  if n = 0 then (0, ring)
  else if hlong : cap ≤ n then
    (n,
      { buf := p.drop (n - cap)
        head := 0
        full := true
        head_lt := by
          have hhead := ring.head_lt
          simp only [List.length_drop]
          omega })
  else
    let head := (ring.head + n) % cap
    (n,
      { buf := ring.overwrite p
        head
        full := ring.full || decide (head < n)
        head_lt := by
          rw [length_overwrite (Nat.lt_of_not_le hlong)]
          exact Nat.mod_lt _ (Nat.lt_of_le_of_lt (Nat.zero_le _) ring.head_lt) })

/-- Writes one after the other, with what each returns. -/
def writeAll (ring : RingBuffer) : List (List UInt8) → List Nat × RingBuffer
  | [] => ([], ring)
  | p :: rest =>
      let (n, written) := ring.write p
      let (lengths, final) := written.writeAll rest
      (n :: lengths, final)

/-! One write keeps the last bytes of what the ring held and of the slice. -/

theorem rtake_append_rtake (first second : List UInt8) (n : Nat) :
    (first.rtake n ++ second).rtake n = (first ++ second).rtake n := by
  simp only [List.rtake, List.length_append, List.length_drop, List.drop_append,
    List.drop_drop]
  congr 1
  · congr 1
    omega
  · congr 1
    omega

theorem length_snapshot_le (ring : RingBuffer) :
    ring.snapshot.length ≤ ring.buf.length := by
  have hhead := ring.head_lt
  unfold snapshot
  split
  · simp only [List.length_take]
    omega
  · simp only [List.length_append, List.length_drop, List.length_take]
    omega

theorem rtake_of_length {bytes : List UInt8} {n : Nat}
    (hlength : bytes.length ≤ n) : bytes.rtake n = bytes := by
  simp [List.rtake, Nat.sub_eq_zero_of_le hlength]

theorem snapshot_write_long {ring : RingBuffer} {p : List UInt8}
    (hlong : ring.buf.length ≤ p.length) :
    (ring.write p).2.snapshot = (ring.snapshot ++ p).rtake ring.buf.length := by
  have hhead := ring.head_lt
  have hsome : p.length ≠ 0 := by omega
  have hbehind : ring.snapshot.length + p.length - ring.buf.length =
      ring.snapshot.length + (p.length - ring.buf.length) := by omega
  simp only [write, if_neg hsome, dif_pos hlong, snapshot, List.rtake,
    List.length_append]
  change p.drop _ ++ List.take 0 _ = List.drop (ring.snapshot.length + _ - _) _
  rw [hbehind, ← List.drop_drop]
  simp [snapshot]

/-- What was written before the ring was last at its front. -/
def older (ring : RingBuffer) : List UInt8 :=
  if ring.full then ring.buf.drop ring.head else []

theorem snapshot_eq (ring : RingBuffer) :
    ring.snapshot = ring.older ++ ring.buf.take ring.head := by
  unfold snapshot older
  cases ring.full <;> rfl

theorem take_overwrite_fits {ring : RingBuffer} {p : List UInt8}
    (hfits : ring.head + p.length ≤ ring.buf.length) :
    (ring.overwrite p).take (ring.head + p.length) =
        ring.buf.take ring.head ++ p ∧
      (ring.overwrite p).drop (ring.head + p.length) =
        ring.buf.drop (ring.head + p.length) := by
  have hhead := ring.head_lt
  have hlength : (ring.buf.take ring.head ++ p).length = ring.head + p.length := by
    simp only [List.length_append, List.length_take]
    omega
  rw [overwrite_fits hfits, copyInto]
  exact ⟨List.take_left' hlength, List.drop_left' hlength⟩

theorem overwrite_wraps_eq {ring : RingBuffer} {p : List UInt8}
    (hshort : p.length < ring.buf.length)
    (hwraps : ring.buf.length < ring.head + p.length) :
    ring.overwrite p =
      p.drop (ring.buf.length - ring.head) ++
        ((ring.buf.take ring.head).drop
            (ring.head + p.length - ring.buf.length) ++
          p.take (ring.buf.length - ring.head)) := by
  have hhead := ring.head_lt
  have htaken : (p.take (ring.buf.length - ring.head)).length =
      ring.buf.length - ring.head := by
    simp only [List.length_take]
    omega
  have hleft : (p.drop (ring.buf.length - ring.head)).length =
      ring.head + p.length - ring.buf.length := by
    simp only [List.length_drop]
    omega
  have hend : ring.buf.drop (ring.head + (ring.buf.length - ring.head)) = [] := by
    apply List.drop_eq_nil_of_le
    omega
  rw [overwrite_wraps hwraps]
  simp only [copyInto, htaken, hleft, hend, List.take_zero, List.nil_append,
    List.append_nil, Nat.zero_add]
  rw [List.drop_append_of_le_length]
  simp only [List.length_take]
  omega

/-- The slice fits between `head` and the end of the ring. -/
theorem snapshot_write_fits {ring : RingBuffer} {p : List UInt8}
    (hsome : p.length ≠ 0) (hshort : p.length < ring.buf.length)
    (hfits : ring.head + p.length ≤ ring.buf.length) :
    (ring.write p).2.snapshot = (ring.snapshot ++ p).rtake ring.buf.length := by
  have hhead := ring.head_lt
  obtain ⟨htake, hdrop⟩ := take_overwrite_fits hfits
  have hlong : ¬ ring.buf.length ≤ p.length := by omega
  have hwritten : (ring.write p).2.snapshot =
      (if ring.full then ring.buf.drop (ring.head + p.length) else []) ++
        (ring.buf.take ring.head ++ p) := by
    rcases Nat.lt_or_eq_of_le hfits with hinside | hend
    · have hmod : (ring.head + p.length) % ring.buf.length =
          ring.head + p.length := Nat.mod_eq_of_lt hinside
      have hnot : ¬ ring.head + p.length < p.length := by omega
      cases hfull : ring.full <;>
        simp [write, hsome, hlong, snapshot, hmod, hfull, htake, hdrop]
    · have hmod : (ring.head + p.length) % ring.buf.length = 0 := by
        rw [hend, Nat.mod_self]
      have hpos : 0 < p.length := by omega
      have hwhole : ring.overwrite p = ring.buf.take ring.head ++ p := by
        rw [← htake, List.take_of_length_le]
        rw [length_overwrite hshort]
        omega
      have hnone : ring.buf.drop (ring.head + p.length) = [] := by
        apply List.drop_eq_nil_of_le
        omega
      simp [write, hsome, hlong, snapshot, hmod, hpos, hwhole, hnone]
  rw [hwritten, snapshot_eq, older]
  cases ring.full with
  | false =>
      symm
      apply rtake_of_length
      simp only [Bool.false_eq_true, if_false, List.length_nil,
        Nat.zero_add, List.length_append,
        List.length_take]
      omega
  | true =>
      have hexcess : (ring.buf.drop ring.head ++ ring.buf.take ring.head ++ p).length
          - ring.buf.length = p.length := by
        simp only [List.length_append, List.length_drop, List.length_take]
        omega
      have hinside : p.length ≤ (ring.buf.drop ring.head).length := by
        simp only [List.length_drop]
        omega
      rw [if_pos rfl, if_pos rfl, List.rtake, hexcess, List.append_assoc,
        List.drop_append_of_le_length hinside, List.drop_drop]

/-- The slice is cut at the end of the ring. -/
theorem snapshot_write_wraps {ring : RingBuffer} {p : List UInt8}
    (hshort : p.length < ring.buf.length)
    (hwraps : ring.buf.length < ring.head + p.length) :
    (ring.write p).2.snapshot = (ring.snapshot ++ p).rtake ring.buf.length := by
  have hhead := ring.head_lt
  have hsome : p.length ≠ 0 := by omega
  have hlong : ¬ ring.buf.length ≤ p.length := by omega
  have hmod : (ring.head + p.length) % ring.buf.length =
      ring.head + p.length - ring.buf.length := by
    rw [Nat.mod_eq_sub_mod (by omega), Nat.mod_eq_of_lt (by omega)]
  have hless : ring.head + p.length - ring.buf.length < p.length := by omega
  have hfront : (p.drop (ring.buf.length - ring.head)).length =
      ring.head + p.length - ring.buf.length := by
    simp only [List.length_drop]
    omega
  have hwritten : (ring.write p).2.snapshot =
      (ring.buf.take ring.head).drop (ring.head + p.length - ring.buf.length) ++
        p := by
    simp only [write, if_neg hsome, dif_neg hlong, snapshot, hmod, hless,
      overwrite_wraps_eq hshort hwraps, decide_true, Bool.or_true, Bool.not_true]
    rw [List.drop_left' hfront, List.take_left' hfront, List.append_assoc,
      List.take_append_drop]
    simp
  have hover : (ring.older ++ (ring.buf.take ring.head ++ p)).length -
      ring.buf.length =
        ring.older.length + (ring.head + p.length - ring.buf.length) := by
    simp only [List.length_append, List.length_take]
    omega
  have hinside : ring.head + p.length - ring.buf.length ≤
      (ring.buf.take ring.head).length := by
    simp only [List.length_take]
    omega
  rw [hwritten, snapshot_eq, List.rtake, List.append_assoc, hover,
    ← List.drop_drop, List.drop_left, List.drop_append_of_le_length hinside]

theorem snapshot_write (ring : RingBuffer) (p : List UInt8) :
    (ring.write p).2.snapshot = (ring.snapshot ++ p).rtake ring.buf.length := by
  by_cases hnone : p.length = 0
  · obtain rfl := List.eq_nil_of_length_eq_zero hnone
    rw [List.append_nil, rtake_of_length ring.length_snapshot_le]
    rfl
  · by_cases hlong : ring.buf.length ≤ p.length
    · exact snapshot_write_long hlong
    · by_cases hfits : ring.head + p.length ≤ ring.buf.length
      · exact snapshot_write_fits hnone (by omega) hfits
      · exact snapshot_write_wraps (by omega) (by omega)

theorem write_frame (ring : RingBuffer) (p : List UInt8) :
    (ring.write p).1 = p.length ∧
      (ring.write p).2.buf.length = ring.buf.length := by
  by_cases hnone : p.length = 0
  · obtain rfl := List.eq_nil_of_length_eq_zero hnone
    exact ⟨rfl, rfl⟩
  · by_cases hlong : ring.buf.length ≤ p.length
    · simp only [write, if_neg hnone, dif_pos hlong, List.length_drop, true_and]
      omega
    · simp only [write, if_neg hnone, dif_neg hlong, true_and]
      exact length_overwrite (Nat.lt_of_not_le hlong)

theorem snapshot_writeAll (ring : RingBuffer) (slices : List (List UInt8)) :
    (ring.writeAll slices).1 = slices.map List.length ∧
      (ring.writeAll slices).2.snapshot =
        (ring.snapshot ++ slices.flatten).rtake ring.buf.length := by
  induction slices generalizing ring with
  | nil =>
      refine ⟨rfl, ?_⟩
      rw [List.flatten_nil, List.append_nil, rtake_of_length ring.length_snapshot_le]
      rfl
  | cons p rest ih =>
      obtain ⟨hreturned, hlength⟩ := ring.write_frame p
      obtain ⟨hlengths, hsnapshot⟩ := ih (ring.write p).2
      constructor
      · simp [writeAll, hreturned, hlengths]
      · change ((ring.write p).2.writeAll rest).2.snapshot = _
        rw [hsnapshot, snapshot_write, hlength, rtake_append_rtake,
          List.flatten_cons, List.append_assoc]

/-- A ring shows the last bytes of all that was written to it, and every write
takes its whole slice. -/
theorem writeAll_new (capacity : Nat) (slices : List (List UInt8)) :
    ((new capacity).writeAll slices).1 = slices.map List.length ∧
      ((new capacity).writeAll slices).2.snapshot =
        slices.flatten.rtake (capacityOf capacity) := by
  have hempty : (new capacity).snapshot = [] := rfl
  have hlength : (new capacity).buf.length = capacityOf capacity :=
    List.length_replicate
  have hwritten := snapshot_writeAll (new capacity) slices
  rwa [hempty, hlength, List.nil_append] at hwritten

/-- A wrap, an exact fit, and a slice longer than the ring. -/
example : ((new 3).writeAll [[1, 2], [3, 4], [5, 6], [7, 8, 9, 10]]).2.snapshot =
    [8, 9, 10] := by decide

end RingBuffer

end RustTgCalls.Utils
