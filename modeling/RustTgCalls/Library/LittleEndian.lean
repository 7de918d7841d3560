import Mathlib.Algebra.GroupWithZero.Nat
import Mathlib.Data.List.Basic

/-! Unsigned numbers as bytes, the lowest first. -/

def littleEndian : Nat → Nat → List UInt8
  | 0, _ => []
  | count + 1, value => UInt8.ofNat value :: littleEndian count (value / 256)

@[simp] theorem length_littleEndian (count value : Nat) :
    (littleEndian count value).length = count := by
  induction count generalizing value with
  | zero => rfl
  | succ count ih => rw [littleEndian, List.length_cons, ih]

/-- Any bytes are the bytes of a number. -/
theorem exists_littleEndian (bytes : List UInt8) :
    ∃ value < 256 ^ bytes.length, littleEndian bytes.length value = bytes := by
  induction bytes with
  | nil => exact ⟨0, by simp, rfl⟩
  | cons byte rest ih =>
      obtain ⟨value, hvalue, hrest⟩ := ih
      have hbyte : byte.toNat < 256 := byte.toNat_lt
      refine ⟨byte.toNat + 256 * value, ?_, ?_⟩
      · rw [List.length_cons, Nat.pow_succ]
        omega
      · have hhigh : (byte.toNat + 256 * value) / 256 = value := by omega
        have hlow : UInt8.ofNat (byte.toNat + 256 * value) = byte := by
          apply UInt8.toNat_inj.mp
          rw [UInt8.toNat_ofNat']
          omega
        rw [List.length_cons, littleEndian, hhigh, hlow, hrest]
