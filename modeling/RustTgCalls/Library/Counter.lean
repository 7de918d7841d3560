import Mathlib.Data.List.Basic

namespace Counter

/-! A shared 32-bit counter that wraps around.  Its values are known by how far
they lie behind the first one. -/

/-- The value is among the first `count` ones the counter has shown. -/
def Shown (initial : UInt32) (count : Nat) (value : UInt32) : Prop :=
  (value - initial).toNat < count

def value (initial : UInt32) (count : Nat) : UInt32 :=
  initial + UInt32.ofNat count

variable {initial : UInt32} {count : Nat}

theorem value_succ : value initial count + 1 = value initial (count + 1) := by
  simp only [value, UInt32.ofNat_add, UInt32.add_assoc]
  rfl

theorem toNat_value_sub (hcount : count < UInt32.size) :
    (value initial count - initial).toNat = count := by
  have hdifference : value initial count - initial = UInt32.ofNat count := by
    simp [value, UInt32.add_comm initial]
  rw [hdifference]
  exact UInt32.toNat_ofNat_of_lt' hcount

theorem not_shown_value (hcount : count < UInt32.size) :
    ¬ Shown initial count (value initial count) := by
  simp [Shown, toNat_value_sub hcount]

theorem shown_value (hcount : count < UInt32.size) :
    Shown initial (count + 1) (value initial count) := by
  simp [Shown, toNat_value_sub hcount]

theorem Shown.succ {shown : UInt32} (hshown : Shown initial count shown) :
    Shown initial (count + 1) shown :=
  Nat.lt_succ_of_lt hshown

/-- How far the counter has come from the first of its values to the last, if
it makes less than a turn from one to the next. -/
def distance : List UInt32 → Nat
  | first :: second :: rest => (second - first).toNat + distance (second :: rest)
  | _ => 0

/-! A counter of which only the residues by `turn` are shown. -/

/-- How far the counter has come from the first of its residues to the last. -/
def elapsed (turn : Nat) : List Nat → Nat
  | first :: second :: rest =>
      (second + turn - first) % turn + elapsed turn (second :: rest)
  | _ => 0

/-- The counter does not go back, and makes less than a turn. -/
def Forward (turn earlier later : Nat) : Prop :=
  earlier ≤ later ∧ later < earlier + turn

theorem residue_sub {turn earlier later : Nat} (hforward : Forward turn earlier later) :
    earlier + (later % turn + turn - earlier % turn) % turn = later := by
  obtain ⟨hle, hlt⟩ := hforward
  have hturn : 0 < turn := by omega
  have hdifference : (later % turn + turn - earlier % turn) % turn = later - earlier := by
    have hearlier := Nat.mod_lt earlier hturn
    have hwhole : later % turn + turn - earlier % turn + turn * (later / turn) =
        later - earlier + turn * (earlier / turn + 1) := by
      have hmodEarlier := Nat.mod_add_div earlier turn
      have hmodLater := Nat.mod_add_div later turn
      rw [Nat.mul_add]
      omega
    calc (later % turn + turn - earlier % turn) % turn
        = (later % turn + turn - earlier % turn + turn * (later / turn)) % turn :=
          (Nat.add_mul_mod_self_left _ _ _).symm
      _ = (later - earlier + turn * (earlier / turn + 1)) % turn := by rw [hwhole]
      _ = later - earlier := by
          rw [Nat.add_mul_mod_self_left, Nat.mod_eq_of_lt (by omega)]
  omega

/-- The residues tell how far the counter has come. -/
theorem elapsed_residues {turn first : Nat} {rest : List Nat}
    (hforward : (first :: rest).IsChain (Forward turn)) :
    first + elapsed turn ((first :: rest).map (· % turn)) =
      (first :: rest).getLast (List.cons_ne_nil first rest) := by
  induction rest generalizing first with
  | nil => rfl
  | cons second rest ih =>
      obtain ⟨hstep, hrest⟩ := List.isChain_cons_cons.mp hforward
      have hsecond := residue_sub hstep
      have hlast := ih hrest
      simp only [List.map_cons, elapsed] at hlast ⊢
      rw [List.getLast_cons_cons, ← hlast]
      omega

end Counter
