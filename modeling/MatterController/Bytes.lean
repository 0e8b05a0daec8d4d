import Mathlib.Algebra.Group.Nat.Defs
import Mathlib.Tactic.Common

/-!
# Little-endian bytes

Numbers of a fixed width in memory order, the least significant byte first,
and arrays of them. Reading back what was written gives the numbers written,
where each fits its width.
-/

namespace Bytes

/-- The low `w` bytes of a number. -/
def ofNat : ℕ → ℕ → List UInt8
  | 0, _ => []
  | w + 1, n => UInt8.ofNat n :: ofNat w (n / 256)

/-- The number some bytes stand for. -/
def toNat : List UInt8 → ℕ
  | [] => 0
  | b :: bs => b.toNat + 256 * toNat bs

@[simp] theorem length_ofNat (w n : ℕ) : (ofNat w n).length = w := by
  induction w generalizing n with
  | zero => rfl
  | succ w ih => rw [ofNat, List.length_cons, ih]

/-- A number that fits is read back. -/
theorem toNat_ofNat {w n : ℕ} (h : n < 256 ^ w) : toNat (ofNat w n) = n := by
  induction w generalizing n with
  | zero =>
    rw [Nat.pow_zero] at h
    have hn : n = 0 := by omega
    rw [hn]
    rfl
  | succ w ih =>
    have hdiv : n / 256 < 256 ^ w :=
      Nat.div_lt_of_lt_mul (by rwa [Nat.pow_succ, Nat.mul_comm] at h)
    rw [ofNat, toNat, ih hdiv, UInt8.toNat_ofNat']
    omega

/-- Bytes count below the power of their width. -/
theorem toNat_lt (bs : List UInt8) : toNat bs < 256 ^ bs.length := by
  induction bs with
  | nil => exact Nat.one_pos
  | cons b bs ih =>
    have hb := b.toNat_lt
    rw [toNat, List.length_cons, Nat.pow_succ]
    omega

/-- Bytes are written back as the number they stand for. -/
theorem ofNat_toNat (bs : List UInt8) : ofNat bs.length (toNat bs) = bs := by
  induction bs with
  | nil => rfl
  | cons b bs ih =>
    have hb := b.toNat_lt
    have hdiv : (b.toNat + 256 * toNat bs) / 256 = toNat bs := by omega
    have hlow : UInt8.ofNat (b.toNat + 256 * toNat bs) = b := by
      apply UInt8.toNat_inj.mp
      rw [UInt8.toNat_ofNat']
      omega
    rw [List.length_cons, toNat, ofNat, hdiv, hlow, ih]

/-! ## Arrays -/

/-- An array of numbers of width `w`. -/
def ofNats (w : ℕ) (ns : List ℕ) : List UInt8 := ns.flatMap (ofNat w)

/-- The `k` numbers of width `w` an array starts with. -/
def toNats (w : ℕ) : ℕ → List UInt8 → List ℕ
  | 0, _ => []
  | k + 1, bs => toNat (bs.take w) :: toNats w k (bs.drop w)

theorem length_ofNats (w : ℕ) (ns : List ℕ) : (ofNats w ns).length = ns.length * w := by
  induction ns with
  | nil => rw [List.length_nil, Nat.zero_mul]; rfl
  | cons n ns ih =>
    have h : (ofNats w (n :: ns)).length = w + (ofNats w ns).length := by simp [ofNats]
    rw [h, ih, List.length_cons, Nat.succ_mul, Nat.add_comm]

/-- **An array is read back** where its numbers fit. -/
theorem toNats_ofNats {w : ℕ} {ns : List ℕ} (h : ∀ n ∈ ns, n < 256 ^ w) :
    toNats w ns.length (ofNats w ns) = ns := by
  induction ns with
  | nil => rfl
  | cons n ns ih =>
    have hcons : ofNats w (n :: ns) = ofNat w n ++ ofNats w ns := List.flatMap_cons
    rw [List.length_cons, toNats, hcons, List.take_left' (length_ofNat w n),
      List.drop_left' (length_ofNat w n), toNat_ofNat (h n List.mem_cons_self),
      ih (fun m hm => h m (List.mem_cons_of_mem n hm))]

/-- The numbers of an array fit their width. -/
theorem lt_of_mem_toNats {w k : ℕ} {bs : List UInt8} (hlength : bs.length = k * w) {n : ℕ}
    (hn : n ∈ toNats w k bs) : n < 256 ^ w := by
  induction k generalizing bs with
  | zero => cases hn
  | succ k ih =>
    have htake : (bs.take w).length = w := by
      rw [List.length_take, hlength, Nat.succ_mul]
      omega
    rcases List.mem_cons.mp hn with rfl | hn
    · have h := toNat_lt (bs.take w)
      rwa [htake] at h
    · exact ih (by rw [List.length_drop, hlength, Nat.succ_mul, Nat.add_sub_cancel]) hn

/-- **An array of whole numbers is written back.** -/
theorem ofNats_toNats {w k : ℕ} {bs : List UInt8} (hlength : bs.length = k * w) :
    ofNats w (toNats w k bs) = bs := by
  induction k generalizing bs with
  | zero =>
    rw [Nat.zero_mul] at hlength
    rw [List.length_eq_zero_iff.mp hlength]
    rfl
  | succ k ih =>
    have htake : (bs.take w).length = w := by
      rw [List.length_take, hlength, Nat.succ_mul]
      omega
    have hdrop : (bs.drop w).length = k * w := by
      rw [List.length_drop, hlength, Nat.succ_mul, Nat.add_sub_cancel]
    have hhead : ofNat w (toNat (bs.take w)) = bs.take w := by
      have h := ofNat_toNat (bs.take w)
      rwa [htake] at h
    have hcons : ofNats w (toNats w (k + 1) bs)
        = ofNat w (toNat (bs.take w)) ++ ofNats w (toNats w k (bs.drop w)) := List.flatMap_cons
    rw [hcons, hhead, ih hdrop, List.take_append_drop]

end Bytes
