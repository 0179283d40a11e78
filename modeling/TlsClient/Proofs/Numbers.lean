import Mathlib.Algebra.Ring.Nat
import Mathlib.Data.List.Induction
import TlsClient.Bytes
import TlsClient.Number.Modular

/-!
# Numbers and their digits

What is written is what is read (`Bytes.ofNat_toNat`, `Bytes.toNat_shortest`), and powers are powers
(`Number.powMod_eq`).
-/

namespace TlsClient

namespace Bytes

theorem toNat_lt (bs : Bytes) : toNat bs < 256 ^ bs.length := by
  induction bs using List.reverseRecOn with
  | nil => simp
  | append_singleton bs b ih =>
    rw [toNat_concat, List.length_append, List.length_singleton, Nat.pow_succ]
    have := b.toNat_lt
    omega

/-- Writing keeps the low digits. -/
theorem toNat_ofNat (width n : Nat) : toNat (ofNat width n) = n % 256 ^ width := by
  induction width generalizing n with
  | zero => simp [ofNat, Nat.mod_one]
  | succ width ih =>
    rw [ofNat, toNat_concat, ih, Nat.pow_succ, Nat.mul_comm (256 ^ width), Nat.mod_mul]
    simp only [UInt8.toNat_ofNat']
    omega

/-- Writing in the width that was read gives the bytes back. -/
theorem ofNat_toNat (bs : Bytes) : ofNat bs.length (toNat bs) = bs := by
  induction bs using List.reverseRecOn with
  | nil => rfl
  | append_singleton bs b ih =>
    have hb := b.toNat_lt
    rw [List.length_append, List.length_singleton, ofNat, toNat_concat]
    have hdiv : (toNat bs * 256 + b.toNat) / 256 = toNat bs := by omega
    have hlast : UInt8.ofNat (toNat bs * 256 + b.toNat) = b := by
      apply UInt8.toNat_inj.mp
      rw [UInt8.toNat_ofNat']
      omega
    rw [hdiv, hlast, ih]

/-- The shortest form reads back. -/
theorem toNat_shortest (n : Nat) : toNat (shortest n) = n := by
  rw [shortest, toNat_ofNat, Nat.mod_eq_of_lt]
  have h : n < 2 ^ (n.log2 + 1) := Nat.lt_log2_self
  apply Nat.lt_of_lt_of_le h
  rw [show (256 : Nat) = 2 ^ 8 from rfl, ← Nat.pow_mul, digits]
  exact Nat.pow_le_pow_right (by decide) (by omega)

end Bytes

theorem Number.powMod_eq (b e m : Nat) : powMod b e m = b ^ e % m := by
  fun_induction powMod b e m with
  | case1 => simp
  | case2 b e he square heven ih =>
    show powMod (b * b % m) (e / 2) m = _
    rw [ih, ← Nat.pow_mod, ← Nat.pow_two, ← Nat.pow_mul, Nat.mul_div_cancel' (by omega)]
  | case3 b e he square hodd ih =>
    show b * powMod (b * b % m) (e / 2) m % m = _
    rw [ih, ← Nat.pow_mod, Nat.mul_mod, Nat.mod_mod, ← Nat.mul_mod, ← Nat.pow_two, ← Nat.pow_mul,
      ← Nat.pow_succ']
    congr 2
    omega

end TlsClient
