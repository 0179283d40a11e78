import Mathlib.Algebra.Order.Floor.Div
import Mathlib.Data.List.Basic
import TlsClient.Record.Message

/-!
# Fragments of a message

What a message is cut into for sending: none of the pieces is too long for a record, and together
they are the message.
-/

namespace TlsClient

namespace Bytes

theorem flatten_chunks {n : Nat} (hn : n ≠ 0) (bs : Bytes) : (chunks n bs).flatten = bs := by
  fun_induction chunks n bs with
  | case1 bs h =>
    rcases h with h | rfl
    · exact absurd h hn
    · rfl
  | case2 bs h ih => rw [List.flatten_cons, ih, List.take_append_drop]

theorem length_le_of_mem_chunks {n : Nat} {bs c : Bytes} (h : c ∈ chunks n bs) : c.length ≤ n := by
  fun_induction chunks n bs with
  | case1 bs h' => simp at h
  | case2 bs h' ih =>
    rcases List.mem_cons.mp h with rfl | h
    · rw [List.length_take]
      omega
    · exact ih h

theorem ne_nil_of_mem_chunks {n : Nat} {bs c : Bytes} (h : c ∈ chunks n bs) : c ≠ [] := by
  fun_induction chunks n bs with
  | case1 bs h' => simp at h
  | case2 bs h' ih =>
    obtain ⟨hn, hbs⟩ := not_or.mp h'
    rcases List.mem_cons.mp h with rfl | h
    · rw [Ne, List.take_eq_nil_iff]
      exact not_or.mpr ⟨hn, hbs⟩
    · exact ih h

theorem length_chunks {n : Nat} (hn : n ≠ 0) (bs : Bytes) :
    (chunks n bs).length = bs.length ⌈/⌉ n := by
  rw [Nat.ceilDiv_eq_add_pred_div]
  fun_induction chunks n bs with
  | case1 bs h =>
    rcases h with h | rfl
    · exact absurd h hn
    · exact (Nat.div_eq_of_lt (by simp; omega)).symm
  | case2 bs h ih =>
    have hlength : 0 < bs.length := List.length_pos_iff.mpr (not_or.mp h).2
    rw [List.length_cons, ih, List.length_drop]
    rcases Nat.lt_or_ge bs.length n with hlt | hge
    · have hone : (bs.length + n - 1) / n = 1 := Nat.div_eq_of_lt_le (by omega) (by omega)
      rw [Nat.div_eq_of_lt (by omega), hone]
    · rw [← Nat.add_div_right _ (by omega)]
      congr 1
      omega

end Bytes

namespace Record

/-- A fragment is a record of the same kind that is not too long. -/
theorem of_mem_fragments {r x : Record} (h : x ∈ r.fragments) :
    x.typ = r.typ ∧ x.version = r.version ∧ x.payload.length ≤ maxFragment := by
  unfold fragments at h
  split at h
  · next hr =>
    rw [List.mem_singleton.mp h, List.isEmpty_iff.mp hr]
    exact ⟨rfl, rfl, Nat.zero_le _⟩
  · obtain ⟨piece, hp, rfl⟩ := List.mem_map.mp h
    exact ⟨rfl, rfl, Bytes.length_le_of_mem_chunks hp⟩

/-- The fragments carry the payload, each byte once. -/
theorem flatMap_fragments (r : Record) : r.fragments.flatMap Record.payload = r.payload := by
  unfold fragments
  split
  · simp
  · rw [List.flatMap_map]
    show (Bytes.chunks maxFragment r.payload).flatMap id = _
    rw [List.flatMap_id, Bytes.flatten_chunks (by decide)]

theorem fragments_of_ne_nil {r : Record} (h : r.payload ≠ []) : r.fragments =
    (Bytes.chunks maxFragment r.payload).map fun piece => { r with payload := piece } :=
  if_neg (by simpa using h)

/-- There are no more fragments than it takes, and none is empty, unless there is nothing to carry. -/
theorem length_fragments {r : Record} (h : r.payload ≠ []) :
    r.fragments.length = r.payload.length ⌈/⌉ maxFragment := by
  rw [fragments_of_ne_nil h, List.length_map, Bytes.length_chunks (by decide)]

theorem payload_ne_nil_of_mem_fragments {r x : Record} (h : r.payload ≠ []) (hx : x ∈ r.fragments) :
    x.payload ≠ [] := by
  rw [fragments_of_ne_nil h] at hx
  obtain ⟨piece, hp, rfl⟩ := List.mem_map.mp hx
  exact Bytes.ne_nil_of_mem_chunks hp

/-- A short record is its own only fragment. -/
theorem fragments_of_length_le {r : Record} (h : r.payload.length ≤ maxFragment) :
    r.fragments = [r] := by
  unfold fragments
  split
  · rfl
  · next hr =>
    have hne : r.payload ≠ [] := fun h => hr (List.isEmpty_iff.mpr h)
    rw [Bytes.chunks, if_neg (by simp [hne, maxFragment]), List.take_of_length_le h,
      List.drop_of_length_le h, Bytes.chunks, if_pos (.inr rfl)]
    rfl

end Record

end TlsClient
