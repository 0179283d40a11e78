import TlsClient.ByteQueue

/-!
# Byte queues by their bytes

What leaves a queue is the front of its bytes and what stays is the rest, wherever the chunks end.  No
operation leaves an empty chunk in a queue (`Solid`), so a queue that is not empty has bytes to offer.
-/

namespace TlsClient.ByteQueue

theorem flatten_dropChunks (n : Nat) (cs : List Bytes) :
    (dropChunks n cs).flatten = cs.flatten.drop n := by
  induction cs generalizing n with
  | nil => simp [dropChunks]
  | cons c cs ih =>
    rw [dropChunks]
    split
    · next h => rw [List.flatten_cons, List.flatten_cons, List.drop_append_of_le_length (Nat.le_of_lt h)]
    · next h =>
      have hall : c.drop n = [] := List.drop_of_length_le (Nat.not_lt.mp h)
      rw [ih, List.flatten_cons, List.drop_append, hall, List.nil_append]

theorem takeChunks_eq (n : Nat) (cs : List Bytes) : takeChunks n cs = cs.flatten.take n := by
  induction cs generalizing n with
  | nil => simp [takeChunks]
  | cons c cs ih =>
    cases n with
    | zero =>
      rw [takeChunks, List.take_zero]
      rintro ⟨⟩
    | succ n =>
      rw [takeChunks, ih, List.flatten_cons, List.take_append]
      rintro ⟨⟩

theorem toBytes_drop (q : ByteQueue) (n : Nat) : (q.drop n).toBytes = q.toBytes.drop n :=
  flatten_dropChunks n q.chunks

theorem toBytes_drop_suffix (q : ByteQueue) (n : Nat) : (q.drop n).toBytes <:+ q.toBytes := by
  rw [toBytes_drop]
  exact List.drop_suffix _ _

/-- What is read and what stays are what there was. -/
theorem read_append (q : ByteQueue) (n : Nat) : (q.read n).1 ++ (q.read n).2.toBytes = q.toBytes := by
  show takeChunks n q.chunks ++ (dropChunks n q.chunks).flatten = q.chunks.flatten
  rw [takeChunks_eq, flatten_dropChunks, List.take_append_drop]

@[simp] theorem toBytes_push (q : ByteQueue) (bs : Bytes) : (q.push bs).toBytes = q.toBytes ++ bs := by
  unfold push
  split
  · next h => rw [List.isEmpty_iff.mp h, List.append_nil]
  · rw [toBytes, List.flatten_append, List.flatten_singleton]
    rfl

/-! ## No empty chunks -/

/-- A queue without an empty chunk. -/
def Solid (q : ByteQueue) : Prop := ∀ c ∈ q.chunks, c ≠ []

variable {q : ByteQueue}

theorem solid_empty : Solid {} := fun _ h => by cases h

theorem Solid.push (h : q.Solid) (bs : Bytes) : (q.push bs).Solid := by
  unfold ByteQueue.push
  split
  · exact h
  · next hbs =>
    intro c hc
    rcases List.mem_append.mp hc with hc | hc
    · exact h c hc
    · rw [List.mem_singleton.mp hc]
      exact fun hnil => hbs (List.isEmpty_iff.mpr hnil)

theorem Solid.drop (h : q.Solid) (n : Nat) : (q.drop n).Solid := by
  obtain ⟨cs⟩ := q
  show ∀ c ∈ dropChunks n cs, c ≠ []
  induction cs generalizing n with
  | nil => exact h
  | cons c cs ih =>
    obtain ⟨-, hcs⟩ := List.forall_mem_cons.mp h
    rw [dropChunks]
    split
    · next hn =>
      refine List.forall_mem_cons.mpr ⟨fun hnil => ?_, hcs⟩
      exact absurd (List.drop_eq_nil_iff.mp hnil) (Nat.not_le_of_lt hn)
    · exact ih _ hcs

theorem Solid.eq_empty (h : q.Solid) (hbytes : q.toBytes = []) : q = {} := by
  obtain ⟨_ | ⟨c, cs⟩⟩ := q
  · rfl
  · exact absurd (List.flatten_eq_nil_iff.mp hbytes c (by simp)) (h c (by simp))

theorem isEmpty_iff : q.isEmpty = true ↔ q = {} := by
  obtain ⟨_ | ⟨c, cs⟩⟩ := q <;> simp [isEmpty]

/-- What a write offers is the front of what waits. -/
theorem offer_prefix (q : ByteQueue) : q.offer.flatten <+: q.toBytes := by
  rw [toBytes, ← List.take_append_drop maxOffer q.chunks, List.flatten_append]
  exact List.prefix_append _ _

/-- What is taken of an offer is the front of what waits. -/
theorem take_offer (q : ByteQueue) {n : Nat} (h : n ≤ q.offer.flatten.length) :
    q.offer.flatten.take n = q.toBytes.take n := by
  rw [List.prefix_iff_eq_take.mp q.offer_prefix, List.take_take, Nat.min_eq_left h]

/-- A few chunks are offered as a whole. -/
theorem offer_of_length_le (h : q.chunks.length ≤ maxOffer) : q.offer.flatten = q.toBytes := by
  rw [offer, List.take_of_length_le h, toBytes]

/-- Whatever waits, a write has bytes to offer. -/
theorem Solid.offer_pos (h : q.Solid) (hq : q.isEmpty = false) : 0 < q.offer.flatten.length := by
  obtain ⟨_ | ⟨c, cs⟩⟩ := q
  · cases hq
  · have hc : 0 < c.length := List.length_pos_iff.mpr (h c (by simp))
    rw [offer, maxOffer, List.take_succ_cons, List.flatten_cons, List.length_append]
    omega

theorem length_dropChunks_le (n : Nat) (cs : List Bytes) : (dropChunks n cs).length ≤ cs.length := by
  induction cs generalizing n with
  | nil => exact Nat.le_refl _
  | cons c cs ih =>
    rw [dropChunks]
    split
    · exact Nat.le_refl _
    · exact Nat.le_succ_of_le (ih _)

/-- Where everything that is offered is taken, the first chunk is gone. -/
theorem length_drop_lt (hq : q.isEmpty = false) :
    (q.drop q.offer.flatten.length).chunks.length < q.chunks.length := by
  obtain ⟨_ | ⟨c, cs⟩⟩ := q
  · cases hq
  · rw [offer, maxOffer, List.take_succ_cons, List.flatten_cons, List.length_append, ByteQueue.drop,
      dropChunks, if_neg (by omega)]
    exact Nat.lt_succ_of_le (length_dropChunks_le _ _)

end TlsClient.ByteQueue
