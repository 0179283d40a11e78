import TlsClient.Connection.Tls
import TlsClient.Proofs.Queues

/-!
# A queue in use

Whatever is done with a queue, and whatever becomes of the writes, the bytes leave it in the order in which
they were put in, each of them once: one call keeps the account (`perform_append`), so a run of calls does
(`run_append`).  No call leaves an empty chunk behind (`Solid.perform`), which is why a queue without bytes
has no chunks either.  What a connection writes to its transport leaves its queue in this way
(`Connection.writeTls_eq_writeTo`).
-/

namespace TlsClient

/-- Where bytes go: how many of the pieces that are offered are taken, never more than there are, or how the
write fails. -/
structure Sink where
  write : List Bytes → Except IoError Nat
  write_le : ∀ {pieces : List Bytes} {n : Nat}, write pieces = .ok n → n ≤ pieces.flatten.length

/-- A transport takes what it is offered by one write. -/
def Transport.sink (t : Transport) : Sink where
  write pieces := (t.write pieces).1
  write_le := by
    intro pieces n h
    unfold write at h
    split at h
    · cases h
      exact List.length_take_le' _ _
    · cases h
      exact List.length_take_le' _ _
    · cases h

namespace ByteQueue

variable {q : ByteQueue}

theorem length_eq (q : ByteQueue) : q.length = q.toBytes.length := by
  obtain ⟨cs⟩ := q
  show cs.foldr (fun c n => c.length + n) 0 = cs.flatten.length
  induction cs with
  | nil => rfl
  | cons c cs ih => rw [List.foldr_cons, List.flatten_cons, List.length_append, ih]

/-- A read takes the front, as much as there is of it. -/
theorem read_eq_take (q : ByteQueue) (n : Nat) : (q.read n).1 = q.toBytes.take n :=
  takeChunks_eq n q.chunks

/-- A queue without empty chunks has no chunk just if it has no byte. -/
theorem Solid.isEmpty_iff_length (h : q.Solid) : q.isEmpty = true ↔ q.length = 0 := by
  rw [isEmpty_iff, length_eq, List.length_eq_zero_iff]
  constructor
  · rintro rfl
    rfl
  · exact h.eq_empty

/-! ## Writing -/

/-- Offers the first chunks, if there are any, and drops what was taken. -/
def writeTo (q : ByteQueue) (w : Sink) : Except IoError Nat × ByteQueue :=
  if q.isEmpty then (.ok 0, q)
  else
    match w.write q.offer with
    | .ok n => (.ok n, q.drop n)
    | .error e => (.error e, q)

/-- How a write turns out. -/
inductive Writes (q : ByteQueue) (w : Sink) : Except IoError Nat × ByteQueue → Prop
  | idle (hq : q.isEmpty = true) : Writes q w (.ok 0, q)
  | takes {n : Nat} (hq : q.isEmpty = false) (h : w.write q.offer = .ok n) : Writes q w (.ok n, q.drop n)
  | fails {e : IoError} (hq : q.isEmpty = false) (h : w.write q.offer = .error e) :
    Writes q w (.error e, q)

theorem writes_writeTo (q : ByteQueue) (w : Sink) : q.Writes w (q.writeTo w) := by
  unfold writeTo
  split
  · next hq => exact .idle hq
  · next hq =>
    have hq : q.isEmpty = false := Bool.eq_false_iff.mpr hq
    cases h : w.write q.offer with
    | ok n => exact .takes hq h
    | error e => exact .fails hq h

theorem writeTo_offers {w : Sink} (hq : q.isEmpty = false) : (q.writeTo w).1 = w.write q.offer := by
  have hwrites := q.writes_writeTo w
  generalize q.writeTo w = x at hwrites
  cases hwrites with
  | idle hidle => rw [hq] at hidle; cases hidle
  | takes _ h => exact h.symm
  | fails _ h => exact h.symm

/-- What was taken of the first chunks is gone, and nothing else is. -/
theorem writeTo_ok {w : Sink} {n : Nat} {q' : ByteQueue} (h : q.writeTo w = (.ok n, q')) :
    (q.offer.flatten.take n).length = n ∧ q.offer.flatten.take n ++ q'.toBytes = q.toBytes := by
  have hwrites := q.writes_writeTo w
  rw [h] at hwrites
  cases hwrites with
  | idle hq => exact ⟨rfl, rfl⟩
  | takes hq htaken =>
    have hn := w.write_le htaken
    refine ⟨List.length_take_of_le hn, ?_⟩
    rw [q.take_offer hn, toBytes_drop, List.take_append_drop]

theorem writeTo_error {w : Sink} {e : IoError} {q' : ByteQueue} (h : q.writeTo w = (.error e, q')) :
    q' = q := by
  have hwrites := q.writes_writeTo w
  rw [h] at hwrites
  cases hwrites
  rfl

theorem Solid.writeTo (h : q.Solid) (w : Sink) : (q.writeTo w).2.Solid := by
  have hwrites := q.writes_writeTo w
  generalize q.writeTo w = x at hwrites
  cases hwrites with
  | idle => exact h
  | takes => exact h.drop _
  | fails => exact h

/-! ## Calls -/

/-- What can be done with a queue. -/
inductive Call where
  | append (bs : Bytes)
  | pop
  | read (n : Nat)
  | write (w : Sink)

/-- The bytes that a call puts in. -/
def Call.bytes : Call → Bytes
  | append bs => bs
  | pop | read _ | write _ => []

/-- The bytes that a call gives out, and the queue that it leaves. -/
def perform (q : ByteQueue) : Call → Bytes × ByteQueue
  | .append bs => ([], q.push bs)
  | .pop => q.pop?.getD ([], q)
  | .read n => q.read n
  | .write w =>
    match q.writeTo w with
    | (.ok n, q') => (q.offer.flatten.take n, q')
    | (.error _, q') => ([], q')

/-- The bytes that calls give out, one after another, and the queue that they leave. -/
def run : ByteQueue → List Call → Bytes × ByteQueue
  | q, [] => ([], q)
  | q, c :: cs => ((q.perform c).1 ++ ((q.perform c).2.run cs).1, ((q.perform c).2.run cs).2)

/-- A call gives out the front of the bytes that are there with those that it puts in, and keeps the rest. -/
theorem perform_append (q : ByteQueue) (c : Call) :
    (q.perform c).1 ++ (q.perform c).2.toBytes = q.toBytes ++ c.bytes := by
  cases c with
  | append bs => exact toBytes_push q bs
  | pop =>
    rw [Call.bytes, List.append_nil]
    obtain ⟨_ | ⟨c, cs⟩⟩ := q <;> rfl
  | read n =>
    rw [Call.bytes, List.append_nil]
    exact read_append q n
  | write w =>
    rw [Call.bytes, List.append_nil, perform]
    rcases hx : q.writeTo w with ⟨e | n, q'⟩
    · rw [writeTo_error hx]
      rfl
    · exact (writeTo_ok hx).2

theorem Solid.perform (h : q.Solid) (c : Call) : (q.perform c).2.Solid := by
  cases c with
  | append bs => exact h.push bs
  | pop =>
    obtain ⟨_ | ⟨c, cs⟩⟩ := q
    · exact h
    · exact fun x hx => h x (List.mem_cons_of_mem _ hx)
  | read n => exact h.drop n
  | write w =>
    have hleft := h.writeTo w
    rw [ByteQueue.perform]
    rcases hx : q.writeTo w with ⟨e | n, q'⟩
    all_goals
      rw [hx] at hleft
      exact hleft

/-- A run gives out the front of the bytes that were there with those that it puts in, and keeps the rest. -/
theorem run_append (q : ByteQueue) (calls : List Call) :
    (q.run calls).1 ++ (q.run calls).2.toBytes = q.toBytes ++ calls.flatMap Call.bytes := by
  induction calls generalizing q with
  | nil => exact (List.append_nil _).symm
  | cons c cs ih =>
    rw [run, List.append_assoc, ih, ← List.append_assoc, perform_append, List.flatMap_cons, List.append_assoc]

theorem Solid.run (h : q.Solid) (calls : List Call) : (q.run calls).2.Solid := by
  induction calls generalizing q with
  | nil => exact h
  | cons c cs ih => exact ih (h.perform c)

/-- How a queue stands to what was put in and what was given out, and how it answers then. -/
structure Serves (put given : Bytes) (q : ByteQueue) : Prop where
  /-- What was given out is the front of what was put in, and the rest is stored. -/
  conserved : given ++ q.toBytes = put
  stored : q.length = q.toBytes.length
  read : ∀ n, (q.read n).1 = q.toBytes.take n ∧ (q.read n).1.length = min n q.length
  offered : ∀ w : Sink, q.isEmpty = false → (q.writeTo w).1 = w.write (q.chunks.take 64)
  /-- What was taken of the first chunks is gone, and nothing else is. -/
  written : ∀ (w : Sink) (n : Nat), (q.writeTo w).1 = .ok n → ∃ taken : Bytes, taken.length = n ∧
    taken <+: (q.chunks.take 64).flatten ∧ taken ++ (q.writeTo w).2.toBytes = q.toBytes
  refused : ∀ (w : Sink) (e : IoError), (q.writeTo w).1 = .error e → (q.writeTo w).2 = q
  solid : ∀ c ∈ q.chunks, c ≠ []
  empty : q.isEmpty = true ↔ q.length = 0

/-- A queue that was empty at first serves whatever is done with it. -/
theorem run_serves (calls : List Call) :
    Serves (calls.flatMap Call.bytes) (run {} calls).1 (run {} calls).2 where
  conserved := run_append {} calls
  stored := length_eq _
  read n := by
    rw [read_eq_take, length_eq]
    exact ⟨rfl, List.length_take⟩
  offered w hq := writeTo_offers hq
  written w n h := by
    obtain ⟨hlength, happend⟩ := writeTo_ok (Prod.ext h rfl)
    exact ⟨_, hlength, List.take_prefix _ _, happend⟩
  refused w e h := writeTo_error (Prod.ext h rfl)
  solid := solid_empty.run calls
  empty := (solid_empty.run calls).isEmpty_iff_length

/-- Two chunks go out in pieces of two bytes, across the end of the first. -/
example : run {} [.append [97, 98, 99], .append [], .append [100, 101],
    .write (Transport.sink { acceptances := [.upTo 2] }),
    .write (Transport.sink { acceptances := [.failure .brokenPipe] }),
    .write (Transport.sink { acceptances := [.upTo 2] }), .read 2] =
      ([97, 98, 99, 100, 101], {}) := by decide

end ByteQueue

/-- A connection writes from its queue as long as its transport does not fail. -/
theorem Connection.writeTls_eq_writeTo (c : Connection) (t : Transport) :
    (c.writeTls t).1 = (c.session.outgoing.writeTo t.sink).1 ∧ ∀ n, (c.writeTls t).1 = .ok n →
      (c.writeTls t).2.1.session.outgoing = (c.session.outgoing.writeTo t.sink).2 := by
  unfold writeTls ByteQueue.writeTo
  by_cases hq : c.session.outgoing.isEmpty = true
  · rw [if_pos (by simp [wantsWrite, Session.wantsWrite, hq]), if_pos hq]
    exact ⟨rfl, fun _ _ => rfl⟩
  · have hsink : t.sink.write c.session.outgoing.offer = (t.write c.session.outgoing.offer).1 := rfl
    rw [if_neg (by simp [wantsWrite, Session.wantsWrite, hq]), if_neg hq, hsink]
    rcases t.write c.session.outgoing.offer with ⟨e | n, t'⟩
    · exact ⟨rfl, nofun⟩
    · exact ⟨rfl, fun _ _ => rfl⟩

end TlsClient
