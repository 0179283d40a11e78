import TlsClient.Proofs.Stream.Moving

/-!
# Loops over a transport

The loops of a stream, each told by its body: a pass returns a value (`Sum.inl`) or goes on with the next
(`Sum.inr`).  A loop comes to something if finitely many passes go on and the one after them returns or fails
(`Loops`); no fuel appears in that.  Where each pass that goes on uses something up, the bounded iteration
comes to what the loop comes to (`loops_of_fuel`).
-/

namespace TlsClient

open Relation (ReflTransGen)

namespace Transfer

variable {σ α : Type} {body : σ → Transfer (α ⊕ σ)} {p q : σ × Stream} {x : Except IoError α × Stream}

/-- A pass goes on. -/
def Goes (body : σ → Transfer (α ⊕ σ)) (p q : σ × Stream) : Prop :=
  (body p.1).run p.2 = (.ok (.inr q.1), q.2)

/-- A pass is the last: it returns, or it fails. -/
inductive Ends (body : σ → Transfer (α ⊕ σ)) (p : σ × Stream) : Except IoError α × Stream → Prop
  | returns {a : α} {s : Stream} (h : (body p.1).run p.2 = (.ok (.inl a), s)) : Ends body p (.ok a, s)
  | fails {e : IoError} {s : Stream} (h : (body p.1).run p.2 = (.error e, s)) : Ends body p (.error e, s)

/-- A loop comes to something after finitely many passes. -/
def Loops (body : σ → Transfer (α ⊕ σ)) (p : σ × Stream) (x : Except IoError α × Stream) : Prop :=
  ∃ q, ReflTransGen (Goes body) p q ∧ Ends body q x

theorem Loops.head (h : Goes body p q) (hloops : Loops body q x) : Loops body p x := by
  obtain ⟨last, hgoes, hends⟩ := hloops
  exact ⟨last, .head h hgoes, hends⟩

/-- What every pass keeps holds after any number of them. -/
theorem goes_keeps {I : σ × Stream → Prop} (hstep : ∀ p q, I p → Goes body p q → I q)
    (h : ReflTransGen (Goes body) p q) (hp : I p) : I q := by
  induction h with
  | refl => exact hp
  | tail _ hgoes ih => exact hstep _ _ ih hgoes

/-- What follows on a pass: nothing if it returns, and the passes that are left if it goes on. -/
def proceed (rest : σ → Transfer α) : α ⊕ σ → Transfer α
  | .inl b => pure b
  | .inr a => rest a

/-- Where every pass that goes on uses up some of a measure, bounded iteration with enough fuel comes to what
the loop comes to. -/
theorem loops_of_fuel {f : Nat → σ → Transfer α} {m : σ × Stream → Nat} {I : σ × Stream → Prop}
    {k : Nat} (hzero : ∀ p, I p → m p + k = 0 → Loops body p ((f 0 p.1).run p.2))
    (hsucc : ∀ fuel a, f (fuel + 1) a = body a >>= proceed (f fuel))
    (hgoes : ∀ p q, I p → Goes body p q → I q ∧ m q < m p)
    {fuel : Nat} (hp : I p) (hfuel : m p + k ≤ fuel) : Loops body p ((f fuel p.1).run p.2) := by
  induction fuel generalizing p with
  | zero => exact hzero p hp (Nat.le_zero.mp hfuel)
  | succ fuel ih =>
    rw [hsucc]
    rcases hrun : (body p.1).run p.2 with ⟨e | b | a, s⟩
    · rw [run_bind_of_error hrun]
      exact ⟨p, .refl, .fails hrun⟩
    · rw [run_bind_of_ok hrun]
      exact ⟨p, .refl, .returns hrun⟩
    · rw [run_bind_of_ok hrun]
      have hpass : Goes body p (a, s) := hrun
      obtain ⟨hq, hless⟩ := hgoes p (a, s) hp hpass
      have hrest : Loops body (a, s) ((f fuel a).run s) := ih hq (by omega)
      exact hrest.head hpass

/-! ## Writing -/

/-- One pass of writing: one write, as long as something waits. -/
def writing (written : Nat) : Transfer (Nat ⊕ Nat) := do
  if ← ask Connection.wantsWrite then return .inr (written + (← writeTls))
  else return .inl written

theorem writeUpTo_succ (fuel written : Nat) :
    writeUpTo (fuel + 1) written = writing written >>= proceed (writeUpTo fuel) := by
  rw [writeUpTo, writing]
  simp only [bind_assoc]
  congr 1
  funext wants
  split
  · simp only [bind_assoc]
    rfl
  · rfl

end Transfer

/-- A connection of which all has been written that waited. -/
def Connection.written (c : Connection) : Connection := { c with session := { c.session with outgoing := {} } }

namespace Stream

/-- One stream comes from another by writing some of what waits. -/
structure Drains (s s' : Stream) : Prop where
  connection : { s'.connection with session :=
    { s'.connection.session with outgoing := s.connection.session.outgoing } } = s.connection
  solid : s'.connection.session.outgoing.Solid
  bytes : s'.transport.sent ++ s'.connection.session.outgoing.toBytes
    = s.transport.sent ++ s.connection.session.outgoing.toBytes
  arriving : s'.transport.deliveries = s.transport.deliveries ∧ s'.transport.atEnd = s.transport.atEnd
  acceptances : s'.transport.acceptances <:+ s.transport.acceptances

/-- Everything that waited has been written. -/
structure Flushes (s : Stream) (n : Nat) (s' : Stream) : Prop where
  connection : s'.connection = s.connection.written
  sent : s'.transport.sent = s.transport.sent ++ s.connection.session.outgoing.toBytes
  count : n = s.connection.session.outgoing.toBytes.length
  arriving : s'.transport.deliveries = s.transport.deliveries ∧ s'.transport.atEnd = s.transport.atEnd
  acceptances : s'.transport.acceptances <:+ s.transport.acceptances

variable {s s' s'' : Stream}

theorem Drains.refl (h : s.connection.session.outgoing.Solid) : s.Drains s :=
  ⟨rfl, h, rfl, ⟨rfl, rfl⟩, List.suffix_rfl⟩

theorem Drains.trans (h : s.Drains s') (h' : s'.Drains s'') : s.Drains s'' := by
  refine ⟨?_, h'.solid, h'.bytes.trans h.bytes, ⟨h'.arriving.1.trans h.arriving.1,
    h'.arriving.2.trans h.arriving.2⟩, h'.acceptances.trans h.acceptances⟩
  have hfirst := h.connection
  rw [← h'.connection] at hfirst
  exact hfirst

/-- Where nothing waits any more, everything has been written. -/
theorem Drains.flushes (h : s.Drains s') (hidle : s'.connection.wantsWrite = false) :
    s.Flushes s.connection.session.outgoing.toBytes.length s' := by
  have hempty := Connection.outgoing_eq_empty hidle
  refine ⟨?_, ?_, rfl, h.arriving, h.acceptances⟩
  · have hsame := h.connection
    rw [Connection.written, ← hsame]
    show s'.connection = { s'.connection with session := { s'.connection.session with outgoing := {} } }
    rw [← hempty]
  · have hbytes := h.bytes
    rw [hempty] at hbytes
    exact (List.append_nil _).symm.trans hbytes

end Stream

namespace Transfer

variable {s s' : Stream} {n : Nat} {e : IoError} {p q : Nat × Stream}

theorem goes_writing_inv (h : Goes writing p q) : p.2.connection.wantsWrite = true ∧
    ∃ n, writeTls.run p.2 = (.ok n, q.2) ∧ q.1 = p.1 + n := by
  unfold Goes writing at h
  rw [run_bind_ask] at h
  split at h
  · next hwants =>
    obtain ⟨n, s, hrun, hrest⟩ := ok_of_bind h
    obtain ⟨hq, rfl⟩ := Prod.mk.inj hrest
    exact ⟨hwants, n, hrun, (Sum.inr.inj (Except.ok.inj hq)).symm⟩
  · cases h

/-- A pass of writing that goes on has written some of what waits. -/
theorem goes_writing (hsolid : p.2.connection.session.outgoing.Solid) (h : Goes writing p q) :
    p.2.Drains q.2 ∧ q.1 + p.2.transport.sent.length = p.1 + q.2.transport.sent.length ∧
      (p.2.transport.Eager → p.2.transport.sent.length < q.2.transport.sent.length) ∧
      q.2.transport.acceptances.length + q.2.connection.session.outgoing.chunks.length
        < p.2.transport.acceptances.length + p.2.connection.session.outgoing.chunks.length := by
  obtain ⟨hwants, n, hrun, hq⟩ := goes_writing_inv h
  have hwrites := Stream.writeTls_writes hsolid
  rw [hrun] at hwrites
  generalize q.2 = s at hwrites ⊢
  cases hwrites with
  | idle hidle => exact absurd (hwants.symm.trans hidle) (by decide)
  | @takes _ rest _ hn hrest hpos hless =>
    have hwaits : p.2.connection.session.outgoing.isEmpty = false := by
      simpa [Connection.wantsWrite, Session.wantsWrite] using hwants
    have hle : n ≤ p.2.connection.session.outgoing.toBytes.length :=
      Nat.le_trans hn p.2.connection.session.outgoing.offer_prefix.length_le
    refine ⟨⟨rfl, hsolid.drop n, ?_, ⟨rfl, rfl⟩, hrest⟩, ?_, fun heager => ?_, ?_⟩
    · show p.2.transport.sent ++ List.take n _ ++ (ByteQueue.drop _ n).toBytes = _
      rw [List.append_assoc, ByteQueue.toBytes_drop, List.take_append_drop]
    · simp only [List.length_append, List.length_take, Nat.min_eq_left hle, hq]
      omega
    · have := hpos heager
      simp only [List.length_append, List.length_take, Nat.min_eq_left hle]
      omega
    · show rest.length + (ByteQueue.dropChunks n _).length < _
      rcases hless with hless | ⟨hnone, hnil, rfl⟩
      · have := ByteQueue.length_dropChunks_le n p.2.connection.session.outgoing.chunks
        omega
      · have hdrop := ByteQueue.length_drop_lt hwaits
        rw [hnone, hnil]
        exact Nat.add_lt_add_left hdrop _

/-- Writing is a loop, and every pass leaves what waits without an empty chunk. -/
theorem writeAll_loops (hsolid : s.connection.session.outgoing.Solid) :
    Loops writing (0, s) (writeAll.run s) := by
  refine loops_of_fuel (p := (0, s)) (f := writeUpTo) (k := 0)
    (m := fun p => p.2.transport.acceptances.length + p.2.connection.session.outgoing.chunks.length)
    (I := fun p => p.2.connection.session.outgoing.Solid) ?_ writeUpTo_succ ?_ hsolid (Nat.le_refl _)
  · intro p _ hnothing
    have hempty : p.2.connection.session.outgoing = {} := by
      have hchunks : p.2.connection.session.outgoing.chunks = [] :=
        List.length_eq_zero_iff.mp (by omega)
      rw [← hchunks]
    have hidle : p.2.connection.wantsWrite = false := by
      rw [Connection.wantsWrite, Session.wantsWrite, hempty]
      rfl
    refine ⟨p, .refl, .returns ?_⟩
    rw [writing, run_bind_ask, hidle]
    rfl
  · intro p q hp hgoes
    obtain ⟨hdrains, -, -, hless⟩ := goes_writing hp hgoes
    exact ⟨hdrains.solid, hless⟩

/-- While writing goes on, some of what waits is written. -/
theorem drains_of_goes (hsolid : s.connection.session.outgoing.Solid)
    (h : ReflTransGen (Goes writing) (0, s) q) :
    s.Drains q.2 ∧ q.1 + s.transport.sent.length = q.2.transport.sent.length := by
  refine goes_keeps (I := fun q => s.Drains q.2 ∧ q.1 + s.transport.sent.length = q.2.transport.sent.length)
    ?_ h ⟨.refl hsolid, Nat.zero_add _⟩
  rintro p q ⟨hdrains, hcount⟩ hgoes
  obtain ⟨hpass, hpassed, -⟩ := goes_writing hdrains.solid hgoes
  exact ⟨hdrains.trans hpass, by omega⟩

/-- If writing succeeds, nothing waits any more. -/
theorem writeAll_ok (hsolid : s.connection.session.outgoing.Solid) (h : writeAll.run s = (.ok n, s')) :
    s.Flushes n s' := by
  obtain ⟨q, hgoes, hends⟩ := writeAll_loops hsolid
  obtain ⟨hdrains, hcount⟩ := drains_of_goes hsolid hgoes
  rw [h] at hends
  cases hends with
  | returns hlast =>
    unfold writing at hlast
    rw [run_bind_ask] at hlast
    split at hlast
    · obtain ⟨k, s₁, -, hrest⟩ := ok_of_bind hlast
      cases hrest
    · next hidle =>
      obtain ⟨hn, rfl⟩ := Prod.mk.inj hlast
      obtain rfl := Sum.inl.inj (Except.ok.inj hn)
      have hflushes := hdrains.flushes (Bool.eq_false_iff.mpr hidle)
      have hsent := congrArg List.length hflushes.sent
      rw [List.length_append] at hsent
      rwa [show q.1 = s.connection.session.outgoing.toBytes.length by omega]

/-- Writing fails only where a write to the transport does. -/
theorem writeAll_error (hsolid : s.connection.session.outgoing.Solid)
    (h : writeAll.run s = (.error e, s')) :
    ∃ kind : IoErrorKind, .failure kind ∈ s.transport.acceptances ∧ e = kind.failure := by
  obtain ⟨q, hgoes, hends⟩ := writeAll_loops hsolid
  obtain ⟨hdrains, -⟩ := drains_of_goes hsolid hgoes
  rw [h] at hends
  cases hends with
  | fails hlast =>
    unfold writing at hlast
    rw [run_bind_ask] at hlast
    split at hlast
    · have hwrites := Stream.writeTls_writes hdrains.solid
      rcases error_of_bind hlast with hrun | ⟨k, s₁, -, hrest⟩
      · rw [hrun] at hwrites
        cases hwrites with
        | @fails kind rest hfails =>
          exact ⟨kind, hdrains.acceptances.subset (by simp [hfails]), rfl⟩
      · cases hrest
    · cases hlast

/-- Over a transport whose writes do not fail, everything is written. -/
theorem writeAll_flushes (hsolid : s.connection.session.outgoing.Solid) (h : s.transport.Reliable) :
    ∃ n s', writeAll.run s = (.ok n, s') ∧ s.Flushes n s' := by
  rcases hwrite : writeAll.run s with ⟨e | n, s'⟩
  · obtain ⟨kind, hfails, -⟩ := writeAll_error hsolid hwrite
    obtain ⟨m, -, hm⟩ := h _ hfails
    cases hm
  · exact ⟨n, s', rfl, writeAll_ok hsolid hwrite⟩

end Transfer

end TlsClient
