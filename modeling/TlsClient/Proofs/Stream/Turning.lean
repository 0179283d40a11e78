import TlsClient.Proofs.Stream.Looping

/-!
# The turns of a transfer

Completing the input and output of a stream is a loop of turns (`turns_succ`).  A turn writes all that waits,
reads once if more is wanted, and takes in what has arrived; `Turned` lists how it can turn out.  A turn goes
on during the handshake only, and only if it has read something (`goes_turn`), so with the bytes that the
transport supplies the loop comes to an end (`completeIo_loops`).
-/

namespace TlsClient

open Relation (ReflTransGen)

namespace Transfer

/-- What has arrived is taken in, at the end of a turn.  A transport that has ended ends a handshake. -/
def takeIn (wasHandshaking ended : Bool) (moved : Nat × Nat) : Transfer ((Nat × Nat) ⊕ (Nat × Nat)) := do
  match ← process with
  | .error e =>
    let _ ← attempt writeTls
    throw ⟨.invalidData, e.text⟩
  | .ok _ =>
    if !wasHandshaking || !(← ask Connection.isHandshaking) then return .inl moved
    if ended then throw IoErrorKind.unexpectedEof.failure
    return .inr moved

/-- One turn: write, read and take in.  The counts are of what was read and written before. -/
def turn (wasHandshaking : Bool) (moved : Nat × Nat) : Transfer ((Nat × Nat) ⊕ (Nat × Nat)) := do
  let written := moved.2 + (← writeAll)
  if !wasHandshaking && 0 < written then return .inl (moved.1, written)
  let wanted ← ask Connection.wantsRead
  let n ← if wanted then readTls else pure 0
  takeIn wasHandshaking (wanted && n == 0) (moved.1 + n, written)

theorem turns_succ (wasHandshaking : Bool) (fuel : Nat) (moved : Nat × Nat) :
    turns wasHandshaking (fuel + 1) moved.1 moved.2 =
      turn wasHandshaking moved >>= proceed fun moved => turns wasHandshaking fuel moved.1 moved.2 := by
  rw [turns, turn]
  simp only [bind_assoc]
  congr 1
  funext w
  split
  · rfl
  simp only [bind_assoc]
  congr 1
  funext wanted
  split
  all_goals
    simp only [bind_assoc]
    congr 1
    funext n
    rw [takeIn, bind_assoc]
    congr 1
    funext result
    split
    · simp only [bind_assoc]
      rfl
    simp only [bind_assoc]
    congr 1
    funext handshaking
    split
    · rfl
    · split <;> rfl

end Transfer

namespace Stream

variable {s s' : Stream} {was : Bool} {moved : Nat × Nat}

/-- What a turn reads before it takes in what has arrived. -/
inductive Fetches (s : Stream) : Nat → Stream → Prop
  | wanted {n : Nat} {s' : Stream} (h : s.connection.wantsRead = true)
    (hread : Transfer.readTls.run s = (.ok n, s')) : Fetches s n s'
  | unwanted (h : s.connection.wantsRead = false) : Fetches s 0 s

/-- How a turn can turn out. -/
inductive Turned (was : Bool) (moved : Nat × Nat) (s : Stream) :
    Except IoError ((Nat × Nat) ⊕ (Nat × Nat)) × Stream → Prop
  /-- A write has failed. -/
  | unwritten {e : IoError} {s₁ : Stream} (hwrite : Transfer.writeAll.run s = (.error e, s₁)) :
    Turned was moved s (.error e, s₁)
  /-- After the handshake it is enough that something was written. -/
  | written {w : Nat} {s₁ : Stream} (hwrite : Transfer.writeAll.run s = (.ok w, s₁)) (hwas : was = false)
    (hw : 0 < moved.2 + w) : Turned was moved s (.ok (.inl (moved.1, moved.2 + w)), s₁)
  /-- The read has failed. -/
  | unread {w : Nat} {s₁ s₂ : Stream} {e : IoError} (hwrite : Transfer.writeAll.run s = (.ok w, s₁))
    (hgo : was = true ∨ moved.2 + w = 0) (hwants : s₁.connection.wantsRead = true)
    (hread : Transfer.readTls.run s₁ = (.error e, s₂)) : Turned was moved s (.error e, s₂)
  /-- What has arrived cannot be taken in: one more write is tried, for the alert. -/
  | broken {w n : Nat} {s₁ s₂ : Stream} {e : TlsError} {c : Connection}
    (hwrite : Transfer.writeAll.run s = (.ok w, s₁)) (hgo : was = true ∨ moved.2 + w = 0)
    (hfetch : s₁.Fetches n s₂) (hprocess : s₂.connection.process = (.error e, c)) :
    Turned was moved s
      (.error ⟨.invalidData, e.text⟩, (Transfer.writeTls.run { s₂ with connection := c }).2)
  /-- The handshake is over, or was over before. -/
  | concludes {w n : Nat} {s₁ s₂ : Stream} {io : IoState} {c : Connection}
    (hwrite : Transfer.writeAll.run s = (.ok w, s₁)) (hgo : was = true ∨ moved.2 + w = 0)
    (hfetch : s₁.Fetches n s₂) (hprocess : s₂.connection.process = (.ok io, c))
    (hover : was = false ∨ c.isHandshaking = false) :
    Turned was moved s (.ok (.inl (moved.1 + n, moved.2 + w)), { s₂ with connection := c })
  /-- The transport has ended during the handshake. -/
  | cutOff {w : Nat} {s₁ s₂ : Stream} {io : IoState} {c : Connection}
    (hwrite : Transfer.writeAll.run s = (.ok w, s₁)) (hwas : was = true)
    (hwants : s₁.connection.wantsRead = true) (hread : Transfer.readTls.run s₁ = (.ok 0, s₂))
    (hprocess : s₂.connection.process = (.ok io, c)) (hearly : c.isHandshaking = true) :
    Turned was moved s (.error IoErrorKind.unexpectedEof.failure, { s₂ with connection := c })
  /-- The handshake is not over: the next turn follows. -/
  | goesOn {w n : Nat} {s₁ s₂ : Stream} {io : IoState} {c : Connection}
    (hwrite : Transfer.writeAll.run s = (.ok w, s₁)) (hwas : was = true) (hfetch : s₁.Fetches n s₂)
    (hmore : s₁.connection.wantsRead = true → 0 < n) (hprocess : s₂.connection.process = (.ok io, c))
    (hearly : c.isHandshaking = true) :
    Turned was moved s (.ok (.inr (moved.1 + n, moved.2 + w)), { s₂ with connection := c })

/-- What follows on the read, whether or not it was wanted. -/
theorem turned_takeIn {w n : Nat} {s₁ s₂ : Stream} (hwrite : Transfer.writeAll.run s = (.ok w, s₁))
    (hgo : was = true ∨ moved.2 + w = 0) (hfetch : s₁.Fetches n s₂) : s.Turned was moved
      ((Transfer.takeIn was (s₁.connection.wantsRead && n == 0) (moved.1 + n, moved.2 + w)).run s₂) := by
  unfold Transfer.takeIn
  rw [Transfer.run_bind_process]
  rcases hprocess : s₂.connection.process with ⟨e | io, c⟩
  · exact .broken hwrite hgo hfetch hprocess
  dsimp only
  rw [Transfer.run_bind_ask]
  dsimp only
  split
  · next hover => exact .concludes hwrite hgo hfetch hprocess (by simpa using hover)
  next hover =>
  obtain ⟨hwas, hearly⟩ : was = true ∧ c.isHandshaking = true := by simpa using hover
  split
  · next hnone =>
    obtain ⟨hwants, rfl⟩ : s₁.connection.wantsRead = true ∧ n = 0 := by simpa using hnone
    cases hfetch with
    | wanted _ hread => exact .cutOff hwrite hwas hwants hread hprocess hearly
    | unwanted hunwanted => exact absurd (hwants.symm.trans hunwanted) (by decide)
  · next hsome =>
    refine .goesOn hwrite hwas hfetch (fun hwants => ?_) hprocess hearly
    simp only [hwants, Bool.true_and, beq_iff_eq] at hsome
    exact Nat.pos_of_ne_zero hsome

theorem turn_turned (was : Bool) (moved : Nat × Nat) (s : Stream) :
    s.Turned was moved ((Transfer.turn was moved).run s) := by
  unfold Transfer.turn
  rcases hwrite : Transfer.writeAll.run s with ⟨e | w, s₁⟩
  · rw [Transfer.run_bind_of_error hwrite]
    exact .unwritten hwrite
  rw [Transfer.run_bind_of_ok hwrite]
  dsimp only
  split
  · next hdone =>
    simp only [Bool.and_eq_true, Bool.not_eq_true', decide_eq_true_eq] at hdone
    exact .written hwrite hdone.1 hdone.2
  next hgo =>
  have hgo : was = true ∨ moved.2 + w = 0 := by
    simp only [Bool.and_eq_true, Bool.not_eq_true', decide_eq_true_eq, not_and, Nat.not_lt,
      Nat.le_zero] at hgo
    cases was with
    | true => exact .inl rfl
    | false => exact .inr (hgo rfl)
  rw [Transfer.run_bind_ask]
  cases hwants : s₁.connection.wantsRead with
  | false =>
    have hrest := turned_takeIn hwrite hgo (.unwanted hwants)
    rwa [hwants] at hrest
  | true =>
    rw [if_pos rfl]
    rcases hread : Transfer.readTls.run s₁ with ⟨e | n, s₂⟩
    · rw [Transfer.run_bind_of_error hread]
      exact .unread hwrite hgo hwants hread
    · rw [Transfer.run_bind_of_ok hread]
      have hrest := turned_takeIn hwrite hgo (.wanted hwants hread)
      rwa [hwants] at hrest

/-! ## What a turn moves -/

/-- What is fetched is read from the transport, and only what has arrived is changed by that. -/
theorem Fetches.moves {n : Nat} (h : s.Fetches n s') : n + s'.transport.readable = s.transport.readable ∧
    s'.transport = { s.transport with deliveries := s'.transport.deliveries } ∧
    ∃ d, s'.connection = { s.connection with deframer := d } := by
  cases h with
  | wanted hwants hread =>
    have hreads := s.readTls_reads
    rw [hread] at hreads
    cases hreads with
    | closed => exact ⟨Nat.zero_add _, rfl, _, rfl⟩
    | arrives hopen hroom hgiven =>
      obtain ⟨hcount, -, hsame⟩ := Transport.read_ok hgiven
      exact ⟨hcount, hsame, _, rfl⟩
  | unwanted => exact ⟨Nat.zero_add _, rfl, _, rfl⟩

/-- Once the handshake is over it stays so. -/
theorem Fetches.concluded {n : Nat} {c : Connection} {x : Except TlsError IoState} (h : s.Fetches n s')
    (hover : s.connection.isHandshaking = false) (hprocess : s'.connection.process = (x, c)) :
    c.isHandshaking = false := by
  obtain ⟨-, -, d, hd⟩ := h.moves
  have ht : s'.connection.session.traffic = true := by
    rw [hd]
    simpa [Connection.isHandshaking, Session.isHandshaking] using hover
  have hlater := (Connection.process_fills s'.connection).traffic ht
  rw [hprocess] at hlater
  rw [Connection.isHandshaking, Session.isHandshaking, hlater]
  rfl

theorem Flushes.idle {n : Nat} (h : s.Flushes n s') : s'.connection.wantsWrite = false := by
  rw [h.connection]
  rfl

theorem Flushes.readable {n : Nat} (h : s.Flushes n s') : s'.transport.readable = s.transport.readable := by
  rw [Transport.readable, Transport.readable, h.arriving.1]

end Stream

namespace Transfer

variable {α : Type} {s s' : Stream} {was : Bool} {p q : (Nat × Nat) × Stream}

theorem Runs.reached {x : Transfer α} (hx : Runs x) (h : s.connection.Reached) :
    (x.run s).2.connection.Reached := by
  obtain ⟨calls, hcalls⟩ := hx s
  rw [hcalls]
  exact h.run calls

theorem reached_writeAll {x : Except IoError Nat} (h : s.connection.Reached)
    (hwrite : writeAll.run s = (x, s')) : s'.connection.Reached := by
  have hreached := runs_writeAll.reached h
  rwa [hwrite] at hreached

end Transfer

namespace Stream

variable {s s' : Stream} {n : Nat}

theorem Fetches.reached (h : s.Fetches n s') (hs : s.connection.Reached) : s'.connection.Reached := by
  cases h with
  | wanted hwants hread =>
    have hreached := Transfer.runs_readTls.reached hs
    rwa [hread] at hreached
  | unwanted => exact hs

/-- Whatever is done with a stream, its connection stays one that can be reached. -/
theorem reached_actAll (h : s.connection.Reached) (actions : List Action) :
    (s.actAll actions).connection.Reached :=
  (holds_actAll h.run actions).1

end Stream

namespace Transfer

variable {s s' : Stream} {was : Bool} {p q : (Nat × Nat) × Stream}

/-- A turn that goes on has read something, during the handshake. -/
theorem goes_turn (hp : p.2.connection.Reached) (h : Goes (turn was) p q) :
    was = true ∧ q.2.connection.Reached ∧ q.2.connection.isHandshaking = true ∧
      q.2.connection.Settled ∧ q.1.1 + q.2.transport.readable = p.1.1 + p.2.transport.readable ∧
      q.2.transport.readable < p.2.transport.readable ∧
      q.2.transport.acceptances <:+ p.2.transport.acceptances := by
  have hturned := p.2.turn_turned was p.1
  rw [show (turn was p.1).run p.2 = (.ok (.inr q.1), q.2) from h] at hturned
  generalize q.1 = moved at hturned ⊢
  generalize q.2 = t at hturned ⊢
  cases hturned with
  | @goesOn w n s₁ s₂ io c hwrite hwas hfetch hmore hprocess hearly =>
    have hflushes := writeAll_ok hp.regular.outgoing hwrite
    have hs₁ := reached_writeAll hp hwrite
    have hs₂ := hfetch.reached hs₁
    obtain ⟨hcount, hsame, d, hd⟩ := hfetch.moves
    obtain ⟨stage, hok⟩ := Connection.stage_of_process hprocess
    have hc : c = s₂.connection.process.2 := by rw [hprocess]
    have hreached : c.Reached := by
      rw [hc]
      exact hs₂.run [.process]
    -- the handshake was not over before, so more was wanted as nothing was left to write
    have hbefore : s₁.connection.isHandshaking = true := by
      by_contra hover
      have hlater := hfetch.concluded (by simpa using hover) hprocess
      exact absurd (hearly.symm.trans hlater) (by decide)
    have hwants : s₁.connection.wantsRead = true := by
      have hstage : s₁.connection.stage = .ok stage := by
        rw [hd] at hok
        exact hok
      rw [hs₁.wants hbefore hstage, hflushes.idle]
      rfl
    have hread := hmore hwants
    have hbytes := hflushes.readable
    refine ⟨hwas, hreached, hearly, Connection.process_settled hprocess, ?_, ?_, ?_⟩
    · show p.1.1 + n + s₂.transport.readable = _
      omega
    · show s₂.transport.readable < _
      omega
    · show s₂.transport.acceptances <:+ _
      rw [hsame]
      exact hflushes.acceptances

/-! ## Completing -/

theorem completeIo_refused {why : IoError} (h : s.connection.stage = .error (.transport why)) :
    completeIo.run s = (.error ⟨.notConnected, (TlsError.transport why).text⟩, s) := by
  unfold completeIo
  rw [run_bind_get, h]
  rfl

/-- Completing is a loop of turns, unless the transport has failed. -/
theorem completeIo_loops (h : s.connection.Reached)
    (hup : ∀ why, s.connection.stage ≠ .error (.transport why)) :
    Loops (turn s.connection.isHandshaking) ((0, 0), s) (completeIo.run s) := by
  have hrun : completeIo.run s =
      (turns s.connection.isHandshaking (s.transport.readable + 2) 0 0).run s := by
    unfold completeIo
    rw [run_bind_get]
    split
    · next why hwhy => exact absurd hwhy (hup why)
    · rfl
  rw [hrun]
  refine loops_of_fuel (p := ((0, 0), s)) (k := 1) (m := fun p => p.2.transport.readable)
    (f := fun fuel moved => turns s.connection.isHandshaking fuel moved.1 moved.2)
    (I := fun p => p.2.connection.Reached) (fun p _ hnone => ?_) (turns_succ _) (fun p q hp hgoes => ?_)
    h (Nat.le_succ _)
  · exact absurd hnone (Nat.succ_ne_zero _)
  · obtain ⟨-, hq, -, -, -, hless, -⟩ := goes_turn hp hgoes
    exact ⟨hq, hless⟩

/-- After the handshake there is one turn. -/
theorem completeIo_once (h : s.connection.Reached) (hover : s.connection.isHandshaking = false)
    (hup : ∀ why, s.connection.stage ≠ .error (.transport why)) :
    Ends (turn false) ((0, 0), s) (completeIo.run s) := by
  obtain ⟨q, hgoes, hends⟩ := completeIo_loops h hup
  rw [hover] at hgoes hends
  rcases hgoes.cases_head with rfl | ⟨p, hfirst, -⟩
  · exact hends
  · exact absurd (goes_turn h hfirst).1 (by decide)

end Transfer

end TlsClient
