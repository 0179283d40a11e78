import TlsClient.Proofs.Stream.Reading

/-!
# The calls of a stream return

Completing, connecting, reading and closing are loops that come to an end on every transport whose writes fail
or take something, and whatever a pass does that goes on, it moves at least one byte (`returns_of_reached`).
The buffer of what has arrived is found full only if it was full before the call (`Spares`); a call that finds
it so does not make room (`completeIo_brimful`).
-/

namespace TlsClient

open Relation (ReflTransGen)

/-! ## A full buffer -/

/-- What has arrived fills the buffer, and could be taken in. -/
structure Connection.Brimful (c : Connection) : Prop where
  stage : ∃ stage, c.stage = .ok stage
  opened : c.session.closeReceived = false
  full : c.deframer.isFull = true

theorem Connection.Settled.not_brimful {c : Connection} (h : c.Settled) : ¬ c.Brimful := by
  rintro ⟨-, hopen, hfull⟩
  rcases h.2 with hclose | hpop
  · exact absurd (hclose.symm.trans hopen) (by decide)
  · have hroom := Deframer.room_pos hpop
    have hlength : c.deframer.buffer.length = Record.maxLength := by simpa [Deframer.isFull] using hfull
    rw [Deframer.room, hlength, Nat.sub_self] at hroom
    exact Nat.lt_irrefl 0 hroom

theorem IoErrorKind.failure_ne_full (kind : IoErrorKind) : kind.failure ≠ Deframer.fullError := by
  cases kind <;> decide

namespace Stream

variable {s s' : Stream} {n : Nat}

theorem Flushes.brimful (h : s.Flushes n s') (hb : s'.connection.Brimful) : s.connection.Brimful := by
  rw [h.connection] at hb
  exact ⟨hb.stage, hb.opened, hb.full⟩

/-- A read that was wanted fails so only where the buffer is full. -/
theorem Reads.brimful (h : s.Reads (.error Deframer.fullError, s'))
    (hwants : s.connection.wantsRead = true) : s.connection.Brimful := by
  generalize hsame : Deframer.fullError = e at h
  cases h with
  | full hopen hfull => exact ⟨Connection.ok_of_wantsRead hwants, hopen, hfull⟩
  | fails => exact absurd hsame.symm (IoErrorKind.failure_ne_full _)

end Stream

namespace Transfer

variable {α β : Type} {s s' s₁ : Stream} {was : Bool} {moved : Nat × Nat} {n : Nat}

theorem writeAll_ne_full (hsolid : s.connection.session.outgoing.Solid) :
    (writeAll.run s).1 ≠ .error Deframer.fullError := by
  intro hfull
  obtain ⟨kind, -, hkind⟩ := writeAll_error hsolid (Prod.ext hfull rfl)
  exact kind.failure_ne_full hkind.symm

/-- A turn fails so only where the buffer is full. -/
theorem turn_full (h : s.connection.Reached)
    (hrun : (turn was moved).run s = (.error Deframer.fullError, s')) : s.connection.Brimful := by
  have hturned := s.turn_turned was moved
  rw [hrun] at hturned
  generalize hfull : Deframer.fullError = e at hturned
  cases hturned with
  | unwritten hwrite => exact absurd (by rw [hwrite, hfull]) (writeAll_ne_full h.regular.outgoing)
  | @unread w s₁ s₂ e hwrite hgo hwants hread =>
    have hreads := s₁.readTls_reads
    rw [hread, ← hfull] at hreads
    exact (writeAll_ok h.regular.outgoing hwrite).brimful (hreads.brimful hwants)
  | broken => cases hfull
  | cutOff => exact absurd hfull.symm (IoErrorKind.failure_ne_full _)

theorem completeIo_full (h : s.connection.Reached)
    (hrun : completeIo.run s = (.error Deframer.fullError, s')) : s.connection.Brimful := by
  by_cases hlost : ∃ why, s.connection.stage = .error (.transport why)
  · obtain ⟨why, hwhy⟩ := hlost
    rw [completeIo_refused hwhy] at hrun
    cases hrun
  · obtain ⟨q, hgoes, hends⟩ := completeIo_loops h (by simpa using hlost)
    obtain ⟨hq, -⟩ := turns_count h hgoes
    rw [hrun] at hends
    cases hends with
    | fails hlast =>
      have hfull := turn_full hq hlast
      rcases hgoes.cases_tail with rfl | ⟨p, hbefore, hpass⟩
      · exact hfull
      · obtain ⟨hp, -⟩ := turns_count h hbefore
        obtain ⟨-, -, -, hsettled, -⟩ := goes_turn hp hpass
        exact absurd hfull hsettled.not_brimful

/-- Where the buffer is full, completing writes what it can and fails. -/
theorem completeIo_brimful {w : Nat} (h : s.connection.Brimful) (hwrite : writeAll.run s = (.ok w, s₁))
    (hgo : s.connection.isHandshaking = true ∨ w = 0) (hflushes : s.Flushes w s₁)
    (hwants : s₁.connection.wantsRead = true) :
    completeIo.run s = (.error Deframer.fullError, s₁) := by
  obtain ⟨stage, hstage⟩ := h.stage
  have hread : readTls.run s₁ = (.error Deframer.fullError, s₁) := by
    have hsame := hflushes.connection
    have hrefused : s₁.connection.readTls s₁.transport
        = (.error Deframer.fullError, s₁.connection, s₁.transport) := by
      rw [Connection.readTls, if_neg (by rw [hsame]; simpa [Connection.written] using h.opened),
        if_pos (by rw [hsame]; exact h.full)]
    exact run_readTls hrefused
  have hturn : (turn s.connection.isHandshaking (0, 0)).run s = (.error Deframer.fullError, s₁) := by
    unfold turn
    rw [run_bind_of_ok hwrite, if_neg (by rcases hgo with hgo | rfl <;> simp [*]), run_bind_ask, hwants,
      if_pos rfl, run_bind_of_error hread]
  unfold completeIo
  rw [run_bind_get, hstage]
  dsimp only
  rw [turns_succ _ _ (0, 0), run_bind_of_error hturn]

/-! ## Computations that leave room -/

/-- A computation that never finds the buffer full, nor leaves it so, unless it was full before. -/
structure Spares (x : Transfer α) : Prop where
  runs : Runs x
  error : ∀ s, s.connection.Reached → ¬ s.connection.Brimful → (x.run s).1 ≠ .error Deframer.fullError
  ok : ∀ s s' a, s.connection.Reached → ¬ s.connection.Brimful → x.run s = (.ok a, s') →
    ¬ s'.connection.Brimful

theorem Spares.bind {x : Transfer α} {f : α → Transfer β} (hx : Spares x) (hf : ∀ a, Spares (f a)) :
    Spares (x >>= f) := by
  refine ⟨runs_bind hx.runs fun a => (hf a).runs, fun s hs hroom hfull => ?_, fun s s' b hs hroom hrun => ?_⟩
  · rcases error_of_bind (Prod.ext hfull rfl) with hfirst | ⟨a, s₁, hfirst, hrest⟩
    · exact hx.error s hs hroom (congrArg Prod.fst hfirst)
    · have hlater := hx.runs.reached hs
      rw [hfirst] at hlater
      exact (hf a).error s₁ hlater (hx.ok s s₁ a hs hroom hfirst) (congrArg Prod.fst hrest)
  · obtain ⟨a, s₁, hfirst, hrest⟩ := ok_of_bind hrun
    have hlater := hx.runs.reached hs
    rw [hfirst] at hlater
    exact (hf a).ok s₁ s' b hlater (hx.ok s s₁ a hs hroom hfirst) hrest

theorem spares_pure (a : α) : Spares (pure a) where
  runs := runs_pure a
  error _ _ _ h := nomatch h
  ok s s' b _ hroom hrun := by
    cases hrun
    exact hroom

theorem spares_ask (f : Connection → α) : Spares (ask f) where
  runs := runs_ask f
  error _ _ _ h := nomatch h
  ok s s' b _ hroom hrun := by
    cases hrun
    exact hroom

theorem spares_get : Spares (get : Transfer Stream) where
  runs := runs_get
  error _ _ _ h := nomatch h
  ok s s' b _ hroom hrun := by
    cases hrun
    exact hroom

theorem spares_process : Spares process where
  runs := runs_process
  error _ _ _ h := nomatch h
  ok s s' x _ hroom hrun := by
    have hafter : s'.connection = s.connection.process.2 := by
      cases hrun
      rfl
    rw [hafter]
    rcases hprocess : s.connection.process with ⟨e | io, c⟩
    · have hfailed := Connection.process_error_iff.mp (congrArg Prod.fst hprocess)
      rw [hprocess] at hfailed
      rintro ⟨⟨stage, hstage⟩, -, -⟩
      cases hfailed.symm.trans hstage
    · exact (Connection.process_settled hprocess).not_brimful

theorem spares_actRead (n : Nat) : Spares (act fun c => c.read n) where
  runs := runs_actRead n
  error s _ _ := by
    show (s.connection.session.read n).1 ≠ _
    unfold Session.read
    dsimp only
    split
    · intro h
      cases h
    · split
      · exact fun h => absurd (congrArg IoError.kind (Except.error.inj h)) (by decide)
      · exact fun h => IoErrorKind.failure_ne_full _ (Except.error.inj h)
  ok s s' a _ hroom hrun := by
    have hafter : s'.connection = (s.connection.read n).2 := congrArg (fun x => x.2.connection) hrun.symm
    rw [hafter]
    exact fun hb => hroom ⟨hb.stage, hb.opened, hb.full⟩

theorem spares_completeIo : Spares completeIo where
  runs := runs_completeIo
  error s hs hroom hfull := hroom (completeIo_full hs (Prod.ext hfull rfl))
  ok s s' moved hs hroom hrun := by
    obtain ⟨-, -, -, ⟨-, -, hflushes⟩ | hsettled⟩ := completeIo_ok hs hrun
    · exact fun hb => hroom (hflushes.brimful hb)
    · exact hsettled.not_brimful

theorem spares_completePrior : Spares completePrior := by
  rw [completePrior_eq, conclude, settle]
  apply Spares.bind
  · apply Spares.bind (spares_ask _)
    intro handshaking
    split
    · exact spares_completeIo.bind fun _ => spares_pure _
    · exact spares_pure _
  · intro _
    apply Spares.bind (spares_ask _)
    intro wants
    split
    · exact spares_completeIo.bind fun _ => spares_pure _
    · exact spares_pure _

theorem spares_readUpTo (n fuel : Nat) : Spares (readUpTo n fuel) := by
  induction fuel with
  | zero => exact spares_actRead n
  | succ fuel ih =>
    apply Spares.bind (spares_ask _)
    intro wants
    split
    · exact spares_actRead n
    · apply spares_completeIo.bind
      intro moved
      split
      · exact ih
      · apply spares_process.bind
        intro result
        split
        · split
          · exact spares_pure _
          · exact spares_actRead n
        · exact spares_actRead n

theorem spares_read (n : Nat) : Spares (read n) := by
  apply spares_completePrior.bind
  intro _
  exact spares_get.bind fun s => spares_readUpTo n _

/-! ## Connecting and closing -/

/-- One pass of connecting. -/
def connecting (_ : Unit) : Transfer (Unit ⊕ Unit) := do
  if ← ask Connection.isHandshaking then
    let _ ← completeIo
    return .inr ()
  else return .inl ()

/-- The handshake is over after one pass, if that does not fail. -/
theorem conclude_loops (h : s.connection.Reached) : Loops connecting ((), s) (conclude.run s) := by
  unfold conclude
  rw [run_bind_ask]
  split
  · next hearly =>
    have hfirst : (connecting ()).run s = (completeIo >>= fun _ => pure (.inr ())).run s := by
      unfold connecting
      rw [run_bind_ask, if_pos hearly]
    rcases hcomplete : completeIo.run s with ⟨e | moved, s₁⟩
    · rw [run_bind_of_error hcomplete] at hfirst ⊢
      exact ⟨((), s), .refl, .fails hfirst⟩
    · rw [run_bind_of_ok hcomplete] at hfirst ⊢
      have hover := (completeIo_ok h hcomplete).1
      refine ⟨((), s₁), .single hfirst, .returns ?_⟩
      show (connecting ()).run s₁ = _
      unfold connecting
      rw [run_bind_ask, hover]
      rfl
  · next hover =>
    refine ⟨((), s), .refl, .returns ?_⟩
    show (connecting ()).run s = _
    unfold connecting
    rw [run_bind_ask, if_neg hover]
    rfl

end Transfer

/-- A stream whose connection has been told to close. -/
def Stream.leaving (s : Stream) : Stream := { s with connection := s.connection.close }

namespace Transfer

variable {s : Stream}

theorem close_run (s : Stream) : close.run s =
    match writeAll.run s.leaving with
    | (.ok _, s') => (.ok (), { s' with transport := s'.transport.flush })
    | (.error e, s') => (.error e, s') := by
  show (writeAll >>= fun _ => (modify fun s => { s with transport := s.transport.flush } :
    Transfer Unit)).run s.leaving = _
  rcases hwrite : writeAll.run s.leaving with ⟨e | w, s'⟩
  · rw [run_bind_of_error hwrite]
  · rw [run_bind_of_ok hwrite]
    rfl

end Transfer

/-! ## All calls -/

namespace Stream

open Transfer

/-- Writing all that waits comes to an end, and each of its passes that goes on writes something. -/
structure Emits (s : Stream) : Prop where
  loops : Loops writing (0, s) (writeAll.run s)
  advances : ∀ p q, ReflTransGen (Goes writing) (0, s) p → Goes writing p q → p.1 < q.1

/-- Every call of a stream returns, and none of them finds the buffer full unless it was full before. -/
structure Returns (s : Stream) : Prop where
  /-- During a handshake that has not failed just one of reading and writing is wanted. -/
  wants : s.connection.isHandshaking = true → s.connection.progress ≠ .failed →
    s.connection.wantsRead = !s.connection.wantsWrite
  /-- Completing is refused where the transport has failed. -/
  refused : ∀ why, s.connection.stage = .error (.transport why) →
    completeIo.run s = (.error ⟨.notConnected, (TlsError.transport why).text⟩, s)
  /-- Completing comes to an end. -/
  completes : (∀ why, s.connection.stage ≠ .error (.transport why)) →
    Loops (turn s.connection.isHandshaking) ((0, 0), s) (completeIo.run s)
  /-- In each turn what waits is written. -/
  emits : ∀ p, ReflTransGen (Goes (turn s.connection.isHandshaking)) ((0, 0), s) p → p.2.Emits
  /-- Each turn that goes on reads something. -/
  advances : ∀ p q, ReflTransGen (Goes (turn s.connection.isHandshaking)) ((0, 0), s) p →
    Goes (turn s.connection.isHandshaking) p q →
      p.1.1 < q.1.1 ∧ q.1.1 + q.2.transport.readable = s.transport.readable
  /-- Connecting comes to an end. -/
  connects : Loops connecting ((), s) (conclude.run s) ∧
    s.connect = ((conclude >>= fun _ => settle).run s).1.map fun _ =>
      ((conclude >>= fun _ => settle).run s).2
  /-- Reading comes to an end. -/
  reads : ∀ n, (∀ s₁, completePrior.run s = (.ok (), s₁) → Loops (reading n) ((), s₁) ((read n).run s)) ∧
    ∀ e s₁, completePrior.run s = (.error e, s₁) → (read n).run s = (.error e, s₁)
  /-- Closing comes to an end. -/
  closes : s.leaving.Emits ∧ close.run s =
    match writeAll.run s.leaving with
    | (.ok _, s') => (.ok (), { s' with transport := s'.transport.flush })
    | (.error e, s') => (.error e, s')
  /-- Where there is room for what arrives, no call says that there is none. -/
  spares : ¬ s.connection.Brimful → (completeIo.run s).1 ≠ .error Deframer.fullError ∧
    s.connect ≠ .error Deframer.fullError ∧ ∀ n, ((read n).run s).1 ≠ .error Deframer.fullError
  /-- Closing never says so. -/
  leaves : (close.run s).1 ≠ .error Deframer.fullError

variable {s : Stream}

theorem emits_of_reached (h : s.connection.Reached) (heager : s.transport.Eager) : s.Emits := by
  have hsolid := h.regular.outgoing
  refine ⟨writeAll_loops hsolid, fun p q hgoes hpass => ?_⟩
  obtain ⟨hdrains, -⟩ := drains_of_goes hsolid hgoes
  obtain ⟨-, hcount, hless, -⟩ := goes_writing hdrains.solid hpass
  have := hless (heager.of_suffix hdrains.acceptances)
  omega

theorem connect_eq (s : Stream) :
    s.connect = ((conclude >>= fun _ => settle).run s).1.map fun _ =>
      ((conclude >>= fun _ => settle).run s).2 := by
  rw [← completePrior_eq, connect]
  rcases completePrior.run s with ⟨e | u, s'⟩ <;> rfl

/-- Whatever was called before, on every transport whose writes fail or take at least one byte the calls of a
stream return: completing by turns each of which reads something unless it is the last, and writes what waits
in passes each of which writes something; connecting, reading and closing by such completing and writing.  None
of them says that the buffer is full unless it was full before the call. -/
theorem returns_of_reached (h : s.connection.Reached) (heager : s.transport.Eager) : s.Returns := by
  constructor
  · intro hearly hgoing
    have hstage : ∃ stage, s.connection.stage = .ok stage := by
      cases hs : s.connection.stage with
      | ok stage => exact ⟨stage, rfl⟩
      | error e => exact absurd (by rw [Connection.progress, hs]) hgoing
    obtain ⟨stage, hok⟩ := hstage
    exact h.wants hearly hok
  · exact fun why hwhy => completeIo_refused hwhy
  · exact completeIo_loops h
  · intro p hgoes
    obtain ⟨hp, -, hsuffix⟩ := turns_count h hgoes
    exact emits_of_reached hp (heager.of_suffix hsuffix)
  · intro p q hgoes hpass
    obtain ⟨hp, hcount, -⟩ := turns_count h hgoes
    obtain ⟨-, -, -, -, hmoved, hless, -⟩ := goes_turn hp hpass
    exact ⟨by omega, hmoved.trans hcount⟩
  · exact ⟨conclude_loops h, connect_eq s⟩
  · refine fun n => ⟨fun s₁ hrun => read_loops h hrun, fun e s₁ hrun => ?_⟩
    rw [Transfer.read, run_bind_of_error hrun]
  · exact ⟨emits_of_reached (h.run [.close]) heager, close_run s⟩
  · refine fun hroom => ⟨spares_completeIo.error s h hroom, fun hfull => ?_,
      fun n => (spares_read n).error s h hroom⟩
    have hspared := spares_completePrior.error s h hroom
    rw [connect] at hfull
    split at hfull
    · cases hfull
    · next e s' hrun =>
      rw [hrun] at hspared
      exact hspared (congrArg Except.error (Except.error.inj hfull))
  · have hsolid : s.leaving.connection.session.outgoing.Solid := (h.run [.close]).regular.outgoing
    have hwritten := writeAll_ne_full hsolid
    rw [close_run]
    split
    · intro hfull
      cases hfull
    · next e s' hrun =>
      rw [hrun] at hwritten
      exact fun hfull => hwritten (congrArg Except.error (Except.error.inj hfull))

/-- The calls return where a write takes one byte only and the next fails. -/
theorem returns_of_reached_closed : ∃ c, Connection.start .distrustful 0 (.seeded [] 0 none) = .ok c ∧
    Returns ⟨c, { deliveries := [.data [22, 3]], acceptances := [.upTo 1, .failure .wouldBlock] }⟩ := by
  obtain ⟨c, hc⟩ := Connection.start_distrustful
  refine ⟨c, hc, returns_of_reached ⟨_, _, _, c, [], hc, rfl⟩ ?_⟩
  intro n hn
  obtain rfl : n = 1 := by simpa using hn
  exact Nat.one_pos

/-- A record of the greatest length that has been read and not taken in leaves no room: completing says so,
though it could be taken in. -/
theorem completeIo_crammed {config : Config} {time : Int} {random : RandomSource} {c : Connection}
    (hc : Connection.start config time random = .ok c) {wire : Record} (hwire : wire.Fits)
    (hlong : wire.payload.length = Record.maxPayload) :
    (completeIo.run ⟨c.run [.readTls { deliveries := [.data wire.encode] }], {}⟩).1
      = .error Deframer.fullError := by
  obtain ⟨o, hello, hstart, -⟩ := Connection.start_starts hc
  set s : Stream := ⟨c.run [.readTls { deliveries := [.data wire.encode] }], {}⟩ with hs
  have hreached : s.connection.Reached := ⟨config, time, random, c, _, hc, rfl⟩
  have hextend : s.connection = c.extend wire.encode :=
    Connection.readTls_wire hstart.stage hstart.closeReceived hstart.deframer hwire
  have hlength : wire.encode.length = Record.maxLength := by
    obtain ⟨l₁, l₂, -, hencode⟩ := Record.encode_cons hwire.1 (Record.lt_of_le_maxPayload hwire.2)
    rw [hencode]
    show wire.payload.length + 5 = _
    rw [hlong]
    rfl
  have hbrim : s.connection.Brimful := by
    rw [hextend]
    refine ⟨⟨o.stage, hstart.stage⟩, hstart.closeReceived, ?_⟩
    show (c.deframer.extend wire.encode).isFull = true
    rw [hstart.deframer]
    simpa [Deframer.isFull, Deframer.extend] using hlength
  have hearly : s.connection.isHandshaking = true := by
    rw [hextend, Connection.isHandshaking, Session.isHandshaking,
      show (c.extend wire.encode).session.traffic = false from hstart.traffic]
    rfl
  obtain ⟨w, s₁, hwrite, hflushes⟩ :=
    writeAll_flushes hreached.regular.outgoing (Transport.reliable_of_nil rfl)
  have hstage : s₁.connection.stage = .ok o.stage := by
    rw [hflushes.connection, hextend]
    exact hstart.stage
  have hwants : s₁.connection.wantsRead = true := by
    rw [(reached_writeAll hreached hwrite).wants (hflushes.isHandshaking.trans hearly) hstage, hflushes.idle]
    rfl
  rw [completeIo_brimful hbrim hwrite (.inl hearly) hflushes hwants]

/-- So a connection that was made to read a whole record, and not to take it in, cannot complete anything. -/
theorem completeIo_crammed_closed : ∃ c, Connection.start .distrustful 0 (.seeded [] 0 none) = .ok c ∧
    (completeIo.run ⟨c.run [.readTls { deliveries :=
      [.data (Record.encode ⟨⟨99⟩, .tls1, List.replicate 18432 0⟩)] }], {}⟩).1
        = .error ⟨.other, "message buffer full"⟩ := by
  obtain ⟨c, hc⟩ := Connection.start_distrustful
  refine ⟨c, hc, completeIo_crammed hc ⟨rfl, ?_⟩ ?_⟩
  · exact Nat.le_of_eq List.length_replicate
  · exact List.length_replicate

end Stream

end TlsClient
