import TlsClient.Proofs.Connection.Outcome
import TlsClient.Proofs.Stream.Reading

/-!
# What is written when connecting fails

Everything that a connection queues is either written or waits to be written (`Accounts`).  When connecting over
a transport whose writes do not fail comes to nothing because the connection has failed, all that was queued
before the last records were taken in has been written.  For what was queued then, an alert above all, there was
one write: the transport has as much of it as it took at once (`connect_failed`).
-/

namespace TlsClient

open Relation (ReflTransGen)

namespace Connection

variable {c : Connection} {stage : Stage}

/-- A connection that has not failed keeps its stage. -/
theorem going_of_ok (hok : c.stage = .ok stage) : c.progress ≠ .failed := by
  rw [ne_eq, progress_failed_iff, hok]
  rintro ⟨e, he⟩
  cases he

/-- A failure of the transport may pass; if not, nothing waits any more. -/
theorem transportFailed_of_ok (hok : c.stage = .ok stage) (kind : IoErrorKind) :
    c.transportFailed kind.failure = c ∨ c.transportFailed kind.failure = { c with
      session := (c.session.note (.transportFailed kind.failure)).loseTransport
      stage := .error (.transport kind.failure) } := by
  unfold transportFailed
  split
  · exact .inl rfl
  · rw [hok]
    exact .inr rfl

end Connection

namespace Stream

open Transfer

variable {s s' s'' s₁ : Stream} {n w : Nat} {e : TlsError}

/-! ## What is queued is written or waits -/

/-- What was queued in between has been written or waits behind what waited before. -/
def Accounts (s s' : Stream) : Prop :=
  ∃ rs, s'.connection.session.sent = s.connection.session.sent ++ rs ∧
    s'.transport.sent ++ s'.connection.session.outgoing.toBytes =
      s.transport.sent ++ s.connection.session.outgoing.toBytes ++ Session.wires rs

theorem Accounts.of_eq (hsent : s'.connection.session.sent = s.connection.session.sent)
    (hbytes : s'.transport.sent ++ s'.connection.session.outgoing.toBytes =
      s.transport.sent ++ s.connection.session.outgoing.toBytes) : s.Accounts s' := by
  refine ⟨[], ?_, ?_⟩
  · rw [hsent, List.append_nil]
  · rw [hbytes]
    exact (List.append_nil _).symm

theorem Accounts.trans (h : s.Accounts s') (h' : s'.Accounts s'') : s.Accounts s'' := by
  obtain ⟨rs, hsent, hbytes⟩ := h
  obtain ⟨rs', hsent', hbytes'⟩ := h'
  refine ⟨rs ++ rs', ?_, ?_⟩
  · rw [hsent', hsent, List.append_assoc]
  · rw [hbytes', hbytes, Session.wires, Session.wires, Session.wires, List.flatMap_append,
      List.append_assoc, List.append_assoc]

theorem Flushes.accounts (h : s.Flushes w s') : s.Accounts s' := by
  refine .of_eq ?_ ?_
  · rw [h.connection]
    rfl
  · rw [h.sent, h.connection]
    exact List.append_nil _

theorem Fetches.accounts (h : s.Fetches n s') : s.Accounts s' := by
  obtain ⟨-, hsame, d, hd⟩ := h.moves
  refine .of_eq ?_ ?_
  · rw [hd]
  · rw [hsame, hd]

theorem accounts_process (s : Stream) : s.Accounts { s with connection := s.connection.process.2 } := by
  obtain ⟨rs, hsent, hbytes⟩ := (Connection.process_fills s.connection).bytes
  refine ⟨rs, hsent, ?_⟩
  show s.transport.sent ++ s.connection.process.2.session.outgoing.toBytes = _
  rw [hbytes, List.append_assoc]

theorem goes_accounts {was : Bool} {p q : (Nat × Nat) × Stream} (hp : p.2.connection.Reached)
    (h : Goes (turn was) p q) : p.2.Accounts q.2 := by
  have hturned := p.2.turn_turned was p.1
  rw [show (turn was p.1).run p.2 = (.ok (.inr q.1), q.2) from h] at hturned
  generalize q.1 = moved at hturned
  generalize q.2 = t at hturned ⊢
  cases hturned with
  | @goesOn w n s₁ s₂ io c hwrite hwas hfetch hmore hprocess hearly =>
    have hprocessed := accounts_process s₂
    rw [hprocess] at hprocessed
    exact ((writeAll_ok hp.regular.outgoing hwrite).accounts.trans hfetch.accounts).trans hprocessed

/-- While connecting goes on, what is queued is accounted for. -/
theorem turns_accounts {was : Bool} {q : (Nat × Nat) × Stream} (h : s.connection.Reached)
    (hgoes : ReflTransGen (Goes (turn was)) ((0, 0), s) q) : s.Accounts q.2 := by
  have hall : q.2.connection.Reached ∧ s.Accounts q.2 := by
    refine goes_keeps (I := fun q => q.2.connection.Reached ∧ s.Accounts q.2) ?_ hgoes
      ⟨h, .of_eq rfl rfl⟩
    rintro p q ⟨hp, haccounts⟩ hpass
    exact ⟨(goes_turn hp hpass).2.1, haccounts.trans (goes_accounts hp hpass)⟩
  exact hall.2

/-! ## The last write -/

/-- A connection of a stream fails when it takes in what has arrived.  What had been queued by then had been
written; of what waits then the first bytes are written, at least one, and all if the transport takes what it is
offered and there are not more chunks than one write offers. -/
structure Falls (s : Stream) (c : Connection) (n : Nat) (s' : Stream) : Prop where
  failed : ∃ e, c.process.1 = .error e
  idle : c.wantsWrite = false
  written : ∃ rs, c.session.sent = s.connection.session.sent ++ rs ∧ s'.transport.sent =
    s.transport.sent ++ s.connection.session.outgoing.toBytes ++ Session.wires rs
      ++ c.process.2.session.outgoing.toBytes.take n
  connection : s'.connection = { c.process.2 with session :=
    { c.process.2.session with outgoing := c.process.2.session.outgoing.drop n } }
  some : c.process.2.wantsWrite = true → 0 < n
  whole : s.transport.acceptances = [] →
    c.process.2.session.outgoing.chunks.length ≤ ByteQueue.maxOffer → s'.connection.wantsWrite = false

/-- What is accounted for has been written where nothing waits. -/
theorem Accounts.written (h : s.Accounts s') (hidle : s'.connection.wantsWrite = false) :
    ∃ rs, s'.connection.session.sent = s.connection.session.sent ++ rs ∧ s'.transport.sent =
      s.transport.sent ++ s.connection.session.outgoing.toBytes ++ Session.wires rs := by
  obtain ⟨rs, hsent, hbytes⟩ := h
  rw [Connection.outgoing_eq_empty hidle] at hbytes
  exact ⟨rs, hsent, (List.append_nil _).symm.trans hbytes⟩

/-- A connection that has failed before has nothing more to say. -/
theorem falls_silent (haccounts : s.Accounts s') (hstage : s'.connection.stage = .error e)
    (hidle : s'.connection.wantsWrite = false) : s.Falls s'.connection 0 s' := by
  have hprocess : s'.connection.process = (.error e, s'.connection) := by
    rw [Connection.process, hstage]
  have hempty := Connection.outgoing_eq_empty hidle
  obtain ⟨rs, hsent, hbytes⟩ := haccounts.written hidle
  refine ⟨⟨e, by rw [hprocess]⟩, hidle, ⟨rs, hsent, ?_⟩, ?_, fun hwaits => ?_, fun _ _ => hidle⟩
  · rw [hbytes, List.take_zero, List.append_nil]
  · rw [hprocess]
    dsimp only
    rw [hempty]
    show _ = { s'.connection with session := { s'.connection.session with outgoing := {} } }
    rw [← hempty]
  · rw [hprocess] at hwaits
    exact absurd (hwaits.symm.trans hidle) (by decide)

/-- After a failure there is one write. -/
theorem falls_writeTls {c : Connection} (haccounts : s.Accounts s₁) (hidle : s₁.connection.wantsWrite = false)
    (hprocess : s₁.connection.process = (.error e, c)) (hsolid : c.session.outgoing.Solid)
    (hreliable : s.transport.Reliable) (hsuffix : s₁.transport.acceptances <:+ s.transport.acceptances) :
    ∃ n, s.Falls s₁.connection n (writeTls.run { s₁ with connection := c }).2 := by
  obtain ⟨rs, hsent, hbytes⟩ := haccounts.written hidle
  have hwrites := writeTls_writes (s := { s₁ with connection := c }) hsolid
  generalize writeTls.run { s₁ with connection := c } = x at hwrites
  cases hwrites with
  | idle hnone =>
    refine ⟨0, ⟨e, by rw [hprocess]⟩, hidle, ⟨rs, hsent, ?_⟩, ?_, fun hwaits => ?_, fun _ _ => hnone⟩
    · rw [List.take_zero, List.append_nil]
      exact hbytes
    · have hempty : c.session.outgoing = {} := Connection.outgoing_eq_empty hnone
      rw [hprocess]
      dsimp only
      rw [hempty]
      show _ = { c with session := { c.session with outgoing := {} } }
      rw [← hempty]
    · rw [hprocess] at hwaits
      exact absurd (hwaits.symm.trans hnone) (by decide)
  | @takes n rest hwaits hn hrest hpos hless =>
    refine ⟨n, ⟨e, by rw [hprocess]⟩, hidle, ⟨rs, hsent, ?_⟩, ?_, fun _ => ?_, fun hnone hfew => ?_⟩
    · rw [hprocess]
      show s₁.transport.sent ++ _ = _
      rw [hbytes]
    · rw [hprocess]
    · exact hpos (hreliable.of_suffix hsuffix).eager
    · rw [hprocess] at hfew
      have hnone₁ : s₁.transport.acceptances = [] := by
        rw [hnone] at hsuffix
        exact List.suffix_nil.mp hsuffix
      rcases hless with hless | ⟨-, -, rfl⟩
      · rw [show ({ s₁ with connection := c } : Stream).transport.acceptances = [] from hnone₁] at hless
        cases hless
      · have hall : (c.session.outgoing.drop c.session.outgoing.offer.flatten.length).toBytes = [] := by
          rw [ByteQueue.toBytes_drop, ByteQueue.offer_of_length_le hfew, List.drop_length]
        rw [Connection.wantsWrite, Session.wantsWrite]
        show (!(c.session.outgoing.drop _).isEmpty) = false
        rw [(hsolid.drop _).eq_empty hall]
        rfl
  | @fails kind rest hfails =>
    obtain ⟨m, -, hm⟩ := hreliable (.failure kind) (hsuffix.subset (by rw [hfails]; exact List.mem_cons_self))
    cases hm

/-- After a failure of the transport nothing is left to write. -/
theorem falls_readTls {why : IoError} (haccounts : s.Accounts s₁) (hidle : s₁.connection.wantsWrite = false)
    (hwants : s₁.connection.wantsRead = true) (hread : readTls.run s₁ = (.error why, s'))
    (hfailed : s'.connection.progress = .failed) : s.Falls s'.connection 0 s' := by
  obtain ⟨stage, hok⟩ := Connection.ok_of_wantsRead hwants
  have hreads := s₁.readTls_reads
  rw [hread] at hreads
  cases hreads with
  | full => exact absurd hfailed (Connection.going_of_ok hok)
  | @fails kind t hopen hgiven =>
    rcases Connection.transportFailed_of_ok hok kind with hsame | hlost
    · rw [hsame] at hfailed
      exact absurd hfailed (Connection.going_of_ok hok)
    · have hsent : t.sent = s₁.transport.sent := (congrArg (fun x => x.2.sent) hgiven).symm
      rw [hlost]
      refine falls_silent (haccounts.trans (.of_eq ?_ ?_)) rfl rfl
      · exact Session.sent_note _ _
      · rw [Connection.outgoing_eq_empty hidle, hsent]
        rfl

/-! ## Connecting -/

/-- Where a connection fails in the last turn, one write is left. -/
theorem turn_falls {why : IoError} {was : Bool} {moved : Nat × Nat} (h : s₁.connection.Reached)
    (haccounts : s.Accounts s₁) (hreliable : s.transport.Reliable)
    (hsuffix : s₁.transport.acceptances <:+ s.transport.acceptances)
    (hrun : (turn was moved).run s₁ = (.error why, s')) (hfailed : s'.connection.progress = .failed) :
    ∃ c n, s.Falls c n s' := by
  have hturned := s₁.turn_turned was moved
  rw [hrun] at hturned
  cases hturned with
  | unwritten hwrite =>
    obtain ⟨w, s₂, hwritten, -⟩ := writeAll_flushes h.regular.outgoing (hreliable.of_suffix hsuffix)
    cases hwritten.symm.trans hwrite
  | unread hwrite hgo hwants hread =>
    have hflushes := writeAll_ok h.regular.outgoing hwrite
    exact ⟨_, 0, falls_readTls (haccounts.trans hflushes.accounts) hflushes.idle hwants hread hfailed⟩
  | @broken w n s₂ s₃ e c hwrite hgo hfetch hprocess =>
    have hflushes := writeAll_ok h.regular.outgoing hwrite
    obtain ⟨-, hsame, d, hd⟩ := hfetch.moves
    have hidle : s₃.connection.wantsWrite = false := by
      rw [hd]
      exact hflushes.idle
    have hsolid : c.session.outgoing.Solid := by
      have hc : c = s₃.connection.run [.process] := (congrArg Prod.snd hprocess).symm
      rw [hc]
      exact ((hfetch.reached (reached_writeAll h hwrite)).run _).regular.outgoing
    have hless : s₃.transport.acceptances <:+ s.transport.acceptances := by
      rw [hsame]
      exact hflushes.acceptances.trans hsuffix
    obtain ⟨n, hfalls⟩ := falls_writeTls ((haccounts.trans hflushes.accounts).trans hfetch.accounts) hidle
      hprocess hsolid hreliable hless
    exact ⟨_, n, hfalls⟩
  | cutOff hwrite hwas hwants hread hprocess hearly =>
    obtain ⟨⟨stage, hok⟩, -⟩ := Connection.process_settled hprocess
    exact absurd hfailed (Connection.going_of_ok hok)

/-- Where a connection fails while it completes over a transport whose writes do not fail, one write is left. -/
theorem completeIo_falls {why : IoError} (h : s.connection.Reached) (hreliable : s.transport.Reliable)
    (hrun : completeIo.run s = (.error why, s'))
    (hfailed : s'.connection.progress = .failed) : ∃ c n, s.Falls c n s' := by
  by_cases hlost : ∃ why, s.connection.stage = .error (.transport why)
  · obtain ⟨why', hwhy⟩ := hlost
    rw [completeIo_refused hwhy] at hrun
    cases hrun
    have hidle : s.connection.wantsWrite = false := by
      rw [Connection.wantsWrite, Session.wantsWrite, h.regular.lost why' hwhy]
      rfl
    exact ⟨_, 0, falls_silent (.of_eq rfl rfl) hwhy hidle⟩
  · obtain ⟨q, hgoes, hends⟩ := completeIo_loops h (by simpa using hlost)
    obtain ⟨hq, -, hsuffix⟩ := turns_count h hgoes
    rw [hrun] at hends
    cases hends with
    | fails hlast => exact turn_falls hq (turns_accounts h hgoes) hreliable hsuffix hlast hfailed

/-- A handshake that is over leaves nothing that could fail, over a transport whose writes do not fail. -/
theorem settle_ne_error {why : IoError} (h : s.connection.Reached) (hreliable : s.transport.Reliable)
    (hover : s.connection.isHandshaking = false) : settle.run s ≠ (.error why, s') := by
  intro hrun
  unfold settle at hrun
  rw [run_bind_ask] at hrun
  split at hrun
  · next hwants =>
    have hup : ∀ why, s.connection.stage ≠ .error (.transport why) := by
      intro why' hwhy
      rw [Connection.wantsWrite, Session.wantsWrite, h.regular.lost why' hwhy] at hwants
      cases hwants
    obtain ⟨w, s₁, hwrite, -⟩ := writeAll_flushes h.regular.outgoing hreliable
    have hcomplete : completeIo.run s = (.ok (0, w), s₁) := by
      rw [completeIo_writes h hover hwants hup, run_bind_of_ok hwrite]
      rfl
    rw [run_bind_of_ok hcomplete] at hrun
    cases hrun
  · cases hrun

/-- Whatever was called before, and whatever the server sends: when connecting over a transport whose writes do
not fail ends with an error because the connection has failed, everything that was queued before the last
records were taken in has been written, and of what was queued then as much as the transport took at once. -/
theorem connect_failed {why : IoError} (h : s.connection.Reached) (hreliable : s.transport.Reliable)
    (hrun : completePrior.run s = (.error why, s')) (hfailed : s'.connection.progress = .failed) :
    s.connect = .error why ∧ ∃ c n, s.Falls c n s' := by
  refine ⟨by rw [connect, hrun], ?_⟩
  rw [completePrior_eq] at hrun
  rcases error_of_bind hrun with hconclude | ⟨u, s₁, hconclude, hsettle⟩
  · unfold conclude at hconclude
    rw [run_bind_ask] at hconclude
    split at hconclude
    · rcases error_of_bind hconclude with hcomplete | ⟨moved, s₂, -, hrest⟩
      · exact completeIo_falls h hreliable hcomplete hfailed
      · cases hrest
    · cases hconclude
  · have hs₁ := runs_conclude.reached h
    rw [hconclude] at hs₁
    obtain ⟨hover, hsuffix⟩ := conclude_ok h hconclude
    exact absurd hsettle (settle_ne_error hs₁ (hreliable.of_suffix hsuffix) hover)

end Stream

/-- A transport that brings no record, and takes three bytes of the second write. -/
def Transport.sparing : Transport where
  deliveries := [.data [255, 255, 255, 255, 255]]
  acceptances := [.upTo 4096, .upTo 3]

theorem Transport.reliable_sparing : sparing.Reliable := by
  intro a ha
  simp only [sparing, List.mem_cons, List.not_mem_nil, or_false] at ha
  rcases ha with rfl | rfl
  · exact ⟨4096, by decide, rfl⟩
  · exact ⟨3, by decide, rfl⟩

namespace Stream

open Transfer

/-- The server is told the first three bytes of an alert, and connecting ends with the rest of it unwritten. -/
theorem connect_failed_closed : ∃ c s' why, Connection.start .distrustful 0 (.seeded [] 0 none) = .ok c ∧
    completePrior.run ⟨c, .sparing⟩ = (.error why, s') ∧ s'.connection.progress = .failed ∧
    s'.connection.session.outgoing.toBytes = [0, 2, 2, 22] ∧
    connect ⟨c, .sparing⟩ = .error why ∧ ∃ c₁ n, Falls ⟨c, .sparing⟩ c₁ n s' := by
  obtain ⟨c, hc⟩ := Connection.start_distrustful
  have hall : let x := completePrior.run ⟨c, .sparing⟩
      x.1.isOk = false ∧ x.2.connection.progress = .failed ∧
        x.2.connection.session.outgoing.toBytes = [0, 2, 2, 22] := by
    apply Connection.of_start hc
    decide +kernel
  obtain ⟨herror, hfailed, hleft⟩ := hall
  rcases hrun : completePrior.run ⟨c, .sparing⟩ with ⟨why | u, s'⟩
  all_goals rw [hrun] at herror hfailed hleft
  · have hreached : c.Reached := ⟨_, _, _, c, [], hc, rfl⟩
    exact ⟨c, s', why, hc, hrun, hfailed, hleft,
      connect_failed hreached Transport.reliable_sparing hrun hfailed⟩
  · cases herror

end Stream

end TlsClient
