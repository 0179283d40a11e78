import TlsClient.Proofs.Connection.Standing
import TlsClient.Proofs.Queues

/-!
# Failure is final

A connection that has failed gives its first error to every later call, takes nothing in, and adds nothing
to what is to be written: only bytes that were waiting still leave (`run_failed`).  It can be closed without
having failed in one way only: the peer closed it after the handshake (`failure_final`).
-/

namespace TlsClient

theorem Stage.progress_ne_failed (stage : Stage) : stage.progress ≠ .failed := by
  cases stage with
  | serverParams flight key => cases key <;> rintro ⟨⟩
  | requestOrDone flight key =>
    unfold progress
    dsimp only
    split <;> rintro ⟨⟩
  | _ => rintro ⟨⟩

/-- What a user does with a connection: one call, or moving bytes until nothing more is to be done. -/
inductive Operation where
  | call (call : Call)
  | completeIo (t : Transport)

namespace Connection

variable {c c' c'' : Connection} {e : TlsError}

/-- At every moment a connection has failed just if its stage is an error. -/
theorem progress_failed_iff : c.progress = .failed ↔ ∃ e, c.stage = .error e := by
  unfold progress
  split
  · next stage hok => simp [hok, stage.progress_ne_failed]
  · next e he => simp [he]

/-- The connection after an operation. -/
def operate (c : Connection) : Operation → Connection
  | .call call => c.call call
  | .completeIo t => (Transfer.completeIo.run { connection := c, transport := t }).2.connection

/-- The connection after some operations. -/
def operateAll (c : Connection) (ops : List Operation) : Connection := ops.foldl operate c

/-- Operations come down to calls. -/
theorem operateAll_eq_run (c : Connection) (ops : List Operation) :
    ∃ calls, c.operateAll ops = c.run calls := by
  refine exists_run_foldl id (fun c op => ?_) c ops
  cases op with
  | call call => exact ⟨[call], rfl⟩
  | completeIo t => exact Transfer.runs_completeIo _

/-! ## After a failure -/

/-- What a connection that has failed with an error answers. -/
structure Failed (c : Connection) (e : TlsError) : Prop where
  process : c.process = (.error e, c)
  progress : c.progress = .failed
  status : c.session.status = .closed
  write : ∀ bs, ∃ why, c.write bs = (.error why, c) ∧ why.kind = .notConnected
  wantsRead : c.wantsRead = false

/-- Nothing is queued from one connection to the other, and bytes that wait can only leave. -/
structure Silent (c c' : Connection) : Prop where
  sent : c'.session.sent = c.session.sent
  outgoing : c'.session.outgoing.toBytes <:+ c.session.outgoing.toBytes

theorem Silent.refl (c : Connection) : c.Silent c := ⟨rfl, List.suffix_rfl⟩

theorem Silent.trans (h : c.Silent c') (h' : c'.Silent c'') : c.Silent c'' :=
  ⟨h'.sent.trans h.sent, h'.outgoing.trans h.outgoing⟩

theorem failed_of_closed (hstage : c.stage = .error e) (hclosed : c.session.status = .closed) :
    c.Failed e := by
  have hrefused (bs : Bytes) : c.session.write bs = (.error .connectionClosed, c.session) :=
    Session.write_refused (by rw [hclosed]; decide) bs
  refine ⟨by rw [process, hstage], by rw [progress, hstage], hclosed, fun bs => ?_, ?_⟩
  · exact ⟨TlsError.connectionClosed.toIo, by rw [write, hrefused]; rfl, rfl⟩
  · rw [wantsRead, hstage]
    rfl

theorem Exchanges.silent (h : c.Exchanges c') (hclosed : c.session.status = .closed)
    (he : c.stage = .error e) : c.Silent c' ∧ c'.session.status = .closed := by
  cases h with
  | idle => exact ⟨.refl c, hclosed⟩
  | arrives bs => exact ⟨⟨rfl, List.suffix_rfl⟩, hclosed⟩
  | leaves n => exact ⟨⟨rfl, ByteQueue.toBytes_drop_suffix _ _⟩, hclosed⟩
  | fails hstage e' => cases he.symm.trans hstage
  | loses _ => exact ⟨⟨rfl, List.nil_suffix⟩, rfl⟩

/-- Every call leaves a connection that has failed closed and silent. -/
theorem Failed.call (h : c.Failed e) (hstage : c.stage = .error e) (call : Call) :
    c.Silent (c.call call) ∧ (c.call call).session.status = .closed := by
  cases call with
  | readTls t => exact (exchanges_readTls c t).silent h.status hstage
  | writeTls t => exact (exchanges_writeTls c t).silent h.status hstage
  | process =>
    show c.Silent c.process.2 ∧ c.process.2.session.status = .closed
    rw [h.process]
    exact ⟨.refl c, h.status⟩
  | write bs =>
    obtain ⟨why, hwrite, -⟩ := h.write bs
    show c.Silent (c.write bs).2 ∧ (c.write bs).2.session.status = .closed
    rw [hwrite]
    exact ⟨.refl c, h.status⟩
  | read n => exact ⟨⟨rfl, List.suffix_rfl⟩, h.status⟩
  | close =>
    have hrefused : c.close = c := by
      rw [close, Session.sendClose_refused (by rw [h.status]; decide)]
    show c.Silent c.close ∧ c.close.session.status = .closed
    rw [hrefused]
    exact ⟨.refl c, h.status⟩

theorem run_failed (h : c.Failed e) (hstage : c.stage = .error e) (calls : List Call) :
    (c.run calls).Failed e ∧ c.Silent (c.run calls) := by
  induction calls generalizing c with
  | nil => exact ⟨h, .refl c⟩
  | cons call calls ih =>
    obtain ⟨hsilent, hclosed⟩ := h.call hstage call
    have hstage' := call_ended hstage call
    obtain ⟨hfailed, hsilent'⟩ := ih (failed_of_closed hstage' hclosed) hstage'
    exact ⟨hfailed, hsilent.trans hsilent'⟩

/-- An error that comes up is the one that is kept. -/
theorem process_error_iff : c.process.1 = .error e ↔ c.process.2.stage = .error e := by
  unfold process
  split
  · next e' hstage =>
    dsimp only
    rw [hstage]
    constructor <;> rintro ⟨⟩ <;> rfl
  · next stage hstage =>
    rcases c.takeRecords (c.deframer.buffer.length + 1) stage with ⟨e' | stage', c'⟩
    · constructor <;> rintro ⟨⟩ <;> rfl
    · constructor <;> rintro ⟨⟩

/-! ## Every run -/

variable {config : Config} {time : Int} {random : RandomSource}

/-- In a run, a connection with an error is closed. -/
theorem run_stage_error (h : Connection.start config time random = .ok c) (calls : List Call)
    (hstage : (c.run calls).stage = .error e) : (c.run calls).Failed e := by
  obtain ⟨-, hstands⟩ := run_orderly h calls
  exact failed_of_closed hstage (hstands.fallen_of_error hstage).closed

/-- A connection that has failed in a run has an error that it gives ever after, whatever is done, and it
queues nothing more.  The error with which taking in what has arrived ends is that error.  A connection that
is closed has failed, or the peer closed it after the handshake. -/
theorem failure_final (h : Connection.start config time random = .ok c) (ops : List Operation) :
    ((c.operateAll ops).progress = .failed → ∃ e, ∀ later,
      ((c.operateAll ops).operateAll later).Failed e ∧
        (c.operateAll ops).Silent ((c.operateAll ops).operateAll later)) ∧
    (∀ e, (c.operateAll ops).process.1 = .error e → (c.operateAll ops).process.2.Failed e) ∧
    ((c.operateAll ops).session.status = .closed →
      (c.operateAll ops).progress = .failed ∨ c.PeerClosed (c.operateAll ops).session) := by
  obtain ⟨calls, hcalls⟩ := operateAll_eq_run c ops
  rw [hcalls]
  refine ⟨fun hfailed => ?_, fun e he => ?_, fun hclosed => ?_⟩
  · rcases hstage : (c.run calls).stage with e | stage
    · refine ⟨e, fun later => ?_⟩
      obtain ⟨calls', hlater⟩ := operateAll_eq_run (c.run calls) later
      rw [hlater]
      exact run_failed (run_stage_error h calls hstage) hstage calls'
    · rw [progress, hstage] at hfailed
      exact absurd hfailed (Stage.progress_ne_failed stage)
  · have hrun : c.run (calls ++ [.process]) = (c.run calls).process.2 := run_append c calls [.process]
    have hstage := process_error_iff.mp he
    rw [← hrun] at hstage ⊢
    exact run_stage_error h _ hstage
  · obtain ⟨-, hstands⟩ := run_orderly h calls
    cases hstands with
    | heeds _ hheeds => exact absurd hclosed hheeds.alive
    | left _ _ _ hleft => exact .inr hleft
    | fallen hstage => exact .inl (run_stage_error h calls hstage).progress

/-- A read that breaks makes a connection fail. -/
theorem failure_final_closed : ∃ c, Connection.start .distrustful 0 (.seeded [] 0 none) = .ok c ∧
    (c.readTls { deliveries := [.failure .brokenPipe] }).2.1.progress = .failed ∧
    ∃ e, ∀ later, ((c.readTls { deliveries := [.failure .brokenPipe] }).2.1.operateAll later).Failed e ∧
      (c.readTls { deliveries := [.failure .brokenPipe] }).2.1.Silent
        ((c.readTls { deliveries := [.failure .brokenPipe] }).2.1.operateAll later) := by
  obtain ⟨c, hc⟩ := start_distrustful
  obtain ⟨o, hello, hstarts, -⟩ := start_starts hc
  have hfailed : (c.readTls { deliveries := [.failure .brokenPipe] }).2.1.progress = .failed := by
    rw [readTls, if_neg (by rw [hstarts.closeReceived]; decide),
      if_neg (by rw [hstarts.deframer]; decide)]
    show (c.transportFailed IoErrorKind.brokenPipe.failure).progress = .failed
    rw [transportFailed, if_neg (by decide), hstarts.stage]
    rfl
  exact ⟨c, hc, hfailed,
    (failure_final hc [.call (.readTls { deliveries := [.failure .brokenPipe] })]).1 hfailed⟩

end Connection

end TlsClient
