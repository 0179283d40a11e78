import TlsClient.Proofs.Connection.Holding

/-!
# What moves between a connection and its transport

How transfers run one after another, and what a transport gives and takes: a read gives bytes that were still
to come (`Transport.read_ok`), a write takes the front of what it is offered (`Transport.writes_write`).  From
these come the two moves of a stream, each with all the ways it can turn out (`readTls_reads`,
`writeTls_writes`).
-/

namespace TlsClient

/-! ## Running transfers -/

namespace Transfer

variable {α β : Type}

theorem run_bind (x : Transfer α) (f : α → Transfer β) (s : Stream) : (x >>= f).run s =
    match x.run s with
    | (.ok a, s') => (f a).run s'
    | (.error e, s') => (.error e, s') := by
  show (ExceptT.bindCont f (x.run s).1).run (x.run s).2 = _
  rcases x.run s with ⟨e | a, s'⟩ <;> rfl

theorem run_bind_of_ok {x : Transfer α} {f : α → Transfer β} {s s' : Stream} {a : α}
    (h : x.run s = (.ok a, s')) : (x >>= f).run s = (f a).run s' := by rw [run_bind, h]

theorem run_bind_of_error {x : Transfer α} {f : α → Transfer β} {s s' : Stream} {e : IoError}
    (h : x.run s = (.error e, s')) : (x >>= f).run s = (.error e, s') := by rw [run_bind, h]

/-- A sequence that succeeds succeeds in both parts. -/
theorem ok_of_bind {x : Transfer α} {f : α → Transfer β} {s s' : Stream} {b : β}
    (h : (x >>= f).run s = (.ok b, s')) :
    ∃ a s₁, x.run s = (.ok a, s₁) ∧ (f a).run s₁ = (.ok b, s') := by
  rcases hx : x.run s with ⟨e | a, s₁⟩
  · rw [run_bind_of_error hx] at h
    cases h
  · rw [run_bind_of_ok hx] at h
    exact ⟨a, s₁, rfl, h⟩

/-- A sequence that fails fails in one of its parts. -/
theorem error_of_bind {x : Transfer α} {f : α → Transfer β} {s s' : Stream} {e : IoError}
    (h : (x >>= f).run s = (.error e, s')) :
    x.run s = (.error e, s') ∨ ∃ a s₁, x.run s = (.ok a, s₁) ∧ (f a).run s₁ = (.error e, s') := by
  rcases hx : x.run s with ⟨e' | a, s₁⟩
  · rw [run_bind_of_error hx] at h
    cases h
    exact .inl rfl
  · rw [run_bind_of_ok hx] at h
    exact .inr ⟨a, s₁, rfl, h⟩

@[simp] theorem run_bind_ask (f : Connection → α) (g : α → Transfer β) (s : Stream) :
    (ask f >>= g).run s = (g (f s.connection)).run s := rfl

@[simp] theorem run_bind_get (g : Stream → Transfer β) (s : Stream) :
    ((get : Transfer Stream) >>= g).run s = (g s).run s := rfl

@[simp] theorem run_bind_process (g : Except TlsError IoState → Transfer β) (s : Stream) :
    (process >>= g).run s =
      (g s.connection.process.1).run { s with connection := s.connection.process.2 } := rfl

theorem run_readTls {s : Stream} {r : Except IoError Nat} {c : Connection} {t : Transport}
    (h : s.connection.readTls s.transport = (r, c, t)) :
    readTls.run s = (r, { connection := c, transport := t }) := by
  show ((s.connection.readTls s.transport).1,
    Stream.mk (s.connection.readTls s.transport).2.1 (s.connection.readTls s.transport).2.2) = _
  rw [h]

theorem run_writeTls {s : Stream} {r : Except IoError Nat} {c : Connection} {t : Transport}
    (h : s.connection.writeTls s.transport = (r, c, t)) :
    writeTls.run s = (r, { connection := c, transport := t }) := by
  show ((s.connection.writeTls s.transport).1,
    Stream.mk (s.connection.writeTls s.transport).2.1 (s.connection.writeTls s.transport).2.2) = _
  rw [h]

end Transfer

/-! ## Transports -/

namespace Transport

variable {t t' : Transport} {n : Nat} {bs : Bytes} {ds rest : List Delivery} {atEnd : Option IoErrorKind}

/-- Each write fails or takes at least one byte. -/
def Eager (t : Transport) : Prop := ∀ n, .upTo n ∈ t.acceptances → 0 < n

/-- No write fails, and each takes at least one byte. -/
def Reliable (t : Transport) : Prop := ∀ a ∈ t.acceptances, ∃ n, 0 < n ∧ a = .upTo n

/-- Nothing more comes, without a failure. -/
def Ended (t : Transport) : Prop := t.deliveries = [] ∧ t.atEnd = none

/-- Where nothing is said about the writes, each takes all that it is offered. -/
theorem reliable_of_nil (h : t.acceptances = []) : t.Reliable := by
  rw [Reliable, h]
  exact List.forall_mem_nil _

theorem Reliable.eager (h : t.Reliable) : t.Eager := by
  intro n hn
  obtain ⟨m, hm, heq⟩ := h _ hn
  cases heq
  exact hm

theorem Eager.of_suffix (h : t.Eager) (hsuffix : t'.acceptances <:+ t.acceptances) : t'.Eager :=
  fun n hn => h n (hsuffix.subset hn)

theorem Reliable.of_suffix (h : t.Reliable) (hsuffix : t'.acceptances <:+ t.acceptances) : t'.Reliable :=
  fun a ha => h a (hsuffix.subset ha)

/-- What a read gives was still to come; none is given at the end only. -/
theorem receive_ok (h : receive atEnd n ds = (.ok bs, rest)) :
    bs.length + readable { deliveries := rest } = readable { deliveries := ds } ∧
      (bs = [] → 0 < n → rest = [] ∧ atEnd = none) := by
  induction ds with
  | nil =>
    cases atEnd with
    | none =>
      cases h
      exact ⟨rfl, fun _ _ => ⟨rfl, rfl⟩⟩
    | some kind => cases h
  | cons d ds ih =>
    match d, h with
    | .failure kind, h => cases h
    | .data [], h =>
      obtain ⟨hcount, hend⟩ := ih h
      refine ⟨hcount.trans ?_, hend⟩
      exact (Nat.zero_add _).symm
    | .data (b :: bs), h =>
      cases h
      constructor
      · simp only [readable, List.foldr_cons, ← Nat.add_assoc, ← List.length_append,
          List.take_append_drop]
      · intro hnil hn
        rcases List.take_eq_nil_iff.mp hnil with h₀ | h₀
        · omega
        · cases h₀

theorem read_ok (h : t.read n = (.ok bs, t')) :
    bs.length + t'.readable = t.readable ∧ (bs = [] → 0 < n → t'.Ended) ∧
      t' = { t with deliveries := t'.deliveries } := by
  rcases hrest : receive t.atEnd n t.deliveries with ⟨result, rest⟩
  simp only [read, hrest] at h
  cases h
  obtain ⟨hcount, hend⟩ := receive_ok hrest
  exact ⟨hcount, hend, rfl⟩

theorem receive_error {e : IoError} (h : (receive atEnd n ds).1 = .error e) :
    ∃ kind : IoErrorKind, e = kind.failure := by
  induction ds with
  | nil =>
    cases atEnd with
    | none => cases h
    | some kind =>
      cases h
      exact ⟨kind, rfl⟩
  | cons d ds ih =>
    match d, h with
    | .failure kind, h =>
      cases h
      exact ⟨kind, rfl⟩
    | .data [], h => exact ih h
    | .data (b :: bs), h => cases h

/-- How a write of some bytes turns out. -/
inductive Writes (t : Transport) (bs : Bytes) : Except IoError Nat × Transport → Prop
  | takes {n : Nat} {rest : List Acceptance} (hn : n ≤ bs.length) (hrest : rest <:+ t.acceptances)
    (hpos : t.Eager → bs ≠ [] → 0 < n)
    (hless : rest.length < t.acceptances.length ∨ t.acceptances = [] ∧ rest = [] ∧ n = bs.length) :
    Writes t bs (.ok n, { t with acceptances := rest, sent := t.sent ++ bs.take n })
  | fails {kind : IoErrorKind} {rest : List Acceptance} (h : t.acceptances = .failure kind :: rest) :
    Writes t bs (.error kind.failure, { t with acceptances := rest })

theorem writes_write (t : Transport) (pieces : List Bytes) :
    t.Writes pieces.flatten (t.write pieces) := by
  set bs := pieces.flatten with hbs
  have hpos (m : Nat) (hm : 0 < m) (hne : bs ≠ []) : 0 < (bs.take m).length := by
    rw [List.length_take]
    exact Nat.lt_min.mpr ⟨hm, List.length_pos_iff.mpr hne⟩
  have htaken (m : Nat) : bs.take m = bs.take (bs.take m).length :=
    List.prefix_iff_eq_take.mp (List.take_prefix m bs)
  unfold write
  split
  · next hempty =>
    have hwhole : t.Writes bs (.ok bs.length, { t with acceptances := [], sent := t.sent ++ bs.take bs.length }) :=
      .takes (Nat.le_refl _) (List.nil_suffix) (fun _ hne => List.length_pos_iff.mpr hne)
        (.inr ⟨hempty, rfl, rfl⟩)
    rw [List.take_length] at hwhole
    dsimp only
    rw [List.take_length]
    exact hwhole
  · next m rest hacceptances =>
    rw [← hbs]
    dsimp only
    nth_rewrite 2 [htaken m]
    refine .takes (List.length_take_le' m bs) ⟨[.upTo m], hacceptances.symm⟩ (fun heager hne => ?_) (.inl ?_)
    · exact hpos m (heager m (by simp [hacceptances])) hne
    · simp [hacceptances]
  · next kind rest hacceptances => exact .fails hacceptances

end Transport

/-- Where nothing is to be written, nothing waits. -/
theorem Connection.outgoing_eq_empty {c : Connection} (h : c.wantsWrite = false) :
    c.session.outgoing = {} := by
  apply ByteQueue.isEmpty_iff.mp
  simpa [wantsWrite, Session.wantsWrite] using h

namespace Stream

variable {s s' : Stream}

/-! ## The moves of a stream -/

/-- How a read turns out. -/
inductive Reads (s : Stream) : Except IoError Nat × Stream → Prop
  | closed (hclose : s.connection.session.closeReceived = true) : Reads s (.ok 0, s)
  | full (hopen : s.connection.session.closeReceived = false) (hfull : s.connection.deframer.isFull = true) :
    Reads s (.error Deframer.fullError, s)
  | arrives {bs : Bytes} {t : Transport} (hopen : s.connection.session.closeReceived = false)
    (hroom : s.connection.deframer.isFull = false)
    (hread : s.transport.read s.connection.deframer.room = (.ok bs, t)) :
    Reads s (.ok bs.length,
      { connection := { s.connection with deframer := s.connection.deframer.push bs }, transport := t })
  | fails {kind : IoErrorKind} {t : Transport} (hopen : s.connection.session.closeReceived = false)
    (hread : s.transport.read s.connection.deframer.room = (.error kind.failure, t)) :
    Reads s (.error kind.failure,
      { connection := s.connection.transportFailed kind.failure, transport := t })

/-- How a write turns out. -/
inductive Writes (s : Stream) : Except IoError Nat × Stream → Prop
  | idle (h : s.connection.wantsWrite = false) : Writes s (.ok 0, s)
  | takes {n : Nat} {rest : List Acceptance} (h : s.connection.wantsWrite = true)
    (hn : n ≤ s.connection.session.outgoing.offer.flatten.length)
    (hrest : rest <:+ s.transport.acceptances)
    (hpos : s.transport.Eager → 0 < n)
    (hless : rest.length < s.transport.acceptances.length ∨
      s.transport.acceptances = [] ∧ rest = [] ∧ n = s.connection.session.outgoing.offer.flatten.length) :
    Writes s (.ok n,
      { connection := { s.connection with session :=
          { s.connection.session with outgoing := s.connection.session.outgoing.drop n } },
        transport := { s.transport with
          acceptances := rest
          sent := s.transport.sent ++ s.connection.session.outgoing.toBytes.take n } })
  | fails {kind : IoErrorKind} {rest : List Acceptance}
    (h : s.transport.acceptances = .failure kind :: rest) :
    Writes s (.error kind.failure,
      { connection := s.connection.transportFailed kind.failure,
        transport := { s.transport with acceptances := rest } })

theorem readTls_reads (s : Stream) : s.Reads (Transfer.readTls.run s) := by
  obtain ⟨c, t⟩ := s
  by_cases hclose : c.session.closeReceived = true
  · have hread : c.readTls t = (.ok 0, c, t) := by rw [Connection.readTls, if_pos hclose]
    rw [Transfer.run_readTls hread]
    exact .closed hclose
  have hopen := Bool.eq_false_iff.mpr hclose
  by_cases hfull : c.deframer.isFull = true
  · have hread : c.readTls t = (.error Deframer.fullError, c, t) := by
      rw [Connection.readTls, if_neg hclose, if_pos hfull]
    rw [Transfer.run_readTls hread]
    exact .full hopen hfull
  rcases hx : t.read c.deframer.room with ⟨e | bs, t'⟩
  · have hread : c.readTls t = (.error e, c.transportFailed e, t') := by
      rw [Connection.readTls, if_neg hclose, if_neg hfull, hx]
    obtain ⟨kind, rfl⟩ := Transport.receive_error
      (show (Transport.receive t.atEnd c.deframer.room t.deliveries).1 = .error e from congrArg Prod.fst hx)
    rw [Transfer.run_readTls hread]
    exact .fails hopen hx
  · have hread : c.readTls t =
        (.ok bs.length, { c with deframer := c.deframer.push bs }, t') := by
      rw [Connection.readTls, if_neg hclose, if_neg hfull, hx]
    rw [Transfer.run_readTls hread]
    exact .arrives hopen (Bool.eq_false_iff.mpr hfull) hx

theorem writeTls_writes (h : s.connection.session.outgoing.Solid) :
    s.Writes (Transfer.writeTls.run s) := by
  obtain ⟨c, t⟩ := s
  by_cases hwants : c.wantsWrite = true
  · have hwaits : c.session.outgoing.isEmpty = false := by
      simpa [Connection.wantsWrite, Session.wantsWrite] using hwants
    have hoffer : c.session.outgoing.offer.flatten ≠ [] := List.ne_nil_of_length_pos (h.offer_pos hwaits)
    have hwrites := t.writes_write c.session.outgoing.offer
    rcases hx : t.write c.session.outgoing.offer with ⟨e | n, t'⟩
    all_goals rw [hx] at hwrites
    · have hwrite : c.writeTls t = (.error e, c.transportFailed e, t') := by
        rw [Connection.writeTls, if_neg (by simp [hwants]), hx]
      rw [Transfer.run_writeTls hwrite]
      cases hwrites with
      | fails hfails => exact .fails hfails
    · have hwrite : c.writeTls t = (.ok n, { c with session :=
          { c.session with outgoing := c.session.outgoing.drop n } }, t') := by
        rw [Connection.writeTls, if_neg (by simp [hwants]), hx]
      rw [Transfer.run_writeTls hwrite]
      cases hwrites with
      | takes hn hrest hpos hless =>
        rw [ByteQueue.take_offer _ hn]
        exact .takes hwants hn hrest (fun heager => hpos heager hoffer) hless
  · have hidle : c.wantsWrite = false := Bool.eq_false_iff.mpr hwants
    have hwrite : c.writeTls t = (.ok 0, c, t) := by
      rw [Connection.writeTls, if_pos (by simp [hidle])]
    rw [Transfer.run_writeTls hwrite]
    exact .idle hidle

end Stream

end TlsClient
