import TlsClient.Connection.Tls
import TlsClient.Proofs.Connection.Soundness
import TlsClient.Proofs.Record.Deframing

/-!
# Where the server's bytes are cut

What becomes of a connection depends on the bytes of the server alone, not on the pieces in which they
are fed.  Taking in what has arrived and then the rest is taking in everything at once
(`process_extend`), because nothing but the deframer knows how far the bytes go.  So feeding any pieces
comes to what taking in their whole does (`feed_comesTo`), and two ways of cutting the same bytes cannot
be told apart (`feed_flatten`).
-/

namespace TlsClient

/-- The error that feeding ended with. -/
def Connection.Fed.failure (fed : Fed) : Option FeedError :=
  match fed.result with
  | some (.error e) => some e
  | _ => none

namespace Connection

variable {c c' : Connection} {stage : Stage}

/-! ## The deframer apart -/

/-- What something came to, had the deframer and the stage on record been others. -/
def apart {α : Type} (d : Deframer) (st : Except TlsError Stage) (x : α × Connection) :
    α × Connection :=
  (x.1, { x.2 with deframer := d, stage := st })

variable (d : Deframer) (st : Except TlsError Stage)

theorem deliver_apart (c : Connection) (stage : Stage) (m : Message) :
    ({ c with deframer := d, stage := st } : Connection).deliver stage m
      = apart d st (c.deliver stage m) := by
  unfold deliver
  dsimp only
  split <;> rfl

theorem deliverAll_apart (c : Connection) (stage : Stage) (ms : List Message) :
    ({ c with deframer := d, stage := st } : Connection).deliverAll stage ms
      = apart d st (c.deliverAll stage ms) := by
  induction ms generalizing c stage with
  | nil => rfl
  | cons m ms ih =>
    unfold deliverAll
    rw [deliver_apart]
    rcases c.deliver stage m with ⟨e | stage', c'⟩
    · rfl
    · exact ih c' stage'

theorem takeOpened_apart (c : Connection) (stage : Stage) (r : Record) :
    ({ c with deframer := d, stage := st } : Connection).takeOpened stage r
      = apart d st (c.takeOpened stage r) := by
  unfold takeOpened
  split
  · rfl
  · split
    · unfold takeHandshakes
      dsimp only
      rcases c.handshakes.push r with ⟨e | n, j⟩
      · rfl
      · exact deliverAll_apart d st { c with handshakes := { j with ready := [] } } stage j.ready
    · split
      · rfl
      · split
        · unfold takeMessage
          cases Message.ofRecord r with
          | error e => rfl
          | ok m => exact deliver_apart d st c stage m
        · rfl

/-- Taking in a record neither reads nor changes the deframer and the stage on record. -/
theorem takeRecord_apart (c : Connection) (stage : Stage) (r : Record) :
    ({ c with deframer := d, stage := st } : Connection).takeRecord stage r
      = apart d st (c.takeRecord stage r) := by
  unfold takeRecord
  dsimp only
  rcases c.session.layer.unprotect r with ⟨e | r, layer⟩
  · rfl
  · exact takeOpened_apart d st { c with session := { c.session with layer }.happened _ } stage r

omit d st

theorem takeRecord_deframer (c : Connection) (stage : Stage) (r : Record) :
    (c.takeRecord stage r).2.deframer = c.deframer :=
  congrArg (fun x : Except TlsError Stage × Connection => x.2.deframer)
    (takeRecord_apart c.deframer c.stage c stage r)

theorem takeRecord_stage (c : Connection) (stage : Stage) (r : Record) :
    (c.takeRecord stage r).2.stage = c.stage :=
  congrArg (fun x : Except TlsError Stage × Connection => x.2.stage)
    (takeRecord_apart c.deframer c.stage c stage r)

/-- A connection for which more bytes have arrived, however many. -/
def extend (c : Connection) (more : Bytes) : Connection :=
  { c with deframer := c.deframer.extend more }

@[simp] theorem extend_nil (c : Connection) : c.extend [] = c := by
  rw [extend, Deframer.extend_nil]

@[simp] theorem extend_extend (c : Connection) (bs more : Bytes) :
    (c.extend bs).extend more = c.extend (bs ++ more) :=
  congrArg (fun d => { c with deframer := d }) (c.deframer.extend_extend bs more)

theorem takeRecord_extend (c : Connection) (stage : Stage) (r : Record) (more : Bytes) :
    (c.extend more).takeRecord stage r
      = ((c.takeRecord stage r).1, (c.takeRecord stage r).2.extend more) := by
  have hstage := takeRecord_stage c stage r
  refine (takeRecord_apart (c.deframer.extend more) c.stage c stage r).trans ?_
  rw [apart, extend, takeRecord_deframer, ← hstage]

/-! ## Taking in all there is -/

/-- Takes in the records that have arrived. -/
def drain (c : Connection) (stage : Stage) : Except TlsError Stage × Connection :=
  takeRecords (c.deframer.buffer.length + 1) c stage

/-- With enough fuel it does not matter how much there is. -/
theorem takeRecords_eq_drain {fuel : Nat} (h : c.deframer.buffer.length < fuel) (stage : Stage) :
    takeRecords fuel c stage = c.drain stage := by
  have hfuel : ∀ (n m : Nat) (c : Connection) (stage : Stage), c.deframer.buffer.length < n →
      c.deframer.buffer.length < m → takeRecords n c stage = takeRecords m c stage := by
    intro n
    induction n with
    | zero => intro m c stage h; omega
    | succ n ih =>
      intro m c stage hn hm
      obtain ⟨m, rfl⟩ : ∃ k, m = k + 1 := ⟨m - 1, by omega⟩
      unfold takeRecords
      split
      · rfl
      · rcases hpop : c.deframer.pop with ⟨e | _ | r, d⟩
        · rfl
        · rfl
        · have hlt := Deframer.length_lt_of_pop hpop
          have hd := takeRecord_deframer { c with deframer := d } stage r
          dsimp only
          rcases htake : ({ c with deframer := d } : Connection).takeRecord stage r
            with ⟨e | stage', c'⟩
          · rfl
          · rw [htake] at hd
            obtain rfl : c'.deframer = d := hd
            exact ih m c' stage' (by omega) (by omega)
  exact hfuel _ _ c stage h (Nat.lt_succ_self _)

theorem drain_closed (h : c.session.closeReceived = true) (stage : Stage) :
    c.drain stage = (.ok stage, c) := by
  rw [drain, takeRecords, if_pos h]

theorem drain_waiting (h : c.deframer.pop.1 = .ok none) (stage : Stage) :
    c.drain stage = (.ok stage, c) := by
  rw [drain, takeRecords, Deframer.eq_of_pop_none h]
  split <;> rfl

theorem drain_refused {e : TlsError} {d : Deframer} (hopen : ¬ c.session.closeReceived = true)
    (h : c.deframer.pop = (.error e, d)) (stage : Stage) :
    c.drain stage = (.error e, { c with deframer := d }) := by
  rw [drain, takeRecords, if_neg hopen, h]

/-- A record that has arrived is taken in, and then those behind it. -/
theorem drain_record {r : Record} {d : Deframer} (hopen : ¬ c.session.closeReceived = true)
    (h : c.deframer.pop = (.ok (some r), d)) (stage : Stage) :
    c.drain stage = match ({ c with deframer := d } : Connection).takeRecord stage r with
      | (.ok stage, c) => c.drain stage
      | (.error e, c) => (.error e, c) := by
  have hlt := Deframer.length_lt_of_pop h
  have hd := takeRecord_deframer { c with deframer := d } stage r
  rw [drain, takeRecords, if_neg hopen, h]
  dsimp only
  rcases htake : ({ c with deframer := d } : Connection).takeRecord stage r with ⟨e | stage', c'⟩
  · rfl
  · rw [htake] at hd
    obtain rfl : c'.deframer = d := hd
    exact takeRecords_eq_drain hlt stage'

/-- The stage on record is only passed through. -/
theorem drain_apart (st : Except TlsError Stage) (c : Connection) (stage : Stage) :
    ({ c with stage := st } : Connection).drain stage
      = ((c.drain stage).1, { (c.drain stage).2 with stage := st }) := by
  induction hn : c.deframer.buffer.length using Nat.strongRecOn generalizing c stage with
  | ind n ih =>
    by_cases hclose : c.session.closeReceived = true
    · rw [drain_closed (c := { c with stage := st }) hclose, drain_closed hclose]
    rcases hpop : c.deframer.pop with ⟨e | _ | r, d⟩
    · rw [drain_refused (c := { c with stage := st }) hclose hpop, drain_refused hclose hpop]
    · have hnone : c.deframer.pop.1 = .ok none := by rw [hpop]
      rw [drain_waiting (c := { c with stage := st }) hnone, drain_waiting hnone]
    · have hlt := Deframer.length_lt_of_pop hpop
      have hd := takeRecord_deframer { c with deframer := d } stage r
      have hapart := takeRecord_apart d st { c with deframer := d } stage r
      rw [drain_record (c := { c with stage := st }) hclose hpop, drain_record hclose hpop]
      dsimp only at hapart ⊢
      rw [hapart]
      rcases htake : ({ c with deframer := d } : Connection).takeRecord stage r
        with ⟨e | stage', c'⟩
      all_goals
        rw [htake] at hd
        obtain rfl : c'.deframer = d := hd
      · rfl
      · exact ih _ (hn ▸ hlt) c' stage' rfl

/-! ## More bytes behind -/

/-- There is nothing to take in, or nothing is taken in any more. -/
def Settled (c : Connection) : Prop :=
  (∃ stage, c.stage = .ok stage) ∧
    (c.session.closeReceived = true ∨ c.deframer.pop.1 = .ok none)

/-- Taking in what has arrived, and then the rest behind it, is taking in everything. -/
theorem drain_extend (c : Connection) (stage : Stage) (more : Bytes) :
    match c.drain stage with
    | (.ok stage', c') => ({ c' with stage := .ok stage' } : Connection).Settled ∧
        (c.extend more).drain stage = (c'.extend more).drain stage'
    | (.error e, c') => (c.extend more).drain stage = (.error e, c'.extend more) := by
  induction hn : c.deframer.buffer.length using Nat.strongRecOn generalizing c stage with
  | ind n ih =>
    by_cases hclose : c.session.closeReceived = true
    · rw [drain_closed hclose]
      exact ⟨⟨⟨stage, rfl⟩, .inl hclose⟩, rfl⟩
    have hopen : ¬ (c.extend more).session.closeReceived = true := hclose
    rcases hpop : c.deframer.pop with ⟨e | _ | r, d⟩
    · have hmore := Deframer.pop_extend (d := c.deframer) (by rw [hpop]; simp) more
      rw [hpop] at hmore
      rw [drain_refused hclose hpop]
      exact drain_refused hopen hmore stage
    · have hnone : c.deframer.pop.1 = .ok none := by rw [hpop]
      rw [drain_waiting hnone]
      exact ⟨⟨⟨stage, rfl⟩, .inr hnone⟩, rfl⟩
    · have hmore := Deframer.pop_extend (d := c.deframer) (by rw [hpop]; simp) more
      rw [hpop] at hmore
      have hlt := Deframer.length_lt_of_pop hpop
      have hd := takeRecord_deframer { c with deframer := d } stage r
      have hrecord : (c.extend more).drain stage =
          match (({ c with deframer := d } : Connection).extend more).takeRecord stage r with
          | (.ok stage, c) => c.drain stage
          | (.error e, c) => (.error e, c) := drain_record hopen hmore stage
      rw [takeRecord_extend] at hrecord
      rw [drain_record hclose hpop, hrecord]
      rcases htake : ({ c with deframer := d } : Connection).takeRecord stage r
        with ⟨e | stage', c'⟩
      · rfl
      · rw [htake] at hd
        obtain rfl : c'.deframer = d := hd
        exact ih _ (hn ▸ hlt) c' stage' rfl

theorem process_drain (h : c.stage = .ok stage) : c.process = match c.drain stage with
    | (.ok stage, c) => (.ok c.session.ioState, { c with stage := .ok stage })
    | (.error e, c) => (.error e, c.fail e) := by
  unfold process
  rw [h]
  rfl

/-- Processing what has arrived, and then the rest behind it, is processing everything. -/
theorem process_extend (h : c.stage = .ok stage) (more : Bytes) :
    match c.process with
    | (.ok _, c') => c'.Settled ∧ (c.extend more).process = (c'.extend more).process
    | (.error e, c') => (c.extend more).process = (.error e, c'.extend more) := by
  have hmore : (c.extend more).stage = .ok stage := h
  have hdrain := drain_extend c stage more
  rw [process_drain h, process_drain hmore]
  rcases hx : c.drain stage with ⟨e | stage', c'⟩
  · rw [hx] at hdrain
    have hdrain : (c.extend more).drain stage = (.error e, c'.extend more) := hdrain
    rw [hdrain]
    rfl
  · rw [hx] at hdrain
    obtain ⟨hsettled, hdrain⟩ := hdrain
    refine ⟨hsettled, ?_⟩
    have hok : (({ c' with stage := .ok stage' } : Connection).extend more).stage = .ok stage' := rfl
    have hapart := drain_apart (.ok stage') (c'.extend more) stage'
    change (({ c' with stage := .ok stage' } : Connection).extend more).drain stage' = _ at hapart
    rw [hdrain, process_drain hok, hapart]
    rcases (c'.extend more).drain stage' with ⟨e | stage'', c''⟩ <;> rfl

/-- A settled connection has nothing to process. -/
theorem Settled.process (h : c.Settled) : c.process = (.ok c.session.ioState, c) := by
  obtain ⟨⟨stage, hstage⟩, hrest⟩ := h
  have hsame : ({ c with stage := .ok stage } : Connection) = c := by rw [← hstage]
  rw [process_drain hstage]
  rcases hrest with hclose | hpop
  · rw [drain_closed hclose]
    exact congrArg (Prod.mk _) hsame
  · rw [drain_waiting hpop]
    exact congrArg (Prod.mk _) hsame

/-- After a close notification more bytes make no difference. -/
theorem Settled.extend_closed (h : c.Settled) (hclose : c.session.closeReceived = true)
    (more : Bytes) : (c.extend more).process = (.ok c.session.ioState, c.extend more) :=
  Settled.process (c := c.extend more) ⟨h.1, .inl hclose⟩

/-! ## Feeding -/

/-- Two connections that differ in what has arrived at most. -/
def Like (c c' : Connection) : Prop := ∃ d, c' = { c with deframer := d }

theorem Like.trans {c'' : Connection} (h : c.Like c') (h' : c'.Like c'') : c.Like c'' := by
  obtain ⟨d, rfl⟩ := h
  obtain ⟨d', rfl⟩ := h'
  exact ⟨d', rfl⟩

/-- Feeding came to what processing everything at once comes to: it ended with the same error, or after
a close notification, or all bytes were taken. -/
inductive ComesTo (n : Nat) : Except TlsError IoState × Connection → Fed × Connection → Prop
  | failed {e : TlsError} {w c : Connection} {fed : Fed}
    (hfed : fed.failure = some (.protocol e)) (h : w.Like c) : ComesTo n (.error e, w) (fed, c)
  | closed {io : IoState} {w c : Connection} {fed : Fed} (hfed : fed.failure = none)
    (hclose : w.session.closeReceived = true) (h : w.Like c) : ComesTo n (.ok io, w) (fed, c)
  | taken {io : IoState} {w : Connection} {fed : Fed} (hfed : fed.failure = none)
    (hn : fed.taken = n) : ComesTo n (.ok io, w) (fed, w)

theorem Fed.failure_after {before : Fed} (h : before.failure = none) (fed : Fed) (n : Nat) :
    Fed.failure { taken := n, result := fed.result <|> before.result } = fed.failure := by
  rcases fed with ⟨_, _ | result⟩
  · exact h
  · rfl

/-- What was taken before counts as well. -/
theorem ComesTo.after {n : Nat} {x : Except TlsError IoState × Connection} {y : Fed × Connection}
    {before : Fed} (hbefore : before.failure = none) (h : ComesTo n x y) :
    ComesTo (before.taken + n) x
      ({ taken := before.taken + y.1.taken, result := y.1.result <|> before.result }, y.2) := by
  cases h with
  | failed hfed h => exact .failed ((Fed.failure_after hbefore _ _).trans hfed) h
  | closed hfed hclose h => exact .closed ((Fed.failure_after hbefore _ _).trans hfed) hclose h
  | taken hfed hn =>
    exact .taken ((Fed.failure_after hbefore _ _).trans hfed) (congrArg (before.taken + ·) hn)

/-- After a close notification feeding changes nothing but what has arrived. -/
theorem ComesTo.like_of_closed {n : Nat} {w c : Connection} {io : IoState} {fed : Fed}
    (h : ComesTo n (.ok io, w) (fed, c)) : fed.failure = none ∧ w.Like c := by
  cases h with
  | closed hfed _ h => exact ⟨hfed, h⟩
  | taken hfed _ => exact ⟨hfed, w.deframer, rfl⟩

theorem read_data (bs : Bytes) (n : Nat) :
    ∃ t, ({ deliveries := [.data bs] } : Transport).read n = (.ok (bs.take n), t) := by
  cases bs with
  | nil => exact ⟨_, by rw [List.take_nil]; rfl⟩
  | cons b bs => exact ⟨_, rfl⟩

/-- What one read of a piece brings. -/
theorem readTls_settled (h : c.Settled) (hopen : ¬ c.session.closeReceived = true) (bs : Bytes) :
    0 < c.deframer.room ∧ ∃ t, c.readTls { deliveries := [.data bs] } =
      (.ok (bs.take c.deframer.room).length, c.extend (bs.take c.deframer.room), t) := by
  have hroom := Deframer.room_pos (h.2.resolve_left hopen)
  have hfull : ¬ c.deframer.isFull = true := by
    simp only [Deframer.isFull, Deframer.room, beq_iff_eq] at hroom ⊢
    omega
  obtain ⟨t, ht⟩ := read_data bs c.deframer.room
  refine ⟨hroom, t, ?_⟩
  have hpush := Deframer.push_eq_extend (d := c.deframer) (List.length_take_le c.deframer.room bs)
  unfold readTls
  rw [if_neg hopen, if_neg hfull, ht]
  dsimp only
  rw [hpush]
  rfl

/-- After a close notification a piece is not read. -/
theorem feedPiece_closed (h : c.Settled) (hclose : c.session.closeReceived = true) (fuel : Nat)
    (bs : Bytes) : ComesTo bs.length (c.extend bs).process (feedPiece (fuel + 1) c bs) := by
  have hread : c.readTls { deliveries := [.data bs] } = (.ok 0, c, { deliveries := [.data bs] }) := by
    rw [readTls, if_pos hclose]
  rw [h.extend_closed hclose]
  unfold feedPiece
  rw [hread]
  dsimp only
  rw [h.process]
  exact .closed rfl hclose ⟨c.deframer, rfl⟩

/-- Reading a piece as far as there is room each time comes to what reading all of it at once comes to. -/
theorem feedPiece_comesTo (h : c.Settled) {fuel : Nat} {bs : Bytes} (hfuel : bs.length < fuel) :
    ComesTo bs.length (c.extend bs).process (feedPiece fuel c bs) := by
  induction fuel generalizing c bs with
  | zero => omega
  | succ fuel ih =>
    by_cases hclose : c.session.closeReceived = true
    · exact feedPiece_closed h hclose fuel bs
    · obtain ⟨hroom, t, hread⟩ := readTls_settled h hclose bs
      obtain ⟨stage, hstage⟩ := h.1
      set front := bs.take c.deframer.room with hfront
      have hlen : front.length = min c.deframer.room bs.length := List.length_take
      have hbs : front ++ bs.drop front.length = bs :=
        List.prefix_iff_eq_append.mp (List.take_prefix _ _)
      have hprocess := process_extend (c := c.extend front) hstage (bs.drop front.length)
      rw [extend_extend, hbs] at hprocess
      unfold feedPiece
      rw [hread]
      dsimp only
      rcases hx : (c.extend front).process with ⟨e | io, c'⟩
      · rw [hx] at hprocess
        have hprocess : (c.extend bs).process = (.error e, c'.extend (bs.drop front.length)) :=
          hprocess
        rw [hprocess]
        exact .failed rfl ⟨c'.deframer, rfl⟩
      · rw [hx] at hprocess
        obtain ⟨hsettled, hprocess⟩ := hprocess
        rw [hprocess]
        dsimp only
        split
        · next hend =>
          have hall : bs.length ≤ front.length := by omega
          rw [List.drop_of_length_le hall, extend_nil, hsettled.process]
          refine .taken rfl ?_
          show front.length = bs.length
          omega
        · next hmore =>
          have hrest := ih hsettled (show (bs.drop front.length).length < fuel by
            rw [List.length_drop]; omega)
          have hnext := @ComesTo.after _ _ _ { taken := front.length } rfl hrest
          have hall : front.length + (bs.length - front.length) = bs.length := by omega
          rw [List.length_drop] at hnext
          simp only [hall, Option.orElse_eq_orElse, Option.orElse_eq_or, Option.or_none] at hnext
          exact hnext

theorem feed_cons_of_failed {bs : Bytes} {rest : List Bytes} {fed : Fed} {e : FeedError}
    (h : feedPiece (bs.length + 1) c bs = (fed, c')) (hfed : fed.failure = some e) :
    c.feed (bs :: rest) = (fed, c') := by
  rw [feed, h]
  rcases fed with ⟨n, _ | _ | _⟩
  · cases hfed
  · rfl
  · cases hfed

theorem feed_cons_of_ok {bs : Bytes} {rest : List Bytes} {fed : Fed}
    (h : feedPiece (bs.length + 1) c bs = (fed, c')) (hfed : fed.failure = none) :
    c.feed (bs :: rest) =
      (⟨fed.taken + (c'.feed rest).1.taken, (c'.feed rest).1.result <|> fed.result⟩,
        (c'.feed rest).2) := by
  rw [feed, h]
  rcases fed with ⟨n, _ | _ | _⟩
  · rfl
  · cases hfed
  · rfl

theorem feed_comesTo (h : c.Settled) (pieces : List Bytes) :
    ComesTo pieces.flatten.length (c.extend pieces.flatten).process (c.feed pieces) := by
  induction pieces generalizing c with
  | nil =>
    rw [List.flatten_nil, extend_nil, h.process]
    exact .taken rfl rfl
  | cons bs rest ih =>
    obtain ⟨stage, hstage⟩ := h.1
    have hpiece := feedPiece_comesTo h (Nat.lt_succ_self bs.length)
    have hprocess := process_extend (c := c.extend bs) hstage rest.flatten
    rw [extend_extend] at hprocess
    rw [List.flatten_cons, List.length_append]
    rcases hfeed : feedPiece (bs.length + 1) c bs with ⟨fed, c'⟩
    rw [hfeed] at hpiece
    rcases hx : (c.extend bs).process with ⟨e | io, w⟩
    all_goals rw [hx] at hprocess hpiece
    · have hprocess : (c.extend (bs ++ rest.flatten)).process = (.error e, w.extend rest.flatten) :=
        hprocess
      rw [hprocess]
      cases hpiece with
      | failed hfed hlike =>
        rw [feed_cons_of_failed hfeed hfed]
        obtain ⟨d, rfl⟩ := hlike
        exact .failed hfed ⟨d, rfl⟩
    · obtain ⟨hsettled, hprocess⟩ := hprocess
      rw [hprocess]
      cases hpiece with
      | closed hfed hclose hlike =>
        obtain ⟨d, rfl⟩ := hlike
        have hsettled' : ({ w with deframer := d } : Connection).Settled := ⟨hsettled.1, .inl hclose⟩
        have hrest := ih hsettled'
        rw [hsettled'.extend_closed hclose] at hrest
        obtain ⟨hfailure, hlike⟩ := hrest.like_of_closed
        rw [hsettled.extend_closed hclose, feed_cons_of_ok hfeed hfed]
        refine .closed ((Fed.failure_after hfed _ _).trans hfailure) hclose ?_
        obtain ⟨d', hd'⟩ := hlike
        exact ⟨d', hd'⟩
      | taken hfed hn =>
        rw [feed_cons_of_ok hfeed hfed, ← hn]
        exact (ih hsettled).after hfed

/-! ## What can be told apart -/

/-- What can be seen of a connection from outside. -/
structure View where
  /-- The records queued for sending, before and after protection. -/
  queued : List (Record × Record)
  outgoing : Bytes
  plaintext : Bytes
  progress : Progress
  status : Status
  suite : Option Suite
  deriving DecidableEq, Repr

def view (c : Connection) : View where
  queued := c.session.sent
  outgoing := c.session.outgoing.toBytes
  plaintext := c.session.incoming.toBytes
  progress := c.progress
  status := c.session.status
  suite := c.session.suite

theorem Like.view (h : c.Like c') : c'.view = c.view := by
  obtain ⟨d, rfl⟩ := h
  rfl

/-- Feeding goes on until all bytes are taken, an error is returned or a close notification has
arrived. -/
def Exhausts (n : Nat) (x : Fed × Connection) : Prop :=
  x.1.taken = n ∨ x.1.failure.isSome ∨ x.2.session.closeReceived = true

theorem ComesTo.exhausts {n : Nat} {x : Except TlsError IoState × Connection} {y : Fed × Connection}
    (h : ComesTo n x y) : Exhausts n y := by
  cases h with
  | failed hfed h => exact .inr (.inl (by rw [hfed]; rfl))
  | closed hfed hclose h =>
    obtain ⟨d, rfl⟩ := h
    exact .inr (.inr hclose)
  | taken hfed hn => exact .inl hn

/-- Two ways of feeding the same bytes end in the same error, if any, and cannot be told apart. -/
structure Indistinguishable (x y : Fed × Connection) : Prop where
  failure : x.1.failure = y.1.failure
  view : x.2.view = y.2.view
  session : x.2.session = y.2.session
  stage : x.2.stage = y.2.stage

theorem ComesTo.indistinguishable {n m : Nat} {x : Except TlsError IoState × Connection}
    {y y' : Fed × Connection} (h : ComesTo n x y) (h' : ComesTo m x y') :
    Indistinguishable y y' := by
  rcases x with ⟨e | io, w⟩
  · cases h with
    | failed hfed hlike =>
      cases h' with
      | failed hfed' hlike' =>
        obtain ⟨d, rfl⟩ := hlike
        obtain ⟨d', rfl⟩ := hlike'
        exact ⟨hfed.trans hfed'.symm, rfl, rfl, rfl⟩
  · obtain ⟨hfed, d, hd⟩ := h.like_of_closed
    obtain ⟨hfed', d', hd'⟩ := h'.like_of_closed
    exact ⟨hfed.trans hfed'.symm, by rw [hd, hd']; rfl, by rw [hd, hd'], by rw [hd, hd']⟩

variable {config : Config} {time : Int} {random : RandomSource}

theorem Starts.settled {o : Origin} {hello : ClientHello} (h : c.Starts o hello) : c.Settled :=
  ⟨⟨o.stage, h.stage⟩, .inr (by rw [h.deframer]; rfl)⟩

/-- Feeding the bytes of the server goes as far as it can, and however they are cut into pieces, it
comes to the same. -/
theorem feed_flatten (h : Connection.start config time random = .ok c) {xs ys : List Bytes}
    (hxy : xs.flatten = ys.flatten) :
    Exhausts xs.flatten.length (c.feed xs) ∧ Exhausts ys.flatten.length (c.feed ys) ∧
      Indistinguishable (c.feed xs) (c.feed ys) := by
  obtain ⟨o, hello, hstarts, -⟩ := start_starts h
  have hx := feed_comesTo hstarts.settled xs
  have hy := feed_comesTo hstarts.settled ys
  rw [← hxy] at hy
  exact ⟨hx.exhausts, hxy ▸ hy.exhausts, hx.indistinguishable hy⟩

/-- A fatal alert of the server's, whole and in pieces. -/
theorem feed_flatten_closed : ∃ c, Connection.start .distrustful 0 (.seeded [] 0 none) = .ok c ∧
    Exhausts 7 (c.feed [[21, 3, 1, 0, 2, 2, 40]]) ∧
    Exhausts 7 (c.feed [[21, 3], [1, 0, 2], [], [2, 40]]) ∧
    Indistinguishable (c.feed [[21, 3, 1, 0, 2, 2, 40]]) (c.feed [[21, 3], [1, 0, 2], [], [2, 40]]) := by
  obtain ⟨c, hc⟩ := start_distrustful
  exact ⟨c, hc, feed_flatten hc rfl⟩

end Connection

end TlsClient
