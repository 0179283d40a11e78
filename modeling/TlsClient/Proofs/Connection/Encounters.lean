import TlsClient.Proofs.Connection.Failure
import TlsClient.Proofs.Stage.Provided

/-!
# Where messages are handled

Whatever a run does to the handshake it does by handling messages.  The `encounters` of a run are the messages
that it handles, all of them and in order (`run_handled`), each with the stage and the session that it meets.
They lie on the way that the moves lead (`Meets`), and an error that only a mistake in the client could lead to
is one that handling a message has led to (`encounters_account`).
-/

namespace TlsClient

open Deeds (handled)
open Relation (ReflTransGen)

/-- A message that is handled, the stage that it is given to, and the session in which that has been noted. -/
structure Encounter where
  stage : Stage
  message : Message
  session : Session

/-- What comes of handling the message. -/
def Encounter.outcome (x : Encounter) (config : Config) : Except TlsError Stage × Session :=
  (x.stage.handle config x.message).run x.session

namespace Step

/-- No way in which the handshake works on a session is to handle another message. -/
theorem law_handled : Law (fun _ => True) fun s s' => handled s'.deeds = handled s.deeds where
  refl _ := rfl
  trans h h' := h'.trans h
  quiet _ h := ⟨congrArg handled h.deeds, trivial⟩
  send _ _ := ⟨Session.handled_send _ _, trivial⟩
  changeKeys _ hdeeds _ _ :=
    ⟨by rw [hdeeds, Deeds.handled_append, Message.handled_log, List.append_nil], trivial⟩
  startTraffic _ := ⟨(Session.talks_startTraffic _).handled_eq, trivial⟩
  abort _ _ := (Session.talks_abort _ _).handled_eq

end Step

namespace Connection

/-! ## Handling messages -/

/-- A message that is given to a stage is handled, unless it asks for another handshake. -/
def meetsOne (c : Connection) (stage : Stage) (m : Message) : List Encounter :=
  if c.session.traffic ∧ m.handshakeType? = some .helloRequest then []
  else [⟨stage, m, c.session.happened (.handled m)⟩]

/-- The messages that are handled when some are given to the stages one after another. -/
def meetsAll (c : Connection) (stage : Stage) : List Message → List Encounter
  | [] => []
  | m :: rest =>
    c.meetsOne stage m ++
    match c.deliver stage m with
    | (.ok stage, c) => c.meetsAll stage rest
    | (.error _, _) => []

/-- The messages that are handled when a record is taken in that has been opened. -/
def meetsOpened (c : Connection) (stage : Stage) (r : Record) : List Encounter :=
  if !c.handshakes.isEmpty && r.typ != .handshake then []
  else if r.typ = .handshake then
    match c.handshakes.push r with
    | (.error _, _) => []
    | (.ok _, handshakes) =>
      { c with handshakes := { handshakes with ready := [] } }.meetsAll stage handshakes.ready
  else if r.typ = .alert then []
  else if r.typ = .changeCipherSpec ∨ r.typ = .applicationData then
    match Message.ofRecord r with
    | .ok m => c.meetsAll stage [m]
    | .error _ => []
  else []

/-- The messages that are handled when a record is taken in. -/
def meetsRecord (c : Connection) (stage : Stage) (r : Record) : List Encounter :=
  match c.session.layer.unprotect r with
  | (.error _, _) => []
  | (.ok r, layer) =>
    let keyed := c.session.layer.receiving.isActive
    { c with session := { c.session with layer }.happened (.opened keyed r) }.meetsOpened stage r

/-- The messages that are handled when at most `fuel` records are taken in. -/
def meetsRecords : (fuel : Nat) → Connection → Stage → List Encounter
  | 0, _, _ => []
  | fuel + 1, c, stage =>
    if c.session.closeReceived then []
    else
      match c.deframer.pop with
      | (.ok (some r), deframer) =>
        { c with deframer }.meetsRecord stage r ++
          match { c with deframer }.takeRecord stage r with
          | (.ok stage, c) => meetsRecords fuel c stage
          | (.error _, _) => []
      | _ => []

/-- The messages that are handled in a call. -/
def meets (c : Connection) : Call → List Encounter
  | .process =>
    match c.stage with
    | .error _ => []
    | .ok stage => meetsRecords (c.deframer.buffer.length + 1) c stage
  | _ => []

/-- The messages that are handled in a run. -/
def encounters (c : Connection) (calls : List Call) : List Encounter := yields meets c calls

/-! ## They are what has been handled -/

theorem deliver_handled (c : Connection) (stage : Stage) (m : Message) :
    handled (c.deliver stage m).2.session.deeds =
      handled c.session.deeds ++ (c.meetsOne stage m).map Encounter.message := by
  unfold meetsOne deliver
  split
  · rw [List.map_nil, List.append_nil]
    exact (Session.talks_sendWarning _ _).handled_eq
  · refine (Step.law_handled.keeps_handle c.config stage m _ trivial).1.trans ?_
    rw [Session.deeds_happened, Deeds.handled_append]
    rfl

theorem deliverAll_handled (c : Connection) (stage : Stage) (ms : List Message) :
    handled (c.deliverAll stage ms).2.session.deeds =
      handled c.session.deeds ++ (c.meetsAll stage ms).map Encounter.message := by
  induction ms generalizing c stage with
  | nil => exact (List.append_nil _).symm
  | cons m ms ih =>
    have hfirst := deliver_handled c stage m
    rw [meetsAll, deliverAll, List.map_append, ← List.append_assoc, ← hfirst]
    rcases c.deliver stage m with ⟨e | stage', c'⟩
    · exact (List.append_nil _).symm
    · exact ih c' stage'

/-- To give one message is to deliver it. -/
theorem deliverAll_singleton (c : Connection) (stage : Stage) (m : Message) :
    c.deliverAll stage [m] = c.deliver stage m := by
  rw [deliverAll]
  rcases c.deliver stage m with ⟨e | stage', c'⟩ <;> rfl

theorem takeOpened_handled (c : Connection) (stage : Stage) (r : Record) :
    handled (c.takeOpened stage r).2.session.deeds =
      handled c.session.deeds ++ (c.meetsOpened stage r).map Encounter.message := by
  unfold meetsOpened takeOpened
  split
  · exact (Session.talks_abort _ _).handled_eq.trans (List.append_nil _).symm
  · split
    · unfold takeHandshakes
      rcases c.handshakes.push r with ⟨e | n, j⟩
      · exact (List.append_nil _).symm
      · exact deliverAll_handled { c with handshakes := { j with ready := [] } } stage j.ready
    · split
      · exact (Session.talks_receiveAlerts _ _).handled_eq.trans (List.append_nil _).symm
      · split
        · unfold takeMessage
          rcases Message.ofRecord r with e | m
          · exact (List.append_nil _).symm
          · have hone := deliverAll_handled c stage [m]
            rw [deliverAll_singleton] at hone
            exact hone
        · refine (congrArg handled (c.session.deeds_note _)).trans (List.append_nil _).symm

theorem takeRecord_handled (c : Connection) (stage : Stage) (wire : Record) :
    handled (c.takeRecord stage wire).2.session.deeds =
      handled c.session.deeds ++ (c.meetsRecord stage wire).map Encounter.message := by
  rcases hopens : c.session.layer.receiving.unprotect wire with ⟨e | r, d⟩
  · rw [takeRecord_refused hopens, meetsRecord, RecordLayer.unprotect, hopens]
    exact (List.append_nil _).symm
  · have hopen : handled _ = handled c.session.deeds := (opens_handled ⟨wire, d, hopens, rfl⟩).1
    rw [takeRecord_opened hopens, meetsRecord, RecordLayer.unprotect, hopens, ← hopen]
    exact takeOpened_handled _ stage r

theorem takeRecords_handled (fuel : Nat) (c : Connection) (stage : Stage) :
    handled (takeRecords fuel c stage).2.session.deeds =
      handled c.session.deeds ++ (meetsRecords fuel c stage).map Encounter.message := by
  induction fuel generalizing c stage with
  | zero => exact (List.append_nil _).symm
  | succ fuel ih =>
    unfold meetsRecords takeRecords
    split
    · exact (List.append_nil _).symm
    · rcases hpop : c.deframer.pop with ⟨e | _ | wire, d⟩
      · exact (List.append_nil _).symm
      · exact (List.append_nil _).symm
      · have hfirst := takeRecord_handled { c with deframer := d } stage wire
        dsimp only at hfirst ⊢
        rw [List.map_append, ← List.append_assoc, ← hfirst]
        rcases ({ c with deframer := d } : Connection).takeRecord stage wire with ⟨e | stage', c'⟩
        · exact (List.append_nil _).symm
        · exact ih c' stage'

theorem process_handled (c : Connection) :
    handled c.process.2.session.deeds =
      handled c.session.deeds ++ (c.meets .process).map Encounter.message := by
  unfold meets process
  rcases c.stage with e | stage
  · exact (List.append_nil _).symm
  · have hall := takeRecords_handled (c.deframer.buffer.length + 1) c stage
    dsimp only
    rcases htake : takeRecords (c.deframer.buffer.length + 1) c stage with ⟨e | stage', c'⟩
    all_goals rw [htake] at hall
    · exact (Session.talks_abort c'.session _).handled_eq.trans hall
    · exact hall

theorem call_handled (c : Connection) (call : Call) :
    handled (c.call call).session.deeds =
      handled c.session.deeds ++ (c.meets call).map Encounter.message := by
  have hnone {s : Session} (h : handled s.deeds = handled c.session.deeds) :
      handled s.deeds = handled c.session.deeds ++ ([] : List Encounter).map Encounter.message :=
    h.trans (List.append_nil _).symm
  have hexchanges {c' : Connection} (h : c.Exchanges c') :
      handled c'.session.deeds = handled c.session.deeds := by
    cases h with
    | fails hstage why =>
      exact (congrArg handled (c.session.deeds_note _) :)
    | _ => rfl
  cases call with
  | readTls t => exact hnone (hexchanges (exchanges_readTls c t))
  | writeTls t => exact hnone (hexchanges (exchanges_writeTls c t))
  | process => exact process_handled c
  | write bs => exact hnone (Session.talks_write c.session bs).handled_eq
  | read n => exact hnone (Session.talks_read c.session n).handled_eq
  | close => exact hnone (Session.talks_sendClose c.session).handled_eq

/-- The messages that a run has handled are those of its encounters, in order. -/
theorem run_handled (c : Connection) (calls : List Call) :
    handled (c.run calls).session.deeds =
      handled c.session.deeds ++ (c.encounters calls).map Encounter.message := by
  induction calls generalizing c with
  | nil => exact (List.append_nil _).symm
  | cons call calls ih =>
    rw [run_cons, encounters, yields, ih, call_handled, List.map_append, List.append_assoc]
    rfl

variable {c c' c₀ : Connection} {stage : Stage} {xs ys : List Encounter} {x : Encounter}

/-! ## Accounting for errors -/

/-- A message that waits to be handled. -/
structure Meets (c : Connection) (x : Encounter) : Prop where
  stage : c.stage = .ok x.stage
  ready : ∃ rest, c.handshakes.ready = x.message :: rest
  session : x.session = c.session.happened (.handled x.message)

/-- The encounters of what has been taken in lie on the way that the moves lead, and account for an error that
only a mistake in the client could lead to. -/
structure Accounts {α : Type} (c : Connection) (xs : List Encounter) (result : Except TlsError α) :
    Prop where
  met : ∀ x ∈ xs, ∃ c', ReflTransGen Moves c c' ∧ c'.Meets x
  blamed : ∀ e, result = .error e → e.Internal → ∃ x ∈ xs, (x.outcome c.config).1 = .error e

theorem Moves.config (h : Moves c c') : c'.config = c.config := by
  cases h <;> assumption

theorem moves_config (h : ReflTransGen Moves c c') : c'.config = c.config := by
  induction h with
  | refl => rfl
  | tail _ hmove ih => exact hmove.config.trans ih

section

variable {α β : Type} {result : Except TlsError α} {result' : Except TlsError β}

theorem accounts_nil (h : ∀ e, result = .error e → ¬ e.Internal) : c.Accounts [] result :=
  ⟨List.forall_mem_nil _, fun e he hinternal => absurd hinternal (h e he)⟩

/-- What is accounted for after some moves is accounted for before them. -/
theorem Accounts.after (h : c'.Accounts xs result) (hmoves : ReflTransGen Moves c c') :
    c.Accounts xs result := by
  refine ⟨fun x hx => ?_, fun e he hinternal => ?_⟩
  · obtain ⟨k, hk, hmeets⟩ := h.met x hx
    exact ⟨k, hmoves.trans hk, hmeets⟩
  · rw [← moves_config hmoves]
    exact h.blamed e he hinternal

/-- Accounts follow one another: an error is accounted for by the last. -/
theorem Accounts.append (h : c.Accounts xs result) (h' : c.Accounts ys result') :
    c.Accounts (xs ++ ys) result' := by
  refine ⟨fun x hx => (List.mem_append.mp hx).elim (h.met x) (h'.met x), fun e he hinternal => ?_⟩
  obtain ⟨x, hx, hfails⟩ := h'.blamed e he hinternal
  exact ⟨x, List.mem_append_right xs hx, hfails⟩

/-- An error that is passed on is accounted for. -/
theorem Accounts.of_error (h : c.Accounts xs result)
    (hresult : ∀ e, result' = .error e → result = .error e) : c.Accounts xs result' :=
  ⟨h.met, fun e he => h.blamed e (hresult e he)⟩

end

/-- Handling one message accounts for what comes of it. -/
theorem deliver_accounts (c : Connection) (stage : Stage) (m : Message) (rest : List Message) :
    (c.waiting stage (m :: rest)).Accounts (c.meetsOne stage m) (c.deliver stage m).1 := by
  unfold meetsOne deliver
  split
  · exact accounts_nil fun e he => by cases he
  · refine ⟨fun x hx => ?_, fun e he _ => ⟨_, List.mem_singleton_self _, he⟩⟩
    obtain rfl := List.mem_singleton.mp hx
    exact ⟨_, .refl, rfl, ⟨rest, rfl⟩, rfl⟩

theorem meetsAll_accounts (c : Connection) (stage : Stage) (ms : List Message) :
    (c.waiting stage ms).Accounts (c.meetsAll stage ms) (c.deliverAll stage ms).1 := by
  induction ms generalizing c stage with
  | nil => exact accounts_nil fun e he => by cases he
  | cons m ms ih =>
    have hfirst := deliver_accounts c stage m ms
    have hleads := deliver_leads c stage m ms
    rw [meetsAll, deliverAll]
    rcases hdeliver : c.deliver stage m with ⟨e | stage', c'⟩
    all_goals rw [hdeliver] at hfirst hleads
    · rw [List.append_nil]
      exact hfirst
    · exact hfirst.append ((ih c' stage').after (.single hleads.1))

/-! ## Records -/

variable {r : Record} {s : Session}

theorem takeAlerts_external {e : TlsError} (h : (c.takeAlerts stage r).1 = .error e) : ¬ e.Internal := by
  have hresult : (c.takeAlerts stage r).1 =
      (c.session.receiveAlerts (c.alerts.push r).2.ready).1.map fun () => stage := rfl
  rw [hresult] at h
  rcases halerts : (c.session.receiveAlerts (c.alerts.push r).2.ready).1 with e' | u
  all_goals
    rw [halerts] at h
    cases h
  obtain ⟨a, -, rfl⟩ := Session.receiveAlerts_error halerts
  rintro ⟨⟩

theorem meetsOpened_accounts (hc : c.handshakes.ready = []) (hopen : c.session.Opens r s) :
    ({ c with stage := .ok stage } : Connection).Accounts
      (({ c with session := s } : Connection).meetsOpened stage r)
      (({ c with session := s } : Connection).takeOpened stage r).1 := by
  unfold meetsOpened takeOpened
  split
  · exact accounts_nil fun e he => by
      cases he
      rintro ⟨⟩
  · next hinside =>
    split
    · next hr =>
      unfold takeHandshakes
      rcases hpush : c.handshakes.push r with ⟨e | n, j⟩
      · exact accounts_nil fun e he => by
          cases he
          rintro ⟨⟩
      · exact (meetsAll_accounts { c with session := s, handshakes := { j with ready := [] } } stage
          j.ready).after (.single (.opens rfl hc rfl rfl hopen (.joined n j hr hpush)))
    · next hr =>
      split
      · exact accounts_nil fun e he => takeAlerts_external he
      · split
        · unfold takeMessage
          rcases hmessage : Message.ofRecord r with e | m
          · exact accounts_nil fun e he => by
              cases he
              rintro ⟨⟩
          · have hbuffer : c.handshakes.buffer = [] := by
              simpa [HandshakeJoiner.isEmpty, hr] using hinside
            have hopens : Moves { c with stage := .ok stage }
                (({ c with session := s } : Connection).waiting stage [m]) :=
              .opens rfl hc rfl rfl hopen (.alone m hr hbuffer hmessage)
            have hall := (meetsAll_accounts { c with session := s } stage [m]).after (.single hopens)
            rw [deliverAll_singleton] at hall
            exact hall
        · exact accounts_nil fun e he => by cases he

theorem meetsRecord_accounts (hc : c.handshakes.ready = []) (stage : Stage) (wire : Record) :
    ({ c with stage := .ok stage } : Connection).Accounts (c.meetsRecord stage wire)
      (c.takeRecord stage wire).1 := by
  rcases hopens : c.session.layer.receiving.unprotect wire with ⟨e | r, d⟩
  · rw [takeRecord_refused hopens, meetsRecord, RecordLayer.unprotect, hopens]
    exact accounts_nil fun e' he => by
      cases he
      rcases Direction.unprotect_error hopens with rfl | rfl <;> rintro ⟨⟩
  · rw [takeRecord_opened hopens, meetsRecord, RecordLayer.unprotect, hopens]
    exact meetsOpened_accounts hc ⟨wire, d, hopens, rfl⟩

theorem meetsRecords_accounts (hc : c.handshakes.ready = []) (fuel : Nat) (stage : Stage) :
    ({ c with stage := .ok stage } : Connection).Accounts (meetsRecords fuel c stage)
      (takeRecords fuel c stage).1 := by
  induction fuel generalizing c stage with
  | zero => exact accounts_nil fun e he => by cases he
  | succ fuel ih =>
    unfold meetsRecords takeRecords
    split
    · exact accounts_nil fun e he => by cases he
    · rcases hpop : c.deframer.pop with ⟨e | _ | wire, d⟩
      · exact accounts_nil fun e' he => by
          cases he
          rcases Deframer.pop_error hpop with rfl | ⟨why, rfl⟩ <;> rintro ⟨⟩
      · exact accounts_nil fun e he => by cases he
      · have hcut : Moves { c with stage := .ok stage } { c with stage := .ok stage, deframer := d } :=
          .talks rfl rfl rfl (.refl _)
        have hfirst := (@meetsRecord_accounts { c with deframer := d } hc stage wire).after (.single hcut)
        have hleads := @takeRecord_leads { c with deframer := d } stage hc wire
        dsimp only
        rcases htake : ({ c with deframer := d } : Connection).takeRecord stage wire with ⟨e | stage', c'⟩
        all_goals rw [htake] at hfirst hleads
        · rw [List.append_nil]
          exact hfirst
        · exact hfirst.append ((ih hleads.2 stage').after ((ReflTransGen.single hcut).trans hleads.1))

/-! ## Runs -/

theorem process_accounts (hc : c.Drained) (hstage : c.stage = .ok stage) :
    c.Accounts (c.meets .process) c.process.1 := by
  have hall := meetsRecords_accounts (hc stage hstage) (c.deframer.buffer.length + 1) stage
  have hsame : ({ c with stage := .ok stage } : Connection) = c := by rw [← hstage]
  rw [hsame] at hall
  unfold meets process
  rw [hstage]
  refine hall.of_error fun e he => ?_
  dsimp only at he
  rcases htake : takeRecords (c.deframer.buffer.length + 1) c stage with ⟨e' | stage', c'⟩
  all_goals
    rw [htake] at he
    cases he
  rfl

/-- A call accounts for the error that it ends a connection with. -/
theorem call_accounts (hc : c.Drained) (hstage : c.stage = .ok stage) (call : Call) :
    c.Accounts (c.meets call) (c.call call).stage := by
  have hexchanges {c' : Connection} (h : c.Exchanges c') : c.Accounts [] c'.stage := by
    refine accounts_nil fun e he => ?_
    cases h with
    | fails _ why =>
      cases he
      rintro ⟨⟩
    | _ => cases hstage.symm.trans he
  cases call with
  | readTls t => exact hexchanges (exchanges_readTls c t)
  | writeTls t => exact hexchanges (exchanges_writeTls c t)
  | process => exact (process_accounts hc hstage).of_error fun e he => process_error_iff.mpr he
  | write bs | read n | close => exact accounts_nil fun e he => by cases hstage.symm.trans he

/-- Every run accounts for the error that it has ended a connection with. -/
theorem encounters_account (hc : c.Drained) (hstage : c.stage = .ok stage) (calls : List Call) :
    c.Accounts (c.encounters calls) (c.run calls).stage := by
  induction calls using List.reverseRecOn with
  | nil => exact accounts_nil fun e he => by cases hstage.symm.trans he
  | append_singleton calls call ih =>
    obtain ⟨hmoves, hdrained⟩ := run_moves hc calls
    have hcalls : c.encounters (calls ++ [call]) = c.encounters calls ++ (c.run calls).meets call := by
      rw [encounters, yields_append, yields_singleton]
      rfl
    have hrun : c.run (calls ++ [call]) = (c.run calls).call call := run_append c calls [call]
    rw [hcalls, hrun]
    rcases hresult : (c.run calls).stage with e | stage'
    · -- nothing is handled any more, and the error stays
      have hnone : (c.run calls).meets call = [] := by
        unfold meets
        rw [hresult]
        cases call <;> rfl
      rw [hnone, List.append_nil, call_ended hresult, ← hresult]
      exact ih
    · exact ih.append ((call_accounts hdrained hresult call).after hmoves)

end Connection

end TlsClient
