import TlsClient.Proofs.Connection.Soundness
import TlsClient.Proofs.Stage.Elements

/-!
# What lasts through a run

An invariant of sessions that the elements keep, and opening records and the transport as well, is `Lasting`:
it holds at every moment of every run (`run_lasting`).
-/

namespace TlsClient

namespace Session

/-- An invariant that talk keeps. -/
structure Steady (I : Session → Prop) : Prop where
  behave : ∀ {s} (m : Manner), I s → I (s.behave m)
  happened : ∀ {s} {e : Event}, e.isRoutine = true → I s → I (s.happened e)
  sendRecord : ∀ {s} {r : Record}, r.version = .tls1 → r.payload.length ≤ Record.maxFragment →
    I s → I (s.sendRecord r)

/-- An invariant that everything keeps. -/
structure Lasting (I : Session → Prop) : Prop extends Steady I where
  outgoing : ∀ {s} (q : ByteQueue), I s → I { s with outgoing := q }
  receiving : ∀ {s} (d : Direction), I s → I { s with layer := { s.layer with receiving := d } }
  changeKeys : ∀ {s} (sending receiving : Protection), I s →
    I ((s.prepareKeys sending receiving).send .changeCipherSpec).startSending

end Session

namespace Step

open Session (Steady Lasting)

variable {I : Session → Prop} {α β : Type}

/-- A step that keeps an invariant, whether it fails or not. -/
def Preserves (I : Session → Prop) (x : Step α) : Prop := ∀ s, I s → I (x.run s).2

theorem Preserves.bind {x : Step α} {f : α → Step β} (hx : Preserves I x)
    (hf : ∀ a, Preserves I (f a)) : Preserves I (x >>= f) := by
  intro s hs
  have hfirst := hx s hs
  rcases h : x.run s with ⟨e | a, s'⟩
  all_goals rw [h] at hfirst
  · rw [run_bind_of_error h]
    exact hfirst
  · rw [run_bind_of_ok h]
    exact hf a s' hfirst

theorem closedTalk_preserves (steady : Steady I) : ClosedTalk fun _ => Preserves I where
  bind := Preserves.bind
  ofExcept _ _ h := h
  look _ _ h := h
  adjust _ _ h := steady.behave _ h
  happens he _ h := steady.happened he h
  record hversion hr _ h := steady.sendRecord hversion hr h

theorem closedBase_preserves (lasting : Lasting I) : ClosedBase fun _ => Preserves I where
  toClosedTalk := closedTalk_preserves lasting.toSteady
  changeKeys sending receiving _ h := lasting.changeKeys sending receiving h
  startReceiving _ h := lasting.receiving _ h

end Step

namespace Connection

open Session (Lasting)

variable {I : Session → Prop} (lasting : Lasting I) {c c' : Connection} {stage : Stage}
include lasting

theorem deliver_lasting (h : I c.session) (stage : Stage) (m : Message) :
    I (c.deliver stage m).2.session := by
  unfold deliver
  split
  · exact (Step.closedTalk_preserves lasting.toSteady).sendWarning _ _ h
  · have hhandled : I (c.session.happened (.handled m)) := lasting.happened rfl h
    exact (Step.closedBase_preserves lasting).closed.handle c.config stage m _ hhandled

theorem deliverAll_lasting (h : I c.session) (stage : Stage) (ms : List Message) :
    I (c.deliverAll stage ms).2.session := by
  induction ms generalizing c stage with
  | nil => exact h
  | cons m ms ih =>
    have hfirst := deliver_lasting lasting h stage m
    unfold deliverAll
    rcases hx : c.deliver stage m with ⟨e | stage', c'⟩
    all_goals rw [hx] at hfirst
    · exact hfirst
    · exact ih hfirst stage'

/-- Whatever is in a record, taking it in keeps the invariant. -/
theorem takeOpened_lasting (h : I c.session) (stage : Stage) (r : Record) :
    I (c.takeOpened stage r).2.session := by
  have talk := Step.closedTalk_preserves lasting.toSteady
  unfold takeOpened
  split
  · exact talk.abort _ _ h
  · split
    · unfold takeHandshakes
      rcases c.handshakes.push r with ⟨e | n, j⟩
      · exact h
      · exact deliverAll_lasting lasting (c := { c with handshakes := { j with ready := [] } }) h _ _
    · split
      · exact talk.receiveAlerts _ _ h
      · split
        · unfold takeMessage
          split
          · exact deliver_lasting lasting h stage _
          · exact h
        · exact lasting.happened rfl h

theorem takeRecord_lasting (h : I c.session) (stage : Stage) (wire : Record) :
    I (c.takeRecord stage wire).2.session := by
  rcases hunprotect : c.session.layer.receiving.unprotect wire with ⟨e | r, d⟩
  · rw [takeRecord_refused hunprotect]
    exact lasting.receiving d h
  · rw [takeRecord_opened hunprotect]
    exact takeOpened_lasting lasting (lasting.happened rfl (lasting.receiving d h)) stage r

theorem takeRecords_lasting (h : I c.session) (fuel : Nat) (stage : Stage) :
    I (takeRecords fuel c stage).2.session := by
  induction fuel generalizing c stage with
  | zero => exact h
  | succ fuel ih =>
    rw [takeRecords]
    split
    · exact h
    · split
      · exact h
      · exact h
      · next r d hpop =>
        have hfirst := takeRecord_lasting lasting (c := { c with deframer := d }) h stage r
        split
        · next stage' c' htake =>
          rw [htake] at hfirst
          exact ih hfirst stage'
        · exact hfirst

theorem process_lasting (h : I c.session) : I c.process.2.session := by
  unfold process
  split
  · exact h
  · next stage hstage =>
    have htaken := takeRecords_lasting lasting h (c.deframer.buffer.length + 1) stage
    split
    · next hx =>
      rw [hx] at htaken
      exact htaken
    · next hx =>
      rw [hx] at htaken
      exact (Step.closedTalk_preserves lasting.toSteady).abort _ _ htaken

theorem exchanges_lasting (h : I c.session) (hx : c.Exchanges c') : I c'.session := by
  have hlost {s : Session} (hs : I s) : I s.loseTransport :=
    lasting.behave { s.manner with status := .closed } (lasting.outgoing {} hs)
  cases hx with
  | idle => exact h
  | arrives bs => exact h
  | leaves n => exact lasting.outgoing _ h
  | fails hstage e => exact hlost (lasting.happened rfl h)
  | loses hstage => exact hlost h

theorem call_lasting (h : I c.session) (call : Call) : I (c.call call).session := by
  have talk := Step.closedTalk_preserves lasting.toSteady
  cases call with
  | readTls t => exact exchanges_lasting lasting h (exchanges_readTls c t)
  | writeTls t => exact exchanges_lasting lasting h (exchanges_writeTls c t)
  | process => exact process_lasting lasting h
  | write bs => exact talk.write bs _ h
  | read n => exact lasting.behave { c.session.manner with incoming := (c.session.incoming.read n).2 } h
  | close => exact talk.sendClose _ h

/-- A lasting invariant that a new session has holds at every moment of every run. -/
theorem run_lasting {config : Config} {time : Int} {random : RandomSource} (hnew : I { random })
    (h : Connection.start config time random = .ok c) (calls : List Call) :
    I (c.run calls).session := by
  induction calls using List.reverseRecOn with
  | nil =>
    have hstart := (Step.closedBase_preserves lasting).closed.start config time.toNat { random } hnew
    unfold Connection.start at h
    split at h
    · next hrun =>
      rw [hrun] at hstart
      cases h
      exact hstart
    · cases h
  | append_singleton calls call ih =>
    rw [run_append]
    exact call_lasting lasting ih call

end Connection

end TlsClient
