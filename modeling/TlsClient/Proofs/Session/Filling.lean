import TlsClient.Proofs.Queues
import TlsClient.Proofs.Session.Uttering
import TlsClient.Proofs.Stage.Walking

/-!
# What waits on either side

A session only ever adds to what waits: whole records behind those that are to be written, and data behind
what is to be read (`Fills`).  Only its transport and its user take from that.  So every operation of a
session fills, and so does handling any message (`handle_fills`).
-/

namespace TlsClient

theorem Record.encode_ne_nil (r : Record) : r.encode ≠ [] := by
  intro h
  have hlength := congrArg List.length h
  simp [Record.encode, Encoder.vector] at hlength

namespace Session

/-- The bytes of records on their way. -/
def wires (rs : List (Record × Record)) : Bytes := rs.flatMap fun r => r.2.encode

/-- One session comes from another by adding to what waits. -/
structure Fills (s s' : Session) : Prop where
  queued : ∃ rs : List (Record × Record), s'.sent = s.sent ++ rs ∧
    s'.outgoing.chunks = s.outgoing.chunks ++ rs.map fun r => r.2.encode
  solid : s.incoming.Solid → s'.incoming.Solid
  traffic : s.traffic = true → s'.traffic = true
  history : s.history <:+ s'.history

variable {s s' s'' : Session}

namespace Fills

/-- A change of nothing that waits. -/
theorem of_eq (hsent : s'.sent = s.sent) (hout : s'.outgoing = s.outgoing)
    (hin : s'.incoming = s.incoming) (ht : s.traffic = true → s'.traffic = true)
    (hh : s.history <:+ s'.history) : Fills s s' := by
  refine ⟨⟨[], ?_, ?_⟩, ?_, ht, hh⟩
  · rw [hsent, List.append_nil]
  · rw [hout, List.map_nil, List.append_nil]
  · rw [hin]
    exact id

theorem refl (s : Session) : Fills s s := of_eq rfl rfl rfl id List.suffix_rfl

theorem trans (h : Fills s s') (h' : Fills s' s'') : Fills s s'' := by
  obtain ⟨rs, hsent, hout⟩ := h.queued
  obtain ⟨rs', hsent', hout'⟩ := h'.queued
  refine ⟨⟨rs ++ rs', ?_, ?_⟩, h'.solid ∘ h.solid, h'.traffic ∘ h.traffic, h.history.trans h'.history⟩
  · rw [hsent', hsent, List.append_assoc]
  · rw [hout', hout, List.map_append, List.append_assoc]

theorem happened (s : Session) {e : Event} (he : Deeds.records (if e.isDeed then [e] else []) = []) :
    Fills s (s.happened e) :=
  of_eq (by rw [sent_happened, he, List.append_nil]) rfl rfl id (List.suffix_cons _ _)

theorem note (s : Session) (n : Notice) : Fills s (s.note n) := happened s rfl

theorem enqueue (s : Session) (plain wire : Record) : Fills s (s.enqueue plain wire) := by
  refine ⟨⟨[(plain, wire)], sent_enqueue s plain wire, ?_⟩, id, id, List.suffix_cons _ _⟩
  show (s.outgoing.push wire.encode).chunks = _
  rw [ByteQueue.push, if_neg (by simpa using wire.encode_ne_nil)]
  rfl

theorem foldl {α : Type} {f : Session → α → Session} (hf : ∀ s a, Fills s (f s a)) (xs : List α)
    (s : Session) : Fills s (xs.foldl f s) := by
  induction xs generalizing s with
  | nil => exact refl s
  | cons x xs ih => exact (hf s x).trans (ih (f s x))

/-- What was queued, as bytes. -/
theorem bytes (h : Fills s s') : ∃ rs, s'.sent = s.sent ++ rs ∧
    s'.outgoing.toBytes = s.outgoing.toBytes ++ wires rs := by
  obtain ⟨rs, hsent, hout⟩ := h.queued
  refine ⟨rs, hsent, ?_⟩
  rw [ByteQueue.toBytes, hout, List.flatten_append, wires, List.flatMap_def]
  rfl

theorem outgoing_solid (h : Fills s s') (hs : s.outgoing.Solid) : s'.outgoing.Solid := by
  obtain ⟨rs, -, hout⟩ := h.queued
  intro c hc
  rw [hout] at hc
  rcases List.mem_append.mp hc with hc | hc
  · exact hs c hc
  · obtain ⟨r, -, rfl⟩ := List.mem_map.mp hc
    exact r.2.encode_ne_nil

end Fills

/-! ## The operations of a session -/

theorem fills_layer (s : Session) (layer : RecordLayer) : Fills s { s with layer } :=
  .of_eq rfl rfl rfl id List.suffix_rfl

theorem fills_sendRecord (s : Session) (r : Record) : Fills s (s.sendRecord r) := by
  rcases sendRecord_cases s r with h | ⟨wire, d, -, h⟩ | ⟨e, d, -, h⟩
  · rw [h]
    exact .refl s
  · rw [h]
    exact (fills_layer s _).trans (.enqueue _ r wire)
  · rw [h]
    exact (fills_layer s _).trans (.note _ _)

theorem fills_sendClose (s : Session) : Fills s s.sendClose := by
  by_cases h : s.status = .opened
  · rw [sendClose_eq h]
    have hleaving : Fills s s.leaving :=
      .of_eq (sent_leaving s) rfl rfl id ((List.suffix_cons _ _).trans (List.suffix_cons _ _))
    exact hleaving.trans (fills_sendRecord _ _)
  · rw [sendClose, if_pos h]
    exact .refl s

theorem fills_sendFragment (s : Session) (r : Record) : Fills s (s.sendFragment r) := by
  unfold sendFragment
  split
  · exact (fills_sendClose s).trans (fills_sendRecord _ r)
  · exact fills_sendRecord s r

theorem fills_send (s : Session) (m : Message) : Fills s (s.send m) :=
  (Fills.happened s rfl).trans (.foldl fills_sendFragment _ _)

theorem fills_sendWarning (s : Session) (d : AlertDescription) : Fills s (s.sendWarning d) :=
  (Fills.note s _).trans (fills_send _ _)

theorem fills_status (s : Session) (status : Status) : Fills s { s with status } :=
  .of_eq rfl rfl rfl id List.suffix_rfl

theorem fills_abort (s : Session) (d : AlertDescription) : Fills s (s.abort d) := by
  unfold abort
  split
  · exact .refl s
  · exact (Fills.note s _).trans ((fills_send _ _).trans (fills_status _ _))

theorem fills_receiveClose (s : Session) : Fills s s.receiveClose.2 := by
  set s₁ : Session := { s.note .closeReceived with closeReceived := true } with hs₁
  have hfirst : Fills s s₁ := .of_eq (sent_note s _) rfl rfl id (List.suffix_cons _ _)
  refine hfirst.trans ?_
  show Fills s₁ { (if s₁.status = .opened then s₁.send (.ofAlert ⟨.warning, .closeNotify⟩)
    else s₁) with status := .closed }
  split
  · exact (fills_send _ _).trans (fills_status _ _)
  · exact fills_status _ _

theorem fills_receiveAlert (s : Session) (a : Alert) : Fills s (s.receiveAlert a).2 := by
  unfold receiveAlert
  split
  · exact fills_abort s _
  · split
    · exact fills_receiveClose s
    · split
      · exact .note s _
      · exact (Fills.note s _).trans (fills_status _ _)

theorem fills_receiveAlerts (s : Session) (as : List Alert) : Fills s (s.receiveAlerts as).2 := by
  induction as generalizing s with
  | nil => exact .refl s
  | cons a as ih =>
    have h := fills_receiveAlert s a
    unfold receiveAlerts
    split
    · next s' heq =>
      rw [heq] at h
      split
      · exact h
      · exact h.trans (ih s')
    · exact h

theorem fills_sendPlaintext (s : Session) (bs : Bytes) : Fills s (s.sendPlaintext bs) := by
  unfold sendPlaintext
  split
  · exact .of_eq rfl rfl rfl id List.suffix_rfl
  · split
    · exact .refl s
    · exact (fills_sendFragment s _).trans (.foldl fills_sendFragment _ _)

theorem fills_write (s : Session) (bs : Bytes) : Fills s (s.write bs).2 := by
  unfold write
  split
  · exact .refl s
  · exact fills_sendPlaintext s bs

theorem fills_startTraffic (s : Session) : Fills s s.startTraffic := by
  have hstart : Fills s { s with traffic := true, early := {} } :=
    .of_eq rfl rfl rfl (fun _ => rfl) List.suffix_rfl
  exact hstart.trans (.foldl fills_sendPlaintext _ _)

theorem fills_receiveData (s : Session) (bs : Bytes) : Fills s (s.receiveData bs) :=
  ⟨⟨[], (List.append_nil _).symm, (List.append_nil _).symm⟩, fun h => h.push bs, id, List.suffix_rfl⟩

end Session

/-! ## Handling a message -/

namespace Step

open Session (Fills)

/-- A step that only adds to what waits. -/
def Filling {α : Type} (x : Step α) : Prop := ∀ s, Fills s (x.run s).2

theorem Filling.bind {α β : Type} {x : Step α} {f : α → Step β} (hx : Filling x)
    (hf : ∀ a, Filling (f a)) : Filling (x >>= f) := by
  intro s
  have hfirst := hx s
  rcases h : x.run s with ⟨e | a, s'⟩
  all_goals rw [h] at hfirst
  · rw [run_bind_of_error h]
    exact hfirst
  · rw [run_bind_of_ok h]
    exact hfirst.trans (hf a s')

theorem filling_changeKeys (secrets : Secrets) : Filling (Stage.changeKeys secrets) := by
  refine Filling.bind (fun s => .refl s) fun receiving => ?_
  refine Filling.bind (fun s => .refl s) fun sending => ?_
  refine Filling.bind (fun s => Session.fills_layer s _) fun _ => ?_
  refine Filling.bind (fun s => Session.fills_send s _) fun _ => ?_
  exact Filling.bind (fun s => Session.fills_layer s _) fun _ s => .note s _

/-- All the ways in which the handshake works on a session add to what waits at most. -/
theorem closed_filling : Closed fun _ => Filling where
  bind := Filling.bind
  ofExcept _ s := .refl s
  draw _ _ := .of_eq rfl rfl rfl id List.suffix_rfl
  refuse _ s := Session.fills_abort s _
  note _ s := .note s _
  choose _ _ := .of_eq rfl rfl rfl id List.suffix_rfl
  report _ _ _ s := .happened s rfl
  send _ s := Session.fills_send s _
  changeKeys := filling_changeKeys
  startReceiving s := Session.fills_layer s _
  startTraffic := Session.fills_startTraffic
  receiveData bs s := Session.fills_receiveData s bs

end Step

namespace Stage

/-- Handling a message only adds to what waits. -/
theorem handle_fills (c : Config) (stage : Stage) (m : Message) : Step.Filling (stage.handle c m) :=
  Step.closed_filling.handle c stage m

theorem start_fills (c : Config) (time : Nat) : Step.Filling (Stage.start c time) :=
  Step.closed_filling.start c time

end Stage

end TlsClient
