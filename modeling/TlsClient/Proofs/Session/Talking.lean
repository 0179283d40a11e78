import Mathlib.Logic.Relation
import TlsClient.Proofs.Record.Fragments
import TlsClient.Proofs.Session.Deeds

/-!
# Talk

Outside of the handshake a session sends alerts and, once the handshake is over, data; everything else
that it does then is bookkeeping.  Each operation of that kind is a sequence of the steps of `Talk`, so
a property that survives these steps survives the operation.  What talk leaves alone is the `Frame` of
a session.
-/

namespace TlsClient.Session

open Relation (ReflTransGen)

/-- One step of talk. -/
inductive Talk : Session → Session → Prop
  | note (s : Session) (n : Notice) : Talk s (s.note n)
  | keep (s : Session) (status : Status) (closeReceived : Bool) (incoming early outgoing : ByteQueue) :
    Talk s { s with status, closeReceived, incoming, early, outgoing }
  | begin (s : Session) (m : Message) (h : m.body.typ = .alert) : Talk s (s.happened (.sent m))
  | record (s : Session) (r : Record)
    (h : r.typ = .alert ∨ r.typ = .applicationData ∧ s.traffic = true)
    (hr : r.payload.length ≤ Record.maxFragment) : Talk s (s.sendRecord r)

/-- Any amount of talk. -/
def Talks : Session → Session → Prop := ReflTransGen Talk

/-- What talk leaves alone. -/
structure Frame where
  random : RandomSource
  receiving : Direction
  suite : Option Suite
  traffic : Bool

def frame (s : Session) : Frame where
  random := s.random
  receiving := s.layer.receiving
  suite := s.suite
  traffic := s.traffic

/-! ## Sending a record -/

/-- A record is put on its way, or it is dropped. -/
theorem sendRecord_cases (s : Session) (r : Record) :
    s.sendRecord r = s ∨
      (∃ wire d, s.layer.sending.protect r = (.ok wire, d) ∧
        s.sendRecord r = { s with layer := { s.layer with sending := d } }.enqueue r wire) ∨
      ∃ e d, s.layer.sending.protect r = (.error e, d) ∧
        s.sendRecord r = { s with layer := { s.layer with sending := d } }.note (.undeliverable e) := by
  unfold sendRecord
  split
  · exact .inl rfl
  · right
    rcases h : s.layer.sending.protect r with ⟨e | wire, d⟩
    · exact .inr ⟨e, d, rfl, by simp only [RecordLayer.protect, h]⟩
    · exact .inl ⟨wire, d, rfl, by simp only [RecordLayer.protect, h]⟩

theorem deeds_enqueue (s : Session) (plain wire : Record) :
    (s.enqueue plain wire).deeds = s.deeds ++ [.queued plain wire] := by
  simp [enqueue, deeds_happened, Event.isDeed]
  rfl

theorem frame_sendRecord (s : Session) (r : Record) : (s.sendRecord r).frame = s.frame := by
  rcases sendRecord_cases s r with h | ⟨wire, d, -, h⟩ | ⟨e, d, -, h⟩ <;> rw [h] <;> rfl

/-- The record leaves at most its own trace. -/
theorem deeds_sendRecord (s : Session) (r : Record) :
    ∃ es, (s.sendRecord r).deeds = s.deeds ++ es ∧ ∀ e ∈ es, ∃ wire, e = .queued r wire := by
  rcases sendRecord_cases s r with h | ⟨wire, d, -, h⟩ | ⟨e, d, -, h⟩
  · exact ⟨[], by simp [h], by simp⟩
  · exact ⟨[.queued r wire], by rw [h, deeds_enqueue]; rfl, by simp⟩
  · exact ⟨[], by rw [h, deeds_note, List.append_nil]; rfl, by simp⟩

/-! ## What talk does -/

theorem Talk.frame {s s' : Session} (h : Talk s s') : s'.frame = s.frame := by
  cases h with
  | record r h hr => exact frame_sendRecord s r
  | _ => rfl

theorem Talk.deeds {s s' : Session} (h : Talk s s') :
    ∃ es, s'.deeds = s.deeds ++ es ∧ ∀ e ∈ es, e.IsTalk s.traffic := by
  cases h with
  | note n => exact ⟨[], by simp, by simp⟩
  | keep => exact ⟨[], (List.append_nil _).symm, by simp⟩
  | begin m h => exact ⟨[.sent m], by simp [deeds_happened, Event.isDeed], by simpa [Event.IsTalk]⟩
  | record r h hr =>
    obtain ⟨es, hes, hall⟩ := deeds_sendRecord s r
    refine ⟨es, hes, fun e he => ?_⟩
    obtain ⟨wire, rfl⟩ := hall e he
    exact h

namespace Talks

variable {s s' s'' : Session}

theorem refl (s : Session) : Talks s s := ReflTransGen.refl

theorem trans (h : Talks s s') (h' : Talks s' s'') : Talks s s'' := ReflTransGen.trans h h'

theorem single (h : Talk s s') : Talks s s' := ReflTransGen.single h

/-- What survives every step survives all of them. -/
theorem keeps {P : Session → Prop} (hP : ∀ s s', Talk s s' → P s → P s') (h : Talks s s')
    (hs : P s) : P s' := by
  induction h with
  | refl => exact hs
  | tail _ h ih => exact hP _ _ h ih

theorem frame (h : Talks s s') : s'.frame = s.frame :=
  h.keeps (P := fun x => x.frame = s.frame) (fun _ _ ht hx => ht.frame.trans hx) rfl

theorem traffic (h : Talks s s') : s'.traffic = s.traffic := congrArg Frame.traffic h.frame

theorem receiving (h : Talks s s') : s'.layer.receiving = s.layer.receiving :=
  congrArg Frame.receiving h.frame

theorem suite (h : Talks s s') : s'.suite = s.suite := congrArg Frame.suite h.frame

theorem random (h : Talks s s') : s'.random = s.random := congrArg Frame.random h.frame

theorem deeds (h : Talks s s') : ∃ es, s'.deeds = s.deeds ++ es ∧ ∀ e ∈ es, e.IsTalk s.traffic := by
  induction h with
  | refl => exact ⟨[], by simp, by simp⟩
  | @tail x y hx hxy ih =>
    obtain ⟨es, hes, hall⟩ := ih
    obtain ⟨fs, hfs, hall'⟩ := hxy.deeds
    refine ⟨es ++ fs, by rw [hfs, hes, List.append_assoc], fun e he => ?_⟩
    rcases List.mem_append.mp he with he | he
    · exact hall e he
    · exact traffic hx ▸ hall' e he

end Talks

/-! ## The operations that talk -/

/-- A session that may send a record of this type by talking. -/
def MayTalk (s : Session) (t : ContentType) : Prop :=
  t = .alert ∨ t = .applicationData ∧ s.traffic = true

theorem MayTalk.of_talks {s s' : Session} {t : ContentType} (h : s.MayTalk t) (hs : Talks s s') :
    s'.MayTalk t := by
  unfold MayTalk
  rw [hs.traffic]
  exact h

theorem talks_foldl_fragments {f : Session → Record → Session} {s : Session} {r : Record}
    (hf : ∀ s (x : Record), s.MayTalk x.typ → x.payload.length ≤ Record.maxFragment → Talks s (f s x))
    (h : s.MayTalk r.typ) : Talks s (r.fragments.foldl f s) := by
  have hall : ∀ x ∈ r.fragments, x.typ = r.typ ∧ x.payload.length ≤ Record.maxFragment :=
    fun x hx => ⟨(Record.of_mem_fragments hx).1, (Record.of_mem_fragments hx).2.2⟩
  generalize r.fragments = xs at hall
  induction xs generalizing s with
  | nil => exact .refl s
  | cons x xs ih =>
    obtain ⟨ht, hl⟩ := hall x (by simp)
    have hx : Talks s (f s x) := hf s x (ht ▸ h) hl
    exact hx.trans (ih (h.of_talks hx) fun y hy => hall y (List.mem_cons_of_mem x hy))

theorem talks_sendRecord {s : Session} {r : Record} (h : s.MayTalk r.typ)
    (hr : r.payload.length ≤ Record.maxFragment) : Talks s (s.sendRecord r) :=
  .single (.record s r h hr)

theorem talks_sendClose (s : Session) : Talks s s.sendClose := by
  unfold sendClose
  split
  · exact .refl s
  · refine Talks.trans ?_ (talks_foldl_fragments (fun _ _ => talks_sendRecord) (.inl rfl))
    have h := Talk.keep (s.note .sendingClose) .closing s.closeReceived s.incoming s.early s.outgoing
    exact (Talks.single (.note s _)).trans ((Talks.single h).trans (.single (.begin _ _ rfl)))

theorem talks_sendFragment {s : Session} {r : Record} (h : s.MayTalk r.typ)
    (hr : r.payload.length ≤ Record.maxFragment) : Talks s (s.sendFragment r) := by
  unfold sendFragment
  split
  · exact (talks_sendClose s).trans (talks_sendRecord (h.of_talks (talks_sendClose s)) hr)
  · exact talks_sendRecord h hr

theorem talks_sendAlert (s : Session) (a : Alert) : Talks s (s.send (.ofAlert a)) :=
  (Talks.single (.begin s _ rfl)).trans
    (talks_foldl_fragments (fun _ _ => talks_sendFragment) (.inl rfl))

theorem talks_status (s : Session) (status : Status) : Talks s { s with status } :=
  .single (.keep s status s.closeReceived s.incoming s.early s.outgoing)

theorem talks_sendWarning (s : Session) (d : AlertDescription) : Talks s (s.sendWarning d) :=
  (Talks.single (.note s _)).trans (talks_sendAlert _ _)

theorem talks_abort (s : Session) (d : AlertDescription) : Talks s (s.abort d) := by
  unfold abort
  split
  · exact .refl s
  · exact (Talks.single (.note s _)).trans ((talks_sendAlert _ _).trans (talks_status _ _))

theorem talks_receiveClose (s : Session) : Talks s s.receiveClose.2 := by
  have h := Talk.keep (s.note .closeReceived) s.status true s.incoming s.early s.outgoing
  refine (Talks.single (.note s _)).trans ((Talks.single h).trans ?_)
  unfold receiveClose
  dsimp only
  split
  · exact (talks_sendAlert _ _).trans (talks_status _ _)
  · exact talks_status _ _

theorem talks_receiveAlert (s : Session) (a : Alert) : Talks s (s.receiveAlert a).2 := by
  unfold receiveAlert
  split
  · exact talks_abort s _
  · split
    · exact talks_receiveClose s
    · split
      · exact .single (.note s _)
      · exact (Talks.single (.note s _)).trans (talks_status _ _)

theorem talks_receiveAlerts (s : Session) (as : List Alert) : Talks s (s.receiveAlerts as).2 := by
  induction as generalizing s with
  | nil => exact .refl s
  | cons a as ih =>
    have h := talks_receiveAlert s a
    unfold receiveAlerts
    split
    · next s' heq =>
      rw [heq] at h
      split
      · exact h
      · exact h.trans (ih s')
    · exact h

theorem talks_sendPlaintext (s : Session) (bs : Bytes) : Talks s (s.sendPlaintext bs) := by
  unfold sendPlaintext
  split
  · exact .single (.keep s s.status s.closeReceived s.incoming (s.early.push bs) s.outgoing)
  · next ht =>
    have h : s.MayTalk .applicationData := .inr ⟨rfl, by simpa using ht⟩
    split
    · exact .refl s
    · have hfirst : Talks s (s.sendFragment (dataRecord [])) :=
        talks_sendFragment h (Nat.zero_le _)
      exact hfirst.trans
        (talks_foldl_fragments (fun _ _ => talks_sendFragment) (h.of_talks hfirst))

theorem talks_write (s : Session) (bs : Bytes) : Talks s (s.write bs).2 := by
  unfold write
  split
  · exact .refl s
  · exact talks_sendPlaintext s bs

/-- Once the handshake counts as over, sending what was kept back is talk. -/
theorem talks_startTraffic (s : Session) : Talks { s with traffic := true } s.startTraffic := by
  have h : ∀ (bss : List Bytes) (s : Session), Talks s (bss.foldl sendPlaintext s) := by
    intro bss
    induction bss with
    | nil => exact .refl
    | cons bs bss ih => exact fun s => (talks_sendPlaintext s bs).trans (ih _)
  have hkeep := Talk.keep { s with traffic := true } s.status s.closeReceived s.incoming {} s.outgoing
  exact (Talks.single hkeep).trans (h _ _)

theorem talks_read (s : Session) (n : Nat) : Talks s (s.read n).2 :=
  .single (.keep s s.status s.closeReceived (s.incoming.read n).2 s.early s.outgoing)

theorem talks_receiveData (s : Session) (bs : Bytes) : Talks s (s.receiveData bs) :=
  .single (.keep s s.status s.closeReceived (s.incoming.push bs) s.early s.outgoing)

theorem talks_loseTransport (s : Session) : Talks s s.loseTransport :=
  .single (.keep s .closed s.closeReceived s.incoming s.early {})

end TlsClient.Session
