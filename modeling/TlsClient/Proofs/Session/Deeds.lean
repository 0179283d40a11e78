import TlsClient.Session.Alerts
import TlsClient.Session.Plaintext
import TlsClient.Transcript

/-!
# The deeds of a session

Of what a session remembers, its deeds are what it opened, handled, sent and queued; notices and
reported secrets are not.  What was done first comes first, so that a statement about a whole run is
one about each deed and the deeds before it (`Justified`).
-/

namespace TlsClient

namespace Event

/-- Whether an event is more than a report. -/
def isDeed : Event → Bool
  | notice _ | secret .. => false
  | _ => true

/-- The message that was given to the handshake. -/
def handled? : Event → Option Message
  | handled m => some m
  | _ => none

/-- The record that was queued, before and after protection. -/
def queued? : Event → Option (Record × Record)
  | queued plain wire => some (plain, wire)
  | _ => none

/-- The record that was opened, and whether it took keys to open it. -/
def opened? : Event → Option (Bool × Record)
  | opened keyed r => some (keyed, r)
  | _ => none

/-- The handshake bytes that an event takes in or puts on the wire. -/
def wireBytes : Event → Bytes
  | handled m => Transcript.contribution m
  | queued plain _ => if plain.typ = .handshake then plain.payload else []
  | _ => []

/-- The handshake bytes in a record that was opened, with keys or without. -/
def openedBytes (keyed : Bool) : Event → Bytes
  | opened k r => if k = keyed ∧ r.typ = .handshake then r.payload else []
  | _ => []

/-- Whether an event sends an alert or, once the handshake is over, data. -/
def IsTalk (traffic : Bool) : Event → Prop
  | sent m => m.body.typ = .alert
  | queued plain _ => plain.typ = .alert ∨ plain.typ = .applicationData ∧ traffic = true
  | _ => False

end Event

namespace Deeds

/-- The messages that were given to the handshake. -/
def handled (es : List Event) : List Message := es.filterMap Event.handled?

/-- The records that were queued, before and after protection. -/
def records (es : List Event) : List (Record × Record) := es.filterMap Event.queued?

/-- The handshake bytes on the wire, whoever sent them. -/
def wire (es : List Event) : Bytes := es.flatMap Event.wireBytes

/-- The handshake bytes in the records that were opened, with keys or without. -/
def opened (keyed : Bool) (es : List Event) : Bytes := es.flatMap (Event.openedBytes keyed)

/-- The bytes of the handshake messages that were given to the handshake. -/
def taken (es : List Event) : Bytes := (handled es).flatMap Transcript.contribution

variable {es fs : List Event}

@[simp] theorem handled_nil : handled [] = [] := rfl

@[simp] theorem handled_append (es fs : List Event) :
    handled (es ++ fs) = handled es ++ handled fs := List.filterMap_append

@[simp] theorem records_append (es fs : List Event) :
    records (es ++ fs) = records es ++ records fs := List.filterMap_append

@[simp] theorem wire_append (es fs : List Event) : wire (es ++ fs) = wire es ++ wire fs :=
  List.flatMap_append

@[simp] theorem opened_append (keyed : Bool) (es fs : List Event) :
    opened keyed (es ++ fs) = opened keyed es ++ opened keyed fs := List.flatMap_append

@[simp] theorem taken_append (es fs : List Event) : taken (es ++ fs) = taken es ++ taken fs := by
  rw [taken, handled_append, List.flatMap_append]
  rfl

@[simp] theorem taken_handled (m : Message) : taken [.handled m] = Transcript.contribution m :=
  List.flatMap_singleton ..

@[simp] theorem wire_handled (m : Message) : wire [.handled m] = Transcript.contribution m :=
  List.flatMap_singleton ..

@[simp] theorem handled_handled (m : Message) : handled [.handled m] = [m] := rfl

@[simp] theorem opened_handled (keyed : Bool) (m : Message) : opened keyed [.handled m] = [] := rfl

@[simp] theorem records_handled (m : Message) : records [.handled m] = [] := rfl

@[simp] theorem handled_opened (keyed : Bool) (r : Record) : handled [.opened keyed r] = [] := rfl

@[simp] theorem records_opened (keyed : Bool) (r : Record) : records [.opened keyed r] = [] := rfl

@[simp] theorem wire_opened (keyed : Bool) (r : Record) : wire [.opened keyed r] = [] := rfl

@[simp] theorem taken_opened (keyed : Bool) (r : Record) : taken [.opened keyed r] = [] := rfl

/-! ## Talk -/

theorem handled_talk {b : Bool} (h : ∀ e ∈ es, e.IsTalk b) : handled es = [] := by
  apply List.filterMap_eq_nil_iff.mpr
  intro e he
  cases e with
  | handled m => exact (h _ he).elim
  | _ => rfl

theorem wire_talk {b : Bool} (h : ∀ e ∈ es, e.IsTalk b) : wire es = [] := by
  apply List.flatMap_eq_nil_iff.mpr
  intro e he
  cases e with
  | handled m => exact (h _ he).elim
  | queued plain w =>
    apply if_neg
    intro ht
    rcases h _ he with h | ⟨h, -⟩ <;> rw [ht] at h <;> cases h
  | _ => rfl

theorem opened_talk {b : Bool} (keyed : Bool) (h : ∀ e ∈ es, e.IsTalk b) : opened keyed es = [] := by
  apply List.flatMap_eq_nil_iff.mpr
  intro e he
  cases e with
  | opened k r => exact (h _ he).elim
  | _ => rfl

theorem taken_talk {b : Bool} (h : ∀ e ∈ es, e.IsTalk b) : taken es = [] := by
  rw [taken, handled_talk h, List.flatMap_nil]

/-! ## Justified deeds -/

/-- Every deed of a list is justified by those before it. -/
def Justified (P : List Event → Event → Prop) (es : List Event) : Prop :=
  ∀ before e after, es = before ++ e :: after → P before e

variable {P : List Event → Event → Prop} {e : Event}

@[simp] theorem justified_nil (P : List Event → Event → Prop) : Justified P [] := by
  intro before e after h
  simp at h

/-- An event among some deeds and those after them is among the former or the latter. -/
theorem append_cases {before after : List Event} (h : es ++ fs = before ++ e :: after) :
    (∃ mid, es = before ++ e :: mid ∧ after = mid ++ fs) ∨
      ∃ mid, before = es ++ mid ∧ fs = mid ++ e :: after := by
  rcases List.append_eq_append_iff.mp h with ⟨mid, rfl, hmid⟩ | ⟨mid, rfl, hmid⟩
  · exact .inr ⟨mid, rfl, hmid⟩
  · cases mid with
    | nil => exact .inr ⟨[], by simp, hmid.symm⟩
    | cons x mid =>
      obtain ⟨rfl, rfl⟩ := List.cons.inj hmid
      exact .inl ⟨mid, rfl, rfl⟩

theorem justified_append :
    Justified P (es ++ fs) ↔ Justified P es ∧ Justified (fun before => P (es ++ before)) fs := by
  constructor
  · intro h
    constructor
    · rintro before e after rfl
      exact h before e (after ++ fs) (by simp)
    · rintro before e after rfl
      exact h (es ++ before) e after (by simp)
  · rintro ⟨hes, hfs⟩ before e after h
    rcases append_cases h with ⟨mid, rfl, -⟩ | ⟨mid, rfl, hmid⟩
    · exact hes before e mid rfl
    · exact hfs mid e after hmid

@[simp] theorem justified_singleton : Justified P [e] ↔ P [] e := by
  constructor
  · exact fun h => h [] e [] rfl
  · intro h before e' after heq
    rcases before with _ | ⟨x, before⟩
    · cases heq
      exact h
    · simp at heq

theorem justified_cons :
    Justified P (e :: es) ↔ P [] e ∧ Justified (fun before => P (e :: before)) es := by
  rw [← List.singleton_append, justified_append, justified_singleton]
  rfl

theorem justified_of_forall (h : ∀ before, ∀ e ∈ es, P before e) : Justified P es := by
  rintro before e after rfl
  exact h before e (by simp)

end Deeds

namespace Session

/-- What the session did, in order. -/
def deeds (s : Session) : List Event := s.history.reverse.filter Event.isDeed

theorem deeds_happened (s : Session) (e : Event) :
    (s.happened e).deeds = s.deeds ++ if e.isDeed then [e] else [] := by
  simp only [deeds, happened, List.reverse_cons, List.filter_append, List.filter_cons,
    List.filter_nil]

@[simp] theorem deeds_note (s : Session) (n : Notice) : (s.note n).deeds = s.deeds := by
  simp [note, deeds_happened, Event.isDeed]

theorem sent_eq (s : Session) : s.sent = Deeds.records s.deeds := by
  rw [sent, deeds, Deeds.records, List.filterMap_filter]
  congr 1
  funext e
  cases e <;> rfl

theorem sent_of_deeds {s s' : Session} (h : s'.deeds = s.deeds) : s'.sent = s.sent := by
  rw [sent_eq, sent_eq, h]

theorem sent_happened (s : Session) (e : Event) :
    (s.happened e).sent = s.sent ++ Deeds.records (if e.isDeed then [e] else []) := by
  rw [sent_eq, sent_eq, deeds_happened, Deeds.records_append]

end Session

end TlsClient
