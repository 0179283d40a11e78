import TlsClient.Proofs.Record.Pairing
import TlsClient.Proofs.Session.Talking

/-!
# Which alerts were heard

The alerts of the peer are in the records that were opened, two bytes each, wherever the records end
(`AlertJoiner.pairs_append`).  What counts is the first that is more than a warning: the `verdict`.  Where no
record is opened (`Unopened`) nothing is heard, and where the session is `Still` nothing is kept for the user either.
-/

namespace TlsClient

namespace Alert

/-- An alert after which everything goes on. -/
def harmless (a : Alert) : Bool := a.level == .warning && a.description != .closeNotify

/-- An alert that is a warning or fatal. -/
def Known (a : Alert) : Prop := a.level = .warning ∨ a.level = .fatal

end Alert

/-- The alert bytes in a record that was opened. -/
def Event.alertBytes : Event → Bytes
  | opened _ r => if r.typ = .alert then r.payload else []
  | _ => []

/-- The alert bytes in a record. -/
def Record.alertPayload (r : Record) : Bytes := if r.typ = .alert then r.payload else []

namespace Deeds

/-- The records that were opened, and whether it took keys to open them. -/
def openings (es : List Event) : List (Bool × Record) := es.filterMap Event.opened?

@[simp] theorem openings_append (es fs : List Event) :
    openings (es ++ fs) = openings es ++ openings fs := List.filterMap_append

def alertBytes (es : List Event) : Bytes := es.flatMap Event.alertBytes

/-- The alerts that were heard. -/
def alerts (es : List Event) : List Alert := (AlertJoiner.pairs (alertBytes es)).1

/-- The first byte of the next alert. -/
def half (es : List Event) : Bytes := (AlertJoiner.pairs (alertBytes es)).2

/-- The first alert that is more than a warning. -/
def verdict (es : List Event) : Option Alert := (alerts es).find? fun a => !a.harmless

@[simp] theorem alertBytes_append (es fs : List Event) :
    alertBytes (es ++ fs) = alertBytes es ++ alertBytes fs := List.flatMap_append

theorem alertBytes_eq (es : List Event) :
    alertBytes es = (openings es).flatMap fun x => x.2.alertPayload := by
  induction es with
  | nil => rfl
  | cons e es ih =>
    rw [← List.singleton_append, alertBytes_append, openings_append, List.flatMap_append, ih]
    congr 1
    cases e <;> rfl

/-- After a verdict there is no other. -/
theorem verdict_append (es fs : List Event) : verdict (es ++ fs) = (verdict es).or
    ((AlertJoiner.pairs (half es ++ alertBytes fs)).1.find? fun a => !a.harmless) := by
  rw [verdict, alerts, alertBytes_append, AlertJoiner.pairs_append, List.find?_append]
  rfl

theorem half_append (es fs : List Event) :
    half (es ++ fs) = (AlertJoiner.pairs (half es ++ alertBytes fs)).2 := by
  rw [half, alertBytes_append, AlertJoiner.left_append]
  rfl

end Deeds

namespace Session

/-- The alert bytes that were heard. -/
def heard (s : Session) : Bytes := Deeds.alertBytes s.deeds

theorem heard_of_deeds {s s' : Session} (h : s'.deeds = s.deeds) : s'.heard = s.heard := by
  rw [heard, heard, h]

/-- Nothing is heard by what a session does but open a record. -/
theorem heard_append {s s' : Session} {es : List Event} (h : s'.deeds = s.deeds ++ es)
    (hes : ∀ e ∈ es, e.alertBytes = []) : s'.heard = s.heard := by
  rw [heard, h, Deeds.alertBytes_append, Deeds.alertBytes, Deeds.alertBytes,
    List.flatMap_eq_nil_iff.mpr hes, List.append_nil]
  rfl

/-! ## Without opening a record -/

/-- One session comes from another without a record being opened. -/
def Unopened (s s' : Session) : Prop := ∃ es, s'.deeds = s.deeds ++ es ∧ ∀ e ∈ es, e.opened? = none

namespace Unopened

variable {s s' s'' : Session}

theorem of_deeds (h : s'.deeds = s.deeds) : Unopened s s' :=
  ⟨[], h.trans (List.append_nil _).symm, by simp⟩

theorem trans (h : Unopened s s') (h' : Unopened s' s'') : Unopened s s'' := by
  obtain ⟨es, hes, hall⟩ := h
  obtain ⟨fs, hfs, hall'⟩ := h'
  refine ⟨es ++ fs, by rw [hfs, hes, List.append_assoc], fun e he => ?_⟩
  rcases List.mem_append.mp he with he | he
  · exact hall e he
  · exact hall' e he

theorem openings (h : Unopened s s') : Deeds.openings s'.deeds = Deeds.openings s.deeds := by
  obtain ⟨es, hes, hall⟩ := h
  rw [hes, Deeds.openings_append, Deeds.openings, Deeds.openings, List.filterMap_eq_nil_iff.mpr hall,
    List.append_nil]

/-- Where no record is opened, no alert is heard. -/
theorem heard (h : Unopened s s') : s'.heard = s.heard := by
  rw [Session.heard, Session.heard, Deeds.alertBytes_eq, Deeds.alertBytes_eq, h.openings]

end Unopened

theorem Talks.unopened {s s' : Session} (h : Talks s s') : Unopened s s' := by
  obtain ⟨es, hes, htalk⟩ := h.deeds
  refine ⟨es, hes, fun e he => ?_⟩
  cases e with
  | opened k r => exact (htalk _ he).elim
  | _ => rfl

theorem Talks.heard {s s' : Session} (h : Talks s s') : s'.heard = s.heard := h.unopened.heard

/-- One session comes from another without a record being opened or anything kept that the peer wrote. -/
structure Still (s s' : Session) : Prop where
  incoming : s'.incoming = s.incoming
  unopened : Unopened s s'

namespace Still

variable {s s' s'' : Session}

theorem of_deeds (hd : s'.deeds = s.deeds) (hi : s'.incoming = s.incoming) : Still s s' :=
  ⟨hi, .of_deeds hd⟩

theorem refl (s : Session) : Still s s := .of_deeds rfl rfl

theorem trans (h : Still s s') (h' : Still s' s'') : Still s s'' :=
  ⟨h'.incoming.trans h.incoming, h.unopened.trans h'.unopened⟩

theorem note (s : Session) (n : Notice) : Still s (s.note n) := .of_deeds (deeds_note s n) rfl

end Still

theorem still_began (s : Session) (m : Message) : Still s (s.happened (.sent m)) :=
  ⟨rfl, [.sent m], deeds_happened s _, by simp [Event.opened?]⟩

end Session

end TlsClient
