import TlsClient.Proofs.Connection.Delivery
import TlsClient.Proofs.Stage.Stillness

/-!
# Which records it takes keys to open

From the server's key change on every record takes keys to open, and none before (`Session.Keyed`): of the
records that were opened, those that took no keys come first.  A move keeps it so (`Keyed.step`), because only
the signal of the key change leads to a stage at which what is received is protected (`Takes.isKeyed`).
-/

namespace TlsClient

open Session (Talks Unopened)

namespace Deeds

/-- The records that were opened, with keys or without. -/
def openingsIn (keyed : Bool) (es : List Event) : List (Bool × Record) :=
  (openings es).filter fun x => x.1 == keyed

/-- The alert bytes in the records that were opened, with keys or without. -/
def alertBytesIn (keyed : Bool) (es : List Event) : Bytes :=
  (openingsIn keyed es).flatMap fun x => x.2.alertPayload

@[simp] theorem openingsIn_append (keyed : Bool) (es fs : List Event) :
    openingsIn keyed (es ++ fs) = openingsIn keyed es ++ openingsIn keyed fs := by
  rw [openingsIn, openings_append, List.filter_append]
  rfl

end Deeds

namespace Stage

variable {c : Config} {stage stage' : Stage} {m : Message} {act : Act} {src src' : RandomSource}
  {d : Direction}

/-- Whether what is received at a stage is protected. -/
def isKeyed : Stage → Bool
  | finished .. | traffic => true
  | _ => false

/-- A message that is taken in changes whether what is received is protected as its stages say. -/
theorem Takes.isKeyed (h : stage.Takes c src m act stage' src') (hd : d.isActive = stage.isKeyed) :
    (act.receiving d).isActive = stage'.isKeyed := by
  cases h with
  | hello =>
    rw [afterHello]
    split <;> exact hd
  | certificate => split <;> exact hd
  | reply | keyChange => rfl
  | params | request | finished | data => exact hd

/-- Protection does not end. -/
theorem Takes.keyed_mono (h : stage.Takes c src m act stage' src') (hkeyed : stage.isKeyed = true) :
    stage'.isKeyed = true := by
  cases h with
  | reply hanswers => cases hanswers <;> cases hkeyed
  | finished | data => rfl
  | _ => cases hkeyed

/-- Handling a message opens no record. -/
theorem handle_unopened (c : Config) (stage : Stage) (m : Message) (s : Session) :
    Unopened s ((stage.handle c m).run s).2 := by
  by_cases hdata : stage = .traffic ∧ m.body.typ = .applicationData
  · obtain ⟨rfl, htyp⟩ := hdata
    cases hbody : m.body with
    | applicationData bytes =>
      rw [handle_data c hbody]
      exact .of_deeds rfl
    | _ =>
      rw [hbody] at htyp
      cases htyp
  · exact (handle_still c (fun ht hm => hdata ⟨ht, hm⟩) s).unopened

end Stage

namespace Session

variable {s s' : Session} {stage stage' : Stage} {r : Record}

/-- At this stage it takes keys to open a record just if what is received is protected, and those that took
none were opened first. -/
structure Keyed (s : Session) (stage : Stage) : Prop where
  active : s.layer.receiving.isActive = stage.isKeyed
  clear : stage.isKeyed = false → Deeds.openingsIn true s.deeds = []
  parted : Deeds.openings s.deeds
    = Deeds.openingsIn false s.deeds ++ Deeds.openingsIn true s.deeds

theorem Keyed.unopened (h : s.Keyed stage) (hs : Unopened s s')
    (hactive : s'.layer.receiving.isActive = stage'.isKeyed)
    (hkeyed : stage.isKeyed = true → stage'.isKeyed = true) : s'.Keyed stage' := by
  have hin (keyed : Bool) : Deeds.openingsIn keyed s'.deeds = Deeds.openingsIn keyed s.deeds := by
    rw [Deeds.openingsIn, hs.openings]
    rfl
  refine ⟨hactive, fun hclear => ?_, ?_⟩
  · rw [hin]
    exact h.clear (Bool.eq_false_iff.mpr fun hk => absurd hclear (by simp [hkeyed hk]))
  · rw [hs.openings, hin, hin]
    exact h.parted

theorem Keyed.talks (h : s.Keyed stage) (ht : Talks s s') : s'.Keyed stage :=
  h.unopened ht.unopened (ht.receiving ▸ h.active) id

theorem Keyed.opens (h : s.Keyed stage) (ho : s.Opens r s') : s'.Keyed stage := by
  have hdeeds := ho.takes.deeds
  have hactive := h.active
  have hsingle (keyed k : Bool) :
      Deeds.openingsIn keyed [.opened k r] = if k = keyed then [(k, r)] else [] := by
    cases keyed <;> cases k <;> rfl
  rw [hactive] at hdeeds
  cases hkeyed : stage.isKeyed with
  | false =>
    have hnone := h.clear hkeyed
    have hparted := h.parted
    rw [hnone, List.append_nil] at hparted
    rw [hkeyed] at hdeeds
    refine ⟨ho.isActive.trans hactive, fun _ => ?_, ?_⟩
    · rw [hdeeds, Deeds.openingsIn_append, hnone, hsingle]
      rfl
    · rw [hdeeds, Deeds.openings_append, Deeds.openingsIn_append, Deeds.openingsIn_append, hnone,
        hsingle, hsingle, hparted]
      exact (List.append_nil _).symm
  | true =>
    rw [hkeyed] at hdeeds
    refine ⟨ho.isActive.trans hactive, fun hclear => absurd hclear (by simp [hkeyed]), ?_⟩
    rw [hdeeds, Deeds.openings_append, Deeds.openingsIn_append, Deeds.openingsIn_append, hsingle,
      hsingle, h.parted]
    simp [Deeds.openings, Event.opened?]

/-- The alert bytes that it took no keys to open come first. -/
theorem Keyed.alertBytes (h : s.Keyed stage) : Deeds.alertBytes s.deeds =
    Deeds.alertBytesIn false s.deeds ++ Deeds.alertBytesIn true s.deeds := by
  rw [Deeds.alertBytes_eq, h.parted, List.flatMap_append]
  rfl

end Session

namespace Connection

variable {o : Origin} {c c' : Connection}

/-- As long as a connection has not failed, it takes keys to open a record just when its stage says so. -/
def Keyed (c : Connection) : Prop := ∀ stage, c.stage = .ok stage → c.session.Keyed stage

/-- Every move keeps it so. -/
theorem Keyed.step (hsound : c.Sound o) (hmove : Moves c c') (h : c.Keyed) : c'.Keyed := by
  intro stage' hstage'
  cases hmove with
  | talks hconfig hstage hjoin ht => exact (h _ (hstage ▸ hstage')).talks ht
  | hears hok hconfig hstage hjoin hr hopen ht => exact ((h _ (hstage ▸ hstage')).opens hopen).talks ht
  | opens hok hready hconfig hstage hopen hjoin => exact (h _ (hstage ▸ hstage')).opens hopen
  | @takes stage _ m rest hok hready hm hconfig hstage hjoin hrun =>
    rw [hstage] at hstage'
    cases hstage'
    obtain ⟨act, ht, hact⟩ := @Stage.handle_ok c.config stage stage' m
      (c.session.happened (.handled m)) c'.session (hsound.phase.idle hok) hrun
    have hkeyed := h stage hok
    have hhandled : Unopened c.session (c.session.happened (.handled m)) :=
      ⟨[.handled m], (Session.takes_handled c.session m).deeds, by simp [Event.opened?]⟩
    have hunopened := Stage.handle_unopened c.config stage m (c.session.happened (.handled m))
    rw [hrun] at hunopened
    refine hkeyed.unopened (hhandled.trans hunopened) ?_ ht.keyed_mono
    rw [performed_receiving hact]
    exact ht.isKeyed hkeyed.active
  | declines hok hready hm hconfig hstage hjoin ht => exact (h _ (hstage ▸ hstage')).talks ht
  | refuses hok hready hconfig hstage => rw [hstage] at hstage'; cases hstage'
  | fails hok hconfig hstage => rw [hstage] at hstage'; cases hstage'

/-- A connection that has just started has opened nothing. -/
theorem Starts.keyed {hello : ClientHello} (h : c.Starts o hello) : c.Keyed := by
  intro stage hstage
  have hopenings : Deeds.openings c.session.deeds = [] := by
    rw [h.deeds]
    apply List.filterMap_eq_nil_iff.mpr
    intro e he
    rcases List.mem_cons.mp he with rfl | he
    · rfl
    · obtain ⟨r, -, rfl⟩ := List.mem_map.mp he
      rfl
  have hin (keyed : Bool) : Deeds.openingsIn keyed c.session.deeds = [] := by
    rw [Deeds.openingsIn, hopenings, List.filter_nil]
  obtain rfl : o.stage = stage := Except.ok.inj (h.stage.symm.trans hstage)
  refine ⟨?_, fun _ => hin true, by rw [hopenings, hin, hin]; rfl⟩
  rw [h.layer, h.waitsFor]
  rfl

end Connection

end TlsClient
