import TlsClient.Proofs.Connection.Lasting
import TlsClient.Proofs.Connection.Standing

/-!
# No record is lost

A record that cannot be protected is dropped, and so is one for which there is no number left.  The first never
happens (`run_lossless`): whatever is sent fits into a record, and no direction starts to protect without keys.
The second does not happen as long as there are fewer records than numbers (`run_unexhausted`).
-/

namespace TlsClient

namespace Session

/-- A session that has lost no record, and sends in a direction of some kind. -/
structure Lossless (D : Direction → Prop) (s : Session) : Prop where
  sending : D s.layer.sending
  kept : ∀ n, .notice n ∈ s.history → n.isLoss = false

theorem mem_notices {s : Session} {n : Notice} : n ∈ s.notices ↔ .notice n ∈ s.history := by
  unfold notices
  rw [List.mem_filterMap]
  constructor
  · rintro ⟨e, he, hn⟩
    cases e with
    | notice n' =>
      cases hn
      exact List.mem_reverse.mp he
    | _ => cases hn
  · exact fun hn => ⟨.notice n, List.mem_reverse.mpr hn, rfl⟩

variable {s : Session} {e : Event} {D : Direction → Prop}

theorem Lossless.happened (h : s.Lossless D) (he : ∀ n, e = .notice n → n.isLoss = false) :
    (s.happened e).Lossless D := by
  refine ⟨h.sending, fun n hn => ?_⟩
  rcases List.mem_cons.mp hn with hn | hn
  · exact he n hn.symm
  · exact h.kept n hn

theorem isLoss_of_routine (he : e.isRoutine = true) (n : Notice) (hn : e = .notice n) :
    n.isLoss = false := by
  subst hn
  simpa [Event.isRoutine] using he

/-- No record is lost as long as each direction of the kind protects what fits and stays of the kind. -/
theorem steady_lossless (hD : ∀ {d : Direction} {r : Record}, D d → ¬ d.exhausted = true →
    r.payload.length ≤ Record.maxFragment → ∃ wire d', d.protect r = (.ok wire, d') ∧ D d') :
    Steady (Lossless D) where
  behave _ h := ⟨h.sending, h.kept⟩
  happened he h := h.happened (isLoss_of_routine he)
  sendRecord {s r} _ hr h := by
    by_cases hnumber : s.layer.exhausted = true
    · rw [sendRecord, if_pos hnumber]
      exact h
    · obtain ⟨wire, d', hprotect, hd'⟩ := hD h.sending hnumber hr
      rw [sendRecord_protected hnumber hprotect]
      exact Lossless.happened ⟨hd', h.kept⟩ (by rintro n ⟨⟩)

/-- A direction that has keys, even if it does not use them yet. -/
theorem steady_keyed : Steady (Lossless fun d => d.protection.isSome = true) :=
  steady_lossless fun hd hnumber hr =>
    have ⟨wire, d', hprotect, _, hkept, _⟩ := Direction.protect_keyed (fun _ => hd) hnumber hr
    ⟨wire, d', hprotect, hkept hd⟩

/-- A session that has lost nothing, and has keys if it protects what it sends. -/
theorem lasting_lossless :
    Lasting (Lossless fun d => d.isActive = true → d.protection.isSome = true) where
  toSteady := steady_lossless fun hd hnumber hr =>
    have ⟨wire, d', hprotect, hactive, _⟩ := Direction.protect_keyed hd hnumber hr
    ⟨wire, d', hprotect, hactive⟩
  outgoing _ h := ⟨h.sending, h.kept⟩
  receiving _ h := ⟨h.sending, h.kept⟩
  changeKeys {s} sending receiving h := by
    -- between the preparation of the keys and their use there are keys, but the direction is not active
    have hprepared : (s.prepareKeys sending receiving).Lossless fun d => d.protection.isSome = true :=
      ⟨rfl, h.kept⟩
    have hsignalled := (Step.closedTalk_preserves steady_keyed).send
      (rfl : Message.changeCipherSpec.version = .tls1) _ hprepared
    exact ⟨fun _ => hsignalled.sending, hsignalled.kept⟩

end Session

namespace Connection

variable {config : Config} {time : Int} {random : RandomSource} {c : Connection}

/-- In no run a record is dropped because it cannot be protected. -/
theorem run_lossless (h : Connection.start config time random = .ok c) (calls : List Call) (why : TlsError) :
    .undeliverable why ∉ (c.run calls).session.notices := by
  have hnew : Session.Lossless (fun d => d.isActive = true → d.protection.isSome = true) { random } :=
    ⟨fun hactive => (by cases hactive), fun n hn => (by cases hn)⟩
  have hlossless := run_lasting Session.lasting_lossless hnew h calls
  intro hlost
  cases hlossless.kept _ (Session.mem_notices.mp hlost)

/-- With fewer records than numbers there is a number for the next record. -/
theorem run_unexhausted (h : Connection.start config time random = .ok c) (calls : List Call)
    (hbounds : (c.run calls).session.InBounds) : (c.run calls).session.layer.exhausted = false :=
  Bool.eq_false_iff.mpr (Session.not_exhausted (run_orderly h calls).1.able (.inl hbounds))

end Connection

end TlsClient
