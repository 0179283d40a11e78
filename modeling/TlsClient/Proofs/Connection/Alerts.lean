import TlsClient.Proofs.Connection.Standing

/-!
# Which alerts are sent

In every run there are at most one close notification and at most one fatal alert among the records, and
nothing comes after the fatal one.  A connection that has failed has sent a fatal alert, unless its error is
the peer's own alert or a failure of the transport (`alerts_ordered`).
-/

namespace TlsClient

theorem Dialogue.Orderly.fatals_le {d : Dialogue} (h : d.Orderly) : d.fatals ≤ 1 := by
  rcases Nat.eq_zero_or_pos d.fatals with hzero | hpos
  · omega
  obtain ⟨r, hmem, hr⟩ := List.countP_pos_iff.mp hpos
  obtain ⟨before, after, hsplit⟩ := List.append_of_mem hmem
  obtain rfl : after = [] := h.last before r after hsplit hr
  -- what comes before the last record is not fatal, or it would be the last itself
  have hbefore : before.countP Record.isFatal = 0 := by
    refine List.countP_eq_zero.mpr fun x hx hfatal => ?_
    obtain ⟨xs, ys, rfl⟩ := List.append_of_mem hx
    have hafter := h.last xs x (ys ++ [r]) (by rw [hsplit, List.append_assoc]; rfl) hfatal
    simp at hafter
  rw [fatals, hsplit, List.countP_append, hbefore, List.countP_singleton, if_pos hr]

namespace Connection

/-- The alerts that a connection has sent. -/
structure AlertsOrdered (c : Connection) : Prop where
  closes : c.session.said.countP Record.isCloseNotify ≤ 1
  fatals : c.session.said.countP Record.isFatal ≤ 1
  last : ∀ before r after, c.session.said = before ++ r :: after → r.isFatal = true → after = []
  unanswered : ∀ e, c.stage = .error e → e.Unanswered c.session.deeds →
    c.session.said.countP Record.isFatal = 0
  answered : ∀ e, c.stage = .error e → ¬ e.Unanswered c.session.deeds →
    c.session.said.countP Record.isFatal = 1

variable {c : Connection} {config : Config} {time : Int} {random : RandomSource}

/-- A session never becomes more open, and closing it again changes nothing.  As long as there are numbers
for the records, the alerts among them are in order. -/
theorem alerts_ordered (h : Connection.start config time random = .ok c) (calls : List Call) :
    (∀ earlier later, calls = earlier ++ later →
      (c.run earlier).session.status.rank ≤ (c.run calls).session.status.rank) ∧
    (.close ∈ calls → (c.run calls).close = c.run calls) ∧
    ((c.run calls).session.InBounds → (c.run calls).AlertsOrdered) := by
  refine ⟨?_, fun hclose => ?_, fun hb => ?_⟩
  · rintro earlier later rfl
    exact (run_speaks h earlier later).status
  · rw [close, Session.sendClose_refused (run_closed h hclose)]
  · obtain ⟨ho, hstands⟩ := run_orderly h calls
    have horderly := ho.dialogue hb
    refine ⟨horderly.once, horderly.fatals_le, horderly.last, fun e he hu => ?_, fun e he hu => ?_⟩
    · exact (hstands.fallen_of_error he).unanswered hb hu
    · exact (hstands.fallen_of_error he).answered hb hu

/-- The user closes twice, and the server sends an alert of no known level. -/
theorem alerts_ordered_closed : ∃ c, Connection.start .distrustful 0 (.seeded [] 0 none) = .ok c ∧
    (c.run [.close, .close, .readTls { deliveries := [.data [21, 3, 1, 0, 2, 3, 40]] },
      .process]).AlertsOrdered ∧
    (c.run [.close]).close = c.run [.close] ∧
    (c.run []).session.status.rank ≤ (c.run [.close]).session.status.rank := by
  obtain ⟨c, hc⟩ := start_distrustful
  have hlength : (c.run [.close, .close, .readTls { deliveries := [.data [21, 3, 1, 0, 2, 3, 40]] },
      .process]).session.sent.length = 3 := by
    apply of_start hc
    decide +kernel
  have hb : (c.run [.close, .close, .readTls { deliveries := [.data [21, 3, 1, 0, 2, 3, 40]] },
      .process]).session.InBounds :=
    Nat.lt_of_le_of_lt (Nat.le_of_eq hlength) (by decide)
  exact ⟨c, hc, (alerts_ordered hc _).2.2 hb, (alerts_ordered hc [.close]).2.1 (by simp),
    (alerts_ordered hc [.close]).1 [] [.close] rfl⟩

end Connection

end TlsClient
