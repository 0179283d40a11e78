import TlsClient.Proofs.Connection.Grounds
import TlsClient.Proofs.Stage.Order

/-!
# The order of a run

A handshake is over only after the messages of its suite in their order, and a Finished at their end that
took keys to open (`Starts.completed`).  Every message that is handled is the next of a handshake
(`Continues`), or it is the last that is handled and the connection has failed (`Starts.keepsOrder`): one out
of order, one that does not pass the checks of its stage, and so a Finished that proves anything else than
the handshake bytes on the wire.
-/

namespace TlsClient

open Deeds (handled wire opened taken)

namespace Connection

/-- A Finished of the server's proves all handshake bytes on the wire before it.  All that had been opened without
keys was handled before it, and its own bytes took keys to open. -/
structure Confirms (c : Connection) (before : List Event) (m : Message) (secrets : Secrets) : Prop where
  reaches : c.Reaches before (.finished secrets (wire before))
  finished : ∃ encoded, m.body =
      .handshake (.finished (secrets.serverVerify (Transcript.digest (wire before)))) encoded ∧
    opened false before = taken before ∧ ∃ rest, opened true before = encoded ++ rest

/-- Deeds that complete a handshake: up to the server's Finished the messages of the suite in their
order, and only data after it. -/
structure Completed (c : Connection) (es before : List Event) (m : Message) (after : List Event)
    (suite : Suite) (asks : Bool) (secrets : Secrets) : Prop where
  split : es = before ++ .handled m :: after
  chooses : c.config.Chooses (handled before) suite
  order : (handled before ++ [m]).map Message.kind = suite.keyExchange.flow asks
  data : ∀ x ∈ handled after, x.kind = .data
  confirms : c.Confirms before m secrets

/-- A message that is handled as the next of a handshake: the stage that the messages before it lead to takes
it in. -/
structure Continues (c : Connection) (before : List Event) (m : Message) : Prop where
  order : c.config.Orders (handled before ++ [m])
  taken : ∃ stage₀ stage src act stage' src', c.stage = .ok stage₀ ∧
    TlsClient.Course c.config stage₀ c.session.random (handled before) stage src ∧
      stage.Takes c.config src m act stage' src'
  confirms : m.kind = .handshake .finished → ∃ secrets, c.Confirms before m secrets
  /-- Data comes only when the handshake is over. -/
  data : m.kind = .data → c.Reaches before .traffic

variable {o : Origin} {hello : ClientHello} {c : Connection} {calls : List Call}
  {before after : List Event} {m : Message}

theorem progress_done {stage : Stage} (h : stage.progress = .done) : stage = .traffic := by
  cases stage with
  | traffic => rfl
  | serverParams flight key => cases key <;> cases h
  | requestOrDone flight key =>
    unfold Stage.progress at h
    dsimp only at h
    split at h <;> cases h
  | _ => cases h

theorem handled_split {es : List Event} {ms ns : List Message} {m : Message}
    (h : handled es = ms ++ m :: ns) : ∃ before after, es = before ++ .handled m :: after ∧
      handled before = ms ∧ handled after = ns := by
  obtain ⟨before, rest, rfl, hms, hrest⟩ := List.filterMap_eq_append_iff.mp h
  obtain ⟨skipped, e, after, rfl, hskipped, he, hns⟩ := List.filterMap_eq_cons_iff.mp hrest
  obtain rfl : e = .handled m := by
    cases e with
    | handled m' =>
      cases he
      rfl
    | _ => cases he
  refine ⟨before ++ skipped, after, by simp, ?_, hns⟩
  rw [Deeds.handled_append, show handled skipped = [] from List.filterMap_eq_nil_iff.mpr hskipped,
    List.append_nil]
  exact hms

theorem Starts.offered (h : c.Starts o hello) :
    ∃ random t, o.stage = .serverHello random t o.config.offered :=
  ⟨hello.random, _, by rw [h.waitsFor, h.offer]; rfl⟩

theorem Starts.along (h : c.Starts o hello) {ms : List Message} {stage : Stage} {src : RandomSource}
    (hcourse : o.Course ms stage src) : stage.Along c.config ms := by
  obtain ⟨random, t, hstage⟩ := h.offered
  refine h.config ▸ hcourse.along ?_
  rw [hstage]
  exact .serverHello rfl

/-- The transcript of the stage that expects the server's Finished is all that is on the wire. -/
theorem wire_of_covers {es : List Event} {secrets : Secrets} {t : Bytes}
    (h : (Stage.finished secrets t).Covers es) : t = wire es := by
  cases h with
  | gathers ht => cases ht
  | finished => rfl

/-- The Finished that the last stage of a handshake accepts. -/
theorem Starts.confirms (h : c.Starts o hello)
    (hdeeds : (c.run calls).session.deeds = before ++ .handled m :: after) {secrets : Secrets} {t : Bytes}
    {src : RandomSource} (hpre : o.Course (handled before) (.finished secrets t) src) {encoded : Bytes}
    (hm : m.body = .handshake (.finished (secrets.serverVerify (Transcript.digest t))) encoded) :
    c.Confirms before m secrets := by
  obtain ⟨-, stage, src', hcourse, hcovers, hreads⟩ := h.grounds calls before _ after hdeeds
  obtain ⟨rfl, rfl⟩ := hpre.unique hcourse
  obtain rfl := wire_of_covers hcovers
  obtain ⟨hclear, rest, hkeyed⟩ := hreads
  rw [Transcript.contribution, hm] at hkeyed
  exact ⟨h.reaches hpre, encoded, hm, hclear, rest, hkeyed⟩

/-- A handshake that is over was completed. -/
theorem Starts.completed (h : c.Starts o hello) (hdone : (c.run calls).progress = .done) :
    ∃ before m after suite asks secrets,
      c.Completed (c.run calls).session.deeds before m after suite asks secrets := by
  have hstage : (c.run calls).stage = .ok .traffic := by
    unfold progress at hdone
    split at hdone
    · next stage hok => rw [hok, progress_done hdone]
    · cases hdone
  have hcourse := (h.sound_run calls).course.onCourse _ hstage
  obtain ⟨random, t₀, hstart⟩ := h.offered
  obtain ⟨ms, m, data, secrets, t, src, encoded, hms, hpre, hm, hdata⟩ :=
    Course.finished hcourse (by rw [hstart]; simp)
  obtain ⟨before, after, hsplit, rfl, rfl⟩ := handled_split hms
  have hconfirms := h.confirms hsplit hpre hm
  cases h.along hpre with
  | finished suite asks hsuite horder =>
    refine ⟨before, m, after, suite, asks, secrets, hsplit, hsuite, ?_, hdata, hconfirms⟩
    rw [List.map_append, horder, List.map_singleton, Message.kind, hm]
    rfl

/-- A message that leads on from those before it is the next of the handshake. -/
theorem Starts.continues (h : c.Starts o hello)
    (hdeeds : (c.run calls).session.deeds = before ++ .handled m :: after) {stage' : Stage}
    {src' : RandomSource} (hcourse : o.Course (handled before ++ [m]) stage' src') :
    c.Continues before m := by
  obtain ⟨stage, src, act, hpre, ht⟩ := hcourse.concat_inv
  constructor
  case order => exact (h.along hcourse).orders
  case taken =>
    refine ⟨o.stage, stage, src, act, stage', src', h.stage, ?_, h.config ▸ ht⟩
    rw [h.config, h.random]
    exact hpre
  case confirms =>
    intro hkind
    cases ht with
    | finished hm hcheck => exact ⟨_, h.confirms hdeeds hpre (hcheck ▸ hm)⟩
    | hello hm | certificate hm | params hm | request hm | reply _ hm | keyChange hm | data hm =>
      rw [Message.kind, hm] at hkind
      cases hkind
  case data =>
    intro hkind
    cases ht with
    | data => exact h.reaches hpre
    | hello hm | certificate hm | params hm | request hm | reply _ hm | keyChange hm | finished hm =>
      rw [Message.kind, hm] at hkind
      cases hkind

/-- Every message is the next of the handshake, or it is the last that is handled. -/
theorem Starts.keepsOrder (h : c.Starts o hello)
    (hdeeds : (c.run calls).session.deeds = before ++ .handled m :: after) :
    c.Continues before m ∨ handled after = [] ∧ (c.run calls).progress = .failed := by
  have hfollows := (h.sound_run calls).course
  have hms : handled (c.run calls).session.deeds = handled before ++ [m] ++ handled after := by
    rw [hdeeds, Deeds.handled_append, List.append_assoc]
    rfl
  have hnext : ∀ {ns stage src}, o.Course (handled before ++ [m] ++ ns) stage src →
      c.Continues before m := by
    intro ns stage src hcourse
    obtain ⟨stage₁, src₁, hpre, -⟩ := hcourse.append_inv
    exact h.continues hdeeds hpre
  rcases hstage : (c.run calls).stage with e | stage
  · obtain ⟨ns, stage, src, hcourse, hns | ⟨x, hx, -⟩⟩ := hfollows.cutOff e hstage
    · rw [hms] at hns
      exact .inl (hnext (hns ▸ hcourse))
    · rw [hms] at hx
      rcases List.eq_nil_or_concat' (handled after) with hnil | ⟨rest, y, hrest⟩
      · exact .inr ⟨hnil, by rw [progress, hstage]⟩
      · rw [hrest, ← List.append_assoc] at hx
        obtain ⟨rfl, -⟩ := List.append_singleton_inj.mp hx
        exact .inl (hnext hcourse)
  · have hcourse := hfollows.onCourse stage hstage
    rw [hms] at hcourse
    exact .inl (hnext hcourse)

end Connection

end TlsClient
