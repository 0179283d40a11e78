import TlsClient.Proofs.Session.Uttering

/-!
# Operations as changes of the dialogue

Unless the session is hindered, each of its operations is a change of its dialogue (`Speaks`), so whatever
holds of dialogues holds of sessions.
-/

namespace TlsClient.Session

open Relation (ReflTransGen)

variable {s s' s'' : Session} {rs : List Record}

/-- One session comes from another by changes of the dialogue of some kind, unless it is hindered. -/
structure Speaks (T : Dialogue → Dialogue → Prop) (s s' : Session) : Prop where
  status : s.status.rank ≤ s'.status.rank
  sent : s.sent <+: s'.sent
  able : s.Able → s'.Able
  avowed : s.Able → s.Avowed → s'.Avowed
  turns : s.Able → s'.Unhindered → ReflTransGen T s.dialogue s'.dialogue

namespace Speaks

variable {T T' : Dialogue → Dialogue → Prop}

/-- As long as there are numbers for what is sent. -/
theorem dialogue (h : Speaks T s s') (hs : s.Able) (hb : s'.InBounds) :
    ReflTransGen T s.dialogue s'.dialogue := h.turns hs (.inl hb)

theorem refl (s : Session) : Speaks T s s :=
  ⟨Nat.le_refl _, List.prefix_rfl, id, fun _ => id, fun _ _ => .refl⟩

theorem trans (h : Speaks T s s') (h' : Speaks T s' s'') : Speaks T s s'' :=
  ⟨Nat.le_trans h.status h'.status, h.sent.trans h'.sent, h'.able ∘ h.able,
    fun hs ha => h'.avowed (h.able hs) (h.avowed hs ha), fun hs hb =>
    (h.turns hs (hb.of_sent h'.sent h'.status)).trans (h'.turns (h.able hs) hb)⟩

theorem mono (hT : ∀ d d', T d d' → T' d d') (h : Speaks T s s') : Speaks T' s s' :=
  ⟨h.status, h.sent, h.able, h.avowed, fun hs hb => ReflTransGen.mono hT _ _ (h.turns hs hb)⟩

/-- A change that the dialogue does not show. -/
theorem of_eq (hsent : s'.sent = s.sent) (hstatus : s'.status = s.status)
    (htraffic : s'.traffic = s.traffic) (hearly : s'.early = s.early)
    (hl : s'.layer.sending = s.layer.sending) : Speaks T s s' := by
  have hrank : s.status.rank ≤ s'.status.rank := Nat.le_of_eq (by rw [hstatus])
  have hfront : s.sent <+: s'.sent := hsent ▸ List.prefix_rfl
  refine ⟨hrank, hfront, fun h => h.of_eq hl hfront hrank, fun _ ha => ha.of_eq hfront hstatus,
    fun _ _ => ?_⟩
  rw [Session.dialogue, Session.dialogue, said, said, hsent, hstatus, htraffic, hearly]

theorem quiet (h : s.Quiet s') : Speaks T s s' :=
  .of_eq h.sent h.status h.traffic h.early h.sending

theorem note (s : Session) (n : Notice) : Speaks T s (s.note n) := .quiet (s.quiet_note n)

/-- Records that are put on their way change the dialogue if they may be said. -/
theorem of_utters (h : Utters rs s s')
    (hT : T s.dialogue { s.dialogue with said := s.dialogue.said ++ rs }) : Speaks T s s' := by
  refine ⟨h.rank, h.sent, h.able, h.avowed, fun hs hb => ?_⟩
  obtain ⟨hstatus, hsaid⟩ := h.said hs hb
  have hd : s'.dialogue = { s.dialogue with said := s.dialogue.said ++ rs } := by
    rw [Session.dialogue, hstatus, hsaid, h.traffic, h.early]
    rfl
  rw [hd]
  exact .single hT

end Speaks

open Dialogue (Reacts Writes Turn)

theorem speaks_send (hs : s.status ≠ .closed) {m : Message} (hm : m.body.typ = .handshake) :
    Speaks Reacts s (s.send m) :=
  .of_utters (utters_send s m)
    (.sends _ hs fun _ hr => .inl ((Record.of_mem_fragments hr).1.trans hm))

theorem speaks_decline (hs : s.status ≠ .closed) (ht : s.traffic = true) :
    Speaks Reacts s (s.sendWarning .noRenegotiation) :=
  (Speaks.note s _).trans (.of_utters (utters_sendAlert _ _) (.declines hs ht))

theorem speaks_startTraffic (hs : s.status ≠ .closed) : Speaks Reacts s s.startTraffic := by
  have h := utters_startTraffic s
  have hable (h : s.Able) : ({ s with traffic := true, early := {} } : Session).Able :=
    h.of_eq rfl List.prefix_rfl (Nat.le_refl _)
  refine ⟨h.rank, h.sent, h.able ∘ hable, fun h' => h.avowed (hable h'), fun h' hb => ?_⟩
  obtain ⟨hstatus, hsaid⟩ := h.said (hable h') hb
  have hd : s.startTraffic.dialogue = { s.dialogue with
      traffic := true, early := {}, said := s.dialogue.said ++ Dialogue.waiting s.dialogue.early } := by
    rw [dialogue, hstatus, hsaid, h.traffic, h.early]
    rfl
  rw [hd]
  exact .single (.completes hs)

/-- An alert that closes the session. -/
theorem speaks_last {T : Dialogue → Dialogue → Prop} (a : Alert)
    (hT : T s.dialogue { s.dialogue with status := .closed, said := s.dialogue.said ++ [a.record] }) :
    Speaks T s { s.send (.ofAlert a) with status := .closed } := by
  have h := utters_sendAlert s a
  refine ⟨s.status.rank_le, h.sent,
    fun hs => (h.able hs).of_eq rfl List.prefix_rfl (Status.rank_le _), fun _ _ => by rintro ⟨⟩,
    fun hs hb => ?_⟩
  obtain ⟨-, hsaid⟩ := h.said hs (hb.imp id fun ho => by cases ho)
  have hd : ({ s.send (.ofAlert a) with status := .closed } : Session).dialogue =
      { s.dialogue with status := .closed, said := s.dialogue.said ++ [a.record] } := by
    show (⟨.closed, (s.send (.ofAlert a)).traffic, (s.send (.ofAlert a)).early,
      (s.send (.ofAlert a)).said⟩ : Dialogue) = _
    rw [hsaid, h.traffic, h.early]
    rfl
  rw [hd]
  exact .single hT

theorem speaks_abort (s : Session) {why : AlertDescription} (hwhy : why ≠ .closeNotify) :
    Speaks Reacts s (s.abort why) := by
  unfold abort
  split
  · exact .refl s
  · next hs => exact (Speaks.note s _).trans (speaks_last ⟨.fatal, why⟩ (.aborts hs why hwhy))

theorem abort_closed (s : Session) (why : AlertDescription) : (s.abort why).status = .closed := by
  unfold abort
  split
  · assumption
  · rfl

/-- The alert that closes a session is put on its way whenever there is a number for it, behind a close
notification if the numbers are about to run out. -/
theorem said_abort_eq (h : s.Able) (hs : s.status ≠ .closed) (hx : ¬ s.layer.exhausted = true)
    (why : AlertDescription) :
    ∃ front, (s.abort why).said = s.said ++ front ++ [Alert.record ⟨.fatal, why⟩] ∧
      (front = [] ∨
        s.layer.wantsClose = true ∧ front = [Alert.record ⟨.warning, .closeNotify⟩]) := by
  have hnote : Proceeds s (s.note (.sendingFatal why)) := .quiet (quiet_note s _) rfl
  have hsaid : (s.note (.sendingFatal why)).said = s.said := congrArg (List.map Prod.fst) (sent_note s _)
  obtain ⟨front, hfront, hclose⟩ := said_sendAlert_eq (hnote.able h) hx ⟨.fatal, why⟩
  rw [abort, if_neg hs]
  exact ⟨front, hsaid ▸ hfront, hclose⟩

/-- The alert that closes a session is put on its way last, if there is a number for it. -/
theorem said_abort (h : s.Able) (hs : s.status ≠ .closed) (hx : ¬ s.layer.exhausted = true)
    (why : AlertDescription) :
    ∃ front, s.said <+: front ∧ (s.abort why).said = front ++ [Alert.record ⟨.fatal, why⟩] := by
  obtain ⟨front, hsaid, -⟩ := said_abort_eq h hs hx why
  exact ⟨s.said ++ front, List.prefix_append _ _, hsaid⟩

theorem speaks_ends {s' : Session} (hsent : s'.sent = s.sent) (htraffic : s'.traffic = s.traffic)
    (hearly : s'.early = s.early) (hl : s'.layer.sending = s.layer.sending)
    (hclosed : s'.status = .closed) : Speaks Dialogue.Hears s s' := by
  have hrank : s.status.rank ≤ s'.status.rank := hclosed ▸ s.status.rank_le
  have hfront : s.sent <+: s'.sent := hsent ▸ List.prefix_rfl
  have havowed : s'.Avowed := fun hc => by
    rw [hclosed] at hc
    cases hc
  refine ⟨hrank, hfront, fun h => h.of_eq hl hfront hrank, fun _ _ => havowed,
    fun _ _ => .single ?_⟩
  have hd : s'.dialogue = { s.dialogue with status := .closed } := by
    rw [dialogue, dialogue, said, said, hsent, htraffic, hearly, hclosed]
  rw [hd]
  exact .ends

theorem speaks_loseTransport (s : Session) : Speaks Dialogue.Hears s s.loseTransport :=
  speaks_ends rfl rfl rfl rfl rfl

theorem speaks_receiveClose (s : Session) : Speaks Dialogue.Hears s s.receiveClose.2 := by
  set s₁ : Session := { s.note .closeReceived with closeReceived := true } with hs₁
  have hfirst : Speaks Dialogue.Hears s s₁ := .of_eq (sent_note s _) rfl rfl rfl rfl
  refine hfirst.trans ?_
  show Speaks Dialogue.Hears s₁ { (if s₁.status = .opened then s₁.send (.ofAlert ⟨.warning, .closeNotify⟩)
    else s₁) with status := .closed }
  split
  · next ho => exact speaks_last ⟨.warning, .closeNotify⟩ (.answers ho)
  · exact speaks_ends rfl rfl rfl rfl rfl

/-- After a close notification nothing more is to come, and a handshake is cut short. -/
theorem receiveClose_result (s : Session) : s.receiveClose.2.closeReceived = true ∧
    s.receiveClose.1 = if s.traffic then .ok () else .error (.alertReceived .closeNotify) := by
  set s₁ : Session := { s.note .closeReceived with closeReceived := true } with hs₁
  set s₂ : Session := if s₁.status = .opened then s₁.send (.ofAlert ⟨.warning, .closeNotify⟩)
    else s₁ with hs₂
  have hproceeds : Proceeds s₁ s₂ := by
    rw [hs₂]
    split
    · exact (utters_send _ _).toProceeds
    · exact .refl s₁
  refine ⟨hproceeds.closeReceived, ?_⟩
  show (if s₂.traffic then _ else _) = _
  rw [hproceeds.traffic]
  rfl

theorem speaks_sendClose (s : Session) : Speaks Turn s s.sendClose := by
  by_cases ho : s.status = .opened
  · have hclose := proceeds_sendClose s
    refine ⟨hclose.rank, hclose.sent, hclose.able, hclose.avowed, fun hs hb => .single ?_⟩
    obtain ⟨hstatus, hsaid⟩ := (sendClose_closing ho).1.said (able_leaving hs ho) hb
    have hd : s.sendClose.dialogue = { s.dialogue with
        status := .closing
        said := s.dialogue.said ++ [Alert.record ⟨.warning, .closeNotify⟩] } := by
      rw [dialogue, hstatus, hsaid, hclose.traffic, hclose.early, said, sent_leaving]
      rfl
    rw [hd]
    exact .closes ho
  · rw [sendClose, if_pos ho]
    exact .refl s

theorem speaks_write (s : Session) (bs : Bytes) : Speaks Writes s (s.write bs).2 := by
  unfold write
  split
  · exact .refl s
  · next ho =>
    have ho : s.status = .opened := not_not.mp ho
    by_cases ht : s.traffic = true
    · exact .of_utters (utters_sendPlaintext ht bs) (.sends ho ht bs)
    · have hf : s.traffic = false := Bool.eq_false_iff.mpr ht
      show Speaks Writes s (s.sendPlaintext bs)
      rw [sendPlaintext, if_pos (by simp [hf])]
      exact ⟨Nat.le_refl _, List.prefix_rfl, fun h => h.of_eq rfl List.prefix_rfl (Nat.le_refl _),
        fun _ ha => ha.of_eq List.prefix_rfl rfl, fun _ _ => .single (.keeps ho hf bs)⟩

/-! ## The alerts of the peer -/

variable {a : Alert}

theorem receiveAlert_harmless (ha : a.harmless = true) (s : Session) :
    s.receiveAlert a = (.ok (), s.note (.warningReceived a)) := by
  obtain ⟨hlevel, hdescription⟩ : a.level = .warning ∧ a.description ≠ .closeNotify := by
    simpa [Alert.harmless] using ha
  rw [receiveAlert, if_neg (fun h => h.1 hlevel), if_neg hdescription, if_pos hlevel]

theorem receiveAlert_unknown (ha : ¬ a.Known) (s : Session) : s.receiveAlert a =
    (.error (.alertReceived a.description), s.abort .illegalParameter) := by
  rw [receiveAlert, if_pos (not_or.mp ha)]

/-- A session that was told to end: it is closed, with the alert as its error unless that is a close
notification after the handshake. -/
structure Told (s : Session) (a : Alert) (x : Except TlsError Unit × Session) : Prop where
  closed : x.2.status = .closed
  speaks : Speaks Dialogue.Hears s x.2
  result : x.1 = .error (.alertReceived a.description) ∨
    x.1 = .ok () ∧ a.description = .closeNotify ∧ s.traffic = true ∧ x.2.closeReceived = true

theorem receiveAlert_known (hk : a.Known) (ha : a.harmless = false) (s : Session) :
    s.Told a (s.receiveAlert a) := by
  have hlevel : ¬ (a.level ≠ .warning ∧ a.level ≠ .fatal) := fun h => hk.elim h.1 h.2
  rw [receiveAlert, if_neg hlevel]
  split
  · next hd =>
    obtain ⟨hclose, hresult⟩ := receiveClose_result s
    refine ⟨rfl, speaks_receiveClose s, ?_⟩
    rw [hresult]
    split
    · next ht => exact .inr ⟨rfl, hd, ht, hclose⟩
    · exact .inl (by rw [hd])
  · next hd =>
    rw [if_neg fun hl => by simp [Alert.harmless, hl, hd] at ha]
    exact ⟨rfl, speaks_ends (sent_note s _) rfl rfl rfl rfl, .inl rfl⟩

/-- The only error that an alert leads to is that it was received. -/
theorem receiveAlert_error {e : TlsError} (h : (s.receiveAlert a).1 = .error e) :
    e = .alertReceived a.description := by
  by_cases ha : a.harmless = true
  · rw [receiveAlert_harmless ha] at h
    cases h
  · by_cases hk : a.Known
    · rcases (receiveAlert_known hk (Bool.eq_false_iff.mpr ha) s).result with hr | ⟨hr, -⟩
      · exact Except.error.inj (h.symm.trans hr)
      · cases h.symm.trans hr
    · rw [receiveAlert_unknown hk] at h
      cases h
      rfl

theorem receiveAlerts_error {as : List Alert} {e : TlsError} (h : (s.receiveAlerts as).1 = .error e) :
    ∃ a ∈ as, e = .alertReceived a.description := by
  induction as generalizing s with
  | nil => cases h
  | cons a as ih =>
    rw [receiveAlerts] at h
    rcases hfirst : s.receiveAlert a with ⟨e' | u, s'⟩
    all_goals
      rw [hfirst] at h
      dsimp only at h
    · cases h
      exact ⟨a, List.mem_cons_self, receiveAlert_error (congrArg Prod.fst hfirst)⟩
    · split at h
      · cases h
      · obtain ⟨b, hb, he⟩ := ih h
        exact ⟨b, List.mem_cons_of_mem a hb, he⟩

/-- Alerts are taken in up to the first that is more than a warning. -/
theorem receiveAlerts_find (h : s.closeReceived = false) (as : List Alert) :
    ∃ s₁, s.Quiet s₁ ∧ s.receiveAlerts as =
      match as.find? fun a => !a.harmless with
      | none => (.ok (), s₁)
      | some a => s₁.receiveAlert a := by
  induction as generalizing s with
  | nil => exact ⟨s, .refl s, rfl⟩
  | cons a as ih =>
    by_cases ha : a.harmless = true
    · obtain ⟨s₁, hquiet, hrest⟩ := ih (s := s.note (.warningReceived a)) h
      refine ⟨s₁, (s.quiet_note _).trans hquiet, ?_⟩
      rw [receiveAlerts, receiveAlert_harmless ha, List.find?_cons_of_neg (by simp [ha])]
      show (if s.closeReceived = true then _ else _) = _
      rw [h]
      exact hrest
    · have ha : a.harmless = false := Bool.eq_false_iff.mpr ha
      refine ⟨s, .refl s, ?_⟩
      rw [receiveAlerts, List.find?_cons_of_pos (by simp [ha])]
      dsimp only
      by_cases hk : a.Known
      · have htold := receiveAlert_known hk ha s
        rcases hrun : s.receiveAlert a with ⟨e | u, s'⟩
        · rfl
        · rw [hrun] at htold
          rcases htold.result with hr | ⟨-, -, -, hclose⟩
          · cases hr
          · have hclose : s'.closeReceived = true := hclose
            dsimp only
            rw [if_pos hclose]
      · rw [receiveAlert_unknown hk]

end TlsClient.Session
