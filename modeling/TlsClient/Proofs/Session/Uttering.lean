import TlsClient.Proofs.Session.Dialogue
import TlsClient.Proofs.Session.Hearing
import TlsClient.Proofs.Session.Sealing

/-!
# What a session puts on its way

A session that is `Able` puts everything it says on its way as long as there are numbers for the records
(`Utters`).  What does not depend on numbers holds in any case: records are only added, and all that can
happen to the status is that the session says that it will send nothing more (`Proceeds`).
-/

namespace TlsClient

/-- How far a session is closed. -/
def Status.rank : Status → Nat
  | opened => 0
  | closing => 1
  | closed => 2

theorem Status.rank_le (s : Status) : s.rank ≤ closed.rank := by cases s <;> decide

theorem Status.opened_of_rank {s s' : Status} (hrank : s.rank ≤ s'.rank) (h : s' = .opened) :
    s = .opened := by
  subst h
  cases s with
  | opened => rfl
  | closing | closed => exact absurd hrank (by decide)

/-- A direction that has keys if it is active protects whatever fits, as long as it has numbers, and goes on
having keys. -/
theorem Direction.protect_keyed {d : Direction} {r : Record}
    (hkeys : d.isActive = true → d.protection.isSome = true) (hx : ¬ d.exhausted = true)
    (hr : r.payload.length ≤ Record.maxFragment) :
    ∃ wire d', d.protect r = (.ok wire, d') ∧ (d'.isActive = true → d'.protection.isSome = true) ∧
      (d.protection.isSome = true → d'.protection.isSome = true) ∧
      d'.seq.toNat ≤ d.seq.toNat + 1 := by
  by_cases hactive : d.isActive = true
  · obtain ⟨p, hp⟩ := Option.isSome_iff_exists.mp (hkeys hactive)
    obtain ⟨wire, q, hw⟩ := p.protect_ok d.seq hr
    have hd : d = ⟨some p, d.seq, .active⟩ := by
      rw [← hp, ← show d.phase = .active by simpa [isActive] using hactive]
    have hlimit : ¬ hardLimit ≤ d.seq := by simpa [exhausted] using hx
    refine ⟨wire, ⟨some q, d.seq + 1, .active⟩, ?_, fun _ => rfl, fun _ => rfl,
      Nat.le_trans (Nat.le_of_eq (UInt64.toNat_add ..)) (Nat.mod_le _ _)⟩
    rw [hd]
    exact protect_active hlimit hw
  · exact ⟨r, d, protect_idle (Bool.eq_false_iff.mpr hactive) r, fun h => absurd h hactive, id,
      Nat.le_succ _⟩

namespace Session

/-- The records put on their way so far, before protection. -/
def said (s : Session) : List Record := s.sent.map Prod.fst

/-- What of a session decides what may still be said. -/
def dialogue (s : Session) : Dialogue where
  status := s.status
  traffic := s.traffic
  early := s.early
  said := s.said

/-- Fewer records were put on their way than there are numbers before the session is closed for want of
them. -/
def InBounds (s : Session) : Prop := s.sent.length < Direction.softLimit.toNat

/-- Nothing that a session says is held up: there are numbers for its records, or it is open, since it
is closed when they run out. -/
def Unhindered (s : Session) : Prop := s.InBounds ∨ s.status = .opened

/-- A session that has keys if it protects what it sends, has used a number for a record only, and is not
open without a number for a close notification. -/
structure Able (s : Session) : Prop where
  keys : s.layer.sending.isActive = true → s.layer.sending.protection.isSome = true
  numbers : s.layer.sending.seq.toNat ≤ s.sent.length
  room : s.status = .opened → s.layer.sending.seq.toNat ≤ Direction.softLimit.toNat

/-- A session that has put a close notification on its way if it will send nothing more. -/
def Avowed (s : Session) : Prop := s.status = .closing → ∃ r ∈ s.said, r.isCloseNotify = true

variable {s s' s'' : Session} {r : Record} {rs rs' : List Record}

theorem InBounds.of_sent (h : s'.InBounds) (hsent : s.sent <+: s'.sent) : s.InBounds :=
  Nat.lt_of_le_of_lt hsent.length_le h

theorem Unhindered.of_sent (h : s'.Unhindered) (hsent : s.sent <+: s'.sent)
    (hrank : s.status.rank ≤ s'.status.rank) : s.Unhindered :=
  h.imp (fun hb => hb.of_sent hsent) (Status.opened_of_rank hrank)

theorem Able.of_eq (h : s.Able) (hl : s'.layer.sending = s.layer.sending)
    (hsent : s.sent <+: s'.sent) (hrank : s.status.rank ≤ s'.status.rank) : s'.Able :=
  ⟨hl ▸ h.keys, hl ▸ Nat.le_trans h.numbers hsent.length_le,
    fun ho => hl ▸ h.room (Status.opened_of_rank hrank ho)⟩

theorem Avowed.of_eq (h : s.Avowed) (hsent : s.sent <+: s'.sent) (hstatus : s'.status = s.status) :
    s'.Avowed := by
  intro hc
  obtain ⟨r, hr, hclose⟩ := h (hstatus ▸ hc)
  exact ⟨r, (hsent.map Prod.fst).subset hr, hclose⟩

@[simp] theorem sent_note (s : Session) (n : Notice) : (s.note n).sent = s.sent :=
  sent_of_deeds (deeds_note s n)

theorem sent_of_append {es : List Event} (h : s'.deeds = s.deeds ++ es) : s.sent <+: s'.sent := by
  rw [sent_eq, sent_eq, h, Deeds.records_append]
  exact List.prefix_append _ _

@[simp] theorem sent_began (s : Session) (m : Message) : (s.happened (.sent m)).sent = s.sent := by
  rw [sent_eq, sent_eq, deeds_happened, Deeds.records_append]
  exact List.append_nil _

@[simp] theorem sent_enqueue (s : Session) (plain wire : Record) :
    (s.enqueue plain wire).sent = s.sent ++ [(plain, wire)] := by
  rw [sent_eq, sent_eq, deeds_enqueue, Deeds.records_append]
  rfl

/-! ## Going on -/

/-- A change of nothing that decides what may still be said. -/
structure Quiet (s s' : Session) : Prop where
  deeds : s'.deeds = s.deeds
  status : s'.status = s.status
  traffic : s'.traffic = s.traffic
  closeReceived : s'.closeReceived = s.closeReceived
  early : s'.early = s.early
  sending : s'.layer.sending = s.layer.sending

theorem Quiet.refl (s : Session) : s.Quiet s := ⟨rfl, rfl, rfl, rfl, rfl, rfl⟩

theorem Quiet.trans (h : s.Quiet s') (h' : s'.Quiet s'') : s.Quiet s'' :=
  ⟨h'.deeds.trans h.deeds, h'.status.trans h.status, h'.traffic.trans h.traffic,
    h'.closeReceived.trans h.closeReceived, h'.early.trans h.early, h'.sending.trans h.sending⟩

theorem Quiet.sent (h : s.Quiet s') : s'.sent = s.sent := sent_of_deeds h.deeds

theorem quiet_note (s : Session) (n : Notice) : s.Quiet (s.note n) :=
  ⟨deeds_note s n, rfl, rfl, rfl, rfl, rfl⟩

/-- One session comes from another by sending and nothing else, except that it may have said that it
will send nothing more. -/
structure Proceeds (s s' : Session) : Prop where
  sent : s.sent <+: s'.sent
  status : s'.status = s.status ∨ s.status = .opened ∧ s'.status = .closing
  traffic : s'.traffic = s.traffic
  early : s'.early = s.early
  closeReceived : s'.closeReceived = s.closeReceived
  still : Still s s'
  able : s.Able → s'.Able
  avowed : s.Able → s.Avowed → s'.Avowed

namespace Proceeds

theorem trans (h : Proceeds s s') (h' : Proceeds s' s'') : Proceeds s s'' := by
  refine ⟨h.sent.trans h'.sent, ?_, h'.traffic.trans h.traffic, h'.early.trans h.early,
    h'.closeReceived.trans h.closeReceived, h.still.trans h'.still, h'.able ∘ h.able,
    fun hs ha => h'.avowed (h.able hs) (h.avowed hs ha)⟩
  rcases h.status with hs | ⟨hs, hc⟩ <;> rcases h'.status with hs' | ⟨hs', hc'⟩
  · exact .inl (hs'.trans hs)
  · exact .inr ⟨hs.symm.trans hs', hc'⟩
  · exact .inr ⟨hs, hs'.trans hc⟩
  · rw [hc] at hs'
    cases hs'

theorem quiet (h : s.Quiet s') (hi : s'.incoming = s.incoming) : Proceeds s s' :=
  ⟨h.sent ▸ List.prefix_rfl, .inl h.status, h.traffic, h.early, h.closeReceived, .of_deeds h.deeds hi,
    fun hs => hs.of_eq h.sending (h.sent ▸ List.prefix_rfl) (Nat.le_of_eq (by rw [h.status])),
    fun _ ha => ha.of_eq (h.sent ▸ List.prefix_rfl) h.status⟩

theorem refl (s : Session) : Proceeds s s := .quiet (.refl s) rfl

theorem heard (h : Proceeds s s') : s'.heard = s.heard := h.still.unopened.heard

theorem alive (h : Proceeds s s') (hs : s.status ≠ .closed) : s'.status ≠ .closed := by
  rcases h.status with h | ⟨-, h⟩ <;> rw [h]
  · exact hs
  · decide

theorem rank (h : Proceeds s s') : s.status.rank ≤ s'.status.rank := by
  rcases h.status with h | ⟨h, h'⟩
  · exact Nat.le_of_eq (by rw [h])
  · rw [h, h']
    decide

end Proceeds

/-- A session that goes on and, unless it is hindered, puts just these records on their way. -/
structure Utters (rs : List Record) (s s' : Session) : Prop extends Proceeds s s' where
  said : s.Able → s'.Unhindered → s'.status = s.status ∧ s'.said = s.said ++ rs

namespace Utters

theorem refl (s : Session) : Utters [] s s :=
  ⟨.refl s, fun _ _ => ⟨rfl, (List.append_nil _).symm⟩⟩

theorem began (s : Session) (m : Message) : Utters [] s (s.happened (.sent m)) := by
  have hsent := sent_began s m
  have hfront : s.sent <+: (s.happened (.sent m)).sent := hsent ▸ List.prefix_rfl
  exact ⟨⟨hfront, .inl rfl, rfl, rfl, rfl, still_began s m,
      fun h => h.of_eq rfl hfront (Nat.le_refl _), fun _ ha => ha.of_eq hfront rfl⟩,
    fun _ _ => ⟨rfl, by rw [Session.said, hsent, List.append_nil, Session.said]⟩⟩

theorem trans (h : Utters rs s s') (h' : Utters rs' s' s'') : Utters (rs ++ rs') s s'' := by
  refine ⟨h.toProceeds.trans h'.toProceeds, fun hs hb => ?_⟩
  obtain ⟨hstatus, hsaid⟩ := h.said hs (hb.of_sent h'.sent h'.rank)
  obtain ⟨hstatus', hsaid'⟩ := h'.said (h.able hs) hb
  exact ⟨hstatus'.trans hstatus, by rw [hsaid', hsaid, List.append_assoc]⟩

end Utters

/-! ## Sending a record -/

theorem seq_le_softLimit (h : s.Able) (hb : s.Unhindered) :
    s.layer.sending.seq.toNat ≤ Direction.softLimit.toNat := by
  rcases hb with hb | ho
  · exact Nat.le_of_lt (Nat.lt_of_le_of_lt h.numbers hb)
  · exact h.room ho

theorem hardLimit_le_of_exhausted (h : s.layer.exhausted = true) :
    Direction.hardLimit.toNat ≤ s.layer.sending.seq.toNat := by
  simpa [RecordLayer.exhausted, Direction.exhausted, UInt64.le_iff_toNat_le] using h

/-- A session that is not hindered is not out of numbers. -/
theorem not_exhausted (h : s.Able) (hb : s.Unhindered) : ¬ s.layer.exhausted = true := by
  intro hx
  have hlimits : Direction.softLimit.toNat < Direction.hardLimit.toNat := by decide
  exact absurd (Nat.le_trans (hardLimit_le_of_exhausted hx) (seq_le_softLimit h hb))
    (Nat.not_le_of_lt hlimits)

theorem sendRecord_protected {wire : Record} {d : Direction} (hx : ¬ s.layer.exhausted = true)
    (hprotect : s.layer.sending.protect r = (.ok wire, d)) :
    s.sendRecord r = { s with layer := { s.layer with sending := d } }.enqueue r wire := by
  rw [sendRecord, if_neg hx, RecordLayer.protect, hprotect]

/-- A session that is able puts a record on its way unless it is out of numbers. -/
theorem sendRecord_able (h : s.Able) (hr : r.payload.length ≤ Record.maxFragment) :
    s.sendRecord r = s ∧ s.layer.exhausted = true ∨
      ∃ wire d, s.sendRecord r = { s with layer := { s.layer with sending := d } }.enqueue r wire ∧
        (d.isActive = true → d.protection.isSome = true) ∧
        d.seq.toNat ≤ s.layer.sending.seq.toNat + 1 := by
  by_cases hx : s.layer.exhausted = true
  · exact .inl ⟨by rw [sendRecord, if_pos hx], hx⟩
  · obtain ⟨wire, d, hprotect, hkeys, -, hnumber⟩ := Direction.protect_keyed h.keys hx hr
    exact .inr ⟨wire, d, sendRecord_protected hx hprotect, hkeys, hnumber⟩

theorem fields_sendRecord (s : Session) (r : Record) : (s.sendRecord r).status = s.status ∧
    (s.sendRecord r).traffic = s.traffic ∧ (s.sendRecord r).early = s.early ∧
    (s.sendRecord r).closeReceived = s.closeReceived ∧
    (s.sendRecord r).incoming = s.incoming := by
  rcases sendRecord_cases s r with h | ⟨wire, d, -, h⟩ | ⟨e, d, -, h⟩ <;> rw [h] <;>
    exact ⟨rfl, rfl, rfl, rfl, rfl⟩

theorem sent_sendRecord (s : Session) (r : Record) : s.sent <+: (s.sendRecord r).sent := by
  obtain ⟨es, hdeeds, -⟩ := deeds_sendRecord s r
  exact sent_of_append hdeeds

/-- Sending a record leaves a session able, unless it is open and has to be closed first. -/
theorem able_sendRecord (h : s.Able) (hr : r.payload.length ≤ Record.maxFragment)
    (hw : s.status = .opened → ¬ s.layer.wantsClose = true) : (s.sendRecord r).Able := by
  rcases sendRecord_able h hr with ⟨hsame, -⟩ | ⟨wire, d, hsend, hkeys, hnumber⟩
  · rw [hsame]
    exact h
  · rw [hsend]
    refine ⟨hkeys, ?_, fun ho => ?_⟩
    · rw [sent_enqueue, List.length_append]
      exact Nat.le_trans hnumber (Nat.add_le_add_right h.numbers 1)
    · have hne : s.layer.sending.seq.toNat ≠ Direction.softLimit.toNat := fun heq =>
        hw ho (by simpa [RecordLayer.wantsClose] using UInt64.toNat_inj.mp heq)
      exact Nat.le_trans hnumber (Nat.lt_of_le_of_ne (h.room ho) hne)

theorem said_sendRecord (h : s.Able) (hr : r.payload.length ≤ Record.maxFragment)
    (hx : ¬ s.layer.exhausted = true) : (s.sendRecord r).said = s.said ++ [r] := by
  rcases sendRecord_able h hr with ⟨-, hout⟩ | ⟨wire, d, hsend, -⟩
  · exact absurd hout hx
  · rw [hsend, said, sent_enqueue, List.map_append]
    rfl

theorem utters_sendRecord (s : Session) (hr : r.payload.length ≤ Record.maxFragment)
    (hw : s.status = .opened → ¬ s.layer.wantsClose = true) : Utters [r] s (s.sendRecord r) := by
  obtain ⟨hstatus, htraffic, hearly, hclose, hincoming⟩ := fields_sendRecord s r
  obtain ⟨es, hdeeds, hes⟩ := deeds_sendRecord s r
  have hsent := sent_sendRecord s r
  have hstill : Still s (s.sendRecord r) := ⟨hincoming, es, hdeeds, fun e he => by
    obtain ⟨wire, rfl⟩ := hes e he
    rfl⟩
  refine ⟨⟨hsent, .inl hstatus, htraffic, hearly, hclose, hstill, fun h => able_sendRecord h hr hw,
    fun _ ha => ha.of_eq hsent hstatus⟩, fun h hb => ⟨hstatus, said_sendRecord h hr ?_⟩⟩
  exact not_exhausted h (hb.of_sent hsent (Nat.le_of_eq (by rw [hstatus])))

/-! ## Sending messages -/

theorem length_record (a : Alert) : a.record.payload.length ≤ Record.maxFragment := by
  rw [Alert.payload_record]
  exact Nat.le_of_ble_eq_true rfl

theorem fragments_record (a : Alert) : a.record.fragments = [a.record] :=
  Record.fragments_of_length_le (length_record a)

/-- A session that is about to say that it will send nothing more. -/
def leaving (s : Session) : Session :=
  { s.note .sendingClose with status := .closing }.happened (.sent (.ofAlert ⟨.warning, .closeNotify⟩))

theorem sendClose_eq (h : s.status = .opened) :
    s.sendClose = s.leaving.sendRecord (Alert.record ⟨.warning, .closeNotify⟩) := by
  rw [sendClose, if_neg (by simp [h])]
  show List.foldl sendRecord _ (Alert.record ⟨.warning, .closeNotify⟩).fragments = _
  rw [fragments_record]
  rfl

@[simp] theorem sent_leaving (s : Session) : s.leaving.sent = s.sent :=
  (sent_began _ _).trans (sent_note s _)

theorem able_leaving (h : s.Able) (ho : s.status = .opened) : s.leaving.Able :=
  h.of_eq rfl (sent_leaving s ▸ List.prefix_rfl) (by rw [ho]; exact Nat.zero_le _)

/-- A session that is open and goes on to say that it will send nothing more. -/
theorem sendClose_closing (h : s.status = .opened) :
    Utters [Alert.record ⟨.warning, .closeNotify⟩] s.leaving s.sendClose ∧ Proceeds s s.sendClose := by
  rw [sendClose_eq h]
  set close := Alert.record ⟨.warning, .closeNotify⟩ with hclose
  have hnote : Still s { s.note .sendingClose with status := .closing } :=
    .of_deeds (deeds_note s .sendingClose) rfl
  have hstill : Still s s.leaving := hnote.trans (still_began _ _)
  have hutters : Utters [close] s.leaving (s.leaving.sendRecord close) :=
    utters_sendRecord s.leaving (length_record _) (by rintro ⟨⟩)
  refine ⟨hutters, sent_leaving s ▸ hutters.sent, .inr ⟨h, (fields_sendRecord s.leaving _).1⟩,
    hutters.traffic, hutters.early, hutters.closeReceived, hstill.trans hutters.still,
    fun hs => hutters.able (able_leaving hs h), fun hs _ _ => ⟨close, ?_, Record.isCloseNotify_record _⟩⟩
  have hroom : ¬ s.leaving.layer.exhausted = true := not_exhausted (s := s) hs (.inr h)
  rw [said_sendRecord (able_leaving hs h) (length_record _) hroom]
  exact List.mem_append_right _ (List.mem_singleton_self _)

theorem proceeds_sendClose (s : Session) : Proceeds s s.sendClose := by
  by_cases h : s.status = .opened
  · exact (sendClose_closing h).2
  · rw [sendClose, if_pos h]
    exact .refl s

theorem sendClose_not_opened (s : Session) : s.sendClose.status ≠ .opened := by
  by_cases h : s.status = .opened
  · have hleaving : s.leaving.status = .closing := rfl
    rcases (sendClose_closing h).1.status with hs | ⟨hs, -⟩
    · rw [hs, hleaving]
      decide
    · rw [hleaving] at hs
      cases hs
  · rwa [sendClose, if_pos h]

/-- Closing a session does not take its last number. -/
theorem sendClose_not_exhausted (h : s.Able) (hx : ¬ s.layer.exhausted = true) :
    ¬ s.sendClose.layer.exhausted = true := by
  by_cases ho : s.status = .opened
  · rw [sendClose_eq ho]
    rcases sendRecord_able (able_leaving h ho) (length_record ⟨.warning, .closeNotify⟩) with
      ⟨hsame, -⟩ | ⟨wire, d, hsend, -, hnumber⟩
    · rw [hsame]
      exact hx
    · intro hout
      have hlimit := hardLimit_le_of_exhausted hout
      rw [hsend] at hlimit
      have hstep : d.seq.toNat ≤ s.layer.sending.seq.toNat + 1 := hnumber
      have hlimits : Direction.softLimit.toNat + 1 < Direction.hardLimit.toNat := by decide
      exact absurd (Nat.le_trans hlimit (Nat.le_trans hstep (Nat.succ_le_succ (h.room ho))))
        (Nat.not_le_of_lt hlimits)
  · rwa [sendClose, if_pos ho]

/-- As long as there are numbers the session is not closed for want of them. -/
theorem not_wantsClose (h : s.Able) (hb : s.InBounds) : ¬ s.layer.wantsClose = true := by
  intro hw
  have hseq : s.layer.sending.seq = Direction.softLimit := by simpa [RecordLayer.wantsClose] using hw
  have := h.numbers
  rw [hseq] at this
  unfold InBounds at hb
  omega

theorem utters_sendFragment (s : Session) (hr : r.payload.length ≤ Record.maxFragment) :
    Utters [r] s (s.sendFragment r) := by
  by_cases hw : s.layer.wantsClose = true
  · rw [sendFragment, if_pos hw]
    have hclosed := sendClose_not_opened s
    have hall := (proceeds_sendClose s).trans
      (utters_sendRecord s.sendClose hr fun ho => absurd ho hclosed).toProceeds
    refine ⟨hall, fun hs hb => ?_⟩
    rcases hb with hb | ho
    · exact absurd hw (not_wantsClose hs (hb.of_sent hall.sent))
    · exact absurd ((fields_sendRecord _ r).1.symm.trans ho) hclosed
  · rw [sendFragment, if_neg hw]
    exact utters_sendRecord s hr fun _ => hw

theorem utters_fragments (s : Session) (xs : List Record)
    (hxs : ∀ r ∈ xs, r.payload.length ≤ Record.maxFragment) :
    Utters xs s (xs.foldl sendFragment s) := by
  induction xs generalizing s with
  | nil => exact .refl s
  | cons x xs ih =>
    exact (utters_sendFragment s (hxs x (by simp))).trans
      (ih _ fun r hr => hxs r (List.mem_cons_of_mem x hr))

theorem utters_send (s : Session) (m : Message) : Utters m.toRecord.fragments s (s.send m) := by
  exact (Utters.began s m).trans (utters_fragments _ _ fun r hr => (Record.of_mem_fragments hr).2.2)

theorem utters_sendAlert (s : Session) (a : Alert) : Utters [a.record] s (s.send (.ofAlert a)) := by
  have h := utters_send s (.ofAlert a)
  rw [show (Message.ofAlert a).toRecord = a.record from rfl, fragments_record] at h
  exact h

theorem send_alert_eq (s : Session) (a : Alert) :
    s.send (.ofAlert a) = (s.happened (.sent (.ofAlert a))).sendFragment a.record := by
  show List.foldl sendFragment _ a.record.fragments = _
  rw [fragments_record]
  rfl

/-- What closing a session puts on its way. -/
theorem said_sendClose_eq (h : s.Able) : ∃ front, s.sendClose.said = s.said ++ front ∧
    (front = [] ∨ front = [Alert.record ⟨.warning, .closeNotify⟩]) := by
  by_cases ho : s.status = .opened
  · have hroom : ¬ s.leaving.layer.exhausted = true := not_exhausted (s := s) h (.inr ho)
    have hleaving : s.leaving.said = s.said := congrArg (List.map Prod.fst) (sent_leaving s)
    refine ⟨[Alert.record ⟨.warning, .closeNotify⟩], ?_, .inr rfl⟩
    rw [sendClose_eq ho, said_sendRecord (able_leaving h ho) (length_record _) hroom, hleaving]
  · refine ⟨[], ?_, .inl rfl⟩
    rw [sendClose, if_pos ho, List.append_nil]

/-- An alert is put on its way whenever there is a number for it, behind a close notification if the numbers
are about to run out. -/
theorem said_sendAlert_eq (h : s.Able) (hx : ¬ s.layer.exhausted = true) (a : Alert) :
    ∃ front, (s.send (.ofAlert a)).said = s.said ++ front ++ [a.record] ∧
      (front = [] ∨
        s.layer.wantsClose = true ∧ front = [Alert.record ⟨.warning, .closeNotify⟩]) := by
  set s₁ := s.happened (.sent (.ofAlert a)) with hs₁
  have hable : s₁.Able := (Utters.began s (.ofAlert a)).able h
  have hsaid : s₁.said = s.said := congrArg (List.map Prod.fst) (sent_began s (.ofAlert a))
  rw [send_alert_eq, ← hs₁, sendFragment]
  by_cases hw : s₁.layer.wantsClose = true
  · rw [if_pos hw]
    obtain ⟨front, hfront, hclose⟩ := said_sendClose_eq hable
    have hroom : ¬ s₁.sendClose.layer.exhausted = true := sendClose_not_exhausted hable hx
    refine ⟨front, ?_, hclose.imp_right fun hc => ⟨hw, hc⟩⟩
    rw [said_sendRecord ((proceeds_sendClose s₁).able hable) (length_record a) hroom, hfront, hsaid]
  · rw [if_neg hw]
    refine ⟨[], ?_, .inl rfl⟩
    rw [said_sendRecord hable (length_record a) hx, hsaid, List.append_nil]

/-- An alert is put on its way whenever there is a number for it. -/
theorem said_sendAlert (h : s.Able) (hx : ¬ s.layer.exhausted = true) (a : Alert) :
    ∃ front, s.said <+: front ∧ (s.send (.ofAlert a)).said = front ++ [a.record] := by
  obtain ⟨front, hsaid, -⟩ := said_sendAlert_eq h hx a
  exact ⟨s.said ++ front, List.prefix_append _ _, hsaid⟩

theorem sendPlaintext_eq (ht : s.traffic = true) (bs : Bytes) :
    s.sendPlaintext bs = (dataRecords bs).foldl sendFragment s := by
  have hsend : s.sendPlaintext bs = if bs.isEmpty then s else s.sendData bs := by
    simp [sendPlaintext, ht]
  rw [hsend, dataRecords]
  split <;> rfl

theorem utters_sendPlaintext (ht : s.traffic = true) (bs : Bytes) :
    Utters (dataRecords bs) s (s.sendPlaintext bs) := by
  rw [sendPlaintext_eq ht]
  exact utters_fragments s _ fun r hr => length_of_mem_dataRecords hr

/-- When the handshake is over what was kept back goes out, record after record. -/
theorem startTraffic_eq (s : Session) : s.startTraffic =
    (Dialogue.waiting s.early).foldl sendFragment { s with traffic := true, early := {} } := by
  have hall : ∀ (bss : List Bytes) (s : Session), s.traffic = true →
      bss.foldl sendPlaintext s = (bss.flatMap dataRecords).foldl sendFragment s := by
    intro bss
    induction bss with
    | nil => exact fun _ _ => rfl
    | cons bs bss ih =>
      intro s ht
      have hfirst : (s.sendPlaintext bs).traffic = true := (utters_sendPlaintext ht bs).traffic.trans ht
      rw [List.foldl_cons, ih _ hfirst, sendPlaintext_eq ht, List.flatMap_cons, List.foldl_append]
  exact hall s.early.chunks _ rfl

theorem utters_startTraffic (s : Session) :
    Utters (Dialogue.waiting s.early) { s with traffic := true, early := {} } s.startTraffic := by
  rw [startTraffic_eq]
  exact utters_fragments _ _ fun r hr => Dialogue.length_of_mem_waiting hr

end Session

end TlsClient
