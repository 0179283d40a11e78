import TlsClient.Proofs.Session.Talking

/-!
# Sealing what is sent

A session sends without protection until it signals the key change, and seals every record from then
on.  While it is `Clear` a message is logged exactly as it is (`send_idle`); once it is `Sealed` the
records after the signal are numbered from zero, without gap or repeat.  Both survive talk.
-/

namespace TlsClient

/-- The record that signals the key change. -/
def Record.keyChange : Record := Message.changeCipherSpec.toRecord

/-- Records that were sealed one after another, numbered from zero: each with what it became, and the
protection that is left for the next. -/
inductive Protection.Seals (p : Protection) : List (Record × Record) → Protection → Prop
  | nil : Seals p [] p
  | snoc {xs : List (Record × Record)} {q q' : Protection} {plain wire : Record} (h : Seals p xs q)
    (hw : q.protect (UInt64.ofNat xs.length) plain = (.ok wire, q')) :
    Seals p (xs ++ [(plain, wire)]) q'

/-- A record that is not too long can be sealed. -/
theorem Protection.protect_ok (p : Protection) (seq : UInt64) {r : Record}
    (hr : r.payload.length ≤ Record.maxFragment) : ∃ wire q, p.protect seq r = (.ok wire, q) := by
  unfold protect
  rw [if_neg (by omega)]
  exact ⟨_, _, rfl⟩

namespace Direction

theorem protect_idle {d : Direction} (h : d.isActive = false) (r : Record) :
    d.protect r = (.ok r, d) := by
  simp [protect, h]

/-- An active direction seals under its number, which is used up. -/
theorem protect_active {p q : Protection} {n : UInt64} {r wire : Record} (hn : ¬ hardLimit ≤ n)
    (h : p.protect n r = (.ok wire, q)) :
    protect ⟨some p, n, .active⟩ r = (.ok wire, ⟨some q, n + 1, .active⟩) := by
  simp [protect, isActive, exhausted, hn, Protection.protect?, h]

/-- An active direction opens under its number, which is used up if that succeeds. -/
theorem unprotect_active {n : UInt64} (hn : ¬ hardLimit ≤ n) (p : Protection) (wire : Record) :
    unprotect ⟨some p, n, .active⟩ wire =
      ((p.unprotect n wire).1, ⟨some (p.unprotect n wire).2,
        if (p.unprotect n wire).1.isOk then n + 1 else n, .active⟩) := by
  have hnumber : (⟨some p, n, .active⟩ : Direction).exhausted = false := decide_eq_false hn
  rw [unprotect, hnumber]
  rfl

end Direction

namespace Message

/-- What sending a message without protection leaves in the history. -/
def log (m : Message) : List Event :=
  .sent m :: m.toRecord.fragments.map fun r => .queued r r

theorem handled_log (m : Message) : Deeds.handled m.log = [] := by
  simp [log, Deeds.handled, Event.handled?]

theorem opened_log (keyed : Bool) (m : Message) : Deeds.opened keyed m.log = [] := by
  simp [log, Deeds.opened, Event.openedBytes, List.flatMap_map]

theorem taken_log (m : Message) : Deeds.taken m.log = [] := by
  rw [Deeds.taken, handled_log, List.flatMap_nil]

theorem records_log (m : Message) :
    Deeds.records m.log = m.toRecord.fragments.map fun r => (r, r) := by
  rw [log, Deeds.records, List.filterMap_cons_none rfl, List.filterMap_map]
  exact congrFun (List.filterMap_eq_map (f := fun r => (r, r))) _

/-- A message is on the wire with the bytes that it adds to a transcript. -/
theorem wire_log (m : Message) : Deeds.wire m.log = Transcript.contribution m := by
  have hpay : m.toRecord.fragments.flatMap Record.payload = m.body.encode :=
    Record.flatMap_fragments _
  have htyp : ∀ r ∈ m.toRecord.fragments, r.typ = m.body.typ :=
    fun r hr => (Record.of_mem_fragments hr).1
  have hwire : Deeds.wire m.log = m.toRecord.fragments.flatMap fun r =>
      if r.typ = .handshake then r.payload else [] := by
    simp [log, Deeds.wire, Event.wireBytes, List.flatMap_map]
  rw [hwire]
  by_cases hm : m.body.typ = .handshake
  · rw [List.flatMap_congr fun r hr => if_pos ((htyp r hr).trans hm), hpay]
    cases hb : m.body with
    | handshake parsed encoded => simp [MessageBody.encode, Transcript.contribution, hb]
    | _ => rw [hb] at hm; cases hm
  · rw [List.flatMap_congr fun r hr => if_neg (htyp r hr ▸ hm)]
    cases hb : m.body with
    | handshake parsed encoded => rw [hb] at hm; exact absurd rfl hm
    | _ => simp [Transcript.contribution, hb]

end Message

namespace Session

/-- One session comes from another by deeds that leave only bytes to write behind. -/
def Says (es : List Event) (s s' : Session) : Prop :=
  s'.deeds = s.deeds ++ es ∧ { s' with outgoing := s.outgoing, history := s.history } = s

namespace Says

variable {es fs : List Event} {s s' s'' : Session}

theorem refl (s : Session) : Says [] s s := ⟨(List.append_nil _).symm, rfl⟩

theorem trans (h : Says es s s') (h' : Says fs s' s'') : Says (es ++ fs) s s'' := by
  obtain ⟨hd, hs⟩ := h
  obtain ⟨hd', hs'⟩ := h'
  refine ⟨by rw [hd', hd, List.append_assoc], ?_⟩
  rw [← hs'] at hs
  exact hs

theorem note (s : Session) (n : Notice) : Says [] s (s.note n) := ⟨by simp, rfl⟩

theorem layer (h : Says es s s') : s'.layer = s.layer := (congrArg Session.layer h.2 :)

theorem frame (h : Says es s s') : s'.frame = s.frame := (congrArg Session.frame h.2 :)

end Says

/-- Nothing that is sent is protected, and nothing has been numbered. -/
def Idle (s : Session) : Prop := s.layer.sending.isActive = false ∧ s.layer.sending.seq = 0

theorem sendFragment_idle {s : Session} (h : s.Idle) (r : Record) :
    s.sendFragment r = s.enqueue r r := by
  have hclose : s.layer.wantsClose = false := by
    rw [RecordLayer.wantsClose, h.2]
    rfl
  have hlimit : s.layer.exhausted = false := by
    rw [RecordLayer.exhausted, Direction.exhausted, h.2]
    rfl
  simp only [sendFragment, sendRecord, hclose, hlimit, RecordLayer.protect,
    Direction.protect_idle h.1, Bool.false_eq_true, if_false]

/-- While nothing is protected a message is logged as it is. -/
theorem send_idle {s : Session} (h : s.Idle) (m : Message) : Says m.log s (s.send m) := by
  have hfold : ∀ (xs : List Record) (s : Session), s.Idle →
      Says (xs.map fun r => .queued r r) s (xs.foldl sendFragment s) := by
    intro xs
    induction xs with
    | nil => exact fun s _ => .refl s
    | cons x xs ih =>
      intro s h
      have hx : Says [.queued x x] s (s.enqueue x x) := ⟨deeds_enqueue s x x, rfl⟩
      rw [List.foldl_cons, sendFragment_idle h]
      exact hx.trans (ih _ h)
  have hsent : Says [.sent m] s (s.happened (.sent m)) :=
    ⟨by simp [deeds_happened, Event.isDeed], rfl⟩
  exact hsent.trans (hfold _ _ h)

/-! ## Before the key change -/

/-- A session that has sent nothing but unprotected records of its handshake, and alerts. -/
structure Clear (s : Session) : Prop where
  idle : s.Idle
  traffic : s.traffic = false
  records : ∀ x ∈ Deeds.records s.deeds,
    x.2 = x.1 ∧ x.1.typ ≠ .changeCipherSpec ∧ x.1.typ ≠ .applicationData

/-- Being clear depends on the sending direction, on the records and on whether the handshake is over. -/
theorem Clear.of_eq {s s' : Session} (h : s.Clear)
    (hr : Deeds.records s'.deeds = Deeds.records s.deeds)
    (hl : s'.layer.sending = s.layer.sending) (ht : s'.traffic = s.traffic) : s'.Clear :=
  ⟨by rw [Idle, hl]; exact h.idle, ht.trans h.traffic, by rw [hr]; exact h.records⟩

theorem Clear.talk {s s' : Session} (h : s.Clear) (ht : Talk s s') : s'.Clear := by
  cases ht with
  | note n => exact h.of_eq (by rw [deeds_note]) rfl rfl
  | keep => exact h.of_eq rfl rfl rfl
  | begin m hm =>
    refine h.of_eq ?_ rfl rfl
    rw [deeds_happened, Deeds.records_append]
    exact List.append_nil _
  | record r hr hl =>
    have halert : r.typ = .alert := by
      rcases hr with hr | ⟨-, hr⟩
      · exact hr
      · rw [h.traffic] at hr
        cases hr
    have hs : s.sendRecord r = s.enqueue r r ∨ s.sendRecord r = s := by
      unfold sendRecord
      split
      · exact .inr rfl
      · left
        simp only [RecordLayer.protect, Direction.protect_idle h.idle.1]
    rcases hs with hs | hs <;> rw [hs]
    · refine ⟨h.idle, h.traffic, ?_⟩
      rw [deeds_enqueue, Deeds.records_append]
      intro x hx
      rcases List.mem_append.mp hx with hx | hx
      · exact h.records x hx
      · obtain rfl := List.mem_singleton.mp hx
        exact ⟨rfl, by rw [halert]; decide, by rw [halert]; decide⟩
    · exact h

theorem Clear.talks {s s' : Session} (h : s.Clear) (ht : Talks s s') : s'.Clear :=
  ht.keeps (fun _ _ ht h => h.talk ht) h

/-! ## After the key change -/

/-- A session that has signalled the key change once and sealed everything since, the given record
first. -/
structure Sealed (p : Protection) (first : Record) (s : Session) : Prop where
  split : ∃ clear wire rest q,
    Deeds.records s.deeds =
      clear ++ (Record.keyChange, Record.keyChange) :: (first, wire) :: rest ∧
    (∀ x ∈ clear, x.2 = x.1 ∧ x.1.typ ≠ .changeCipherSpec ∧ x.1.typ ≠ .applicationData) ∧
    (∀ x ∈ (first, wire) :: rest, x.1.typ ≠ .changeCipherSpec) ∧
    p.Seals ((first, wire) :: rest) q ∧
    ((first, wire) :: rest).length ≤ Direction.hardLimit.toNat ∧
    s.layer.sending = ⟨some q, UInt64.ofNat ((first, wire) :: rest).length, .active⟩

variable {p : Protection} {first : Record}

/-- Sealing depends on the sending direction and on the records that were queued. -/
theorem Sealed.of_eq {s s' : Session} (h : s.Sealed p first)
    (hr : Deeds.records s'.deeds = Deeds.records s.deeds)
    (hl : s'.layer.sending = s.layer.sending) : s'.Sealed p first := by
  obtain ⟨clear, wire, rest, q, hrec, hclear, hrest, hseals, hlen, hdir⟩ := h.split
  exact ⟨clear, wire, rest, q, hr.trans hrec, hclear, hrest, hseals, hlen, hl.trans hdir⟩

/-- One more record is sealed under the next number, or none can be sealed any more. -/
theorem Sealed.sendRecord {s : Session} (h : s.Sealed p first) {r : Record}
    (hr : r.typ ≠ .changeCipherSpec) (hlen : r.payload.length ≤ Record.maxFragment) :
    (s.sendRecord r).Sealed p first := by
  obtain ⟨clear, wire, rest, q, hrec, hclear, hrest, hseals, hle, hdir⟩ := h.split
  by_cases hx : s.layer.exhausted = true
  · rw [Session.sendRecord, if_pos hx]
    exact h
  · set sealed := (first, wire) :: rest with hsealed
    have hlimit : ¬ Direction.hardLimit ≤ UInt64.ofNat sealed.length := by
      rw [RecordLayer.exhausted, Direction.exhausted, hdir] at hx
      simpa using hx
    have hnat : (UInt64.ofNat sealed.length).toNat = sealed.length := by
      rw [UInt64.toNat_ofNat']
      refine Nat.mod_eq_of_lt (Nat.lt_of_le_of_lt hle ?_)
      decide
    obtain ⟨w, q', hw⟩ := q.protect_ok (UInt64.ofNat sealed.length) hlen
    have hp : s.layer.sending.protect r
        = (.ok w, ⟨some q', UInt64.ofNat sealed.length + 1, .active⟩) := by
      rw [hdir]
      exact Direction.protect_active hlimit hw
    have hs : s.sendRecord r = { s with layer := { s.layer with
        sending := ⟨some q', UInt64.ofNat sealed.length + 1, .active⟩ } }.enqueue r w := by
      simp only [Session.sendRecord, hx, RecordLayer.protect, hp, Bool.false_eq_true, if_false]
    rw [hs]
    refine ⟨clear, wire, rest ++ [(r, w)], q', ?_, hclear, ?_, ?_, ?_, ?_⟩
    · rw [deeds_enqueue, Deeds.records_append]
      show Deeds.records s.deeds ++ [(r, w)] = _
      rw [hrec, List.append_assoc]
      rfl
    · intro x hx
      rw [← List.cons_append, ← hsealed] at hx
      rcases List.mem_append.mp hx with hx | hx
      · exact hrest x hx
      · obtain rfl := List.mem_singleton.mp hx
        exact hr
    · rw [← List.cons_append, ← hsealed]
      exact hseals.snoc hw
    · rw [UInt64.le_iff_toNat_le, hnat] at hlimit
      rw [← List.cons_append, ← hsealed, List.length_append, List.length_singleton]
      omega
    · rw [← List.cons_append, ← hsealed, List.length_append, List.length_singleton,
        UInt64.ofNat_add]
      rfl

theorem Sealed.talk {s s' : Session} (h : s.Sealed p first) (ht : Talk s s') :
    s'.Sealed p first := by
  cases ht with
  | note n => exact h.of_eq (by rw [deeds_note]) rfl
  | keep => exact h.of_eq rfl rfl
  | begin m hm =>
    refine h.of_eq ?_ rfl
    rw [deeds_happened, Deeds.records_append]
    exact List.append_nil _
  | record r hr hl =>
    refine h.sendRecord ?_ hl
    rcases hr with hr | ⟨hr, -⟩ <;> rw [hr] <;> decide

theorem Sealed.talks {s s' : Session} (h : s.Sealed p first) (ht : Talks s s') :
    s'.Sealed p first :=
  ht.keeps (fun _ _ ht h => h.talk ht) h

end Session

end TlsClient
