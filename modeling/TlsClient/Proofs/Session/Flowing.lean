import TlsClient.Proofs.Session.Speaking

/-!
# Data on its way

Whatever the user wrote goes out in order, each piece behind an empty record and cut to fit (`Carries`).
A session that is open has lost nothing of it: all of it is on its way or waits for the end of the
handshake (`Dialogue.Flows`).  The server's side leaves this alone, also where the end of the handshake sends
what waited, and writing adds to it (`flows_write`).  A session that has `Room` for what it sends stays open.
-/

namespace TlsClient

open Relation (ReflTransGen)

namespace Session

/-- The records that carry some data: none for no data, else an empty one and then as few as will do, none
of them empty. -/
inductive Carries : Bytes → List Record → Prop
  | nothing : Carries [] []
  | pieces {bs : Bytes} {rs : List Record} (hbs : bs ≠ [])
    (hdata : ∀ r ∈ rs, r.typ = .applicationData)
    (hsize : ∀ r ∈ rs, r.payload ≠ [] ∧ r.payload.length ≤ Record.maxFragment)
    (hcount : rs.length = bs.length ⌈/⌉ Record.maxFragment)
    (hbytes : rs.flatMap Record.payload = bs) : Carries bs (dataRecord [] :: rs)

variable {bs : Bytes} {rs : List Record}

theorem carries_dataRecords (bs : Bytes) : Carries bs (dataRecords bs) := by
  by_cases hbs : bs = []
  · subst hbs
    exact .nothing
  · rw [dataRecords, if_neg (by simpa using hbs)]
    have hne : (dataRecord bs).payload ≠ [] := hbs
    exact .pieces hbs (fun r hr => (Record.of_mem_fragments hr).1)
      (fun r hr => ⟨Record.payload_ne_nil_of_mem_fragments hne hr, (Record.of_mem_fragments hr).2.2⟩)
      (Record.length_fragments hne) (Record.flatMap_fragments _)

theorem Carries.payload (h : Carries bs rs) : rs.flatMap Record.payload = bs := by
  cases h with
  | nothing => rfl
  | pieces hbs hdata hsize hcount hbytes => exact hbytes

/-- Records that carry pieces of data carry all of it. -/
theorem flatten_carries {bss : List Bytes} {pieces : List (List Record)}
    (h : List.Forall₂ Carries bss pieces) : pieces.flatten.flatMap Record.payload = bss.flatten := by
  induction h with
  | nil => rfl
  | cons h _ ih => rw [List.flatten_cons, List.flatten_cons, List.flatMap_append, h.payload, ih]

end Session

namespace Dialogue

variable {d d' : Dialogue} {bss : List Bytes}

/-- All that was written is on its way or waits, in order, and nothing waits once the handshake is over. -/
structure Flows (d : Dialogue) (bss : List Bytes) : Prop where
  records : d.said.filter Record.isData ++ waiting d.early = bss.flatMap Session.dataRecords
  prompt : d.traffic = true → waiting d.early = []

/-- Records that are no data do not count. -/
theorem filter_append_mute {said rs : List Record} (h : ∀ r ∈ rs, r.typ ≠ .applicationData) :
    (said ++ rs).filter Record.isData = said.filter Record.isData := by
  have hmute : ∀ r ∈ rs, ¬ r.isData = true := fun r hr => by simpa [Record.isData] using h r hr
  rw [List.filter_append, List.filter_eq_nil_iff.mpr hmute, List.append_nil]

theorem filter_append_alert (said : List Record) (a : Alert) :
    (said ++ [a.record]).filter Record.isData = said.filter Record.isData :=
  filter_append_mute fun r hr => by
    obtain rfl := List.mem_singleton.mp hr
    exact (show ContentType.alert ≠ .applicationData by decide)

theorem filter_dataRecords (bs : Bytes) :
    (Session.dataRecords bs).filter Record.isData = Session.dataRecords bs :=
  List.filter_eq_self.mpr fun r hr => by simp [Record.isData, Session.typ_of_mem_dataRecords hr]

theorem waiting_push (q : ByteQueue) (bs : Bytes) :
    waiting (q.push bs) = waiting q ++ Session.dataRecords bs := by
  unfold ByteQueue.push
  split
  · next hbs => rw [Session.dataRecords, if_pos hbs, List.append_nil]
  · rw [waiting, List.flatMap_append, List.flatMap_singleton]
    rfl

/-- What comes of the server's side adds nothing to the data and loses none. -/
theorem Flows.serves (h : d.Flows bss) (ht : Serves d d') : d'.Flows bss := by
  rcases ht with ht | ht
  · cases ht with
    | sends rs hd hrs =>
      refine ⟨?_, h.prompt⟩
      show (d.said ++ rs).filter _ ++ waiting d.early = _
      rw [filter_append_mute fun r hr ht => ?_]
      · exact h.records
      · rcases hrs r hr with hr | hr <;> rw [ht] at hr <;> cases hr
    | completes hd =>
      refine ⟨?_, fun _ => rfl⟩
      show (d.said ++ waiting d.early).filter _ ++ [] = _
      rw [List.filter_append, filter_waiting, List.append_nil]
      exact h.records
    | declines hd ht => exact ⟨(filter_append_alert _ _).symm ▸ h.records, h.prompt⟩
    | aborts hd why hwhy => exact ⟨(filter_append_alert _ _).symm ▸ h.records, h.prompt⟩
  · cases ht with
    | answers hd => exact ⟨(filter_append_alert _ _).symm ▸ h.records, h.prompt⟩
    | ends => exact ⟨h.records, h.prompt⟩

theorem Flows.serve (h : d.Flows bss) (ht : ReflTransGen Serves d d') : d'.Flows bss := by
  induction ht with
  | refl => exact h
  | tail _ ht ih => exact ih.serves ht

end Dialogue

namespace Session

variable {s : Session} {bs : Bytes} {bss : List Bytes}

/-- A session that is still open after a write has taken all of it. -/
theorem flows_write (hs : s.Able) (ho : (s.write bs).2.status = .opened)
    (h : s.dialogue.Flows bss) :
    (s.write bs).1 = .ok bs.length ∧ (s.write bs).2.dialogue.Flows (bss ++ [bs]) := by
  have hopen : s.status = .opened := by
    by_contra hs
    rw [write, if_pos hs] at ho
    exact hs ho
  have hwrite : s.write bs = (.ok bs.length, s.sendPlaintext bs) := if_neg (not_not.mpr hopen)
  have hadd : (bss ++ [bs]).flatMap dataRecords = bss.flatMap dataRecords ++ dataRecords bs := by
    rw [List.flatMap_append, List.flatMap_singleton]
  rw [hwrite] at ho ⊢
  refine ⟨rfl, ?_⟩
  by_cases ht : s.traffic = true
  · have hutters := utters_sendPlaintext ht bs
    have hsaid := (hutters.said hs (.inr ho)).2
    have hwaits : Dialogue.waiting s.early = [] := h.prompt ht
    constructor
    · show (s.sendPlaintext bs).said.filter _ ++ Dialogue.waiting (s.sendPlaintext bs).early = _
      rw [hsaid, hutters.early, hwaits, List.filter_append, Dialogue.filter_dataRecords, hadd,
        ← h.records]
      show _ = (s.said.filter _ ++ Dialogue.waiting s.early) ++ _
      rw [hwaits, List.append_nil, List.append_nil]
    · exact fun _ => (congrArg Dialogue.waiting hutters.early).trans hwaits
  · have hkeep : s.sendPlaintext bs = { s with early := s.early.push bs } :=
      if_pos (by simpa using ht)
    rw [hkeep]
    refine ⟨?_, fun ht' => absurd ht' ht⟩
    show s.said.filter _ ++ Dialogue.waiting (s.early.push bs) = _
    rw [Dialogue.waiting_push, ← List.append_assoc, hadd, ← h.records]
    rfl

/-! ## Room for more -/

/-- An open session has this many numbers left before it is closed for want of them. -/
structure Room (s : Session) (n : Nat) : Prop where
  able : s.Able
  opened : s.status = .opened
  enough : s.sent.length + n ≤ Direction.softLimit.toNat

variable {n : Nat} {r : Record}

theorem Room.of_eq (h : s.Room n) {s' : Session} (hs : s'.status = s.status) (hsent : s'.sent = s.sent)
    (hl : s'.layer.sending = s.layer.sending) : s'.Room n :=
  ⟨h.able.of_eq hl (hsent ▸ List.prefix_rfl) (Nat.le_of_eq (by rw [hs])), hs.trans h.opened,
    hsent ▸ h.enough⟩

theorem Room.inBounds (h : s.Room (n + 1)) : s.InBounds :=
  Nat.lt_of_lt_of_le (Nat.lt_add_of_pos_right n.succ_pos) h.enough

/-- A record takes one number, and the session stays open. -/
theorem Room.sendFragment (h : s.Room (n + 1)) (hr : r.payload.length ≤ Record.maxFragment) :
    (s.sendFragment r).Room n := by
  have hbounds := h.inBounds
  have hwants := not_wantsClose h.able hbounds
  have hsaid := said_sendRecord h.able hr (not_exhausted h.able (.inl hbounds))
  have hlength : (s.sendRecord r).sent.length = s.sent.length + 1 := by
    simpa [said] using congrArg List.length hsaid
  rw [Session.sendFragment, if_neg hwants]
  refine ⟨able_sendRecord h.able hr fun _ => hwants, (fields_sendRecord s r).1.trans h.opened, ?_⟩
  have henough := h.enough
  omega

theorem Room.fragments {rs : List Record} (h : s.Room (rs.length + n))
    (hrs : ∀ r ∈ rs, r.payload.length ≤ Record.maxFragment) :
    (rs.foldl Session.sendFragment s).Room n := by
  induction rs generalizing s with
  | nil => simpa using h
  | cons r rs ih =>
    obtain ⟨hr, hrs⟩ := List.forall_mem_cons.mp hrs
    rw [List.length_cons, Nat.add_right_comm] at h
    exact ih (h.sendFragment hr) hrs

/-- Data that there is room for leaves the session open. -/
theorem Room.sendPlaintext (h : s.Room ((dataRecords bs).length + n)) (ht : s.traffic = true) :
    (s.sendPlaintext bs).Room n := by
  rw [sendPlaintext_eq ht]
  exact h.fragments fun r hr => length_of_mem_dataRecords hr

theorem Room.startTraffic (h : s.Room ((Dialogue.waiting s.early).length + n)) :
    s.startTraffic.Room n := by
  have hbegun : ({ s with traffic := true, early := {} } : Session).Room _ := h.of_eq rfl rfl rfl
  rw [startTraffic_eq]
  exact hbegun.fragments fun r hr => Dialogue.length_of_mem_waiting hr

end Session

end TlsClient
