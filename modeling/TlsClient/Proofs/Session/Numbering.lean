import TlsClient.Proofs.Cipher.Reopening
import TlsClient.Proofs.Session.Sealing

/-!
# Sealing counts attempts, opening counts successes

An active record layer uses up a number for every attempt to seal a record, also for a record that is too
long and is refused (`Tried`).  The other side uses up a number for every record that it opens.  So both stay
in step up to the first record that is refused, and not any longer: what is sealed after that is opened
under another number than it was sealed under, and is taken for a forgery (`opened_until_refused`).
-/

namespace TlsClient

namespace RecordLayer

/-- An attempt to seal a record: the number it was made under, the record, and what came of it. -/
structure Attempt where
  number : UInt64
  record : Record
  result : Except TlsError Record

/-- Attempts to seal records, one after another. -/
def attempts : RecordLayer → List Record → List Attempt
  | _, [] => []
  | l, r :: rs => ⟨l.sending.seq, r, (l.protect r).1⟩ :: (l.protect r).2.attempts rs

/-- What comes of opening records, one after another. -/
def openings : RecordLayer → List Record → List (Except TlsError Record)
  | _, [] => []
  | l, wire :: wires => (l.unprotect wire).1 :: (l.unprotect wire).2.openings wires

/-- What comes of opening each record that was sealed under the number it was sealed under. -/
def numberedOpenings : Protection → List Attempt → List (Except TlsError Record)
  | _, [] => []
  | p, a :: as =>
    match a.result with
    | .ok wire => (p.unprotect a.number wire).1 :: numberedOpenings (p.unprotect a.number wire).2 as
    | .error _ => numberedOpenings p as

/-- The sealed records of some attempts. -/
def wires (as : List Attempt) : List Record := as.filterMap fun a => a.result.toOption

/-- The records of the attempts that succeeded. -/
def sealedRecords (as : List Attempt) : List Record :=
  (as.filter fun a => a.result.isOk).map Attempt.record

/-- What an attempt to seal does to the keys and to the number: a record that fits is sealed under the
number, a record that does not is refused, and both use the number up; once the numbers have run out,
nothing is sealed. -/
inductive Tried (p : Protection) (n : UInt64) (r : Record) : Attempt → Protection → UInt64 → Prop
  | sealed {wire : Record} {q : Protection} (hn : n < Direction.hardLimit)
    (hr : r.payload.length ≤ Record.maxFragment) (hw : p.protect n r = (.ok wire, q)) :
    Tried p n r ⟨n, r, .ok wire⟩ q (n + 1)
  | refused (hn : n < Direction.hardLimit) (hr : Record.maxFragment < r.payload.length) :
    Tried p n r ⟨n, r, .error .cannotEncrypt⟩ p (n + 1)
  | exhausted (hn : Direction.hardLimit ≤ n) : Tried p n r ⟨n, r, .error .cannotEncrypt⟩ p n

variable {l peer : RecordLayer} {p q : Protection} {n m : UInt64} {r : Record} {rs : List Record}
  {a : Attempt} {as before after : List Attempt}

theorem protect_tried (h : l.sending = ⟨some p, n, .active⟩) (r : Record) :
    ∃ q m, Tried p n r ⟨l.sending.seq, r, (l.protect r).1⟩ q m ∧
      (l.protect r).2.sending = ⟨some q, m, .active⟩ := by
  have hlayer : l.protect r = ((l.sending.protect r).1, { l with sending := (l.sending.protect r).2 }) :=
    rfl
  rw [hlayer, h]
  by_cases hn : Direction.hardLimit ≤ n
  · have hprotect : Direction.protect ⟨some p, n, .active⟩ r =
        (.error .cannotEncrypt, ⟨some p, n, .active⟩) := by
      simp [Direction.protect, Direction.isActive, Direction.exhausted, hn]
    rw [hprotect]
    exact ⟨p, n, .exhausted hn, rfl⟩
  · have hlt : n < Direction.hardLimit := UInt64.not_le.mp hn
    by_cases hr : r.payload.length ≤ Record.maxFragment
    · obtain ⟨wire, q, hw⟩ := p.protect_ok n hr
      rw [Direction.protect_active hn hw]
      exact ⟨q, n + 1, .sealed hlt hr hw, rfl⟩
    · have hprotect : Direction.protect ⟨some p, n, .active⟩ r =
          (.error .cannotEncrypt, ⟨some p, n + 1, .active⟩) := by
        simp [Direction.protect, Direction.isActive, Direction.exhausted, hn, Protection.protect?,
          Protection.protect, Nat.not_le.mp hr]
      rw [hprotect]
      exact ⟨p, n + 1, .refused hlt (Nat.not_le.mp hr), rfl⟩

/-- Attempts one after another, each with the keys and the number that the one before left. -/
inductive Tries : Protection → UInt64 → List Record → List Attempt → Prop
  | nil (p : Protection) (n : UInt64) : Tries p n [] []
  | cons {p q : Protection} {n m : UInt64} {r : Record} {a : Attempt} {rs : List Record}
    {as : List Attempt} (htried : Tried p n r a q m) (h : Tries q m rs as) : Tries p n (r :: rs) (a :: as)

theorem attempts_tries (h : l.sending = ⟨some p, n, .active⟩) (rs : List Record) :
    Tries p n rs (l.attempts rs) := by
  induction rs generalizing l p n with
  | nil => exact .nil p n
  | cons r rs ih =>
    obtain ⟨q, m, htried, hl⟩ := protect_tried h r
    exact .cons htried (ih hl)

theorem toNat_succ (hn : n < Direction.hardLimit) : (n + 1).toNat = n.toNat + 1 := by
  have hlt : n.toNat < Direction.hardLimit.toNat := UInt64.lt_iff_toNat_lt.mp hn
  have hlimit : Direction.hardLimit.toNat = 18446744073709551614 := rfl
  rw [UInt64.toNat_add, UInt64.toNat_one]
  omega

/-- The keys go on working on whole blocks. -/
theorem Tried.iv (h : Tried p n r a q m) (hiv : p.iv.length = p.key.blockLength) :
    q.iv.length = q.key.blockLength := by
  cases h with
  | sealed hn hr hw =>
    obtain ⟨wire', q', hw', hreopened⟩ := Protection.unprotect_protect n hiv hr
    cases hw.symm.trans hw'
    exact hreopened.iv
  | refused hn hr => exact hiv
  | exhausted hn => exact hiv

/-- Nothing is sealed any more once the numbers have run out. -/
theorem Tries.exhausted (h : Tries p n rs as) (hn : Direction.hardLimit ≤ n) :
    ∀ a ∈ as, a.result = .error .cannotEncrypt := by
  induction h with
  | nil => exact fun a ha => nomatch ha
  | cons htried h ih =>
    cases htried with
    | sealed hlt => exact absurd hn (UInt64.not_le.mpr hlt)
    | refused hlt => exact absurd hn (UInt64.not_le.mpr hlt)
    | exhausted => exact List.forall_mem_cons.mpr ⟨rfl, ih hn⟩

/-- Attempt `i` is made under the number `i` behind the first, as long as there are numbers. -/
theorem Tries.numbered (h : Tries p n rs as) {i : Nat} (ha : as[i]? = some a)
    (hi : n.toNat + i < Direction.hardLimit.toNat) :
    a.number.toNat = n.toNat + i ∧
      (a.result.isOk = true ↔ a.record.payload.length ≤ Record.maxFragment) := by
  induction h generalizing i with
  | nil => cases ha
  | @cons p q n m r b rs as htried h ih =>
    cases i with
    | zero =>
      cases Option.some.inj ha
      cases htried with
      | sealed hn hr hw => exact ⟨rfl, by simp [hr, Except.isOk, Except.toBool]⟩
      | refused hn hr => exact ⟨rfl, by simp [Nat.not_le.mpr hr, Except.isOk, Except.toBool]⟩
      | exhausted hn => exact absurd hi (Nat.not_lt.mpr (UInt64.le_iff_toNat_le.mp hn))
    | succ i =>
      have hsucc : m.toNat = n.toNat + 1 := by
        cases htried with
        | sealed hn => exact toNat_succ hn
        | refused hn => exact toNat_succ hn
        | exhausted hn =>
          have := UInt64.le_iff_toNat_le.mp hn
          omega
      obtain ⟨hnumber, hok⟩ := ih ha (by omega)
      exact ⟨by omega, hok⟩

/-- What was sealed opens to itself under the number it was sealed under. -/
theorem Tries.numberedOpenings (h : Tries p n rs as) (hiv : p.iv.length = p.key.blockLength) :
    numberedOpenings p as = (sealedRecords as).map .ok := by
  induction h with
  | nil => rfl
  | cons htried h ih =>
    have hnext := ih (htried.iv hiv)
    cases htried with
    | sealed hn hr hw =>
      rw [RecordLayer.numberedOpenings]
      simp only [Protection.unprotect_renumbered hiv hw, if_true, hnext]
      rfl
    | refused hn hr => exact hnext
    | exhausted hn => exact hnext

/-- The other side opens a record under the number that it has come to. -/
theorem unprotect_sealed {wire : Record} (hp : peer.receiving = ⟨some p, m, .active⟩)
    (hm : m < Direction.hardLimit) (hiv : p.iv.length = p.key.blockLength)
    (hw : p.protect n r = (.ok wire, q)) :
    (peer.unprotect wire).1 =
      (if p.mac m r.typ r.version r.payload = p.mac n r.typ r.version r.payload then .ok r
        else .error .cannotDecrypt) ∧
    (m = n → (peer.unprotect wire).2.receiving = ⟨some q, m + 1, .active⟩) := by
  have hlayer : peer.unprotect wire = ((peer.receiving.unprotect wire).1,
    { peer with receiving := (peer.receiving.unprotect wire).2 }) := rfl
  rw [hlayer, hp, Direction.unprotect_active (UInt64.not_le.mpr hm),
    Protection.unprotect_renumbered hiv hw]
  refine ⟨rfl, ?_⟩
  rintro rfl
  simp [Except.isOk, Except.toBool]

/-- As far as every attempt succeeds both sides stay in step. -/
theorem Tries.unbroken (h : Tries p n rs (before ++ after)) (hok : ∀ a ∈ before, a.result.isOk = true)
    (hp : peer.receiving = ⟨some p, n, .active⟩) (hiv : p.iv.length = p.key.blockLength)
    (more : List Record) :
    ∃ (q : Protection) (rs' : List Record) (peer' : RecordLayer),
      Tries q (n + UInt64.ofNat before.length) rs' after ∧ q.iv.length = q.key.blockLength ∧
      peer'.receiving = ⟨some q, n + UInt64.ofNat before.length, .active⟩ ∧ q.macKey = p.macKey ∧
      peer.openings (wires before ++ more) =
        before.map (fun a => .ok a.record) ++ peer'.openings more := by
  induction before generalizing p n rs peer with
  | nil => exact ⟨p, rs, peer, by simpa using h, hiv, by simpa using hp, rfl, rfl⟩
  | cons b before ih =>
    obtain ⟨hb, hbefore⟩ := List.forall_mem_cons.mp hok
    cases h with
    | cons htried h =>
      have hiv' := htried.iv hiv
      cases htried with
      | refused hn hr => cases hb
      | exhausted hn => cases hb
      | @sealed wire q hn hr hw =>
        obtain ⟨hopens, hpeer⟩ := unprotect_sealed hp hn hiv hw
        obtain ⟨q', rs', peer', htries, hq, hreceiving, hmac, hrest⟩ := ih h hbefore (hpeer rfl) hiv'
        have hnumber : n + 1 + UInt64.ofNat before.length =
            n + UInt64.ofNat (before.length + 1) := by
          rw [UInt64.ofNat_add, UInt64.add_assoc, UInt64.add_comm 1]
          rfl
        rw [hnumber] at htries hreceiving
        refine ⟨q', rs', peer', htries, hq, hreceiving, hmac.trans (Protection.macKey_of_protect hw), ?_⟩
        rw [if_pos rfl] at hopens
        show (peer.unprotect wire).1 :: (peer.unprotect wire).2.openings (wires before ++ more) = _
        rw [hopens, hrest]
        rfl

/-- The first record that is sealed after some that were refused. -/
theorem Tries.skips {failed : List Attempt} (h : Tries p n rs (failed ++ a :: after))
    (hfailed : ∀ b ∈ failed, b.result.isOk = false) {wire : Record} (ha : a.result = .ok wire) :
    n < Direction.hardLimit ∧ ∃ q, p.protect a.number a.record = (.ok wire, q) := by
  induction failed generalizing n rs with
  | nil =>
    cases h with
    | cons htried h =>
      cases htried with
      | sealed hn hr hw =>
        cases ha
        exact ⟨hn, _, hw⟩
      | refused hn hr => cases ha
      | exhausted hn => cases ha
  | cons b failed ih =>
    obtain ⟨hb, hrest⟩ := List.forall_mem_cons.mp hfailed
    cases h with
    | cons htried h =>
      cases htried with
      | sealed hn hr hw => cases hb
      | refused hn hr => exact ⟨hn, (ih h hrest).2⟩
      | exhausted hn =>
        have hnone := h.exhausted hn a (List.mem_append_right _ List.mem_cons_self)
        cases ha.symm.trans hnone

/-- Failures leave nothing to open. -/
theorem wires_append_failed {failed : List Attempt} (h : ∀ b ∈ failed, b.result.isOk = false) :
    wires (before ++ failed) = wires before := by
  have hnone : wires failed = [] := by
    rw [wires, List.filterMap_eq_nil_iff]
    intro b hb
    have hfailed := h b hb
    cases hresult : b.result with
    | ok wire => rw [hresult] at hfailed; cases hfailed
    | error e => rfl
  unfold wires at hnone ⊢
  rw [List.filterMap_append, hnone, List.append_nil]

theorem sealedRecords_append_failed {failed : List Attempt} (hok : ∀ a ∈ before, a.result.isOk = true)
    (h : ∀ b ∈ failed, b.result.isOk = false) :
    sealedRecords (before ++ failed) = before.map Attempt.record := by
  rw [sealedRecords, List.filter_append, List.filter_eq_self.mpr hok,
    List.filter_eq_nil_iff.mpr fun b hb => by rw [h b hb]; exact Bool.false_ne_true, List.append_nil]

/-- How a record layer that seals under some keys, from number `n` on, stands to one that opens under the
same keys, from the same number on. -/
structure Tally (l peer : RecordLayer) (p : Protection) (n : UInt64) (rs : List Record) : Prop where
  /-- Each attempt uses up a number, whether its record fits and is sealed or is too long and refused. -/
  numbered : ∀ (i : Nat) (a : Attempt), (l.attempts rs)[i]? = some a →
    n.toNat + i < Direction.hardLimit.toNat → a.number.toNat = n.toNat + i ∧
      (a.result.isOk = true ↔ a.record.payload.length ≤ Record.maxFragment)
  /-- Whatever was sealed opens to itself under the number of its attempt. -/
  counting : RecordLayer.numberedOpenings p (l.attempts rs) =
    (sealedRecords (l.attempts rs)).map .ok
  /-- The other side gives back what was sealed before the first failure. -/
  unbroken : ∀ before after : List Attempt, l.attempts rs = before ++ after →
    (∀ a ∈ before, a.result.isOk = true) →
      peer.openings (wires before) = before.map fun a => .ok a.record
  /-- So if nothing is sealed after the first failure, it gives back exactly what was sealed. -/
  exact : ∀ before failed : List Attempt, l.attempts rs = before ++ failed →
    (∀ a ∈ before, a.result.isOk = true) → (∀ b ∈ failed, b.result.isOk = false) →
      peer.openings (wires (l.attempts rs)) = (sealedRecords (l.attempts rs)).map .ok
  /-- It refuses what is sealed next after a failure, unless the data has the same code under the number
  that it has come to. -/
  broken : ∀ (before failed after : List Attempt) (a : Attempt) (wire : Record),
    l.attempts rs = before ++ (failed ++ a :: after) → (∀ b ∈ before, b.result.isOk = true) →
    (∀ b ∈ failed, b.result.isOk = false) → a.result = .ok wire →
      peer.openings (wires before ++ [wire]) = before.map (fun b => .ok b.record) ++
        [if p.mac (n + UInt64.ofNat before.length) a.record.typ a.record.version a.record.payload =
            p.mac a.number a.record.typ a.record.version a.record.payload then .ok a.record
          else .error .cannotDecrypt]

/-- A record layer goes on after it has refused a record, but the other side only follows as far as nothing
was refused. -/
theorem opened_until_refused (hl : l.sending = ⟨some p, n, .active⟩)
    (hpeer : peer.receiving = ⟨some p, n, .active⟩) (hiv : p.iv.length = p.key.blockLength)
    (rs : List Record) : Tally l peer p n rs := by
  have htries := attempts_tries hl rs
  have hunbroken : ∀ before after : List Attempt, l.attempts rs = before ++ after →
      (∀ a ∈ before, a.result.isOk = true) →
        peer.openings (wires before) = before.map fun a => .ok a.record := by
    intro before after hattempts hok
    obtain ⟨q, rs', peer', -, -, -, -, hopenings⟩ := (hattempts ▸ htries).unbroken hok hpeer hiv []
    simpa [openings] using hopenings
  constructor
  case numbered => exact fun i a ha hi => htries.numbered ha hi
  case counting => exact htries.numberedOpenings hiv
  case unbroken => exact hunbroken
  case exact =>
    intro before failed hattempts hok hfailed
    rw [hattempts, wires_append_failed hfailed, sealedRecords_append_failed hok hfailed, List.map_map]
    exact hunbroken before failed hattempts hok
  case broken =>
    intro before failed after a wire hattempts hok hfailed ha
    obtain ⟨q, rs', peer', hrest, hq, hreceiving, hmac, hopenings⟩ :=
      (hattempts ▸ htries).unbroken hok hpeer hiv [wire]
    obtain ⟨hlimit, q', hw⟩ := hrest.skips hfailed ha
    obtain ⟨hopens, -⟩ := unprotect_sealed hreceiving hlimit hq hw
    have hcode : q.mac = p.mac := by
      unfold Protection.mac
      rw [hmac]
    rw [hcode] at hopens
    rw [hopenings, openings, openings, hopens]

theorem opened_until_refused_once : ∃ (p : Protection) (l peer : RecordLayer),
    Protection.ofKeys .tripleDes (List.replicate 20 1) (List.replicate 24 2) (List.replicate 8 3) = .ok p ∧
    l.sending = ⟨some p, 7, .active⟩ ∧ peer.receiving = ⟨some p, 7, .active⟩ ∧
    p.iv.length = p.key.blockLength ∧
    Tally l peer p 7 [⟨.applicationData, .tls1, [97]⟩, ⟨.applicationData, .tls1, List.replicate 16385 0⟩,
      ⟨.applicationData, .tls1, [98]⟩] := by
  have hkey : (List.replicate 24 2 : Bytes).length = BulkCipher.tripleDes.keyLength := rfl
  obtain ⟨p, hp⟩ := Protection.ofKeys_ok hkey (List.replicate 20 1) (List.replicate 8 3)
  obtain ⟨hblock, hiv⟩ := Protection.of_ofKeys hp
  have hlength : p.iv.length = p.key.blockLength := by
    rw [hblock, hiv]
    rfl
  exact ⟨p, { sending := ⟨some p, 7, .active⟩ }, { receiving := ⟨some p, 7, .active⟩ }, hp, rfl, rfl, hlength,
    opened_until_refused rfl rfl hlength _⟩

end RecordLayer

end TlsClient
