import TlsClient.Proofs.Cipher.Reopening
import TlsClient.Proofs.Prf

/-!
# Client and server derive the same keys

A server derives its keys on its own: the master secret from the premaster secret and the two randoms, and
from the master secret a stream of key material, of which each key is the stretch behind the one before
(`Server.keys`).  What the client cuts from its key material are the same stretches, so each side opens
what the other seals (`schedules_agree`).
-/

namespace TlsClient

/-! ## What one pair of keys seals, another opens -/

namespace Protection

variable {p : Protection} {seq : UInt64} {rs sealed : List Record}

theorem length_of_seals (h : (run protect p seq rs).map Prod.fst = sealed.map .ok) :
    ∀ r ∈ rs, r.payload.length ≤ Record.maxFragment := by
  induction rs generalizing p seq sealed with
  | nil => exact fun r hr => nomatch hr
  | cons r rs ih =>
    cases sealed with
    | nil => cases h
    | cons wire sealed =>
      obtain ⟨hr, hrs⟩ := List.cons.inj h
      exact List.forall_mem_cons.mpr ⟨length_of_protect (Prod.ext hr rfl), ih hrs⟩

/-- Whatever is not too long is sealed, under consecutive numbers from any start, and what is sealed is
opened to itself by the other side. -/
structure Unlocks (opener sealer : Protection) : Prop where
  seals : ∀ (seq : UInt64) (rs : List Record), (∀ r ∈ rs, r.payload.length ≤ Record.maxFragment) →
    ∃ sealed : List Record, (run protect sealer seq rs).map Prod.fst = sealed.map .ok
  opens : ∀ (seq : UInt64) (rs sealed : List Record),
    (run protect sealer seq rs).map Prod.fst = sealed.map .ok →
      (run unprotect opener seq sealed).map Prod.fst = rs.map .ok

/-- The same keys open what they sealed. -/
theorem unlocks_self (hiv : p.iv.length = p.key.blockLength) : Unlocks p p where
  seals seq rs hrs := by
    obtain ⟨sealed, h⟩ := exists_reopens hiv hrs seq
    exact ⟨sealed, h.seals⟩
  opens seq rs sealed hseals := by
    obtain ⟨sealed', h⟩ := exists_reopens hiv (length_of_seals hseals) seq
    have heq : sealed = sealed' :=
      List.map_injective_iff.mpr (fun _ _ h => Except.ok.inj h) (hseals.symm.trans h.seals)
    exact heq ▸ h.opens

/-- Keys of the right lengths can be put in place, and open what they sealed. -/
theorem exists_unlocks {bulk : BulkCipher} {key iv : Bytes} (hkey : key.length = bulk.keyLength)
    (hiv : iv.length = bulk.blockLength) (macKey : Bytes) :
    ∃ p, ofKeys bulk macKey key iv = .ok p ∧ Unlocks p p := by
  obtain ⟨p, hp⟩ := ofKeys_ok hkey macKey iv
  obtain ⟨hblock, hivp⟩ := of_ofKeys hp
  exact ⟨p, hp, unlocks_self (by rw [hivp, hiv, hblock])⟩

end Protection

/-! ## The keys of a server -/

/-- What a server derives its keys from, once it has the premaster secret. -/
structure Server where
  premaster : Bytes
  randoms : Randoms
  suite : Suite

namespace Server

variable (s : Server)

/-- The master secret: 48 bytes for the two randoms, the client's first. -/
def master : Bytes :=
  Prf.stretch s.premaster
    (Bytes.ofString "master secret" ++ (s.randoms.client.bytes ++ s.randoms.server.bytes)) 0 48

/-- A stretch of the key material, which the master secret gives for the two randoms, the server's
first. -/
def material (start length : Nat) : Bytes :=
  Prf.stretch s.master
    (Bytes.ofString "key expansion" ++ (s.randoms.server.bytes ++ s.randoms.client.bytes)) start length

/-- The keys of both directions, each behind the one before. -/
def keys : KeyBlock :=
  let key := s.suite.bulk.keyLength
  let block := s.suite.bulk.blockLength
  { clientMac := s.material 0 20
    serverMac := s.material 20 20
    clientKey := s.material 40 key
    serverKey := s.material (40 + key) key
    clientIv := s.material (40 + key + key) block
    serverIv := s.material (40 + key + key + block) block }

/-- What opens the records of the client. -/
def opening : Except TlsError Protection :=
  Protection.ofKeys s.suite.bulk s.keys.clientMac s.keys.clientKey s.keys.clientIv

/-- What seals the records for the client. -/
def sealing : Except TlsError Protection :=
  Protection.ofKeys s.suite.bulk s.keys.serverMac s.keys.serverKey s.keys.serverIv

end Server

/-! ## The keys of a client -/

/-- How the secrets of a client stand to a server. -/
structure Secrets.Agrees (c : Secrets) (s : Server) : Prop where
  master : c.master = s.master
  keys : c.keyBlock = s.keys
  /-- The six keys are the whole key material, in this order, and nothing else. -/
  whole : c.keyBlock.clientMac ++ c.keyBlock.serverMac ++ c.keyBlock.clientKey ++ c.keyBlock.serverKey
    ++ c.keyBlock.clientIv ++ c.keyBlock.serverIv = s.material 0 s.suite.keyBlockLength
  toServer : ∃ sealer opener, c.sending = .ok sealer ∧ s.opening = .ok opener ∧ opener.Unlocks sealer
  toClient : ∃ sealer opener, s.sealing = .ok sealer ∧ c.receiving = .ok opener ∧ opener.Unlocks sealer

variable (premaster : Bytes) (randoms : Randoms) (suite : Suite)

theorem Secrets.keyBlock_eq :
    (ofPremaster premaster randoms suite).keyBlock = Server.keys ⟨premaster, randoms, suite⟩ := by
  have hmaster : (ofPremaster premaster randoms suite).master =
      Server.master ⟨premaster, randoms, suite⟩ := prf_eq_stretch ..
  have hpiece (start length : Nat) (h : start + length ≤ suite.keyBlockLength) :
      ((prf (ofPremaster premaster randoms suite).master (Bytes.ofString "key expansion")
        (randoms.server.bytes ++ randoms.client.bytes) suite.keyBlockLength).drop start).take length =
      Server.material ⟨premaster, randoms, suite⟩ start length := by
    rw [prf_eq_stretch, Prf.take_drop_stretch _ _ h, Nat.zero_add, hmaster]
    rfl
  have hlength : suite.keyBlockLength = (20 + suite.bulk.keyLength + suite.bulk.blockLength) * 2 := rfl
  have htwice : 40 + suite.bulk.keyLength + suite.bulk.keyLength =
      2 * 20 + 2 * suite.bulk.keyLength := by omega
  unfold keyBlock Server.keys
  simp only [show (ofPremaster premaster randoms suite).suite = suite from rfl,
    show (ofPremaster premaster randoms suite).randoms = randoms from rfl, macLength]
  rw [hpiece _ _ (by omega), hpiece _ _ (by omega), hpiece _ _ (by omega), hpiece _ _ (by omega),
    hpiece _ _ (by omega), hpiece _ _ (by omega), htwice]

namespace Server

variable (s : Server)

/-- The keys of a server are the whole of its key material. -/
theorem append_keys :
    s.keys.clientMac ++ s.keys.serverMac ++ s.keys.clientKey ++ s.keys.serverKey ++ s.keys.clientIv
      ++ s.keys.serverIv = s.material 0 s.suite.keyBlockLength := by
  have happend (start m n : Nat) :
      s.material start m ++ s.material (start + m) n = s.material start (m + n) :=
    Prf.stretch_append ..
  have hlength : s.suite.keyBlockLength = 20 + 20 + s.suite.bulk.keyLength + s.suite.bulk.keyLength
      + s.suite.bulk.blockLength + s.suite.bulk.blockLength := by
    rw [Suite.keyBlockLength, macLength]
    omega
  rw [hlength, ← happend, ← happend, ← happend, ← happend, ← happend]
  simp only [keys, Nat.zero_add, Nat.reduceAdd]

theorem exists_opening : ∃ p, s.opening = .ok p ∧ p.Unlocks p :=
  Protection.exists_unlocks (Prf.length_stretch ..) (Prf.length_stretch ..) _

theorem exists_sealing : ∃ p, s.sealing = .ok p ∧ p.Unlocks p :=
  Protection.exists_unlocks (Prf.length_stretch ..) (Prf.length_stretch ..) _

end Server

/-- The secrets that follow from a premaster secret mirror those of a server with the same premaster
secret, randoms and suite, and always give keys. -/
theorem schedules_agree :
    (Secrets.ofPremaster premaster randoms suite).Agrees ⟨premaster, randoms, suite⟩ := by
  have hkeys := Secrets.keyBlock_eq premaster randoms suite
  have hsending : (Secrets.ofPremaster premaster randoms suite).sending =
      Server.opening ⟨premaster, randoms, suite⟩ :=
    congrArg (fun k : KeyBlock => Protection.ofKeys suite.bulk k.clientMac k.clientKey k.clientIv) hkeys
  have hreceiving : (Secrets.ofPremaster premaster randoms suite).receiving =
      Server.sealing ⟨premaster, randoms, suite⟩ :=
    congrArg (fun k : KeyBlock => Protection.ofKeys suite.bulk k.serverMac k.serverKey k.serverIv) hkeys
  obtain ⟨p, hp, hunlocks⟩ := Server.exists_opening ⟨premaster, randoms, suite⟩
  obtain ⟨q, hq, hunlocked⟩ := Server.exists_sealing ⟨premaster, randoms, suite⟩
  constructor
  case master => exact prf_eq_stretch ..
  case keys => exact hkeys
  case whole => rw [hkeys, Server.append_keys]
  case toServer => exact ⟨p, p, hsending.trans hp, hp, hunlocks⟩
  case toClient => exact ⟨q, q, hq, hreceiving.trans hq, hunlocked⟩

end TlsClient
