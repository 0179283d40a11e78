import TlsClient.Proofs.Stream.Turning

/-!
# Reading from a stream

A stream ends its handshake and writes what waits (`completePrior_eq`), and then reads in a loop
(`readUpTo_succ`): as long as more is wanted and something comes, it completes what there is to do.  What
completing comes to in order (`completeIo_ok`) tells what each pass of that loop does (`goes_reading_inv`), and
the loop comes to an end with what the transport supplies (`readUpTo_loops`).
-/

namespace TlsClient

open Relation (ReflTransGen)

/-- Nothing more is wanted by a connection that has failed. -/
theorem Connection.ok_of_wantsRead {c : Connection} (h : c.wantsRead = true) :
    ∃ stage, c.stage = .ok stage := by
  cases hstage : c.stage with
  | ok stage => exact ⟨stage, rfl⟩
  | error e =>
    rw [wantsRead, hstage] at h
    cases h

namespace Stream

variable {s s' s₁ s₂ : Stream} {n w : Nat}

theorem Flushes.isHandshaking (h : s.Flushes w s') :
    s'.connection.isHandshaking = s.connection.isHandshaking := by
  rw [h.connection]
  rfl

/-- If something waited, something was written. -/
theorem Flushes.pos (h : s.Flushes w s') (hsolid : s.connection.session.outgoing.Solid)
    (hwants : s.connection.wantsWrite = true) : 0 < w := by
  have hwaits : s.connection.session.outgoing.isEmpty = false := by
    simpa [Connection.wantsWrite, Session.wantsWrite] using hwants
  rw [h.count]
  exact Nat.lt_of_lt_of_le (hsolid.offer_pos hwaits) s.connection.session.outgoing.offer_prefix.length_le

end Stream

namespace Transfer

variable {s s' s₁ : Stream} {was : Bool} {moved : Nat × Nat} {n : Nat}

/-! ## What completing comes to -/

theorem reached_completeIo {x : Except IoError (Nat × Nat)} (h : s.connection.Reached)
    (hrun : completeIo.run s = (x, s')) : s'.connection.Reached := by
  have hreached := runs_completeIo.reached h
  rwa [hrun] at hreached

/-- Where completing comes to anything in order, the transport has not failed before. -/
theorem up_of_completeIo (hrun : completeIo.run s = (.ok moved, s')) (why : IoError) :
    s.connection.stage ≠ .error (.transport why) := by
  intro hwhy
  rw [completeIo_refused hwhy] at hrun
  cases hrun

/-- No turn follows on another after the handshake. -/
theorem eq_of_goes {p q : (Nat × Nat) × Stream} (hp : p.2.connection.Reached)
    (h : ReflTransGen (Goes (turn false)) p q) : q = p := by
  rcases h.cases_head with rfl | ⟨p', hfirst, -⟩
  · rfl
  · exact absurd (goes_turn hp hfirst).1 (by decide)

/-- Every turn counts what it reads, and asks the transport for no write twice. -/
theorem turns_count {q : (Nat × Nat) × Stream} (h : s.connection.Reached)
    (hgoes : ReflTransGen (Goes (turn was)) ((0, 0), s) q) :
    q.2.connection.Reached ∧ q.1.1 + q.2.transport.readable = s.transport.readable ∧
      q.2.transport.acceptances <:+ s.transport.acceptances := by
  refine goes_keeps (I := fun q => q.2.connection.Reached ∧
    q.1.1 + q.2.transport.readable = s.transport.readable ∧
    q.2.transport.acceptances <:+ s.transport.acceptances) ?_ hgoes ⟨h, Nat.zero_add _, List.suffix_rfl⟩
  rintro p q ⟨hp, hcount, hsuffix⟩ hpass
  obtain ⟨-, hq, -, -, hmoved, -, hless⟩ := goes_turn hp hpass
  exact ⟨hq, hmoved.trans hcount, hless.trans hsuffix⟩

/-- What completing comes to in order: the handshake is over, and either something has been written after it or
all that has arrived has been taken in. -/
theorem completeIo_ok (h : s.connection.Reached) (hrun : completeIo.run s = (.ok moved, s')) :
    s'.connection.isHandshaking = false ∧
      moved.1 + s'.transport.readable = s.transport.readable ∧
      s'.transport.acceptances <:+ s.transport.acceptances ∧
      (s.connection.isHandshaking = false ∧ moved.1 = 0 ∧ s.Flushes moved.2 s' ∨ s'.connection.Settled) := by
  obtain ⟨q, hgoes, hends⟩ := completeIo_loops h (up_of_completeIo hrun)
  obtain ⟨hq, hcount, hsuffix⟩ := turns_count h hgoes
  rw [hrun] at hends
  cases hends with
  | returns hlast =>
    have hturned := q.2.turn_turned s.connection.isHandshaking q.1
    rw [hlast] at hturned
    cases hturned with
    | @written w s₁ hwrite hwas hw =>
      rw [hwas] at hgoes
      obtain rfl := eq_of_goes h hgoes
      have hflushes : s.Flushes (0 + w) s' := by
        rw [Nat.zero_add]
        exact writeAll_ok h.regular.outgoing hwrite
      refine ⟨hflushes.isHandshaking.trans hwas, ?_, hflushes.acceptances, .inl ⟨hwas, rfl, hflushes⟩⟩
      rw [hflushes.readable, Nat.zero_add]
    | @concludes w n s₁ s₂ io c hwrite hgo hfetch hprocess hover =>
      have hflushes := writeAll_ok hq.regular.outgoing hwrite
      obtain ⟨hfetched, hsame, -⟩ := hfetch.moves
      refine ⟨?_, ?_, ?_, .inr (Connection.process_settled hprocess)⟩
      · rcases hover with hwas | hover
        · rw [hwas] at hgoes
          obtain rfl := eq_of_goes h hgoes
          exact hfetch.concluded (hflushes.isHandshaking.trans hwas) hprocess
        · exact hover
      · have hbytes := hflushes.readable
        show q.1.1 + n + s₂.transport.readable = _
        omega
      · show s₂.transport.acceptances <:+ _
        rw [hsame]
        exact hflushes.acceptances.trans hsuffix

/-- After the handshake completing does no more than to write, if anything waits. -/
theorem completeIo_writes (h : s.connection.Reached) (hover : s.connection.isHandshaking = false)
    (hwants : s.connection.wantsWrite = true) (hup : ∀ why, s.connection.stage ≠ .error (.transport why)) :
    completeIo.run s = (writeAll >>= fun w => pure (0, w)).run s := by
  have hrun : completeIo.run s = (turns false (s.transport.readable + 2) 0 0).run s := by
    unfold completeIo
    rw [run_bind_get, hover]
    split
    · next why hwhy => exact absurd hwhy (hup why)
    · rfl
  rw [hrun, turns_succ _ _ (0, 0), turn]
  rcases hwrite : writeAll.run s with ⟨e | w, s₁⟩
  · rw [run_bind_of_error hwrite, run_bind_of_error (run_bind_of_error hwrite)]
  · have hpos := (writeAll_ok h.regular.outgoing hwrite).pos h.regular.outgoing hwants
    have hfirst : (turn false (0, 0)).run s = (.ok (.inl (0, w)), s₁) := by
      rw [turn, run_bind_of_ok hwrite]
      simp only [Nat.zero_add, Bool.not_false, Bool.true_and, decide_eq_true_eq, if_pos hpos]
      rfl
    rw [run_bind_of_ok hwrite]
    exact run_bind_of_ok hfirst

theorem completeIo_waiting (h : s.connection.Reached) (hover : s.connection.isHandshaking = false)
    (hwants : s.connection.wantsWrite = true) (hrun : completeIo.run s = (.ok moved, s')) :
    moved.1 = 0 ∧ s.Flushes moved.2 s' := by
  rw [completeIo_writes h hover hwants (up_of_completeIo hrun)] at hrun
  obtain ⟨w, s₁, hwrite, hrest⟩ := ok_of_bind hrun
  cases hrest
  exact ⟨rfl, writeAll_ok h.regular.outgoing hwrite⟩

/-! ## What comes first -/

/-- Ends the handshake, if it is not over. -/
def conclude : Transfer Unit := do
  if ← ask Connection.isHandshaking then let _ ← completeIo

/-- Writes what waits to be written, if anything does. -/
def settle : Transfer Unit := do
  if ← ask Connection.wantsWrite then let _ ← completeIo

theorem completePrior_eq : completePrior = conclude >>= fun _ => settle := by
  rw [completePrior, conclude]
  simp only [bind_assoc]
  congr 1
  funext handshaking
  split
  · simp only [bind_assoc, pure_bind]
    rfl
  · rfl

theorem runs_conclude : Runs conclude := by
  apply runs_bind (runs_ask _)
  intro handshaking
  split
  · exact runs_bind runs_completeIo fun _ => runs_pure _
  · exact runs_pure _

theorem conclude_ok (h : s.connection.Reached) (hrun : conclude.run s = (.ok (), s')) :
    s'.connection.isHandshaking = false ∧ s'.transport.acceptances <:+ s.transport.acceptances := by
  unfold conclude at hrun
  rw [run_bind_ask] at hrun
  split at hrun
  · obtain ⟨moved, s₁, hcomplete, hrest⟩ := ok_of_bind hrun
    cases hrest
    obtain ⟨hover, -, hsuffix, -⟩ := completeIo_ok h hcomplete
    exact ⟨hover, hsuffix⟩
  · next hover =>
    cases hrun
    exact ⟨Bool.eq_false_iff.mpr hover, List.suffix_rfl⟩

/-- After the handshake nothing but writing is left to settle. -/
theorem settle_ok (h : s.connection.Reached) (hover : s.connection.isHandshaking = false)
    (hrun : settle.run s = (.ok (), s')) :
    s'.connection.isHandshaking = false ∧ s'.connection.wantsWrite = false := by
  unfold settle at hrun
  rw [run_bind_ask] at hrun
  split at hrun
  · next hwants =>
    obtain ⟨moved, s₁, hcomplete, hrest⟩ := ok_of_bind hrun
    cases hrest
    obtain ⟨-, hflushes⟩ := completeIo_waiting h hover hwants hcomplete
    exact ⟨hflushes.isHandshaking.trans hover, hflushes.idle⟩
  · next hidle =>
    cases hrun
    exact ⟨hover, Bool.eq_false_iff.mpr hidle⟩

/-- Before anything is read the handshake is over, and nothing waits to be written. -/
theorem completePrior_ok (h : s.connection.Reached) (hrun : completePrior.run s = (.ok (), s')) :
    s'.connection.Reached ∧ s'.connection.isHandshaking = false ∧ s'.connection.wantsWrite = false := by
  have hreached := runs_completePrior.reached h
  rw [hrun] at hreached
  rw [completePrior_eq] at hrun
  obtain ⟨u, s₁, hconclude, hsettle⟩ := ok_of_bind hrun
  have hs₁ := runs_conclude.reached h
  rw [hconclude] at hs₁
  exact ⟨hreached, settle_ok hs₁ (conclude_ok h hconclude).1 hsettle⟩

/-! ## The loop -/

/-- One pass of reading: completing, as long as more is wanted and something comes. -/
def reading (n : Nat) (_ : Unit) : Transfer (Bytes ⊕ Unit) := do
  if !(← ask Connection.wantsRead) then return .inl (← act fun c => c.read n)
  else if (← completeIo).1 ≠ 0 then return .inr ()
  else
    match ← process with
    | .ok io => if io.toRead = 0 then return .inl [] else return .inl (← act fun c => c.read n)
    | .error _ => return .inl (← act fun c => c.read n)

theorem readUpTo_succ (n fuel : Nat) :
    readUpTo n (fuel + 1) = reading n () >>= proceed fun _ => readUpTo n fuel := by
  rw [readUpTo, reading]
  simp only [bind_assoc]
  congr 1
  funext wants
  split
  · rw [bind_assoc]
    exact (bind_pure _).symm
  · rw [bind_assoc]
    congr 1
    funext moved
    split
    · rfl
    · rw [bind_assoc]
      congr 1
      funext result
      cases result with
      | ok io =>
        dsimp only
        split
        · rfl
        · rw [bind_assoc]
          exact (bind_pure _).symm
      | error e =>
        rw [bind_assoc]
        exact (bind_pure _).symm

/-- A pass that goes on wanted more and has read something. -/
theorem goes_reading_inv {p q : Unit × Stream} (h : Goes (reading n) p q) :
    p.2.connection.wantsRead = true ∧ ∃ moved, completeIo.run p.2 = (.ok moved, q.2) ∧ moved.1 ≠ 0 := by
  unfold Goes reading at h
  rw [run_bind_ask] at h
  split at h
  · obtain ⟨bs, s, -, hrest⟩ := ok_of_bind h
    cases hrest
  · next hwants =>
    obtain ⟨moved, s, hcomplete, hrest⟩ := ok_of_bind h
    split at hrest
    · next hsome =>
      cases hrest
      exact ⟨by simpa using hwants, moved, hcomplete, hsome⟩
    · rw [run_bind_process] at hrest
      split at hrest
      · split at hrest
        · cases hrest
        · obtain ⟨bs, s, -, hlast⟩ := ok_of_bind hrest
          cases hlast
      · obtain ⟨bs, s, -, hlast⟩ := ok_of_bind hrest
        cases hlast

/-- A pass of reading that goes on uses up something of what the transport supplies. -/
theorem goes_reading {p q : Unit × Stream} (hp : p.2.connection.Reached) (h : Goes (reading n) p q) :
    q.2.connection.Reached ∧ q.2.transport.readable < p.2.transport.readable ∧
      q.2.connection.isHandshaking = false := by
  obtain ⟨-, moved, hcomplete, hsome⟩ := goes_reading_inv h
  obtain ⟨hover, hcount, -⟩ := completeIo_ok hp hcomplete
  exact ⟨reached_completeIo hp hcomplete, by omega, hover⟩

/-- Reading is a loop. -/
theorem readUpTo_loops (h : s.connection.Reached) :
    Loops (reading n) ((), s) ((readUpTo n (s.transport.readable + 2)).run s) := by
  refine loops_of_fuel (p := ((), s)) (k := 1) (m := fun p => p.2.transport.readable)
    (f := fun fuel _ => readUpTo n fuel) (I := fun p => p.2.connection.Reached)
    (fun p _ hnone => absurd hnone (Nat.succ_ne_zero _)) (fun fuel _ => readUpTo_succ n fuel)
    (fun p q hp hgoes => ?_) h (Nat.le_succ _)
  obtain ⟨hq, hless, -⟩ := goes_reading hp hgoes
  exact ⟨hq, hless⟩

/-- What comes first decides whether a read begins. -/
theorem read_loops (h : s.connection.Reached) (hrun : completePrior.run s = (.ok (), s₁)) :
    Loops (reading n) ((), s₁) ((read n).run s) := by
  obtain ⟨hs₁, -, -⟩ := completePrior_ok h hrun
  unfold read
  rw [run_bind_of_ok hrun, run_bind_get]
  exact readUpTo_loops hs₁

end Transfer

end TlsClient
