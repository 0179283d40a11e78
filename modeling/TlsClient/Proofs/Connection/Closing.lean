import TlsClient.Proofs.Connection.Standing

/-!
# What follows a close notification

A client says that it will send nothing more when its user closes it, or as its last word to a server that
has closed.  What it still says after its user closed it is known: the data that had waited for the end of
the handshake, and of warnings only that there will be no other handshake (`closing_concluded`).
-/

namespace TlsClient

open Dialogue (MayFollow)

namespace Session

variable {s : Session}

/-- A session that is open and closed by its user says so, and keeps what waits. -/
theorem said_sendClose (h : s.status = .opened) (hable : s.Able) (hb : s.sendClose.InBounds) :
    s.sendClose.said = s.said ++ [Alert.record ⟨.warning, .closeNotify⟩] := by
  rw [((sendClose_closing h).1.said (able_leaving hable h) (.inl hb)).2, said, sent_leaving]
  rfl

end Session

namespace Connection

variable {c : Connection} {config : Config} {time : Int} {random : RandomSource}

/-- The records that a run has added to those of a run before. -/
theorem run_said (h : Connection.start config time random = .ok c) (calls later : List Call) :
    ∃ more, (c.run (calls ++ later)).session.said = (c.run calls).session.said ++ more := by
  obtain ⟨more, hmore⟩ := (run_speaks h calls later).sent
  exact ⟨more.map Prod.fst, by rw [Session.said, ← hmore, List.map_append, Session.said]⟩

/-- Where a list holds one element of some kind and a front of it holds one, the front holds that one. -/
theorem split_of_count {α : Type} {p : α → Bool} {xs ys before after : List α} {x : α}
    (hone : (xs ++ ys).countP p ≤ 1) (hxs : xs.countP p ≠ 0) (hsplit : xs ++ ys = before ++ x :: after)
    (hx : p x = true) : ∃ mid, xs = before ++ x :: mid ∧ after = mid ++ ys := by
  have hfront : ∀ zs, ys ≠ zs ++ x :: after := by
    rintro zs rfl
    rw [List.countP_append, List.countP_append, List.countP_cons_of_pos hx] at hone
    omega
  rcases List.append_eq_append_iff.mp hsplit with ⟨zs, -, hys⟩ | ⟨zs, hxs', hys⟩
  · exact absurd hys (hfront zs)
  · cases zs with
    | nil => exact absurd hys.symm (hfront [])
    | cons z zs =>
      obtain ⟨rfl, rfl⟩ := List.cons.inj hys
      exact ⟨zs, hxs', rfl⟩

/-- The call that brings the first close notification: it comes from the server's side and is the last
word, or the user closes the connection. -/
theorem closed_by_call (h : Connection.start config time random = .ok c) {calls : List Call} {call : Call}
    (hb : (c.run (calls ++ [call])).session.InBounds)
    (hnone : (c.run calls).session.dialogue.closes = 0) {before after : List Record} {r : Record}
    (hsplit : (c.run (calls ++ [call])).session.said = before ++ r :: after)
    (hr : r.isCloseNotify = true) :
    (c.run (calls ++ [call])).session.status = .closed ∧ after = [] ∨
      call = .close ∧ (c.run calls).session.status = .opened ∧ (c.run calls).session.said = before ∧
        (c.run (calls ++ [.close])).session.said = before ++ [r] := by
  have ho := (run_orderly h calls).1
  have hturns := (run_call h calls call).dialogue ho.able hb
  cases call with
  | write bs =>
    have hcloses := (Dialogue.closes_of_writes hturns).trans hnone
    exact absurd hr (Dialogue.not_of_count hcloses hsplit)
  | close =>
    have hrun : c.run (calls ++ [.close]) = (c.run calls).close := run_append c calls [.close]
    rw [hrun] at hsplit hb
    by_cases hopen : (c.run calls).session.status = .opened
    · have hsaid : (c.run calls).close.session.said = _ := Session.said_sendClose hopen ho.able hb
      rw [hsaid] at hsplit
      obtain rfl := Dialogue.last_of_count hnone hsplit hr
      obtain ⟨hbefore, hlast⟩ := List.append_singleton_inj.mp hsplit
      refine .inr ⟨rfl, hopen, hbefore, ?_⟩
      rw [hrun, hsaid, hbefore, hlast]
    · have hsame : (c.run calls).close.session = (c.run calls).session :=
        Session.sendClose_refused hopen
      rw [hsame] at hsplit
      exact absurd hr (Dialogue.not_of_count hnone hsplit)
  | readTls t => exact .inl (Dialogue.last_of_serves hturns hnone hsplit hr)
  | writeTls t => exact .inl (Dialogue.last_of_serves hturns hnone hsplit hr)
  | process => exact .inl (Dialogue.last_of_serves hturns hnone hsplit hr)
  | read n => exact .inl (Dialogue.last_of_serves hturns hnone hsplit hr)

/-- A close notification was the answer to the server's and the last word, or its user closed the
connection at that point. -/
theorem closed_at (h : Connection.start config time random = .ok c) (calls : List Call)
    (hb : (c.run calls).session.InBounds) {before after : List Record} {r : Record}
    (hsplit : (c.run calls).session.said = before ++ r :: after) (hr : r.isCloseNotify = true) :
    (c.run calls).session.status = .closed ∧ after = [] ∨
      ∃ earlier later, calls = earlier ++ .close :: later ∧
        (c.run earlier).session.status = .opened ∧ (c.run earlier).session.said = before ∧
        (c.run (earlier ++ [.close])).session.said = before ++ [r] := by
  induction calls using List.reverseRecOn generalizing before r after with
  | nil =>
    have hspeaks := (start_stands h).1
    exact .inl (Dialogue.last_of_serves (hspeaks.dialogue (Session.orderly_new random).able hb) rfl
      hsplit hr)
  | append_singleton calls call ih =>
    by_cases hnone : (c.run calls).session.dialogue.closes = 0
    · rcases closed_by_call h hb hnone hsplit hr with hlast | ⟨rfl, hrest⟩
      · exact .inl hlast
      · exact .inr ⟨calls, [], rfl, hrest⟩
    -- the close notification was there before the call
    have hcall := run_call h calls call
    have hb' := hb.of_sent hcall.sent
    obtain ⟨more, hmore⟩ := run_said h calls [call]
    have honce := ((run_orderly h (calls ++ [call])).1.dialogue hb).once
    change (c.run (calls ++ [call])).session.said.countP Record.isCloseNotify ≤ 1 at honce
    rw [hmore] at hsplit honce
    obtain ⟨mid, hbefore, rfl⟩ := split_of_count honce hnone hsplit hr
    rcases ih hb' hbefore hr with ⟨hclosed, rfl⟩ | ⟨earlier, later, rfl, hrest⟩
    · have hturns := hcall.dialogue (run_orderly h calls).1.able hb
      have hsame := Dialogue.eq_of_turns
        (Relation.ReflTransGen.mono (fun _ _ => Call.Turns.turn) _ _ hturns) hclosed
      have hsaid : (c.run (calls ++ [call])).session.said = (c.run calls).session.said :=
        congrArg Dialogue.said hsame
      rw [hmore, List.append_right_eq_self] at hsaid
      exact .inl ⟨(congrArg Dialogue.status hsame).trans hclosed, hsaid⟩
    · exact .inr ⟨earlier, later ++ [call], by simp, hrest⟩

/-- As long as there are numbers for the records, a close notification that a client sends is its answer to
the server's and its last word; or its user closed it, and all that may follow is a fatal alert, the warning
that there will be no other handshake, and data that the user had written before the handshake was over. -/
theorem closing_concluded (h : Connection.start config time random = .ok c) (calls : List Call)
    (hb : (c.run calls).session.InBounds) {before after : List Record} {r : Record}
    (hsplit : (c.run calls).session.said = before ++ r :: after) (hr : r.isCloseNotify = true) :
    (c.run calls).session.status = .closed ∧ after = [] ∨
      ∃ earlier later, calls = earlier ++ .close :: later ∧
        (c.run earlier).session.status = .opened ∧ (c.run earlier).session.said = before ∧
        (∀ x ∈ after, MayFollow x) ∧
        after.filter Record.isData ++ Dialogue.waiting (c.run calls).session.early
          = Dialogue.waiting (c.run earlier).session.early ∧
        ((c.run earlier).session.traffic = true → ∀ x ∈ after, x.isData = false) := by
  rcases closed_at h calls hb hsplit hr with hlast | ⟨earlier, later, rfl, hopen, hbefore, hclose⟩
  · exact .inl hlast
  right
  rw [List.append_cons] at hb hsplit ⊢
  have hspeaks := run_speaks h (earlier ++ [.close]) later
  have hable := (run_orderly h (earlier ++ [.close])).1.able
  have hclosed : (c.run (earlier ++ [.close])).session.status ≠ .opened := run_closed h (by simp)
  obtain ⟨-, more, hmore⟩ := Dialogue.concludes_of_turns (hspeaks.dialogue hable hb) hclosed
  obtain rfl : after = more := by
    have hsaid : (c.run ((earlier ++ [.close]) ++ later)).session.said
        = (c.run (earlier ++ [.close])).session.said ++ more := hmore.said
    rw [hsplit, hclose, List.append_assoc, List.singleton_append] at hsaid
    exact (List.cons.inj (List.append_cancel_left hsaid)).2
  have hearly : (c.run (earlier ++ [.close])).session.early = (c.run earlier).session.early := by
    rw [run_append]
    exact (Session.proceeds_sendClose _).early
  have hdata : after.filter Record.isData
      ++ Dialogue.waiting (c.run (earlier ++ [.close] ++ later)).session.early
        = Dialogue.waiting (c.run earlier).session.early := hearly ▸ hmore.data
  refine ⟨earlier, later, by simp, hopen, hbefore, hmore.follow, hdata, fun ht x hx => ?_⟩
  have hbearlier : (c.run earlier).session.InBounds := by
    rw [List.append_assoc] at hb
    exact hb.of_sent (run_speaks h earlier _).sent
  have hprompt : Dialogue.waiting (c.run earlier).session.early = [] :=
    ((run_orderly h earlier).1.dialogue hbearlier).prompt ht
  rw [hprompt, List.append_eq_nil_iff] at hdata
  exact Bool.eq_false_iff.mpr (List.filter_eq_nil_iff.mp hdata.1 x hx)

/-- The user writes and closes before the server has answered. -/
theorem closing_concluded_closed :
    ∃ c before r after, Connection.start .distrustful 0 (.seeded [] 0 none) = .ok c ∧
      (c.run [.write [1, 2], .close]).session.said = before ++ r :: after ∧
      r.isCloseNotify = true ∧
      ((c.run [.write [1, 2], .close]).session.status = .closed ∧ after = [] ∨
        ∃ earlier later, [.write [1, 2], .close] = earlier ++ .close :: later ∧
          (c.run earlier).session.status = .opened ∧ (c.run earlier).session.said = before ∧
          (∀ x ∈ after, MayFollow x) ∧
          after.filter Record.isData
              ++ Dialogue.waiting (c.run [.write [1, 2], .close]).session.early
            = Dialogue.waiting (c.run earlier).session.early ∧
          ((c.run earlier).session.traffic = true → ∀ x ∈ after, x.isData = false)) := by
  obtain ⟨c, hc⟩ := start_distrustful
  obtain ⟨hlength, hany⟩ : (c.run [.write [1, 2], .close]).session.sent.length = 2 ∧
      (c.run [.write [1, 2], .close]).session.said.any Record.isCloseNotify = true := by
    apply of_start hc
    decide +kernel
  obtain ⟨r, hmem, hr⟩ := List.any_eq_true.mp hany
  obtain ⟨before, after, hsplit⟩ := List.append_of_mem hmem
  have hb : (c.run [.write [1, 2], .close]).session.InBounds :=
    Nat.lt_of_le_of_lt (Nat.le_of_eq hlength) (by decide)
  exact ⟨c, before, r, after, hc, hsplit, hr, closing_concluded hc _ hb hsplit hr⟩

end Connection

end TlsClient
