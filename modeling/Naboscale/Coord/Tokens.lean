import Naboscale.Coord.Parties

/-!
# Revocation

A token enters the database at most once: its handler is done with the insertion, and no other
handler draws the same token. From then on its row only changes to revoked, or goes away, so a
token that is refused for good stays refused.
-/

namespace Naboscale.Coord

open Rust Concurrent

/-! ## What a row may become -/

theorem TokenRecord.Becomes.trans {row row' row'' : TokenRecord} (h : row.Becomes row')
    (h' : row'.Becomes row'') : row.Becomes row'' := by
  obtain rfl | rfl := h
  · exact h'
  · obtain rfl | rfl := h' <;> exact .inr rfl

theorem TokenRecord.Becomes.token {row row' : TokenRecord} (h : row.Becomes row') :
    row'.token = row.token := by
  obtain rfl | rfl := h <;> rfl

theorem TokenRecord.Becomes.nodeId {row row' : TokenRecord} (h : row.Becomes row') :
    row'.nodeId = row.nodeId := by
  obtain rfl | rfl := h <;> rfl

theorem TokenRecord.Becomes.expiresAt {row row' : TokenRecord} (h : row.Becomes row') :
    row'.expiresAt = row.expiresAt := by
  obtain rfl | rfl := h <;> rfl

theorem TokenRecord.Becomes.revoked {row row' : TokenRecord} (h : row.Becomes row')
    (hrevoked : row.revoked = true) : row'.revoked = true := by
  obtain rfl | rfl := h
  · exact hrevoked
  · rfl

/-- A token made with a positive TTL at a time of the clock never has the expiry zero that the
migration replaces, whether or not the sum wraps around. -/
theorem expiresAt_ne_zero [Profile] {createdAt ttlSecs expiresAt : ℤ}
    (hcreated : 0 ≤ createdAt ∧ createdAt < 2 ^ 63) (httl : 0 < ttlSecs ∧ ttlSecs < 2 ^ 63)
    (h : I64.value (createdAt + ttlSecs) = some expiresAt) : expiresAt ≠ 0 := by
  unfold I64.value at h
  split at h
  · have := Option.some.inj h
    omega
  · rename_i hrange
    split at h
    · cases h
    · have hwrap := Option.some.inj h
      unfold I64.InRange at hrange
      rw [I64.wrap, Int.bmod_def] at hwrap
      split at hwrap <;> omega

section

variable [Profile] [CoordCrates]

namespace Server

variable {s t u : Server} {event : Event} {events : List Event} {i : ℕ} {row : TokenRecord}

/-! ## Fresh tokens -/

/-- The token that the handler at an index has drawn. -/
def tokenOf (s : Server) (i : ℕ) : String := (s.drawn i).authToken

/-- The clock does not go back, the TTL is positive, and no token is drawn twice. -/
def Lawful (s : Server) : Event → Prop
  | .spawn _ _ draws => draws.authToken ∉ s.issued
  | .advance _ => True
  | .tick clock _ => s.coord.clock.val ≤ clock.val
  | .restart tokenTtlSecs => 0 < tokenTtlSecs.val

instance (s : Server) : (event : Event) → Decidable (s.Lawful event)
  | .spawn _ _ _ => inferInstanceAs (Decidable (_ ∉ _))
  | .advance _ => inferInstanceAs (Decidable True)
  | .tick _ _ => inferInstanceAs (Decidable (_ ≤ _))
  | .restart _ => inferInstanceAs (Decidable (_ < _))

/-- No handler in flight can make the token, and none will draw it. -/
def Settled (s : Server) (token : String) : Prop :=
  token ∈ s.issued ∧ ∀ i, (s.task i).isRunning = true → s.tokenOf i ≠ token

/-- The invariant of a server whose tokens are fresh. -/
structure Fresh (s : Server) : Prop where
  shape : s.InShape
  ttl : 0 < s.coord.tokenTtlSecs.val
  issued : ∀ i, (s.task i).isRunning = true → s.tokenOf i ∈ s.issued
  apart : ∀ i j, (s.task i).isRunning = true → (s.task j).isRunning = true →
    s.tokenOf i = s.tokenOf j → i = j
  stored : ∀ row ∈ s.coord.db.tokens.rows, s.Settled row.token ∧ row.expiresAt ≠ 0

omit [Profile] in
theorem start_fresh {ttl : I64} (httl : 0 < ttl.val) (clock : Clock) (instant : Instant) :
    (start ttl clock instant).Fresh where
  shape := start_inShape
  ttl := httl
  issued _ hrunning := nomatch hrunning
  apart _ _ hrunning := nomatch hrunning
  stored _ hrow := absurd hrow List.not_mem_nil

/-! ## One step -/

/-- A handler in flight was so before, with the same token, or has just been started. -/
theorem running_of_step (hstep : s.step event = some t) (hrunning : (t.task i).isRunning = true) :
    (s.task i).isRunning = true ∧ t.tokenOf i = s.tokenOf i ∨
      ∃ request draws, event = .spawn i request draws ∧ t.tokenOf i = draws.authToken ∧
        t.issued = draws.authToken :: s.issued := by
  cases event with
  | spawn j request draws =>
      rw [step] at hstep
      split at hstep
      · cases hstep
      · cases hstep
        by_cases hi : i = j
        · subst hi
          have hdrawn : Function.update s.drawn i draws i = draws := Function.update_self ..
          exact .inr ⟨request, draws, rfl, congrArg Draws.authToken hdrawn, rfl⟩
        · have hdrawn : Function.update s.drawn j draws i = s.drawn i :=
            Function.update_of_ne hi ..
          refine .inl ⟨?_, congrArg Draws.authToken hdrawn⟩
          simpa [task, spawn, Pool.assign, hi] using hrunning
  | advance j =>
      cases hstep
      refine .inl ⟨?_, rfl⟩
      by_contra hidle
      by_cases hi : i = j
      · subst hi
        rw [task, Pool.advance_idle (i := i) (Bool.eq_false_iff.2 hidle)] at hrunning
        exact hidle hrunning
      · exact hidle (by simpa [task, Pool.advance, hi] using hrunning)
  | tick clock instant =>
      cases hstep
      exact .inl ⟨hrunning, rfl⟩
  | restart ttl =>
      cases hstep
      cases hrunning

theorem issued_of_step (hstep : s.step event = some t) {token : String} (h : token ∈ s.issued) :
    token ∈ t.issued := by
  cases event with
  | spawn j request draws =>
      rw [step] at hstep
      split at hstep
      · cases hstep
      · cases hstep
        exact List.mem_cons_of_mem _ h
  | _ =>
      cases hstep
      exact h

omit [Profile] in
/-- A handler in shape that makes a token makes the one that it drew, and is done. -/
theorem makes_of_shaped {ttl : I64} {draws : Draws} {op : Op}
    {next : op.Result → Handler Response} {token : String} {createdAt ttlSecs : ℤ}
    (hshape : Shaped ttl draws op next) (hmakes : op.Makes token createdAt ttlSecs) :
    token = draws.authToken ∧ ttlSecs = ttl.val ∧ (0 ≤ createdAt ∧ createdAt < 2 ^ 63) ∧
      ∀ r, (next r).isRunning = false := by
  cases op with
  | insertNode node token' ttlSecs' =>
      obtain ⟨rfl, rfl, rfl⟩ := hmakes
      exact hshape.2
  | createToken nodeId token' createdAt' ttlSecs' =>
      obtain ⟨rfl, rfl, rfl⟩ := hmakes
      exact hshape
  | _ => exact hmakes.elim

/-- A row after a step was there before, possibly active, or is the one that a handler has just
made and was the last to make. -/
theorem Fresh.row_of_step (h : s.Fresh) (hstep : s.step event = some t)
    (hrow : row ∈ t.coord.db.tokens.rows) :
    (∃ before ∈ s.coord.db.tokens.rows, before.Becomes row) ∨
      ∃ i, event = .advance i ∧ (s.task i).isRunning = true ∧ row.token = s.tokenOf i ∧
        row.expiresAt ≠ 0 ∧ (t.task i).isRunning = false := by
  cases event with
  | spawn j request draws =>
      rw [step] at hstep
      split at hstep
      · cases hstep
      · cases hstep
        exact .inl ⟨row, hrow, .inl rfl⟩
  | advance i =>
      cases hstep
      cases htask : s.task i with
      | call op next =>
          have hshape : (Program.call op next).Always
              (Shaped s.coord.tokenTtlSecs (s.drawn i)) := htask ▸ h.shape i
          have hadvance : s.pool.advance Coordinator.handle i = _ := Pool.advance_call htask
          rw [coord, hadvance] at hrow
          obtain hbefore | ⟨createdAt, ttlSecs, hmakes, hvalue⟩ :=
            Coordinator.mem_tokens_handle hrow
          · exact .inl hbefore
          · obtain ⟨htoken, rfl, hcreated, hdone⟩ := makes_of_shaped hshape.1 hmakes
            have httl := s.coord.tokenTtlSecs.property
            refine .inr ⟨i, rfl, by rw [htask]; rfl, htoken,
              expiresAt_ne_zero hcreated ⟨h.ttl, httl.2⟩ hvalue, ?_⟩
            rw [task, hadvance]
            refine (congrArg Program.isRunning (Function.update_self i _ s.pool.tasks)).trans ?_
            cases (Coordinator.handle op s.pool.shared).1 with
            | none => rfl
            | some r => exact hdone r
      | _ =>
          rw [coord, Pool.advance_idle (i := i) (congrArg Program.isRunning htask)] at hrow
          exact .inl ⟨row, hrow, .inl rfl⟩
  | tick clock instant =>
      cases hstep
      exact .inl ⟨row, hrow, .inl rfl⟩
  | restart ttl =>
      cases hstep
      obtain ⟨before, hbefore, rfl⟩ := List.mem_map.1 hrow
      refine .inl ⟨before, hbefore, .inl ?_⟩
      rw [if_neg (h.stored before hbefore).2]

/-- A lawful step does not put the clock back. -/
theorem clock_of_step (hlawful : s.Lawful event) (hstep : s.step event = some t) :
    s.coord.clock.val ≤ t.coord.clock.val := by
  cases event with
  | spawn j request draws =>
      rw [step] at hstep
      split at hstep <;> cases hstep
      exact le_rfl
  | advance j =>
      cases hstep
      cases htask : s.task j with
      | call op next =>
          rw [coord, coord, Pool.advance_call htask]
          exact (congrArg Subtype.val (Coordinator.handle_config op _).2).ge
      | _ => rw [coord, coord, Pool.advance_idle (i := j) (congrArg Program.isRunning htask)]
  | tick clock instant =>
      cases hstep
      exact hlawful
  | restart ttl =>
      cases hstep
      exact le_rfl

theorem Settled.step {token : String} (h : s.Settled token) (hlawful : s.Lawful event)
    (hstep : s.step event = some t) : t.Settled token := by
  refine ⟨issued_of_step hstep h.1, fun i hrunning => ?_⟩
  obtain ⟨hbefore, htoken⟩ | ⟨request, draws, rfl, htoken, -⟩ := running_of_step hstep hrunning
  · exact htoken ▸ h.2 i hbefore
  · rintro rfl
    exact hlawful (htoken ▸ h.1)

theorem Fresh.step (h : s.Fresh) (hlawful : s.Lawful event) (hstep : s.step event = some t) :
    t.Fresh where
  shape := h.shape.step hstep
  ttl := by
    cases event with
    | restart ttl =>
        cases hstep
        exact hlawful
    | _ => exact (ttl_of_step hstep fun _ h => Event.noConfusion h) ▸ h.ttl
  issued i hrunning := by
    obtain ⟨hbefore, htoken⟩ | ⟨_, _, -, htoken, hissued⟩ := running_of_step hstep hrunning
    · exact htoken ▸ issued_of_step hstep (h.issued i hbefore)
    · exact hissued ▸ htoken ▸ List.mem_cons_self
  apart i j hi hj hsame := by
    obtain ⟨hi, hiold⟩ | ⟨_, _, rfl, hinew, -⟩ := running_of_step hstep hi
    · obtain ⟨hj, hjold⟩ | ⟨_, draws, rfl, hjnew, -⟩ := running_of_step hstep hj
      · exact h.apart i j hi hj (hiold ▸ hjold ▸ hsame)
      · have htoken : draws.authToken = s.tokenOf i := hjnew.symm.trans (hsame.symm.trans hiold)
        exact absurd (htoken ▸ h.issued i hi) hlawful
    · obtain ⟨hj, hjold⟩ | ⟨_, _, hspawn, -⟩ := running_of_step hstep hj
      · have htoken : s.tokenOf j = _ := hjold.symm.trans (hsame.symm.trans hinew)
        exact absurd (htoken ▸ h.issued j hj) hlawful
      · exact (Event.spawn.inj hspawn).1
  stored row hrow := by
    obtain ⟨before, hbefore, hbecomes⟩ | ⟨i, rfl, hrunning, htoken, hzero, hdone⟩ :=
      h.row_of_step hstep hrow
    · obtain ⟨hsettled, hzero⟩ := h.stored before hbefore
      exact ⟨hbecomes.token ▸ hsettled.step hlawful hstep, hbecomes.expiresAt ▸ hzero⟩
    · refine ⟨⟨htoken ▸ issued_of_step hstep (h.issued i hrunning), fun j hj hsame => ?_⟩, hzero⟩
      obtain ⟨hbefore, hold⟩ | ⟨_, _, hspawn, -⟩ := running_of_step hstep hj
      · have hji : j = i := h.apart j i hbefore hrunning (hold.symm.trans (hsame.trans htoken))
        rw [hji, hdone] at hj
        cases hj
      · cases hspawn

/-! ## Every run -/

/-- The rows of a settled token, now and when it was settled before. -/
structure Descends (token : String) (s t : Server) : Prop where
  fresh : t.Fresh
  settled : t.Settled token
  rows : ∀ row ∈ t.coord.db.tokens.rows, row.token = token →
    ∃ before ∈ s.coord.db.tokens.rows, before.Becomes row

theorem Descends.step {token : String} (h : Descends token s t) (hlawful : t.Lawful event)
    (hstep : t.step event = some u) : Descends token s u where
  fresh := h.fresh.step hlawful hstep
  settled := h.settled.step hlawful hstep
  rows row hrow htoken := by
    obtain ⟨before, hbefore, hbecomes⟩ | ⟨i, -, hrunning, hmade, -⟩ :=
      h.fresh.row_of_step hstep hrow
    · obtain ⟨first, hfirst, hthen⟩ := h.rows before hbefore (hbecomes.token.symm.trans htoken)
      exact ⟨first, hfirst, hthen.trans hbecomes⟩
    · exact absurd (hmade.symm.trans htoken) (h.settled.2 i hrunning)

/-- In every lawful run a settled token gets no new row. -/
theorem descends_of_run {token : String} (h : s.Fresh) (hsettled : s.Settled token)
    (hlawful : Transition.AllSteps step Lawful s events)
    (hrun : Transition.exec step s events = some t) : Descends token s t :=
  Transition.invariant (fun _ _ _ hI hgood hstep => Descends.step hI hgood hstep)
    ⟨h, hsettled, fun row hrow _ => ⟨row, hrow, .inl rfl⟩⟩ hlawful hrun

theorem fresh_of_run {ttl : I64} {clock : Clock} {instant : Instant} (httl : 0 < ttl.val)
    (hlawful : Transition.AllSteps step Lawful (start ttl clock instant) events)
    (hrun : Transition.exec step (start ttl clock instant) events = some s) : s.Fresh :=
  Transition.invariant (fun _ _ _ hI hgood hstep => hI.step hgood hstep)
    (start_fresh httl clock instant) hlawful hrun

omit [Profile] in
/-- Two rows of one token are the same row. -/
theorem row_eq_of_token {row' : TokenRecord} (hrow : row ∈ s.coord.db.tokens.rows)
    (hrow' : row' ∈ s.coord.db.tokens.rows) (h : row.token = row'.token) : row = row' :=
  s.coord.db.tokens.eq_of_not_apart hrow hrow' fun hapart => hapart h

/-- In a lawful run the clock does not go back. -/
theorem clock_of_run (hlawful : Transition.AllSteps step Lawful s events)
    (hrun : Transition.exec step s events = some t) : s.coord.clock.val ≤ t.coord.clock.val :=
  Transition.invariant (I := fun u => s.coord.clock.val ≤ u.coord.clock.val)
    (fun _ _ _ hle hgood hstep => hle.trans (clock_of_step hgood hstep)) le_rfl hlawful hrun

/-- The handler at an index is about to call `get_node_by_token` with the token, and gets a
node. -/
def admits (s : Server) (i : ℕ) (token : String) : Bool :=
  match s.task i with
  | .call (.getNodeByToken token' now) _ =>
      token' = token && !s.coord.poisoned && (s.coord.db.getNodeByToken token' now).isSome
  | _ => false

/-- Revocation is final. In every lawful run, a token that had a row and whose row is revoked, or
whose node is deleted, is refused in every later state whatever time it is presented with. One
that has passed its expiry is refused in every later state to every call with a time since then,
which every later reading of the clock is. -/
theorem revocation_final {ttl : I64} {clock : Clock} {instant : Instant}
    {events₁ events₂ events₃ : List Event} (httl : 0 < ttl.val)
    (hlawful₁ : Transition.AllSteps step Lawful (start ttl clock instant) events₁)
    (hrun₁ : Transition.exec step (start ttl clock instant) events₁ = some s)
    (hlawful₂ : Transition.AllSteps step Lawful s events₂)
    (hrun₂ : Transition.exec step s events₂ = some t)
    (hlawful₃ : Transition.AllSteps step Lawful t events₃)
    (hrun₃ : Transition.exec step t events₃ = some u)
    (hrow : row ∈ s.coord.db.tokens.rows) :
    ((∃ row' ∈ t.coord.db.tokens.rows, row'.token = row.token ∧ row'.revoked = true) →
        ∀ now, u.coord.db.getNodeByToken row.token now = none) ∧
      ((∀ n ∈ t.coord.db.nodes.rows, n.nodeId ≠ row.nodeId) →
        ∀ now, u.coord.db.getNodeByToken row.token now = none) ∧
      (row.expiresAt ≤ t.coord.clock.val → row.expiresAt ≤ u.coord.clock.val ∧
        ∀ now, row.expiresAt ≤ now → u.coord.db.getNodeByToken row.token now = none) := by
  have hfresh := fresh_of_run httl hlawful₁ hrun₁
  have hfirst := descends_of_run hfresh (hfresh.stored row hrow).1 hlawful₂ hrun₂
  have hlast := descends_of_run hfirst.fresh hfirst.settled hlawful₃ hrun₃
  refine ⟨?_, ?_, ?_⟩
  · rintro ⟨row', hrow', htoken, hrevoked⟩ now
    refine Database.getNodeByToken_eq_none.2 fun last hmem hsame => .inl ?_
    obtain ⟨before, hbefore, hbecomes⟩ := hlast.rows last hmem hsame
    have heq : before = row' := row_eq_of_token hbefore hrow'
      (hbecomes.token.symm.trans (hsame.trans htoken.symm))
    exact hbecomes.revoked (heq ▸ hrevoked)
  · intro hgone now
    refine Database.getNodeByToken_eq_none.2 fun last hmem hsame => ?_
    obtain ⟨before, hbefore, hbecomes⟩ := hlast.rows last hmem hsame
    have hbeforeToken := hbecomes.token.symm.trans hsame
    obtain ⟨first, hmade, hthen⟩ := hfirst.rows before hbefore hbeforeToken
    have heq : first = row := row_eq_of_token hmade hrow (hthen.token.symm.trans hbeforeToken)
    obtain ⟨n, hn, hid⟩ := t.coord.db.owned before hbefore
    exact absurd (hid.trans (hthen.nodeId.trans (congrArg TokenRecord.nodeId heq))) (hgone n hn)
  · intro hpassed
    refine ⟨hpassed.trans (clock_of_run hlawful₃ hrun₃), fun now hexpired => ?_⟩
    refine Database.getNodeByToken_eq_none.2 fun last hmem hsame => .inr ?_
    obtain ⟨before, hbefore, hbecomes⟩ := hlast.rows last hmem hsame
    have hbeforeToken := hbecomes.token.symm.trans hsame
    obtain ⟨first, hmade, hthen⟩ := hfirst.rows before hbefore hbeforeToken
    have heq : first = row := row_eq_of_token hmade hrow (hthen.token.symm.trans hbeforeToken)
    rw [hbecomes.expiresAt, hthen.expiresAt, heq]
    exact hexpired

end Server

end

/-! ## A token and its expiry in a run -/

namespace Parties

attribute [local instance] crates Symbolic.release

/-- The clients' restart of the server with another TTL. -/
def restart : List Event := [.restart (seconds 5)]

/-- A refreshed token stays refused after a restart. -/
theorem refreshed_token_refused :
    ∃ s t u, Transition.exec Server.step server registration = some s ∧
      Transition.exec Server.step s refresh = some t ∧
      Transition.exec Server.step t restart = some u ∧
      ∀ now, u.coord.db.getNodeByToken firstToken now = none := by
  have hcheck : (Transition.exec Server.step server registration).any (fun s =>
      decide (Transition.AllSteps Server.step Server.Lawful server registration) &&
      decide (firstRow ∈ s.coord.db.tokens.rows) &&
      (Transition.exec Server.step s refresh).any fun t =>
        decide (Transition.AllSteps Server.step Server.Lawful s refresh) &&
        decide ({ firstRow with revoked := true } ∈ t.coord.db.tokens.rows) &&
        (Transition.exec Server.step t restart).any fun _ =>
          decide (Transition.AllSteps Server.step Server.Lawful t restart)) = true := by
    decide +kernel
  simp only [Option.any_eq_true, Bool.and_eq_true, decide_eq_true_eq] at hcheck
  obtain ⟨s, hs, ⟨hlawful, hrow⟩, t, ht, ⟨hlawful', hrevoked⟩, u, hu, hlawful''⟩ := hcheck
  exact ⟨s, t, u, hs, ht, hu,
    (Server.revocation_final (by decide) hlawful hs hlawful' ht hlawful'' hu hrow).1
      ⟨_, hrevoked, rfl, rfl⟩⟩

/-- A request for the peers with the first token, up to the reading of the clock, and the moment
at which the token expires. -/
def peersRequest : List Event :=
  .tick (moment 1099) 0 :: .spawn 1 (.peers (client 1) (bearer firstToken)) (draws "" 8) ::
    (advances 1 2 ++ [.tick (moment 1100) 0])

/-- A handler that has read the clock before a token expires is let in with it afterwards. -/
theorem expired_token_admitted :
    ∃ s t, Transition.exec Server.step server registration = some s ∧
      Transition.AllSteps Server.step Server.Lawful server registration ∧
      firstRow ∈ s.coord.db.tokens.rows ∧
      Transition.exec Server.step s peersRequest = some t ∧
      Transition.AllSteps Server.step Server.Lawful s peersRequest ∧
      firstRow.expiresAt ≤ t.coord.clock.val ∧ t.admits 1 firstToken = true := by
  have hcheck : (Transition.exec Server.step server registration).any (fun s =>
      decide (Transition.AllSteps Server.step Server.Lawful server registration) &&
      decide (firstRow ∈ s.coord.db.tokens.rows) &&
      (Transition.exec Server.step s peersRequest).any fun t =>
        decide (Transition.AllSteps Server.step Server.Lawful s peersRequest) &&
        decide (firstRow.expiresAt ≤ t.coord.clock.val) && t.admits 1 firstToken) = true := by
    decide +kernel
  simp only [Option.any_eq_true, Bool.and_eq_true, decide_eq_true_eq] at hcheck
  obtain ⟨s, hs, ⟨hlawful, hrow⟩, t, ht, ⟨hlawful', hexpired⟩, hadmits⟩ := hcheck
  exact ⟨s, t, hs, hlawful, hrow, ht, hlawful', hexpired, hadmits⟩

end Parties

end Naboscale.Coord
