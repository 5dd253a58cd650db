import Mathlib.Tactic
import Mathlib.Data.Fintype.Card
import Mathlib.Data.Set.Finite.Lattice

/-!
# Handing a packet on

Nodes hand a packet on. Each has a table that names, for the address a packet comes from, the
address it is sent to, and a table may learn when its node hands a packet on: afterwards it names
the address it has just used, or for some sources the source itself.

With such tables a packet is handed on forever exactly when the way along the tables as they were
at the start leads back to a node that it has passed (`endless_iff`), and it gets to a node exactly
when that way does, before it leads back (`leads_of_reaches`, `reaches_of_leads`).
-/

namespace Passing

/-- The nodes and their addresses: a packet that is sent to `a` reaches `node a`. -/
structure Network (ι α : Type) where
  address : ι → α
  node : α → Option ι
  node_address (i : ι) : node (address i) = some i

/-- The tables of the nodes: what a node does with a packet that comes from an address. -/
abbrev Tables (ι α : Type) := ι → α → Option α

/-- A packet at a node, and the address it comes from. -/
structure Place (ι α : Type) where
  node : ι
  source : α

namespace Network

variable {ι α σ : Type} (net : Network ι α)

/-- Where a packet is after the node that it is at has handed it on. -/
def next (tables : Tables ι α) (place : Place ι α) : Option (Place ι α) := do
  let dest ← tables place.node place.source
  let node ← net.node dest
  pure ⟨node, net.address place.node⟩

/-- The way along the tables leads back to one of the passed nodes, or to one that it passes
itself. -/
inductive Returns (tables : Tables ι α) : Set ι → Place ι α → Prop
  | back {passed : Set ι} {place : Place ι α} (h : place.node ∈ passed) :
      Returns tables passed place
  | onward {passed : Set ι} {place further : Place ι α} (hnext : net.next tables place = some further)
      (h : Returns tables (insert place.node passed) further) : Returns tables passed place

/-- The way along the tables leads to a node before it leads back to a passed one. -/
inductive Leads (tables : Tables ι α) (target : ι) : Set ι → Place ι α → Prop
  | here {passed : Set ι} {place : Place ι α} (h : place.node = target) :
      Leads tables target passed place
  | onward {passed : Set ι} {place further : Place ι α} (hnew : place.node ∉ passed)
      (hother : place.node ≠ target) (hnext : net.next tables place = some further)
      (h : Leads tables target (insert place.node passed) further) :
      Leads tables target passed place

/-- What happens when a packet is handed on: it goes where the table of its node says, and only
that table changes. It names the address it has just used, or the source. -/
structure Passes (before : Tables ι α) (place : Place ι α) (after : Tables ι α)
    (further : Place ι α) : Prop where
  next : net.next before place = some further
  others {i : ι} : i ≠ place.node → after i = before i
  learned (source : α) :
    after place.node source = before place.node place.source ∨ after place.node source = some source

/-! ## Inside the passed nodes -/

/-- The table of a node names one address that leads to one of the nodes, or the source. -/
def Settled (tables : Tables ι α) (nodes : Set ι) (i : ι) : Prop :=
  ∃ dest k, net.node dest = some k ∧ k ∈ nodes ∧
    ∀ source, tables i source = some dest ∨ tables i source = some source

/-- The packet is at one of the nodes and comes from one of them, and what comes from one of the
nodes is sent to one of them. -/
structure Trapped (tables : Tables ι α) (nodes : Set ι) (place : Place ι α) : Prop where
  inside : place.node ∈ nodes
  source : ∃ j ∈ nodes, place.source = net.address j
  stays {i : ι} : i ∈ nodes → ∀ j ∈ nodes, ∃ dest, tables i (net.address j) = some dest ∧
    ∃ k ∈ nodes, net.node dest = some k

/-- What holds while the packet passes nodes for the first time: the tables of the others are
those of the start. -/
structure Passed (start : Tables ι α) (passed : Set ι) (tables : Tables ι α)
    (place : Place ι α) : Prop where
  others {i : ι} : i ∉ passed → tables i = start i
  settled {i : ι} : i ∈ passed → net.Settled tables (insert place.node passed) i
  source : place.node ∈ passed → ∃ j ∈ passed, place.source = net.address j

variable {net} {start before after : Tables ι α} {place further : Place ι α} {passed nodes : Set ι}

theorem next_eq_some : net.next before place = some further ↔
    ∃ dest, before place.node place.source = some dest ∧ net.node dest = some further.node ∧
      further.source = net.address place.node := by
  obtain ⟨node, source⟩ := further
  simp only [next, Option.bind_eq_bind, Option.bind_eq_some_iff, Option.pure_def,
    Option.some.injEq, Place.mk.injEq]
  constructor
  · rintro ⟨dest, hdest, i, hi, rfl, rfl⟩
    exact ⟨dest, hdest, hi, rfl⟩
  · rintro ⟨dest, hdest, hi, rfl⟩
    exact ⟨dest, hdest, node, hi, rfl, rfl⟩

/-- A packet that is back at a passed node is trapped among the passed nodes. -/
theorem Passed.trapped (h : net.Passed start passed before place) (hback : place.node ∈ passed) :
    net.Trapped before passed place := by
  refine ⟨hback, h.source hback, fun {i} hi j hj => ?_⟩
  have hsettled := h.settled hi
  rw [Set.insert_eq_of_mem hback] at hsettled
  obtain ⟨dest, k, hnode, hk, htable⟩ := hsettled
  rcases htable (net.address j) with hdest | hsource
  · exact ⟨dest, hdest, k, hk, hnode⟩
  · exact ⟨net.address j, hsource, j, hj, net.node_address j⟩

/-- A trapped packet is handed on. -/
theorem Trapped.next (h : net.Trapped before nodes place) :
    ∃ further, net.next before place = some further := by
  obtain ⟨j, hj, hsource⟩ := h.source
  obtain ⟨dest, hdest, k, -, hnode⟩ := h.stays h.inside j hj
  rw [← hsource] at hdest
  exact ⟨⟨k, net.address place.node⟩, next_eq_some.2 ⟨dest, hdest, hnode, rfl⟩⟩

/-- A trapped packet stays trapped. -/
theorem Trapped.passes (h : net.Trapped before nodes place)
    (hpasses : net.Passes before place after further) : net.Trapped after nodes further := by
  obtain ⟨dest, hdest, hnode, hsource⟩ := next_eq_some.1 hpasses.next
  obtain ⟨j, hj, hfrom⟩ := h.source
  have hinside : further.node ∈ nodes := by
    obtain ⟨dest', hdest', k, hk, hnode'⟩ := h.stays h.inside j hj
    rw [← hfrom, hdest] at hdest'
    cases hdest'
    cases hnode.symm.trans hnode'
    exact hk
  refine ⟨hinside, ⟨place.node, h.inside, hsource⟩, fun {i} hi j hj => ?_⟩
  by_cases hself : i = place.node
  · subst hself
    rcases hpasses.learned (net.address j) with hsame | hback
    · exact ⟨dest, hsame.trans hdest, further.node, hinside, hnode⟩
    · exact ⟨net.address j, hback, j, hj, net.node_address j⟩
  · rw [hpasses.others hself]
    exact h.stays hi j hj

/-- The first visit of a node. -/
theorem Passed.passes (h : net.Passed start passed before place) (hnew : place.node ∉ passed)
    (hpasses : net.Passes before place after further) :
    net.Passed start (insert place.node passed) after further := by
  obtain ⟨dest, hdest, hnode, hsource⟩ := next_eq_some.1 hpasses.next
  refine ⟨fun {i} hi => ?_, fun {i} hi => ?_, fun _ => ⟨place.node, Set.mem_insert _ _, hsource⟩⟩
  · obtain ⟨hself, hi⟩ := not_or.1 hi
    rw [hpasses.others hself, h.others hi]
  · rcases Set.mem_insert_iff.1 hi with rfl | hi
    · refine ⟨dest, further.node, hnode, Set.mem_insert _ _, fun source => ?_⟩
      rw [← hdest]
      exact hpasses.learned source
    · have hother : i ≠ place.node := fun hself => hnew (hself ▸ hi)
      obtain ⟨dest', k, hnode', hk, htable⟩ := h.settled hi
      refine ⟨dest', k, hnode', Set.mem_insert_of_mem _ hk, fun source => ?_⟩
      rw [hpasses.others hother]
      exact htable source

theorem passed_empty (start : Tables ι α) (place : Place ι α) :
    net.Passed start ∅ start place :=
  ⟨fun _ => rfl, fun hi => absurd hi (Set.notMem_empty _), fun h => absurd h (Set.notMem_empty _)⟩

/-! ## Systems that hand a packet on -/

/-- A relation on states hands a packet on: each of its steps does, and there is a step where the
table knows a next node. -/
structure Hands (net : Network ι α) (R : σ → σ → Prop) (tables : σ → Tables ι α)
    (place : σ → Place ι α) : Prop where
  passes {s t : σ} : R s t → net.Passes (tables s) (place s) (tables t) (place t)
  progress {s : σ} {further : Place ι α} :
    net.next (tables s) (place s) = some further → ∃ t, R s t

variable {R : σ → σ → Prop} {tables : σ → Tables ι α} {at_ : σ → Place ι α} {s : σ}

/-- A trapped packet is handed on forever. -/
theorem Hands.not_acc_of_trapped (hands : Hands net R tables at_) (h : Acc (fun t s => R s t) s)
    (htrapped : net.Trapped (tables s) nodes (at_ s)) : False := by
  induction h with
  | intro s _ ih =>
      obtain ⟨further, hnext⟩ := htrapped.next
      obtain ⟨t, hstep⟩ := hands.progress hnext
      exact ih t hstep (htrapped.passes (hands.passes hstep))

/-- A packet whose way returns is handed on forever. -/
theorem Hands.not_acc_of_returns (hands : Hands net R tables at_)
    (hpassed : net.Passed start passed (tables s) (at_ s))
    (h : net.Returns start passed (at_ s)) : ¬ Acc (fun t s => R s t) s := by
  generalize hplace : at_ s = place at h
  induction h generalizing s with
  | back hback =>
      intro hacc
      subst hplace
      exact hands.not_acc_of_trapped hacc (hpassed.trapped hback)
  | @onward passed place further hnext _ ih =>
      intro hacc
      subst hplace
      by_cases hnew : (at_ s).node ∈ passed
      · exact hands.not_acc_of_trapped hacc (hpassed.trapped hnew)
      · have hsame : net.next (tables s) (at_ s) = some further := by
          rw [← hnext, next, next, hpassed.others hnew]
        obtain ⟨t, hstep⟩ := hands.progress hsame
        have hpasses := hands.passes hstep
        have hplace : at_ t = further := Option.some.inj (hpasses.next.symm.trans hsame)
        exact ih (hpassed.passes hnew hpasses) hplace (hacc.inv hstep)

/-- A packet whose way does not return is handed on finitely often: there are only so many nodes
to pass. -/
theorem Hands.acc_of_not_returns [Finite ι] (hands : Hands net R tables at_)
    (hpassed : net.Passed start passed (tables s) (at_ s))
    (h : ¬ net.Returns start passed (at_ s)) : Acc (fun t s => R s t) s := by
  induction hmeasure : passedᶜ.ncard using Nat.strong_induction_on generalizing passed s with
  | h n ih =>
      have hnew : (at_ s).node ∉ passed := fun hback => h (.back hback)
      refine Acc.intro s fun t hstep => ?_
      have hpasses := hands.passes hstep
      have hnext : net.next start (at_ s) = some (at_ t) := by
        rw [← hpasses.next, next, next, hpassed.others hnew]
      refine ih _ ?_ (hpassed.passes hnew hpasses) (fun hback => h (.onward hnext hback)) rfl
      rw [← hmeasure]
      refine Set.ncard_lt_ncard ⟨Set.compl_subset_compl.2 (Set.subset_insert _ _), ?_⟩
      exact fun hsub => hsub hnew (Set.mem_insert _ _)

/-- A packet is handed on forever exactly when its way along the tables of the start returns to a
node that it has passed. -/
theorem Hands.endless_iff [Finite ι] (hands : Hands net R tables at_) :
    (∃ chain : ℕ → σ, chain 0 = s ∧ ∀ n, R (chain n) (chain (n + 1))) ↔
      net.Returns (tables s) ∅ (at_ s) := by
  rw [← not_acc_iff_exists_descending_chain (r := fun t s => R s t)]
  have hpassed : net.Passed (tables s) ∅ (tables s) (at_ s) := passed_empty _ _
  constructor
  · intro hendless
    by_contra hreturns
    exact hendless (hands.acc_of_not_returns hpassed hreturns)
  · intro hreturns
    exact hands.not_acc_of_returns hpassed hreturns

/-- A trapped packet only gets to the nodes that it is trapped among. -/
theorem Hands.node_of_trapped (hands : Hands net R tables at_) {t : σ}
    (hchain : Relation.ReflTransGen R s t) (htrapped : net.Trapped (tables s) nodes (at_ s)) :
    (at_ t).node ∈ nodes := by
  induction hchain using Relation.ReflTransGen.head_induction_on with
  | refl => exact htrapped.inside
  | head hstep _ ih => exact ih (htrapped.passes (hands.passes hstep))

/-- A packet that gets to a node gets there along the tables of the start. -/
theorem Hands.leads_of_reaches (hands : Hands net R tables at_) {t : σ}
    (hchain : Relation.ReflTransGen R s t)
    (hpassed : net.Passed start passed (tables s) (at_ s)) (htarget : (at_ t).node ∉ passed) :
    net.Leads start (at_ t).node passed (at_ s) := by
  induction hchain using Relation.ReflTransGen.head_induction_on generalizing passed with
  | refl => exact .here rfl
  | @head s s' hstep hrest ih =>
      by_cases harrived : (at_ s).node = (at_ t).node
      · exact .here harrived
      have hnew : (at_ s).node ∉ passed := by
        intro hback
        have hchain : Relation.ReflTransGen R s t := .head hstep hrest
        exact htarget (hands.node_of_trapped hchain (hpassed.trapped hback))
      have hpasses := hands.passes hstep
      have hnext : net.next start (at_ s) = some (at_ s') := by
        rw [← hpasses.next, next, next, hpassed.others hnew]
      refine .onward hnew harrived hnext (ih (hpassed.passes hnew hpasses) ?_)
      exact fun hmem => (Set.mem_insert_iff.1 hmem).elim (fun h => harrived h.symm) htarget

/-- A packet gets to a node that its way along the tables of the start leads to, and leaves that
node at no earlier time. -/
theorem Hands.reaches_of_leads (hands : Hands net R tables at_) {target : ι}
    (hpassed : net.Passed start passed (tables s) (at_ s))
    (h : net.Leads start target passed (at_ s)) :
    ∃ t, Relation.ReflTransGen (fun s t => R s t ∧ (at_ s).node ≠ target) s t ∧
      (at_ t).node = target := by
  generalize hplace : at_ s = place at h
  induction h generalizing s with
  | here harrived =>
      subst hplace
      exact ⟨s, .refl, harrived⟩
  | @onward passed place further hnew hother hnext _ ih =>
      subst hplace
      have hsame : net.next (tables s) (at_ s) = some further := by
        rw [← hnext, next, next, hpassed.others hnew]
      obtain ⟨s', hstep⟩ := hands.progress hsame
      have hpasses := hands.passes hstep
      have hplace : at_ s' = further := Option.some.inj (hpasses.next.symm.trans hsame)
      obtain ⟨t, hchain, harrived⟩ := ih (hpassed.passes hnew hpasses) hplace
      exact ⟨t, .head ⟨hstep, hother⟩ hchain, harrived⟩

end Network

end Passing
