import Naboscale.Coord.Database
import Naboscale.Rust.Net

/-!
# The address pool of the coordinator

`IpAllocator` keeps the addresses in use in memory and gives out the least one that is free. On a
restart it is rebuilt from the texts of the addresses in the database.
-/

namespace Naboscale.Coord

open Rust

/-- `IP_POOL_HOST_COUNT`. -/
def ipPoolHostCount : ℕ := 65534

/-- `IP_POOL_FIRST_HOST`. -/
def ipPoolFirstHost : ℕ := (⟨100, 100, 0, 1⟩ : Ipv4Addr).toU32

/-- The last address of the pool. -/
def ipPoolLastHost : ℕ := (⟨100, 100, 255, 254⟩ : Ipv4Addr).toU32

/-- The address lies in the pool. -/
def InPool (ip : Ipv4Addr) : Prop := ipPoolFirstHost ≤ ip.toU32 ∧ ip.toU32 ≤ ipPoolLastHost

/-- `ipv4_str_to_u32`. -/
def ipv4StrToU32 (s : String) : ℕ :=
  let parts := (s.toList.splitOn '.').map fun part => (parseU8 part).getD 0
  (⟨parts.getD 0 0, parts.getD 1 0, parts.getD 2 0, parts.getD 3 0⟩ : Ipv4Addr).toU32

/-- `IpAllocator`: the addresses in use, each of them a `u32`. -/
structure IpAllocator where
  used : Finset ℕ
  bound : ∀ n ∈ used, n < 2 ^ 32

namespace IpAllocator

theorem ipv4StrToU32_lt (s : String) : ipv4StrToU32 s < 2 ^ 32 := Ipv4Addr.toU32_lt _

/-- `IpAllocator::new`. -/
def new (db : Database) : IpAllocator where
  used := ((db.listPeers none).map fun peer => ipv4StrToU32 peer.ip).toFinset
  bound := by
    intro n hn
    obtain ⟨peer, -, rfl⟩ := List.mem_map.1 (List.mem_toFinset.1 hn)
    exact ipv4StrToU32_lt peer.ip

/-- The loop of `allocate`: the first of `count` candidates that is not in use. -/
def firstFree (used : Finset ℕ) : ℕ → ℕ → Option ℕ
  | 0, _ => none
  | count + 1, candidate =>
      if candidate ∈ used then firstFree used count (candidate + 1) else some candidate

/-- The first candidate is free and those before it are not. -/
theorem firstFree_eq_some {used : Finset ℕ} {count candidate n : ℕ} :
    firstFree used count candidate = some n ↔
      candidate ≤ n ∧ n < candidate + count ∧ n ∉ used ∧ ∀ m, candidate ≤ m → m < n → m ∈ used := by
  induction count generalizing candidate with
  | zero =>
      refine iff_of_false (fun h => nomatch h) ?_
      omega
  | succ count ih =>
      rw [firstFree]
      split
      · rename_i hused
        rw [ih]
        constructor
        · rintro ⟨hle, hlt, hfree, hbelow⟩
          refine ⟨by omega, by omega, hfree, fun m hm hmn => ?_⟩
          rcases hm.eq_or_lt with rfl | hm
          · exact hused
          · exact hbelow m hm hmn
        · rintro ⟨hle, hlt, hfree, hbelow⟩
          have hne : candidate ≠ n := fun heq => hfree (heq ▸ hused)
          exact ⟨by omega, by omega, hfree, fun m hm => hbelow m (by omega)⟩
      · rename_i hfree
        constructor
        · intro h
          cases h
          exact ⟨le_rfl, by omega, hfree, fun m hm hmn => by omega⟩
        · rintro ⟨hle, -, -, hbelow⟩
          rcases hle.eq_or_lt with rfl | hlt
          · rfl
          · exact absurd (hbelow candidate le_rfl hlt) hfree

/-- No candidate is free exactly when all of them are in use. -/
theorem firstFree_eq_none {used : Finset ℕ} {count candidate : ℕ} :
    firstFree used count candidate = none ↔
      ∀ m, candidate ≤ m → m < candidate + count → m ∈ used := by
  induction count generalizing candidate with
  | zero => exact iff_of_true rfl fun m hm hlt => by omega
  | succ count ih =>
      rw [firstFree]
      split
      · rename_i hused
        rw [ih]
        constructor
        · intro h m hm hlt
          rcases hm.eq_or_lt with rfl | hm
          · exact hused
          · exact h m hm (by omega)
        · intro h m hm hlt
          exact h m (by omega) (by omega)
      · rename_i hfree
        exact iff_of_false (fun h => nomatch h) fun h => hfree (h candidate le_rfl (by omega))

/-- `allocate`; none where the pool is exhausted. -/
def allocate (self : IpAllocator) : Option Ipv4Addr × IpAllocator :=
  match h : firstFree self.used ipPoolHostCount ipPoolFirstHost with
  | none => (none, self)
  | some candidate =>
      (some (Ipv4Addr.ofU32 candidate), {
        used := insert candidate self.used
        bound := by
          intro n hn
          rcases Finset.mem_insert.1 hn with rfl | hn
          · have hlt := (firstFree_eq_some.1 h).2.1
            have hlast : ipPoolFirstHost + ipPoolHostCount ≤ 2 ^ 32 := by decide
            omega
          · exact self.bound n hn })

/-- `release`. -/
def release (self : IpAllocator) (ip : Ipv4Addr) : IpAllocator where
  used := self.used.erase ip.toU32
  bound := fun n hn => self.bound n (Finset.mem_of_mem_erase hn)

/-- The address is in use. -/
def Uses (self : IpAllocator) (ip : Ipv4Addr) : Prop := ip.toU32 ∈ self.used

/-! ## What they do to the addresses in use -/

variable {self : IpAllocator} {ip ip' : Ipv4Addr} {db : Database}

/-- The text of an address is read back to the address. -/
theorem ipv4StrToU32_toString (ip : Ipv4Addr) : ipv4StrToU32 (toString ip) = ip.toU32 := by
  have hdot (b : UInt8) : ∀ c ∈ decimal b.toNat, (c == '.') = false := by
    intro c hc
    exact beq_eq_false_iff_ne.2 fun heq => (octetText b.toNat_lt).dot (heq ▸ hc)
  have hsplit (b : UInt8) (rest : List Char) :
      (decimal b.toNat ++ '.' :: rest).splitOn '.' = decimal b.toNat :: rest.splitOn '.' :=
    List.splitOnP_append_cons_of_forall_mem (hdot b) _ (beq_self_eq_true _) rest
  have hlast (b : UInt8) : (decimal b.toNat).splitOn '.' = [decimal b.toNat] :=
    List.splitOnP_eq_singleton (hdot b)
  have htext : (toString ip).toList = ip.text := String.toList_ofList
  rw [ipv4StrToU32, htext, Ipv4Addr.text, hsplit, hsplit, hsplit, hlast]
  simp only [List.map_cons, List.map_nil, parseU8_decimal, Option.getD_some,
    List.getD_cons_zero, List.getD_cons_succ]

theorem uses_new : (new db).Uses ip ↔ ∃ n ∈ db.nodes.rows, ipv4StrToU32 n.ip = ip.toU32 := by
  have hall : db.listPeers none = db.nodes.rows := List.filter_eq_self.2 fun _ _ => rfl
  rw [Uses, new, List.mem_toFinset, hall, List.mem_map]

theorem uses_release : (self.release ip).Uses ip' ↔ ip' ≠ ip ∧ self.Uses ip' := by
  rw [Uses, release, Finset.mem_erase]
  exact and_congr_left' (not_congr Ipv4Addr.toU32_injective.eq_iff)

theorem last_of_first : ipPoolFirstHost + ipPoolHostCount = ipPoolLastHost + 1 := by decide

theorem allocate_fst :
    self.allocate.1 =
      (firstFree self.used ipPoolHostCount ipPoolFirstHost).map Ipv4Addr.ofU32 := by
  unfold allocate
  split <;> (rename_i h; exact (congrArg (Option.map Ipv4Addr.ofU32) h).symm)

/-- An address of the pool is what the loop gives exactly when it is the least free one. -/
theorem firstFree_toU32 :
    firstFree self.used ipPoolHostCount ipPoolFirstHost = some ip.toU32 ↔
      InPool ip ∧ ¬ self.Uses ip ∧
        ∀ ip', InPool ip' → ¬ self.Uses ip' → ip.toU32 ≤ ip'.toU32 := by
  have hlast := last_of_first
  rw [firstFree_eq_some]
  constructor
  · rintro ⟨hle, hlt, hfree, hbelow⟩
    refine ⟨⟨hle, by omega⟩, hfree, fun ip' hpool hfree' => ?_⟩
    by_contra hlt'
    exact hfree' (hbelow _ hpool.1 (not_le.1 hlt'))
  · rintro ⟨hpool, hfree, hleast⟩
    have hle := hpool.2
    refine ⟨hpool.1, by omega, hfree, fun m hm hlt => ?_⟩
    have hm32 : (Ipv4Addr.ofU32 m).toU32 = m := Ipv4Addr.toU32_ofU32 (hlt.trans ip.toU32_lt)
    by_contra hfree'
    have hpool' : InPool (.ofU32 m) := by
      rw [InPool, hm32]
      omega
    have := hleast (.ofU32 m) hpool' (by rwa [Uses, hm32])
    omega

/-- `allocate` gives the least address of the pool that is not in use. -/
theorem allocate_eq_some :
    self.allocate.1 = some ip ↔ InPool ip ∧ ¬ self.Uses ip ∧
      ∀ ip', InPool ip' → ¬ self.Uses ip' → ip.toU32 ≤ ip'.toU32 := by
  rw [allocate_fst, Option.map_eq_some_iff, ← firstFree_toU32]
  constructor
  · rintro ⟨n, hn, rfl⟩
    have hlt := (firstFree_eq_some.1 hn).2.1
    have hlast : ipPoolFirstHost + ipPoolHostCount ≤ 2 ^ 32 := by decide
    rw [hn, Ipv4Addr.toU32_ofU32 (by omega)]
  · exact fun h => ⟨ip.toU32, h, ip.ofU32_toU32⟩

/-- `allocate` fails exactly when every address of the pool is in use. -/
theorem allocate_eq_none :
    self.allocate.1 = none ↔ ∀ k < ipPoolHostCount, ipPoolFirstHost + k ∈ self.used := by
  rw [allocate_fst, Option.map_eq_none_iff, firstFree_eq_none]
  constructor
  · exact fun h k hk => h _ (Nat.le_add_right _ _) (Nat.add_lt_add_left hk _)
  · intro h m hm hlt
    obtain ⟨k, rfl⟩ := Nat.exists_eq_add_of_le hm
    exact h k (Nat.lt_of_add_lt_add_left hlt)

/-- The addresses in use after `allocate`: the new one and those before. -/
theorem uses_allocate (h : self.allocate.1 = some ip) :
    self.allocate.2.Uses ip' ↔ ip' = ip ∨ self.Uses ip' := by
  have hfree := firstFree_toU32.2 (allocate_eq_some.1 h)
  unfold allocate
  split
  · rename_i hnone
    rw [hnone] at hfree
    cases hfree
  · rename_i candidate hsome
    rw [hsome] at hfree
    cases hfree
    rw [Uses, Finset.mem_insert, Ipv4Addr.toU32_injective.eq_iff, Uses]

/-- A failed `allocate` changes nothing. -/
theorem allocate_of_none (h : self.allocate.1 = none) : self.allocate.2 = self := by
  unfold allocate at h ⊢
  split
  · rfl
  · rename_i candidate hsome
    split at h
    · rename_i hnone
      rw [hnone] at hsome
      cases hsome
    · cases h

end IpAllocator

end Naboscale.Coord
