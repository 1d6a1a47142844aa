import AvsRegistry.Types
import Mathlib.Algebra.BigOperators.Group.Finset
import Mathlib.Algebra.Ring.Int.Defs

/-!
# Quorum totals over an operator map

`GetQuorumsAvsStateAtBlock` of the chain caller (`avsregistry_chaincaller.go`, lines 70–84)
and of the fake (`avsregistry_fake.go`, lines 46–61) run the same loop: for each requested
quorum, range over the operator map and add up the stakes recorded for that quorum. Go
draws a fresh, unspecified order for every `range` over a map; a `MapOrder` fixes one for
every loop of a call, and the results below hold for all of them.

A total does not depend on the order (`totalStakeIn_perm`), so every requested quorum gets
the sum over the whole map (`quorumsAvsStateOf_lookup`). That sum is also a sum over the
map's keys (`totalStakeIn_eq_sum_keys`): two maps holding the same stakes have the same
totals, and a map holding a table's stakes has the table's sum as its total.
-/

namespace AvsRegistry

open scoped BigOperators

/-- The orders in which the `range` loops of a call visit an operator map. Go leaves the
order unspecified and draws it afresh for every loop: `visit n` is the order of the `n`-th
loop, and it visits each entry once. -/
structure MapOrder where
  visit : Nat → List OperatorEntry → List OperatorEntry
  visit_perm : ∀ n entries, (visit n entries).Perm entries

/-- Insertion order, one of the orders Go may pick. -/
def MapOrder.insertion : MapOrder := ⟨fun _ entries => entries, fun _ _ => .refl _⟩

/-- Lines 72–78: the stakes the operators hold in `quorumNum`, added up in visiting order. -/
def totalStakeIn (quorumNum : QuorumNum) (operators : List OperatorEntry) : StakeAmount :=
  operators.foldl (fun totalStake operator =>
    match operator.2.stakePerQuorum.lookup quorumNum with
    | some stake => totalStake + stake
    | none => totalStake) 0

/-- Lines 71–84: an entry for each requested quorum, the `n`-th quorum's total summed in the
`n`-th loop's order. -/
def quorumsAvsStateLoop (order : MapOrder) (operatorsAvsState : OperatorsAvsState)
    (blockNumber : BlockNum) : Nat → List QuorumNum → QuorumsAvsState → QuorumsAvsState
  | _, [], quorumsAvsState => quorumsAvsState
  | n, quorumNum :: quorumNumbers, quorumsAvsState =>
    quorumsAvsStateLoop order operatorsAvsState blockNumber (n + 1) quorumNumbers
      (quorumsAvsState.insert quorumNum
        ⟨quorumNum, totalStakeIn quorumNum (order.visit n operatorsAvsState.entries), blockNumber⟩)

/-- Lines 70–85: the per-quorum view of an operator map, from an empty map. -/
def quorumsAvsStateOf (order : MapOrder) (quorumNumbers : List QuorumNum)
    (operatorsAvsState : OperatorsAvsState) (blockNumber : BlockNum) : QuorumsAvsState :=
  quorumsAvsStateLoop order operatorsAvsState blockNumber 0 quorumNumbers ∅

/-- The stake an operator holds in quorum `q`, zero when it holds none. -/
def stakeIn (q : QuorumNum) (st : OperatorAvsState StakeMap) : StakeAmount :=
  (st.stakePerQuorum.lookup q).getD 0

/-- The stake in quorum `q` that one lookup of an operator map finds, zero for no entry. -/
def stakeAt (q : QuorumNum) (st? : Option (OperatorAvsState StakeMap)) : StakeAmount :=
  (st?.map (stakeIn q)).getD 0

/-- No entry holds no stake. -/
@[simp] theorem stakeAt_none (q : QuorumNum) : stakeAt q none = 0 := rfl

/-- An entry holds its stake in `q`. -/
@[simp] theorem stakeAt_some (q : QuorumNum) (st : OperatorAvsState StakeMap) :
    stakeAt q (some st) = stakeIn q st := rfl

/-- The stake one lookup finds is the entry's stake in `q`, read through its map. -/
theorem stakeAt_eq_getD_bind (q : QuorumNum) (st? : Option (OperatorAvsState StakeMap)) :
    stakeAt q st? = (st?.bind (·.stakePerQuorum.lookup q)).getD 0 := by
  cases st? <;> rfl

/-- The loop adds the sum of the stakes in `q` to its starting total. -/
private theorem foldl_total_eq_add (q : QuorumNum) (operators : List OperatorEntry) (acc : StakeAmount) :
    operators.foldl (fun totalStake operator =>
      match operator.2.stakePerQuorum.lookup q with
      | some stake => totalStake + stake
      | none => totalStake) acc = acc + (operators.map fun e => stakeIn q e.2).sum := by
  induction operators generalizing acc with
  | nil => simp
  | cons e operators ih =>
    rw [List.foldl_cons, ih, List.map_cons, List.sum_cons, stakeIn]
    cases e.2.stakePerQuorum.lookup q <;> simp [add_assoc]

/-- The loop's total is the plain sum of the stakes, absent ones counting zero. -/
theorem totalStakeIn_eq_sum (q : QuorumNum) (operators : List OperatorEntry) :
    totalStakeIn q operators = (operators.map fun e => stakeIn q e.2).sum := by
  rw [totalStakeIn, foldl_total_eq_add, zero_add]

/-- The order a loop visits the map in does not change its total. -/
theorem totalStakeIn_perm (q : QuorumNum) {l₁ l₂ : List OperatorEntry} (h : l₁.Perm l₂) :
    totalStakeIn q l₁ = totalStakeIn q l₂ := by
  rw [totalStakeIn_eq_sum, totalStakeIn_eq_sum]
  exact (h.map _).sum_eq

/-- After the loop, a requested quorum has the total over the whole map at the block, and every
other quorum keeps what it had. -/
theorem quorumsAvsStateLoop_lookup (order : MapOrder) (M : OperatorsAvsState) (b : BlockNum)
    (n : Nat) (Q : List QuorumNum) (acc : QuorumsAvsState) (q : QuorumNum) :
    (quorumsAvsStateLoop order M b n Q acc).lookup q =
      if q ∈ Q then some ⟨q, totalStakeIn q M.entries, b⟩ else acc.lookup q := by
  induction Q generalizing n acc with
  | nil => simp [quorumsAvsStateLoop]
  | cons q' Q ih =>
    rw [quorumsAvsStateLoop, ih]
    by_cases hq : q = q'
    · subst hq
      simp [totalStakeIn_perm q (order.visit_perm n M.entries)]
    · simp [hq, AList.lookup_insert_ne hq]

/-- The loop's result does not depend on the orders its `range`s visit the map in. -/
theorem quorumsAvsStateLoop_order_eq (order₁ order₂ : MapOrder) (M : OperatorsAvsState) (b : BlockNum)
    (n : Nat) (Q : List QuorumNum) (acc : QuorumsAvsState) :
    quorumsAvsStateLoop order₁ M b n Q acc = quorumsAvsStateLoop order₂ M b n Q acc := by
  induction Q generalizing n acc with
  | nil => rfl
  | cons q Q ih =>
    simp only [quorumsAvsStateLoop, totalStakeIn_perm q (order₁.visit_perm n M.entries),
      totalStakeIn_perm q (order₂.visit_perm n M.entries), ih]

/-- Every requested quorum, and no other, gets the total over the whole map at the block,
whatever orders the loops visit the map in. -/
theorem quorumsAvsStateOf_lookup (order : MapOrder) (Q : List QuorumNum) (M : OperatorsAvsState)
    (b : BlockNum) (q : QuorumNum) :
    (quorumsAvsStateOf order Q M b).lookup q =
      if q ∈ Q then some ⟨q, totalStakeIn q M.entries, b⟩ else none := by
  rw [quorumsAvsStateOf, quorumsAvsStateLoop_lookup]
  rfl

/-- A total is a sum over any finite set of operators that holds the map's keys. -/
theorem totalStakeIn_eq_sum_keys (q : QuorumNum) (M : OperatorsAvsState) (S : Finset OperatorAddr)
    (hS : ∀ o ∈ M, o ∈ S) : totalStakeIn q M.entries = ∑ o ∈ S, stakeAt q (M.lookup o) := by
  have hkeys : (M.keys.map fun o => stakeAt q (M.lookup o)) = M.entries.map fun e => stakeIn q e.2 := by
    rw [AList.keys, List.keys, List.map_map]
    refine List.map_congr_left fun e he => ?_
    have : M.lookup e.1 = some e.2 := AList.mem_lookup_iff.mpr he
    simp [this]
  rw [totalStakeIn_eq_sum, ← hkeys, ← List.sum_toFinset _ M.keys_nodup]
  refine Finset.sum_subset (fun o ho => hS o (AList.mem_keys.mpr (List.mem_toFinset.mp ho))) ?_
  intro o _ ho
  have : M.lookup o = none := AList.lookup_eq_none.mpr fun h =>
    ho (List.mem_toFinset.mpr (AList.mem_keys.mp h))
  simp [this]

/-- Two operator maps that hold the same stake in `q` under every operator have the same
total for `q`. -/
theorem totalStakeIn_congr (q : QuorumNum) {M₁ M₂ : OperatorsAvsState}
    (h : ∀ o, stakeAt q (M₁.lookup o) = stakeAt q (M₂.lookup o)) :
    totalStakeIn q M₁.entries = totalStakeIn q M₂.entries := by
  classical
  let S := M₁.keys.toFinset ∪ M₂.keys.toFinset
  rw [totalStakeIn_eq_sum_keys q M₁ S fun o ho => by simp [S, AList.mem_keys.mp ho],
    totalStakeIn_eq_sum_keys q M₂ S fun o ho => by simp [S, AList.mem_keys.mp ho]]
  exact Finset.sum_congr rfl fun o _ => h o

/-- The stake of operator `o` in a stake table: its last entry's, zero when it has none. -/
def tableStake (t : QuorumStakeTable) (o : OperatorAddr) : StakeAmount :=
  (((t.filter (·.operator = o)).getLast?).map (·.stake)).getD 0

/-- An operator a table does not list holds nothing in it. -/
theorem tableStake_of_not_mem {t : QuorumStakeTable} {o : OperatorAddr} (ho : o ∉ t.map (·.operator)) :
    tableStake t o = 0 := by
  have : t.filter (·.operator = o) = [] := List.filter_eq_nil_iff.mpr fun e he h =>
    ho (List.mem_map.mpr ⟨e, he, by simpa using h⟩)
  simp [tableStake, this]

/-- In a table listing each operator once, the entries of an operator are its one entry. -/
theorem filter_operator_eq_singleton {t : QuorumStakeTable} (hnd : (t.map (·.operator)).Nodup)
    {e : OperatorStateRetrieverOperator} (he : e ∈ t) : t.filter (·.operator = e.operator) = [e] := by
  induction t with
  | nil => simp at he
  | cons e' t ih =>
    rw [List.map_cons, List.nodup_cons] at hnd
    rcases List.mem_cons.mp he with rfl | he
    · have : t.filter (·.operator = e.operator) = [] :=
        List.filter_eq_nil_iff.mpr fun e'' he'' h =>
          hnd.1 (List.mem_map.mpr ⟨e'', he'', by simpa using h⟩)
      simp [this]
    · have hne : e'.operator ≠ e.operator := fun h => hnd.1 (h ▸ List.mem_map_of_mem _ he)
      simp [hne, ih hnd.2 he]

/-- A table listing each operator once sums to the total of its per-operator stakes, over
any finite set of operators that holds the table's. -/
theorem sum_table_eq_sum_keys (t : QuorumStakeTable) (hnd : (t.map (·.operator)).Nodup)
    (S : Finset OperatorAddr) (hS : ∀ e ∈ t, e.operator ∈ S) :
    (t.map (·.stake)).sum = ∑ o ∈ S, tableStake t o := by
  have hstake : t.map (·.stake) = (t.map (·.operator)).map (tableStake t) := by
    rw [List.map_map]
    refine List.map_congr_left fun e he => ?_
    simp [tableStake, filter_operator_eq_singleton hnd he]
  rw [hstake, ← List.sum_toFinset _ hnd]
  refine Finset.sum_subset (fun o ho => ?_) fun o _ ho => ?_
  · obtain ⟨e, he, rfl⟩ := List.mem_map.mp (List.mem_toFinset.mp ho)
    exact hS e he
  · exact tableStake_of_not_mem fun h => ho (List.mem_toFinset.mpr h)

end AvsRegistry
