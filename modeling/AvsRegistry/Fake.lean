import AvsRegistry.ChainCaller

/-!
# The fake AVS registry service against the chain caller

`FakeAvsRegistryService` (`avsregistry_fake.go`) keeps operator states per block and
answers both views from them, without a chain. Its per-quorum view runs the same loop as
the chain caller's; its per-operator view is the stored map itself, whatever quorums are
asked for.

Neither service's per-quorum view depends on the orders Go's `range` visits a map in. The
two services are compared on a chain that agrees with the fake's store: each requested
quorum's table lists the stored operators holding a stake in it, once each, in any order
(`FakeAvsRegistryService.Answers`). The per-quorum views then agree. The per-operator views
do not: the chain caller's is the fake's restricted to the requested quorums.
-/

namespace AvsRegistry

/-- Modelled from the spec: `types.TestOperator` is not in the sources. The fake reads its
operator address and its stake per quorum, the fields of the operator record of §3. -/
structure TestOperator where
  operator : OperatorAddr
  stakePerQuorum : StakeMap

/-- `FakeAvsRegistryService`: operator maps stored by block. -/
structure FakeAvsRegistryService where
  operators : AList fun _ : BlockNum => OperatorsAvsState

/-- Lines 22–26, for one test operator: stored under its address, replacing any earlier one. -/
def storeTestOperator (blockNum : BlockNum) (stored : OperatorsAvsState) (operator : TestOperator) :
    OperatorsAvsState :=
  stored.insert operator.operator ⟨operator.operator, operator.stakePerQuorum, blockNum⟩

/-- Lines 21–28: the test operators stored one by one at `blockNum`. -/
def storeTestOperators (blockNum : BlockNum) (operators : List TestOperator) : OperatorsAvsState :=
  operators.foldl (storeTestOperator blockNum) ∅

/-- `NewFakeAvsRegistryService`, lines 15–29: one stored map, at `blockNum`. -/
def newFakeAvsRegistryService (blockNum : BlockNum) (operators : List TestOperator) :
    FakeAvsRegistryService :=
  ⟨AList.singleton blockNum (storeTestOperators blockNum operators)⟩

/-- The stake table of quorum `q` read off a stored operator map: every stored operator
holding a stake in `q`, with that stake. -/
def storedTable (stored : OperatorsAvsState) (q : QuorumNum) : QuorumStakeTable :=
  stored.entries.filterMap fun e => (e.2.stakePerQuorum.lookup q).map (.mk e.1)

namespace FakeAvsRegistryService

/-- `GetOperatorsAvsStateAtBlock`, lines 33–39: the stored map, whatever quorums are asked. -/
def getOperatorsAvsStateAtBlock (f : FakeAvsRegistryService) (_quorumNumbers : List QuorumNum)
    (blockNumber : BlockNum) : Except Error OperatorsAvsState :=
  match f.operators.lookup blockNumber with
  | none => .error (.new "block number not found")
  | some operatorsAvsState => .ok operatorsAvsState

/-- `GetQuorumsAvsStateAtBlock`, lines 41–62: the chain caller's totals loop over the stored
map; `order` gives the order of each `range` over it. -/
def getQuorumsAvsStateAtBlock (f : FakeAvsRegistryService) (order : MapOrder)
    (quorumNumbers : List QuorumNum) (blockNumber : BlockNum) : Except Error QuorumsAvsState :=
  match f.operators.lookup blockNumber with
  | none => .error (.new "block number not found")
  | some operatorsAvsState => .ok (quorumsAvsStateOf order quorumNumbers operatorsAvsState blockNumber)

/-- The stake table of quorum `q` that a chain agreeing with the fake's store at
`blockNumber` holds. -/
def stakeTable (f : FakeAvsRegistryService) (blockNumber : BlockNum) (q : QuorumNum) :
    QuorumStakeTable :=
  storedTable ((f.operators.lookup blockNumber).getD ∅) q

/-- A response agrees with the fake's store: one table per requested quorum, listing the
stored operators that hold a stake in it, once each, in any order. -/
def Answers (f : FakeAvsRegistryService) (blockNumber : BlockNum) (quorumNumbers : List QuorumNum)
    (tables : List QuorumStakeTable) : Prop :=
  List.Forall₂ (fun q t => t.Perm (f.stakeTable blockNumber q)) quorumNumbers tables

/-- A chain that reads the fake's own store agrees with it. -/
theorem answers_map_stakeTable (f : FakeAvsRegistryService) (b : BlockNum) (Q : List QuorumNum) :
    f.Answers b Q (Q.map (f.stakeTable b)) := by
  induction Q with
  | nil => exact .nil
  | cons q Q ih => exact .cons (.refl _) ih

end FakeAvsRegistryService

/-- The fake answers at its own block with the store its operators built. -/
theorem newFakeAvsRegistryService_lookup (b : BlockNum) (ops : List TestOperator) :
    (newFakeAvsRegistryService b ops).operators.lookup b = some (storeTestOperators b ops) := by
  simp [newFakeAvsRegistryService, ← AList.insert_empty]

/-- Storing test operators one by one leaves each address with the last one given for it. -/
theorem lookup_foldl_storeTestOperator (b : BlockNum) (ops : List TestOperator)
    (stored : OperatorsAvsState) (o : OperatorAddr) :
    (ops.foldl (storeTestOperator b) stored).lookup o =
      (((ops.filter (·.operator = o)).getLast?).map fun op => ⟨o, op.stakePerQuorum, b⟩).or
        (stored.lookup o) := by
  induction ops generalizing stored with
  | nil => simp
  | cons op ops ih =>
    rw [List.foldl_cons, ih]
    by_cases ho : op.operator = o
    · subst ho
      cases h : (ops.filter (·.operator = op.operator)).getLast? <;>
        simp [storeTestOperator, List.filter_cons, List.getLast?_cons, h]
    · simp [storeTestOperator, List.filter_cons, ho, AList.lookup_insert_ne (Ne.symm ho)]

/-- The table the fake derives for quorum `q` lists operator `o` once, with its stake in `q`,
when it holds one, and not at all otherwise. -/
private theorem filter_filterMap_entries (q : QuorumNum) (o : OperatorAddr) :
    ∀ l : List OperatorEntry, l.NodupKeys →
      (l.filterMap fun e => (e.2.stakePerQuorum.lookup q).map
          (OperatorStateRetrieverOperator.mk e.1)).filter (·.operator = o) =
        ((l.dlookup o).bind (·.stakePerQuorum.lookup q)).toList.map (OperatorStateRetrieverOperator.mk o)
  | [], _ => rfl
  | ⟨a, st⟩ :: l, hl => by
    rw [List.nodupKeys_cons] at hl
    have ih := filter_filterMap_entries q o l hl.2
    rw [List.filterMap_cons]
    by_cases ha : a = o
    · subst ha
      rw [List.dlookup_eq_none.mpr hl.1, Option.none_bind, Option.toList_none, List.map_nil] at ih
      rw [List.dlookup_cons_eq]
      cases h : st.stakePerQuorum.lookup q <;> simp [ih, h]
    · rw [List.dlookup_cons_ne _ _ (Ne.symm ha), ← ih]
      cases h : st.stakePerQuorum.lookup q <;> simp [ha, h]

/-- A stored table lists an operator at most once: with its stake when it holds one in the
quorum, not at all otherwise. -/
theorem filter_storedTable (stored : OperatorsAvsState) (q : QuorumNum) (o : OperatorAddr) :
    (storedTable stored q).filter (·.operator = o) =
      ((stored.lookup o).bind (·.stakePerQuorum.lookup q)).toList.map
        (OperatorStateRetrieverOperator.mk o) :=
  filter_filterMap_entries q o stored.entries stored.nodupKeys

/-- The last entry for `o` among the tables requested for `q`, when each table's entries for
`o` are fixed by its quorum. -/
theorem getLast?_filter_tablesFor {o : OperatorAddr} {F : QuorumNum → QuorumStakeTable}
    {Q : List QuorumNum} {T : List QuorumStakeTable}
    (h : List.Forall₂ (fun q t => t.filter (·.operator = o) = F q) Q T) (q : QuorumNum) :
    ((tablesFor Q T q).filter (·.operator = o)).getLast? = if q ∈ Q then (F q).getLast? else none := by
  induction h with
  | nil => simp [tablesFor]
  | @cons q' t Q T hqt _ ih =>
    rw [tablesFor_cons, List.filter_append, List.getLast?_append, ih]
    by_cases hq : q' = q
    · subst hq
      by_cases hmem : q' ∈ Q <;> simp [hmem, hqt]
    · simp [hq, Ne.symm hq]

namespace FakeAvsRegistryService

/-- On a response that agrees with the fake's store, the last stake the chain caller records
for `o` in `q` is the stored one, for the requested quorums. -/
theorem lastStake_of_answers {b : BlockNum} {ops : List TestOperator} {Q : List QuorumNum}
    {T : List QuorumStakeTable} (h : (newFakeAvsRegistryService b ops).Answers b Q T)
    (o : OperatorAddr) (q : QuorumNum) :
    lastStake Q T o q = if q ∈ Q then
      ((storeTestOperators b ops).lookup o).bind (·.stakePerQuorum.lookup q) else none := by
  have hfilter : List.Forall₂ (fun q t => t.filter (·.operator = o) =
      (((storeTestOperators b ops).lookup o).bind (·.stakePerQuorum.lookup q)).toList.map
        (OperatorStateRetrieverOperator.mk o)) Q T := by
    refine h.imp fun q t hp => ?_
    have hp' := hp.filter (·.operator = o)
    rw [stakeTable, newFakeAvsRegistryService_lookup, Option.getD_some, filter_storedTable] at hp'
    cases hv : ((storeTestOperators b ops).lookup o).bind (·.stakePerQuorum.lookup q) <;>
      simp_all [List.perm_singleton]
  rw [lastStake, getLast?_filter_tablesFor hfilter]
  by_cases hq : q ∈ Q
  · cases hv : ((storeTestOperators b ops).lookup o).bind (·.stakePerQuorum.lookup q) <;> simp [hq, hv]
  · simp [hq]

end FakeAvsRegistryService

section Results

open AvsRegistryServiceChainCaller FakeAvsRegistryService

/-- On a chain that agrees with the fake's store, the chain caller and the fake give the same
per-quorum view, whatever orders their loops visit their operator maps in: the same quorums,
each with the same number, block and total. -/
theorem getQuorumsAvsStateAtBlock_eq_fake (ar : AvsRegistryServiceChainCaller)
    (order₁ order₂ : MapOrder) (ctx : Context) (b : BlockNum) (ops : List TestOperator)
    (Q : List QuorumNum) (T : List QuorumStakeTable)
    (hT : ar.avsRegistryReader.getOperatorsStakeInQuorumsAtBlock { context := some ctx } Q b = .ok T)
    (hanswers : (newFakeAvsRegistryService b ops).Answers b Q T) :
    ∃ R₁ R₂, ar.getQuorumsAvsStateAtBlock order₁ ctx Q b = .ret (.ok R₁) ∧
      (newFakeAvsRegistryService b ops).getQuorumsAvsStateAtBlock order₂ Q b = .ok R₂ ∧
      ∀ q, R₁.lookup q = R₂.lookup q := by
  obtain ⟨M, hM, hlook⟩ := getOperatorsAvsStateAtBlock_view hT hanswers.length_eq.symm
  refine ⟨quorumsAvsStateOf order₁ Q M b, quorumsAvsStateOf order₂ Q (storeTestOperators b ops) b,
    by simp [AvsRegistryServiceChainCaller.getQuorumsAvsStateAtBlock, hM],
    by simp [FakeAvsRegistryService.getQuorumsAvsStateAtBlock, newFakeAvsRegistryService_lookup],
    fun q => ?_⟩
  rw [quorumsAvsStateOf_lookup, quorumsAvsStateOf_lookup]
  by_cases hq : q ∈ Q
  · rw [if_pos hq, if_pos hq, totalStakeIn_congr q fun o => ?_]
    rw [hlook, stakeAt_operatorsView]
    change (lastStake Q T o q).getD 0 = _
    rw [lastStake_of_answers hanswers, if_pos hq]
    cases (storeTestOperators b ops).lookup o <;> rfl
  · simp [hq]

/-- Go draws a fresh order for every `range` over a map; no choice of orders changes either
service's per-quorum view. -/
theorem getQuorumsAvsStateAtBlock_order_independent (ar : AvsRegistryServiceChainCaller)
    (f : FakeAvsRegistryService) (order₁ order₂ : MapOrder) (ctx : Context) (Q : List QuorumNum)
    (b : BlockNum) :
    ar.getQuorumsAvsStateAtBlock order₁ ctx Q b = ar.getQuorumsAvsStateAtBlock order₂ ctx Q b ∧
      f.getQuorumsAvsStateAtBlock order₁ Q b = f.getQuorumsAvsStateAtBlock order₂ Q b := by
  simp only [AvsRegistryServiceChainCaller.getQuorumsAvsStateAtBlock,
    FakeAvsRegistryService.getQuorumsAvsStateAtBlock, quorumsAvsStateOf,
    quorumsAvsStateLoop_order_eq order₁ order₂, and_self]

/-- The fake answers at its construction block only; there it holds every test operator under
its address, the last one given for an address replacing the earlier ones. -/
theorem newFakeAvsRegistryService_stores_last (b : BlockNum) (ops : List TestOperator)
    (order : MapOrder) (Q : List QuorumNum) :
    (∀ b', b' ≠ b →
      (newFakeAvsRegistryService b ops).getOperatorsAvsStateAtBlock Q b' =
        .error (.new "block number not found") ∧
      (newFakeAvsRegistryService b ops).getQuorumsAvsStateAtBlock order Q b' =
        .error (.new "block number not found")) ∧
    ∃ M, (newFakeAvsRegistryService b ops).getOperatorsAvsStateAtBlock Q b = .ok M ∧
      ∀ o, M.lookup o =
        ((ops.filter (·.operator = o)).getLast?).map fun op => ⟨o, op.stakePerQuorum, b⟩ := by
  refine ⟨fun b' hb' => ?_, storeTestOperators b ops,
    by simp [FakeAvsRegistryService.getOperatorsAvsStateAtBlock, newFakeAvsRegistryService_lookup],
    fun o => ?_⟩
  · have : (newFakeAvsRegistryService b ops).operators.lookup b' = none := by
      simp [newFakeAvsRegistryService, ← AList.insert_empty, AList.lookup_insert_ne hb']
    simp [FakeAvsRegistryService.getOperatorsAvsStateAtBlock,
      FakeAvsRegistryService.getQuorumsAvsStateAtBlock, this]
  · rw [storeTestOperators, lookup_foldl_storeTestOperator]
    simp

/-- One operator with a stake in quorum 1 only, one with a stake in quorum 2 only. -/
def sampleOperators : List TestOperator :=
  [⟨1, AList.singleton 1 100⟩, ⟨2, AList.singleton 2 70⟩]

/-- The fake holding `sampleOperators` at block 5. -/
def sampleFake : FakeAvsRegistryService := newFakeAvsRegistryService 5 sampleOperators

/-- A chain caller whose chain reads `sampleFake`'s store. -/
def sampleFakeChain : AvsRegistryServiceChainCaller :=
  ⟨⟨fun _ Q b => .ok (Q.map (sampleFake.stakeTable b))⟩, ⟨true⟩⟩

/-- A chain that answers the fake's tables for quorums 1 and 2: both services give the same
totals. -/
theorem getQuorumsAvsStateAtBlock_eq_fake_sample :
    sampleFakeChain.avsRegistryReader.getOperatorsStakeInQuorumsAtBlock { context := some ⟨0⟩ }
        [1, 2] 5 = .ok ([1, 2].map (sampleFake.stakeTable 5)) ∧
      sampleFake.Answers 5 [1, 2] ([1, 2].map (sampleFake.stakeTable 5)) ∧
      ∃ R₁ R₂, sampleFakeChain.getQuorumsAvsStateAtBlock .insertion ⟨0⟩ [1, 2] 5 = .ret (.ok R₁) ∧
        sampleFake.getQuorumsAvsStateAtBlock .insertion [1, 2] 5 = .ok R₂ ∧
        ∀ q, R₁.lookup q = R₂.lookup q :=
  ⟨rfl, answers_map_stakeTable _ _ _,
    getQuorumsAvsStateAtBlock_eq_fake sampleFakeChain .insertion .insertion ⟨0⟩ 5 sampleOperators
      [1, 2] _ rfl (answers_map_stakeTable _ _ _)⟩

end Results

end AvsRegistry
