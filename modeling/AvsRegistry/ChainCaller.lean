import AvsRegistry.OperatorState
import AvsRegistry.QuorumState

/-!
# The chain-calling AVS registry service

`AvsRegistryServiceChainCaller` (`avsregistry_chaincaller.go`) asks its reader for the
stake tables of the requested quorums at a block, folds them into the per-operator view,
and sums that view into the per-quorum view. The reader is an interface; here it is the
response it gives.

With a table for every requested quorum, the per-operator view holds exactly the operators
of the tables, each with the last stake its tables record per quorum, and a quorum's total
counts each operator of its tables once, at that stake. With a response of
another length the call never returns an error: it logs through `logger.Fatal`, which
aborts the process with the production logger; with a logger that returns, the loop either
ignores the extra tables or panics reading past the last one.
-/

namespace AvsRegistry

/-- The `AvsRegistryReader` method the service calls, as the response it gives. -/
structure AvsRegistryReader where
  getOperatorsStakeInQuorumsAtBlock :
    CallOpts → List QuorumNum → BlockNum → Except Error (List QuorumStakeTable)

/-- `AvsRegistryServiceChainCaller`: the embedded reader and the logger. -/
structure AvsRegistryServiceChainCaller where
  avsRegistryReader : AvsRegistryReader
  logger : Logger

namespace AvsRegistryServiceChainCaller

/-- The message of the `logger.Fatal` call at line 39. -/
def quorumCountMismatch : String :=
  "Number of quorums returned from GetOperatorsStakeInQuorumsAtBlock does not match number of " ++
    "quorums requested. Probably pointing to old contract or wrong implementation."

/-- `GetOperatorsAvsStateAtBlock`, lines 30–63. -/
def getOperatorsAvsStateAtBlock (ar : AvsRegistryServiceChainCaller) (ctx : Context)
    (quorumNumbers : List QuorumNum) (blockNumber : BlockNum) : Outcome OperatorsAvsState :=
  match ar.avsRegistryReader.getOperatorsStakeInQuorumsAtBlock { context := some ctx }
      quorumNumbers blockNumber with
  | .error err => .ret (.error (wrapError (.new "Failed to get operator state") (some err)))
  | .ok operatorsStakesInQuorums =>
    let build : Outcome OperatorsAvsState :=
      match buildLoop blockNumber quorumNumbers operatorsStakesInQuorums .empty with
      | none => .panic "index out of range"
      | some s => .ret (.ok s.snapshot)
    if operatorsStakesInQuorums.length ≠ quorumNumbers.length then
      ar.logger.fatal quorumCountMismatch build
    else build

/-- `GetQuorumsAvsStateAtBlock`, lines 65–86; `order` gives the order of each `range` over
the operator map. -/
def getQuorumsAvsStateAtBlock (ar : AvsRegistryServiceChainCaller) (order : MapOrder)
    (ctx : Context) (quorumNumbers : List QuorumNum) (blockNumber : BlockNum) :
    Outcome QuorumsAvsState :=
  match ar.getOperatorsAvsStateAtBlock ctx quorumNumbers blockNumber with
  | .ret (.error err) => .ret (.error (wrapError (.new "Failed to get quorum state") (some err)))
  | .ret (.ok operatorsAvsState) =>
    .ret (.ok (quorumsAvsStateOf order quorumNumbers operatorsAvsState blockNumber))
  | .exit msg => .exit msg
  | .panic msg => .panic msg

end AvsRegistryServiceChainCaller

open AvsRegistryServiceChainCaller

/-- The abstract per-operator view of index-aligned tables at a block. -/
def operatorsView (blockNumber : BlockNum) (quorumNumbers : List QuorumNum)
    (tables : List QuorumStakeTable) : OperatorView :=
  viewRun blockNumber (stakeWrites quorumNumbers tables) fun _ => none

/-- The abstract view of the tables meets `ViewSpec` for the tables' writes. -/
theorem operatorsView_spec (b : BlockNum) (Q : List QuorumNum) (T : List QuorumStakeTable) :
    ViewSpec b (stakeWrites Q T) (operatorsView b Q T) := by
  simpa using viewSpec_run (viewSpec_nil b) (stakeWrites Q T)

section Service

variable {ar : AvsRegistryServiceChainCaller} {ctx : Context} {Q : List QuorumNum} {b : BlockNum}
  {T : List QuorumStakeTable}

/-- With a table for every requested quorum, the service returns a map whose lookups are the
abstract view's: the faithful model refines `operatorsView`. -/
theorem getOperatorsAvsStateAtBlock_view
    (hT : ar.avsRegistryReader.getOperatorsStakeInQuorumsAtBlock { context := some ctx } Q b = .ok T)
    (hlen : T.length = Q.length) :
    ∃ M, ar.getOperatorsAvsStateAtBlock ctx Q b = .ret (.ok M) ∧
      ∀ o, M.lookup o = operatorsView b Q T o := by
  obtain ⟨s, hrun, -, hview⟩ := buildLoop_view BuildState.separated_empty b Q T hlen.ge
  refine ⟨s.snapshot, by simp [getOperatorsAvsStateAtBlock, hT, hlen, hrun], fun o => ?_⟩
  rw [BuildState.snapshot_lookup, hview]
  rfl

/-- The two cases of `avsregistry_chaincaller_test.go`, with its no-op logger: one operator
holding 123 in quorum 1 at block 1. -/
example : AvsRegistryServiceChainCaller.getOperatorsAvsStateAtBlock
    ⟨⟨fun _ _ _ => .ok [[⟨1, 123⟩]]⟩, ⟨false⟩⟩ ⟨0⟩ [1] 1 =
      .ret (.ok (AList.singleton 1 ⟨1, AList.singleton 1 123, 1⟩)) := rfl

example : AvsRegistryServiceChainCaller.getQuorumsAvsStateAtBlock
    ⟨⟨fun _ _ _ => .ok [[⟨1, 123⟩]]⟩, ⟨false⟩⟩ .insertion ⟨0⟩ [1] 1 =
      .ret (.ok (AList.singleton 1 ⟨1, 123, 1⟩)) := rfl

end Service

/-- Go's maps are references: the loop allocates one stake map per operator and writes
through it. Over any run it never shares a map between two operators, and what it leaves is
the abstract view of the tables. -/
theorem buildLoop_refines_operatorsView (b : BlockNum) (Q : List QuorumNum) (T : List QuorumStakeTable)
    (hlen : Q.length ≤ T.length) :
    ∃ s, buildLoop b Q T .empty = some s ∧ s.Separated ∧
      ∀ o, s.snapshot.lookup o = operatorsView b Q T o := by
  obtain ⟨s, hrun, hs, hview⟩ := buildLoop_view BuildState.separated_empty b Q T hlen
  exact ⟨s, hrun, hs, fun o => by rw [BuildState.snapshot_lookup, hview]; rfl⟩

/-- Two tables that both list operator 1: the loop keeps its maps apart and leaves the view. -/
theorem buildLoop_refines_operatorsView_sample :
    [(1 : QuorumNum), 2].length ≤
        [[OperatorStateRetrieverOperator.mk 1 100], [⟨1, 30⟩, ⟨2, 70⟩]].length ∧
      ∃ s, buildLoop 5 [1, 2] [[⟨1, 100⟩], [⟨1, 30⟩, ⟨2, 70⟩]] .empty = some s ∧ s.Separated ∧
        ∀ o, s.snapshot.lookup o = operatorsView 5 [1, 2] [[⟨1, 100⟩], [⟨1, 30⟩, ⟨2, 70⟩]] o :=
  ⟨by decide, buildLoop_refines_operatorsView 5 [1, 2] _ (by decide)⟩

/-- The stake the view holds for `o` in `q` is the last one listed for `o` among the tables
requested for `q`. -/
theorem bind_operatorsView (b : BlockNum) (Q : List QuorumNum) (T : List QuorumStakeTable)
    (o : OperatorAddr) (q : QuorumNum) :
    (operatorsView b Q T o).bind (·.stakePerQuorum.lookup q) = lastStake Q T o q := by
  rw [← lastWrite_stakeWrites]
  exact (operatorsView_spec b Q T).bind_lookup o q

/-- What the chain caller's view holds in quorum `q` under operator `o` is the stake of the
last entry for `o` among the tables requested for `q`, zero for none. -/
theorem stakeAt_operatorsView (b : BlockNum) (Q : List QuorumNum) (T : List QuorumStakeTable)
    (o : OperatorAddr) (q : QuorumNum) :
    stakeAt q (operatorsView b Q T o) = tableStake (tablesFor Q T q) o := by
  rw [stakeAt_eq_getD_bind, bind_operatorsView]
  rfl

/-- The view has an entry for `o` exactly when some requested quorum's tables list `o`. -/
theorem isSome_operatorsView (b : BlockNum) (Q : List QuorumNum) (T : List QuorumStakeTable)
    (o : OperatorAddr) : (operatorsView b Q T o).isSome ↔ ∃ q, (lastStake Q T o q).isSome := by
  simp only [(operatorsView_spec b Q T).isSome_iff, exists_write_iff_lastWrite_isSome,
    lastWrite_stakeWrites]

/-- A map holding the view of the tables totals, for `q`, the last stake of each operator
listed in the tables requested for `q`, each operator counted once. -/
theorem totalStakeIn_operatorsView {b : BlockNum} {Q : List QuorumNum} {T : List QuorumStakeTable}
    {M : OperatorsAvsState} (hM : ∀ o, M.lookup o = operatorsView b Q T o) (q : QuorumNum) :
    totalStakeIn q M.entries =
      ∑ o ∈ ((tablesFor Q T q).map (·.operator)).toFinset, tableStake (tablesFor Q T q) o := by
  let ops := ((tablesFor Q T q).map (·.operator)).toFinset
  calc totalStakeIn q M.entries
      = ∑ o ∈ M.keys.toFinset ∪ ops, stakeAt q (M.lookup o) :=
        totalStakeIn_eq_sum_keys q M _ fun o ho => by simp [AList.mem_keys.mp ho]
    _ = ∑ o ∈ M.keys.toFinset ∪ ops, tableStake (tablesFor Q T q) o :=
        Finset.sum_congr rfl fun o _ => by rw [hM, stakeAt_operatorsView]
    _ = ∑ o ∈ ops, tableStake (tablesFor Q T q) o :=
        (Finset.sum_subset Finset.subset_union_right fun o _ ho =>
          tableStake_of_not_mem fun h => ho (List.mem_toFinset.mpr h)).symm

/-- A quorum that is not requested gets no tables. -/
theorem tablesFor_eq_nil {Q : List QuorumNum} (T : List QuorumStakeTable) {q : QuorumNum}
    (hq : q ∉ Q) : tablesFor Q T q = [] := by
  have : (Q.zip T).filter (·.1 = q) = [] :=
    List.filter_eq_nil_iff.mpr fun p hp h => hq (of_decide_eq_true h ▸ (List.of_mem_zip hp).1)
  rw [tablesFor, this]
  rfl

/-- With no quorum requested twice, the tables requested for `Q[i]` are `T[i]` alone. -/
theorem tablesFor_getElem {Q : List QuorumNum} {T : List QuorumStakeTable} (hQ : Q.Nodup)
    (hlen : T.length = Q.length) (i : Nat) (hi : i < Q.length) :
    tablesFor Q T Q[i] = T.get ⟨i, hlen ▸ hi⟩ := by
  induction Q generalizing T i with
  | nil => simp at hi
  | cons q Q ih =>
    cases T with
    | nil => simp at hlen
    | cons t T =>
      rw [List.nodup_cons] at hQ
      cases i with
      | zero => simp [tablesFor_eq_nil T hQ.1]
      | succ i =>
        have hi' : i < Q.length := by simpa using hi
        have hne : q ≠ Q[i] := fun h => hQ.1 (h ▸ List.getElem_mem hi')
        simpa [hne] using ih hQ.2 (by simpa using hlen) i hi'

section Results

open AvsRegistryServiceChainCaller

/-- Two stake tables: operator 1 holds 100 in the first; operators 1 and 2 hold 30 and 70 in
the second. -/
def sampleTables : List QuorumStakeTable := [[⟨1, 100⟩], [⟨1, 30⟩, ⟨2, 70⟩]]

/-- A service whose reader answers `sampleTables` to every query, with an aborting logger. -/
def sampleService : AvsRegistryServiceChainCaller := ⟨⟨fun _ _ _ => .ok sampleTables⟩, ⟨true⟩⟩

/-- With a table for every requested quorum, the per-operator view holds exactly the
operators of the tables; each carries its address and the block, has a stake for exactly
the quorums whose tables list it, and that stake is its last entry's among those tables. -/
theorem getOperatorsAvsStateAtBlock_tables (ar : AvsRegistryServiceChainCaller) (ctx : Context)
    (Q : List QuorumNum) (b : BlockNum) (T : List QuorumStakeTable)
    (hT : ar.avsRegistryReader.getOperatorsStakeInQuorumsAtBlock { context := some ctx } Q b = .ok T)
    (hlen : T.length = Q.length) :
    ∃ M, ar.getOperatorsAvsStateAtBlock ctx Q b = .ret (.ok M) ∧
      (∀ o, o ∈ M ↔ ∃ t ∈ T, o ∈ t.map (·.operator)) ∧
      ∀ o st, M.lookup o = some st → st.operator = o ∧ st.blockNumber = b ∧
        ∀ q, (q ∈ st.stakePerQuorum ↔ o ∈ (tablesFor Q T q).map (·.operator)) ∧
          st.stakePerQuorum.lookup q = lastStake Q T o q := by
  obtain ⟨M, hM, hlook⟩ := getOperatorsAvsStateAtBlock_view hT hlen
  have hspec := operatorsView_spec b Q T
  refine ⟨M, hM, fun o => ?_, fun o st hst => ?_⟩
  · rw [← AList.lookup_isSome, hlook, hspec.isSome_iff, exists_stakeWrites_iff Q T o hlen.le]
  · obtain ⟨hop, hbn, hq⟩ := hspec.entry ((hlook o).symm.trans hst)
    refine ⟨hop, hbn, fun q => ?_⟩
    rw [← AList.lookup_isSome, hq, lastWrite_stakeWrites, lastStake_isSome]
    exact ⟨Iff.rfl, rfl⟩

/-- Operator 1 is met in both `sampleTables`: its stakes in quorums 1 and 2 both survive. -/
theorem getOperatorsAvsStateAtBlock_tables_sample :
    sampleService.avsRegistryReader.getOperatorsStakeInQuorumsAtBlock { context := some ⟨0⟩ }
        [1, 2] 5 = .ok sampleTables ∧
      sampleTables.length = [(1 : QuorumNum), 2].length ∧
      ∃ M, sampleService.getOperatorsAvsStateAtBlock ⟨0⟩ [1, 2] 5 = .ret (.ok M) ∧
        (∀ o, o ∈ M ↔ ∃ t ∈ sampleTables, o ∈ t.map (·.operator)) ∧
        ∀ o st, M.lookup o = some st → st.operator = o ∧ st.blockNumber = 5 ∧
          ∀ q, (q ∈ st.stakePerQuorum ↔ o ∈ (tablesFor [1, 2] sampleTables q).map (·.operator)) ∧
            st.stakePerQuorum.lookup q = lastStake [1, 2] sampleTables o q :=
  ⟨rfl, rfl, getOperatorsAvsStateAtBlock_tables sampleService ⟨0⟩ [1, 2] 5 sampleTables rfl rfl⟩

/-- With no quorum requested twice and no operator listed twice in a table, every requested
quorum, and no other, gets an entry at the block whose total is the sum of its table. -/
theorem getQuorumsAvsStateAtBlock_totals (ar : AvsRegistryServiceChainCaller) (order : MapOrder)
    (ctx : Context) (Q : List QuorumNum) (b : BlockNum) (T : List QuorumStakeTable)
    (hT : ar.avsRegistryReader.getOperatorsStakeInQuorumsAtBlock { context := some ctx } Q b = .ok T)
    (hlen : T.length = Q.length) (hQ : Q.Nodup) (hops : ∀ t ∈ T, (t.map (·.operator)).Nodup) :
    ∃ R, ar.getQuorumsAvsStateAtBlock order ctx Q b = .ret (.ok R) ∧ (∀ q, q ∈ R ↔ q ∈ Q) ∧
      ∀ i (hi : i < Q.length),
        R.lookup Q[i] = some ⟨Q[i], ((T.get ⟨i, hlen ▸ hi⟩).map (·.stake)).sum, b⟩ := by
  obtain ⟨M, hM, hlook⟩ := getOperatorsAvsStateAtBlock_view hT hlen
  refine ⟨quorumsAvsStateOf order Q M b, by simp [getQuorumsAvsStateAtBlock, hM], fun q => ?_,
    fun i hi => ?_⟩
  · rw [← AList.lookup_isSome, quorumsAvsStateOf_lookup]
    by_cases hq : q ∈ Q <;> simp [hq]
  · let t := T.get ⟨i, hlen ▸ hi⟩
    rw [quorumsAvsStateOf_lookup, if_pos (List.getElem_mem hi), totalStakeIn_operatorsView hlook,
      tablesFor_getElem hQ hlen i hi, sum_table_eq_sum_keys t (hops t (List.get_mem _ _ _)) _
        fun e he => List.mem_toFinset.mpr (List.mem_map_of_mem _ he)]

/-- The totals of `sampleTables` for quorums 1 and 2 are 100 and 100. -/
theorem getQuorumsAvsStateAtBlock_totals_sample :
    sampleService.avsRegistryReader.getOperatorsStakeInQuorumsAtBlock { context := some ⟨0⟩ }
        [1, 2] 5 = .ok sampleTables ∧
      sampleTables.length = [(1 : QuorumNum), 2].length ∧ [(1 : QuorumNum), 2].Nodup ∧
      (∀ t ∈ sampleTables, (t.map (·.operator)).Nodup) ∧
      ∃ R, sampleService.getQuorumsAvsStateAtBlock .insertion ⟨0⟩ [1, 2] 5 = .ret (.ok R) ∧
        (∀ q, q ∈ R ↔ q ∈ [(1 : QuorumNum), 2]) ∧
        ∀ i (hi : i < [(1 : QuorumNum), 2].length), R.lookup [(1 : QuorumNum), 2][i] =
          some ⟨[(1 : QuorumNum), 2][i], ((sampleTables.get ⟨i, hi⟩).map (·.stake)).sum, 5⟩ :=
  ⟨rfl, rfl, by decide, by decide,
    getQuorumsAvsStateAtBlock_totals sampleService .insertion ⟨0⟩ [1, 2] 5 sampleTables rfl rfl
      (by decide) (by decide)⟩

/-- A response whose length differs from the number of requested quorums is never returned
as an error: the call reaches `logger.Fatal`, and with a logger that aborts the process
neither view returns at all. -/
theorem getOperatorsAvsStateAtBlock_exit_of_length_ne (ar : AvsRegistryServiceChainCaller)
    (order : MapOrder) (ctx : Context) (Q : List QuorumNum) (b : BlockNum) (T : List QuorumStakeTable)
    (hT : ar.avsRegistryReader.getOperatorsStakeInQuorumsAtBlock { context := some ctx } Q b = .ok T)
    (hlen : T.length ≠ Q.length) (hexit : ar.logger.fatalExits = true) :
    ar.getOperatorsAvsStateAtBlock ctx Q b = .exit quorumCountMismatch ∧
      ar.getQuorumsAvsStateAtBlock order ctx Q b = .exit quorumCountMismatch := by
  have h : ar.getOperatorsAvsStateAtBlock ctx Q b = .exit quorumCountMismatch := by
    simp [getOperatorsAvsStateAtBlock, hT, hlen, Logger.fatal, hexit]
  exact ⟨h, by simp [getQuorumsAvsStateAtBlock, h]⟩

/-- Two tables for one requested quorum, under an aborting logger: both views exit. -/
theorem getOperatorsAvsStateAtBlock_exit_of_length_ne_sample :
    sampleService.avsRegistryReader.getOperatorsStakeInQuorumsAtBlock { context := some ⟨0⟩ }
        [1] 5 = .ok sampleTables ∧
      sampleTables.length ≠ [(1 : QuorumNum)].length ∧ sampleService.logger.fatalExits = true ∧
      sampleService.getOperatorsAvsStateAtBlock ⟨0⟩ [1] 5 = .exit quorumCountMismatch ∧
      sampleService.getQuorumsAvsStateAtBlock .insertion ⟨0⟩ [1] 5 = .exit quorumCountMismatch :=
  ⟨rfl, by decide, rfl,
    getOperatorsAvsStateAtBlock_exit_of_length_ne sampleService .insertion ⟨0⟩ [1] 5 sampleTables rfl
      (by decide) rfl⟩

/-- Two tables for one requested quorum: the call returns no error at all, so in particular
not a `ContractMismatchError`. -/
theorem getOperatorsAvsStateAtBlock_mismatch_not_error :
    ¬ ∃ e, sampleService.getOperatorsAvsStateAtBlock ⟨0⟩ [1] 5 = .ret (.error e) := by
  rintro ⟨e, he⟩
  simp [getOperatorsAvsStateAtBlock, Logger.fatal, sampleService, sampleTables] at he

/-- A service whose reader answers `sampleTables`, with a logger whose `Fatal` returns. -/
def sampleReturningService : AvsRegistryServiceChainCaller :=
  ⟨sampleService.avsRegistryReader, ⟨false⟩⟩

/-- With a logger whose `Fatal` returns, a response longer than the request is cut to the
requested quorums' tables, and a shorter one panics at the first missing table. -/
theorem getOperatorsAvsStateAtBlock_of_fatal_returns (ar : AvsRegistryServiceChainCaller)
    (ctx : Context) (Q : List QuorumNum) (b : BlockNum) (T : List QuorumStakeTable)
    (hT : ar.avsRegistryReader.getOperatorsStakeInQuorumsAtBlock { context := some ctx } Q b = .ok T)
    (hret : ar.logger.fatalExits = false) :
    (T.length < Q.length → ar.getOperatorsAvsStateAtBlock ctx Q b = .panic "index out of range") ∧
      (Q.length ≤ T.length → ∃ M, ar.getOperatorsAvsStateAtBlock ctx Q b = .ret (.ok M) ∧
        ∀ o, M.lookup o = operatorsView b Q (T.take Q.length) o) := by
  have hfatal : ∀ next : Outcome OperatorsAvsState, ar.logger.fatal quorumCountMismatch next = next :=
    fun next => by simp [Logger.fatal, hret]
  refine ⟨fun hlt => ?_, fun hle => ?_⟩
  · simp [getOperatorsAvsStateAtBlock, hT, hfatal, buildLoop_of_length_lt b Q T _ hlt]
  · obtain ⟨s, hrun, -, hview⟩ := buildLoop_view BuildState.separated_empty b Q T hle
    refine ⟨s.snapshot, by simp [getOperatorsAvsStateAtBlock, hT, hfatal, hrun], fun o => ?_⟩
    rw [BuildState.snapshot_lookup, hview, operatorsView, stakeWrites_take]
    rfl

/-- Under a returning logger, two tables for three quorums panic, and for one quorum the first
table is used. -/
theorem getOperatorsAvsStateAtBlock_of_fatal_returns_sample :
    sampleReturningService.avsRegistryReader.getOperatorsStakeInQuorumsAtBlock { context := some ⟨0⟩ }
        [1] 5 = .ok sampleTables ∧
      sampleReturningService.logger.fatalExits = false ∧
      sampleReturningService.getOperatorsAvsStateAtBlock ⟨0⟩ [1, 2, 3] 5 = .panic "index out of range" ∧
      ∃ M, sampleReturningService.getOperatorsAvsStateAtBlock ⟨0⟩ [1] 5 = .ret (.ok M) ∧
        ∀ o, M.lookup o = operatorsView 5 [1] (sampleTables.take 1) o :=
  ⟨rfl, rfl,
    (getOperatorsAvsStateAtBlock_of_fatal_returns sampleReturningService ⟨0⟩ [1, 2, 3] 5 sampleTables
      rfl rfl).1 (by decide),
    (getOperatorsAvsStateAtBlock_of_fatal_returns sampleReturningService ⟨0⟩ [1] 5 sampleTables rfl
      rfl).2 (by decide)⟩

/-- Whatever quorums the request repeats and operators the tables repeat, each requested
quorum's total counts every operator of its tables once, at the last stake listed for it. -/
theorem getQuorumsAvsStateAtBlock_lastStake_totals (ar : AvsRegistryServiceChainCaller)
    (order : MapOrder) (ctx : Context) (Q : List QuorumNum) (b : BlockNum) (T : List QuorumStakeTable)
    (hT : ar.avsRegistryReader.getOperatorsStakeInQuorumsAtBlock { context := some ctx } Q b = .ok T)
    (hlen : T.length = Q.length) :
    ∃ R, ar.getQuorumsAvsStateAtBlock order ctx Q b = .ret (.ok R) ∧
      ∀ q, R.lookup q = if q ∈ Q then
        some ⟨q, ∑ o ∈ ((tablesFor Q T q).map (·.operator)).toFinset,
          tableStake (tablesFor Q T q) o, b⟩
        else none := by
  obtain ⟨M, hM, hlook⟩ := getOperatorsAvsStateAtBlock_view hT hlen
  refine ⟨quorumsAvsStateOf order Q M b, by simp [getQuorumsAvsStateAtBlock, hM], fun q => ?_⟩
  rw [quorumsAvsStateOf_lookup, totalStakeIn_operatorsView hlook]

/-- Quorum 1 requested twice: its total counts operator 1 once, at its last stake. -/
theorem getQuorumsAvsStateAtBlock_lastStake_totals_sample :
    sampleService.avsRegistryReader.getOperatorsStakeInQuorumsAtBlock { context := some ⟨0⟩ }
        [1, 1] 5 = .ok sampleTables ∧
      sampleTables.length = [(1 : QuorumNum), 1].length ∧
      ∃ R, sampleService.getQuorumsAvsStateAtBlock .insertion ⟨0⟩ [1, 1] 5 = .ret (.ok R) ∧
        ∀ q, R.lookup q = if q ∈ [(1 : QuorumNum), 1] then
          some ⟨q, ∑ o ∈ ((tablesFor [1, 1] sampleTables q).map (·.operator)).toFinset,
            tableStake (tablesFor [1, 1] sampleTables q) o, 5⟩
          else none :=
  ⟨rfl, rfl, getQuorumsAvsStateAtBlock_lastStake_totals sampleService .insertion ⟨0⟩ [1, 1] 5
    sampleTables rfl rfl⟩

/-- With no quorum requested twice, the order of the request does not matter: the same
quorums with the same tables, asked for in another order, give the same operators with the
same stakes, and the same quorum totals. -/
theorem getQuorumsAvsStateAtBlock_request_order (ar : AvsRegistryServiceChainCaller)
    (order : MapOrder) (ctx : Context) (Q₁ Q₂ : List QuorumNum) (b : BlockNum)
    (T₁ T₂ : List QuorumStakeTable)
    (hT₁ : ar.avsRegistryReader.getOperatorsStakeInQuorumsAtBlock { context := some ctx } Q₁ b = .ok T₁)
    (hT₂ : ar.avsRegistryReader.getOperatorsStakeInQuorumsAtBlock { context := some ctx } Q₂ b = .ok T₂)
    (hlen₁ : T₁.length = Q₁.length) (hlen₂ : T₂.length = Q₂.length) (hQ : Q₁.Nodup)
    (hperm : (Q₁.zip T₁).Perm (Q₂.zip T₂)) :
    ∃ M₁ M₂ R₁ R₂, ar.getOperatorsAvsStateAtBlock ctx Q₁ b = .ret (.ok M₁) ∧
      ar.getOperatorsAvsStateAtBlock ctx Q₂ b = .ret (.ok M₂) ∧
      ar.getQuorumsAvsStateAtBlock order ctx Q₁ b = .ret (.ok R₁) ∧
      ar.getQuorumsAvsStateAtBlock order ctx Q₂ b = .ret (.ok R₂) ∧
      (∀ o, o ∈ M₁ ↔ o ∈ M₂) ∧
      (∀ o q, (M₁.lookup o).bind (·.stakePerQuorum.lookup q) =
        (M₂.lookup o).bind (·.stakePerQuorum.lookup q)) ∧
      ∀ q, R₁.lookup q = R₂.lookup q := by
  have htables := tablesFor_eq_of_perm hQ hlen₁.ge hperm
  have hlast : ∀ o q, lastStake Q₁ T₁ o q = lastStake Q₂ T₂ o q := fun o q => by
    rw [lastStake, lastStake, htables]
  have hmem : ∀ q, q ∈ Q₁ ↔ q ∈ Q₂ := fun q => by
    rw [← List.map_fst_zip Q₁ T₁ hlen₁.ge, ← List.map_fst_zip Q₂ T₂ hlen₂.ge]
    exact (hperm.map _).mem_iff
  obtain ⟨M₁, hM₁, hlook₁⟩ := getOperatorsAvsStateAtBlock_view hT₁ hlen₁
  obtain ⟨M₂, hM₂, hlook₂⟩ := getOperatorsAvsStateAtBlock_view hT₂ hlen₂
  refine ⟨M₁, M₂, quorumsAvsStateOf order Q₁ M₁ b, quorumsAvsStateOf order Q₂ M₂ b, hM₁, hM₂,
    by simp [getQuorumsAvsStateAtBlock, hM₁],
    by simp [getQuorumsAvsStateAtBlock, hM₂], fun o => ?_, fun o q => ?_, fun q => ?_⟩
  · rw [← AList.lookup_isSome, ← AList.lookup_isSome, hlook₁, hlook₂, isSome_operatorsView,
      isSome_operatorsView]
    simp only [hlast]
  · rw [hlook₁, hlook₂, bind_operatorsView, bind_operatorsView, hlast]
  · rw [quorumsAvsStateOf_lookup, quorumsAvsStateOf_lookup, totalStakeIn_operatorsView hlook₁,
      totalStakeIn_operatorsView hlook₂, htables]
    simp only [hmem]

/-- The table of quorum 1 is `[(1, 100)]`; every other quorum's is `[(1, 30), (2, 70)]`. -/
def sampleQuorumTable (q : QuorumNum) : QuorumStakeTable :=
  if q = 1 then [⟨1, 100⟩] else [⟨1, 30⟩, ⟨2, 70⟩]

/-- A service whose reader answers each requested quorum with its `sampleQuorumTable`. -/
def sampleByQuorumService : AvsRegistryServiceChainCaller :=
  ⟨⟨fun _ Q _ => .ok (Q.map sampleQuorumTable)⟩, ⟨true⟩⟩

/-- The requests `[1, 2]` and `[2, 1]` with their tables give the same operators and totals. -/
theorem getQuorumsAvsStateAtBlock_request_order_sample :
    let T₁ := [(1 : QuorumNum), 2].map sampleQuorumTable
    let T₂ := [(2 : QuorumNum), 1].map sampleQuorumTable
    T₁.length = [(1 : QuorumNum), 2].length ∧ T₂.length = [(2 : QuorumNum), 1].length ∧
      [(1 : QuorumNum), 2].Nodup ∧ ([(1 : QuorumNum), 2].zip T₁).Perm ([(2 : QuorumNum), 1].zip T₂) ∧
      ∃ M₁ M₂ R₁ R₂, sampleByQuorumService.getOperatorsAvsStateAtBlock ⟨0⟩ [1, 2] 5 = .ret (.ok M₁) ∧
        sampleByQuorumService.getOperatorsAvsStateAtBlock ⟨0⟩ [2, 1] 5 = .ret (.ok M₂) ∧
        sampleByQuorumService.getQuorumsAvsStateAtBlock .insertion ⟨0⟩ [1, 2] 5 = .ret (.ok R₁) ∧
        sampleByQuorumService.getQuorumsAvsStateAtBlock .insertion ⟨0⟩ [2, 1] 5 = .ret (.ok R₂) ∧
        (∀ o, o ∈ M₁ ↔ o ∈ M₂) ∧
        (∀ o q, (M₁.lookup o).bind (·.stakePerQuorum.lookup q) =
          (M₂.lookup o).bind (·.stakePerQuorum.lookup q)) ∧
        ∀ q, R₁.lookup q = R₂.lookup q :=
  ⟨rfl, rfl, by decide, by decide,
    getQuorumsAvsStateAtBlock_request_order sampleByQuorumService .insertion ⟨0⟩ [1, 2] [2, 1] 5 _ _
      rfl rfl rfl rfl (by decide) (by decide)⟩

end Results

end AvsRegistry
