import AvsRegistry.Types

/-!
# Building the per-operator view through shared map references

`GetOperatorsAvsStateAtBlock` (`avsregistry_chaincaller.go`, lines 42–60) fills a map of
operator structs whose `StakePerQuorum` field is itself a Go map. A Go map value is a
reference: when an operator is met again, line 47 takes a copy of its struct, and the write
at line 48 goes through the copy's map field into the map the stored struct also holds.

The model keeps that mechanism. The quorum-stake maps live on a heap and the operator map
stores references to them. The loop is `buildStep` per table entry and `buildLoop` over the
requested quorums, exactly as the source reads. What a caller sees is the operator map
with every reference read off the heap (`BuildState.snapshot`).

The heap discipline (`BuildState.Separated`: every reference allocated, none shared) is
what makes a write through one operator's copy invisible to every other operator. Under it
one loop step acts on the caller's view as `viewStep` does, a plain update of value maps:
`buildStep_view` is that simulation, and `buildLoop_view` lifts it to the whole loop.
-/

namespace AvsRegistry

/-- A reference to a Go map on the heap. -/
abbrev Ref := Nat

/-- The quorum-stake maps the loop allocates: `cells r` is the map behind reference `r`, and
references from `next` on are free. -/
structure Heap where
  cells : Ref → StakeMap
  next : Ref

namespace Heap

/-- The heap before the loop allocates anything. -/
def empty : Heap := ⟨fun _ => ∅, 0⟩

/-- `make(map[types.QuorumNum]types.StakeAmount)`: an empty map at the first free reference. -/
def alloc (h : Heap) : Heap := ⟨Function.update h.cells h.next ∅, h.next + 1⟩

/-- `m[quorumNum] = stake` for the map behind `r`; every holder of `r` sees the write. -/
def write (h : Heap) (r : Ref) (quorumNum : QuorumNum) (stake : StakeAmount) : Heap :=
  ⟨Function.update h.cells r ((h.cells r).insert quorumNum stake), h.next⟩

/-- Allocation moves the first free reference on by one. -/
@[simp] theorem alloc_next (h : Heap) : h.alloc.next = h.next + 1 := rfl

/-- A write allocates nothing. -/
@[simp] theorem write_next (h : Heap) (r : Ref) (q : QuorumNum) (v : StakeAmount) :
    (h.write r q v).next = h.next := rfl

/-- The map just allocated is empty. -/
@[simp] theorem alloc_cells_self (h : Heap) : h.alloc.cells h.next = ∅ := by
  simp [alloc]

/-- Allocation leaves every other reference's map alone. -/
theorem alloc_cells_of_ne (h : Heap) {r : Ref} (hr : r ≠ h.next) : h.alloc.cells r = h.cells r := by
  simp [alloc, hr]

/-- A write through `r` inserts into the map behind `r`. -/
@[simp] theorem write_cells_self (h : Heap) (r : Ref) (q : QuorumNum) (v : StakeAmount) :
    (h.write r q v).cells r = (h.cells r).insert q v := by
  simp [write]

/-- A write through `r` leaves every other reference's map alone. -/
theorem write_cells_of_ne (h : Heap) {r r' : Ref} (q : QuorumNum) (v : StakeAmount) (hr : r' ≠ r) :
    (h.write r q v).cells r' = h.cells r' := by
  simp [write, hr]

end Heap

/-- An operator struct with its map read off the heap. -/
def OperatorAvsState.deref (h : Heap) (st : OperatorAvsState Ref) : OperatorAvsState StakeMap :=
  ⟨st.operator, h.cells st.stakePerQuorum, st.blockNumber⟩

/-- The chain caller's `operatorsAvsState`, whose structs hold heap references, with the heap. -/
structure BuildState where
  operatorsAvsState : AList fun _ : OperatorAddr => OperatorAvsState Ref
  heap : Heap

/-- Line 31: the empty operator map, before any map is allocated. -/
def BuildState.empty : BuildState := ⟨∅, Heap.empty⟩

/-- Lines 43–58, for one entry `operator` of the table of quorum `quorumNum`. -/
def buildStep (quorumNum : QuorumNum) (blockNumber : BlockNum) (s : BuildState)
    (operator : OperatorStateRetrieverOperator) : BuildState :=
  match s.operatorsAvsState.lookup operator.operator with
  | some operatorAvsState =>
    -- the struct is a copy; its map field is the reference the stored struct holds
    ⟨s.operatorsAvsState, s.heap.write operatorAvsState.stakePerQuorum quorumNum operator.stake⟩
  | none =>
    let stakePerQuorum := s.heap.next
    let heap := s.heap.alloc.write stakePerQuorum quorumNum operator.stake
    -- line 57 writes the stake once more, through the struct just stored
    ⟨s.operatorsAvsState.insert operator.operator ⟨operator.operator, stakePerQuorum, blockNumber⟩,
      heap.write stakePerQuorum quorumNum operator.stake⟩

/-- Lines 42–60: each requested quorum with the table at the same index, in order. Reading
the table past the last one is Go's index-out-of-range panic, here `none`. -/
def buildLoop (blockNumber : BlockNum) :
    List QuorumNum → List QuorumStakeTable → BuildState → Option BuildState
  | [], _, s => some s
  | _ :: _, [], _ => none
  | quorumNum :: quorumNumbers, table :: tables, s =>
    buildLoop blockNumber quorumNumbers tables (table.foldl (buildStep quorumNum blockNumber) s)

/-- The returned map as its caller reads it: each struct's map read off the heap. -/
def BuildState.snapshot (s : BuildState) : OperatorsAvsState :=
  ⟨s.operatorsAvsState.entries.map fun e => ⟨e.1, e.2.deref s.heap⟩, by
    simpa [List.NodupKeys, List.keys, Function.comp_def] using s.operatorsAvsState.nodupKeys⟩

/-- What a reader of the map finds under each operator. -/
abbrev OperatorView := OperatorAddr → Option (OperatorAvsState StakeMap)

/-- The operator map as a caller sees it, one lookup at a time. -/
def BuildState.view (s : BuildState) : OperatorView :=
  fun o => (s.operatorsAvsState.lookup o).map (OperatorAvsState.deref s.heap)

/-- Looking up the returned map reads the operator's struct off the heap. -/
theorem BuildState.snapshot_lookup (s : BuildState) (o : OperatorAddr) :
    s.snapshot.lookup o = s.view o :=
  List.dlookup_map₂ (f := fun _ => OperatorAvsState.deref s.heap) o

/-- A write through another reference does not change what a struct reads. -/
theorem OperatorAvsState.deref_write_of_ne (h : Heap) {st : OperatorAvsState Ref} {r : Ref}
    (q : QuorumNum) (v : StakeAmount) (hr : st.stakePerQuorum ≠ r) :
    st.deref (h.write r q v) = st.deref h := by
  simp [deref, h.write_cells_of_ne q v hr]

/-- Allocating does not change what a struct holding an allocated reference reads. -/
theorem OperatorAvsState.deref_alloc_of_lt (h : Heap) {st : OperatorAvsState Ref}
    (hr : st.stakePerQuorum < h.next) : st.deref h.alloc = st.deref h := by
  simp [deref, h.alloc_cells_of_ne (Nat.ne_of_lt hr)]

/-- The loop's heap discipline: every stored reference is allocated, and no two operators
hold the same one. -/
structure BuildState.Separated (s : BuildState) : Prop where
  allocated : ∀ {o st}, s.operatorsAvsState.lookup o = some st → st.stakePerQuorum < s.heap.next
  unshared : ∀ {o o' st st'}, s.operatorsAvsState.lookup o = some st →
    s.operatorsAvsState.lookup o' = some st' → st.stakePerQuorum = st'.stakePerQuorum → o = o'

/-- The empty operator map keeps the heap discipline. -/
theorem BuildState.separated_empty : BuildState.empty.Separated :=
  ⟨by simp [empty], by simp [empty]⟩

/-- One table entry on the map as a caller sees it: the operator's stake in the quorum is
set, and an operator met for the first time gets an entry at the block. -/
def viewStep (quorumNum : QuorumNum) (blockNumber : BlockNum) (v : OperatorView)
    (operator : OperatorStateRetrieverOperator) : OperatorView :=
  Function.update v operator.operator <| some <|
    match v operator.operator with
    | some st => { st with stakePerQuorum := st.stakePerQuorum.insert quorumNum operator.stake }
    | none => ⟨operator.operator, AList.singleton quorumNum operator.stake, blockNumber⟩

/-- An entry of a map after an insertion is the inserted one or an entry from before. -/
theorem lookup_insert_cases {M : AList fun _ : OperatorAddr => OperatorAvsState Ref}
    {o o' : OperatorAddr} {new st : OperatorAvsState Ref} (h : (M.insert o' new).lookup o = some st) :
    (o = o' ∧ st = new) ∨ (o ≠ o' ∧ M.lookup o = some st) := by
  by_cases ho : o = o'
  · subst ho
    exact .inl ⟨rfl, by simpa using h.symm⟩
  · exact .inr ⟨ho, by rwa [AList.lookup_insert_ne ho] at h⟩

section Step

variable {s : BuildState} (hs : s.Separated) (q : QuorumNum) (b : BlockNum)
  (op : OperatorStateRetrieverOperator)
include hs

/-- A loop step keeps every reference allocated and unshared. -/
theorem buildStep_separated : (buildStep q b s op).Separated := by
  unfold buildStep
  split
  · exact ⟨hs.allocated, hs.unshared⟩
  · constructor
    · intro o st h
      rcases lookup_insert_cases h with ⟨-, rfl⟩ | ⟨-, h⟩
      · simp
      · simpa using Nat.lt_succ_of_lt (hs.allocated h)
    · intro o o' st st' h h' heq
      rcases lookup_insert_cases h with ⟨rfl, rfl⟩ | ⟨ho, h⟩ <;>
        rcases lookup_insert_cases h' with ⟨rfl, rfl⟩ | ⟨ho', h'⟩
      · rfl
      · exact absurd heq (Nat.ne_of_gt (hs.allocated h'))
      · exact absurd heq (Nat.ne_of_lt (hs.allocated h))
      · exact hs.unshared h h' heq

/-- The simulation: under the heap discipline, a loop step acts on the caller's view as the
value-map update `viewStep` does. No write through a copied struct is lost, and none reaches
another operator. -/
theorem buildStep_view : (buildStep q b s op).view = viewStep q b s.view op := by
  funext o
  unfold buildStep viewStep BuildState.view
  cases hl : s.operatorsAvsState.lookup op.operator with
  | some st =>
    by_cases ho : o = op.operator
    · subst ho
      simp [hl, OperatorAvsState.deref]
    · rw [Function.update_noteq ho]
      cases hl' : s.operatorsAvsState.lookup o with
      | none => simp [hl']
      | some st' =>
        simp only [hl', Option.map_some', Option.some.injEq]
        exact OperatorAvsState.deref_write_of_ne _ q op.stake fun h => ho (hs.unshared hl' hl h)
  | none =>
    by_cases ho : o = op.operator
    · subst ho
      simp [hl, OperatorAvsState.deref, AList.insert_insert, AList.insert_empty]
    · rw [Function.update_noteq ho]
      simp only [AList.lookup_insert_ne ho]
      cases hl' : s.operatorsAvsState.lookup o with
      | none => rfl
      | some st' =>
        have hlt := hs.allocated hl'
        simp only [Option.map_some', Option.some.injEq]
        rw [OperatorAvsState.deref_write_of_ne _ q op.stake (Nat.ne_of_lt hlt),
          OperatorAvsState.deref_write_of_ne _ q op.stake (Nat.ne_of_lt hlt),
          OperatorAvsState.deref_alloc_of_lt _ hlt]

end Step

/-- A whole table, entry by entry: the heap discipline holds throughout, and the caller's
view follows `viewStep`. -/
theorem foldl_buildStep {s : BuildState} (hs : s.Separated) (q : QuorumNum) (b : BlockNum)
    (table : QuorumStakeTable) :
    (table.foldl (buildStep q b) s).Separated ∧
      (table.foldl (buildStep q b) s).view = table.foldl (viewStep q b) s.view := by
  induction table generalizing s with
  | nil => exact ⟨hs, rfl⟩
  | cons op table ih =>
    simpa only [List.foldl_cons, buildStep_view hs] using ih (buildStep_separated hs q b op)

/-- The table entries in the order lines 42–43 visit them, each tagged with its quorum. -/
def stakeWrites (quorumNumbers : List QuorumNum) (tables : List QuorumStakeTable) :
    List (QuorumNum × OperatorStateRetrieverOperator) :=
  (quorumNumbers.zip tables).flatMap fun p => p.2.map (p.1, ·)

/-- The writes of a request start with those of its first table. -/
@[simp] theorem stakeWrites_cons (q : QuorumNum) (Q : List QuorumNum) (t : QuorumStakeTable)
    (T : List QuorumStakeTable) : stakeWrites (q :: Q) (t :: T) = t.map (q, ·) ++ stakeWrites Q T :=
  rfl

/-- Tables past the last requested quorum are never written. -/
theorem stakeWrites_take (Q : List QuorumNum) (T : List QuorumStakeTable) :
    stakeWrites Q (T.take Q.length) = stakeWrites Q T := by
  induction Q generalizing T with
  | nil => rfl
  | cons q Q ih =>
    cases T with
    | nil => rfl
    | cons t T => simp [ih]

/-- The abstract model of lines 42–60: the writes applied one by one to the caller's view. -/
def viewRun (blockNumber : BlockNum) (writes : List (QuorumNum × OperatorStateRetrieverOperator))
    (v : OperatorView) : OperatorView :=
  writes.foldl (fun v w => viewStep w.1 blockNumber v w.2) v

/-- With a table for every requested quorum, the loop finishes, keeps the heap discipline,
and leaves the caller the view of its writes: the faithful loop refines `viewRun`. -/
theorem buildLoop_view {s : BuildState} (hs : s.Separated) (b : BlockNum) (Q : List QuorumNum)
    (T : List QuorumStakeTable) (hlen : Q.length ≤ T.length) :
    ∃ s', buildLoop b Q T s = some s' ∧ s'.Separated ∧
      s'.view = viewRun b (stakeWrites Q T) s.view := by
  induction Q generalizing T s with
  | nil => exact ⟨s, rfl, hs, rfl⟩
  | cons q Q ih =>
    cases T with
    | nil => simp at hlen
    | cons t T =>
      obtain ⟨hs', hview⟩ := foldl_buildStep hs q b t
      obtain ⟨s', hrun, hs'', hv⟩ := ih hs' T (by simpa using hlen)
      refine ⟨s', hrun, hs'', ?_⟩
      rw [hv, hview, stakeWrites_cons, viewRun, viewRun, List.foldl_append, List.foldl_map]

/-- With fewer tables than requested quorums, the loop reads past the last table. -/
theorem buildLoop_of_length_lt (b : BlockNum) (Q : List QuorumNum) (T : List QuorumStakeTable)
    (s : BuildState) (hlen : T.length < Q.length) : buildLoop b Q T s = none := by
  induction Q generalizing T s with
  | nil => simp at hlen
  | cons q Q ih =>
    cases T with
    | nil => rfl
    | cons t T => exact ih T _ (by simpa using hlen)

/-! ## What the view holds -/

/-- The stake of the last write for operator `o` in quorum `q`. -/
def lastWrite (writes : List (QuorumNum × OperatorStateRetrieverOperator)) (o : OperatorAddr)
    (q : QuorumNum) : Option StakeAmount :=
  ((writes.filter fun w => w.1 = q ∧ w.2.operator = o).getLast?).map (·.2.stake)

/-- A new write is the last one for its operator and quorum, and leaves the others' last writes
alone. -/
theorem lastWrite_append_singleton (W : List (QuorumNum × OperatorStateRetrieverOperator))
    (w : QuorumNum × OperatorStateRetrieverOperator) (o : OperatorAddr) (q : QuorumNum) :
    lastWrite (W ++ [w]) o q =
      if w.1 = q ∧ w.2.operator = o then some w.2.stake else lastWrite W o q := by
  unfold lastWrite
  by_cases hw : w.1 = q ∧ w.2.operator = o <;> simp [List.filter_append, hw, List.getLast?_append]

/-- An operator never written has no last write in any quorum. -/
theorem lastWrite_eq_none {W : List (QuorumNum × OperatorStateRetrieverOperator)} {o : OperatorAddr}
    (hW : ∀ w ∈ W, w.2.operator ≠ o) (q : QuorumNum) : lastWrite W o q = none := by
  have : W.filter (fun w => w.1 = q ∧ w.2.operator = o) = [] :=
    List.filter_eq_nil_iff.mpr fun w hw => by simp [hW w hw]
  rw [lastWrite, this]
  rfl

/-- An operator is written exactly when some quorum has a last write for it. -/
theorem exists_write_iff_lastWrite_isSome (W : List (QuorumNum × OperatorStateRetrieverOperator))
    (o : OperatorAddr) : (∃ w ∈ W, w.2.operator = o) ↔ ∃ q, (lastWrite W o q).isSome := by
  simp only [lastWrite, Option.isSome_map', List.getLast?_isSome, ne_eq, List.filter_eq_nil_iff,
    not_forall, not_not, decide_eq_true_eq]
  constructor
  · rintro ⟨w, hw, hop⟩
    exact ⟨w.1, w, hw, rfl, hop⟩
  · rintro ⟨q, w, hw, -, hop⟩
    exact ⟨w, hw, hop⟩

/-- What the caller's view holds after `writes`: an entry exactly for each operator written,
carrying its address, the block, and for each quorum the last stake written. -/
structure ViewSpec (blockNumber : BlockNum) (writes : List (QuorumNum × OperatorStateRetrieverOperator))
    (v : OperatorView) : Prop where
  isSome_iff : ∀ o, (v o).isSome ↔ ∃ w ∈ writes, w.2.operator = o
  entry : ∀ {o st}, v o = some st → st.operator = o ∧ st.blockNumber = blockNumber ∧
    ∀ q, st.stakePerQuorum.lookup q = lastWrite writes o q

/-- The empty view meets the specification of no writes. -/
theorem viewSpec_nil (b : BlockNum) : ViewSpec b [] fun _ => none :=
  ⟨by simp, by simp⟩

section ViewSpec

variable {b : BlockNum} {W : List (QuorumNum × OperatorStateRetrieverOperator)} {v : OperatorView}

/-- An operator the view has no entry for was never written, in any quorum. -/
theorem ViewSpec.lastWrite_eq_none_of_none (h : ViewSpec b W v) {o : OperatorAddr}
    (hv : v o = none) (q : QuorumNum) : lastWrite W o q = none :=
  lastWrite_eq_none (fun w hw hop => by simpa [hv] using (h.isSome_iff o).mpr ⟨w, hw, hop⟩) q

/-- What the view holds for `o` in `q` is the last stake written for them. -/
theorem ViewSpec.bind_lookup (h : ViewSpec b W v) (o : OperatorAddr) (q : QuorumNum) :
    (v o).bind (·.stakePerQuorum.lookup q) = lastWrite W o q := by
  cases hv : v o with
  | none => exact (h.lastWrite_eq_none_of_none hv q).symm
  | some st => exact (h.entry hv).2.2 q

end ViewSpec

/-- One `viewStep` keeps `ViewSpec`, with its write appended. -/
theorem viewSpec_step {b : BlockNum} {W : List (QuorumNum × OperatorStateRetrieverOperator)}
    {v : OperatorView} (h : ViewSpec b W v) (w : QuorumNum × OperatorStateRetrieverOperator) :
    ViewSpec b (W ++ [w]) (viewStep w.1 b v w.2) := by
  constructor
  · intro o
    simp only [List.mem_append, List.mem_singleton, or_and_right, exists_or, exists_eq_left,
      ← h.isSome_iff]
    by_cases ho : o = w.2.operator
    · subst ho
      simp [viewStep]
    · simp [viewStep, Function.update_noteq ho, Ne.symm ho]
  · intro o st hv
    simp only [lastWrite_append_singleton]
    by_cases ho : o = w.2.operator
    · subst ho
      simp only [viewStep, Function.update_same, Option.some.injEq] at hv
      cases hvo : v w.2.operator with
      | some st₀ =>
        obtain ⟨hop, hbn, hlook⟩ := h.entry hvo
        rw [hvo] at hv
        subst hv
        refine ⟨hop, hbn, fun q => ?_⟩
        by_cases hq : w.1 = q
        · subst hq
          simp
        · simp [hq, AList.lookup_insert_ne (Ne.symm hq), hlook]
      | none =>
        rw [hvo] at hv
        subst hv
        refine ⟨rfl, rfl, fun q => ?_⟩
        by_cases hq : w.1 = q
        · subst hq
          simp [← AList.insert_empty]
        · simp [hq, ← AList.insert_empty, AList.lookup_insert_ne (Ne.symm hq),
            h.lastWrite_eq_none_of_none hvo]
    · rw [viewStep, Function.update_noteq ho] at hv
      obtain ⟨hop, hbn, hlook⟩ := h.entry hv
      exact ⟨hop, hbn, fun q => by simp [Ne.symm ho, hlook]⟩

/-- The abstract model meets `ViewSpec` over any run of writes. -/
theorem viewSpec_run {b : BlockNum} {W : List (QuorumNum × OperatorStateRetrieverOperator)}
    {v : OperatorView} (h : ViewSpec b W v) (W' : List (QuorumNum × OperatorStateRetrieverOperator)) :
    ViewSpec b (W ++ W') (viewRun b W' v) := by
  induction W' generalizing W v with
  | nil => simpa [viewRun] using h
  | cons w W' ih =>
    simpa [viewRun] using ih (viewSpec_step h w)

/-- The entries of the tables requested for quorum `q`, concatenated in index order. -/
def tablesFor (quorumNumbers : List QuorumNum) (tables : List QuorumStakeTable) (q : QuorumNum) :
    QuorumStakeTable :=
  ((quorumNumbers.zip tables).filter (·.1 = q)).flatMap (·.2)

/-- The stake of the last entry for operator `o` among the tables requested for quorum `q`. -/
def lastStake (quorumNumbers : List QuorumNum) (tables : List QuorumStakeTable) (o : OperatorAddr)
    (q : QuorumNum) : Option StakeAmount :=
  (((tablesFor quorumNumbers tables q).filter (·.operator = o)).getLast?).map (·.stake)

/-- The first requested quorum contributes its table to its own tables only. -/
@[simp] theorem tablesFor_cons (q' : QuorumNum) (Q : List QuorumNum) (t : QuorumStakeTable)
    (T : List QuorumStakeTable) (q : QuorumNum) :
    tablesFor (q' :: Q) (t :: T) q = (if q' = q then t else []) ++ tablesFor Q T q := by
  by_cases hq : q' = q <;> simp [tablesFor, hq]

/-- With no quorum requested twice, the tables a quorum gets depend on which table goes with
which quorum, not on the order of the request. -/
theorem tablesFor_eq_of_perm {Q₁ Q₂ : List QuorumNum} {T₁ T₂ : List QuorumStakeTable}
    (hQ : Q₁.Nodup) (hlen : Q₁.length ≤ T₁.length) (h : (Q₁.zip T₁).Perm (Q₂.zip T₂))
    (q : QuorumNum) : tablesFor Q₁ T₁ q = tablesFor Q₂ T₂ q := by
  have hperm := h.filter fun p => decide (p.1 = q)
  have hkey : ∀ p ∈ (Q₁.zip T₁).filter (fun p => decide (p.1 = q)), p.1 = q :=
    fun p hp => of_decide_eq_true (List.mem_filter.mp hp).2
  have hnd : (((Q₁.zip T₁).filter fun p => decide (p.1 = q)).map Prod.fst).Nodup :=
    ((List.filter_sublist _).map _).nodup (by rwa [List.map_fst_zip _ _ hlen])
  unfold tablesFor
  generalize (Q₁.zip T₁).filter (fun p => decide (p.1 = q)) = F at hperm hkey hnd ⊢
  match F, hperm, hkey, hnd with
  | [], hperm, _, _ => rw [← hperm.nil_eq]
  | [p], hperm, _, _ => rw [List.perm_singleton.mp hperm.symm]
  | p :: p' :: _, _, hkey, hnd =>
    have hpp' : p.1 = p'.1 := (hkey p (by simp)).trans (hkey p' (by simp)).symm
    exact absurd (hpp' ▸ List.mem_cons_self _ _) (List.nodup_cons.mp (List.map_cons _ _ _ ▸ hnd)).1

/-- The writes for operator `o` in quorum `q` are `o`'s entries in the tables requested for `q`.
-/
theorem filter_stakeWrites (Q : List QuorumNum) (T : List QuorumStakeTable) (o : OperatorAddr)
    (q : QuorumNum) :
    ((stakeWrites Q T).filter fun w => w.1 = q ∧ w.2.operator = o).map Prod.snd =
      (tablesFor Q T q).filter (·.operator = o) := by
  induction Q generalizing T with
  | nil => rfl
  | cons q' Q ih =>
    cases T with
    | nil => rfl
    | cons t T =>
      rw [stakeWrites_cons, List.filter_append, List.map_append, ih, tablesFor_cons,
        List.filter_append]
      congr 1
      by_cases hq : q' = q <;> simp [hq, List.filter_map, Function.comp_def]

/-- The last write for `o` in `q` is the last entry for `o` among the tables requested for `q`.
-/
theorem lastWrite_stakeWrites (Q : List QuorumNum) (T : List QuorumStakeTable) (o : OperatorAddr)
    (q : QuorumNum) : lastWrite (stakeWrites Q T) o q = lastStake Q T o q := by
  rw [lastWrite, lastStake, ← filter_stakeWrites, List.getLast?_map, Option.map_map]
  rfl

/-- Operator `o` has a last stake in `q` exactly when a table requested for `q` lists it. -/
theorem lastStake_isSome (Q : List QuorumNum) (T : List QuorumStakeTable) (o : OperatorAddr)
    (q : QuorumNum) : (lastStake Q T o q).isSome ↔ o ∈ (tablesFor Q T q).map (·.operator) := by
  simp [lastStake, List.getLast?_isSome, List.filter_eq_nil_iff]

/-- With no table past the requested quorums, an operator is written exactly when some table
lists it. -/
theorem exists_stakeWrites_iff (Q : List QuorumNum) (T : List QuorumStakeTable) (o : OperatorAddr)
    (hlen : T.length ≤ Q.length) :
    (∃ w ∈ stakeWrites Q T, w.2.operator = o) ↔ ∃ t ∈ T, o ∈ t.map (·.operator) := by
  induction Q generalizing T with
  | nil => cases T <;> simp_all [stakeWrites]
  | cons q Q ih =>
    cases T with
    | nil => simp [stakeWrites]
    | cons t T =>
      have ih' := ih T (by simpa using hlen)
      simp only [stakeWrites_cons, List.mem_append, List.mem_cons, or_and_right, exists_or, ih']
      simp

end AvsRegistry
