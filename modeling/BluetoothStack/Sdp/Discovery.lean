import BluetoothStack.Lib.SwapScan

namespace BluetoothStack.Sdp

def sdpMaxAttrFilters : Nat := 15
def sdpMaxUuidFilters : Nat := 3

-- The for-loop of sdpu_sort_attr_list over attr_filters[0 .. numAttr], with
-- numAttr already decremented: a swap sends the scan back to the start.
def sortAttrFilters (attrFilters : List UInt16) (numAttr : Nat) (inside : numAttr < attrFilters.length) (i : Nat) :
    List UInt16 :=
  if h : i < numAttr then
    if out : attrFilters[i] > attrFilters[i + 1] then
      sortAttrFilters ((attrFilters.set i attrFilters[i + 1]).set (i + 1) attrFilters[i]) numAttr
        (by rw [SwapScan.length_swap (by omega)]; exact inside) 0
    else sortAttrFilters attrFilters numAttr inside (i + 1)
  else attrFilters
termination_by (SwapScan.inversions attrFilters,numAttr - i)
decreasing_by
  · have fewer := SwapScan.inversions_swap (by omega) out
    exact Prod.Lex.left _ _ (by omega)
  · exact Prod.Lex.right _ (by omega)

theorem length_sortAttrFilters (attrFilters : List UInt16) (numAttr : Nat) (inside : numAttr < attrFilters.length)
    (i : Nat) : (sortAttrFilters attrFilters numAttr inside i).length = attrFilters.length := by
  fun_induction sortAttrFilters attrFilters numAttr inside i with
  | case1 attrFilters inside i h out ih => rw [ih,SwapScan.length_swap (by omega)]
  | case2 attrFilters inside i h out ih => exact ih
  | case3 attrFilters inside i h => rfl

section Loop

variable (numAttr : Nat)

theorem sortAttrFilters_sorted (attrFilters : List UInt16) (inside : numAttr < attrFilters.length) (i : Nat)
    (atMost : i ≤ numAttr) (chain : (attrFilters.take (i + 1)).IsChain (· ≤ ·)) :
    ((sortAttrFilters attrFilters numAttr inside i).take (numAttr + 1)).SortedLE := by
  fun_induction sortAttrFilters attrFilters numAttr inside i with
  | case1 attrFilters inside i h out ih => exact ih (Nat.zero_le _) (SwapScan.isChain_take_one _)
  | case2 attrFilters inside i h out ih =>
    exact ih (by omega) (SwapScan.isChain_take_succ (by omega) chain (not_lt.mp out))
  | case3 attrFilters inside i h =>
    obtain rfl : i = numAttr := by omega
    exact chain.sortedLE

theorem sortAttrFilters_perm (attrFilters : List UInt16) (inside : numAttr < attrFilters.length) (i : Nat) :
    List.Perm ((sortAttrFilters attrFilters numAttr inside i).take (numAttr + 1)) (attrFilters.take (numAttr + 1)) := by
  fun_induction sortAttrFilters attrFilters numAttr inside i with
  | case1 attrFilters inside i h out ih => exact ih.trans (SwapScan.take_perm_swap (by omega) (by omega))
  | case2 attrFilters inside i h out ih => exact ih
  | case3 attrFilters inside i h => exact .refl _

theorem sortAttrFilters_drop (attrFilters : List UInt16) (inside : numAttr < attrFilters.length) (i : Nat) :
    (sortAttrFilters attrFilters numAttr inside i).drop (numAttr + 1) = attrFilters.drop (numAttr + 1) := by
  fun_induction sortAttrFilters attrFilters numAttr inside i with
  | case1 attrFilters inside i h out ih => rw [ih,SwapScan.drop_swap (by omega) (by omega)]
  | case2 attrFilters inside i h out ih => exact ih
  | case3 attrFilters inside i h => rfl

end Loop

-- The attribute filters of tSDP_DISCOVERY_DB: the fixed array of
-- SDP_MAX_ATTR_FILTERS entries and the count in use.
structure DiscoveryDb where
  numAttrFilters : UInt16
  attrFilters : List UInt16
  attrFiltersLength : attrFilters.length = sdpMaxAttrFilters
  deriving DecidableEq, Repr

theorem pred_clamp_lt (numAttr : UInt16) :
    (if numAttr.toNat > sdpMaxAttrFilters then sdpMaxAttrFilters else numAttr.toNat) - 1 < sdpMaxAttrFilters := by
  unfold sdpMaxAttrFilters
  split <;> omega

def sdpuSortAttrList (numAttr : UInt16) (db : DiscoveryDb) : DiscoveryDb :=
  if numAttr.toNat ≤ 1 then db
  else
    let numAttr := if numAttr.toNat > sdpMaxAttrFilters then sdpMaxAttrFilters else numAttr.toNat
    { db with
      attrFilters := sortAttrFilters db.attrFilters (numAttr - 1) (db.attrFiltersLength ▸ pred_clamp_lt _) 0
      attrFiltersLength := by rw [length_sortAttrFilters,db.attrFiltersLength] }

theorem clamp_window {numAttr : UInt16} (large : ¬numAttr.toNat ≤ 1) :
    (if numAttr.toNat > sdpMaxAttrFilters then sdpMaxAttrFilters else numAttr.toNat) - 1 + 1 =
      min numAttr.toNat sdpMaxAttrFilters := by
  unfold sdpMaxAttrFilters
  split <;> omega

theorem isChain_take_of_le_one (l : List UInt16) {k : Nat} (short : k ≤ 1) : (l.take k).IsChain (· ≤ ·) := by
  have chain := (SwapScan.isChain_take_one l).take k
  rwa [List.take_take,Nat.min_eq_left short] at chain

theorem sdpuSortAttrList_window (numAttr : UInt16) (db : DiscoveryDb) :
    ((sdpuSortAttrList numAttr db).attrFilters.take (min numAttr.toNat sdpMaxAttrFilters)).SortedLE ∧
      List.Perm ((sdpuSortAttrList numAttr db).attrFilters.take (min numAttr.toNat sdpMaxAttrFilters))
        (db.attrFilters.take (min numAttr.toNat sdpMaxAttrFilters)) ∧
      (sdpuSortAttrList numAttr db).attrFilters.drop (min numAttr.toNat sdpMaxAttrFilters) =
        db.attrFilters.drop (min numAttr.toNat sdpMaxAttrFilters) := by
  by_cases small : numAttr.toNat ≤ 1
  · have short : min numAttr.toNat sdpMaxAttrFilters ≤ 1 := by omega
    unfold sdpuSortAttrList
    rw [if_pos small]
    exact ⟨(isChain_take_of_le_one _ short).sortedLE,.refl _,rfl⟩
  · unfold sdpuSortAttrList
    rw [if_neg small]
    dsimp only
    rw [← clamp_window small]
    exact ⟨sortAttrFilters_sorted _ _ _ 0 (Nat.zero_le _) (SwapScan.isChain_take_one _),sortAttrFilters_perm _ _ _ 0,
      sortAttrFilters_drop _ _ _ 0⟩

theorem sdpuSortAttrList_sorts (numAttr : UInt16) (db : DiscoveryDb) :
    ((sdpuSortAttrList numAttr db).attrFilters.take (min numAttr.toNat sdpMaxAttrFilters)).SortedLE ∧
      List.Perm ((sdpuSortAttrList numAttr db).attrFilters.take (min numAttr.toNat sdpMaxAttrFilters))
        (db.attrFilters.take (min numAttr.toNat sdpMaxAttrFilters)) ∧
      (sdpuSortAttrList numAttr db).attrFilters.drop (min numAttr.toNat sdpMaxAttrFilters) =
        db.attrFilters.drop (min numAttr.toNat sdpMaxAttrFilters) ∧
      (numAttr.toNat ≤ 1 → sdpuSortAttrList numAttr db = db) := by
  obtain ⟨sorted,permuted,untouched⟩ := sdpuSortAttrList_window numAttr db
  refine ⟨sorted,permuted,untouched,fun small => ?_⟩
  unfold sdpuSortAttrList
  rw [if_pos small]

theorem sdpuSortAttrList_sorts_three :
    ((sdpuSortAttrList 3 ⟨0,[5,1,3] ++ List.replicate 12 7,rfl⟩).attrFilters.take 3).SortedLE ∧
      List.Perm ((sdpuSortAttrList 3 ⟨0,[5,1,3] ++ List.replicate 12 7,rfl⟩).attrFilters.take 3) [5,1,3] ∧
      (sdpuSortAttrList 3 ⟨0,[5,1,3] ++ List.replicate 12 7,rfl⟩).attrFilters.drop 3 = List.replicate 12 7 := by
  obtain ⟨sorted,permuted,untouched,-⟩ := sdpuSortAttrList_sorts 3 ⟨0,[5,1,3] ++ List.replicate 12 7,rfl⟩
  exact ⟨sorted,permuted,untouched⟩

-- SDP_InitDiscoveryDb for the attribute filters: the checks on the counts,
-- the memset, the copy of the caller's list and the sort.
def sdpInitDiscoveryDb (numUuid numAttr : UInt16) (attrList : List UInt16) : Option DiscoveryDb :=
  if numAttr.toNat > sdpMaxAttrFilters ∨ numUuid.toNat > sdpMaxUuidFilters then none
  else
    let copied : DiscoveryDb :=
      ⟨0,List.ofFn (n := sdpMaxAttrFilters) fun xx => if xx.val < numAttr.toNat then attrList.getD xx 0 else 0,
        List.length_ofFn⟩
    some { sdpuSortAttrList numAttr copied with numAttrFilters := numAttr }

end BluetoothStack.Sdp
