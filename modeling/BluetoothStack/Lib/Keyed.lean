import Mathlib

namespace Keyed

variable {κ σ α β S : Type}

-- A partial step function run over a list of inputs, collecting what each step
-- emits; the run has no result as soon as one step has none.
def run (step : S → α → Option (S × List β)) : S → List α → Option (S × List β)
  | s,[] => some (s,[])
  | s,a :: rest =>
    match step s a with
    | none => none
    | some (next,out) =>
      match run step next rest with
      | none => none
      | some (final,later) => some (final,out ++ later)

section Run

variable {step : S → α → Option (S × List β)}

theorem run_cons_some {s next : S} {a : α} {out : List β} (rest : List α) (stepped : step s a = some (next,out)) :
    run step s (a :: rest) = (run step next rest).map fun r => (r.1,out ++ r.2) := by
  simp only [run,stepped]
  cases run step next rest <;> rfl

theorem run_cons_inv {s final : S} {a : α} {rest : List α} {out : List β}
    (ran : run step s (a :: rest) = some (final,out)) :
    ∃ next first later, step s a = some (next,first) ∧ run step next rest = some (final,later) ∧
      out = first ++ later := by
  unfold run at ran
  split at ran
  · cases ran
  · rename_i next first stepped
    split at ran
    · cases ran
    · rename_i final' later ran'
      cases ran
      exact ⟨next,first,later,stepped,ran',rfl⟩

theorem run_preserves (inv : S → Prop) (allowed : α → Prop) (good : β → Prop)
    (stepOk : ∀ s a, inv s → allowed a → ∃ next out, step s a = some (next,out) ∧ inv next ∧ ∀ b ∈ out, good b)
    {s : S} (start : inv s) (feed : List α) (ok : ∀ a ∈ feed, allowed a) :
    ∃ final out, run step s feed = some (final,out) ∧ inv final ∧ ∀ b ∈ out, good b := by
  induction feed generalizing s with
  | nil => exact ⟨s,[],rfl,start,by simp⟩
  | cons a rest ih =>
    obtain ⟨next,first,stepped,kept,firstGood⟩ := stepOk s a start (ok a List.mem_cons_self)
    obtain ⟨final,later,ran,finalInv,laterGood⟩ := ih kept fun b mem => ok b (List.mem_cons_of_mem a mem)
    refine ⟨final,first ++ later,by rw [run_cons_some _ stepped,ran]; rfl,finalInv,?_⟩
    intro b mem
    rcases List.mem_append.mp mem with early | late
    · exact firstGood b early
    · exact laterGood b late

end Run

section Lift

variable [DecidableEq κ]

-- A step on a keyed store that reads and writes only the cell named by the
-- input's key.
def lift (key : α → κ) (cell : σ → α → Option (σ × List β)) (store : κ → σ) (a : α) :
    Option ((κ → σ) × List β) :=
  match cell (store (key a)) a with
  | none => none
  | some (c,out) => some (Function.update store (key a) c,out)

variable {key : α → κ} {cell : σ → α → Option (σ × List β)}

theorem lift_inv {store next : κ → σ} {a : α} {out : List β}
    (stepped : lift key cell store a = some (next,out)) :
    ∃ c, cell (store (key a)) a = some (c,out) ∧ next = Function.update store (key a) c := by
  unfold lift at stepped
  split at stepped
  · cases stepped
  · rename_i c out' celled
    cases stepped
    exact ⟨c,celled,rfl⟩

theorem flatMap_update_perm (keys : List κ) (distinct : keys.Nodup) (outs : κ → List β) (k : κ)
    (present : k ∈ keys) (extra : List β) :
    List.Perm (keys.flatMap (Function.update outs k (extra ++ outs k))) (extra ++ keys.flatMap outs) := by
  induction keys with
  | nil => cases present
  | cons k' rest ih =>
    obtain ⟨fresh,distinct'⟩ := List.nodup_cons.mp distinct
    by_cases same : k' = k
    · subst same
      have untouched : rest.flatMap (Function.update outs k' (extra ++ outs k')) = rest.flatMap outs := by
        apply List.flatMap_congr
        intro j mem
        have : j ≠ k' := fun eq => fresh (eq ▸ mem)
        simp [Function.update,this]
      simp [untouched]
    · have inRest : k ∈ rest := by
        rcases List.mem_cons.mp present with eq | mem
        · exact absurd eq.symm same
        · exact mem
      have shifted := ih distinct' inRest
      simp only [List.flatMap_cons,Function.update_of_ne same]
      calc List.Perm (outs k' ++ rest.flatMap (Function.update outs k (extra ++ outs k)))
            (outs k' ++ (extra ++ rest.flatMap outs)) := shifted.append_left _
        _ = (outs k' ++ extra) ++ rest.flatMap outs := (List.append_assoc _ _ _).symm
        List.Perm _ ((extra ++ outs k') ++ rest.flatMap outs) := List.perm_append_comm.append_right _
        _ = extra ++ (outs k' ++ rest.flatMap outs) := List.append_assoc _ _ _

-- Separation: over any interleaving of inputs, a run of a lifted step is, key
-- by key, the run of the cell step over that key's own inputs.
theorem run_lift (keys : List κ) (distinct : keys.Nodup) {feed : List α}
    (covered : ∀ a ∈ feed, key a ∈ keys) {store final : κ → σ} {out : List β}
    (ran : run (lift key cell) store feed = some (final,out)) :
    ∃ outs : κ → List β,
      (∀ k, run cell (store k) (feed.filter (key · = k)) = some (final k,outs k)) ∧
      List.Perm out (keys.flatMap outs) := by
  induction feed generalizing store out with
  | nil =>
    cases ran
    exact ⟨fun _ => [],fun k => rfl,by simp⟩
  | cons a rest ih =>
    obtain ⟨next,first,later,stepped,ran',rfl⟩ := run_cons_inv ran
    obtain ⟨c,celled,rfl⟩ := lift_inv stepped
    obtain ⟨outs,perKey,perm⟩ := ih (fun b mem => covered b (List.mem_cons_of_mem a mem)) ran'
    refine ⟨Function.update outs (key a) (first ++ outs (key a)),?_,?_⟩
    · intro k
      by_cases same : key a = k
      · subst same
        have later' := perKey (key a)
        simp only [Function.update_self] at later' ⊢
        simp only [List.filter_cons,decide_true,if_true]
        rw [run_cons_some _ celled,later']
        rfl
      · have later' := perKey k
        rw [Function.update_of_ne (Ne.symm same)] at later' ⊢
        simpa [List.filter_cons,same] using later'
    · calc List.Perm (first ++ later) (first ++ keys.flatMap outs) := perm.append_left _
        List.Perm _ (keys.flatMap (Function.update outs (key a) (first ++ outs (key a)))) :=
          (flatMap_update_perm keys distinct outs (key a) (covered a (by simp)) first).symm

theorem run_lift_isSome {feed : List α} {store : κ → σ}
    (perKey : ∀ k, (run cell (store k) (feed.filter (key · = k))).isSome) :
    (run (lift key cell) store feed).isSome := by
  induction feed generalizing store with
  | nil => rfl
  | cons a rest ih =>
    have own := perKey (key a)
    simp only [List.filter_cons,decide_true,if_true] at own
    obtain ⟨⟨final,out⟩,ran⟩ := Option.isSome_iff_exists.mp own
    obtain ⟨c,first,later,celled,ran',-⟩ := run_cons_inv ran
    have stepped : lift key cell store a = some (Function.update store (key a) c,first) := by
      simp [lift,celled]
    rw [run_cons_some _ stepped,Option.isSome_map]
    apply ih
    intro k
    by_cases same : key a = k
    · subst same
      simp [ran']
    · rw [Function.update_of_ne (Ne.symm same)]
      simpa [List.filter_cons,same] using perKey k

theorem run_lift_of_cells (keys : List κ) (distinct : keys.Nodup) {feed : List α}
    (covered : ∀ a ∈ feed, key a ∈ keys) {store finals : κ → σ} {outs : κ → List β}
    (perKey : ∀ k ∈ keys, run cell (store k) (feed.filter (key · = k)) = some (finals k,outs k)) :
    ∃ final out, run (lift key cell) store feed = some (final,out) ∧ (∀ k ∈ keys, final k = finals k) ∧
      List.Perm out (keys.flatMap outs) := by
  have absent : ∀ k, k ∉ keys → feed.filter (key · = k) = [] := by
    intro k missing
    rw [List.filter_eq_nil_iff]
    intro a member same
    exact missing (by simpa [decide_eq_true_eq.mp same] using covered a member)
  have total : (run (lift key cell) store feed).isSome := by
    apply run_lift_isSome
    intro k
    by_cases present : k ∈ keys
    · rw [perKey k present]
      rfl
    · rw [absent k present]
      rfl
  obtain ⟨⟨final,out⟩,ran⟩ := Option.isSome_iff_exists.mp total
  obtain ⟨outs',perKey',perm⟩ := run_lift keys distinct covered ran
  have agree : ∀ k ∈ keys, final k = finals k ∧ outs' k = outs k := by
    intro k present
    have same := (perKey' k).symm.trans (perKey k present)
    simp only [Option.some.injEq,Prod.mk.injEq] at same
    exact same
  refine ⟨final,out,ran,fun k present => (agree k present).1,?_⟩
  rwa [List.flatMap_congr (fun k present => (agree k present).2)] at perm

end Lift

end Keyed
