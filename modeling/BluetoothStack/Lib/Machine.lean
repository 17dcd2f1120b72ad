import Mathlib

namespace Machine

variable {σ ε τ : Type} (step : σ → ε → Option σ) (init : σ)

-- The states a partial step function reaches from init.
inductive Reachable : σ → Prop
  | init : Reachable init
  | step {s s' : σ} (e : ε) : Reachable s → step s e = some s' → Reachable s'

def run : σ → List ε → Option σ
  | s,[] => some s
  | s,e :: es => (step s e).bind (run · es)

variable {step init}

theorem Reachable.of_run {events : List ε} {s s' : σ} (reached : Reachable step init s)
    (ran : run step s events = some s') : Reachable step init s' := by
  induction events generalizing s with
  | nil => cases ran; exact reached
  | cons e es ih =>
    simp only [run] at ran
    cases stepped : step s e with
    | none => simp [stepped] at ran
    | some next =>
      rw [stepped] at ran
      exact ih (reached.step e stepped) ran

theorem Reachable.invariant {inv : σ → Prop} (base : inv init)
    (preserve : ∀ s e s', inv s → step s e = some s' → inv s') {s : σ} (reached : Reachable step init s) : inv s := by
  induction reached with
  | init => exact base
  | step e _ stepped ih => exact preserve _ e _ ih stepped

theorem Reachable.of_moves (view : σ → τ) {move : τ → τ → Prop} {inv : τ → Prop} (base : inv (view init))
    (moves : ∀ s e s', step s e = some s' → move (view s) (view s'))
    (preserve : ∀ t t', inv t → move t t' → inv t') {s : σ} (reached : Reachable step init s) : inv (view s) :=
  @Reachable.invariant σ ε step init (inv ∘ view) base
    (fun s e s' holds stepped => preserve _ _ holds (moves s e s' stepped)) s reached

theorem foldlM_view {α : Type} (view : σ → τ) {f : σ → α → Option σ}
    (keeps : ∀ s a s', f s a = some s' → view s' = view s) :
    ∀ (xs : List α) {s s' : σ}, xs.foldlM f s = some s' → view s' = view s
  | [],_,_,folded => by cases folded; rfl
  | a :: rest,s,s',folded => by
    rw [List.foldlM_cons] at folded
    obtain ⟨next,stepped,more⟩ := Option.bind_eq_some_iff.mp folded
    exact (foldlM_view view keeps rest more).trans (keeps s a next stepped)

section Transduce

variable {ο κ : Type} {emit : σ → ε → Option (σ × ο)}

-- A machine that answers every event it takes; a run collects the answers.
def transduce (emit : σ → ε → Option (σ × ο)) : σ → List ε → Option (σ × List ο)
  | s,[] => some (s,[])
  | s,e :: es => (emit s e).bind fun (s',o) => (transduce emit s' es).map fun (s'',os) => (s'',o :: os)

theorem transduce_cons {s s' : σ} {e : ε} {o : ο} (es : List ε) (answered : emit s e = some (s',o)) :
    transduce emit s (e :: es) = (transduce emit s' es).map fun (s'',os) => (s'',o :: os) := by
  simp [transduce,answered]

theorem transduce_append (s : σ) (es es' : List ε) :
    transduce emit s (es ++ es') =
      (transduce emit s es).bind fun (s',os) => (transduce emit s' es').map fun (s'',os') => (s'',os ++ os') := by
  induction es generalizing s with
  | nil =>
    simp only [List.nil_append,transduce,Option.bind_some]
    cases transduce emit s es' <;> rfl
  | cons e es ih =>
    cases answered : emit s e with
    | none => simp [transduce,answered]
    | some step =>
      obtain ⟨mid,o⟩ := step
      rw [List.cons_append,transduce_cons _ answered,transduce_cons _ answered,ih]
      cases transduce emit mid es with
      | none => rfl
      | some ran =>
        obtain ⟨last,os⟩ := ran
        simp only [Option.bind_some,Option.map_some]
        cases transduce emit last es' <;> rfl

theorem transduce_invariant {inv : σ → Prop} (answers : ∀ s e, inv s → ∃ s' o, emit s e = some (s',o) ∧ inv s') :
    ∀ (es : List ε) {s : σ}, inv s → ∃ s' os, transduce emit s es = some (s',os) ∧ inv s'
  | [],s,holds => ⟨s,[],rfl,holds⟩
  | e :: es,s,holds => by
    obtain ⟨next,o,answered,kept⟩ := answers s e holds
    obtain ⟨s',os,ran,ends⟩ := transduce_invariant answers es kept
    exact ⟨s',o :: os,by rw [transduce_cons es answered,ran]; rfl,ends⟩

theorem transduce_simulates {inv : σ → Prop} (view : σ → τ) (label : ε → κ) {next : τ → κ → Option τ}
    {good : ο → Prop} (keeps : ∀ s e s' o, inv s → emit s e = some (s',o) → inv s')
    (follows : ∀ s e s' o, inv s → emit s e = some (s',o) → good o → next (view s) (label e) = some (view s')) :
    ∀ (es : List ε) {s s' : σ} {os : List ο}, inv s → transduce emit s es = some (s',os) → (∀ o ∈ os, good o) →
      run next (view s) (es.map label) = some (view s')
  | [],s,s',os,_,ran,_ => by cases ran; rfl
  | e :: es,s,s',os,holds,ran,allGood => by
    obtain ⟨⟨mid,o⟩,answered,rest⟩ := Option.bind_eq_some_iff.mp ran
    obtain ⟨⟨last,tail⟩,ranRest,done⟩ := Option.map_eq_some_iff.mp rest
    cases done
    have stepped := follows s e mid o holds answered (allGood o List.mem_cons_self)
    simp only [List.map_cons,run,stepped,Option.bind_some]
    exact transduce_simulates view label keeps follows es (keeps s e mid o holds answered) ranRest
      fun o found => allGood o (List.mem_cons_of_mem _ found)

theorem transduce_keeps {inv : σ → Prop} {ok : ε → Prop} (keeps : ∀ s e s' o, inv s → ok e → emit s e = some (s',o) → inv s') :
    ∀ (es : List ε) {s s' : σ} {os : List ο}, inv s → (∀ e ∈ es, ok e) → transduce emit s es = some (s',os) → inv s'
  | [],s,s',os,holds,_,ran => by cases ran; exact holds
  | e :: es,s,s',os,holds,allOk,ran => by
    obtain ⟨⟨mid,o⟩,answered,rest⟩ := Option.bind_eq_some_iff.mp ran
    obtain ⟨⟨last,tail⟩,ranRest,done⟩ := Option.map_eq_some_iff.mp rest
    cases done
    exact transduce_keeps keeps es (keeps s e mid o holds (allOk e List.mem_cons_self) answered)
      (fun e mem => allOk e (List.mem_cons_of_mem _ mem)) ranRest

theorem transduce_good {inv : σ → Prop} {ok : ε → Prop} {good : ο → Prop}
    (answers : ∀ s e, inv s → ok e → ∃ s' o, emit s e = some (s',o) ∧ inv s' ∧ good o) :
    ∀ (es : List ε) {s : σ}, inv s → (∀ e ∈ es, ok e) →
      ∃ s' os, transduce emit s es = some (s',os) ∧ inv s' ∧ ∀ o ∈ os, good o
  | [],s,holds,_ => ⟨s,[],rfl,holds,fun _ held => absurd held List.not_mem_nil⟩
  | e :: es,s,holds,allOk => by
    obtain ⟨next,o,answered,kept,isGood⟩ := answers s e holds (allOk e List.mem_cons_self)
    obtain ⟨s',os,ran,ends,allGood⟩ :=
      transduce_good answers es kept fun e mem => allOk e (List.mem_cons_of_mem _ mem)
    refine ⟨s',o :: os,by rw [transduce_cons es answered,ran]; rfl,ends,?_⟩
    intro o' held
    rcases List.mem_cons.mp held with rfl | later
    · exact isGood
    · exact allGood o' later

theorem transduce_history {inv : List ε → σ → Prop}
    (keeps : ∀ hist s e s' o, inv hist s → emit s e = some (s',o) → inv (hist ++ [e]) s') :
    ∀ (es : List ε) {hist : List ε} {s s' : σ} {os : List ο}, inv hist s →
      transduce emit s es = some (s',os) → inv (hist ++ es) s'
  | [],hist,s,s',os,holds,ran => by
    cases ran
    rwa [List.append_nil]
  | e :: es,hist,s,s',os,holds,ran => by
    obtain ⟨⟨mid,o⟩,answered,rest⟩ := Option.bind_eq_some_iff.mp ran
    obtain ⟨⟨last,tail⟩,ranRest,done⟩ := Option.map_eq_some_iff.mp rest
    cases done
    have kept := transduce_history keeps es (keeps hist s e mid o holds answered) ranRest
    rwa [List.append_assoc,List.singleton_append] at kept

theorem transduce_trace {inv : List ε → List ο → σ → Prop} {ok : ε → Prop}
    (answers : ∀ hist os s e, inv hist os s → ok e →
      ∃ s' o, emit s e = some (s',o) ∧ inv (hist ++ [e]) (os ++ [o]) s') :
    ∀ (es : List ε) {hist : List ε} {os : List ο} {s : σ}, inv hist os s → (∀ e ∈ es, ok e) →
      ∃ s' os', transduce emit s es = some (s',os') ∧ inv (hist ++ es) (os ++ os') s'
  | [],hist,os,s,holds,_ => ⟨s,[],rfl,by rwa [List.append_nil,List.append_nil]⟩
  | e :: es,hist,os,s,holds,allOk => by
    obtain ⟨next,o,answered,kept⟩ := answers hist os s e holds (allOk e List.mem_cons_self)
    obtain ⟨s',os',ran,ends⟩ := transduce_trace answers es kept fun e mem => allOk e (List.mem_cons_of_mem _ mem)
    refine ⟨s',o :: os',by rw [transduce_cons es answered,ran]; rfl,?_⟩
    rwa [List.append_assoc,List.singleton_append,List.append_assoc,List.singleton_append] at ends

-- Refinement: a machine that answers as spec does on a view of its state runs as
-- spec does.
theorem transduce_refines {inv : σ → Prop} {ok : ε → Prop} (view : σ → τ) {spec : τ → ε → Option (τ × ο)}
    (keeps : ∀ s e s' o, inv s → ok e → emit s e = some (s',o) → inv s')
    (agrees : ∀ s e, inv s → ok e → (emit s e).map (fun (s',o) => (view s',o)) = spec (view s) e) :
    ∀ (es : List ε) {s : σ}, inv s → (∀ e ∈ es, ok e) →
      (transduce emit s es).map (fun (s',os) => (view s',os)) = transduce spec (view s) es
  | [],s,_,_ => rfl
  | e :: es,s,holds,allOk => by
    have agreed := agrees s e holds (allOk e List.mem_cons_self)
    cases answered : emit s e with
    | none =>
      rw [answered,Option.map_none] at agreed
      simp [transduce,answered,← agreed]
    | some step =>
      obtain ⟨mid,o⟩ := step
      rw [answered,Option.map_some] at agreed
      have rest := transduce_refines view keeps agrees es (keeps s e mid o holds (allOk e List.mem_cons_self) answered)
        fun e mem => allOk e (List.mem_cons_of_mem _ mem)
      rw [transduce_cons es answered,transduce,← agreed,Option.bind_some]
      dsimp only
      rw [← rest,Option.map_map,Option.map_map]
      rfl

end Transduce

section Drain

variable {β : Type}

-- A producer called until its state holds nothing more, or it gives nothing,
-- or the fuel runs out; a run collects what it gave.
def drain (pull : σ → Option (σ × Option β)) (empty : σ → Bool) : Nat → σ → Option (σ × List β)
  | 0,s => some (s,[])
  | fuel+1,s =>
    if empty s then some (s,[])
    else (pull s).bind fun (s,out) =>
      match out with
      | none => some (s,[])
      | some b => (drain pull empty fuel s).map fun (s,bs) => (s,b :: bs)

variable {pull : σ → Option (σ × Option β)} {empty : σ → Bool}

theorem drain_idle {s : σ} (emptied : empty s = true) : ∀ fuel, drain pull empty fuel s = some (s,[])
  | 0 => rfl
  | _+1 => by simp [drain,emptied]

theorem drain_succ {s s' : σ} {b : β} (fuel : Nat) (held : empty s = false) (pulled : pull s = some (s',some b)) :
    drain pull empty (fuel+1) s = (drain pull empty fuel s').map fun (s'',bs) => (s'',b :: bs) := by
  simp [drain,held,pulled]

end Drain

end Machine
