import YasinMcp.Foundation.Semaphore

/-!
# Budgets over interleavings

Some steps of a system spend from an amount and some moves of its environment add
to it.  If no step and no move does more than its share, then at every moment of
every interleaving as much was spent at most as there was at first and was added
since.
-/

namespace YasinMcp
namespace Foundation
namespace Program

universe u v w x

variable {Op : Type u} {Res : Op -> Type v} {exc : Type w} {a : Type x}
  {thread state env : Type*} [DecidableEq thread]

def movesOf (trace : List ((thread × Event Res) ⊕ env)) : List env :=
  trace.filterMap Sum.getRight?

omit [DecidableEq thread] in
@[simp] theorem movesOf_inl (entry : thread × Event Res)
    (rest : List ((thread × Event Res) ⊕ env)) : movesOf (.inl entry :: rest) = movesOf rest := rfl

omit [DecidableEq thread] in
@[simp] theorem movesOf_inr (e : env) (rest : List ((thread × Event Res) ⊕ env)) :
    movesOf (.inr e :: rest) = e :: movesOf rest := rfl

/--
While the invariant holds, an event that spends takes at least one from the amount,
a move that earns adds at most one, and nothing else adds anything.
-/
structure Budgeted (step : state -> Event Res -> state -> Prop)
    (move : state -> env -> state -> Prop) (allowed : env -> Prop) (holds : state -> Prop)
    (amount : state -> Nat) (spends : Event Res -> Bool) (earns : env -> Bool) : Prop where
  step_holds : forall {s event s'}, holds s -> step s event s' -> holds s'
  step_amount : forall {s event s'}, holds s -> step s event s' ->
    amount s' + (if spends event then 1 else 0) ≤ amount s
  move_holds : forall {s e s'}, allowed e -> holds s -> move s e s' -> holds s'
  move_amount : forall {s e s'}, allowed e -> holds s -> move s e s' ->
    amount s' ≤ amount s + (if earns e then 1 else 0)

section

variable {step : state -> Event Res -> state -> Prop} {move : state -> env -> state -> Prop}
  {allowed : env -> Prop} {holds : state -> Prop} {amount : state -> Nat}
  {spends : Event Res -> Bool} {earns : env -> Bool}

/-- What is left and what was spent come from what there was and what was added. -/
theorem budget_of_interleaves (h : Budgeted step move allowed holds amount spends earns)
    {pool pool' : thread -> Program Op Res exc a} {s s' : state}
    {trace : List ((thread × Event Res) ⊕ env)}
    (hrun : Interleaves step move pool s trace pool' s') (hs : holds s)
    (hallowed : forall e, e ∈ movesOf trace -> allowed e) :
    holds s' ∧
      amount s' + ((threadEvents trace).map Prod.snd).countP spends ≤
        amount s + (movesOf trace).countP earns := by
  induction hrun with
  | refl pool s => exact ⟨hs, Nat.le_refl _⟩
  | @thread pool pool' s s₁ s' i op next r trace _ hstep _ ih =>
      have hfirst := h.step_amount hs hstep
      rcases ih (h.step_holds hs hstep) hallowed with ⟨hholds, hrest⟩
      refine ⟨hholds, ?_⟩
      rw [threadEvents_inl, List.map_cons, List.countP_cons, movesOf_inl]
      dsimp only
      omega
  | @environment pool pool' s s₁ s' e trace hmove _ ih =>
      have he : allowed e := hallowed e List.mem_cons_self
      have hfirst := h.move_amount he hs hmove
      rcases ih (h.move_holds he hs hmove) fun e' he' =>
        hallowed e' (List.mem_cons_of_mem e he') with ⟨hholds, hrest⟩
      refine ⟨hholds, ?_⟩
      rw [threadEvents_inr, movesOf_inr, List.countP_cons]
      omega

end

/-- What was spent at a slot or none. -/
def amongSections {Op : Type u} {Res : Op -> Type} (spends : Event Res -> Bool) :
    Event (SectionRes Res) -> Bool
  | ⟨.inl op, answer⟩ => spends ⟨op, answer⟩
  | _ => false

theorem Budgeted.slots {Op : Type u} {Res : Op -> Type}
    {step : state -> Event Res -> state -> Prop} {move : state -> env -> state -> Prop}
    {allowed : env -> Prop} {holds : state -> Prop} {amount : state -> Nat}
    {spends : Event Res -> Bool} {earns : env -> Bool}
    (h : Budgeted step move allowed holds amount spends earns) :
    Budgeted (SlotStep step) (SlotMove move) allowed (fun s => holds s.2) (fun s => amount s.2)
      (amongSections spends) earns where
  step_holds := by
    intro s event s' hs hstep
    cases hstep with
    | among hinner => exact h.step_holds hs hinner
    | _ => exact hs
  step_amount := by
    intro s event s' hs hstep
    cases hstep with
    | among hinner => exact h.step_amount hs hinner
    | _ => exact Nat.le_refl _
  move_holds := fun he hs hmove => h.move_holds he hs hmove.2
  move_amount := fun he hs hmove => h.move_amount he hs hmove.2

/-!
## Counting by thread
-/

theorem countP_le_of_selected {event : Type*} (selected : thread -> Bool) (p q : event -> Bool)
    (entries : List (thread × event))
    (h : forall i, selected i = true ->
      ((entries.filter fun entry => entry.1 = i).map Prod.snd).countP p ≤
        ((entries.filter fun entry => entry.1 = i).map Prod.snd).countP q) :
    entries.countP (fun entry => selected entry.1 && p entry.2) ≤
      (entries.map Prod.snd).countP q := by
  have hchosen := countP_le_of_threads (p := p) (q := q)
    (entries.filter fun entry => selected entry.1) ?_
  · rw [List.countP_map, List.countP_filter] at hchosen
    refine Nat.le_trans (Nat.le_of_eq ?_) (Nat.le_trans hchosen ?_)
    · apply List.countP_congr
      intro entry _
      simp [and_comm]
    · exact (List.filter_sublist.map Prod.snd).countP_le
  · intro i
    cases hi : selected i with
    | true =>
        have hsame : (entries.filter fun entry => selected entry.1).filter
            (fun entry => entry.1 = i) = entries.filter fun entry => entry.1 = i := by
          rw [List.filter_filter]
          apply List.filter_congr
          intro entry _
          by_cases hentry : entry.1 = i
          · simp [hentry, hi]
          · simp [hentry]
        rw [hsame]
        exact h i hi
    | false =>
        have hnone : (entries.filter fun entry => selected entry.1).filter
            (fun entry => entry.1 = i) = [] := by
          rw [List.filter_filter, List.filter_eq_nil_iff]
          intro entry _
          by_cases hentry : entry.1 = i
          · simp [hentry, hi]
          · simp [hentry]
        rw [hnone]
        exact Nat.le_refl 0

end Program

end Foundation
end YasinMcp
