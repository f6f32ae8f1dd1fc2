import YasinMcp.Foundation.Program

/-!
# Bounded semaphores

A semaphore counts the free slots out of those it was created with.  When it is
moved by two kinds of events only, one taking a slot and one giving it back, and
every thread gives back what it took, the free slots and the threads that hold
one add up to the same number in every interleaving.
-/

namespace YasinMcp
namespace Foundation

structure BoundedSemaphore where
  initial : Nat
  value : Nat
  bounded : value ≤ initial

namespace BoundedSemaphore

def ofLimit (limit : Nat) : BoundedSemaphore :=
  ⟨limit, limit, Nat.le_refl limit⟩

def acquire? (s : BoundedSemaphore) : Option BoundedSemaphore :=
  if 0 < s.value then
    some { s with value := s.value - 1, bounded := Nat.le_trans (Nat.sub_le _ _) s.bounded }
  else none

def release? (s : BoundedSemaphore) : Option BoundedSemaphore :=
  if h : s.value < s.initial then some { s with value := s.value + 1, bounded := h }
  else none

theorem acquire?_eq_none_iff (s : BoundedSemaphore) : s.acquire? = none <-> s.value = 0 := by
  unfold acquire?
  by_cases h : 0 < s.value
  · simp [h, Nat.ne_of_gt h]
  · simp [Nat.eq_zero_of_not_pos h]

theorem acquire?_eq_some {s s' : BoundedSemaphore} (h : s.acquire? = some s') :
    s'.initial = s.initial ∧ s'.value + 1 = s.value := by
  unfold acquire? at h
  by_cases hfree : 0 < s.value
  · rw [if_pos hfree] at h
    cases h
    exact ⟨rfl, Nat.sub_add_cancel hfree⟩
  · rw [if_neg hfree] at h
    cases h

theorem release?_eq_some {s s' : BoundedSemaphore} (h : s.release? = some s') :
    s'.initial = s.initial ∧ s'.value = s.value + 1 := by
  unfold release? at h
  by_cases hheld : s.value < s.initial
  · rw [dif_pos hheld] at h
    cases h
    exact ⟨rfl, rfl⟩
  · rw [dif_neg hheld] at h
    cases h

theorem release?_isSome_iff (s : BoundedSemaphore) :
    s.release?.isSome = true <-> s.value < s.initial := by
  unfold release?
  by_cases h : s.value < s.initial
  · simp [h]
  · simp [h]

end BoundedSemaphore

/-!
## Slots over interleavings
-/

namespace Program

universe u v w x

variable {Op : Type u} {Res : Op -> Type v} {exc : Type w} {a : Type x}
  {thread state env : Type*} [DecidableEq thread]
  {step : state -> Event Res -> state -> Prop} {move : state -> env -> state -> Prop}

/-- The free slots change by the events that take one and give one back, and by nothing else. -/
structure Metered (step : state -> Event Res -> state -> Prop)
    (move : state -> env -> state -> Prop) (free : state -> Nat)
    (took gave : Event Res -> Bool) : Prop where
  step_free : forall {s event s'}, step s event s' ->
    free s' + (if took event then 1 else 0) = free s + if gave event then 1 else 0
  move_free : forall {s e s'}, move s e s' -> free s' = free s

theorem free_of_interleaves {free : state -> Nat} {took gave : Event Res -> Bool}
    (hmetered : Metered step move free took gave) {pool pool' : thread -> Program Op Res exc a}
    {s s' : state} {trace : List ((thread × Event Res) ⊕ env)}
    (h : Interleaves step move pool s trace pool' s') :
    free s' + ((threadEvents trace).map Prod.snd).countP took =
      free s + ((threadEvents trace).map Prod.snd).countP gave := by
  induction h with
  | refl pool s => rfl
  | @thread pool pool' s s₁ s' i op next r trace _ hstep _ ih =>
      have hfree := hmetered.step_free hstep
      rw [threadEvents_inl, List.map_cons, List.countP_cons, List.countP_cons]
      dsimp only
      omega
  | environment hmove _ ih =>
      rw [threadEvents_inr, ih, hmetered.move_free hmove]

/-- A thread holds a slot while it has taken one more than it has given back. -/
def Holds (took gave : Event Res -> Bool) (events : List (Event Res)) : Prop :=
  events.countP took = events.countP gave + 1

instance (took gave : Event Res -> Bool) (events : List (Event Res)) :
    Decidable (Holds took gave events) := Nat.decEq _ _

/-- At every moment a thread holds one slot or none. -/
def Bracketed (took gave : Event Res -> Bool) (events : List (Event Res)) : Prop :=
  Holds took gave events ∨ events.countP took = events.countP gave

def holders (took gave : Event Res -> Bool) (trace : List ((thread × Event Res) ⊕ env)) :
    Finset thread :=
  ((threadEvents trace).map Prod.fst).toFinset.filter fun i =>
    Holds took gave (eventsOf i trace)

theorem mem_holders_iff (took gave : Event Res -> Bool)
    (trace : List ((thread × Event Res) ⊕ env)) (i : thread) :
    i ∈ holders took gave trace <-> Holds took gave (eventsOf i trace) := by
  rw [holders, Finset.mem_filter, List.mem_toFinset]
  refine and_iff_right_of_imp ?_
  intro hholds
  by_contra habsent
  have hnone : eventsOf i trace = [] := by
    rw [eventsOf_eq_map, List.map_eq_nil_iff, List.filter_eq_nil_iff]
    intro entry hentry hi
    exact habsent (List.mem_map.mpr ⟨entry, hentry, by simpa using hi⟩)
  rw [Holds, hnone] at hholds
  cases hholds

/-- The free slots and the threads that hold one add up to what was free at first. -/
theorem free_add_holders {free : state -> Nat} {took gave : Event Res -> Bool}
    (hmetered : Metered step move free took gave) {pool pool' : thread -> Program Op Res exc a}
    {s s' : state} {trace : List ((thread × Event Res) ⊕ env)}
    (h : Interleaves step move pool s trace pool' s')
    (hbracketed : forall i, Bracketed took gave (eventsOf i trace)) :
    free s' + (holders took gave trace).card = free s := by
  have hmem : forall entry, entry ∈ threadEvents trace ->
      entry.1 ∈ ((threadEvents trace).map Prod.fst).toFinset := by
    intro entry hentry
    exact List.mem_toFinset.mpr (List.mem_map_of_mem hentry)
  have htook : ((threadEvents trace).map Prod.snd).countP took =
      ((threadEvents trace).map Prod.snd).countP gave + (holders took gave trace).card := by
    rw [countP_eq_sum took hmem, countP_eq_sum gave hmem, holders, Finset.card_filter,
      ← Finset.sum_add_distrib]
    refine Finset.sum_congr rfl ?_
    intro i _
    rw [← eventsOf_eq_map]
    rcases hbracketed i with hholds | hreturned
    · rw [if_pos hholds]
      exact hholds
    · have hnot : ¬ Holds took gave (eventsOf i trace) := by
        unfold Holds
        omega
      rw [if_neg hnot, hreturned, Nat.add_zero]
  have hfree := free_of_interleaves hmetered h
  omega

theorem free_lt_of_holds {free : state -> Nat} {took gave : Event Res -> Bool}
    (hmetered : Metered step move free took gave) {pool pool' : thread -> Program Op Res exc a}
    {s s' : state} {trace : List ((thread × Event Res) ⊕ env)}
    (h : Interleaves step move pool s trace pool' s')
    (hbracketed : forall i, Bracketed took gave (eventsOf i trace)) {i : thread}
    (hi : Holds took gave (eventsOf i trace)) : free s' < free s := by
  have hpositive : 0 < (holders took gave trace).card :=
    Finset.card_pos.mpr ⟨i, (mem_holders_iff took gave trace i).mpr hi⟩
  have hfree := free_add_holders hmetered h hbracketed
  omega

/-!
## Sections that hold a slot
-/

inductive SlotOp where
  | acquire
  | release

abbrev SectionRes (Res : Op -> Type) : Op ⊕ SlotOp -> Type
  | .inl op => Res op
  | .inr _ => Bool

section

variable {Op : Type u} {Res : Op -> Type} {exc : Type w} {exc' : Type x} {a b : Type}

/-- Perform the operations of a program among those of a section, and go on with its ending. -/
def within : Program Op Res exc a -> (Except exc a -> Program (Op ⊕ SlotOp) (SectionRes Res) exc' b) ->
    Program (Op ⊕ SlotOp) (SectionRes Res) exc' b
  | .pure value, after => after (.ok value)
  | .raise e, after => after (.error e)
  | .perform op next, after => .perform (.inl op) fun r => within (next r) after

def acquire : Program (Op ⊕ SlotOp) (SectionRes Res) exc' Bool :=
  .perform (.inr .acquire) .pure

def release : Program (Op ⊕ SlotOp) (SectionRes Res) exc' Bool :=
  .perform (.inr .release) .pure

def amongSlots (event : Event Res) : Event (SectionRes Res) :=
  ⟨.inl event.1, event.2⟩

theorem emits_within {p : Program Op Res exc a}
    {after : Except exc a -> Program (Op ⊕ SlotOp) (SectionRes Res) exc' b}
    {trace : List (Event (SectionRes Res))} {q : Program (Op ⊕ SlotOp) (SectionRes Res) exc' b}
    (h : Emits (p.within after) trace q) :
    (exists inner rest, trace = inner.map amongSlots ∧ Emits p inner rest ∧
      q = rest.within after) ∨
    exists inner later outcome, trace = inner.map amongSlots ++ later ∧
      Emits p inner (ofExcept outcome) ∧ Emits (after outcome) later q := by
  induction p generalizing trace with
  | pure value => exact Or.inr ⟨[], trace, .ok value, rfl, Emits.refl _, h⟩
  | raise e => exact Or.inr ⟨[], trace, .error e, rfl, Emits.refl _, h⟩
  | perform op next ih =>
      rw [within] at h
      cases h with
      | refl => exact Or.inl ⟨[], .perform op next, rfl, Emits.refl _, rfl⟩
      | @perform _ _ r rest _ hrest =>
          rcases ih r hrest with ⟨inner, left, htrace, hinner, hq⟩ |
            ⟨inner, later, outcome, htrace, hinner, hlater⟩
          · exact Or.inl ⟨⟨op, r⟩ :: inner, left, by rw [htrace]; rfl, Emits.perform hinner, hq⟩
          · exact Or.inr ⟨⟨op, r⟩ :: inner, later, outcome, by rw [htrace]; rfl,
              Emits.perform hinner, hlater⟩

/--
Take a slot or raise; run the program; give the slot back however it ended, and
end as {lit}`finish` says.
-/
def withSlot (p : Program Op Res exc a) (full overReleased : exc')
    (finish : Except exc a -> Except exc' b) : Program (Op ⊕ SlotOp) (SectionRes Res) exc' b := do
  if ← acquire then
    p.within fun outcome => do
      if ← release then ofExcept (finish outcome) else .raise overReleased
  else .raise full

variable {p : Program Op Res exc a} {full overReleased : exc'}
  {finish : Except exc a -> Except exc' b}

def afterSection (overReleased : exc') (finish : Except exc a -> Except exc' b)
    (outcome : Except exc a) : Program (Op ⊕ SlotOp) (SectionRes Res) exc' b := do
  if ← release then ofExcept (finish outcome) else .raise overReleased

/-- The stages of a section, each with the events up to it and what is left to do. -/
inductive SectionTrace (p : Program Op Res exc a) (full overReleased : exc')
    (finish : Except exc a -> Except exc' b) :
    List (Event (SectionRes Res)) -> Program (Op ⊕ SlotOp) (SectionRes Res) exc' b -> Prop where
  | waiting : SectionTrace p full overReleased finish [] (withSlot p full overReleased finish)
  | refused : SectionTrace p full overReleased finish [⟨.inr .acquire, false⟩] (.raise full)
  | running {inner : List (Event Res)} {rest : Program Op Res exc a} (h : Emits p inner rest) :
      SectionTrace p full overReleased finish
        (⟨.inr .acquire, true⟩ :: inner.map amongSlots)
        (rest.within (afterSection overReleased finish))
  | released {inner : List (Event Res)} {outcome : Except exc a}
      (h : Emits p inner (ofExcept outcome)) :
      SectionTrace p full overReleased finish
        (⟨.inr .acquire, true⟩ :: inner.map amongSlots ++ [⟨.inr .release, true⟩])
        (ofExcept (finish outcome))
  | overReleased {inner : List (Event Res)} {outcome : Except exc a}
      (h : Emits p inner (ofExcept outcome)) :
      SectionTrace p full overReleased finish
        (⟨.inr .acquire, true⟩ :: inner.map amongSlots ++ [⟨.inr .release, false⟩])
        (.raise overReleased)

theorem sectionTrace_of_emits {trace : List (Event (SectionRes Res))}
    {q : Program (Op ⊕ SlotOp) (SectionRes Res) exc' b}
    (h : Emits (withSlot p full overReleased finish) trace q) :
    SectionTrace p full overReleased finish trace q := by
  cases h with
  | refl => exact .waiting
  | @perform _ _ got rest _ hrest =>
      cases got with
      | false =>
          change Emits (.raise full) rest q at hrest
          cases hrest
          exact .refused
      | true =>
          change Emits (p.within (afterSection overReleased finish)) rest q at hrest
          rcases emits_within hrest with ⟨inner, left, htrace, hinner, hq⟩ |
            ⟨inner, later, outcome, htrace, hinner, hlater⟩
          · subst htrace hq
            exact .running hinner
          · subst htrace
            cases hlater with
            | refl =>
                have hleft : (ofExcept outcome : Program Op Res exc a).within
                    (afterSection overReleased finish) = afterSection overReleased finish outcome := by
                  cases outcome <;> rfl
                rw [List.append_nil]
                have hrunning : SectionTrace p full overReleased finish
                    (⟨.inr .acquire, true⟩ :: inner.map amongSlots)
                    ((ofExcept outcome).within (afterSection overReleased finish)) :=
                  .running hinner
                rwa [hleft] at hrunning
            | @perform _ _ ok last _ hlast =>
                cases ok with
                | false =>
                    change Emits (.raise overReleased) last q at hlast
                    cases hlast
                    exact .overReleased hinner
                | true =>
                    change Emits (ofExcept (finish outcome)) last q at hlast
                    rcases emits_ofExcept hlast with ⟨hnil, hq⟩
                    subst hnil hq
                    exact .released hinner

theorem within_ne_ofExcept (rest : Program Op Res exc a) (overReleased : exc')
    (finish : Except exc a -> Except exc' b) (result : Except exc' b) :
    rest.within (afterSection overReleased finish) ≠ ofExcept result := by
  intro h
  cases rest <;> cases result <;> cases h

def tookSlot : Event (SectionRes Res) -> Bool
  | ⟨.inr .acquire, true⟩ => true
  | _ => false

def gaveSlot : Event (SectionRes Res) -> Bool
  | ⟨.inr .release, true⟩ => true
  | _ => false

/-- In a section under way the slot events are its first and what follows its operations. -/
theorem countP_section {q : Event (SectionRes Res) -> Bool}
    (hq : forall event : Event Res, q (amongSlots event) = false) (inner : List (Event Res))
    (later : List (Event (SectionRes Res))) :
    (⟨.inr .acquire, true⟩ :: inner.map amongSlots ++ later).countP q =
      later.countP q + if q ⟨.inr .acquire, true⟩ then 1 else 0 := by
  have hinner : (inner.map amongSlots).countP q = 0 := by
    rw [List.countP_map, List.countP_eq_zero]
    intro event _
    simp [hq event]
  rw [List.cons_append, List.countP_cons, List.countP_append, hinner, Nat.zero_add]

theorem holds_of_running (inner : List (Event Res)) :
    Holds tookSlot gaveSlot (⟨.inr .acquire, true⟩ :: inner.map amongSlots) := by
  have htook := countP_section (q := tookSlot) (fun _ => rfl) inner []
  have hgave := countP_section (q := gaveSlot) (fun _ => rfl) inner []
  rw [List.append_nil] at htook hgave
  rw [Holds, htook, hgave]
  rfl

theorem SectionTrace.bracketed {trace : List (Event (SectionRes Res))}
    {q : Program (Op ⊕ SlotOp) (SectionRes Res) exc' b}
    (h : SectionTrace p full overReleased finish trace q) :
    Bracketed tookSlot gaveSlot trace := by
  cases h with
  | waiting => exact Or.inr rfl
  | refused => exact Or.inr rfl
  | running hinner => exact Or.inl (holds_of_running _)
  | released hinner =>
      right
      rw [countP_section fun _ => rfl, countP_section fun _ => rfl]
      rfl
  | overReleased hinner =>
      left
      rw [Holds, countP_section fun _ => rfl, countP_section fun _ => rfl]
      rfl

theorem SectionTrace.holds_of_release {trace : List (Event (SectionRes Res))}
    {next : Bool -> Program (Op ⊕ SlotOp) (SectionRes Res) exc' b}
    (h : SectionTrace p full overReleased finish trace (.perform (.inr .release) next)) :
    Holds tookSlot gaveSlot trace := by
  generalize hq : (Program.perform (.inr .release) next :
    Program (Op ⊕ SlotOp) (SectionRes Res) exc' b) = q at h
  cases h with
  | waiting => cases hq
  | refused => cases hq
  | running hinner => exact holds_of_running _
  | @released inner outcome hinner =>
      cases hfinish : finish outcome with
      | error e =>
          rw [hfinish] at hq
          cases hq
      | ok value =>
          rw [hfinish] at hq
          cases hq
  | overReleased hinner => cases hq

theorem SectionTrace.refused_of_mem {trace : List (Event (SectionRes Res))}
    {q : Program (Op ⊕ SlotOp) (SectionRes Res) exc' b}
    (h : SectionTrace p full overReleased finish trace q)
    (hmem : ⟨.inr .acquire, false⟩ ∈ trace) :
    trace = [⟨.inr .acquire, false⟩] ∧ q = .raise full := by
  cases h with
  | waiting => cases hmem
  | refused => exact ⟨rfl, rfl⟩
  | running hinner => simp [amongSlots] at hmem
  | released hinner => simp [amongSlots] at hmem
  | overReleased hinner => simp [amongSlots] at hmem

end

/-!
## Sections over one semaphore
-/

section

variable {Op : Type u} {Res : Op -> Type} {exc : Type w} {exc' : Type x} {a b : Type}
  {thread state env : Type*} [DecidableEq thread]

/-- The operations of the sections move the rest of the state, their slots the semaphore. -/
inductive SlotStep (step : state -> Event Res -> state -> Prop) :
    BoundedSemaphore × state -> Event (SectionRes Res) -> BoundedSemaphore × state -> Prop where
  | among {slots : BoundedSemaphore} {s s' : state} {op : Op} {r : Res op} :
      step s ⟨op, r⟩ s' -> SlotStep step (slots, s) ⟨.inl op, r⟩ (slots, s')
  | acquired {slots slots' : BoundedSemaphore} {s : state} :
      slots.acquire? = some slots' -> SlotStep step (slots, s) ⟨.inr .acquire, true⟩ (slots', s)
  | full {slots : BoundedSemaphore} {s : state} :
      slots.acquire? = none -> SlotStep step (slots, s) ⟨.inr .acquire, false⟩ (slots, s)
  | released {slots slots' : BoundedSemaphore} {s : state} :
      slots.release? = some slots' -> SlotStep step (slots, s) ⟨.inr .release, true⟩ (slots', s)
  | overReleased {slots : BoundedSemaphore} {s : state} :
      slots.release? = none -> SlotStep step (slots, s) ⟨.inr .release, false⟩ (slots, s)

/-- The environment leaves the semaphore alone. -/
def SlotMove (move : state -> env -> state -> Prop) (s : BoundedSemaphore × state) (e : env)
    (s' : BoundedSemaphore × state) : Prop :=
  s'.1 = s.1 ∧ move s.2 e s'.2

variable {step : state -> Event Res -> state -> Prop} {move : state -> env -> state -> Prop}

theorem metered_slotStep :
    Metered (SlotStep step) (SlotMove move) (fun s => s.1.value) tookSlot gaveSlot where
  step_free := by
    intro s event s' h
    cases h with
    | among hstep => rfl
    | acquired htook => exact (BoundedSemaphore.acquire?_eq_some htook).2
    | full hnone => rfl
    | released hgave => exact (BoundedSemaphore.release?_eq_some hgave).2
    | overReleased hnone => rfl
  move_free := by
    intro s e s' h
    rw [h.1]

theorem metered_initial :
    Metered (SlotStep step) (SlotMove move) (fun s => s.1.initial) (fun _ => false)
      (fun _ => false) where
  step_free := by
    intro s event s' h
    cases h with
    | among hstep => rfl
    | acquired htook => exact (BoundedSemaphore.acquire?_eq_some htook).1
    | full hnone => rfl
    | released hgave => exact (BoundedSemaphore.release?_eq_some hgave).1
    | overReleased hnone => rfl
  move_free := by
    intro s e s' h
    rw [h.1]

variable {p : thread -> Program Op Res exc a} {full overReleased : exc'}
  {finish : Except exc a -> Except exc' b} {limit : Nat} {s : state}
  {s' : BoundedSemaphore × state}
  {trace : List ((thread × Event (SectionRes Res)) ⊕ env)}
  {pool' : thread -> Program (Op ⊕ SlotOp) (SectionRes Res) exc' b}

theorem sectionTrace_of_interleaves
    (h : Interleaves (SlotStep step) (SlotMove move)
      (fun i => withSlot (p i) full overReleased finish) (BoundedSemaphore.ofLimit limit, s)
      trace pool' s') (i : thread) :
    SectionTrace (p i) full overReleased finish (eventsOf i trace) (pool' i) :=
  sectionTrace_of_emits (emits_eventsOf h i)

/-- The free slots and the sections under way add up to the limit. -/
theorem slots_of_interleaves
    (h : Interleaves (SlotStep step) (SlotMove move)
      (fun i => withSlot (p i) full overReleased finish) (BoundedSemaphore.ofLimit limit, s)
      trace pool' s') :
    s'.1.initial = limit ∧ s'.1.value + (holders tookSlot gaveSlot trace).card = limit := by
  constructor
  · have hinitial := free_of_interleaves metered_initial h
    simpa [BoundedSemaphore.ofLimit] using hinitial
  · exact free_add_holders metered_slotStep h fun i => (sectionTrace_of_interleaves h i).bracketed

theorem never_overReleased
    (h : Interleaves (SlotStep step) (SlotMove move)
      (fun i => withSlot (p i) full overReleased finish) (BoundedSemaphore.ofLimit limit, s)
      trace pool' s') (i : thread) : .inl (i, ⟨.inr .release, false⟩) ∉ trace := by
  intro hmem
  rcases List.append_of_mem hmem with ⟨before, later, htrace⟩
  subst htrace
  rcases interleaves_split h with ⟨middle, s₁, hbefore, hafter⟩
  cases hafter with
  | thread hpool hstep hrest =>
      have hsection := sectionTrace_of_interleaves hbefore i
      rw [hpool] at hsection
      have hheld := free_lt_of_holds metered_slotStep hbefore
        (fun j => (sectionTrace_of_interleaves hbefore j).bracketed) hsection.holds_of_release
      have hinitial := (slots_of_interleaves hbefore).1
      cases hstep with
      | overReleased hnone =>
          have hsome := (BoundedSemaphore.release?_isSome_iff _).mpr (hinitial ▸ hheld)
          rw [hnone] at hsome
          cases hsome

/-- The sections that hold a slot are those that took one and have not ended. -/
theorem mem_holders_iff_unfinished
    (h : Interleaves (SlotStep step) (SlotMove move)
      (fun i => withSlot (p i) full overReleased finish) (BoundedSemaphore.ofLimit limit, s)
      trace pool' s') (i : thread) :
    i ∈ holders tookSlot gaveSlot trace <->
      .inl (i, ⟨.inr .acquire, true⟩) ∈ trace ∧ forall result, pool' i ≠ ofExcept result := by
  have hreleased := never_overReleased h i
  have hsection := sectionTrace_of_interleaves h i
  rw [← mem_eventsOf_iff] at hreleased ⊢
  rw [mem_holders_iff]
  generalize eventsOf i trace = events at hreleased hsection ⊢
  generalize pool' i = q at hsection ⊢
  cases hsection with
  | waiting => simp [Holds]
  | refused => simp [Holds, tookSlot, gaveSlot]
  | running hinner =>
      refine iff_of_true (holds_of_running _) ⟨List.mem_cons_self, ?_⟩
      intro result
      exact within_ne_ofExcept _ _ _ result
  | @released inner outcome hinner =>
      refine iff_of_false ?_ fun h => h.2 _ rfl
      rw [Holds, countP_section fun _ => rfl, countP_section fun _ => rfl]
      show ¬ (0 + 1 = 1 + 0 + 1)
      decide
  | overReleased hinner => exact absurd (by simp) hreleased

/-!
## A section run alone
-/

/-- The semaphore beside what answers the operations of a section. -/
def slotHandle (handle : state -> (op : Op) -> Res op × state) (s : BoundedSemaphore × state) :
    (op : Op ⊕ SlotOp) -> SectionRes Res op × (BoundedSemaphore × state)
  | .inl op => ((handle s.2 op).1, (s.1, (handle s.2 op).2))
  | .inr .acquire =>
      match s.1.acquire? with
      | some slots => (true, (slots, s.2))
      | none => (false, s)
  | .inr .release =>
      match s.1.release? with
      | some slots => (true, (slots, s.2))
      | none => (false, s)

theorem slotStep_slotHandle {handle : state -> (op : Op) -> Res op × state}
    (hstep : forall s op, step s ⟨op, (handle s op).1⟩ (handle s op).2)
    (s : BoundedSemaphore × state) (op : Op ⊕ SlotOp) :
    SlotStep step s ⟨op, (slotHandle handle s op).1⟩ (slotHandle handle s op).2 := by
  rcases s with ⟨slots, s⟩
  cases op with
  | inl op => exact SlotStep.among (hstep s op)
  | inr op =>
      cases op with
      | acquire =>
          cases htook : slots.acquire? with
          | some slots' =>
              simp only [slotHandle, htook]
              exact SlotStep.acquired htook
          | none =>
              simp only [slotHandle, htook]
              exact SlotStep.full htook
      | release =>
          cases hgave : slots.release? with
          | some slots' =>
              simp only [slotHandle, hgave]
              exact SlotStep.released hgave
          | none =>
              simp only [slotHandle, hgave]
              exact SlotStep.overReleased hgave

theorem run_within (handle : state -> (op : Op) -> Res op × state) (p : Program Op Res exc a)
    (after : Except exc a -> Program (Op ⊕ SlotOp) (SectionRes Res) exc' b)
    (slots : BoundedSemaphore) (s : state) :
    (run (slotHandle handle) (p.within after) (slots, s)).trace =
      (run handle p s).trace.map amongSlots ++
        (run (slotHandle handle) (after (run handle p s).result)
          (slots, (run handle p s).state)).trace := by
  induction p generalizing s with
  | pure value => rfl
  | raise e => rfl
  | perform op next ih =>
      rw [within, run_perform, run_perform]
      exact congrArg (List.cons _) (ih (handle s op).1 (handle s op).2)

/-- With a slot free, a section performs what its program does, between its two slots. -/
theorem trace_withSlot (handle : state -> (op : Op) -> Res op × state) (p : Program Op Res exc a)
    (full overReleased : exc') (finish : Except exc a -> Except exc' b)
    {slots slots' : BoundedSemaphore} (hfree : slots.acquire? = some slots') (s : state) :
    exists given, (run (slotHandle handle) (withSlot p full overReleased finish) (slots, s)).trace =
      ⟨.inr .acquire, true⟩ :: (run handle p s).trace.map amongSlots ++
        [⟨.inr .release, given⟩] := by
  have htook : slotHandle handle (slots, s) (.inr .acquire) = (true, (slots', s)) := by
    simp only [slotHandle, hfree]
  have hlast : forall outcome middle, exists given,
      (run (slotHandle handle) (afterSection overReleased finish outcome :
        Program (Op ⊕ SlotOp) (SectionRes Res) exc' b) middle).trace =
          [⟨.inr .release, given⟩] := by
    intro outcome middle
    refine ⟨(slotHandle handle middle (.inr .release)).1, ?_⟩
    rw [afterSection, release, perform_bind, run_perform]
    simp only [pure_bind]
    split <;> simp
  rcases hlast (run handle p s).result (slots', (run handle p s).state) with ⟨given, hgiven⟩
  refine ⟨given, ?_⟩
  rw [← hgiven, List.cons_append, ← run_within]
  show (run (slotHandle handle) (.perform (.inr .acquire) fun taken => _) (slots, s)).trace = _
  rw [run_perform, htook]
  rfl

end

end Program

end Foundation
end YasinMcp
