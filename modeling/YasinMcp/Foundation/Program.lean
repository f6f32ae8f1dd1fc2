import Mathlib.Algebra.BigOperators.Group.Finset.Piecewise
import Mathlib.Algebra.Order.BigOperators.Group.Finset
import Mathlib.Data.List.Induction
import Mathlib.Logic.Function.Basic

/-!
# Programs over atomic operations

A program performs atomic operations one at a time and continues with their
answers until it returns or raises.  The same program is run alone against a
deterministic handler, and interleaved with other programs over a shared state.
A property of every trace a program can emit, whatever the answers, holds of its
part of every interleaving.
-/

namespace YasinMcp
namespace Foundation

universe u v w x

inductive Program (Op : Type u) (Res : Op -> Type v) (exc : Type w) (a : Type x) where
  | pure (value : a)
  | raise (e : exc)
  | perform (op : Op) (next : Res op -> Program Op Res exc a)

namespace Program

variable {Op : Type u} {Res : Op -> Type v} {exc : Type w} {a b : Type x}

/-- One operation with the answer it got. -/
abbrev Event (Res : Op -> Type v) := (op : Op) × Res op

def bind : Program Op Res exc a -> (a -> Program Op Res exc b) -> Program Op Res exc b
  | .pure value, f => f value
  | .raise e, _ => .raise e
  | .perform op next, f => .perform op fun r => (next r).bind f

instance : Monad (Program Op Res exc) where
  pure := .pure
  bind := .bind

def ofExcept : Except exc a -> Program Op Res exc a
  | .ok value => .pure value
  | .error e => .raise e

@[simp] theorem pure_bind (value : a) (f : a -> Program Op Res exc b) :
    (.pure value : Program Op Res exc a) >>= f = f value := rfl

@[simp] theorem raise_bind (e : exc) (f : a -> Program Op Res exc b) :
    (.raise e : Program Op Res exc a) >>= f = .raise e := rfl

@[simp] theorem perform_bind (op : Op) (next : Res op -> Program Op Res exc a)
    (f : a -> Program Op Res exc b) :
    .perform op next >>= f = .perform op fun r => next r >>= f := rfl

@[simp] theorem ofExcept_ok (value : a) :
    (ofExcept (.ok value) : Program Op Res exc a) = .pure value := rfl

@[simp] theorem ofExcept_error (e : exc) :
    (ofExcept (.error e) : Program Op Res exc a) = .raise e := rfl

/-!
## Running a program alone
-/

structure Run (state : Type*) (Res : Op -> Type v) (exc : Type w) (a : Type x) where
  result : Except exc a
  trace : List (Event Res)
  state : state

def run {state : Type*} (handle : state -> (op : Op) -> Res op × state) :
    Program Op Res exc a -> state -> Run state Res exc a
  | .pure value, s => ⟨.ok value, [], s⟩
  | .raise e, s => ⟨.error e, [], s⟩
  | .perform op next, s =>
      let rest := run handle (next (handle s op).1) (handle s op).2
      ⟨rest.result, ⟨op, (handle s op).1⟩ :: rest.trace, rest.state⟩

section

variable {state : Type*} {handle : state -> (op : Op) -> Res op × state}

@[simp] theorem run_pure (value : a) (s : state) :
    run handle (.pure value : Program Op Res exc a) s = ⟨.ok value, [], s⟩ := rfl

@[simp] theorem run_raise (e : exc) (s : state) :
    run handle (.raise e : Program Op Res exc a) s = ⟨.error e, [], s⟩ := rfl

@[simp] theorem run_ofExcept (x : Except exc a) (s : state) :
    run handle (ofExcept x : Program Op Res exc a) s = ⟨x, [], s⟩ := by
  cases x with
  | error e => rfl
  | ok value => rfl

theorem run_perform (op : Op) (next : Res op -> Program Op Res exc a) (s : state) :
    run handle (.perform op next) s =
      ⟨(run handle (next (handle s op).1) (handle s op).2).result,
        ⟨op, (handle s op).1⟩ :: (run handle (next (handle s op).1) (handle s op).2).trace,
        (run handle (next (handle s op).1) (handle s op).2).state⟩ := rfl

theorem run_bind_ok {p : Program Op Res exc a} {f : a -> Program Op Res exc b} {s : state}
    {value : a} (h : (run handle p s).result = .ok value) :
    run handle (p >>= f) s =
      ⟨(run handle (f value) (run handle p s).state).result,
        (run handle p s).trace ++ (run handle (f value) (run handle p s).state).trace,
        (run handle (f value) (run handle p s).state).state⟩ := by
  induction p generalizing s with
  | pure value' =>
      cases h
      rfl
  | raise e => cases h
  | perform op next ih =>
      have hnext := ih (handle s op).1 h
      rw [perform_bind, run_perform, hnext]
      rfl

theorem run_bind_error {p : Program Op Res exc a} {f : a -> Program Op Res exc b}
    {s : state} {e : exc} (h : (run handle p s).result = .error e) :
    run handle (p >>= f) s = ⟨.error e, (run handle p s).trace, (run handle p s).state⟩ := by
  induction p generalizing s with
  | pure value => cases h
  | raise e' =>
      cases h
      rfl
  | perform op next ih =>
      have hnext := ih (handle s op).1 h
      rw [perform_bind, run_perform, hnext]
      rfl

end

/-!
## Handling an exception
-/

def rescue : Program Op Res exc a -> (exc -> Program Op Res exc a) -> Program Op Res exc a
  | .pure value, _ => .pure value
  | .raise e, handler => handler e
  | .perform op next, handler => .perform op fun r => (next r).rescue handler

@[simp] theorem rescue_pure (value : a) (handler : exc -> Program Op Res exc a) :
    (.pure value : Program Op Res exc a).rescue handler = .pure value := rfl

@[simp] theorem rescue_raise (e : exc) (handler : exc -> Program Op Res exc a) :
    (.raise e : Program Op Res exc a).rescue handler = handler e := rfl

/-!
## Answers that depend on the operation only
-/

/-- What the program gives when each operation has one answer. -/
def under (answer : (op : Op) -> Res op) : Program Op Res exc a -> Except exc a
  | .pure value => .ok value
  | .raise e => .error e
  | .perform op next => (next (answer op)).under answer

section

variable {answer : (op : Op) -> Res op}

@[simp] theorem under_pure (value : a) :
    (.pure value : Program Op Res exc a).under answer = .ok value := rfl

@[simp] theorem under_raise (e : exc) :
    (.raise e : Program Op Res exc a).under answer = .error e := rfl

@[simp] theorem under_perform (op : Op) (next : Res op -> Program Op Res exc a) :
    (Program.perform op next).under answer = (next (answer op)).under answer := rfl

@[simp] theorem under_ofExcept (x : Except exc a) :
    (ofExcept x : Program Op Res exc a).under answer = x := by
  cases x with
  | error e => rfl
  | ok value => rfl

theorem under_bind (p : Program Op Res exc a) (f : a -> Program Op Res exc b) :
    (p >>= f).under answer =
      match p.under answer with
      | .ok value => (f value).under answer
      | .error e => .error e := by
  induction p with
  | pure value => rfl
  | raise e => rfl
  | perform op next ih => exact ih (answer op)

theorem under_bind_ok {p : Program Op Res exc a} {f : a -> Program Op Res exc b} {value : a}
    (h : p.under answer = .ok value) : (p >>= f).under answer = (f value).under answer := by
  rw [under_bind, h]

theorem under_rescue (p : Program Op Res exc a) (handler : exc -> Program Op Res exc a) :
    (p.rescue handler).under answer =
      match p.under answer with
      | .ok value => .ok value
      | .error e => (handler e).under answer := by
  induction p with
  | pure value => rfl
  | raise e => rfl
  | perform op next ih => exact ih (answer op)

end

/-!
## Emitted traces
-/

/-- The program can perform this trace and then be this program. -/
inductive Emits : Program Op Res exc a -> List (Event Res) -> Program Op Res exc a -> Prop where
  | refl (p : Program Op Res exc a) : Emits p [] p
  | perform {op : Op} {next : Res op -> Program Op Res exc a} {r : Res op}
      {trace : List (Event Res)} {q : Program Op Res exc a} :
      Emits (next r) trace q -> Emits (.perform op next) (⟨op, r⟩ :: trace) q

theorem emits_raise {e : exc} {trace : List (Event Res)} {q : Program Op Res exc a}
    (h : Emits (.raise e) trace q) : trace = [] := by
  cases h
  rfl

theorem emits_ofExcept_pure {x : Except exc a} {trace : List (Event Res)} {value : a}
    (h : Emits (ofExcept x : Program Op Res exc a) trace (.pure value)) :
    trace = [] ∧ x = .ok value := by
  cases x with
  | error e => cases h
  | ok value' =>
      cases h
      exact ⟨rfl, rfl⟩

theorem Emits.bind_left {p q : Program Op Res exc a} {trace : List (Event Res)}
    (h : Emits p trace q) (f : a -> Program Op Res exc b) :
    Emits (p >>= f) trace (q >>= f) := by
  induction h with
  | refl p => exact Emits.refl _
  | perform _ ih => exact Emits.perform ih

theorem Emits.bind_of_pure {p : Program Op Res exc a} {trace : List (Event Res)} {value : a}
    (h : Emits p trace (.pure value)) {f : a -> Program Op Res exc b} {q : Program Op Res exc b}
    (hf : f value = q) : Emits (p >>= f) trace q := by
  have hbound := h.bind_left f
  rw [pure_bind, hf] at hbound
  exact hbound

theorem emits_bind {p : Program Op Res exc a} {f : a -> Program Op Res exc b}
    {trace : List (Event Res)} {q : Program Op Res exc b} (h : Emits (p >>= f) trace q) :
    (exists rest, Emits p trace rest ∧ q = rest >>= f) ∨
      exists first second middle,
        trace = first ++ second ∧ Emits p first (.pure middle) ∧
        Emits (f middle) second q := by
  induction p generalizing trace with
  | pure middle => exact Or.inr ⟨[], trace, middle, rfl, Emits.refl _, h⟩
  | raise e =>
      left
      cases h
      exact ⟨.raise e, Emits.refl _, rfl⟩
  | perform op next ih =>
      rw [perform_bind] at h
      cases h with
      | refl => exact Or.inl ⟨.perform op next, Emits.refl _, rfl⟩
      | @perform _ _ r rest _ hrest =>
          rcases ih r hrest with ⟨left, hleft, hq⟩ | ⟨first, second, middle, htrace, hfirst, hsecond⟩
          · exact Or.inl ⟨left, Emits.perform hleft, hq⟩
          · exact Or.inr ⟨⟨op, r⟩ :: first, second, middle, by rw [htrace]; rfl,
              Emits.perform hfirst, hsecond⟩

theorem bind_eq_ofExcept {p : Program Op Res exc a} {f : a -> Program Op Res exc b}
    {result : Except exc b} (h : p >>= f = ofExcept result) :
    (exists e, p = .raise e ∧ result = .error e) ∨
      exists value, p = .pure value ∧ f value = ofExcept result := by
  cases p with
  | pure value => exact Or.inr ⟨value, rfl, h⟩
  | raise e =>
      left
      cases result with
      | error e' =>
          cases h
          exact ⟨e, rfl, rfl⟩
      | ok value => cases h
  | perform op next =>
      cases result with
      | error e => cases h
      | ok value => cases h

/-- A sequence that ended raised in its first part, or ended in its second. -/
theorem emits_bind_ended {p : Program Op Res exc a} {f : a -> Program Op Res exc b}
    {trace : List (Event Res)} {result : Except exc b}
    (h : Emits (p >>= f) trace (ofExcept result)) :
    (exists e, Emits p trace (.raise e) ∧ result = .error e) ∨
      exists first second middle,
        trace = first ++ second ∧ Emits p first (.pure middle) ∧
        Emits (f middle) second (ofExcept result) := by
  rcases emits_bind h with ⟨rest, hrest, hq⟩ | hsplit
  · rcases bind_eq_ofExcept hq.symm with ⟨e, he, hresult⟩ | ⟨value, hvalue, hf⟩
    · subst he
      exact Or.inl ⟨e, hrest, hresult⟩
    · subst hvalue
      refine Or.inr ⟨trace, [], value, (List.append_nil trace).symm, hrest, ?_⟩
      rw [hf]
      exact Emits.refl _
  · exact Or.inr hsplit

theorem emits_perform_ended {op : Op} {next : Res op -> Program Op Res exc a}
    {trace : List (Event Res)} {result : Except exc a}
    (h : Emits (.perform op next) trace (ofExcept result)) :
    exists r rest, trace = ⟨op, r⟩ :: rest ∧ Emits (next r) rest (ofExcept result) := by
  generalize hq : (ofExcept result : Program Op Res exc a) = q at h
  cases h with
  | refl =>
      cases result with
      | error e => cases hq
      | ok value => cases hq
  | perform hrest => exact ⟨_, _, rfl, hrest⟩

/-- A sequence that returned went through a return of its first part. -/
theorem emits_bind_pure {p : Program Op Res exc a} {f : a -> Program Op Res exc b}
    {trace : List (Event Res)} {value : b} (h : Emits (p >>= f) trace (.pure value)) :
    exists first second middle,
      trace = first ++ second ∧ Emits p first (.pure middle) ∧
      Emits (f middle) second (.pure value) := by
  rcases emits_bind_ended (show Emits (p >>= f) trace (ofExcept (.ok value)) from h) with
    ⟨e, _, hresult⟩ | hsplit
  · cases hresult
  · exact hsplit

theorem emits_ofExcept {x : Except exc a} {trace : List (Event Res)} {q : Program Op Res exc a}
    (h : Emits (ofExcept x) trace q) : trace = [] ∧ q = ofExcept x := by
  cases x with
  | error e =>
      cases h
      exact ⟨rfl, rfl⟩
  | ok value =>
      cases h
      exact ⟨rfl, rfl⟩

theorem ofExcept_injective {x y : Except exc a}
    (h : (ofExcept x : Program Op Res exc a) = ofExcept y) : x = y := by
  cases x with
  | error e =>
      cases y with
      | error e' =>
          cases h
          rfl
      | ok value => cases h
  | ok value =>
      cases y with
      | error e => cases h
      | ok value' =>
          cases h
          rfl

theorem emits_ofExcept_ended {x result : Except exc a} {trace : List (Event Res)}
    (h : Emits (ofExcept x : Program Op Res exc a) trace (ofExcept result)) :
    trace = [] ∧ result = x :=
  ⟨(emits_ofExcept h).1, ofExcept_injective (emits_ofExcept h).2⟩

/-- The answers of a run that ended determine how it ended. -/
theorem emits_ended_unique {p : Program Op Res exc a} {trace : List (Event Res)}
    {result result' : Except exc a} (h : Emits p trace (ofExcept result))
    (h' : Emits p trace (ofExcept result')) : result = result' := by
  induction p generalizing trace with
  | pure value =>
      exact (emits_ofExcept_ended (x := .ok value) h).2.trans
        (emits_ofExcept_ended (x := .ok value) h').2.symm
  | raise e =>
      exact (emits_ofExcept_ended (x := .error e) h).2.trans
        (emits_ofExcept_ended (x := .error e) h').2.symm
  | perform op next ih =>
      rcases emits_perform_ended h with ⟨r, rest, htrace, hrest⟩
      rcases emits_perform_ended h' with ⟨r', rest', htrace', hrest'⟩
      rw [htrace] at htrace'
      cases htrace'
      exact ih r hrest hrest'

theorem emits_pure_unique {p : Program Op Res exc a} {trace : List (Event Res)} {value value' : a}
    (h : Emits p trace (.pure value)) (h' : Emits p trace (.pure value')) : value = value' :=
  Except.ok.inj (emits_ended_unique (show Emits p trace (ofExcept (.ok value)) from h)
    (show Emits p trace (ofExcept (.ok value')) from h'))

theorem not_emits_raise_of_pure {p : Program Op Res exc a} {trace : List (Event Res)} {value : a}
    {e : exc} (h : Emits p trace (.pure value)) : ¬ Emits p trace (.raise e) := by
  intro h'
  cases emits_ended_unique (show Emits p trace (ofExcept (.ok value)) from h)
    (show Emits p trace (ofExcept (.error e)) from h')

theorem emits_run_ended {state : Type*} (handle : state -> (op : Op) -> Res op × state)
    (p : Program Op Res exc a) (s : state) :
    Emits p (run handle p s).trace (ofExcept (run handle p s).result) := by
  induction p generalizing s with
  | pure value => exact Emits.refl _
  | raise e => exact Emits.refl _
  | perform op next ih => exact Emits.perform (ih (handle s op).1 (handle s op).2)

theorem emits_run {state : Type*} (handle : state -> (op : Op) -> Res op × state)
    (p : Program Op Res exc a) (s : state) :
    exists q, Emits p (run handle p s).trace q :=
  ⟨_, emits_run_ended handle p s⟩

theorem answer_of_run {state : Type*} {handle : state -> (op : Op) -> Res op × state}
    {p : Program Op Res exc a} {s : state} {event : Event Res}
    (h : event ∈ (run handle p s).trace) : exists s', event.2 = (handle s' event.1).1 := by
  induction p generalizing s with
  | pure value => cases h
  | raise e => cases h
  | perform op next ih =>
      rw [run_perform] at h
      rcases List.mem_cons.mp h with hhead | hrest
      · subst hhead
        exact ⟨s, rfl⟩
      · exact ih _ hrest

/--
Every operation the program performs satisfies the guard of the events before
it, whatever the answers.
-/
def Guarded (guard : List (Event Res) -> Op -> Prop) :
    List (Event Res) -> Program Op Res exc a -> Prop
  | _, .pure _ => True
  | _, .raise _ => True
  | past, .perform op next =>
      guard past op ∧ forall r, Guarded guard (past ++ [⟨op, r⟩]) (next r)

theorem guarded_of_emits {guard : List (Event Res) -> Op -> Prop}
    {past trace : List (Event Res)} {p q : Program Op Res exc a}
    (hp : Guarded guard past p) (h : Emits p trace q)
    {before later : List (Event Res)} {event : Event Res}
    (htrace : trace = before ++ event :: later) : guard (past ++ before) event.1 := by
  induction h generalizing past before with
  | refl p => simp at htrace
  | @perform op next r trace q _ ih =>
      cases before with
      | nil =>
          rw [List.nil_append, List.cons.injEq] at htrace
          rw [← htrace.1, List.append_nil]
          exact hp.1
      | cons first before =>
          rw [List.cons_append, List.cons.injEq] at htrace
          have hrest := ih (hp.2 r) htrace.2
          rw [← htrace.1]
          simpa using hrest

theorem guarded_bind {guard : List (Event Res) -> Op -> Prop} {past : List (Event Res)}
    {p : Program Op Res exc a} {f : a -> Program Op Res exc b} (hp : Guarded guard past p)
    (hf : forall trace value, Emits p trace (.pure value) ->
      Guarded guard (past ++ trace) (f value)) :
    Guarded guard past (p >>= f) := by
  induction p generalizing past with
  | pure value => simpa using hf [] value (Emits.refl _)
  | raise e => trivial
  | perform op next ih =>
      refine ⟨hp.1, ?_⟩
      intro r
      apply ih r (hp.2 r)
      intro trace value htrace
      simpa using hf (⟨op, r⟩ :: trace) value (Emits.perform htrace)

theorem prefix_of_not_mem {event : Type*} {front back before later : List event}
    {entry : event} (h : front ++ back = before ++ entry :: later) (hentry : entry ∉ front) :
    front <+: before := by
  rcases List.append_eq_append_iff.mp h with ⟨middle, hbefore, _⟩ | ⟨middle, hfront, hlater⟩
  · exact ⟨middle, hbefore.symm⟩
  · cases middle with
    | nil =>
        rw [hfront, List.append_nil]
    | cons other rest =>
        rw [List.cons_append, List.cons.injEq] at hlater
        rw [hfront, hlater.1] at hentry
        simp at hentry

theorem countP_le_of_once_past {event : Type*} {p q : event -> Bool} {entries : List event}
    (h : forall before entry later, entries = before ++ entry :: later -> p entry = true ->
      before.countP p = 0 ∧ before.countP q ≠ 0) :
    entries.countP p ≤ entries.countP q := by
  -- From the right: the last entry is the only one, or the bound holds without it.
  induction entries using List.reverseRecOn with
  | nil => exact Nat.le_refl 0
  | append_singleton before entry ih =>
      rw [List.countP_append, List.countP_append]
      cases hentry : p entry with
      | true =>
          rcases h before entry [] rfl hentry with ⟨hnone, hpast⟩
          have hone : [entry].countP p ≤ 1 := List.countP_le_length
          omega
      | false =>
          have hnone : [entry].countP p = 0 := by simp [hentry]
          have hbefore : before.countP p ≤ before.countP q := by
            apply ih
            intro earlier other later hsplit
            exact h earlier other (later ++ [entry]) (by rw [hsplit]; simp)
          omega

/-!
## Interleavings
-/

/--
Programs sharing a state take turns, one operation at a time; between them the
environment may move the state as well.
-/
inductive Interleaves {thread : Type*} [DecidableEq thread] {state env : Type*}
    (step : state -> Event Res -> state -> Prop) (move : state -> env -> state -> Prop) :
    (thread -> Program Op Res exc a) -> state ->
      List ((thread × Event Res) ⊕ env) -> (thread -> Program Op Res exc a) -> state -> Prop where
  | refl (pool : thread -> Program Op Res exc a) (s : state) :
      Interleaves step move pool s [] pool s
  | thread {pool pool' : thread -> Program Op Res exc a} {s s₁ s' : state} {i : thread}
      {op : Op} {next : Res op -> Program Op Res exc a} {r : Res op}
      {trace : List ((thread × Event Res) ⊕ env)} :
      pool i = .perform op next -> step s ⟨op, r⟩ s₁ ->
      Interleaves step move (Function.update pool i (next r)) s₁ trace pool' s' ->
      Interleaves step move pool s (.inl (i, ⟨op, r⟩) :: trace) pool' s'
  | environment {pool pool' : thread -> Program Op Res exc a} {s s₁ s' : state} {e : env}
      {trace : List ((thread × Event Res) ⊕ env)} :
      move s e s₁ -> Interleaves step move pool s₁ trace pool' s' ->
      Interleaves step move pool s (.inr e :: trace) pool' s'

theorem interleaves_alone {state env : Type*} {handle : state -> (op : Op) -> Res op × state}
    {step : state -> Event Res -> state -> Prop} {move : state -> env -> state -> Prop}
    (hstep : forall s op, step s ⟨op, (handle s op).1⟩ (handle s op).2)
    (p : Program Op Res exc a) (s : state) :
    Interleaves step move (fun _ : Unit => p) s
      ((run handle p s).trace.map fun event => .inl ((), event))
      (fun _ => ofExcept (run handle p s).result) (run handle p s).state := by
  induction p generalizing s with
  | pure value => exact Interleaves.refl _ _
  | raise e => exact Interleaves.refl _ _
  | perform op next ih =>
      have hrest := ih (handle s op).1 (handle s op).2
      refine Interleaves.thread rfl (hstep s op) ?_
      rw [show Function.update (fun _ : Unit => perform op next) () (next (handle s op).1) =
        fun _ => next (handle s op).1 from funext fun _ => Function.update_self _ _ _]
      exact hrest

/-- An interleaving can be stopped at any point of its trace. -/
theorem interleaves_split {thread : Type*} [DecidableEq thread] {state env : Type*}
    {step : state -> Event Res -> state -> Prop} {move : state -> env -> state -> Prop}
    {pool pool' : thread -> Program Op Res exc a} {s s' : state}
    {first second : List ((thread × Event Res) ⊕ env)}
    (h : Interleaves step move pool s (first ++ second) pool' s') :
    exists middle s₁, Interleaves step move pool s first middle s₁ ∧
      Interleaves step move middle s₁ second pool' s' := by
  induction first generalizing pool s with
  | nil => exact ⟨pool, s, Interleaves.refl _ _, h⟩
  | cons entry first ih =>
      cases h with
      | thread hpool hstep hrest =>
          rcases ih hrest with ⟨middle, s₁, hfirst, hsecond⟩
          exact ⟨middle, s₁, Interleaves.thread hpool hstep hfirst, hsecond⟩
      | environment hmove hrest =>
          rcases ih hrest with ⟨middle, s₁, hfirst, hsecond⟩
          exact ⟨middle, s₁, Interleaves.environment hmove hfirst, hsecond⟩

section

variable {thread : Type*} {state env : Type*}

def threadEvents (trace : List ((thread × Event Res) ⊕ env)) : List (thread × Event Res) :=
  trace.filterMap Sum.getLeft?

@[simp] theorem threadEvents_inl (entry : thread × Event Res)
    (rest : List ((thread × Event Res) ⊕ env)) :
    threadEvents (.inl entry :: rest) = entry :: threadEvents rest := rfl

@[simp] theorem threadEvents_inr (e : env) (rest : List ((thread × Event Res) ⊕ env)) :
    threadEvents (.inr e :: rest) = threadEvents rest := rfl

theorem threadEvents_alone (i : thread) (trace : List (Event Res)) :
    (threadEvents (trace.map fun event =>
      (.inl (i, event) : (thread × Event Res) ⊕ env))).map Prod.snd = trace := by
  induction trace with
  | nil => rfl
  | cons event rest ih => rw [List.map_cons, threadEvents_inl, List.map_cons, ih]

variable [DecidableEq thread]
  {step : state -> Event Res -> state -> Prop} {move : state -> env -> state -> Prop}

def eventsOf (i : thread) (trace : List ((thread × Event Res) ⊕ env)) : List (Event Res) :=
  trace.filterMap fun entry =>
    match entry with
    | .inl (j, event) => if j = i then some event else none
    | .inr _ => none

theorem mem_eventsOf_iff (i : thread) (event : Event Res)
    (trace : List ((thread × Event Res) ⊕ env)) :
    event ∈ eventsOf i trace <-> .inl (i, event) ∈ trace := by
  rw [eventsOf, List.mem_filterMap]
  constructor
  · intro h
    rcases h with ⟨⟨j, other⟩ | e, hmem, hentry⟩
    · by_cases hj : j = i
      · subst hj
        simp only [if_true, Option.some.injEq] at hentry
        rwa [hentry] at hmem
      · simp [hj] at hentry
    · cases hentry
  · intro h
    exact ⟨.inl (i, event), h, by simp⟩

/-- A thread's part of an interleaving is a trace it emits. -/
theorem emits_eventsOf {pool pool' : thread -> Program Op Res exc a} {s s' : state}
    {trace : List ((thread × Event Res) ⊕ env)}
    (h : Interleaves step move pool s trace pool' s') (i : thread) :
    Emits (pool i) (eventsOf i trace) (pool' i) := by
  induction h with
  | refl pool s => exact Emits.refl _
  | @thread pool pool' s s₁ s' j op next r trace hpool _ _ ih =>
      by_cases hj : j = i
      · subst hj
        rw [Function.update_self] at ih
        rw [hpool]
        simpa [eventsOf] using Emits.perform ih
      · rw [Function.update_of_ne (Ne.symm hj)] at ih
        simpa [eventsOf, hj] using ih
  | environment _ _ ih => simpa [eventsOf] using ih

theorem eventsOf_alone (i : thread) (trace : List (Event Res)) :
    eventsOf i (trace.map fun event => (.inl (i, event) : (thread × Event Res) ⊕ env)) =
      trace := by
  induction trace with
  | nil => rfl
  | cons event rest ih =>
      simp only [eventsOf, List.map_cons, List.filterMap_cons, if_pos] at ih ⊢
      rw [ih]

theorem eventsOf_eq_map (i : thread) (trace : List ((thread × Event Res) ⊕ env)) :
    eventsOf i trace =
      ((threadEvents trace).filter fun entry => entry.1 = i).map Prod.snd := by
  induction trace with
  | nil => rfl
  | cons entry rest ih =>
      rcases entry with ⟨j, event⟩ | e
      · by_cases hj : j = i
        · simpa [eventsOf, hj] using ih
        · simpa [eventsOf, hj] using ih
      · simpa [eventsOf] using ih

theorem countP_eq_sum {event : Type*} (p : event -> Bool) {threads : Finset thread}
    {entries : List (thread × event)} (h : forall entry, entry ∈ entries -> entry.1 ∈ threads) :
    (entries.map Prod.snd).countP p =
      ∑ i ∈ threads, ((entries.filter fun entry => entry.1 = i).map Prod.snd).countP p := by
  induction entries with
  | nil => simp
  | cons entry rest ih =>
      rcases entry with ⟨j, event⟩
      have hj : j ∈ threads := h (j, event) List.mem_cons_self
      have hrest := ih fun entry hentry => h entry (List.mem_cons_of_mem _ hentry)
      have hcons : forall i,
          ((((j, event) :: rest).filter fun entry => entry.1 = i).map Prod.snd).countP p =
            ((rest.filter fun entry => entry.1 = i).map Prod.snd).countP p +
              if j = i then (if p event then 1 else 0) else 0 := by
        intro i
        by_cases hi : j = i
        · simp [hi, List.countP_cons]
        · simp [hi]
      rw [List.map_cons, List.countP_cons, hrest]
      simp only [hcons, Finset.sum_add_distrib, Finset.sum_ite_eq, if_pos hj]

/-- A bound between two counts that holds thread by thread holds of all threads together. -/
theorem countP_le_of_threads {event : Type*} {p q : event -> Bool}
    (entries : List (thread × event))
    (h : forall i, ((entries.filter fun entry => entry.1 = i).map Prod.snd).countP p ≤
      ((entries.filter fun entry => entry.1 = i).map Prod.snd).countP q) :
    (entries.map Prod.snd).countP p ≤ (entries.map Prod.snd).countP q := by
  have hmem : forall entry, entry ∈ entries -> entry.1 ∈ (entries.map Prod.fst).toFinset := by
    intro entry hentry
    exact List.mem_toFinset.mpr (List.mem_map_of_mem hentry)
  rw [countP_eq_sum p hmem, countP_eq_sum q hmem]
  exact Finset.sum_le_sum fun i _ => h i

end

end Program

end Foundation
end YasinMcp
