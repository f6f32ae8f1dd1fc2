import Mathlib.Data.List.Basic
import Mathlib.Logic.Function.Basic

/-!
# Deterministic machines with answers

A machine consumes operations one at a time, answers each, and moves to a new
state.  The rules below lift step facts to whole runs: invariants, agreement of
two machines under an abstraction, and families of independent cells, where an
operation reads and writes only the cell it is addressed to.
-/

namespace YasinMcp
namespace Foundation

universe u v w x y

structure Machine (state : Type u) (op : Type v) (out : Type w) where
  step : state -> op -> out × state

namespace Machine

variable {state : Type u} {op : Type v} {out : Type w}

def after (m : Machine state op out) (s : state) : List op -> state
  | [] => s
  | o :: rest => m.after (m.step s o).2 rest

def history (m : Machine state op out) (s : state) : List op -> List (op × out)
  | [] => []
  | o :: rest => (o, (m.step s o).1) :: m.history (m.step s o).2 rest

@[simp] theorem after_nil (m : Machine state op out) (s : state) :
    m.after s [] = s := rfl

@[simp] theorem after_cons (m : Machine state op out) (s : state) (o : op)
    (rest : List op) : m.after s (o :: rest) = m.after (m.step s o).2 rest := rfl

@[simp] theorem history_cons (m : Machine state op out) (s : state) (o : op)
    (rest : List op) :
    m.history s (o :: rest) =
      (o, (m.step s o).1) :: m.history (m.step s o).2 rest := rfl

theorem after_append (m : Machine state op out) (s : state) (first second : List op) :
    m.after s (first ++ second) = m.after (m.after s first) second := by
  induction first generalizing s with
  | nil => rfl
  | cons o rest ih => exact ih (m.step s o).2

theorem history_append (m : Machine state op out) (s : state) (first second : List op) :
    m.history s (first ++ second) =
      m.history s first ++ m.history (m.after s first) second := by
  induction first generalizing s with
  | nil => rfl
  | cons o rest ih => simp [ih (m.step s o).2]

theorem history_split {m : Machine state op out} {s : state} {ops : List op}
    {before later : List (op × out)} {o : op} {a : out}
    (h : m.history s ops = before ++ (o, a) :: later) :
    exists first second : List op,
      ops = first ++ o :: second ∧
      a = (m.step (m.after s first) o).1 ∧
      before = m.history s first ∧
      later = m.history (m.after s (first ++ [o])) second := by
  induction before generalizing s ops with
  | nil =>
      cases ops with
      | nil => cases h
      | cons o' rest =>
          rw [history_cons, List.nil_append, List.cons.injEq] at h
          rcases h with ⟨hhead, hlater⟩
          cases hhead
          exact ⟨[], rest, rfl, rfl, rfl, hlater.symm⟩
  | cons entry before ih =>
      cases ops with
      | nil => cases h
      | cons o' rest =>
          rw [history_cons, List.cons_append, List.cons.injEq] at h
          rcases h with ⟨hhead, htail⟩
          rcases ih htail with ⟨first, second, hops, ha, hbefore, hlater⟩
          refine ⟨o' :: first, second, by rw [hops]; rfl, ha, ?_, hlater⟩
          rw [history_cons, hhead, hbefore]

/-!
## Invariants
-/

theorem history_forall {m : Machine state op out} {allowed : op -> Prop}
    (inv : state -> Prop) (good : op -> out -> Prop)
    (hstep : forall s o, allowed o -> inv s -> inv (m.step s o).2)
    (hgood : forall s o, allowed o -> inv s -> good o (m.step s o).1)
    {s : state} {ops : List op} (hops : forall o, o ∈ ops -> allowed o) (hs : inv s) :
    forall entry, entry ∈ m.history s ops -> good entry.1 entry.2 := by
  induction ops generalizing s with
  | nil =>
      intro entry hentry
      cases hentry
  | cons o rest ih =>
      intro entry hentry
      have ho : allowed o := hops o List.mem_cons_self
      rcases List.mem_cons.mp hentry with hhead | htail
      · rw [hhead]
        exact hgood s o ho hs
      · exact ih (fun o' ho' => hops o' (List.mem_cons_of_mem o ho'))
          (hstep s o ho hs) entry htail

theorem countP_le_one_of_once {a : Type u} {p : a -> Bool} {entries : List a}
    (h : forall before entry later, entries = before ++ entry :: later ->
      p entry = true -> forall other, other ∈ later -> p other = false) :
    entries.countP p ≤ 1 := by
  induction entries with
  | nil => simp
  | cons entry rest ih =>
      cases hentry : p entry with
      | true =>
          have hrest : rest.countP p = 0 := by
            rw [List.countP_eq_zero]
            intro other hother
            simp [h [] entry rest rfl hentry other hother]
          rw [List.countP_cons_of_pos hentry]
          omega
      | false =>
          rw [List.countP_cons_of_neg (by simp [hentry])]
          apply ih
          intro before other later hsplit
          exact h (entry :: before) other later (by rw [hsplit]; rfl)

/-!
## Simulation
-/

/-- The abstraction commutes with every step and preserves every answer. -/
structure Simulates {abstract : Type x} (m : Machine state op out)
    (spec : Machine abstract op out) (view : state -> abstract) : Prop where
  answer : forall s o, (m.step s o).1 = (spec.step (view s) o).1
  next : forall s o, view (m.step s o).2 = (spec.step (view s) o).2

namespace Simulates

variable {abstract : Type x} {m : Machine state op out}
  {spec : Machine abstract op out} {view : state -> abstract}

theorem after (h : Simulates m spec view) (s : state) (ops : List op) :
    view (m.after s ops) = spec.after (view s) ops := by
  induction ops generalizing s with
  | nil => rfl
  | cons o rest ih => rw [after_cons, ih, h.next, after_cons]

theorem history (h : Simulates m spec view) (s : state) (ops : List op) :
    m.history s ops = spec.history (view s) ops := by
  induction ops generalizing s with
  | nil => rfl
  | cons o rest ih =>
      rw [history_cons, history_cons, h.answer, ih (m.step s o).2, h.next]

end Simulates

end Machine

/-!
## Families of independent cells
-/

/--
The operations of a family of cells.  An operation without an address answers by
itself; one with an address reads and rewrites the cell there.
-/
structure Cells (addr : Type u) (cell : Type v) (op : Type w) (out : Type x) where
  address : op -> Option addr
  idle : op -> out
  touch : cell -> op -> out × cell

namespace Cells

variable {addr : Type u} {cell : Type v} {op : Type w} {out : Type x} [DecidableEq addr]

def machine (c : Cells addr cell op out) : Machine (addr -> cell) op out where
  step s o :=
    match c.address o with
    | none => (c.idle o, s)
    | some a => ((c.touch (s a) o).1, Function.update s a (c.touch (s a) o).2)

def single (c : Cells addr cell op out) : Machine cell op out where
  step := c.touch

def At (c : Cells addr cell op out) (a : addr) (o : op) : Prop :=
  c.address o = some a

instance (c : Cells addr cell op out) (a : addr) : DecidablePred (c.At a) :=
  fun o => inferInstanceAs (Decidable (c.address o = some a))

theorem machine_step_at {c : Cells addr cell op out} {a : addr} {o : op}
    (h : c.At a o) (s : addr -> cell) :
    c.machine.step s o =
      ((c.touch (s a) o).1, Function.update s a (c.touch (s a) o).2) := by
  simp only [machine]
  rw [show c.address o = some a from h]

theorem machine_step_frame {c : Cells addr cell op out} {a : addr} {o : op}
    (h : ¬ c.At a o) (s : addr -> cell) : (c.machine.step s o).2 a = s a := by
  cases haddr : c.address o with
  | none => simp [machine, haddr]
  | some b =>
      have hab : a ≠ b := by
        intro hab
        exact h (by rw [At, haddr, hab])
      simp [machine, haddr, Function.update_of_ne hab]

theorem machine_after (c : Cells addr cell op out) (a : addr) (s : addr -> cell)
    (ops : List op) :
    c.machine.after s ops a = c.single.after (s a) (ops.filter fun o => c.At a o) := by
  induction ops generalizing s with
  | nil => rfl
  | cons o rest ih =>
      by_cases ho : c.At a o
      · rw [Machine.after_cons, ih, List.filter_cons_of_pos (by simpa using ho),
          Machine.after_cons, machine_step_at ho]
        simp [single]
      · rw [Machine.after_cons, ih, List.filter_cons_of_neg (by simpa using ho),
          machine_step_frame ho]

theorem machine_history (c : Cells addr cell op out) (a : addr) (s : addr -> cell)
    (ops : List op) :
    (c.machine.history s ops).filter (fun entry => c.At a entry.1) =
      c.single.history (s a) (ops.filter fun o => c.At a o) := by
  induction ops generalizing s with
  | nil => rfl
  | cons o rest ih =>
      by_cases ho : c.At a o
      · rw [Machine.history_cons, List.filter_cons_of_pos (by simpa using ho), ih,
          List.filter_cons_of_pos (by simpa using ho), Machine.history_cons,
          machine_step_at ho]
        simp [single]
      · rw [Machine.history_cons, List.filter_cons_of_neg (by simpa using ho), ih,
          List.filter_cons_of_neg (by simpa using ho), machine_step_frame ho]

end Cells

end Foundation
end YasinMcp
