import Mathlib.Data.List.Induction
import Mathlib.Data.List.Nodup

/-!
# Insertion-ordered dictionaries

A dictionary is a list of key-value pairs with distinct keys.  Storing under a
present key replaces the value in place, storing under a new key appends, and
erasing keeps the order of the other entries.  The order is observable when a
dictionary is iterated, so it is part of the value.
-/

namespace YasinMcp
namespace Foundation

universe u v

/-- A finite map that keeps its keys in the order of their first insertion. -/
structure Dict (key : Type u) (value : Type v) where
  entries : List (key × value)
  nodup : (entries.map Prod.fst).Nodup

namespace Dict

variable {key : Type u} {value : Type v}

@[ext] theorem ext {d e : Dict key value} (h : d.entries = e.entries) : d = e := by
  cases d
  cases e
  cases h
  rfl

variable [DecidableEq key]

instance [DecidableEq value] : DecidableEq (Dict key value) :=
  fun d e => decidable_of_iff (d.entries = e.entries) ⟨Dict.ext, fun h => by rw [h]⟩

/-!
## Operations on entry lists
-/

def lookupIn (k : key) : List (key × value) -> Option value
  | [] => none
  | (k', x) :: rest => if k' = k then some x else lookupIn k rest

def setIn (k : key) (x : value) : List (key × value) -> List (key × value)
  | [] => [(k, x)]
  | (k', y) :: rest => if k' = k then (k', x) :: rest else (k', y) :: setIn k x rest

def eraseIn (k : key) (entries : List (key × value)) : List (key × value) :=
  entries.filter fun entry => entry.1 ≠ k

theorem lookupIn_eq_none_iff (k : key) (entries : List (key × value)) :
    lookupIn k entries = none <-> k ∉ entries.map Prod.fst := by
  induction entries with
  | nil => simp [lookupIn]
  | cons entry rest ih =>
      by_cases hk : entry.1 = k
      · simp [lookupIn, hk]
      · simp [lookupIn, hk, ih, Ne.symm hk]

theorem lookupIn_append (k : key) (front back : List (key × value)) :
    lookupIn k (front ++ back) = (lookupIn k front).or (lookupIn k back) := by
  induction front with
  | nil => rfl
  | cons entry rest ih =>
      rw [List.cons_append, lookupIn, lookupIn, ih]
      split
      · rfl
      · rfl

theorem lookupIn_setIn (k k' : key) (x : value) (entries : List (key × value)) :
    lookupIn k' (setIn k x entries) =
      if k = k' then some x else lookupIn k' entries := by
  induction entries with
  | nil => simp [setIn, lookupIn]
  | cons entry rest ih =>
      rcases entry with ⟨j, y⟩
      by_cases hjk : j = k
      · subst hjk
        by_cases hk : j = k' <;> simp [setIn, lookupIn, hk]
      · by_cases hj : j = k'
        · subst hj
          simp [setIn, lookupIn, hjk, Ne.symm hjk]
        · simp [setIn, lookupIn, hjk, hj, ih]

theorem map_fst_setIn_of_mem {k : key} (x : value) {entries : List (key × value)}
    (h : k ∈ entries.map Prod.fst) :
    (setIn k x entries).map Prod.fst = entries.map Prod.fst := by
  induction entries with
  | nil => cases h
  | cons entry rest ih =>
      rcases entry with ⟨j, y⟩
      by_cases hj : j = k
      · simp [setIn, hj]
      · have htail : k ∈ rest.map Prod.fst := by
          rcases List.mem_cons.mp h with hhead | htail
          · exact absurd hhead.symm hj
          · exact htail
        simp [setIn, hj, ih htail]

theorem setIn_of_not_mem {k : key} (x : value) {entries : List (key × value)}
    (h : k ∉ entries.map Prod.fst) : setIn k x entries = entries ++ [(k, x)] := by
  induction entries with
  | nil => rfl
  | cons entry rest ih =>
      rcases entry with ⟨j, y⟩
      simp only [List.map_cons, List.mem_cons, not_or] at h
      simp [setIn, Ne.symm h.1, ih h.2]

theorem nodup_setIn (k : key) (x : value) {entries : List (key × value)}
    (h : (entries.map Prod.fst).Nodup) : ((setIn k x entries).map Prod.fst).Nodup := by
  by_cases hk : k ∈ entries.map Prod.fst
  · rw [map_fst_setIn_of_mem x hk]
    exact h
  · rw [setIn_of_not_mem x hk, List.map_append]
    exact h.append (List.nodup_singleton k) (by simpa using hk)

theorem mem_setIn {k : key} {x : value} {entries : List (key × value)} {entry : key × value}
    (h : entry ∈ setIn k x entries) : entry = (k, x) ∨ entry ∈ entries := by
  induction entries with
  | nil => exact Or.inl (List.mem_singleton.mp h)
  | cons first rest ih =>
      rw [setIn] at h
      split at h
      · rename_i hk
        rcases List.mem_cons.mp h with hsame | hrest
        · exact Or.inl (hsame.trans (by rw [hk]))
        · exact Or.inr (List.mem_cons_of_mem first hrest)
      · rcases List.mem_cons.mp h with hsame | hrest
        · exact Or.inr (List.mem_cons.mpr (Or.inl hsame))
        · exact (ih hrest).imp_right (List.mem_cons_of_mem first)

theorem countP_setIn (p : key × value -> Bool) (k : key) (x : value)
    (entries : List (key × value)) :
    (setIn k x entries).countP p +
        ((lookupIn k entries).elim 0 fun old => if p (k, old) then 1 else 0) =
      entries.countP p + if p (k, x) then 1 else 0 := by
  induction entries with
  | nil => simp [setIn, lookupIn]
  | cons entry rest ih =>
      rcases entry with ⟨j, y⟩
      cases decEq j k with
      | isTrue hj =>
          subst hj
          simp only [setIn, lookupIn, if_true, List.countP_cons, Option.elim_some]
          omega
      | isFalse hj =>
          simp only [setIn, lookupIn, if_neg hj, List.countP_cons]
          omega

theorem lookupIn_of_mem {k : key} {x : value} {entries : List (key × value)}
    (hnodup : (entries.map Prod.fst).Nodup) (h : (k, x) ∈ entries) :
    lookupIn k entries = some x := by
  induction entries with
  | nil => cases h
  | cons entry rest ih =>
      rcases entry with ⟨j, y⟩
      rw [List.map_cons, List.nodup_cons] at hnodup
      rw [lookupIn]
      rcases List.mem_cons.mp h with hhead | htail
      · cases hhead
        rw [if_pos rfl]
      · have hne : j ≠ k := by
          intro hj
          subst hj
          exact hnodup.1 (List.mem_map.mpr ⟨_, htail, rfl⟩)
        rw [if_neg hne]
        exact ih hnodup.2 htail

theorem mem_of_lookupIn {k : key} {x : value} {entries : List (key × value)}
    (h : lookupIn k entries = some x) : (k, x) ∈ entries := by
  induction entries with
  | nil => cases h
  | cons entry rest ih =>
      rw [lookupIn] at h
      split at h
      · rename_i hk
        cases h
        rw [← hk]
        exact List.mem_cons_self
      · exact List.mem_cons_of_mem entry (ih h)

theorem perm_of_lookupIn {xs ys : List (key × value)} (hxs : (xs.map Prod.fst).Nodup)
    (hys : (ys.map Prod.fst).Nodup) (h : forall k, lookupIn k xs = lookupIn k ys) :
    xs.Perm ys := by
  rw [List.perm_ext_iff_of_nodup (List.Nodup.of_map _ hxs) (List.Nodup.of_map _ hys)]
  intro entry
  constructor
  · intro hmem
    have hlookup := lookupIn_of_mem hxs hmem
    rw [h] at hlookup
    exact mem_of_lookupIn hlookup
  · intro hmem
    have hlookup := lookupIn_of_mem hys hmem
    rw [← h] at hlookup
    exact mem_of_lookupIn hlookup

theorem lookupIn_of_perm {xs ys : List (key × value)} (hxs : (xs.map Prod.fst).Nodup)
    (h : xs.Perm ys) (k : key) : lookupIn k xs = lookupIn k ys := by
  have hys := (h.map Prod.fst).nodup_iff.mp hxs
  cases hlookup : lookupIn k xs with
  | none =>
      rw [lookupIn_eq_none_iff, (h.map Prod.fst).mem_iff] at hlookup
      exact ((lookupIn_eq_none_iff k ys).mpr hlookup).symm
  | some x => exact (lookupIn_of_mem hys (h.mem_iff.mp (mem_of_lookupIn hlookup))).symm

theorem lookupIn_eraseIn_of_ne {k k' : key} (h : k' ≠ k) (entries : List (key × value)) :
    lookupIn k' (eraseIn k entries) = lookupIn k' entries := by
  induction entries with
  | nil => rfl
  | cons entry rest ih =>
      rcases entry with ⟨j, y⟩
      unfold eraseIn at ih ⊢
      by_cases hj : j = k
      · subst hj
        rw [List.filter_cons_of_neg (by simp), ih, lookupIn, if_neg (Ne.symm h)]
      · rw [List.filter_cons_of_pos (by simpa using hj), lookupIn, lookupIn, ih]

theorem nodup_eraseIn (k : key) {entries : List (key × value)}
    (h : (entries.map Prod.fst).Nodup) : ((eraseIn k entries).map Prod.fst).Nodup :=
  h.sublist (List.filter_sublist.map Prod.fst)

/-!
## Dictionaries
-/

def empty : Dict key value where
  entries := []
  nodup := List.nodup_nil

def get? (d : Dict key value) (k : key) : Option value :=
  lookupIn k d.entries

def set (d : Dict key value) (k : key) (x : value) : Dict key value where
  entries := setIn k x d.entries
  nodup := nodup_setIn k x d.nodup

def erase (d : Dict key value) (k : key) : Dict key value where
  entries := eraseIn k d.entries
  nodup := nodup_eraseIn k d.nodup

def keys (d : Dict key value) : List key :=
  d.entries.map Prod.fst

def ofEntries (pairs : List (key × value)) : Dict key value :=
  pairs.foldl (fun d pair => d.set pair.1 pair.2) empty

@[simp] theorem get?_empty (k : key) : (empty : Dict key value).get? k = none := rfl

theorem get?_erase_of_ne (d : Dict key value) {k k' : key} (h : k' ≠ k) :
    (d.erase k).get? k' = d.get? k' :=
  lookupIn_eraseIn_of_ne h d.entries

theorem get?_set (d : Dict key value) (k k' : key) (x : value) :
    (d.set k x).get? k' = if k = k' then some x else d.get? k' :=
  lookupIn_setIn k k' x d.entries

@[simp] theorem get?_set_self (d : Dict key value) (k : key) (x : value) :
    (d.set k x).get? k = some x := by
  simp [get?_set]

theorem get?_set_of_ne (d : Dict key value) {k k' : key} (x : value) (h : k ≠ k') :
    (d.set k x).get? k' = d.get? k' := by
  simp [get?_set, h]

theorem get?_isSome_iff (d : Dict key value) (k : key) :
    (d.get? k).isSome <-> k ∈ d.keys := by
  rw [Option.isSome_iff_ne_none, ne_eq, get?, lookupIn_eq_none_iff, not_not]
  rfl

theorem get?_ofEntries (pairs : List (key × value)) (k : key) :
    (ofEntries pairs).get? k =
      ((pairs.filter fun pair => pair.1 = k).getLast?).map Prod.snd := by
  induction pairs using List.reverseRecOn with
  | nil => rfl
  | append_singleton before pair ih =>
      have hfold : ofEntries (before ++ [pair]) = (ofEntries before).set pair.1 pair.2 := by
        simp [ofEntries]
      rw [hfold, get?_set, List.filter_append]
      by_cases hk : pair.1 = k
      · simp [hk]
      · simp [hk, ih]

theorem mem_of_get?_ofEntries {pairs : List (key × value)} {k : key} {x : value}
    (h : (ofEntries pairs).get? k = some x) : (k, x) ∈ pairs := by
  rw [get?_ofEntries] at h
  rcases Option.map_eq_some_iff.mp h with ⟨⟨k', x'⟩, hlast, hvalue⟩
  rcases List.mem_filter.mp (List.mem_of_getLast? hlast) with ⟨hmem, hk⟩
  have hkey : k' = k := of_decide_eq_true hk
  have hx : x' = x := hvalue
  subst hkey hx
  exact hmem

theorem mem_of_mem_ofEntries {pairs : List (key × value)} {entry : key × value}
    (h : entry ∈ (ofEntries pairs).entries) : entry ∈ pairs := by
  induction pairs using List.reverseRecOn with
  | nil => cases h
  | append_singleton before pair ih =>
      rw [ofEntries, List.foldl_append] at h
      rcases mem_setIn h with hsame | hbefore
      · rw [hsame]
        exact List.mem_append_right before List.mem_cons_self
      · exact List.mem_append_left [pair] (ih hbefore)

theorem mem_keys_ofEntries (pairs : List (key × value)) (k : key) :
    k ∈ (ofEntries pairs).keys <-> k ∈ pairs.map Prod.fst := by
  rw [← get?_isSome_iff, get?_ofEntries, Option.isSome_map, List.getLast?_isSome]
  simp [List.filter_eq_nil_iff]

theorem foldl_set_entries (pairs : List (key × value)) (d : Dict key value)
    (h : ((d.entries ++ pairs).map Prod.fst).Nodup) :
    (pairs.foldl (fun d pair => d.set pair.1 pair.2) d).entries = d.entries ++ pairs := by
  induction pairs generalizing d with
  | nil => simp
  | cons pair rest ih =>
      have hfresh : pair.1 ∉ d.entries.map Prod.fst := by
        intro hmem
        rw [List.map_append, List.nodup_append'] at h
        exact h.2.2 hmem (by simp)
      have hset : (d.set pair.1 pair.2).entries = d.entries ++ [pair] :=
        setIn_of_not_mem pair.2 hfresh
      rw [List.foldl_cons, ih (d.set pair.1 pair.2) (by rw [hset]; simpa using h), hset]
      simp

theorem ofEntries_entries {pairs : List (key × value)}
    (h : (pairs.map Prod.fst).Nodup) : (ofEntries pairs).entries = pairs := by
  simpa [ofEntries, empty] using foldl_set_entries pairs empty (by simpa [empty] using h)

@[simp] theorem ofEntries_self (d : Dict key value) : ofEntries d.entries = d :=
  Dict.ext (ofEntries_entries d.nodup)

theorem mem_of_get? {d : Dict key value} {k : key} {x : value} (h : d.get? k = some x) :
    (k, x) ∈ d.entries :=
  mem_of_lookupIn h

def update (d e : Dict key value) : Dict key value :=
  e.entries.foldl (fun d entry => d.set entry.1 entry.2) d

theorem get?_foldl_set_of_notMem {k : key} {entries : List (key × value)}
    (h : k ∉ entries.map Prod.fst) (d : Dict key value) :
    (entries.foldl (fun d entry => d.set entry.1 entry.2) d).get? k = d.get? k := by
  induction entries generalizing d with
  | nil => rfl
  | cons entry rest ih =>
      rw [List.map_cons, List.mem_cons, not_or] at h
      rw [List.foldl_cons, ih h.2, get?_set_of_ne d entry.2 (Ne.symm h.1)]

theorem get?_foldl_set_of_mem {k : key} {x : value} {entries : List (key × value)}
    (hnodup : (entries.map Prod.fst).Nodup) (h : (k, x) ∈ entries) (d : Dict key value) :
    (entries.foldl (fun d entry => d.set entry.1 entry.2) d).get? k = some x := by
  induction entries generalizing d with
  | nil => cases h
  | cons entry rest ih =>
      rw [List.map_cons, List.nodup_cons] at hnodup
      rw [List.foldl_cons]
      rcases List.mem_cons.mp h with hentry | hrest
      · subst hentry
        rw [get?_foldl_set_of_notMem hnodup.1, get?_set_self]
      · exact ih hnodup.2 hrest _

theorem get?_update {d e : Dict key value} {k : key} {x : value} (h : e.get? k = some x) :
    (d.update e).get? k = some x :=
  get?_foldl_set_of_mem e.nodup (mem_of_get? h) d

end Dict

end Foundation
end YasinMcp
