import YasinMcp.Foundation.Text

/-!
# Lines of a text

A text stream of the host language turns each line end into one newline.  A
string is split into lines at more characters than that, all of them white space:
a stripped text neither starts nor ends with one.
-/

namespace YasinMcp
namespace Foundation
namespace Text

def universalNewlines : List Char -> List Char
  | [] => []
  | '\r' :: '\n' :: rest => '\n' :: universalNewlines rest
  | '\r' :: rest => '\n' :: universalNewlines rest
  | c :: rest => c :: universalNewlines rest

/-- A character at which a string is split into lines. -/
def isLineBoundary (c : Char) : Bool :=
  let n := c.toNat
  (10 ≤ n && n ≤ 13) || (28 ≤ n && n ≤ 30) || n == 0x85 || n == 0x2028 || n == 0x2029

def splitLines : List Char -> List (List Char)
  | [] => []
  | '\r' :: '\n' :: rest => [] :: splitLines rest
  | c :: rest =>
      if isLineBoundary c then [] :: splitLines rest
      else
        match splitLines rest with
        | [] => [[c]]
        | line :: lines => (c :: line) :: lines

/-!
## The first line
-/

theorem splitLines_cons {c : Char} (hc : isLineBoundary c = false) (rest : List Char) :
    splitLines (c :: rest) =
      match splitLines rest with
      | [] => [[c]]
      | line :: lines => (c :: line) :: lines := by
  rw [splitLines]
  · rw [if_neg (Bool.eq_false_iff.mp hc)]
  · intro tail hreturn _
    subst hreturn
    exact absurd hc (by decide)

theorem splitLines_boundary {c : Char} (hc : isLineBoundary c = true) (rest : List Char) :
    exists lines, splitLines (c :: rest) = [] :: lines := by
  unfold splitLines
  split
  · rename_i heq
    cases heq
  · exact ⟨_, rfl⟩
  · rename_i heq
    cases heq
    exact ⟨_, if_pos hc⟩

theorem head?_splitLines {cs : List Char} (h : cs ≠ []) :
    (splitLines cs).head? = some (cs.takeWhile fun c => !isLineBoundary c) := by
  induction cs with
  | nil => exact absurd rfl h
  | cons c rest ih =>
      cases hc : isLineBoundary c with
      | true =>
          rcases splitLines_boundary hc rest with ⟨lines, hlines⟩
          rw [hlines, List.takeWhile_cons_of_neg (by simp [hc])]
          rfl
      | false =>
          rw [splitLines_cons hc, List.takeWhile_cons_of_pos (by simp [hc])]
          cases rest with
          | nil => rfl
          | cons d rest =>
              have hrest := ih (List.cons_ne_nil d rest)
              cases hlines : splitLines (d :: rest) with
              | nil =>
                  rw [hlines] at hrest
                  cases hrest
              | cons line lines =>
                  rw [hlines] at hrest
                  cases hrest
                  rfl

theorem splitLines_line {line : List Char} (h : forall c, c ∈ line -> isLineBoundary c = false)
    (rest : List Char) : splitLines (line ++ '\n' :: rest) = line :: splitLines rest := by
  induction line with
  | nil =>
      have hend : isLineBoundary '\n' = true := rfl
      rw [List.nil_append, splitLines, if_pos hend]
      intro tail hreturn
      cases hreturn
  | cons c line ih =>
      have hrest := ih fun d hd => h d (List.mem_cons_of_mem _ hd)
      rw [List.cons_append, splitLines_cons (h c List.mem_cons_self), hrest]

/-!
## Newlines
-/

theorem universalNewlines_cons {c : Char} (hc : c ≠ '\r') (rest : List Char) :
    universalNewlines (c :: rest) = c :: universalNewlines rest := by
  rw [universalNewlines]
  · intro tail h
    exact absurd h hc
  · exact hc

theorem universalNewlines_return {rest : List Char} (h : rest.head? ≠ some '\n') :
    universalNewlines ('\r' :: rest) = '\n' :: universalNewlines rest := by
  rw [universalNewlines]
  intro tail hrest
  subst hrest
  exact h rfl

/-- Two texts are read apart unless a line end falls between them. -/
theorem universalNewlines_append {before after : List Char}
    (h : before.getLast? ≠ some '\r' ∨ after.head? ≠ some '\n') :
    universalNewlines (before ++ after) = universalNewlines before ++ universalNewlines after := by
  fun_induction universalNewlines before with
  | case1 => rfl
  | case2 rest ih =>
      have hrest := ih (h.imp_left fun hlast hreturn => by
        cases rest with
        | nil => cases hreturn
        | cons c rest =>
            refine hlast ?_
            rw [List.getLast?_cons_cons, List.getLast?_cons_cons]
            exact hreturn)
      rw [List.cons_append, List.cons_append, universalNewlines, hrest]
      rfl
  | case3 rest hnewline ih =>
      cases rest with
      | nil =>
          have hafter : after.head? ≠ some '\n' := h.resolve_left (fun hlast => hlast rfl)
          rw [List.singleton_append, universalNewlines_return hafter]
          rfl
      | cons c rest =>
          have hrest := ih (h.imp_left fun hlast hreturn => hlast (by
            rw [List.getLast?_cons_cons]
            exact hreturn))
          rw [List.cons_append, universalNewlines_return, hrest]
          · rfl
          · intro hc
            cases hc
            exact hnewline rest rfl
  | case4 c rest hpair hreturn ih =>
      rw [List.cons_append, universalNewlines_cons hreturn, List.cons_append]
      cases rest with
      | nil => rfl
      | cons d rest =>
          have hrest := ih (h.imp_left fun hlast hreturn' => hlast (by
            rw [List.getLast?_cons_cons]
            exact hreturn'))
          rw [hrest]

theorem isSpace_of_mem_universalNewlines {cs : List Char}
    (h : forall c, c ∈ cs -> isSpace c = true) :
    forall c, c ∈ universalNewlines cs -> isSpace c = true := by
  fun_induction universalNewlines cs with
  | case1 => exact h
  | case2 rest ih =>
      rw [List.forall_mem_cons]
      exact ⟨by decide, ih fun c hc =>
        h c (List.mem_cons_of_mem _ (List.mem_cons_of_mem _ hc))⟩
  | case3 rest hnewline ih =>
      rw [List.forall_mem_cons]
      exact ⟨by decide, ih fun c hc => h c (List.mem_cons_of_mem _ hc)⟩
  | case4 c rest hpair hreturn ih =>
      rw [List.forall_mem_cons] at h ⊢
      exact ⟨h.1, ih h.2⟩

/-!
## Stripped texts
-/

structure Trimmed (cs : List Char) : Prop where
  front : cs.dropWhile isSpace = cs
  back : cs.rdropWhile isSpace = cs

theorem trimmed_stripChars (cs : List Char) : Trimmed (stripChars cs) where
  front := head_rdropWhile (List.dropWhile_idempotent isSpace cs)
  back := List.rdropWhile_idempotent isSpace (cs.dropWhile isSpace)

theorem Trimmed.head {c : Char} {cs : List Char} (h : Trimmed (c :: cs)) : isSpace c = false :=
  Bool.eq_false_iff.mpr (List.dropWhile_eq_self_iff.mp h.front (Nat.succ_pos _))

theorem Trimmed.last {cs : List Char} {c : Char} (h : Trimmed (cs ++ [c])) : isSpace c = false := by
  have hlast := List.rdropWhile_eq_self_iff.mp h.back (by simp)
  rw [List.getLast_concat] at hlast
  exact Bool.eq_false_iff.mpr hlast

theorem trimmed_of_ends {c d : Char} {cs rest : List Char} (hc : isSpace c = false)
    (hd : isSpace d = false) (h : c :: cs = rest ++ [d]) : Trimmed (c :: cs) where
  front := List.dropWhile_cons_of_neg (Bool.eq_false_iff.mp hc)
  back := by
    rw [h, List.rdropWhile_concat_neg _ _ _ (Bool.eq_false_iff.mp hd)]

theorem exists_stripChars (cs : List Char) :
    exists before after, cs = before ++ (stripChars cs ++ after) ∧
      (forall c, c ∈ before -> isSpace c = true) ∧ forall c, c ∈ after -> isSpace c = true := by
  refine ⟨cs.takeWhile isSpace, (cs.dropWhile isSpace).rtakeWhile isSpace, ?_, ?_, ?_⟩
  · rw [stripChars, List.rdropWhile_append_rtakeWhile, List.takeWhile_append_dropWhile]
  · exact fun c hc => List.all_eq_true.mp List.all_takeWhile c hc
  · exact fun c hc => List.mem_rtakeWhile_imp hc

theorem stripChars_between {before cs after : List Char} (h : Trimmed cs)
    (hbefore : forall c, c ∈ before -> isSpace c = true)
    (hafter : forall c, c ∈ after -> isSpace c = true) :
    stripChars (before ++ (cs ++ after)) = cs := by
  have hback : (cs ++ after).rdropWhile isSpace = cs := by
    have hreverse : forall c, c ∈ after.reverse -> isSpace c = true :=
      fun c hc => hafter c (List.mem_reverse.mp hc)
    rw [List.rdropWhile, List.reverse_append, List.dropWhile_append_of_pos hreverse]
    exact h.back
  rw [stripChars, List.dropWhile_append_of_pos hbefore]
  cases cs with
  | nil =>
      rw [List.nil_append] at hback ⊢
      rw [List.dropWhile_eq_nil_iff.mpr hafter]
      rfl
  | cons c cs =>
      rw [List.cons_append, List.dropWhile_cons_of_neg (Bool.eq_false_iff.mp h.head),
        ← List.cons_append]
      exact hback

theorem strip_eq_of_lower {s : String} (h : lower s = lower (strip s)) : strip s = s := by
  rcases exists_stripChars s.toList with ⟨before, after, hs, _, _⟩
  have hlength := congrArg (fun t : String => t.toList.length) h
  simp only [lower, strip, String.toList_ofList] at hlength
  rw [hs, List.flatMap_append, List.flatMap_append, ← hs, List.length_append,
    List.length_append] at hlength
  have hnil : forall cs : List Char, (cs.flatMap lowerChar).length = 0 -> cs = [] := by
    intro cs hzero
    refine List.eq_nil_iff_forall_not_mem.mpr fun c hc => ?_
    exact lowerChar_ne_nil c (List.flatMap_eq_nil_iff.mp (List.eq_nil_of_length_eq_zero hzero) c hc)
  have hbefore := hnil before (by omega)
  have hafter := hnil after (by omega)
  rw [hbefore, hafter, List.nil_append, List.append_nil] at hs
  rw [strip, ← hs, String.ofList_toList]

theorem trimmed_universalNewlines {cs : List Char} (h : Trimmed cs) :
    Trimmed (universalNewlines cs) := by
  rcases List.eq_nil_or_concat cs with hnil | ⟨front, d, hcs⟩
  · rw [hnil]
    exact ⟨rfl, rfl⟩
  · rw [List.concat_eq_append] at hcs
    have hd : isSpace d = false := by
      rw [hcs] at h
      exact h.last
    have hlast : universalNewlines cs = universalNewlines front ++ [d] := by
      rw [hcs, universalNewlines_append, universalNewlines_cons]
      · rfl
      · intro hreturn
        subst hreturn
        exact absurd hd (by decide)
      · right
        intro hnewline
        cases hnewline
        exact absurd hd (by decide)
    cases cs with
    | nil => exact ⟨rfl, rfl⟩
    | cons c cs =>
        have hc : c ≠ '\r' := by
          intro hreturn
          subst hreturn
          exact absurd h.head (by decide)
        rw [universalNewlines_cons hc] at hlast ⊢
        exact trimmed_of_ends h.head hd hlast

/-- Reading a line from a stream and stripping it is stripping it and reading that. -/
theorem stripChars_universalNewlines {line : List Char} (h : stripChars line ≠ []) :
    stripChars (universalNewlines (line ++ ['\n'])) = universalNewlines (stripChars line) := by
  rcases exists_stripChars line with ⟨before, after, hline, hbefore, hafter⟩
  have htrimmed := trimmed_stripChars line
  have hafter' : forall c, c ∈ after ++ ['\n'] -> isSpace c = true := by
    intro c hc
    rcases List.mem_append.mp hc with hc | hc
    · exact hafter c hc
    · rw [List.mem_singleton] at hc
      subst hc
      decide
  have hfirst : (stripChars line ++ (after ++ ['\n'])).head? ≠ some '\n' := by
    cases hstrip : stripChars line with
    | nil => exact absurd hstrip h
    | cons c cs =>
        rw [hstrip] at htrimmed
        intro hnewline
        cases hnewline
        exact absurd htrimmed.head (by decide)
  have hlast : (stripChars line).getLast? ≠ some '\r' := by
    intro hreturn
    rcases List.getLast?_eq_some_iff.mp hreturn with ⟨front, hfront⟩
    rw [hfront] at htrimmed
    exact absurd htrimmed.last (by decide)
  have hsplit : line ++ ['\n'] = before ++ (stripChars line ++ (after ++ ['\n'])) := by
    calc
      line ++ ['\n'] = before ++ (stripChars line ++ after) ++ ['\n'] := congrArg (· ++ ['\n']) hline
      _ = before ++ (stripChars line ++ (after ++ ['\n'])) := by simp
  rw [hsplit, universalNewlines_append (Or.inr hfirst), universalNewlines_append (Or.inl hlast)]
  exact stripChars_between (trimmed_universalNewlines htrimmed)
    (isSpace_of_mem_universalNewlines hbefore) (isSpace_of_mem_universalNewlines hafter')

theorem takeWhile_universalNewlines (cs : List Char) :
    ((universalNewlines cs).takeWhile fun c => !isLineBoundary c) =
      cs.takeWhile fun c => !isLineBoundary c := by
  fun_induction universalNewlines cs with
  | case1 => rfl
  | case2 rest ih => rfl
  | case3 rest hnewline ih => rfl
  | case4 c rest hpair hreturn ih =>
      cases hc : isLineBoundary c with
      | true => rw [List.takeWhile_cons_of_neg (by simp [hc]), List.takeWhile_cons_of_neg (by simp [hc])]
      | false =>
          rw [List.takeWhile_cons_of_pos (by simp [hc]), List.takeWhile_cons_of_pos (by simp [hc]), ih]

example : splitLines "a\r\nb\u2028c".toList = ["a".toList, "b".toList, "c".toList] := by decide

end Text
end Foundation
end YasinMcp
