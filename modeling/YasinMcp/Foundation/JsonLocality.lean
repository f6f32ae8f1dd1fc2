import YasinMcp.Foundation.JsonTokens

/-!
# What a decoder has read

Members and items are separated by commas up to a closing mark, so one scan of
separated items stands for both.  It is local when the scan of an item is.

An object decodes to the same members whatever white space surrounds it, and
what comes first in its text does not decode at all unless it is all of it.
-/

namespace YasinMcp
namespace Foundation
namespace Json

/-!
## Values
-/

/-- Items up to a closing mark, with the result of all of them. -/
def scanSeparated {a : Type} (item : List Char -> Except LoadsError (a × List Char)) (close : Char)
    (finish : List a -> Value) : Nat -> List Char -> List a -> Except LoadsError (Value × List Char)
  | 0, _, _ => .error .decode
  | fuel + 1, cs, seen => do
      let (x, rest) ← item cs
      match skipSpace rest with
      | c :: rest =>
          if c = ',' then scanSeparated item close finish fuel (skipSpace rest) (seen ++ [x])
          else if c = close then .ok (finish (seen ++ [x]), rest)
          else .error .decode
      | [] => .error .decode

def scanMember (value : List Char -> Except LoadsError (Value × List Char)) (cs : List Char) :
    Except LoadsError ((Key × Value) × List Char) :=
  match cs with
  | '"' :: rest => do
      let (k, rest) ← scanString rest
      match skipSpace rest with
      | c :: rest =>
          if c = ':' then do
            let (v, rest) ← value (skipSpace rest)
            .ok ((Key.str k, v), rest)
          else .error .decode
      | [] => .error .decode
  | _ => .error .decode

theorem scanItems_eq (value : List Char -> Except LoadsError (Value × List Char)) (fuel : Nat)
    (cs : List Char) (seen : List Value) :
    scanItems value fuel cs seen = scanSeparated value ']' .list fuel cs seen := by
  induction fuel generalizing cs seen with
  | zero => rfl
  | succ fuel ih =>
      rw [scanItems, scanSeparated]
      cases value cs with
      | error e => rfl
      | ok entry =>
          simp only [bind, Except.bind]
          cases skipSpace entry.2 with
          | nil => rfl
          | cons c rest =>
              by_cases hcomma : c = ','
              · subst hcomma
                exact ih _ _
              · by_cases hclose : c = ']'
                · subst hclose
                  rfl
                · simp only [if_neg hcomma, if_neg hclose]
                  split
                  · rename_i heq
                    cases heq
                    exact absurd rfl hcomma
                  · rename_i heq
                    cases heq
                    exact absurd rfl hclose
                  · rfl

theorem scanMembers_eq (value : List Char -> Except LoadsError (Value × List Char)) (fuel : Nat)
    (cs : List Char) (seen : List (Key × Value)) :
    scanMembers value fuel cs seen =
      scanSeparated (scanMember value) '}' (fun seen => .dict (Dict.ofEntries seen).entries) fuel
        cs seen := by
  induction fuel generalizing cs seen with
  | zero => rfl
  | succ fuel ih =>
      by_cases hquote : exists after, cs = '"' :: after
      · rcases hquote with ⟨after, hafter⟩
        subst hafter
        rw [scanMembers, scanSeparated, scanMember]
        cases scanString after with
        | error e => rfl
        | ok entry =>
            simp only [bind, Except.bind]
            cases skipSpace entry.2 with
            | nil => rfl
            | cons mark behind =>
                by_cases hcolon : mark = ':'
                · subst hcolon
                  simp only
                  cases value (skipSpace behind) with
                  | error e => rfl
                  | ok entry' =>
                      simp only [if_true]
                      cases skipSpace entry'.2 with
                      | nil => rfl
                      | cons c rest =>
                          by_cases hcomma : c = ','
                          · subst hcomma
                            exact ih _ _
                          · by_cases hclose : c = '}'
                            · subst hclose
                              rfl
                            · simp only [if_neg hcomma, if_neg hclose]
                              split
                              · rename_i heq
                                cases heq
                                exact absurd rfl hcomma
                              · rename_i heq
                                cases heq
                                exact absurd rfl hclose
                              · rfl
                · simp only [if_neg hcolon]
                  split
                  · rename_i heq
                    cases heq
                    exact absurd rfl hcolon
                  · rfl
      · have hother : forall after, cs ≠ '"' :: after := fun after h => hquote ⟨after, h⟩
        rw [scanMembers, scanSeparated, scanMember]
        · rfl
        · exact hother
        · exact hother

theorem skipSpace_used {cs used rest : List Char} (h : skipSpace cs = used ++ rest)
    (hne : used ≠ []) (rest' : List Char) : skipSpace (used ++ rest') = used ++ rest' := by
  cases used with
  | nil => exact absurd rfl hne
  | cons c used =>
      refine skipSpace_cons_mark ?_ _
      have hagain : skipSpace (skipSpace cs) = skipSpace cs := List.dropWhile_idempotent _ _
      rw [h, List.cons_append] at hagain
      cases hc : isJsonSpace c with
      | false => rfl
      | true =>
          rw [skipSpace_cons_space hc] at hagain
          have hle := (List.dropWhile_suffix (l := used ++ rest) fun c =>
            c = ' ' || c = '\t' || c = '\n' || c = '\r').length_le
          have hlength := congrArg List.length hagain
          unfold skipSpace at hlength
          rw [List.length_cons] at hlength
          omega

theorem exists_of_scanMember {value : List Char -> Except LoadsError (Value × List Char)}
    {cs rest : List Char} {member : Key × Value}
    (h : scanMember value cs = .ok (member, rest)) :
    exists afterQuote k afterKey afterColon v,
      cs = '"' :: afterQuote ∧ scanString afterQuote = .ok (k, afterKey) ∧
        skipSpace afterKey = ':' :: afterColon ∧
        value (skipSpace afterColon) = .ok (v, rest) ∧ member = (.str k, v) := by
  unfold scanMember at h
  split at h
  · rename_i afterQuote
    rcases hstring : scanString afterQuote with e | ⟨k, afterKey⟩
    · rw [hstring] at h
      cases h
    · rw [hstring] at h
      simp only [bind, Except.bind] at h
      split at h
      · rename_i c afterColon hskip
        split at h
        · rename_i hcolon
          subst hcolon
          rcases hscan : value (skipSpace afterColon) with e | ⟨v, afterValue⟩
          · rw [hscan] at h
            cases h
          · rw [hscan] at h
            cases h
            exact ⟨afterQuote, k, afterKey, afterColon, v, rfl, hstring, hskip, hscan, rfl⟩
        · cases h
      · cases h
  · cases h

theorem scanMember_local {value : List Char -> Except LoadsError (Value × List Char)}
    (hvalue : Local value Delimited) : Local (scanMember value) Delimited := by
  intro cs member rest h
  rcases exists_of_scanMember h with
    ⟨afterQuote, k, afterKey, afterColon, v, hcs, hstring, hskip, hscan, hmember⟩
  rcases scanString_local _ _ _ hstring with ⟨key, hkeyNe, hquote, hreadKey⟩
  rcases hvalue _ _ _ hscan with ⟨text, htextNe, htext, hreadValue⟩
  rcases exists_skipSpace afterKey with ⟨space, hspace, hafterKey⟩
  rcases exists_skipSpace afterColon with ⟨space', hspace', hafterColon⟩
  refine ⟨'"' :: (key ++ (space ++ ':' :: (space' ++ text))), List.cons_ne_nil _ _, ?_, ?_⟩
  · rw [hcs, hquote, hafterKey, hskip, hafterColon, htext]
    simp
  · intro rest' hrest'
    have hkey := hreadKey (space ++ ':' :: (space' ++ (text ++ rest'))) trivial
    have hassoc : '"' :: (key ++ (space ++ ':' :: (space' ++ text))) ++ rest' =
        '"' :: (key ++ (space ++ ':' :: (space' ++ (text ++ rest')))) := by
      simp
    rw [hassoc, scanMember, hkey]
    simp only [bind, Except.bind]
    rw [skipSpace_mark hspace (by decide)]
    simp only [if_true]
    rw [skipSpace_append hspace', skipSpace_used htext htextNe, hreadValue rest' hrest', hmember]

/-- Items up to the closing mark: the part ends with the mark, whatever follows. -/
theorem scanSeparated_local {a : Type} {item : List Char -> Except LoadsError (a × List Char)}
    {close : Char} {finish : List a -> Value} (hitem : Local item Delimited)
    (hclose : close = ']' ∨ close = '}') {fuel : Nat} {cs rest : List Char} {seen : List a}
    {v : Value} (h : scanSeparated item close finish fuel cs seen = .ok (v, rest)) :
    exists used, used ≠ [] ∧ used.getLast? = some close ∧ cs = used ++ rest ∧
      forall fuel' rest', used.length ≤ fuel' ->
        scanSeparated item close finish fuel' (used ++ rest') seen = .ok (v, rest') := by
  have hmark : isJsonSpace close = false ∧ close ≠ ',' ∧
      isDigit close = false ∧ close ≠ '.' ∧ close ≠ 'e' ∧ close ≠ 'E' := by
    rcases hclose with hclose | hclose <;> subst hclose <;> decide
  induction fuel generalizing cs seen with
  | zero => cases h
  | succ fuel ih =>
      rw [scanSeparated] at h
      rcases hscan : item cs with e | ⟨x, afterItem⟩
      · rw [hscan] at h
        cases h
      · rw [hscan] at h
        simp only [bind, Except.bind] at h
        rcases hitem _ _ _ hscan with ⟨text, htextNe, htext, hread⟩
        rcases exists_skipSpace afterItem with ⟨space, hspace, hafterItem⟩
        have hpositive := List.length_pos_iff.mpr htextNe
        cases hskip : skipSpace afterItem with
        | nil =>
            rw [hskip] at h
            cases h
        | cons c behind =>
            rw [hskip] at h hafterItem
            simp only at h
            split at h
            · rename_i hcomma
              subst hcomma
              rcases ih h with ⟨others, hothersNe, hlast, hbehind, hothers⟩
              rcases exists_skipSpace behind with ⟨space', hspace', hbehind'⟩
              refine ⟨text ++ (space ++ ',' :: (space' ++ others)), ?_, ?_, ?_, ?_⟩
              · exact List.append_ne_nil_of_left_ne_nil htextNe _
              · rw [List.getLast?_append, List.getLast?_append, List.getLast?_cons,
                  List.getLast?_append, hlast]
                rfl
              · rw [htext, hafterItem, hbehind', hbehind]
                simp
              · intro fuel' rest' hfuel
                simp only [List.length_append, List.length_cons] at hfuel
                rcases Nat.exists_eq_succ_of_ne_zero (show fuel' ≠ 0 by omega) with ⟨fuel'', hfuel'⟩
                have hassoc : text ++ (space ++ ',' :: (space' ++ others)) ++ rest' =
                    text ++ (space ++ ',' :: (space' ++ (others ++ rest'))) := by
                  simp
                rw [hfuel', hassoc, scanSeparated,
                  hread _ (delimited_of_mark hspace (by decide) _)]
                simp only [bind, Except.bind]
                rw [skipSpace_mark hspace (by decide)]
                simp only [if_true]
                rw [skipSpace_append hspace', skipSpace_used hbehind hothersNe]
                exact hothers fuel'' rest' (by omega)
            · rename_i hcomma
              split at h
              · rename_i hc
                cases h
                subst hc
                refine ⟨text ++ (space ++ [c]), ?_, ?_, ?_, ?_⟩
                · exact List.append_ne_nil_of_left_ne_nil htextNe _
                · rw [List.getLast?_append, List.getLast?_append]
                  rfl
                · rw [htext, hafterItem]
                  simp
                · intro fuel' rest' hfuel
                  simp only [List.length_append, List.length_cons] at hfuel
                  rcases Nat.exists_eq_succ_of_ne_zero (show fuel' ≠ 0 by omega) with
                    ⟨fuel'', hfuel'⟩
                  have hassoc : text ++ (space ++ [c]) ++ rest' = text ++ (space ++ c :: rest') := by
                    simp
                  rw [hfuel', hassoc, scanSeparated,
                    hread _ (delimited_of_mark hspace hmark.2.2 _)]
                  simp only [bind, Except.bind]
                  rw [skipSpace_mark hspace hmark.1]
                  simp only
                  rw [if_neg hcomma, if_pos trivial]
              · cases h

/-- A bracketed value: nothing but white space inside, or its items. -/
def scanBracket {a : Type} (item : List Char -> Except LoadsError (a × List Char)) (close : Char)
    (finish : List a -> Value) (empty : Value) (cs : List Char) :
    Except LoadsError (Value × List Char) :=
  if (skipSpace cs).head? = some close then .ok (empty, (skipSpace cs).tail)
  else scanSeparated item close finish (skipSpace cs).length (skipSpace cs) []

theorem head?_ne_some {c : Char} {cs : List Char} (h : forall rest, cs = c :: rest -> False) :
    cs.head? ≠ some c := by
  intro hhead
  rcases List.head?_eq_some_iff.mp hhead with ⟨rest, hcs⟩
  exact h rest hcs

theorem scanOnce_object_eq (depth : Nat) (cs : List Char) :
    scanOnce (depth + 1) ('{' :: cs) =
      scanBracket (scanMember (scanOnce depth)) '}'
        (fun seen => .dict (Dict.ofEntries seen).entries) (.dict []) cs := by
  rw [scanOnce, if_neg (by decide), if_pos rfl, scanBracket]
  split
  · rename_i rest hskip
    rw [hskip]
    rfl
  · rename_i hother
    rw [if_neg (head?_ne_some hother), scanMembers_eq]

theorem scanOnce_array_eq (depth : Nat) (cs : List Char) :
    scanOnce (depth + 1) ('[' :: cs) =
      scanBracket (scanOnce depth) ']' .list (.list []) cs := by
  rw [scanOnce, if_neg (by decide), if_neg (by decide), if_pos rfl, scanBracket]
  split
  · rename_i rest hskip
    rw [hskip]
    rfl
  · rename_i hother
    rw [if_neg (head?_ne_some hother), scanItems_eq]

theorem scanBracket_local {a : Type} {item : List Char -> Except LoadsError (a × List Char)}
    {close : Char} {finish : List a -> Value} {empty : Value} (hitem : Local item Delimited)
    (hclose : close = ']' ∨ close = '}') {cs rest : List Char} {v : Value}
    (h : scanBracket item close finish empty cs = .ok (v, rest)) :
    exists used, used.getLast? = some close ∧ cs = used ++ rest ∧
      forall rest', scanBracket item close finish empty (used ++ rest') = .ok (v, rest') := by
  have hmark : isJsonSpace close = false := by
    rcases hclose with hclose | hclose <;> subst hclose <;> decide
  rcases exists_skipSpace cs with ⟨space, hspace, hcs⟩
  rw [scanBracket] at h
  split at h
  · rename_i hhead
    cases h
    cases hskip : skipSpace cs with
    | nil =>
        rw [hskip] at hhead
        cases hhead
    | cons c tail =>
        rw [hskip] at hhead hcs
        cases hhead
        refine ⟨space ++ [close], List.getLast?_concat, by rw [hcs]; simp, ?_⟩
        intro rest'
        rw [List.append_assoc, scanBracket, List.singleton_append, skipSpace_mark hspace hmark,
          List.head?_cons, if_pos rfl]
        rfl
  · rename_i hhead
    rcases scanSeparated_local hitem hclose h with ⟨items, hne, hlast, hskip, hread⟩
    refine ⟨space ++ items, ?_, ?_, ?_⟩
    · rw [List.getLast?_append, hlast]
      rfl
    · rw [List.append_assoc, ← hskip, ← hcs]
    · intro rest'
      have hhead' : (items ++ rest').head? ≠ some close := by
        rw [hskip] at hhead
        rcases List.exists_cons_of_ne_nil hne with ⟨c, tail, hitems⟩
        rw [hitems] at hhead ⊢
        exact hhead
      rw [List.append_assoc, scanBracket, skipSpace_append hspace, skipSpace_used hskip hne,
        if_neg hhead']
      exact hread _ rest' (by rw [List.length_append]; omega)

/-- A bracketed value is read to its closing bracket, whatever follows. -/
def Closed (scan : List Char -> Except LoadsError (Value × List Char)) (mark close : Char) : Prop :=
  forall cs v rest, scan (mark :: cs) = .ok (v, rest) ->
    exists used, used.getLast? = some close ∧ cs = used ++ rest ∧
      Reads scan Any (mark :: used) v

theorem scanOnce_object {depth : Nat} (hvalue : Local (scanOnce depth) Delimited) :
    Closed (scanOnce (depth + 1)) '{' '}' := by
  intro cs v rest h
  rw [scanOnce_object_eq] at h
  rcases scanBracket_local (scanMember_local hvalue) (Or.inr rfl) h with
    ⟨used, hlast, hcs, hread⟩
  refine ⟨used, hlast, hcs, ?_⟩
  intro rest' _
  rw [List.cons_append, scanOnce_object_eq]
  exact hread rest'

theorem scanOnce_array {depth : Nat} (hvalue : Local (scanOnce depth) Delimited) :
    Closed (scanOnce (depth + 1)) '[' ']' := by
  intro cs v rest h
  rw [scanOnce_array_eq] at h
  rcases scanBracket_local hvalue (Or.inl rfl) h with ⟨used, hlast, hcs, hread⟩
  refine ⟨used, hlast, hcs, ?_⟩
  intro rest' _
  rw [List.cons_append, scanOnce_array_eq]
  exact hread rest'

theorem scanOnce_scalar (depth : Nat) {c : Char} (hobject : c ≠ '{') (harray : c ≠ '[')
    (cs : List Char) :
    scanOnce depth (c :: cs) =
      if c = '"' then (scanString cs).map fun (s, rest) => (.str s, rest)
      else scanAtom (c :: cs) := by
  cases depth <;> rw [scanOnce, if_neg hobject, if_neg harray]

/-- What a scan of a value was: of an object, an array, a string, or an atom. -/
inductive Scan : Nat -> List Char -> Value -> List Char -> Prop where
  | object {depth : Nat} {cs rest : List Char} {v : Value} :
      scanBracket (scanMember (scanOnce depth)) '}'
        (fun seen => .dict (Dict.ofEntries seen).entries) (.dict []) cs = .ok (v, rest) ->
      Scan (depth + 1) ('{' :: cs) v rest
  | array {depth : Nat} {cs rest : List Char} {v : Value} :
      scanBracket (scanOnce depth) ']' .list (.list []) cs = .ok (v, rest) ->
      Scan (depth + 1) ('[' :: cs) v rest
  | string {depth : Nat} {cs rest : List Char} {s : String} :
      scanString cs = .ok (s, rest) -> Scan depth ('"' :: cs) (.str s) rest
  | atom {depth : Nat} {c : Char} {cs rest : List Char} {v : Value} :
      c ≠ '{' -> c ≠ '[' -> c ≠ '"' -> scanAtom (c :: cs) = .ok (v, rest) ->
      Scan depth (c :: cs) v rest

theorem scan_of_scanOnce {depth : Nat} {cs rest : List Char} {v : Value}
    (h : scanOnce depth cs = .ok (v, rest)) : Scan depth cs v rest := by
  cases cs with
  | nil => cases depth <;> cases h
  | cons c cs =>
      by_cases hobject : c = '{'
      · subst hobject
        cases depth with
        | zero => cases h
        | succ depth => exact .object (by rw [← scanOnce_object_eq]; exact h)
      · by_cases harray : c = '['
        · subst harray
          cases depth with
          | zero => cases h
          | succ depth => exact .array (by rw [← scanOnce_array_eq]; exact h)
        · rw [scanOnce_scalar depth hobject harray] at h
          split at h
          · rename_i hquote
            subst hquote
            rcases hscan : scanString cs with e | ⟨s, after⟩
            · rw [hscan] at h
              cases h
            · rw [hscan] at h
              cases h
              exact .string hscan
          · rename_i hquote
            exact .atom hobject harray hquote h

/-- By strong induction on the nesting that may still follow. -/
theorem scanOnce_local (depth : Nat) : Local (scanOnce depth) Delimited := by
  induction depth using Nat.strong_induction_on with
  | _ depth ih =>
      intro cs v rest h
      cases scan_of_scanOnce h with
      | @object depth cs =>
          rcases scanOnce_object (ih depth (Nat.lt_succ_self depth)) _ _ _ h with
            ⟨used, _, hcs, hread⟩
          exact ⟨'{' :: used, List.cons_ne_nil _ _, congrArg ('{' :: ·) hcs,
            fun rest' _ => hread rest' trivial⟩
      | @array depth cs =>
          rcases scanOnce_array (ih depth (Nat.lt_succ_self depth)) _ _ _ h with
            ⟨used, _, hcs, hread⟩
          exact ⟨'[' :: used, List.cons_ne_nil _ _, congrArg ('[' :: ·) hcs,
            fun rest' _ => hread rest' trivial⟩
      | string hscan =>
          rcases scanString_local _ _ _ hscan with ⟨used, _, hcs, hread⟩
          refine ⟨'"' :: used, List.cons_ne_nil _ _, congrArg ('"' :: ·) hcs, ?_⟩
          intro rest' _
          rw [List.cons_append, scanOnce_scalar depth (by decide) (by decide), if_pos rfl,
            hread rest' trivial]
          rfl
      | atom hobject harray hquote hscan =>
          rcases scanAtom_local _ _ _ hscan with ⟨used, hne, hcs, hread⟩
          refine ⟨used, hne, hcs, ?_⟩
          intro rest' hrest'
          cases used with
          | nil => exact absurd rfl hne
          | cons d used =>
              cases hcs
              rw [List.cons_append, scanOnce_scalar depth hobject harray, if_neg hquote]
              exact hread rest' hrest'

/-!
## Objects
-/

/-- The text of an object with these members, from its first brace to its last. -/
def IsObjectText (recursionLimit : Nat) (text : List Char) (entries : List (Key × Value)) : Prop :=
  text.head? = some '{' ∧ text.getLast? = some '}' ∧
    Reads (scanOnce recursionLimit) Any text (.dict entries)

theorem scanSeparated_items {a : Type} {item : List Char -> Except LoadsError (a × List Char)}
    {close : Char} {finish : List a -> Value} {P : a -> Prop}
    (hitem : forall cs x rest, item cs = .ok (x, rest) -> P x) {fuel : Nat}
    {cs rest : List Char} {seen : List a} (hseen : forall x, x ∈ seen -> P x) {v : Value}
    (h : scanSeparated item close finish fuel cs seen = .ok (v, rest)) :
    exists items, v = finish items ∧ forall x, x ∈ items -> P x := by
  induction fuel generalizing cs seen with
  | zero => cases h
  | succ fuel ih =>
      rw [scanSeparated] at h
      rcases hscan : item cs with e | ⟨x, afterItem⟩
      · rw [hscan] at h
        cases h
      · rw [hscan] at h
        simp only [bind, Except.bind] at h
        have hgrown : forall y, y ∈ seen ++ [x] -> P y := by
          intro y hy
          rcases List.mem_append.mp hy with hy | hy
          · exact hseen y hy
          · rw [List.mem_singleton.mp hy]
            exact hitem cs x afterItem hscan
        split at h
        · split at h
          · exact ih hgrown h
          · split at h
            · cases h
              exact ⟨seen ++ [x], rfl, hgrown⟩
            · cases h
        · cases h

theorem scanAtom_value {P : Value -> Prop} (hatom : forall atom, atom ∈ atoms -> P atom.2)
    (hint : forall n, P (.int n)) (hfloat : forall x, P (.float x)) {cs rest : List Char}
    {v : Value} (h : scanAtom cs = .ok (v, rest)) : P v := by
  have hnumber : forall negative ds, scanNumber negative ds = .ok (v, rest) -> P v := by
    intro negative ds h
    unfold scanNumber at h
    split at h
    · cases h
    · simp only at h
      split at h
      · cases h
        exact hfloat _
      · split at h
        · split at h
          · cases h
          · cases h
            exact hint _
        · cases h
          exact hfloat _
  rw [scanAtom] at h
  split at h
  · rename_i name value hfind
    cases h
    exact hatom (name, v) (List.mem_of_find?_eq_some hfind)
  · split at h
    · exact hnumber _ _ h
    · exact hnumber _ _ h

theorem scanAtom_ne_dict {cs rest : List Char} {entries : List (Key × Value)} :
    scanAtom cs ≠ .ok (.dict entries, rest) := by
  have hatoms : forall atom, atom ∈ atoms -> atom.2 ≠ .dict entries := by
    intro atom hatom
    unfold atoms at hatom
    simp only [List.mem_cons, List.not_mem_nil, or_false] at hatom
    rcases hatom with h | h | h | h | h | h <;> subst h <;> intro hdict <;> cases hdict
  intro h
  exact scanAtom_value (P := fun v => v ≠ .dict entries) hatoms (fun _ hdict => nomatch hdict)
    (fun _ hdict => nomatch hdict) h rfl

theorem exists_object {depth : Nat} {cs rest : List Char} {entries : List (Key × Value)}
    (h : scanOnce depth cs = .ok (.dict entries, rest)) :
    exists depth' tail, depth = depth' + 1 ∧ cs = '{' :: tail := by
  cases scan_of_scanOnce h with
  | @object depth cs => exact ⟨depth, cs, rfl, rfl⟩
  | array hscan =>
      rw [scanBracket] at hscan
      split at hscan
      · cases hscan
      · rcases scanSeparated_items (P := fun _ => True) (fun _ _ _ _ => trivial)
            (fun _ _ => trivial) hscan with ⟨items, hitems, _⟩
        cases hitems
  | atom _ _ _ hscan => exact absurd hscan scanAtom_ne_dict

theorem loads_eq_ok_iff {recursionLimit : Nat} {s : String} {v : Value} :
    loads recursionLimit s = .ok v <->
      s.toList.head? ≠ some '\uFEFF' ∧ exists rest,
        scanOnce recursionLimit (skipSpace s.toList) = .ok (v, rest) ∧ AllSpace rest := by
  have hscan : (do
        let (v, rest) ← scanOnce recursionLimit (skipSpace s.toList)
        if (skipSpace rest).isEmpty then .ok v else .error .decode) = .ok v <->
      exists rest, scanOnce recursionLimit (skipSpace s.toList) = .ok (v, rest) ∧ AllSpace rest := by
    rcases scanOnce recursionLimit (skipSpace s.toList) with e | ⟨v', rest⟩
    · constructor
      · intro h
        cases h
      · intro h
        rcases h with ⟨_, h, _⟩
        cases h
    · simp only [bind, Except.bind, Except.ok.injEq, Prod.mk.injEq]
      split
      · rename_i hempty
        have hspace := (skipSpace_eq_nil_iff rest).mp (List.isEmpty_iff.mp hempty)
        constructor
        · intro h
          cases h
          exact ⟨rest, ⟨rfl, rfl⟩, hspace⟩
        · intro h
          rcases h with ⟨_, ⟨hv, _⟩, _⟩
          rw [hv]
      · rename_i hempty
        constructor
        · intro h
          cases h
        · intro h
          rcases h with ⟨_, ⟨_, hrest⟩, hspace⟩
          subst hrest
          exact absurd (List.isEmpty_iff.mpr ((skipSpace_eq_nil_iff rest).mpr hspace)) hempty
  unfold loads
  split
  · rename_i hmark
    rw [hmark]
    constructor
    · intro h
      cases h
    · intro h
      exact absurd rfl h.1
  · rename_i hmark
    rw [hscan]
    exact (and_iff_right (head?_ne_some hmark)).symm

/-- A text that is an object is the text of the object with white space around it. -/
theorem exists_objectText {recursionLimit : Nat} {s : String} {entries : List (Key × Value)}
    (h : loads recursionLimit s = .ok (.dict entries)) :
    exists before text after, s.toList = before ++ (text ++ after) ∧ AllSpace before ∧
      AllSpace after ∧ IsObjectText recursionLimit text entries := by
  rcases loads_eq_ok_iff.mp h with ⟨_, after, hscan, hafter⟩
  rcases exists_skipSpace s.toList with ⟨before, hbefore, hs⟩
  rcases exists_object hscan with ⟨depth, tail, hdepth, htail⟩
  rw [htail, hdepth] at hscan
  rcases scanOnce_object (scanOnce_local depth) _ _ _ hscan with ⟨used, hlast, hused, hread⟩
  refine ⟨before, '{' :: used, after, ?_, hbefore, hafter, rfl, ?_, ?_⟩
  · rw [List.cons_append, ← hused, ← htail, ← hs]
  · rw [List.getLast?_cons, hlast]
    rfl
  · rw [hdepth]
    exact hread

theorem loads_objectText {recursionLimit : Nat} {s : String} {before text after : List Char}
    {entries : List (Key × Value)} (hs : s.toList = before ++ (text ++ after))
    (hbefore : AllSpace before) (hafter : AllSpace after)
    (h : IsObjectText recursionLimit text entries) :
    loads recursionLimit s = .ok (.dict entries) := by
  rcases h with ⟨hhead, _, hread⟩
  cases text with
  | nil => cases hhead
  | cons c text =>
      cases hhead
      rw [loads_eq_ok_iff, hs]
      constructor
      · intro hmark
        cases before with
        | nil => cases hmark
        | cons c before =>
            cases hmark
            exact absurd (hbefore _ List.mem_cons_self) (by decide)
      · refine ⟨after, ?_, hafter⟩
        rw [List.cons_append, skipSpace_mark hbefore (by decide), ← List.cons_append]
        exact hread after trivial

theorem loads_of_isObjectText {recursionLimit : Nat} {s : String} {entries : List (Key × Value)}
    (h : IsObjectText recursionLimit s.toList entries) :
    loads recursionLimit s = .ok (.dict entries) := by
  have hs : s.toList = [] ++ (s.toList ++ []) := by rw [List.append_nil, List.nil_append]
  exact loads_objectText hs (fun c hc => absurd hc List.not_mem_nil)
    (fun c hc => absurd hc List.not_mem_nil) h

theorem loads_front {recursionLimit : Nat} {s : String} {before text after behind : List Char}
    {entries : List (Key × Value)} (hs : s.toList ++ behind = before ++ (text ++ after))
    (hbefore : AllSpace before) (hafter : AllSpace after)
    (h : IsObjectText recursionLimit text entries) (hbehind : AllSpace behind) :
    loads recursionLimit s = .ok (.dict entries) := by
  rw [← List.append_assoc] at hs
  rcases List.append_eq_append_iff.mp hs with ⟨middle, hfront, hrest⟩ | ⟨middle, hfront, hrest⟩
  · rcases List.eq_nil_or_concat middle with hnil | ⟨start, c, hlast⟩
    · subst hnil
      have hwhole : s.toList = before ++ (text ++ []) := by
        rw [List.append_nil, hfront, List.append_nil]
      exact loads_objectText hwhole hbefore (fun c hc => absurd hc List.not_mem_nil) h
    · -- The last character of the object is no white space.
      have hclose : (before ++ text).getLast? = some '}' := by
        rw [List.getLast?_append, h.2.1]
        rfl
      rw [hfront, hlast, List.concat_eq_append, ← List.append_assoc, List.getLast?_concat] at hclose
      cases hclose
      exact absurd (hbehind '}' (by rw [hrest, hlast]; simp)) (by decide)
  · have hwhole : s.toList = before ++ (text ++ middle) := by rw [hfront, List.append_assoc]
    refine loads_objectText hwhole hbefore ?_ h
    intro c hc
    exact hafter c (by rw [hrest]; exact List.mem_append_left _ hc)

theorem allSpace_of_loads_front {recursionLimit : Nat} {s : String}
    {before text after behind : List Char} {entries : List (Key × Value)} {v : Value}
    (hs : s.toList ++ behind = before ++ (text ++ after)) (hbefore : AllSpace before)
    (hafter : AllSpace after) (h : IsObjectText recursionLimit text entries)
    (hloads : loads recursionLimit s = .ok v) : AllSpace behind := by
  rcases loads_eq_ok_iff.mp hloads with ⟨_, rest, hscan, _⟩
  rcases h with ⟨hhead, _, hread⟩
  rcases List.append_eq_append_iff.mp hs with ⟨middle, hfront, _⟩ | ⟨front, hfront, hbehind⟩
  · -- The value would be within the white space.
    have hempty : skipSpace s.toList = [] := by
      rw [skipSpace_eq_nil_iff]
      intro c hc
      exact hbefore c (hfront ▸ List.mem_append_left _ hc)
    rw [hempty] at hscan
    cases recursionLimit <;> cases hscan
  · rw [hfront, skipSpace_append hbefore] at hscan
    cases text with
    | nil => cases hhead
    | cons c text =>
        cases hhead
        cases front with
        | nil => cases recursionLimit <;> cases hscan
        | cons c front =>
            rw [List.cons_append, List.cons_append, List.cons.injEq] at hbehind
            rcases hbehind with ⟨hc, hbehind⟩
            subst hc
            rw [skipSpace_cons_mark (by decide)] at hscan
            cases recursionLimit with
            | zero => cases hscan
            | succ depth =>
                rcases scanOnce_object (scanOnce_local depth) _ _ _ hscan with
                  ⟨used, _, hused, hread'⟩
                have hwhole := hread after trivial
                have hfirst := hread' (rest ++ behind) trivial
                rw [hused] at hbehind
                rw [List.cons_append, ← List.append_assoc, ← hbehind, ← List.cons_append, hwhole,
                  Except.ok.injEq, Prod.mk.injEq] at hfirst
                intro c hc
                exact hafter c (hfirst.2 ▸ List.mem_append_right _ hc)

end Json
end Foundation
end YasinMcp
