import Mathlib.Tactic.IntervalCases
import YasinMcp.Foundation.JsonLocality
import YasinMcp.Foundation.JsonText

/-!
# Reading what was written

A string that was written is read as it was, and so is an object, when the text of
each of its members is read as the value of the member.
-/

namespace YasinMcp
namespace Foundation
namespace Json

/-!
## Strings
-/

theorem scanChars_rawEscaped (c : Char) (fuel : Nat) (rest seen : List Char) :
    scanChars (fuel + 1) (rawEscaped c ++ rest) seen = scanChars fuel rest (c :: seen) := by
  by_cases hcontrol : c.toNat < 0x20
  · have hc : c = Char.ofNat c.toNat := (Char.ofNat_toNat c).symm
    generalize c.toNat = n at hc hcontrol
    subst hc
    interval_cases n <;> rfl
  · by_cases hquote : c = '"'
    · subst hquote
      rfl
    · by_cases hslash : c = '\\'
      · subst hslash
        rfl
      · have hplain : rawEscaped c = [c] := by
          have hnone : (writtenEscapes.find? fun escape => escape.2 = c) = none := by
            rw [List.find?_eq_none]
            intro escape hmem hescape
            rw [decide_eq_true_eq] at hescape
            subst hescape
            have hcodes : forall escape, escape ∈ writtenEscapes ->
                escape.2.toNat < 0x20 ∨ escape.2 = '"' ∨ escape.2 = '\\' :=
              List.forall_iff_forall_mem.mp (by decide)
            rcases hcodes escape hmem with h | h | h
            · exact hcontrol h
            · exact hquote h
            · exact hslash h
          rw [rawEscaped, hnone]
          exact if_neg hcontrol
        rw [hplain, List.singleton_append, scanChars, if_neg hquote, if_neg hcontrol,
          if_neg hslash]

theorem scanChars_written (cs rest seen : List Char) (fuel : Nat) :
    scanChars (fuel + cs.length + 1) (cs.flatMap rawEscaped ++ '"' :: rest) seen =
      .ok (String.ofList (seen.reverse ++ cs), rest) := by
  induction cs generalizing seen with
  | nil => simp [scanChars]
  | cons c cs ih =>
      rw [List.flatMap_cons, List.append_assoc, List.length_cons, ← Nat.add_assoc,
        scanChars_rawEscaped, ih, List.reverse_cons, List.append_assoc]
      rfl

theorem rawEscaped_ne_nil (c : Char) : rawEscaped c ≠ [] := by
  unfold rawEscaped
  split
  · exact List.cons_ne_nil _ _
  · split <;> exact List.cons_ne_nil _ _

theorem length_le_rawEscaped (cs : List Char) : cs.length ≤ (cs.flatMap rawEscaped).length := by
  induction cs with
  | nil => exact Nat.le_refl 0
  | cons c cs ih =>
      have hpositive := List.length_pos_of_ne_nil (rawEscaped_ne_nil c)
      rw [List.flatMap_cons, List.length_append, List.length_cons]
      omega

theorem toList_writeString (s : String) :
    (writeString s).toList = '"' :: (s.toList.flatMap rawEscaped ++ ['"']) := by
  rw [writeString, String.toList_ofList, List.cons_append]

theorem scanString_written (s : String) (rest : List Char) :
    scanString (s.toList.flatMap rawEscaped ++ '"' :: rest) = .ok (s, rest) := by
  have hle := length_le_rawEscaped s.toList
  have hfuel : (s.toList.flatMap rawEscaped ++ '"' :: rest).length + 1 =
      ((s.toList.flatMap rawEscaped ++ '"' :: rest).length - s.toList.length) +
        s.toList.length + 1 := by
    rw [List.length_append]
    omega
  rw [scanString, hfuel, scanChars_written, List.reverse_nil, List.nil_append,
    String.ofList_toList]

/-!
## Values
-/

/-- The text starts with no white space and is read as the value. -/
structure Written (depth : Nat) (text : String) (v : Value) : Prop where
  front : forall c, text.toList.head? = some c -> isJsonSpace c = false
  nonempty : text ≠ ""
  reads : Reads (scanOnce depth) Delimited text.toList v

theorem written_string (depth : Nat) (s : String) : Written depth (writeString s) (.str s) where
  front := by
    intro c hc
    rw [toList_writeString] at hc
    cases hc
    decide
  nonempty := by
    intro hempty
    have hnil := congrArg String.toList hempty
    rw [toList_writeString] at hnil
    cases hnil
  reads := by
    intro rest _
    rw [toList_writeString, List.cons_append, List.append_assoc, List.singleton_append]
    cases depth <;> (rw [scanOnce, if_pos rfl, scanString_written]; rfl)

theorem Written.skipSpace {depth : Nat} {text : String} {v : Value} (h : Written depth text v)
    (rest : List Char) : skipSpace (text.toList ++ rest) = text.toList ++ rest := by
  cases htext : text.toList with
  | nil => exact absurd (String.toList_eq_nil_iff.mp htext) h.nonempty
  | cons c cs => exact skipSpace_cons_mark (h.front c (by rw [htext]; rfl)) _

def memberText (member : String × String × Value) : String :=
  writeString member.1 ++ ":" ++ member.2.1

theorem toList_memberText (member : String × String × Value) :
    (memberText member).toList =
      '"' :: (member.1.toList.flatMap rawEscaped ++ '"' :: ':' :: member.2.1.toList) := by
  have hcolon : ":".toList = [':'] := rfl
  rw [memberText, String.toList_append, String.toList_append, toList_writeString, hcolon]
  simp

theorem scanMember_written {depth : Nat} {member : String × String × Value}
    (h : Written depth member.2.1 member.2.2) {rest : List Char} (hrest : Delimited rest) :
    scanMember (scanOnce depth) ((memberText member).toList ++ rest) =
      .ok ((Key.str member.1, member.2.2), rest) := by
  rw [toList_memberText, List.cons_append, List.append_assoc, List.cons_append, List.cons_append,
    scanMember]
  simp only [scanString_written, bind, Except.bind]
  rw [skipSpace_cons_mark (by decide)]
  simp only [if_true]
  rw [h.skipSpace, h.reads rest hrest]

theorem membersText_front (member : String × String × Value)
    (members : List (String × String × Value)) :
    exists cs, (",".intercalate ((member :: members).map memberText)).toList = '"' :: cs := by
  cases members with
  | nil =>
      rw [List.map_cons, List.map_nil, String.intercalate_singleton, toList_memberText]
      exact ⟨_, rfl⟩
  | cons other members =>
      rw [List.map_cons, List.map_cons, String.intercalate_cons_cons, String.toList_append,
        String.toList_append, toList_memberText]
      exact ⟨_, rfl⟩

theorem scanSeparated_written {depth : Nat} {finish : List (Key × Value) -> Value}
    (members : List (String × String × Value)) (hne : members ≠ [])
    (h : forall member, member ∈ members -> Written depth member.2.1 member.2.2)
    {fuel : Nat} (hfuel : members.length ≤ fuel) (rest : List Char) (seen : List (Key × Value)) :
    scanSeparated (scanMember (scanOnce depth)) '}' finish fuel
        ((",".intercalate (members.map memberText)).toList ++ '}' :: rest) seen =
      .ok (finish (seen ++ members.map fun member => (Key.str member.1, member.2.2)), rest) := by
  induction members generalizing fuel seen with
  | nil => exact absurd rfl hne
  | cons member members ih =>
      rcases Nat.exists_eq_succ_of_ne_zero (Nat.ne_of_gt (Nat.lt_of_lt_of_le
        (Nat.succ_pos _) hfuel)) with ⟨fuel, hsucc⟩
      subst hsucc
      have hmember := h member List.mem_cons_self
      cases members with
      | nil =>
          rw [List.map_cons, List.map_nil, String.intercalate_singleton, scanSeparated,
            scanMember_written hmember (delimited_cons (by decide) rest)]
          simp only [bind, Except.bind]
          rw [skipSpace_cons_mark (by decide)]
          rfl
      | cons other members =>
          have hnext := ih (List.cons_ne_nil _ _) (fun m hm => h m (List.mem_cons_of_mem _ hm))
            (Nat.le_of_succ_le_succ hfuel) (seen ++ [(Key.str member.1, member.2.2)])
          have hcomma : ",".toList = [','] := rfl
          rcases membersText_front other members with ⟨cs, hfront⟩
          rw [List.map_cons, List.map_cons, String.intercalate_cons_cons, ← List.map_cons,
            String.toList_append, String.toList_append, hcomma, List.append_assoc,
            List.append_assoc, List.singleton_append, scanSeparated,
            scanMember_written hmember (delimited_cons (by decide) _)]
          simp only [bind, Except.bind]
          rw [skipSpace_cons_mark (by decide)]
          simp only [if_true]
          rw [hfront, List.cons_append, skipSpace_cons_mark (by decide), ← List.cons_append,
            ← hfront, hnext, List.append_assoc]
          rfl

/-!
## Objects
-/

theorem length_le_membersText (members : List (String × String × Value)) :
    members.length ≤ (",".intercalate (members.map memberText)).toList.length := by
  induction members with
  | nil => exact Nat.zero_le _
  | cons member members ih =>
      cases members with
      | nil =>
          rw [List.map_cons, List.map_nil, String.intercalate_singleton, toList_memberText]
          exact Nat.succ_le_succ (Nat.zero_le _)
      | cons other members =>
          rw [List.map_cons, List.map_cons, String.intercalate_cons_cons, ← List.map_cons,
            String.toList_append, String.toList_append, toList_memberText, List.length_append,
            List.length_append]
          simp only [List.length_cons] at ih ⊢
          omega

def membersRead (members : List (String × String × Value)) : Value :=
  .dict (Dict.ofEntries (members.map fun member => (Key.str member.1, member.2.2))).entries

theorem toList_writeObject (members : List (String × String × Value)) :
    (writeObject (members.map fun member => (member.1, member.2.1))).toList =
      '{' :: ((",".intercalate (members.map memberText)).toList ++ ['}']) := by
  have hopen : "\x7b".toList = ['{'] := rfl
  have hclose : "\x7d".toList = ['}'] := rfl
  rw [writeObject, List.map_map, String.toList_append, String.toList_append, hopen, hclose]
  rfl

theorem reads_writeObject {depth : Nat} {members : List (String × String × Value)}
    (h : forall member, member ∈ members -> Written depth member.2.1 member.2.2) :
    Reads (scanOnce (depth + 1)) Any
      (writeObject (members.map fun member => (member.1, member.2.1))).toList
      (membersRead members) := by
  intro rest _
  rw [toList_writeObject, List.cons_append, List.append_assoc, List.singleton_append,
    scanOnce_object_eq, scanBracket]
  cases members with
  | nil =>
      rw [List.map_nil, String.intercalate_nil, String.toList_empty, List.nil_append,
        skipSpace_cons_mark (by decide)]
      rfl
  | cons member members =>
      rcases membersText_front member members with ⟨cs, hfront⟩
      have hskip : skipSpace ((",".intercalate ((member :: members).map memberText)).toList ++
          '}' :: rest) =
            (",".intercalate ((member :: members).map memberText)).toList ++ '}' :: rest := by
        rw [hfront, List.cons_append, skipSpace_cons_mark (by decide)]
      have hopen : ((",".intercalate ((member :: members).map memberText)).toList ++
          '}' :: rest).head? ≠ some '}' := by
        rw [hfront]
        intro hmark
        cases hmark
      have hfuel := length_le_membersText (member :: members)
      rw [hskip, if_neg hopen, scanSeparated_written _ (List.cons_ne_nil _ _) h
        (by rw [List.length_append]; omega)]
      rfl

theorem loads_writeObject {depth : Nat} {members : List (String × String × Value)}
    (h : forall member, member ∈ members -> Written depth member.2.1 member.2.2) :
    loads (depth + 1) (writeObject (members.map fun member => (member.1, member.2.1))) =
      .ok (membersRead members) := by
  refine loads_of_isObjectText ⟨?_, ?_, reads_writeObject h⟩
  · rw [toList_writeObject]
    rfl
  · rw [toList_writeObject, ← List.cons_append, List.getLast?_concat]

end Json
end Foundation
end YasinMcp
