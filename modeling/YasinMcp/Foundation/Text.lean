import Mathlib.Data.List.DropRight
import Mathlib.Data.List.Infix

/-!
# Text primitives

The string operations of the host language, on character lists.  A string is a
sequence of Unicode scalar values; a lone surrogate has no counterpart here.
Only the facts that later modules compose are proved: stripping is idempotent,
a string is blank exactly when all its characters are white space, and a list of
parts mentions what a list of longer parts does.
-/

namespace YasinMcp
namespace Foundation
namespace Text

/-- White space in the sense of the host language's character classification. -/
def isSpace (c : Char) : Bool :=
  let n := c.toNat
  (9 ≤ n && n ≤ 13) || (28 ≤ n && n ≤ 32) || n == 0x85 || n == 0xa0 || n == 0x1680 ||
    (0x2000 ≤ n && n ≤ 0x200a) || n == 0x2028 || n == 0x2029 || n == 0x202f ||
    n == 0x205f || n == 0x3000

def stripChars (cs : List Char) : List Char :=
  (cs.dropWhile isSpace).rdropWhile isSpace

def strip (s : String) : String :=
  String.ofList (stripChars s.toList)

def isBlank (s : String) : Bool :=
  s.toList.all isSpace

theorem isBlank_eq_false {s : String} (h : ¬ isBlank s = true) : isBlank s = false :=
  Bool.eq_false_iff.mpr h

def isAscii (s : String) : Bool :=
  s.toList.all fun c => c.toNat < 128

/--
Lower case.  The ASCII and Latin-1 letters are mapped, and so are the two other
code points whose lower case contains an ASCII letter.  Any further letter maps
to a non-ASCII one and is left alone: results are only compared with ASCII text.
-/
def lowerChar (c : Char) : List Char :=
  let n := c.toNat
  if 65 ≤ n && n ≤ 90 then [Char.ofNat (n + 32)]
  else if 0xc0 ≤ n && n ≤ 0xde && n != 0xd7 then [Char.ofNat (n + 32)]
  else if n == 0x130 then ['i', Char.ofNat 0x307]
  else if n == 0x212a then ['k']
  else [c]

def lower (s : String) : String :=
  String.ofList (s.toList.flatMap lowerChar)

def replaceChar (old new : Char) (s : String) : String :=
  String.ofList (s.toList.map fun c => if c = old then new else c)

def isPartOf (part s : String) : Bool :=
  decide (part.toList <:+: s.toList)

def startsWith (s start : String) : Bool :=
  start.toList.isPrefixOf s.toList

def endsWith (s ending : String) : Bool :=
  ending.toList.isSuffixOf s.toList

/-- One of the parts occurs in the string once case and hyphens are normalised. -/
def mentionsAny (parts : List String) (s : String) : Bool :=
  parts.any fun part => isPartOf part (replaceChar '-' '_' (lower s))

/--
Split at the first run of white space: the first word, and what follows the
run with its own trailing white space kept.  Absent when no second part is left.
-/
def splitOnce (s : String) : Option (String × String) :=
  let cs := s.toList.dropWhile isSpace
  let word := cs.takeWhile fun c => !isSpace c
  let rest := (cs.dropWhile fun c => !isSpace c).dropWhile isSpace
  if rest.isEmpty then none else some (String.ofList word, String.ofList rest)

def decodeLatin1 (bytes : List UInt8) : String :=
  String.ofList (bytes.map fun b => Char.ofNat b.toNat)

theorem toNat_of_isAlphanum {c : Char} (h : c.isAlphanum = true) :
    32 < c.toNat ∧ c.toNat < 127 := by
  delta Char.isAlphanum Char.isAlpha Char.isUpper Char.isLower Char.isDigit at h
  simp only [Bool.or_eq_true, Bool.and_eq_true, decide_eq_true_eq, ge_iff_le,
    UInt32.le_iff_toNat_le, Char.reduceVal, UInt32.reduceToNat, Char.toNat_val] at h
  omega

theorem isSpace_of_printable {c : Char} (h : 32 < c.toNat ∧ c.toNat < 127) :
    isSpace c = false := by
  unfold isSpace
  simp only [Bool.or_eq_false_iff, Bool.and_eq_false_iff, decide_eq_false_iff_not,
    beq_eq_false_iff_ne]
  omega

theorem isDigit_of_mem_repr {n : Nat} {c : Char} (hc : c ∈ n.repr.toList) : c.isDigit = true := by
  rw [Nat.repr_eq_ofList_toDigits, String.toList_ofList] at hc
  exact Nat.isDigit_of_mem_toDigits (by decide) (by decide) hc

/-!
## Parts
-/

theorem mentionsAny_of_parts {parts parts' : List String}
    (h : forall part, part ∈ parts -> exists other, other ∈ parts' ∧ isPartOf other part = true)
    {s : String} (hs : mentionsAny parts s = true) : mentionsAny parts' s = true := by
  rcases List.any_eq_true.mp hs with ⟨part, hpart, hmentioned⟩
  rcases h part hpart with ⟨other, hother, hpartOf⟩
  refine List.any_eq_true.mpr ⟨other, hother, ?_⟩
  unfold isPartOf at hpartOf hmentioned ⊢
  rw [decide_eq_true_eq] at hpartOf hmentioned ⊢
  exact hpartOf.trans hmentioned

theorem mentionsAny_append (first second : List String) (s : String) :
    mentionsAny (first ++ second) s = (mentionsAny first s || mentionsAny second s) :=
  List.any_append

theorem infix_intercalate {item sep : String} {items : List String} (h : item ∈ items) :
    item.toList <:+: (sep.intercalate items).toList := by
  induction items with
  | nil => cases h
  | cons first rest ih =>
      cases rest with
      | nil =>
          rw [List.mem_singleton.mp h, String.intercalate_singleton]
      | cons second rest =>
          rw [String.intercalate_cons_cons, String.toList_append, String.toList_append]
          rcases List.mem_cons.mp h with hfirst | hrest
          · rw [hfirst, List.append_assoc]
            exact (List.prefix_append _ _).isInfix
          · exact (ih hrest).trans (List.suffix_append _ _).isInfix

/-!
## Stripping
-/

theorem head_rdropWhile {p : Char -> Bool} {cs : List Char}
    (h : cs.dropWhile p = cs) : (cs.rdropWhile p).dropWhile p = cs.rdropWhile p := by
  rw [List.dropWhile_eq_self_iff] at h ⊢
  intro hl
  have hinitial : cs.rdropWhile p <+: cs := List.rdropWhile_prefix p cs
  rw [hinitial.getElem hl]
  exact h (Nat.lt_of_lt_of_le hl hinitial.length_le)

theorem stripChars_stripChars (cs : List Char) :
    stripChars (stripChars cs) = stripChars cs := by
  have hfront : (cs.dropWhile isSpace).dropWhile isSpace = cs.dropWhile isSpace :=
    List.dropWhile_idempotent isSpace cs
  calc
    stripChars (stripChars cs) = (stripChars cs).rdropWhile isSpace := by
      rw [stripChars, stripChars, head_rdropWhile hfront]
    _ = stripChars cs := List.rdropWhile_idempotent isSpace (cs.dropWhile isSpace)

@[simp] theorem strip_strip (s : String) : strip (strip s) = strip s := by
  simp [strip, stripChars_stripChars]

theorem strip_eq_self {s : String} (h : forall c, c ∈ s.toList -> isSpace c = false) :
    strip s = s := by
  have hfront : s.toList.dropWhile isSpace = s.toList := by
    rw [List.dropWhile_eq_self_iff]
    intro hl
    simp [h _ (List.getElem_mem hl)]
  have hback : s.toList.rdropWhile isSpace = s.toList := by
    rw [List.rdropWhile_eq_self_iff]
    intro hl
    simp [h _ (List.getLast_mem hl)]
  rw [strip, stripChars, hfront, hback, String.ofList_toList]

theorem stripChars_append {front back : List Char} (hback : back ≠ [])
    (h : forall c, c ∈ back -> isSpace c = false) :
    stripChars (front ++ back) = front.dropWhile isSpace ++ back := by
  have hfront : (front ++ back).dropWhile isSpace = front.dropWhile isSpace ++ back := by
    rcases List.exists_cons_of_ne_nil hback with ⟨c, rest, hcons⟩
    rw [List.dropWhile_append]
    split
    · rename_i hnil
      rw [List.isEmpty_iff.mp hnil, hcons,
        List.dropWhile_cons_of_neg (Bool.eq_false_iff.mp (h c (by simp [hcons])))]
      rfl
    · rfl
  rw [stripChars, hfront, List.rdropWhile_eq_self_iff]
  intro hl
  rw [List.getLast_append_of_ne_nil hl hback]
  exact Bool.eq_false_iff.mp (h _ (List.getLast_mem hback))

theorem stripChars_eq_nil_iff (cs : List Char) :
    stripChars cs = [] <-> cs.all isSpace = true := by
  rw [stripChars, List.rdropWhile_eq_nil_iff, List.all_eq_true]
  constructor
  · intro h
    have hnil : cs.dropWhile isSpace = [] := by
      cases hdrop : cs.dropWhile isSpace with
      | nil => rfl
      | cons c rest =>
          have hself := List.dropWhile_idempotent isSpace cs
          rw [hdrop] at hself
          have hc : isSpace c = true := h c (by simp [hdrop])
          rw [List.dropWhile_cons_of_pos hc] at hself
          have hlen := (List.dropWhile_suffix (l := rest) isSpace).length_le
          rw [hself, List.length_cons] at hlen
          omega
    exact (List.dropWhile_eq_nil_iff).mp hnil
  · intro h c hc
    exact h c ((List.dropWhile_suffix isSpace).subset hc)

theorem strip_eq_empty_iff (s : String) : strip s = "" <-> isBlank s = true := by
  rw [strip, isBlank, ← stripChars_eq_nil_iff, ← String.toList_eq_nil_iff,
    String.toList_ofList]

theorem isBlank_strip (s : String) : isBlank (strip s) = isBlank s := by
  rw [Bool.eq_iff_iff, ← strip_eq_empty_iff, ← strip_eq_empty_iff, strip_strip]

/-!
## Lower case
-/

theorem lower_append (s t : String) : lower (s ++ t) = lower s ++ lower t := by
  rw [lower, String.toList_append, List.flatMap_append, String.ofList_append]
  rfl

theorem lowerChar_ne_nil (c : Char) : lowerChar c ≠ [] := by
  unfold lowerChar
  simp only
  split
  · exact List.cons_ne_nil _ _
  · split
    · exact List.cons_ne_nil _ _
    · split
      · exact List.cons_ne_nil _ _
      · split <;> exact List.cons_ne_nil _ _

theorem lowerChar_of_isSpace {c : Char} (h : isSpace c = true) : lowerChar c = [c] := by
  have hletter : c.toNat < 65 ∨ 90 < c.toNat ∧ c.toNat < 0xc0 ∨ 0xde < c.toNat ∧
      c.toNat ≠ 0x130 ∧ c.toNat ≠ 0x212a := by
    unfold isSpace at h
    simp only [Bool.or_eq_true, Bool.and_eq_true, decide_eq_true_eq, beq_iff_eq] at h
    omega
  unfold lowerChar
  simp only [Bool.and_eq_true, decide_eq_true_eq, bne_iff_ne, beq_iff_eq]
  rw [if_neg (by omega), if_neg (by omega), if_neg (by omega), if_neg (by omega)]

theorem isSpace_of_lower {s : String} (h : forall c, c ∈ (lower s).toList -> isSpace c = false)
    {c : Char} (hc : c ∈ s.toList) : isSpace c = false := by
  cases hspace : isSpace c with
  | false => rfl
  | true =>
      have hmem : c ∈ (lower s).toList := by
        rw [lower, String.toList_ofList, List.mem_flatMap]
        exact ⟨c, hc, by simp [lowerChar_of_isSpace hspace]⟩
      rw [← hspace]
      exact h c hmem

theorem ne_empty_of_not_isBlank {s : String} (h : isBlank s = false) : s ≠ "" := by
  intro hs
  subst hs
  simp [isBlank] at h

example : strip "  a b\n" = "a b" := by decide
example : splitOnce "Bearer  s3cret" = some ("Bearer", "s3cret") := by decide

end Text
end Foundation
end YasinMcp
