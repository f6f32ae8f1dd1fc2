import YasinMcp.Foundation.JsonPieces
import YasinMcp.Foundation.JsonWriting

/-!
# Parts of a JSON text

Escapes that were written are read one by one.  A part is a text that starts like a
value and is read as one whatever delimits it; parts with commas between them are read
in their order, whether white space follows the commas or not.
-/

namespace YasinMcp
namespace Foundation
namespace Json

/-!
## Escapes
-/

theorem hexDigit?_digitChar {d : Nat} (h : d < 16) : hexDigit? (Nat.digitChar d) = some d := by
  interval_cases d <;> rfl

theorem hex4?_hex4 {n : Nat} (h : n < 0x10000) (rest : List Char) :
    hex4? (hex4 n ++ rest) = some (n, rest) := by
  have hsum : ((n / 4096 % 16 * 16 + n / 256 % 16) * 16 + n / 16 % 16) * 16 + n % 16 = n := by
    omega
  have hdigit : forall m : Nat, hexDigit? (Nat.digitChar (m % 16)) = some (m % 16) :=
    fun m => hexDigit?_digitChar (Nat.mod_lt m (by decide))
  simp only [hex4, List.map_cons, List.map_nil, List.cons_append, List.nil_append, hex4?, hdigit,
    Option.bind_eq_bind, Option.bind_some, hsum]

theorem escape?_written {escape : Char × Char} (h : escape ∈ writtenEscapes) (rest : List Char) :
    escape? (escape.1 :: rest) = some (escape.2, rest) := by
  have hall : forall escape, escape ∈ writtenEscapes ->
      escape.1 ≠ 'u' ∧ simpleEscapes.find? (fun entry => entry.1 = escape.1) = some escape :=
    List.forall_iff_forall_mem.mp (by decide)
  rcases hall escape h with ⟨hletter, hfind⟩
  rw [escape?, if_neg hletter, hfind]
  rfl

theorem notSurrogate (c : Char) :
    isHighSurrogate c.toNat = false ∧ isLowSurrogate c.toNat = false := by
  have hvalid : c.toNat < 0xd800 ∨ 0xdfff < c.toNat ∧ c.toNat < 0x110000 := c.valid
  simp only [isHighSurrogate, isLowSurrogate, Bool.and_eq_false_iff, decide_eq_false_iff_not]
  omega

theorem unicodeEscape?_basic {c : Char} (h : c.toNat < 0x10000) (rest : List Char) :
    unicodeEscape? (hex4 c.toNat ++ rest) = some (c, rest) := by
  rcases notSurrogate c with ⟨hhigh, hlow⟩
  rw [unicodeEscape?_eq, hex4?_hex4 h, Option.bind_some]
  simp only [hhigh, Bool.false_eq_true, false_and, if_false, charOf, hlow, Bool.or_self,
    Char.ofNat_toNat]

theorem unicodeEscape?_surrogates {n m : Nat} (hhigh : isHighSurrogate n = true)
    (hlow : isLowSurrogate m = true) (rest : List Char) :
    unicodeEscape? (hex4 n ++ (unicodeEscape m ++ rest)) =
      some (Char.ofNat (0x10000 + (n - 0xd800) * 0x400 + (m - 0xdc00)), rest) := by
  have hn : n < 0x10000 := by
    simp only [isHighSurrogate, Bool.and_eq_true, decide_eq_true_eq] at hhigh
    omega
  have hm : m < 0x10000 := by
    simp only [isLowSurrogate, Bool.and_eq_true, decide_eq_true_eq] at hlow
    omega
  rw [unicodeEscape?_eq, hex4?_hex4 hn, Option.bind_some]
  simp only [unicodeEscape, List.cons_append, nextCode?, hex4?_hex4 hm, Option.bind_some]
  rw [if_pos ⟨hhigh, List.prefix_append ['\\', 'u'] _⟩, if_pos hlow]

theorem unicodeEscape?_pair {c : Char} (h : ¬ c.toNat < 0x10000) (rest : List Char) :
    unicodeEscape? (hex4 (0xd800 + (c.toNat - 0x10000) / 0x400) ++
        (unicodeEscape (0xdc00 + (c.toNat - 0x10000) % 0x400) ++ rest)) = some (c, rest) := by
  have hvalid : c.toNat < 0xd800 ∨ 0xdfff < c.toNat ∧ c.toNat < 0x110000 := c.valid
  have hcode : 0x10000 + (0xd800 + (c.toNat - 0x10000) / 0x400 - 0xd800) * 0x400 +
      (0xdc00 + (c.toNat - 0x10000) % 0x400 - 0xdc00) = c.toNat := by
    omega
  have hhigh : isHighSurrogate (0xd800 + (c.toNat - 0x10000) / 0x400) = true := by
    simp only [isHighSurrogate, Bool.and_eq_true, decide_eq_true_eq]
    omega
  have hlow : isLowSurrogate (0xdc00 + (c.toNat - 0x10000) % 0x400) = true := by
    simp only [isLowSurrogate, Bool.and_eq_true, decide_eq_true_eq]
    omega
  rw [unicodeEscape?_surrogates hhigh hlow, hcode, Char.ofNat_toNat]

theorem scanChars_escape {text rest : List Char} {c : Char} (h : escape? text = some (c, rest))
    (fuel : Nat) (seen : List Char) :
    scanChars (fuel + 1) ('\\' :: text) seen = scanChars fuel rest (c :: seen) := by
  rw [scanChars, if_neg (by decide), if_neg (by decide), if_pos rfl, h]

theorem scanChars_escaped (c : Char) (fuel : Nat) (rest seen : List Char) :
    scanChars (fuel + 1) (escaped c ++ rest) seen = scanChars fuel rest (c :: seen) := by
  rw [escaped]
  cases hfind : writtenEscapes.find? fun escape => escape.2 = c with
  | some escape =>
      have hc : escape.2 = c := by
        have hfound := List.find?_some hfind
        rwa [decide_eq_true_eq] at hfound
      rw [← hc]
      exact scanChars_escape (escape?_written (List.mem_of_find?_eq_some hfind) rest) fuel seen
  | none =>
      simp only
      split
      · rename_i hprintable
        have hother : forall escape, escape ∈ writtenEscapes -> escape.2 ≠ c := by
          intro escape hmem hescape
          exact absurd (decide_eq_true hescape) (List.find?_eq_none.mp hfind escape hmem)
        have hquote : c ≠ '"' := (hother ('"', '"') (by decide)).symm
        have hslash : c ≠ '\\' := (hother ('\\', '\\') (by decide)).symm
        rw [List.singleton_append, scanChars, if_neg hquote, if_neg (by omega), if_neg hslash]
      · split
        · rename_i hbasic
          refine scanChars_escape ?_ fuel seen
          exact unicodeEscape?_basic hbasic rest
        · rename_i hbasic
          rw [List.append_assoc]
          refine scanChars_escape ?_ fuel seen
          exact unicodeEscape?_pair hbasic rest

theorem scanChars_escapedText (cs rest seen : List Char) (fuel : Nat) :
    scanChars (fuel + cs.length + 1) (cs.flatMap escaped ++ '"' :: rest) seen =
      .ok (String.ofList (seen.reverse ++ cs), rest) := by
  induction cs generalizing seen with
  | nil => simp [scanChars]
  | cons c cs ih =>
      rw [List.flatMap_cons, List.append_assoc, List.length_cons, ← Nat.add_assoc,
        scanChars_escaped, ih, List.reverse_cons, List.append_assoc]
      rfl

theorem escaped_ne_nil (c : Char) : escaped c ≠ [] := by
  intro hnil
  have hread := scanChars_escaped c 0 ['"'] []
  rw [hnil] at hread
  cases hread

theorem length_le_escapedText (cs : List Char) : cs.length ≤ (cs.flatMap escaped).length := by
  induction cs with
  | nil => exact Nat.le_refl 0
  | cons c cs ih =>
      have hpositive := List.length_pos_of_ne_nil (escaped_ne_nil c)
      rw [List.flatMap_cons, List.length_append, List.length_cons]
      omega

theorem scanString_escapedText (s : String) (rest : List Char) :
    scanString (escapedText s ++ '"' :: rest) = .ok (s, rest) := by
  have hle := length_le_escapedText s.toList
  have hfuel : (escapedText s ++ '"' :: rest).length + 1 =
      ((escapedText s ++ '"' :: rest).length - s.toList.length) + s.toList.length + 1 := by
    rw [escapedText, List.length_append]
    omega
  rw [scanString, hfuel, escapedText, scanChars_escapedText, List.reverse_nil, List.nil_append,
    String.ofList_toList]

/-!
## Parts
-/

/-- A character that a value can start with, as far as brackets and white space go. -/
def opens (c : Char) : Bool :=
  c.toNat < 128 && !isJsonSpace c && c ≠ ']' && c ≠ '\x7d'

/-- The text starts like a value, and is read as this whatever delimits it. -/
structure Part {a : Type} (scan : List Char -> Except LoadsError (a × List Char))
    (text : List Char) (x : a) : Prop where
  front : exists c cs, text = c :: cs ∧ opens c = true
  reads : Reads scan Delimited text x

namespace Part

variable {a : Type} {scan : List Char -> Except LoadsError (a × List Char)} {text : List Char}
  {x : a}

theorem skipSpace (h : Part scan text x) (rest : List Char) :
    skipSpace (text ++ rest) = text ++ rest := by
  rcases h.front with ⟨c, cs, htext, hopens⟩
  simp only [opens, Bool.and_eq_true, Bool.not_eq_true'] at hopens
  rw [htext, List.cons_append, skipSpace_cons_mark hopens.1.1.2]

theorem head?_ne (h : Part scan text x) {close : Char} (hclose : close = ']' ∨ close = '\x7d')
    (rest : List Char) : (text ++ rest).head? ≠ some close := by
  rcases h.front with ⟨c, cs, htext, hopens⟩
  simp only [opens, Bool.and_eq_true, decide_eq_true_eq] at hopens
  rw [htext]
  intro hhead
  cases hhead
  rcases hclose with hclose | hclose
  · exact hopens.1.2 hclose
  · exact hopens.2 hclose

theorem length_pos (h : Part scan text x) : 0 < text.length := by
  rcases h.front with ⟨c, cs, htext, _⟩
  rw [htext]
  exact Nat.succ_pos _

end Part

theorem loads_of_part {depth : Nat} {text : String} {v : Value}
    (h : Part (scanOnce depth) text.toList v) : loads depth text = .ok v := by
  have hskip := h.skipSpace []
  have hread := h.reads [] (fun c hc => by cases hc)
  rw [List.append_nil] at hskip hread
  rcases h.front with ⟨c, cs, htext, hopens⟩
  rw [loads]
  split
  · rename_i rest hmark
    rw [hmark] at htext
    cases htext
    cases hopens
  · rw [hskip, hread]
    rfl

/-!
## Bracketed parts
-/

section

variable {a : Type} {item : List Char -> Except LoadsError (a × List Char)} {close : Char}
  {finish : List a -> Value} {space : List Char}

theorem length_le_intercalate (parts : List (List Char × a))
    (h : forall part, part ∈ parts -> Part item part.1 part.2) (mark : List Char) :
    parts.length ≤ (mark.intercalate (parts.map Prod.fst)).length := by
  induction parts with
  | nil => exact Nat.zero_le _
  | cons part parts ih =>
      have hpositive := (h part List.mem_cons_self).length_pos
      have hrest := ih fun other hother => h other (List.mem_cons_of_mem _ hother)
      cases parts with
      | nil =>
          rw [List.map_cons, List.map_nil, List.intercalate_singleton]
          exact hpositive
      | cons other parts =>
          rw [List.map_cons, List.map_cons, List.intercalate_cons_cons, ← List.map_cons,
            List.length_append, List.length_append, List.length_cons]
          omega

theorem scanSeparated_parts (hclose : close = ']' ∨ close = '\x7d') (hspace : AllSpace space)
    (parts : List (List Char × a)) (hne : parts ≠ [])
    (h : forall part, part ∈ parts -> Part item part.1 part.2) {fuel : Nat}
    (hfuel : parts.length ≤ fuel) (rest : List Char) (seen : List a) :
    scanSeparated item close finish fuel
        ((',' :: space).intercalate (parts.map Prod.fst) ++ close :: rest) seen =
      .ok (finish (seen ++ parts.map Prod.snd), rest) := by
  have hmark : isJsonSpace close = false ∧ close ≠ ',' ∧
      isDigit close = false ∧ close ≠ '.' ∧ close ≠ 'e' ∧ close ≠ 'E' := by
    rcases hclose with hclose | hclose <;> subst hclose <;> decide
  induction parts generalizing fuel seen with
  | nil => exact absurd rfl hne
  | cons part parts ih =>
      rcases Nat.exists_eq_succ_of_ne_zero (Nat.ne_of_gt (Nat.lt_of_lt_of_le
        (Nat.succ_pos _) hfuel)) with ⟨fuel, hsucc⟩
      subst hsucc
      have hpart := h part List.mem_cons_self
      cases parts with
      | nil =>
          rw [List.map_cons, List.map_nil, List.intercalate_singleton, scanSeparated,
            hpart.reads _ (delimited_cons hmark.2.2 rest)]
          simp only [bind, Except.bind]
          rw [skipSpace_cons_mark hmark.1]
          simp only [if_neg hmark.2.1, if_true]
          rfl
      | cons other parts =>
          have hother := h other (List.mem_cons_of_mem _ List.mem_cons_self)
          have hnext := ih (List.cons_ne_nil _ _) (fun p hp => h p (List.mem_cons_of_mem _ hp))
            (Nat.le_of_succ_le_succ hfuel) (seen ++ [part.2])
          have hskip : skipSpace
              ((',' :: space).intercalate ((other :: parts).map Prod.fst) ++ close :: rest) =
                (',' :: space).intercalate ((other :: parts).map Prod.fst) ++ close :: rest := by
            cases parts with
            | nil =>
                rw [List.map_cons, List.map_nil, List.intercalate_singleton]
                exact hother.skipSpace _
            | cons third parts =>
                rw [List.map_cons, List.map_cons, List.intercalate_cons_cons, List.append_assoc,
                  List.append_assoc]
                exact hother.skipSpace _
          rw [List.map_cons, List.map_cons, List.intercalate_cons_cons, ← List.map_cons,
            List.append_assoc, List.append_assoc, scanSeparated, List.cons_append,
            hpart.reads _ (delimited_cons (by decide) _)]
          simp only [bind, Except.bind]
          rw [skipSpace_cons_mark (by decide)]
          simp only [if_true]
          rw [skipSpace_append hspace, hskip, hnext, List.append_assoc]
          rfl

theorem scanBracket_parts {empty : Value} (hclose : close = ']' ∨ close = '\x7d')
    (hspace : AllSpace space) (hempty : finish [] = empty) (parts : List (List Char × a))
    (h : forall part, part ∈ parts -> Part item part.1 part.2) (rest : List Char) :
    scanBracket item close finish empty
        ((',' :: space).intercalate (parts.map Prod.fst) ++ close :: rest) =
      .ok (finish (parts.map Prod.snd), rest) := by
  have hmark : isJsonSpace close = false := by
    rcases hclose with hclose | hclose <;> subst hclose <;> decide
  rw [scanBracket]
  cases parts with
  | nil =>
      rw [List.map_nil, List.intercalate_nil, List.nil_append, skipSpace_cons_mark hmark,
        List.head?_cons, if_pos rfl, List.map_nil, hempty]
      rfl
  | cons part parts =>
      have hpart := h part List.mem_cons_self
      have hlength := length_le_intercalate _ h (',' :: space)
      have hfront : exists tail,
          (',' :: space).intercalate ((part :: parts).map Prod.fst) ++ close :: rest =
            part.1 ++ tail := by
        cases parts with
        | nil =>
            rw [List.map_cons, List.map_nil, List.intercalate_singleton]
            exact ⟨_, rfl⟩
        | cons other parts =>
            rw [List.map_cons, List.map_cons, List.intercalate_cons_cons, List.append_assoc,
              List.append_assoc]
            exact ⟨_, rfl⟩
      rcases hfront with ⟨tail, htail⟩
      have hskip : skipSpace
          ((',' :: space).intercalate ((part :: parts).map Prod.fst) ++ close :: rest) =
            (',' :: space).intercalate ((part :: parts).map Prod.fst) ++ close :: rest := by
        rw [htail, hpart.skipSpace]
      rw [hskip, if_neg (by rw [htail]; exact hpart.head?_ne hclose tail),
        scanSeparated_parts hclose hspace _ (List.cons_ne_nil _ _) h
          (by rw [List.length_append]; omega), List.nil_append]

end

end Json
end Foundation
end YasinMcp
