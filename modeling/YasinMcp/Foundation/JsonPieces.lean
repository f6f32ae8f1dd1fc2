import Mathlib.Tactic.IntervalCases
import YasinMcp.Foundation.JsonText
import YasinMcp.Foundation.Occurrences
import YasinMcp.Foundation.Text

/-!
# The pieces of a JSON text

The text of a value as the encoder writes it, with white space after separators and
everything but printable ASCII escaped, is made of marks and of strings in quotes.  A word
without a quote that marks cannot spell stands in the text exactly where it stands in one
of its strings, as that string is escaped.
-/

namespace YasinMcp
namespace Foundation
namespace Json

/-- A part of a JSON text: outside of the strings, a name of an object, or a string. -/
inductive Piece where
  | mark (text : String)
  | name (s : String)
  | value (s : String)

/-- The characters that a string is written with, between its quotes. -/
def escapedText (s : String) : List Char :=
  s.toList.flatMap escaped

namespace Piece

def text : Piece -> List Char
  | .mark text => text.toList
  | .name s => '"' :: escapedText s ++ ['"']
  | .value s => '"' :: escapedText s ++ ['"']

def string? : Piece -> Option String
  | .mark _ => none
  | .name s => some s
  | .value s => some s

theorem text_of_string? {piece : Piece} {s : String} (h : piece.string? = some s) :
    piece.text = '"' :: escapedText s ++ ['"'] := by
  cases piece with
  | mark text => cases h
  | name s' =>
      cases h
      rfl
  | value s' =>
      cases h
      rfl

end Piece

def piecesText (pieces : List Piece) : List Char :=
  pieces.flatMap Piece.text

def floatText (py : Builtins) : PyFloat -> String
  | .nan => "NaN"
  | .infinity negative => if negative then "-Infinity" else "Infinity"
  | x => py.repr (.float x)

section

variable (py : Builtins)

mutual

/-- The pieces of a value; a tuple is written as a list. -/
def pieces : Value -> List Piece
  | .none => [.mark "null"]
  | .bool b => [.mark (if b then "true" else "false")]
  | .int n => [.mark (toString n)]
  | .float x => [.mark (floatText py x)]
  | .str s => [.value s]
  | .list items => .mark "[" :: (itemPieces true items ++ [.mark "]"])
  | .tuple items => .mark "[" :: (itemPieces true items ++ [.mark "]"])
  | .dict entries => .mark "\x7b" :: (entryPieces true entries ++ [.mark "\x7d"])

def itemPieces (first : Bool) : List Value -> List Piece
  | [] => []
  | v :: rest => .mark (if first then "" else ", ") :: (pieces v ++ itemPieces false rest)

def entryPieces (first : Bool) : List (Key × Value) -> List Piece
  | [] => []
  | (k, v) :: rest =>
      .mark (if first then "" else ", ") :: .name k.text :: .mark ": " ::
        (pieces v ++ entryPieces false rest)

end

/-- The text of a value whose names are strings and whose integers can be written. -/
def dumps (v : Value) : String :=
  String.ofList (piecesText (pieces py v))

end

example : dumps plainBuiltins (.dict [("a", .list [.int (-1), .str "é\n"]), ("b", .none)]) =
    "\x7b\"a\": [-1, \"\\u00e9\\n\"], \"b\": null\x7d" := by
  decide +kernel

/-!
## Marks
-/

def markChars : List Char :=
  "[]\x7b\x7d:, 0123456789+-.eEnulltruefalseNaNInfinity".toList

def IsMark (text : List Char) : Prop :=
  forall c, c ∈ text -> c ∈ markChars

/-- Floats are written with digits, signs, a point and a mark for the exponent. -/
def PlainFloats (py : Builtins) : Prop :=
  forall negative digits exponent,
    IsMark (py.repr (.float (.decimal negative digits exponent))).toList

def Marked (pieces : List Piece) : Prop :=
  forall text, Piece.mark text ∈ pieces -> IsMark text.toList

theorem isMark_nil : IsMark [] := by
  intro c hc
  cases hc

theorem isMark_append {front back : List Char} (hfront : IsMark front) (hback : IsMark back) :
    IsMark (front ++ back) := by
  intro c hc
  rcases List.mem_append.mp hc with hc | hc
  · exact hfront c hc
  · exact hback c hc

theorem isMark_literal {text : String} (h : text.toList.Forall fun c => c ∈ markChars) :
    IsMark text.toList :=
  List.forall_iff_forall_mem.mp h

theorem mem_markChars_of_isDigit {c : Char} (h : c.isDigit = true) : c ∈ markChars := by
  have hrange : 48 ≤ c.toNat ∧ c.toNat ≤ 57 := by
    delta Char.isDigit at h
    simp only [Bool.and_eq_true, decide_eq_true_eq, ge_iff_le, UInt32.le_iff_toNat_le,
      Char.reduceVal, UInt32.reduceToNat, Char.toNat_val] at h
    exact h
  have hc : c = Char.ofNat c.toNat := (Char.ofNat_toNat c).symm
  rcases hrange with ⟨hlow, hhigh⟩
  generalize c.toNat = n at hc hlow hhigh
  subst hc
  interval_cases n <;> decide

theorem isMark_toString (n : Int) : IsMark (toString n).toList := by
  cases n with
  | ofNat m =>
      intro c hc
      exact mem_markChars_of_isDigit (Text.isDigit_of_mem_repr hc)
  | negSucc m =>
      have htext : (toString (Int.negSucc m)).toList = "-".toList ++ (m + 1).repr.toList :=
        String.toList_append
      rw [htext]
      apply isMark_append
      · exact isMark_literal (by decide)
      · intro c hc
        exact mem_markChars_of_isDigit (Text.isDigit_of_mem_repr hc)

theorem isMark_floatText {py : Builtins} (hfloats : PlainFloats py) (x : PyFloat) :
    IsMark (floatText py x).toList := by
  cases x with
  | decimal negative digits exponent => exact hfloats negative digits exponent
  | infinity negative =>
      cases negative with
      | false =>
          show IsMark "Infinity".toList
          exact isMark_literal (by decide)
      | true =>
          show IsMark "-Infinity".toList
          exact isMark_literal (by decide)
  | nan =>
      show IsMark "NaN".toList
      exact isMark_literal (by decide)

namespace Marked

theorem nil : Marked [] := by
  intro text hmem
  cases hmem

theorem mark {text : String} {pieces : List Piece} (htext : IsMark text.toList)
    (h : Marked pieces) : Marked (.mark text :: pieces) := by
  intro other hmem
  rcases List.mem_cons.mp hmem with hsame | hrest
  · cases hsame
    exact htext
  · exact h other hrest

theorem string (piece : Piece) {s : String} {pieces : List Piece}
    (hpiece : piece.string? = some s) (h : Marked pieces) : Marked (piece :: pieces) := by
  intro other hmem
  rcases List.mem_cons.mp hmem with hsame | hrest
  · rw [← hsame] at hpiece
    cases hpiece
  · exact h other hrest

theorem append {front back : List Piece} (hfront : Marked front) (hback : Marked back) :
    Marked (front ++ back) := by
  intro text hmem
  rcases List.mem_append.mp hmem with hmem | hmem
  · exact hfront text hmem
  · exact hback text hmem

theorem tail {piece : Piece} {pieces : List Piece} (h : Marked (piece :: pieces)) :
    Marked pieces :=
  fun text hmem => h text (List.mem_cons_of_mem piece hmem)

end Marked

theorem isMark_separator (first : Bool) :
    IsMark (if first then "" else ", " : String).toList := by
  cases first with
  | false => exact isMark_literal (by decide)
  | true => exact isMark_literal (by decide)

mutual

theorem marked_pieces {py : Builtins} (hfloats : PlainFloats py) :
    forall v : Value, Marked (pieces py v)
  | .none => .mark (isMark_literal (by decide)) .nil
  | .bool true => .mark (isMark_literal (by decide)) .nil
  | .bool false => .mark (isMark_literal (by decide)) .nil
  | .int n => .mark (isMark_toString n) .nil
  | .float x => .mark (isMark_floatText hfloats x) .nil
  | .str s => .string (.value s) rfl .nil
  | .list items => .mark (isMark_literal (by decide))
      (.append (marked_itemPieces hfloats true items) (.mark (isMark_literal (by decide)) .nil))
  | .tuple items => .mark (isMark_literal (by decide))
      (.append (marked_itemPieces hfloats true items) (.mark (isMark_literal (by decide)) .nil))
  | .dict entries => .mark (isMark_literal (by decide))
      (.append (marked_entryPieces hfloats true entries)
        (.mark (isMark_literal (by decide)) .nil))

theorem marked_itemPieces {py : Builtins} (hfloats : PlainFloats py) :
    forall (first : Bool) (items : List Value), Marked (itemPieces py first items)
  | _, [] => .nil
  | first, v :: rest =>
      .mark (isMark_separator first)
        (.append (marked_pieces hfloats v) (marked_itemPieces hfloats false rest))

theorem marked_entryPieces {py : Builtins} (hfloats : PlainFloats py) :
    forall (first : Bool) (entries : List (Key × Value)), Marked (entryPieces py first entries)
  | _, [] => .nil
  | first, (k, v) :: rest =>
      .mark (isMark_separator first) (.string (.name k.text) rfl
        (.mark (isMark_literal (by decide))
          (.append (marked_pieces hfloats v) (marked_entryPieces hfloats false rest))))

end

/-!
## Words in the text
-/

/-- A word that stands within quotes only: without one, and with another than a mark. -/
structure IsWord (word : List Char) : Prop where
  no_quote : '"' ∉ word
  not_mark : exists c, c ∈ word ∧ c ∉ markChars

theorem IsWord.not_infix {word text : List Char} (h : IsWord word) (htext : IsMark text) :
    ¬ word <:+: text := by
  intro hin
  rcases h.not_mark with ⟨c, hc, hnot⟩
  exact hnot (htext c (hin.subset hc))

/-- How much of a string is left of so many characters of the text. -/
def room (n : Nat) (before : List Piece) : Nat :=
  n - ((piecesText before).length + 1)

/-- The word stands in a string of the text, in what so many characters show of it. -/
def InString (pieces : List Piece) (n : Nat) (word : List Char) : Prop :=
  exists before piece after s, pieces = before ++ piece :: after ∧ piece.string? = some s ∧
    word <:+: (escapedText s).take (room n before)

theorem inString_cons {piece : Piece} {pieces : List Piece} {n : Nat} {word : List Char}
    (h : InString pieces (n - piece.text.length) word) : InString (piece :: pieces) n word := by
  rcases h with ⟨before, found, after, s, hpieces, hfound, hword⟩
  refine ⟨piece :: before, found, after, s, by rw [hpieces]; rfl, hfound, ?_⟩
  have hroom : room n (piece :: before) = room (n - piece.text.length) before := by
    rw [room, room, piecesText, List.flatMap_cons, List.length_append, piecesText]
    omega
  rw [hroom]
  exact hword

theorem inString_of_infix {word : List Char} (hword : IsWord word) {pieces : List Piece}
    (hpieces : Marked pieces) {front : List Char} (hfront : IsMark front) {n : Nat}
    (hin : word <:+: front ++ (piecesText pieces).take n) : InString pieces n word := by
  induction pieces generalizing front n with
  | nil =>
      rw [piecesText, List.flatMap_nil, List.take_nil, List.append_nil] at hin
      exact absurd hin (hword.not_infix hfront)
  | cons piece pieces ih =>
      rw [piecesText, List.flatMap_cons, List.take_append, ← piecesText] at hin
      cases hpiece : piece.string? with
      | none =>
          cases piece with
          | name s => cases hpiece
          | value s => cases hpiece
          | mark text =>
              have htext : IsMark text.toList := hpieces text List.mem_cons_self
              have htake : IsMark (text.toList.take n) :=
                fun c hc => htext c (List.mem_of_mem_take hc)
              rw [← List.append_assoc] at hin
              exact inString_cons (ih hpieces.tail (isMark_append hfront htake) hin)
      | some s =>
          have htext := Piece.text_of_string? hpiece
          have hrest : forall rest, word <:+: rest ->
              rest = (piecesText pieces).take (n - piece.text.length) ->
                InString (piece :: pieces) n word := by
            intro rest hrest hsame
            rw [hsame] at hrest
            exact inString_cons (ih hpieces.tail isMark_nil hrest)
          generalize hbehind : (piecesText pieces).take (n - piece.text.length) = behind
            at hin hrest
          rw [htext] at hin
          cases n with
          | zero =>
              rw [Nat.zero_sub, List.take_zero] at hbehind
              rw [← hbehind, List.take_zero, List.append_nil, List.append_nil] at hin
              exact absurd hin (hword.not_infix hfront)
          | succ k =>
              rw [List.cons_append, List.take_succ_cons, List.cons_append] at hin
              rcases infix_of_notMem hword.no_quote hin with hin | hin
              · exact absurd hin (hword.not_infix hfront)
              · have hhere : word <:+: (escapedText s).take k ->
                    InString (piece :: pieces) (k + 1) word :=
                  fun h => ⟨[], piece, pieces, s, rfl, hpiece, h⟩
                rw [List.take_append, List.append_assoc] at hin
                cases hquote : k - (escapedText s).length with
                | zero =>
                    have hnone : behind = [] := by
                      rw [← hbehind, htext, List.length_append, List.length_cons,
                        List.length_singleton]
                      rw [show k + 1 - ((escapedText s).length + 1 + 1) = 0 by omega]
                      exact List.take_zero
                    rw [hquote, hnone, List.take_zero, List.append_nil, List.append_nil] at hin
                    exact hhere hin
                | succ j =>
                    rw [hquote, List.take_succ_cons, List.take_nil] at hin
                    rcases infix_of_notMem hword.no_quote hin with hin | hin
                    · exact hhere hin
                    · exact hrest behind hin rfl

theorem infix_of_inString {word : List Char} (hne : word ≠ []) {pieces : List Piece} {n : Nat}
    (h : InString pieces n word) : word <:+: (piecesText pieces).take n := by
  rcases h with ⟨before, piece, after, s, hpieces, hpiece, hin⟩
  have htext : piecesText pieces =
      piecesText before ++ '"' :: (escapedText s ++ '"' :: piecesText after) := by
    rw [hpieces, piecesText, List.flatMap_append, List.flatMap_cons,
      Piece.text_of_string? hpiece]
    simp only [piecesText, List.append_assoc, List.cons_append, List.nil_append]
  cases hroom : n - (piecesText before).length with
  | zero =>
      rw [room, show n - ((piecesText before).length + 1) = 0 by omega, List.take_zero] at hin
      exact absurd (List.infix_nil.mp hin) hne
  | succ k =>
      rw [room, show n - ((piecesText before).length + 1) = k by omega] at hin
      rw [htext, List.take_append, hroom, List.take_succ_cons, List.take_append]
      apply hin.trans
      refine ⟨(piecesText before).take n ++ ['"'],
        ('"' :: piecesText after).take (k - (escapedText s).length), ?_⟩
      simp only [List.append_assoc, List.cons_append, List.nil_append]

/-- The first characters of the text hold the word exactly when one of its strings does. -/
theorem infix_take_iff {word : List Char} (hword : IsWord word) {pieces : List Piece}
    (hpieces : Marked pieces) (n : Nat) :
    word <:+: (piecesText pieces).take n <-> InString pieces n word := by
  constructor
  · intro hin
    exact inString_of_infix hword hpieces isMark_nil hin
  · intro h
    apply infix_of_inString _ h
    intro hnil
    rcases hword.not_mark with ⟨c, hc, _⟩
    rw [hnil] at hc
    cases hc

/-- A string of the value stands in the first characters of the text, quotes and all. -/
def Within (pieces : List Piece) (n : Nat) (s : String) : Prop :=
  exists before after, pieces = before ++ .value s :: after ∧
    (piecesText before).length + (escapedText s).length + 2 ≤ n

/-!
## Characters
-/

theorem escaped_of_plain {c : Char} (hlow : 0x20 ≤ c.toNat) (hhigh : c.toNat ≤ 0x7e)
    (hquote : c ≠ '"') (hslash : c ≠ '\\') : escaped c = [c] := by
  have hwritten : forall escape, escape ∈ writtenEscapes ->
      escape.2 = '"' ∨ escape.2 = '\\' ∨ escape.2.toNat < 0x20 :=
    List.forall_iff_forall_mem.mp (by decide)
  have hnone : (writtenEscapes.find? fun escape => escape.2 = c) = none := by
    rw [List.find?_eq_none]
    intro escape hescape hsame
    have hc : escape.2 = c := of_decide_eq_true hsame
    rcases hwritten escape hescape with h | h | h
    · exact hquote (hc.symm.trans h)
    · exact hslash (hc.symm.trans h)
    · rw [hc] at h
      omega
  rw [escaped, hnone]
  exact if_pos ⟨hlow, hhigh⟩

theorem ascii_unicodeEscape (n : Nat) {c : Char} (hc : c ∈ unicodeEscape n) : c.toNat < 128 := by
  have hdigit : forall d, d < 16 -> (Nat.digitChar d).toNat < 128 := by decide
  rcases List.mem_cons.mp hc with hc | hc
  · rw [hc]
    decide
  · rcases List.mem_cons.mp hc with hc | hc
    · rw [hc]
      decide
    · rcases List.mem_map.mp hc with ⟨d, hd, hchar⟩
      rw [← hchar]
      apply hdigit
      simp only [List.mem_cons, List.not_mem_nil, or_false] at hd
      omega

theorem ascii_escaped {c d : Char} (hd : d ∈ escaped c) : d.toNat < 128 := by
  have hwritten : forall escape, escape ∈ writtenEscapes -> escape.1.toNat < 128 :=
    List.forall_iff_forall_mem.mp (by decide)
  unfold escaped at hd
  split at hd
  · next escape hfind =>
      rcases List.mem_cons.mp hd with hd | hd
      · rw [hd]
        decide
      · rw [List.mem_singleton.mp hd]
        exact hwritten escape (List.mem_of_find?_eq_some hfind)
  · split at hd
    · next hprintable =>
        rw [List.mem_singleton.mp hd]
        omega
    · split at hd
      · exact ascii_unicodeEscape _ hd
      · rcases List.mem_append.mp hd with hd | hd
        · exact ascii_unicodeEscape _ hd
        · exact ascii_unicodeEscape _ hd

theorem ascii_escapedText {s : String} {c : Char} (hc : c ∈ escapedText s) : c.toNat < 128 := by
  rcases List.mem_flatMap.mp hc with ⟨_, _, hescaped⟩
  exact ascii_escaped hescaped

theorem ascii_mark {text : List Char} (h : IsMark text) {c : Char} (hc : c ∈ text) :
    c.toNat < 128 := by
  have hmarks : forall d, d ∈ markChars -> d.toNat < 128 :=
    List.forall_iff_forall_mem.mp (by decide)
  exact hmarks c (h c hc)

theorem ascii_piecesText {pieces : List Piece} (hpieces : Marked pieces) {c : Char}
    (hc : c ∈ piecesText pieces) : c.toNat < 128 := by
  rcases List.mem_flatMap.mp hc with ⟨piece, hpiece, hc⟩
  cases hstring : piece.string? with
  | none =>
      cases piece with
      | mark text => exact ascii_mark (hpieces text hpiece) hc
      | name s => cases hstring
      | value s => cases hstring
  | some s =>
      rw [Piece.text_of_string? hstring] at hc
      rcases List.mem_append.mp hc with hc | hc
      · rcases List.mem_cons.mp hc with hc | hc
        · rw [hc]
          decide
        · exact ascii_escapedText hc
      · rw [List.mem_singleton.mp hc]
        decide

end Json
end Foundation
end YasinMcp
