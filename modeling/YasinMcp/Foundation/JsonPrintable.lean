import YasinMcp.Foundation.JsonPieces

/-!
# Printable JSON texts

What the encoder writes in ASCII is one line: every character of it is printable, as far
as the texts of floats are.
-/

namespace YasinMcp
namespace Foundation
namespace Json

/-- The characters of one line of ASCII. -/
def Printable (text : List Char) : Prop :=
  forall c, c ∈ text -> 0x20 ≤ c.toNat ∧ c.toNat ≤ 0x7e

theorem printable_append {front back : List Char} (hfront : Printable front)
    (hback : Printable back) : Printable (front ++ back) := by
  intro c hc
  rcases List.mem_append.mp hc with h | h
  · exact hfront c h
  · exact hback c h

theorem printable_intercalate {mark : List Char} {texts : List (List Char)}
    (hmark : Printable mark) (h : forall text, text ∈ texts -> Printable text) :
    Printable (mark.intercalate texts) := by
  induction texts with
  | nil =>
      intro c hc
      cases hc
  | cons text rest ih =>
      have hrest := ih fun other hother => h other (List.mem_cons_of_mem _ hother)
      cases rest with
      | nil =>
          rw [List.intercalate_singleton]
          exact h text List.mem_cons_self
      | cons other rest =>
          rw [List.intercalate_cons_cons]
          exact printable_append
            (printable_append (h text List.mem_cons_self) hmark) hrest

theorem printable_mark {text : List Char} (h : IsMark text) : Printable text := by
  intro c hc
  have hall : forall d, d ∈ markChars -> 0x20 ≤ d.toNat ∧ d.toNat ≤ 0x7e :=
    List.forall_iff_forall_mem.mp (by decide)
  exact hall c (h c hc)

theorem printable_unicodeEscape (n : Nat) : Printable (unicodeEscape n) := by
  have hdigit : forall d, d < 16 ->
      0x20 ≤ (Nat.digitChar d).toNat ∧ (Nat.digitChar d).toNat ≤ 0x7e := by
    intro d hd
    interval_cases d <;> decide
  intro c hc
  simp only [unicodeEscape, hex4, List.mem_cons, List.mem_map] at hc
  rcases hc with hc | hc | ⟨d, hd, hc⟩
  · rw [hc]
    decide
  · rw [hc]
    decide
  · rw [← hc]
    apply hdigit
    simp only [List.not_mem_nil, or_false] at hd
    omega

theorem printable_escaped (c : Char) : Printable (escaped c) := by
  rw [escaped]
  cases hfind : writtenEscapes.find? fun escape => escape.2 = c with
  | some escape =>
      have hall : forall escape, escape ∈ writtenEscapes ->
          0x20 ≤ escape.1.toNat ∧ escape.1.toNat ≤ 0x7e :=
        List.forall_iff_forall_mem.mp (by decide)
      intro d hd
      rcases List.mem_cons.mp hd with hd | hd
      · rw [hd]
        decide
      · rw [List.mem_singleton.mp hd]
        exact hall escape (List.mem_of_find?_eq_some hfind)
  | none =>
      simp only
      split
      · rename_i hprintable
        intro d hd
        rw [List.mem_singleton.mp hd]
        exact hprintable
      · split
        · exact printable_unicodeEscape _
        · exact printable_append (printable_unicodeEscape _) (printable_unicodeEscape _)

theorem printable_encodeString (s : String) : Printable (encodeString s).toList := by
  have hquote : Printable ['"'] := by
    intro c hc
    rw [List.mem_singleton.mp hc]
    decide
  rw [encodeString, String.toList_ofList, List.cons_append]
  apply printable_append hquote
  apply printable_append
  · intro c hc
    rcases List.mem_flatMap.mp hc with ⟨d, _, hd⟩
    exact printable_escaped d c hd
  · exact hquote

theorem printable_encodeScalar {py : Builtins} (hfloats : PlainFloats py) {v : Value}
    {text : String} (h : encodeScalar? py v = some text) : Printable text.toList := by
  cases v with
  | none =>
      cases h
      exact printable_mark (isMark_literal (by decide))
  | bool b =>
      cases h
      cases b with
      | false => exact printable_mark (isMark_literal (by decide))
      | true => exact printable_mark (isMark_literal (by decide))
  | int n =>
      rw [encodeScalar?] at h
      split at h
      · cases h
      · cases h
        exact printable_mark (isMark_toString n)
  | float x =>
      have htext : text = floatText py x := by
        cases x <;> exact (Option.some.inj h).symm
      rw [htext]
      exact printable_mark (isMark_floatText hfloats x)
  | str s =>
      cases h
      exact printable_encodeString s
  | list items => cases h
  | tuple items => cases h
  | dict entries => cases h

theorem printable_encodeObject {members : List (String × String)}
    (h : forall member, member ∈ members -> Printable member.2.toList) :
    Printable (encodeObject members).toList := by
  have hliteral : forall text : String, text ∈ ["\x7b", "\x7d", ",", ":"] ->
      Printable text.toList := by
    intro text htext
    have hall : forall other, other ∈ ["\x7b", "\x7d", ",", ":"] ->
        other.toList.Forall fun c => c ∈ markChars :=
      List.forall_iff_forall_mem.mp (by decide)
    exact printable_mark (isMark_literal (hall text htext))
  rw [encodeObject, String.toList_append, String.toList_append, String.toList_intercalate]
  apply printable_append
  · apply printable_append (hliteral _ (by decide))
    apply printable_intercalate (hliteral _ (by decide))
    intro text htext
    rcases List.mem_map.mp htext with ⟨joined, hjoined, heq⟩
    rcases List.mem_map.mp hjoined with ⟨member, hmember, hjoin⟩
    rw [← heq, ← hjoin, String.toList_append, String.toList_append]
    apply printable_append
    · exact printable_append (printable_encodeString _) (hliteral _ (by decide))
    · exact h member ((List.perm_insertionSort _ _).mem_iff.mp hmember)
  · exact hliteral _ (by decide)

theorem printable_piecesText {pieces : List Piece} (h : Marked pieces) :
    Printable (piecesText pieces) := by
  intro c hc
  rcases List.mem_flatMap.mp hc with ⟨piece, hpiece, hc⟩
  cases piece with
  | mark text => exact printable_mark (h text hpiece) c hc
  | name s =>
      have hstring := printable_encodeString s
      rw [encodeString, String.toList_ofList] at hstring
      exact hstring c hc
  | value s =>
      have hstring := printable_encodeString s
      rw [encodeString, String.toList_ofList] at hstring
      exact hstring c hc

theorem printable_dumps {py : Builtins} (hfloats : PlainFloats py) (v : Value) :
    Printable (dumps py v).toList := by
  rw [dumps, String.toList_ofList]
  exact printable_piecesText (marked_pieces hfloats v)

end Json
end Foundation
end YasinMcp
