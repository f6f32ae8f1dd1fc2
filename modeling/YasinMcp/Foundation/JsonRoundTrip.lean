import YasinMcp.Foundation.DecimalText
import YasinMcp.Foundation.JsonParts

/-!
# Reading back what was written

A text that the encoder wrote is decoded to the value it was written from, at every
depth.  A tuple comes back as a list, and of names written more than once the last one
counts.  The encoder with white space after its separators and the one without are
both covered.
-/

namespace YasinMcp
namespace Foundation
namespace Json

/-!
## Scalars
-/

theorem part_string (depth : Nat) (s : String) :
    Part (scanOnce depth) ('"' :: escapedText s ++ ['"']) (.str s) where
  front := ⟨'"', _, rfl, by decide⟩
  reads := by
    intro rest _
    rw [List.cons_append, List.cons_append, List.append_assoc, List.singleton_append,
      scanOnce_scalar depth (by decide) (by decide), if_pos rfl, scanString_escapedText]
    rfl

theorem part_of_atom {depth : Nat} {text : List Char} {v : Value}
    (hfront : exists c cs, text = c :: cs ∧ opens c = true ∧ c ≠ '"' ∧ c ≠ '[' ∧ c ≠ '\x7b')
    (hreads : Reads scanAtom Delimited text v) : Part (scanOnce depth) text v := by
  rcases hfront with ⟨c, cs, htext, hopens, hquote, harray, hobject⟩
  refine ⟨⟨c, cs, htext, hopens⟩, ?_⟩
  intro rest hrest
  have hread := hreads rest hrest
  rw [htext, List.cons_append] at hread ⊢
  rw [scanOnce_scalar depth hobject harray, if_neg hquote, hread]

theorem reads_atom {name : String} {v : Value} (h : (name, v) ∈ atoms) :
    Reads scanAtom Delimited name.toList v := by
  intro rest _
  rw [scanAtom, find?_atom_of_mem h rest]
  simp only [drop_name]

theorem front_of_atom {atom : String × Value} (h : atom ∈ atoms) : exists c cs,
    atom.1.toList = c :: cs ∧ opens c = true ∧ c ≠ '"' ∧ c ≠ '[' ∧ c ≠ '\x7b' := by
  unfold atoms at h
  simp only [List.mem_cons, List.not_mem_nil, or_false] at h
  rcases h with h | h | h | h | h | h <;> subst h <;> exact ⟨_, _, rfl, by decide⟩

theorem part_atom (depth : Nat) {name : String} {v : Value} (h : (name, v) ∈ atoms) :
    Part (scanOnce depth) name.toList v :=
  part_of_atom (front_of_atom h) (reads_atom h)

theorem head_toDigits_ne_zero {n : Nat} (h : 0 < n) :
    (Nat.toDigits 10 n).head? ≠ some '0' := by
  induction n using Nat.strongRecOn with
  | _ n ih =>
      cases Nat.decLt n 10 with
      | isTrue hlt =>
          rw [Nat.toDigits_of_lt_base hlt]
          interval_cases n <;> decide
      | isFalse hle =>
          rw [Nat.toDigits_of_base_le (by decide) (Nat.not_lt.mp hle), List.head?_append]
          have hrest := ih (n / 10) (by omega) (by omega)
          rcases List.exists_cons_of_ne_nil (Nat.toDigits_ne_nil (n := n / 10) (b := 10)) with
            ⟨c, cs, hcons⟩
          rw [hcons] at hrest ⊢
          exact hrest

theorem integerPart?_repr (n : Nat) {rest : List Char} (hrest : NoDigit rest) :
    integerPart? (n.repr.toList ++ rest) = some (n.repr.toList, rest) := by
  cases n with
  | zero => rfl
  | succ n =>
      have hspan := span_digits
        (fun c (hc : c ∈ (n + 1).repr.toList) => isDigit_of_mem_repr_toList hc) hrest
      have hhead := head_toDigits_ne_zero (Nat.succ_pos n)
      rw [← Nat.toList_repr] at hhead
      rcases List.exists_cons_of_ne_nil (repr_toList_ne_nil (n + 1)) with ⟨c, cs, hcons⟩
      have hc : isDigit c = true :=
        isDigit_of_mem_repr_toList (n := n + 1) (by rw [hcons]; exact List.mem_cons_self)
      rw [hcons] at hspan hhead ⊢
      rw [List.cons_append] at hspan ⊢
      rw [integerPart?]
      · rw [if_pos hc, hspan.1, hspan.2]
      · intro hzero
        exact hhead (congrArg some hzero)

theorem scanNumber_repr {n : Nat} (negative : Bool) (hshort : n < Nat.pow 10 maxIntDigits) :
    Reads (scanNumber negative) Delimited n.repr.toList
      (.int (if negative then -(n : Int) else n)) := by
  intro rest hrest
  have hpoint : fractionPart rest = ([], rest) := by
    unfold fractionPart
    split
    · exact absurd rfl (hrest '.' rfl).2.1
    · rfl
  have hlength : ¬ maxIntDigits < n.repr.toList.length :=
    Nat.not_lt.mpr ((length_repr_le_iff (by decide)).mpr hshort)
  rw [scanNumber_of_no_exponent (integerPart?_repr n hrest.noDigit) hpoint
    (exponentPart?_of_delimited hrest), numberValue, List.isEmpty_nil, if_pos rfl,
    if_neg hlength, digitsValue_repr]
  rfl

theorem opens_of_isDigit {d : Char} (h : isDigit d = true) :
    opens d = true ∧ d ≠ '"' ∧ d ≠ '[' ∧ d ≠ '\x7b' ∧ d ≠ '-' := by
  have hrange : 48 ≤ d.toNat ∧ d.toNat ≤ 57 := by
    rw [isDigit, Bool.and_eq_true, decide_eq_true_eq, decide_eq_true_eq] at h
    exact h
  have hd : d = Char.ofNat d.toNat := (Char.ofNat_toNat d).symm
  rcases hrange with ⟨hlow, hhigh⟩
  generalize d.toNat = n at hd hlow hhigh
  subst hd
  interval_cases n <;> decide

theorem part_of_scanAtom {depth : Nat} {text : List Char} {v : Value}
    (h : scanAtom text = .ok (v, [])) : Part (scanOnce depth) text v := by
  rcases scanAtom_local _ _ _ h with ⟨used, _, hused, hreads⟩
  rw [List.append_nil] at hused
  subst hused
  refine part_of_atom ?_ hreads
  rw [scanAtom] at h
  split at h
  · rename_i atom _ hfind
    have hleading := List.find?_some hfind
    rw [List.isPrefixOf_iff_prefix] at hleading
    rcases hleading with ⟨tail, htail⟩
    rcases front_of_atom (List.mem_of_find?_eq_some hfind) with ⟨c, cs, hname, hopens⟩
    exact ⟨c, cs ++ tail, by rw [← htail, hname]; rfl, hopens⟩
  · split at h
    · rename_i hsign
      rcases List.head?_eq_some_iff.mp hsign with ⟨cs, hcs⟩
      exact ⟨'-', cs, hcs, by decide⟩
    · rcases scanNumber_local h with ⟨used, hcs, ⟨d, hhead, hd⟩, _⟩
      rcases opens_of_isDigit hd with ⟨hopens, hquote, harray, hobject, _⟩
      rw [List.append_nil] at hcs
      rcases List.head?_eq_some_iff.mp hhead with ⟨cs, hd⟩
      exact ⟨d, cs, by rw [hcs, hd], hopens, hquote, harray, hobject⟩

theorem exists_digit (n : Nat) :
    exists d ds, n.repr.toList = d :: ds ∧ isDigit d = true := by
  rcases List.exists_cons_of_ne_nil (repr_toList_ne_nil n) with ⟨d, ds, hcons⟩
  exact ⟨d, ds, hcons, isDigit_of_mem_repr_toList (by rw [hcons]; exact List.mem_cons_self)⟩

theorem reads_unsigned {n : Nat} (h : n < Nat.pow 10 maxIntDigits) :
    Reads scanAtom Delimited n.repr.toList (.int n) := by
  intro rest hrest
  have hread := scanNumber_repr false h rest hrest
  rcases exists_digit n with ⟨d, ds, hcons, hd⟩
  rw [hcons, List.cons_append] at hread ⊢
  have hsign : ¬ (d :: (ds ++ rest)).head? = some '-' := by
    intro hminus
    cases hminus
    cases hd
  rw [scanAtom, (find?_atom_of_digit hd _).1]
  simp only
  rw [if_neg hsign]
  exact hread

theorem reads_signed {n : Nat} (h : n < Nat.pow 10 maxIntDigits) :
    Reads scanAtom Delimited ('-' :: n.repr.toList) (.int (-n)) := by
  intro rest hrest
  have hread := scanNumber_repr true h rest hrest
  rcases exists_digit n with ⟨d, ds, hcons, hd⟩
  rw [hcons, List.cons_append] at hread
  rw [hcons, List.cons_append, List.cons_append, scanAtom, (find?_atom_of_digit hd _).2]
  exact hread

theorem part_int (depth : Nat) {n : Int} (h : ¬ BeyondDigits n) :
    Part (scanOnce depth) (toString n).toList (.int n) := by
  have hshort : n.natAbs < Nat.pow 10 maxIntDigits := Nat.not_le.mp h
  cases n with
  | ofNat m =>
      rcases exists_digit m with ⟨d, ds, hcons, hd⟩
      rcases opens_of_isDigit hd with ⟨hopens, hquote, harray, hobject, _⟩
      exact part_of_atom ⟨d, ds, hcons, hopens, hquote, harray, hobject⟩ (reads_unsigned hshort)
  | negSucc m =>
      have htext : (toString (Int.negSucc m)).toList = '-' :: (m + 1).repr.toList :=
        String.toList_append
      rw [htext]
      exact part_of_atom ⟨'-', _, rfl, by decide⟩ (reads_signed hshort)

/-!
## Bracketed values
-/

section

variable {depth : Nat} {space : List Char}

theorem part_array (hspace : AllSpace space) (parts : List (List Char × Value))
    (h : forall part, part ∈ parts -> Part (scanOnce depth) part.1 part.2) :
    Part (scanOnce (depth + 1)) ('[' :: ((',' :: space).intercalate (parts.map Prod.fst) ++ [']']))
      (.list (parts.map Prod.snd)) where
  front := ⟨'[', _, rfl, by decide⟩
  reads := by
    intro rest _
    rw [List.cons_append, List.append_assoc, List.singleton_append, scanOnce_array_eq]
    exact scanBracket_parts (Or.inl rfl) hspace rfl parts h rest

def memberPart (space : List Char) (name : String) (text : List Char) : List Char :=
  '"' :: escapedText name ++ '"' :: ':' :: (space ++ text)

theorem part_member (hspace : AllSpace space) (name : String) {text : List Char} {v : Value}
    (h : Part (scanOnce depth) text v) :
    Part (scanMember (scanOnce depth)) (memberPart space name text) (Key.str name, v) where
  front := ⟨'"', _, rfl, by decide⟩
  reads := by
    intro rest hrest
    rw [memberPart, List.cons_append, List.cons_append, List.append_assoc, List.cons_append,
      List.cons_append, List.append_assoc, scanMember]
    simp only [scanString_escapedText, bind, Except.bind]
    rw [skipSpace_cons_mark (by decide)]
    simp only [if_true]
    rw [skipSpace_append hspace, h.skipSpace, h.reads rest hrest]

theorem part_object (hspace : AllSpace space) (parts : List (List Char × Key × Value))
    (h : forall part, part ∈ parts -> Part (scanMember (scanOnce depth)) part.1 part.2) :
    Part (scanOnce (depth + 1))
      ('\x7b' :: ((',' :: space).intercalate (parts.map Prod.fst) ++ ['\x7d']))
      (.dict (Dict.ofEntries (parts.map Prod.snd)).entries) where
  front := ⟨'\x7b', _, rfl, by decide⟩
  reads := by
    intro rest _
    rw [List.cons_append, List.append_assoc, List.singleton_append]
    exact (scanOnce_object_eq depth _).trans
      (scanBracket_parts (Or.inr rfl) hspace rfl parts h rest)

end

/-!
## Values
-/

mutual

def readBack : Value -> Value
  | .list items => .list (readBackItems items)
  | .tuple items => .list (readBackItems items)
  | .dict entries => .dict (Dict.ofEntries (readBackEntries entries)).entries
  | scalar => scalar

def readBackItems : List Value -> List Value
  | [] => []
  | v :: rest => readBack v :: readBackItems rest

def readBackEntries : List (Key × Value) -> List (Key × Value)
  | [] => []
  | (k, v) :: rest => (.str k.text, readBack v) :: readBackEntries rest

end

mutual

def nesting : Value -> Nat
  | .list items => nestingItems items + 1
  | .tuple items => nestingItems items + 1
  | .dict entries => nestingEntries entries + 1
  | _ => 0

def nestingItems : List Value -> Nat
  | [] => 0
  | v :: rest => max (nesting v) (nestingItems rest)

def nestingEntries : List (Key × Value) -> Nat
  | [] => 0
  | (_, v) :: rest => max (nesting v) (nestingEntries rest)

end

section

variable (py : Builtins)

/-- The decoder reads the text of the float as the float. -/
def FloatReads (x : PyFloat) : Prop :=
  scanAtom (floatText py x).toList = .ok (.float x, [])

instance (x : PyFloat) : Decidable (FloatReads py x) :=
  inferInstanceAs (Decidable (_ = _))

mutual

def scalars : Value -> List Value
  | .list items => scalarsItems items
  | .tuple items => scalarsItems items
  | .dict entries => scalarsEntries entries
  | scalar => [scalar]

def scalarsItems : List Value -> List Value
  | [] => []
  | v :: rest => scalars v ++ scalarsItems rest

def scalarsEntries : List (Key × Value) -> List Value
  | [] => []
  | (_, v) :: rest => scalars v ++ scalarsEntries rest

end

def isLong : Value -> Bool
  | .int n => BeyondDigits n
  | _ => false

theorem isLong_int (n : Int) : isLong (.int n) = false <-> ¬ BeyondDigits n := by
  rw [isLong, decide_eq_false_iff_not]

/-- The integers have few enough digits, and the floats are read as they are. -/
def Writable (v : Value) : Prop :=
  forall scalar, scalar ∈ scalars v ->
    isLong scalar = false ∧ forall x, scalar = .float x -> FloatReads py x

theorem Writable.mono {py : Builtins} {v w : Value} (h : Writable py v)
    (hscalars : forall scalar, scalar ∈ scalars w -> scalar ∈ scalars v) : Writable py w :=
  fun scalar hscalar => h scalar (hscalars scalar hscalar)

variable {py}

theorem readBackItems_eq_map (items : List Value) :
    readBackItems items = items.map readBack := by
  induction items with
  | nil => rfl
  | cons v rest ih => rw [readBackItems, ih, List.map_cons]

theorem readBackEntries_eq_map (entries : List (Key × Value)) :
    readBackEntries entries =
      entries.map fun entry => (Key.str entry.1.text, readBack entry.2) := by
  induction entries with
  | nil => rfl
  | cons entry rest ih => rw [readBackEntries, ih, List.map_cons]

theorem piecesText_cons (piece : Piece) (rest : List Piece) :
    piecesText (piece :: rest) = piece.text ++ piecesText rest :=
  List.flatMap_cons

theorem piecesText_append (front back : List Piece) :
    piecesText (front ++ back) = piecesText front ++ piecesText back :=
  List.flatMap_append

theorem mark_text (first : Bool) :
    (Piece.mark (if first then "" else ", ")).text = if first then [] else [',', ' '] := by
  cases first <;> rfl

theorem piecesText_itemPieces (first : Bool) (items : List Value) :
    piecesText (itemPieces py first items) =
      (if first ∨ items = [] then [] else [',', ' ']) ++
        [',', ' '].intercalate (items.map fun v => piecesText (pieces py v)) := by
  induction items generalizing first with
  | nil => cases first <;> rfl
  | cons v rest ih =>
      rw [itemPieces, piecesText_cons, piecesText_append, ih, mark_text, List.map_cons]
      cases rest with
      | nil => cases first <;> simp
      | cons next rest =>
          rw [List.map_cons, List.intercalate_cons_cons]
          cases first <;> simp

theorem piecesText_entryPieces (first : Bool) (entries : List (Key × Value)) :
    piecesText (entryPieces py first entries) =
      (if first ∨ entries = [] then [] else [',', ' ']) ++
        [',', ' '].intercalate (entries.map fun entry =>
          memberPart [' '] entry.1.text (piecesText (pieces py entry.2))) := by
  induction entries generalizing first with
  | nil => cases first <;> rfl
  | cons entry rest ih =>
      have hcolon : (Piece.mark ": ").text = [':', ' '] := rfl
      have hname : forall s, (Piece.name s).text = '"' :: escapedText s ++ ['"'] := fun _ => rfl
      rw [entryPieces, piecesText_cons, piecesText_cons, piecesText_cons, piecesText_append, ih,
        mark_text, hcolon, hname, List.map_cons]
      cases rest with
      | nil => cases first <;> simp [memberPart]
      | cons next rest =>
          rw [List.map_cons, List.intercalate_cons_cons]
          cases first <;> simp [memberPart]

theorem allSpace_blank : AllSpace [' '] := by
  intro c hc
  rw [List.mem_singleton] at hc
  rw [hc]
  rfl

theorem part_bracketed {depth : Nat} {items : List Value}
    (h : forall v, v ∈ items -> Part (scanOnce depth) (piecesText (pieces py v)) (readBack v)) :
    Part (scanOnce (depth + 1))
      (piecesText (.mark "[" :: (itemPieces py true items ++ [.mark "]"])))
      (.list (readBackItems items)) := by
  have hparts := part_array allSpace_blank
    (items.map fun v => (piecesText (pieces py v), readBack v)) (by
      intro part hpart
      rcases List.mem_map.mp hpart with ⟨v, hv, heq⟩
      rw [← heq]
      exact h v hv)
  have hopen : (Piece.mark "[").text = ['['] := rfl
  have hclose : piecesText [.mark "]"] = [']'] := rfl
  rw [List.map_map, List.map_map] at hparts
  rw [piecesText_cons, piecesText_append, piecesText_itemPieces, hopen, hclose,
    readBackItems_eq_map, if_pos (Or.inl rfl)]
  exact hparts

theorem part_single {depth : Nat} (piece : Piece) {v : Value}
    (h : Part (scanOnce depth) piece.text v) : Part (scanOnce depth) (piecesText [piece]) v := by
  rw [piecesText, List.flatMap_cons, List.flatMap_nil, List.append_nil]
  exact h

mutual

/-- The text of a value is read as the value, inside of any brackets it fits in. -/
theorem part_pieces : forall (v : Value) {depth : Nat}, Writable py v -> nesting v ≤ depth ->
    Part (scanOnce depth) (piecesText (pieces py v)) (readBack v)
  | .none, depth, _, _ => part_single (.mark _) (part_atom depth (by decide))
  | .bool false, depth, _, _ => part_single (.mark _) (part_atom depth (by decide))
  | .bool true, depth, _, _ => part_single (.mark _) (part_atom depth (by decide))
  | .int n, depth, h, _ =>
      part_single (.mark _)
        (part_int depth ((isLong_int n).mp (h (.int n) List.mem_cons_self).1))
  | .float x, _, h, _ =>
      part_single (.mark _) (part_of_scanAtom ((h (.float x) List.mem_cons_self).2 x rfl))
  | .str s, depth, _, _ => part_single (.value s) (part_string depth s)
  | .list items, 0, _, hdeep => absurd hdeep (Nat.not_succ_le_zero _)
  | .list items, depth + 1, h, hdeep => by
      rw [pieces, readBack]
      exact part_bracketed (part_items items h (Nat.le_of_succ_le_succ hdeep))
  | .tuple items, 0, _, hdeep => absurd hdeep (Nat.not_succ_le_zero _)
  | .tuple items, depth + 1, h, hdeep => by
      rw [pieces, readBack]
      exact part_bracketed (part_items items h (Nat.le_of_succ_le_succ hdeep))
  | .dict entries, 0, _, hdeep => absurd hdeep (Nat.not_succ_le_zero _)
  | .dict entries, depth + 1, h, hdeep => by
      have hentries := part_entries entries h (Nat.le_of_succ_le_succ hdeep)
      have hparts := part_object allSpace_blank
        (entries.map fun entry =>
          (memberPart [' '] entry.1.text (piecesText (pieces py entry.2)),
            Key.str entry.1.text, readBack entry.2)) (by
          intro part hpart
          rcases List.mem_map.mp hpart with ⟨entry, hentry, heq⟩
          rw [← heq]
          exact part_member allSpace_blank _ (hentries entry hentry))
      have hopen : (Piece.mark "\x7b").text = ['\x7b'] := rfl
      have hclose : piecesText [.mark "\x7d"] = ['\x7d'] := rfl
      rw [List.map_map, List.map_map] at hparts
      rw [pieces, readBack, piecesText_cons, piecesText_append, piecesText_entryPieces, hopen,
        hclose, readBackEntries_eq_map, if_pos (Or.inl rfl)]
      exact hparts

theorem part_items : forall (items : List Value) {depth : Nat}, Writable py (.list items) ->
    nestingItems items ≤ depth -> forall v, v ∈ items ->
      Part (scanOnce depth) (piecesText (pieces py v)) (readBack v)
  | [], _, _, _, v, hv => absurd hv List.not_mem_nil
  | w :: rest, depth, h, hdeep, v, hv => by
      rw [nestingItems, max_le_iff] at hdeep
      rcases List.mem_cons.mp hv with heq | hrest
      · rw [heq]
        exact part_pieces w (h.mono fun s hs => List.mem_append_left _ hs) hdeep.1
      · exact part_items rest (h.mono fun s hs => List.mem_append_right _ hs) hdeep.2 v hrest

theorem part_entries : forall (entries : List (Key × Value)) {depth : Nat},
    Writable py (.dict entries) -> nestingEntries entries ≤ depth ->
      forall entry, entry ∈ entries ->
        Part (scanOnce depth) (piecesText (pieces py entry.2)) (readBack entry.2)
  | [], _, _, _, entry, hentry => absurd hentry List.not_mem_nil
  | (k, w) :: rest, depth, h, hdeep, entry, hentry => by
      rw [nestingEntries, max_le_iff] at hdeep
      rcases List.mem_cons.mp hentry with heq | hrest
      · rw [heq]
        exact part_pieces w (h.mono fun s hs => List.mem_append_left _ hs) hdeep.1
      · exact part_entries rest (h.mono fun s hs => List.mem_append_right _ hs) hdeep.2 entry
          hrest

end

/-- The text of a value is decoded to what is read back of it. -/
theorem loads_dumps {v : Value} {depth : Nat} (h : Writable py v) (hdeep : nesting v ≤ depth) :
    loads depth (dumps py v) = .ok (readBack v) := by
  apply loads_of_part
  rw [dumps, String.toList_ofList]
  exact part_pieces v h hdeep

end

/-!
## Scalars and sorted objects
-/

theorem part_encodeScalar {py : Builtins} {v : Value} {text : String}
    (h : encodeScalar? py v = some text) (hfloat : forall x, v = .float x -> FloatReads py x)
    (depth : Nat) : Part (scanOnce depth) text.toList v := by
  cases v with
  | none =>
      cases h
      exact part_atom depth (by decide)
  | bool b =>
      cases h
      cases b with
      | false => exact part_atom depth (by decide)
      | true => exact part_atom depth (by decide)
  | int n =>
      rw [encodeScalar?] at h
      split at h
      · cases h
      · rename_i hshort
        cases h
        exact part_int depth hshort
  | float x =>
      have htext : text = floatText py x := by
        cases x <;> exact (Option.some.inj h).symm
      rw [htext]
      exact part_of_scanAtom (hfloat x rfl)
  | str s =>
      cases h
      rw [encodeString, String.toList_ofList]
      exact part_string depth s
  | list items => cases h
  | tuple items => cases h
  | dict entries => cases h

def sortedMembers {a : Type} (members : List (String × a)) : List (String × a) :=
  members.insertionSort fun a b => a.1 ≤ b.1

theorem sortedMembers_map {a b : Type} (f : a -> b) (members : List (String × a)) :
    sortedMembers (members.map fun member => (member.1, f member.2)) =
      (sortedMembers members).map fun member => (member.1, f member.2) := by
  symm
  apply List.map_insertionSort
  intro x _ y _
  exact Iff.rfl

theorem sortedMembers_perm {a : Type} (members : List (String × a)) :
    (sortedMembers members).Perm members :=
  List.perm_insertionSort _ _

theorem sortedMembers_congr {a : Type} {xs ys : List (String × a)}
    (hnodup : (xs.map Prod.fst).Nodup) (h : xs.Perm ys) :
    sortedMembers xs = sortedMembers ys := by
  have hperm := ((sortedMembers_perm xs).trans h).trans (sortedMembers_perm ys).symm
  have hsorted : forall zs : List (String × a),
      (sortedMembers zs).Pairwise fun x y => x.1 ≤ y.1 :=
    fun zs => List.pairwise_insertionSort (fun x y => x.1 ≤ y.1) zs
  refine List.Perm.eq_of_pairwise ?_ (hsorted xs) (hsorted ys) hperm
  intro x y hx hy hle hge
  have hx := (sortedMembers_perm xs).mem_iff.mp hx
  have hy := h.mem_iff.mpr ((sortedMembers_perm ys).mem_iff.mp hy)
  exact List.inj_on_of_nodup_map hnodup hx hy (String.le_antisymm hle hge)

theorem part_encodeObject {depth : Nat} (members : List (String × String × Value))
    (h : forall member, member ∈ members -> Part (scanOnce depth) member.2.1.toList member.2.2) :
    Part (scanOnce (depth + 1))
      (encodeObject (members.map fun member => (member.1, member.2.1))).toList
      (.dict (Dict.ofEntries
        ((sortedMembers members).map fun member => (Key.str member.1, member.2.2))).entries) := by
  have hnone : AllSpace [] := fun c hc => absurd hc List.not_mem_nil
  have hparts := part_object hnone
    ((sortedMembers members).map fun member =>
      (memberPart [] member.1 member.2.1.toList, Key.str member.1, member.2.2)) (by
      intro part hpart
      rcases List.mem_map.mp hpart with ⟨member, hmember, heq⟩
      rw [← heq]
      exact part_member hnone _ (h member ((sortedMembers_perm members).mem_iff.mp hmember)))
  have htext : (encodeObject (members.map fun member => (member.1, member.2.1))).toList =
      '\x7b' :: ([','].intercalate ((sortedMembers members).map fun member =>
        memberPart [] member.1 member.2.1.toList) ++ ['\x7d']) := by
    have hsorted := sortedMembers_map Prod.fst members
    rw [sortedMembers] at hsorted
    rw [encodeObject, hsorted, String.toList_append, String.toList_append,
      String.toList_intercalate, List.map_map, List.map_map]
    have hmember : ((String.toList ∘ fun entry : String × String =>
        encodeString entry.1 ++ ":" ++ entry.2) ∘
          fun member : String × String × Value => (member.1, member.2.1)) =
        fun member => memberPart [] member.1 member.2.1.toList := by
      funext member
      simp [encodeString, memberPart, escapedText]
    rw [hmember]
    rfl
  rw [List.map_map, List.map_map] at hparts
  rw [htext]
  exact hparts

mutual

/-- The names of every object in the value are strings, and each is there once. -/
def Named : Value -> Prop
  | .list items => NamedItems items
  | .tuple items => NamedItems items
  | .dict entries => (entries.map Prod.fst).Nodup ∧ NamedEntries entries
  | _ => True

def NamedItems : List Value -> Prop
  | [] => True
  | v :: rest => Named v ∧ NamedItems rest

def NamedEntries : List (Key × Value) -> Prop
  | [] => True
  | (k, v) :: rest => k = .str k.text ∧ Named v ∧ NamedEntries rest

end

theorem namedEntries_append {xs ys : List (Key × Value)} (hxs : NamedEntries xs)
    (hys : NamedEntries ys) : NamedEntries (xs ++ ys) := by
  induction xs with
  | nil => exact hys
  | cons entry rest ih => exact ⟨hxs.1, hxs.2.1, ih hxs.2.2⟩

theorem scalarsEntries_append (xs ys : List (Key × Value)) :
    scalarsEntries (xs ++ ys) = scalarsEntries xs ++ scalarsEntries ys := by
  induction xs with
  | nil => rfl
  | cons entry rest ih =>
      rw [List.cons_append, scalarsEntries, scalarsEntries, ih, List.append_assoc]

theorem nestingEntries_append (xs ys : List (Key × Value)) :
    nestingEntries (xs ++ ys) = max (nestingEntries xs) (nestingEntries ys) := by
  induction xs with
  | nil => exact (Nat.zero_max _).symm
  | cons entry rest ih =>
      rw [List.cons_append, nestingEntries, nestingEntries, ih, Nat.max_assoc]

/-- Every float is written with one digit after its point. -/
def tenthsText : Value -> String
  | .float (.decimal negative digits _) =>
      (if negative then "-" else "") ++ (toString (digits / 10 : Int) ++ ("." ++
        toString (digits % 10 : Int)))
  | v => v.typeName

def tenthsBuiltins : Builtins :=
  { plainBuiltins with repr := tenthsText }

theorem plainFloats_tenths : PlainFloats tenthsBuiltins := by
  intro negative digits _
  show IsMark (String.toList ((if negative then "-" else "") ++ _))
  rw [String.toList_append, String.toList_append, String.toList_append]
  apply isMark_append
  · cases negative with
    | false => exact isMark_literal (by decide)
    | true => exact isMark_literal (by decide)
  · apply isMark_append (isMark_toString _)
    exact isMark_append (isMark_literal (by decide)) (isMark_toString _)

end Json
end Foundation
end YasinMcp
