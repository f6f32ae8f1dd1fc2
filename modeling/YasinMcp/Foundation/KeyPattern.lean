import YasinMcp.Foundation.Masking
import YasinMcp.Foundation.Occurrences

/-!
# Patterns of keys

A key in any case, a separator between blanks, and where a pattern asks for it a scheme
with blanks after it: the heads of the usual patterns for secrets in free text.  When no
key takes up a part of another, of the scheme or of the mask, what such a pattern reads
before a value is a head in the sense of masking.
-/

namespace YasinMcp
namespace Foundation

universe u

variable {symbol : Type u}

/--
The classes of symbols that patterns speak of.  A symbol is folded within its class;
separators and values are not blank, and no separator is in the mask.
-/
structure Alphabet (mask : Mask symbol) where
  fold : symbol -> symbol
  isBlank : symbol -> Bool
  isSeparator : symbol -> Bool
  isBlank_fold : forall c, isBlank (fold c) = isBlank c
  isSeparator_fold : forall c, isSeparator (fold c) = isSeparator c
  isBlank_of_isSeparator : forall c, isSeparator c = true -> isBlank c = false
  isBlank_of_isValue : forall c, mask.isValue c = true -> isBlank c = false
  isSeparator_of_mem_mask : forall c, c ∈ mask.text -> isSeparator c = false

structure KeyPattern (symbol : Type u) where
  keys : List (List symbol)
  scheme : Option (List symbol)

namespace Alphabet

variable {mask : Mask symbol} (alphabet : Alphabet mask)

/-!
## Reading
-/

section

variable [DecidableEq symbol]

/-- What follows a word in any case. -/
def afterWord? (word text : List symbol) : Option (List symbol) :=
  if (text.take word.length).map alphabet.fold = word then some (text.drop word.length)
  else none

def afterSeparator? : List symbol -> Option (List symbol)
  | [] => none
  | c :: text => if alphabet.isSeparator c then some text else none

/-- One or more blanks. -/
def afterBlanks? : List symbol -> Option (List symbol)
  | [] => none
  | c :: text => if alphabet.isBlank c then some (text.dropWhile alphabet.isBlank) else none

def afterScheme? : Option (List symbol) -> List symbol -> Option (List symbol)
  | none, text => some text
  | some scheme, text => do
      let text ← alphabet.afterWord? scheme text
      alphabet.afterBlanks? text

/-- The text from the value on. -/
def afterHead? (scheme : Option (List symbol)) (key text : List symbol) :
    Option (List symbol) := do
  let text ← alphabet.afterWord? key text
  let text ← alphabet.afterSeparator? (text.dropWhile alphabet.isBlank)
  let text ← alphabet.afterScheme? scheme (text.dropWhile alphabet.isBlank)
  if mask.run text = [] then none else some text

def head? (pattern : KeyPattern symbol) (text : List symbol) :
    Option (List symbol × List symbol) :=
  (pattern.keys.findSome? fun key => alphabet.afterHead? pattern.scheme key text).map
    fun rest => (text.take (text.length - rest.length), rest)

def sub (pattern : KeyPattern symbol) (text : List symbol) : List symbol :=
  replaceAll
    (fun text => (alphabet.head? pattern text).map fun found =>
      (found.1 ++ mask.text, mask.afterRun found.2)) text

end

/-!
## What is read
-/

def Blank (part : List symbol) : Prop :=
  forall c, c ∈ part -> alphabet.isBlank c = true

inductive IsScheme : Option (List symbol) -> List symbol -> Prop where
  | none : IsScheme none []
  | some {word gap : List symbol} (hgap : alphabet.Blank gap) (hne : gap ≠ []) :
      IsScheme (some (word.map alphabet.fold)) (word ++ gap)

inductive IsHead (pattern : KeyPattern symbol) : List symbol -> Prop where
  | intro {word gap gap' tail : List symbol} {separator : symbol}
      (hword : word.map alphabet.fold ∈ pattern.keys) (hgap : alphabet.Blank gap)
      (hseparator : alphabet.isSeparator separator = true) (hgap' : alphabet.Blank gap')
      (htail : alphabet.IsScheme pattern.scheme tail) :
      IsHead pattern (word ++ (gap ++ separator :: (gap' ++ tail)))

/-- The symbols between the words of a head. -/
def isBoundary (c : symbol) : Bool :=
  alphabet.isBlank c || alphabet.isSeparator c

/--
Words without a boundary and without the ends of the mask, no key in another place of a
word, and none in the mask.
-/
structure Clean (pattern : KeyPattern symbol) : Prop where
  key_ne_nil : forall key, key ∈ pattern.keys -> key ≠ []
  scheme_ne_nil : forall scheme, scheme ∈ pattern.scheme.toList -> scheme ≠ []
  no_boundary : forall word, word ∈ pattern.keys ++ pattern.scheme.toList ->
    forall c, c ∈ word -> alphabet.isBoundary c = false
  no_first : forall word, word ∈ pattern.keys ++ pattern.scheme.toList ->
    alphabet.fold mask.first ∉ word
  no_last : forall key, key ∈ pattern.keys ->
    alphabet.fold (mask.text.getLast (List.cons_ne_nil _ _)) ∉ key
  prefix_free : forall key, key ∈ pattern.keys -> forall other, other ∈ pattern.keys ->
    key <+: other -> key = other
  not_in_key : forall key, key ∈ pattern.keys -> forall other, other ∈ pattern.keys ->
    ¬ key <:+: other.tail
  not_in_scheme : forall key, key ∈ pattern.keys ->
    forall scheme, scheme ∈ pattern.scheme.toList -> ¬ key <:+: scheme
  not_in_mask : forall key, key ∈ pattern.keys -> ¬ key <:+: mask.text.map alphabet.fold

instance decidableClean [DecidableEq symbol] (pattern : KeyPattern symbol) :
    Decidable (alphabet.Clean pattern) :=
  decidable_of_iff
    ((forall key, key ∈ pattern.keys -> key ≠ []) ∧
      (forall scheme, scheme ∈ pattern.scheme.toList -> scheme ≠ []) ∧
      (forall word, word ∈ pattern.keys ++ pattern.scheme.toList ->
        forall c, c ∈ word -> alphabet.isBoundary c = false) ∧
      (forall word, word ∈ pattern.keys ++ pattern.scheme.toList ->
        alphabet.fold mask.first ∉ word) ∧
      (forall key, key ∈ pattern.keys ->
        alphabet.fold (mask.text.getLast (List.cons_ne_nil _ _)) ∉ key) ∧
      (forall key, key ∈ pattern.keys -> forall other, other ∈ pattern.keys ->
        key <+: other -> key = other) ∧
      (forall key, key ∈ pattern.keys -> forall other, other ∈ pattern.keys ->
        ¬ key <:+: other.tail) ∧
      (forall key, key ∈ pattern.keys ->
        forall scheme, scheme ∈ pattern.scheme.toList -> ¬ key <:+: scheme) ∧
      (forall key, key ∈ pattern.keys -> ¬ key <:+: mask.text.map alphabet.fold))
    ⟨fun ⟨hkey, hscheme, hboundary, hfirst, hlast, hfree, hinKey, hinScheme, hinMask⟩ =>
        ⟨hkey, hscheme, hboundary, hfirst, hlast, hfree, hinKey, hinScheme, hinMask⟩,
      fun h => ⟨h.key_ne_nil, h.scheme_ne_nil, h.no_boundary, h.no_first, h.no_last,
        h.prefix_free, h.not_in_key, h.not_in_scheme, h.not_in_mask⟩⟩

variable {alphabet}

theorem isBoundary_fold (c : symbol) :
    alphabet.isBoundary (alphabet.fold c) = alphabet.isBoundary c := by
  rw [isBoundary, isBoundary, alphabet.isBlank_fold, alphabet.isSeparator_fold]

theorem isBoundary_of_blank {c : symbol} (h : alphabet.isBlank c = true) :
    alphabet.isBoundary c = true := by
  rw [isBoundary, h, Bool.true_or]

theorem isBoundary_of_separator {c : symbol} (h : alphabet.isSeparator c = true) :
    alphabet.isBoundary c = true := by
  rw [isBoundary, h, Bool.or_true]

theorem isBoundary_of_mem_mask {c : symbol} (h : c ∈ mask.text) :
    alphabet.isBoundary c = false := by
  rw [isBoundary, alphabet.isSeparator_of_mem_mask c h,
    alphabet.isBlank_of_isValue c (mask.isValue_of_mem c h)]
  rfl

variable {pattern : KeyPattern symbol}

/-- No key begins the text: its first word, up to a boundary, does not begin with one. -/
def NoKey (alphabet : Alphabet mask) (pattern : KeyPattern symbol) (text : List symbol) : Prop :=
  exists word rest c, text = word ++ c :: rest ∧ alphabet.isBoundary c = true ∧
    forall key, key ∈ pattern.keys -> ¬ key <+: word.map alphabet.fold

/-!
## Heads
-/

theorem IsHead.parts {head : List symbol} (h : alphabet.IsHead pattern head) :
    exists word c between tail, head = word ++ (c :: between ++ tail) ∧
      word.map alphabet.fold ∈ pattern.keys ∧
      (forall d, d ∈ c :: between -> alphabet.isBoundary d = true) ∧
      alphabet.IsScheme pattern.scheme tail := by
  cases h with
  | @intro word gap gap' tail separator hword hgap hseparator hgap' htail =>
      have hbetween : forall d, d ∈ gap ++ separator :: gap' ->
          alphabet.isBoundary d = true := by
        intro d hd
        rcases List.mem_append.mp hd with hbefore | hd
        · exact isBoundary_of_blank (hgap d hbefore)
        · rcases List.mem_cons.mp hd with hd | hafter
          · rw [hd]
            exact isBoundary_of_separator hseparator
          · exact isBoundary_of_blank (hgap' d hafter)
      rcases List.exists_cons_of_ne_nil (List.append_ne_nil_of_right_ne_nil gap
        (List.cons_ne_nil separator gap')) with ⟨c, between, hcons⟩
      rw [hcons] at hbetween
      refine ⟨word, c, between, tail, ?_, hword, hbetween, htail⟩
      rw [← hcons, List.append_assoc, List.cons_append]

theorem IsHead.of_key {word : List symbol} {separator : symbol} (hscheme : pattern.scheme = none)
    (hword : word.map alphabet.fold ∈ pattern.keys)
    (hseparator : alphabet.isSeparator separator = true) :
    alphabet.IsHead pattern (word ++ [separator]) := by
  have hblank : alphabet.Blank [] := by
    intro c hc
    cases hc
  have htail : alphabet.IsScheme pattern.scheme [] := by
    rw [hscheme]
    exact IsScheme.none
  exact IsHead.intro hword hblank hseparator hblank htail

section

variable (hclean : alphabet.Clean pattern)

include hclean

theorem notMem_of_boundary {word : List symbol} (hword : word.map alphabet.fold ∈ pattern.keys)
    {c : symbol} (hc : alphabet.isBoundary c = true) : c ∉ word := by
  intro hmem
  have hfold := hclean.no_boundary _ (List.mem_append_left _ hword) _
    (List.mem_map_of_mem hmem)
  rw [isBoundary_fold, hc] at hfold
  cases hfold

theorem NoKey.ne_head {text : List symbol} (h : alphabet.NoKey pattern text)
    {rest head rest' : List symbol} (hhead : alphabet.IsHead pattern head) :
    text ++ rest ≠ head ++ rest' := by
  intro heq
  rcases h with ⟨front, back, c, htext, hc, hnone⟩
  rcases IsHead.parts hhead with ⟨word, d, between, tail, hwhole, hword, _, _⟩
  rw [htext, hwhole, List.append_assoc, List.append_assoc, List.cons_append] at heq
  have hstart := prefix_of_notMem (notMem_of_boundary hclean hword hc) heq
  exact hnone _ hword (hstart.map alphabet.fold)

theorem NoKey.boundary {c : symbol} {rest : List symbol} (hc : alphabet.isBoundary c = true) :
    alphabet.NoKey pattern (c :: rest) := by
  refine ⟨[], rest, c, rfl, hc, ?_⟩
  intro key hkey hprefix
  exact hclean.key_ne_nil key hkey (List.prefix_nil.mp hprefix)

theorem IsScheme.noKey {tail : List symbol} (h : alphabet.IsScheme pattern.scheme tail)
    (front : List symbol) {back : List symbol} (hsplit : tail = front ++ back)
    (hback : back ≠ []) : alphabet.NoKey pattern back := by
  generalize hscheme : pattern.scheme = scheme at h
  cases h with
  | none => exact absurd (List.append_eq_nil_iff.mp hsplit.symm).2 hback
  | @some word gap hgap hne =>
      rcases List.append_eq_append_iff.mp hsplit with ⟨more, _, hmore⟩ | ⟨part, hpart, hback'⟩
      · cases back with
        | nil => exact absurd rfl hback
        | cons c back =>
            apply NoKey.boundary hclean
            apply isBoundary_of_blank
            apply hgap
            rw [hmore]
            exact List.mem_append_right more List.mem_cons_self
      · cases gap with
        | nil => exact absurd rfl hne
        | cons c gap =>
            refine ⟨part, gap, c, hback', isBoundary_of_blank (hgap c List.mem_cons_self), ?_⟩
            intro key hkey hprefix
            apply hclean.not_in_scheme key hkey (word.map alphabet.fold)
            · rw [hscheme]
              exact List.mem_singleton_self _
            · rw [hpart, List.map_append]
              exact hprefix.isInfix.trans (List.suffix_append _ _).isInfix

theorem IsHead.noKey {front back : List symbol} (h : alphabet.IsHead pattern (front ++ back))
    (hfront : front ≠ []) (hback : back ≠ []) : alphabet.NoKey pattern back := by
  rcases IsHead.parts h with ⟨word, c, between, tail, hsplit, hword, hbetween, htail⟩
  rcases List.append_eq_append_iff.mp hsplit with ⟨part, hpart, hback'⟩ | ⟨more, _, hmore⟩
  · -- Within the word: the key would stand in the rest of another.
    cases front with
    | nil => exact absurd rfl hfront
    | cons d front =>
        refine ⟨part, between ++ tail, c, hback', hbetween c List.mem_cons_self, ?_⟩
        intro key hkey hprefix
        apply hclean.not_in_key key hkey _ hword
        rw [hpart, List.cons_append, List.map_cons, List.tail_cons, List.map_append]
        exact hprefix.isInfix.trans (List.suffix_append _ _).isInfix
  · rcases List.append_eq_append_iff.mp hmore with ⟨beyond, _, hbeyond⟩ | ⟨part, hpart, hback'⟩
    · exact IsScheme.noKey hclean htail beyond hbeyond hback
    · cases part with
      | nil => exact IsScheme.noKey hclean htail [] hback'.symm hback
      | cons e part =>
          rw [hback', List.cons_append]
          apply NoKey.boundary hclean
          apply hbetween
          rw [hpart]
          exact List.mem_append_right more List.mem_cons_self

/-- No key begins in the mask. -/
theorem IsHead.not_in_mask {front back rest head rest' : List symbol}
    (hmask : mask.text = front ++ back) (hback : back ≠ [])
    (h : alphabet.IsHead pattern head) : back ++ rest ≠ head ++ rest' := by
  intro heq
  rcases IsHead.parts h with ⟨word, c, between, tail, hwhole, hword, _, _⟩
  have hlast : mask.text.getLast (List.cons_ne_nil _ _) = back.getLast hback := by
    simp only [hmask, List.getLast_append_of_ne_nil _ hback]
  have hnot : back.getLast hback ∉ word := by
    intro hmem
    rw [← hlast] at hmem
    exact hclean.no_last _ hword (List.mem_map_of_mem hmem)
  rw [← List.dropLast_append_getLast hback, List.append_assoc, hwhole, List.append_assoc] at heq
  apply hclean.not_in_mask _ hword
  rw [hmask, List.map_append]
  have hstart : word <+: back := (prefix_of_notMem hnot heq).trans (List.dropLast_prefix back)
  exact (hstart.map alphabet.fold).isInfix.trans (List.suffix_append _ _).isInfix

end

theorem IsScheme.mem {scheme : Option (List symbol)} {tail : List symbol}
    (h : alphabet.IsScheme scheme tail) {c : symbol} (hc : c ∈ tail) :
    alphabet.isBoundary c = true ∨
      exists word, word ∈ scheme.toList ∧ alphabet.fold c ∈ word := by
  cases h with
  | none => cases hc
  | some hgap _ =>
      rcases List.mem_append.mp hc with hword | hblank
      · exact Or.inr ⟨_, List.mem_singleton_self _, List.mem_map_of_mem hword⟩
      · exact Or.inl (isBoundary_of_blank (hgap c hblank))

theorem IsHead.mem {head : List symbol} (h : alphabet.IsHead pattern head) {c : symbol}
    (hc : c ∈ head) : alphabet.isBoundary c = true ∨
      exists word, word ∈ pattern.keys ++ pattern.scheme.toList ∧ alphabet.fold c ∈ word := by
  rcases IsHead.parts h with ⟨word, d, between, tail, hwhole, hword, hbetween, htail⟩
  rw [hwhole] at hc
  rcases List.mem_append.mp hc with hkey | hc
  · exact Or.inr ⟨_, List.mem_append_left _ hword, List.mem_map_of_mem hkey⟩
  · rcases List.mem_append.mp hc with hboundary | hc
    · exact Or.inl (hbetween c hboundary)
    · rcases IsScheme.mem htail hc with hboundary | ⟨word, hscheme, hfold⟩
      · exact Or.inl hboundary
      · exact Or.inr ⟨word, List.mem_append_right _ hscheme, hfold⟩

theorem IsHead.last {head : List symbol} (h : alphabet.IsHead pattern head) :
    exists front c, head = front ++ [c] ∧ alphabet.isBoundary c = true := by
  rcases IsHead.parts h with ⟨word, d, between, tail, hwhole, _, hbetween, htail⟩
  generalize pattern.scheme = scheme at htail
  cases htail with
  | none =>
      refine ⟨word ++ (d :: between).dropLast, (d :: between).getLast (List.cons_ne_nil _ _),
        ?_, hbetween _ (List.getLast_mem _)⟩
      rw [List.append_assoc, List.dropLast_append_getLast, hwhole, List.append_nil]
  | @some scheme gap hgap hne =>
      refine ⟨word ++ (d :: between ++ (scheme ++ gap.dropLast)), gap.getLast hne, ?_,
        isBoundary_of_blank (hgap _ (List.getLast_mem hne))⟩
      rw [hwhole, List.append_assoc, List.append_assoc, List.append_assoc,
        List.dropLast_append_getLast]

theorem IsHead.exists_last {head : List symbol} (h : alphabet.IsHead pattern head) :
    exists p, head.getLast? = some p ∧ p ∉ mask.text := by
  rcases IsHead.last h with ⟨front, c, hhead, hc⟩
  refine ⟨c, by rw [hhead, List.getLast?_concat], ?_⟩
  intro hmem
  rw [isBoundary_of_mem_mask hmem] at hc
  cases hc

theorem IsHead.first_notMem (hclean : alphabet.Clean pattern) {head : List symbol}
    (h : alphabet.IsHead pattern head) : mask.first ∉ head := by
  intro hmem
  rcases IsHead.mem h hmem with hboundary | ⟨word, hword, hfold⟩
  · rw [isBoundary_of_mem_mask Mask.first_mem] at hboundary
    cases hboundary
  · exact hclean.no_first word hword hfold

/-!
## The reader finds the heads
-/

/-- The text does not begin with a blank. -/
def Starts (alphabet : Alphabet mask) (text : List symbol) : Prop :=
  text.dropWhile alphabet.isBlank = text

theorem starts_cons {c : symbol} {text : List symbol} (hc : alphabet.isBlank c = false) :
    alphabet.Starts (c :: text) := by
  rw [Starts, List.dropWhile_cons, hc]
  rfl

theorem starts_of_run {text : List symbol} (h : mask.run text ≠ []) : alphabet.Starts text := by
  cases text with
  | nil => exact absurd rfl h
  | cons c text =>
      exact starts_cons (alphabet.isBlank_of_isValue c (Mask.run_cons_ne_nil.mp h))

theorem dropBlanks_append {gap text : List symbol} (hgap : alphabet.Blank gap)
    (htext : alphabet.Starts text) : (gap ++ text).dropWhile alphabet.isBlank = text := by
  rw [List.dropWhile_append_of_pos hgap, htext]

theorem exists_blanks (alphabet : Alphabet mask) (text : List symbol) :
    exists gap, alphabet.Blank gap ∧ text = gap ++ text.dropWhile alphabet.isBlank :=
  ⟨text.takeWhile alphabet.isBlank, fun _ hc => List.mem_takeWhile_imp hc,
    List.takeWhile_append_dropWhile.symm⟩

theorem afterSeparator?_eq_some_iff {text rest : List symbol} :
    alphabet.afterSeparator? text = some rest <->
      exists c, text = c :: rest ∧ alphabet.isSeparator c = true := by
  constructor
  · intro h
    cases text with
    | nil => cases h
    | cons c text =>
        rw [afterSeparator?] at h
        split at h
        · next hc =>
            cases h
            exact ⟨c, rfl, hc⟩
        · cases h
  · intro h
    rcases h with ⟨c, htext, hc⟩
    rw [htext, afterSeparator?, if_pos hc]

theorem afterBlanks?_eq_some {text rest : List symbol}
    (h : alphabet.afterBlanks? text = some rest) :
    exists gap, text = gap ++ rest ∧ alphabet.Blank gap ∧ gap ≠ [] := by
  cases text with
  | nil => cases h
  | cons c text =>
      rw [afterBlanks?] at h
      split at h
      · next hc =>
          cases h
          rcases alphabet.exists_blanks text with ⟨gap, hgap, htext⟩
          refine ⟨c :: gap, by rw [List.cons_append, ← htext], ?_, List.cons_ne_nil c gap⟩
          intro d hd
          rcases List.mem_cons.mp hd with hd | hd
          · rw [hd]
            exact hc
          · exact hgap d hd
      · cases h

theorem afterBlanks?_append {gap text : List symbol} (hgap : alphabet.Blank gap)
    (hne : gap ≠ []) (htext : alphabet.Starts text) :
    alphabet.afterBlanks? (gap ++ text) = some text := by
  cases gap with
  | nil => exact absurd rfl hne
  | cons c gap =>
      rw [List.cons_append, afterBlanks?, if_pos (hgap c List.mem_cons_self),
        dropBlanks_append (fun d hd => hgap d (List.mem_cons_of_mem c hd)) htext]

theorem starts_scheme (hclean : alphabet.Clean pattern) {tail text : List symbol}
    (h : alphabet.IsScheme pattern.scheme tail) (htext : alphabet.Starts text) :
    alphabet.Starts (tail ++ text) := by
  generalize hscheme : pattern.scheme = scheme at h
  cases h with
  | none => exact htext
  | @some word gap _ _ =>
      have hmem : word.map alphabet.fold ∈ pattern.scheme.toList := by
        rw [hscheme]
        exact List.mem_singleton_self _
      cases word with
      | nil => exact absurd rfl (hclean.scheme_ne_nil _ hmem)
      | cons c word =>
          apply starts_cons
          have hfold := hclean.no_boundary _ (List.mem_append_right _ hmem) _
            (List.mem_map_of_mem List.mem_cons_self)
          rw [isBoundary_fold, isBoundary, Bool.or_eq_false_iff] at hfold
          exact hfold.1

section

variable [DecidableEq symbol]

theorem afterWord?_eq_some_iff {word text rest : List symbol} :
    alphabet.afterWord? word text = some rest <->
      exists part, text = part ++ rest ∧ part.map alphabet.fold = word := by
  unfold afterWord?
  constructor
  · intro h
    split at h
    · next hword =>
        cases h
        exact ⟨text.take word.length, (List.take_append_drop _ _).symm, hword⟩
    · cases h
  · intro h
    rcases h with ⟨part, htext, hword⟩
    have hlength : word.length = part.length := by rw [← hword, List.length_map]
    rw [htext, hlength, List.take_left, List.drop_left, if_pos hword]

theorem afterScheme?_eq_some {scheme : Option (List symbol)} {text rest : List symbol}
    (h : alphabet.afterScheme? scheme text = some rest) :
    exists tail, text = tail ++ rest ∧ alphabet.IsScheme scheme tail := by
  cases scheme with
  | none =>
      cases h
      exact ⟨[], rfl, IsScheme.none⟩
  | some scheme =>
      rcases Option.bind_eq_some_iff.mp h with ⟨behind, hword, hblanks⟩
      rcases afterWord?_eq_some_iff.mp hword with ⟨word, htext, hfold⟩
      rcases afterBlanks?_eq_some hblanks with ⟨gap, hbehind, hgap, hne⟩
      rw [← hfold]
      exact ⟨word ++ gap, by rw [htext, hbehind, List.append_assoc], IsScheme.some hgap hne⟩

theorem afterScheme?_append {scheme : Option (List symbol)} {tail text : List symbol}
    (h : alphabet.IsScheme scheme tail) (htext : alphabet.Starts text) :
    alphabet.afterScheme? scheme (tail ++ text) = some text := by
  cases h with
  | none => rfl
  | @some word gap hgap hne =>
      apply Option.bind_eq_some_iff.mpr
      refine ⟨gap ++ text, afterWord?_eq_some_iff.mpr ⟨word, ?_, rfl⟩, ?_⟩
      · rw [List.append_assoc]
      · exact afterBlanks?_append hgap hne htext

theorem afterHead?_eq_some {key text rest : List symbol} (hkey : key ∈ pattern.keys)
    (h : alphabet.afterHead? pattern.scheme key text = some rest) :
    exists head, text = head ++ rest ∧ alphabet.IsHead pattern head ∧ mask.run rest ≠ [] := by
  rcases Option.bind_eq_some_iff.mp h with ⟨afterKey, hafterKey, h⟩
  rcases Option.bind_eq_some_iff.mp h with ⟨afterSeparator, hafterSeparator, h⟩
  rcases Option.bind_eq_some_iff.mp h with ⟨value, hvalue, h⟩
  rcases afterWord?_eq_some_iff.mp hafterKey with ⟨word, htext, hfold⟩
  rcases alphabet.exists_blanks afterKey with ⟨gap, hgap, hafterGap⟩
  rcases afterSeparator?_eq_some_iff.mp hafterSeparator with ⟨separator, hcons, hseparator⟩
  rcases alphabet.exists_blanks afterSeparator with ⟨gap', hgap', hafterGap'⟩
  rcases afterScheme?_eq_some hvalue with ⟨tail, htail, hscheme⟩
  split at h
  · cases h
  · next hrun =>
      cases h
      rw [← hfold] at hkey
      refine ⟨_, ?_, IsHead.intro hkey hgap hseparator hgap' hscheme, hrun⟩
      rw [htext, hafterGap, hcons, hafterGap', htail]
      simp only [List.append_assoc, List.cons_append]

theorem afterHead?_append (hclean : alphabet.Clean pattern) {head rest : List symbol}
    (h : alphabet.IsHead pattern head) (hrun : mask.run rest ≠ []) :
    exists key, key ∈ pattern.keys ∧
      alphabet.afterHead? pattern.scheme key (head ++ rest) = some rest := by
  cases h with
  | @intro word gap gap' tail separator hword hgap hseparator hgap' htail =>
      have hafterScheme := afterScheme?_append htail (starts_of_run hrun)
      have hstarts := starts_scheme hclean htail (starts_of_run hrun)
      have hseparatorStarts : alphabet.Starts (separator :: (gap' ++ (tail ++ rest))) :=
        starts_cons (alphabet.isBlank_of_isSeparator separator hseparator)
      refine ⟨_, hword, ?_⟩
      simp only [List.append_assoc, List.cons_append]
      apply Option.bind_eq_some_iff.mpr
      refine ⟨_, afterWord?_eq_some_iff.mpr ⟨word, rfl, rfl⟩, ?_⟩
      rw [dropBlanks_append hgap hseparatorStarts]
      apply Option.bind_eq_some_iff.mpr
      refine ⟨_, afterSeparator?_eq_some_iff.mpr ⟨separator, rfl, hseparator⟩, ?_⟩
      rw [dropBlanks_append hgap' hstarts]
      apply Option.bind_eq_some_iff.mpr
      refine ⟨rest, hafterScheme, ?_⟩
      rw [if_neg hrun]

theorem prefix_of_afterHead? {scheme : Option (List symbol)} {key text rest : List symbol}
    (h : alphabet.afterHead? scheme key text = some rest) :
    key <+: text.map alphabet.fold := by
  rcases Option.bind_eq_some_iff.mp h with ⟨afterKey, hafterKey, _⟩
  rcases afterWord?_eq_some_iff.mp hafterKey with ⟨word, htext, hfold⟩
  rw [htext, List.map_append, hfold]
  exact List.prefix_append _ _

theorem head?_eq_some {text head rest : List symbol}
    (h : alphabet.head? pattern text = some (head, rest)) :
    text = head ++ rest ∧ alphabet.IsHead pattern head ∧ mask.run rest ≠ [] := by
  rcases Option.map_eq_some_iff.mp h with ⟨behind, hfind, hpair⟩
  rw [Prod.mk.injEq] at hpair
  rcases hpair with ⟨hhead, hrest⟩
  subst hrest
  rcases List.exists_of_findSome?_eq_some hfind with ⟨key, hkey, hafter⟩
  rcases afterHead?_eq_some hkey hafter with ⟨front, htext, hisHead, hrun⟩
  have hlength : text.length - behind.length = front.length := by
    rw [htext, List.length_append, Nat.add_sub_cancel]
  rw [hlength, htext, List.take_left] at hhead
  subst hhead
  exact ⟨htext, hisHead, hrun⟩

/-- Among keys none of which begins another, the order does not matter. -/
theorem head?_append (hclean : alphabet.Clean pattern) {head rest : List symbol}
    (h : alphabet.IsHead pattern head) (hrun : mask.run rest ≠ []) :
    alphabet.head? pattern (head ++ rest) = some (head, rest) := by
  rcases afterHead?_append hclean h hrun with ⟨key, hkey, hafter⟩
  have hfind : (pattern.keys.findSome? fun key =>
      alphabet.afterHead? pattern.scheme key (head ++ rest)) = some rest := by
    cases hfound : pattern.keys.findSome? fun key =>
        alphabet.afterHead? pattern.scheme key (head ++ rest) with
    | none =>
        rw [List.findSome?_eq_none_iff.mp hfound key hkey] at hafter
        cases hafter
    | some behind =>
        rcases List.exists_of_findSome?_eq_some hfound with ⟨other, hother, hafterOther⟩
        have hsame : other = key := by
          rcases List.prefix_or_prefix_of_prefix (prefix_of_afterHead? hafterOther)
            (prefix_of_afterHead? hafter) with hfirst | hsecond
          · exact hclean.prefix_free other hother key hkey hfirst
          · exact (hclean.prefix_free key hkey other hother hsecond).symm
        rw [hsame, hafter] at hafterOther
        exact hafterOther.symm
  rw [head?, hfind, Option.map_some, List.length_append, Nat.add_sub_cancel, List.take_left]

/-- What a clean pattern reads before a value are heads for its mask. -/
def heads (alphabet : Alphabet mask) (pattern : KeyPattern symbol)
    (hclean : alphabet.Clean pattern) : Heads mask where
  head? := alphabet.head? pattern
  IsHead := alphabet.IsHead pattern
  head?_eq_some_iff := fun _ _ _ =>
    ⟨head?_eq_some, fun h => h.1 ▸ head?_append hclean h.2.1 h.2.2⟩
  first_notMem := fun _ => IsHead.first_notMem hclean
  exists_last := fun _ => IsHead.exists_last
  not_inside := fun _ _ _ _ _ h hfront hback hhead =>
    NoKey.ne_head hclean (IsHead.noKey hclean h hfront hback) hhead
  not_in_mask := fun _ _ _ _ _ hmask hback hhead => IsHead.not_in_mask hclean hmask hback hhead

theorem heads_sub (hclean : alphabet.Clean pattern) (text : List symbol) :
    (alphabet.heads pattern hclean).sub text = alphabet.sub pattern text := rfl

/-!
## Several patterns
-/

/-- The value of every match is the mask, wherever in the text the match stands. -/
def Masked (alphabet : Alphabet mask) (pattern : KeyPattern symbol) (text : List symbol) :
    Prop :=
  forall front back head rest, text = front ++ back ->
    alphabet.head? pattern back = some (head, rest) -> mask.run rest = mask.text

theorem Masked.foldl (hclean : alphabet.Clean pattern) {patterns : List (KeyPattern symbol)}
    (hall : forall other, other ∈ patterns -> alphabet.Clean other) {text : List symbol}
    (h : alphabet.Masked pattern text) :
    alphabet.Masked pattern
      (patterns.foldl (fun value other => alphabet.sub other value) text) := by
  induction patterns generalizing text with
  | nil => exact h
  | cons other patterns ih =>
      rw [List.foldl_cons]
      apply ih (fun next hnext => hall next (List.mem_cons_of_mem other hnext))
      exact Heads.Masked.of_replaced (alphabet.heads pattern hclean) h
        (Heads.sub_replaced (alphabet.heads other (hall other List.mem_cons_self))
          none text)

theorem foldl_sub_masked {patterns : List (KeyPattern symbol)}
    (hall : forall other, other ∈ patterns -> alphabet.Clean other) (text : List symbol) :
    forall pattern, pattern ∈ patterns -> alphabet.Masked pattern
      (patterns.foldl (fun value other => alphabet.sub other value) text) := by
  induction patterns generalizing text with
  | nil =>
      intro pattern hpattern
      cases hpattern
  | cons other patterns ih =>
      intro pattern hpattern
      have hrest := fun next hnext => hall next (List.mem_cons_of_mem other hnext)
      have hclean := hall other List.mem_cons_self
      rcases List.mem_cons.mp hpattern with hsame | hlater
      · subst hsame
        exact Masked.foldl hclean hrest
          (Heads.sub_masked (alphabet.heads pattern hclean) text)
      · exact ih hrest _ pattern hlater

theorem foldl_sub_eq_self {patterns : List (KeyPattern symbol)}
    (hall : forall other, other ∈ patterns -> alphabet.Clean other) {text : List symbol}
    (h : forall pattern, pattern ∈ patterns -> alphabet.Masked pattern text) :
    patterns.foldl (fun value other => alphabet.sub other value) text = text := by
  induction patterns with
  | nil => rfl
  | cons other patterns ih =>
      have hclean := hall other List.mem_cons_self
      have hmasked : (alphabet.heads other hclean).Masked text := h other List.mem_cons_self
      have hsame : alphabet.sub other text = text := Heads.sub_eq_self hmasked
      rw [List.foldl_cons, hsame]
      exact ih (fun next hnext => hall next (List.mem_cons_of_mem other hnext))
        (fun next hnext => h next (List.mem_cons_of_mem other hnext))

end

end Alphabet

end Foundation
end YasinMcp
