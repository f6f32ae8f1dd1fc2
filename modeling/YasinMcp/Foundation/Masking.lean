import Mathlib.Data.List.Basic
import Mathlib.Data.List.Infix
import Mathlib.Data.List.TakeWhile

/-!
# Masking the values of keys

A text is gone over from the left and every match is replaced, as substitution by a
regular expression does.  A match of a head reads the head and the run of value symbols
after it, and replaces the run by a mask.  If heads cannot begin inside a head or inside
the mask, one pass leaves no value but the mask, and passes for other heads with the same
mask keep it so.
-/

namespace YasinMcp
namespace Foundation

universe u

variable {symbol : Type u}

/-!
## Substitution
-/

/--
Replace every match from the left: the match gives its replacement and the text
after it.  No match is empty, so the length of the text is fuel enough.
-/
def substitute (match? : List symbol -> Option (List symbol × List symbol)) :
    Nat -> List symbol -> List symbol
  | 0, text => text
  | _ + 1, [] => []
  | fuel + 1, c :: rest =>
      match match? (c :: rest) with
      | some (replacement, rest) => replacement ++ substitute match? fuel rest
      | none => c :: substitute match? fuel rest

/-- What follows a match is shorter than the text. -/
def Shrinks (match? : List symbol -> Option (List symbol × List symbol)) : Prop :=
  forall text replacement rest, match? text = some (replacement, rest) ->
    rest.length < text.length

def replaceAll (match? : List symbol -> Option (List symbol × List symbol))
    (text : List symbol) : List symbol :=
  substitute match? text.length text

section

variable {match? : List symbol -> Option (List symbol × List symbol)}

theorem substitute_of_le (h : Shrinks match?) {text : List symbol} {fuel : Nat}
    (hfuel : text.length ≤ fuel) : substitute match? fuel text = replaceAll match? text := by
  induction fuel using Nat.strong_induction_on generalizing text with
  | _ fuel ih =>
      cases text with
      | nil =>
          cases fuel with
          | zero => rfl
          | succ fuel => rfl
      | cons c rest =>
          rw [List.length_cons] at hfuel
          rcases Nat.exists_eq_succ_of_ne_zero (n := fuel) (by omega) with ⟨less, hless⟩
          subst hless
          rw [replaceAll, List.length_cons, substitute, substitute]
          cases hmatch : match? (c :: rest) with
          | none =>
              dsimp only
              rw [ih less (Nat.lt_succ_self less) (by omega)]
              rfl
          | some found =>
              rcases found with ⟨replacement, after⟩
              have hshort := h _ _ _ hmatch
              rw [List.length_cons] at hshort
              dsimp only
              rw [ih less (Nat.lt_succ_self less) (by omega)]
              by_cases hlast : rest.length = less
              · rw [hlast, ih less (Nat.lt_succ_self less) (by omega)]
              · rw [ih rest.length (by omega) (by omega)]

@[simp] theorem replaceAll_nil : replaceAll match? [] = [] := rfl

theorem replaceAll_of_none {c : symbol} {rest : List symbol}
    (hnone : match? (c :: rest) = none) :
    replaceAll match? (c :: rest) = c :: replaceAll match? rest := by
  rw [replaceAll, List.length_cons, substitute, hnone]
  rfl

theorem replaceAll_of_some (h : Shrinks match?) {text replacement rest : List symbol}
    (hsome : match? text = some (replacement, rest)) :
    replaceAll match? text = replacement ++ replaceAll match? rest := by
  have hshort := h _ _ _ hsome
  cases text with
  | nil => cases hshort
  | cons c tail =>
      rw [List.length_cons] at hshort
      rw [replaceAll, List.length_cons, substitute, hsome]
      dsimp only
      rw [substitute_of_le h (by omega)]

theorem replaceAll_eq_self {text : List symbol}
    (h : forall front back, text = front ++ back -> match? back = none) :
    replaceAll match? text = text := by
  induction text with
  | nil => rfl
  | cons c rest ih =>
      rw [replaceAll_of_none (h [] (c :: rest) rfl), ih]
      intro front back hsplit
      exact h (c :: front) back (by rw [hsplit]; rfl)

end

/-!
## Replaced parts
-/

/--
The second text is the first with some of its parts replaced by the mask.  A part may be
replaced where the symbol kept before it, the part and the text after it are allowed.
-/
inductive Replaced (mask : List symbol)
    (allowed : Option symbol -> List symbol -> List symbol -> Prop) :
    Option symbol -> List symbol -> List symbol -> Prop where
  | nil (previous : Option symbol) : Replaced mask allowed previous [] []
  | keep {previous : Option symbol} {c : symbol} {text out : List symbol}
      (h : Replaced mask allowed (some c) text out) :
      Replaced mask allowed previous (c :: text) (c :: out)
  | put {previous : Option symbol} {part text out : List symbol}
      (hpart : allowed previous part text) (h : Replaced mask allowed none text out) :
      Replaced mask allowed previous (part ++ text) (mask ++ out)

namespace Replaced

variable {mask : List symbol}
  {allowed : Option symbol -> List symbol -> List symbol -> Prop}

theorem getLast?_cons_or (c : symbol) (front : List symbol) (previous : Option symbol) :
    (c :: front).getLast?.or previous = front.getLast?.or (some c) := by
  cases front with
  | nil => rfl
  | cons d front =>
      rw [List.getLast?_cons_cons]
      rw [List.getLast?_eq_some_getLast (List.cons_ne_nil d front)]
      rfl

theorem append {previous : Option symbol} {front text out : List symbol}
    (h : Replaced mask allowed (front.getLast?.or previous) text out) :
    Replaced mask allowed previous (front ++ text) (front ++ out) := by
  induction front generalizing previous with
  | nil => exact h
  | cons c front ih =>
      rw [getLast?_cons_or] at h
      apply Replaced.keep
      exact ih h

theorem kept {m : symbol} {rest : List symbol} (hmask : mask = m :: rest)
    {previous : Option symbol} {text front back : List symbol}
    (h : Replaced mask allowed previous text (front ++ back)) (hfront : m ∉ front) :
    exists behind, text = front ++ behind ∧
      Replaced mask allowed (front.getLast?.or previous) behind back := by
  induction front generalizing previous text with
  | nil => exact ⟨text, rfl, h⟩
  | cons c front ih =>
      rw [List.cons_append] at h
      generalize hout : c :: (front ++ back) = out at h
      cases h with
      | nil => cases hout
      | keep hrest =>
          rw [List.cons.injEq] at hout
          rcases hout with ⟨hc, hrestOut⟩
          subst hc hrestOut
          rcases ih hrest (fun hmem => hfront (List.mem_cons_of_mem c hmem)) with
            ⟨behind, htext, hbehind⟩
          refine ⟨behind, by rw [htext]; rfl, ?_⟩
          rw [getLast?_cons_or]
          exact hbehind
      | put _ _ =>
          rw [hmask, List.cons_append, List.cons.injEq] at hout
          refine absurd ?_ hfront
          rw [hout.1]
          exact List.mem_cons_self

theorem split {previous : Option symbol} {text front back : List symbol}
    (h : Replaced mask allowed previous text (front ++ back)) :
    (exists before behind middle, text = before ++ behind ∧
      Replaced mask allowed middle behind back) ∨
    exists inner last out, mask = inner ++ last ∧ last ≠ [] ∧ back = last ++ out := by
  generalize hout : front ++ back = out at h
  induction h generalizing front with
  | nil previous =>
      have hback : back = [] := (List.append_eq_nil_iff.mp hout).2
      subst hback
      exact Or.inl ⟨[], [], none, rfl, .nil none⟩
  | @keep previous c text out hrest ih =>
      cases front with
      | nil =>
          rw [List.nil_append] at hout
          subst hout
          exact Or.inl ⟨[], c :: text, previous, rfl, .keep hrest⟩
      | cons d front =>
          rw [List.cons_append, List.cons.injEq] at hout
          rcases ih hout.2 with ⟨before, behind, middle, htext, hbehind⟩ | hinside
          · exact Or.inl ⟨c :: before, behind, middle, by rw [htext]; rfl, hbehind⟩
          · exact Or.inr hinside
  | @put previous part text out hpart hrest ih =>
      rcases List.append_eq_append_iff.mp hout with
        ⟨last, hmask, hback⟩ | ⟨more, hfront, hmore⟩
      · by_cases hlast : last = []
        · subst hlast
          rw [List.nil_append] at hback
          subst hback
          exact Or.inl ⟨part, text, none, rfl, hrest⟩
        · exact Or.inr ⟨front, last, out, hmask, hlast, hback⟩
      · rcases ih hmore.symm with ⟨before, behind, middle, htext, hbehind⟩ | hinside
        · exact Or.inl ⟨part ++ before, behind, middle, by rw [htext, List.append_assoc],
            hbehind⟩
        · exact Or.inr hinside

theorem infix_of_notMem {m : symbol} {rest : List symbol} (hmask : mask = m :: rest)
    {previous : Option symbol} {text out word : List symbol}
    (h : Replaced mask allowed previous text out) (hword : forall c, c ∈ mask -> c ∉ word)
    (hin : word <:+: out) : word <:+: text := by
  rcases hin with ⟨front, back, hout⟩
  rw [← hout, List.append_assoc] at h
  rcases h.split with
    ⟨before, behind, middle, htext, hbehind⟩ | ⟨inner, last, others, hinner, hlast, hsplit⟩
  · rcases hbehind.kept hmask (hword m (by rw [hmask]; exact List.mem_cons_self)) with
      ⟨after, hafter, _⟩
    exact ⟨before, after, by rw [htext, hafter, List.append_assoc]⟩
  · cases word with
    | nil => exact List.nil_infix
    | cons c word =>
        cases last with
        | nil => exact absurd rfl hlast
        | cons d last =>
            rw [List.cons_append, List.cons_append, List.cons.injEq] at hsplit
            refine absurd ?_ (hword d ?_)
            · rw [← hsplit.1]
              exact List.mem_cons_self
            · rw [hinner]
              exact List.mem_append_right _ List.mem_cons_self

end Replaced

/-!
## Tokens

A match may also be a whole token, with the mask in its place.  When a token has no symbol
of the mask, one pass leaves no token.
-/

structure TokenMatcher (mask : List symbol) (IsToken : List symbol -> Prop)
    (match? : List symbol -> Option (List symbol × List symbol)) : Prop where
  found : forall text replacement rest, match? text = some (replacement, rest) ->
    replacement = mask ∧ exists token, IsToken token ∧ text = token ++ rest
  finds : forall token rest, IsToken token -> match? (token ++ rest) ≠ none
  ne_nil : forall token, IsToken token -> token ≠ []
  notMem : forall token, IsToken token -> forall c, c ∈ mask -> c ∉ token
  mask_ne_nil : mask ≠ []

namespace TokenMatcher

variable {mask : List symbol} {IsToken : List symbol -> Prop}
  {match? : List symbol -> Option (List symbol × List symbol)}
  (matcher : TokenMatcher mask IsToken match?)

include matcher

theorem shrinks : Shrinks match? := by
  intro text replacement rest hmatch
  rcases matcher.found _ _ _ hmatch with ⟨_, token, htoken, htext⟩
  have hpos := List.length_pos_of_ne_nil (matcher.ne_nil token htoken)
  rw [htext, List.length_append]
  omega

/-- Induction along a pass: a symbol that is kept, or a token and the text after it. -/
theorem induction {motive : List symbol -> Prop} (nil : motive [])
    (none : forall c text, match? (c :: text) = none -> motive text -> motive (c :: text))
    (some : forall token rest, match? (token ++ rest) = some (mask, rest) -> IsToken token ->
      motive rest -> motive (token ++ rest))
    (text : List symbol) : motive text := by
  generalize hlength : text.length = n
  induction n using Nat.strong_induction_on generalizing text with
  | _ n ih =>
      subst hlength
      cases hmatch : match? text with
      | none =>
          cases text with
          | nil => exact nil
          | cons c text => exact none c text hmatch (ih _ (Nat.lt_succ_self _) text rfl)
      | some found =>
          rcases found with ⟨replacement, rest⟩
          have hshort := matcher.shrinks _ _ _ hmatch
          rcases matcher.found _ _ _ hmatch with ⟨hmask, token, htoken, htext⟩
          subst hmask htext
          exact some token rest hmatch htoken (ih _ hshort _ rfl)

theorem replaced (previous : Option symbol) (text : List symbol) :
    Replaced mask (fun _ part _ => IsToken part) previous text (replaceAll match? text) := by
  induction text using matcher.induction generalizing previous with
  | nil => exact Replaced.nil previous
  | none c text hnone ih =>
      rw [replaceAll_of_none hnone]
      exact Replaced.keep (ih _)
  | some token rest hmatch htoken ih =>
      rw [replaceAll_of_some matcher.shrinks hmatch]
      exact Replaced.put htoken (ih none)

/-- No token stands anywhere in the text after a pass. -/
theorem not_infix {token : List symbol} (htoken : IsToken token) (text : List symbol) :
    ¬ token <:+: replaceAll match? text := by
  intro hinfix
  rcases hinfix with ⟨front, back, hout⟩
  rw [List.append_assoc] at hout
  induction text using matcher.induction generalizing front with
  | nil =>
      have hnil := (List.append_eq_nil_iff.mp (List.append_eq_nil_iff.mp hout).2).1
      exact matcher.ne_nil token htoken hnil
  | none c text hnone ih =>
      cases front with
      | nil =>
          rcases List.exists_cons_of_ne_nil matcher.mask_ne_nil with ⟨m, others, hmask⟩
          have hreplaced := matcher.replaced none (c :: text)
          rw [← hout, List.nil_append] at hreplaced
          have hfirst := matcher.notMem token htoken m (by rw [hmask]; exact List.mem_cons_self)
          rcases hreplaced.kept hmask hfirst with ⟨behind, htext, _⟩
          rw [htext] at hnone
          exact matcher.finds token behind htoken hnone
      | cons d front =>
          rw [replaceAll_of_none hnone, List.cons_append, List.cons.injEq] at hout
          exact ih front hout.2
  | some found rest hmatch _ ih =>
      rw [replaceAll_of_some matcher.shrinks hmatch] at hout
      rcases List.append_eq_append_iff.mp hout.symm with
        ⟨beyond, _, hbeyond⟩ | ⟨last, hmask, hlast⟩
      · exact ih beyond hbeyond.symm
      · cases last with
        | nil => exact ih [] hlast
        | cons m last =>
            -- The token would begin in the mask.
            cases token with
            | nil => exact matcher.ne_nil [] htoken rfl
            | cons c token =>
                rw [List.cons_append, List.cons_append, List.cons.injEq] at hlast
                refine matcher.notMem _ htoken m ?_ ?_
                · rw [hmask]
                  exact List.mem_append_right front List.mem_cons_self
                · rw [← hlast.1]
                  exact List.mem_cons_self

theorem kept_mask {front text out : List symbol} (hfront : forall c, c ∈ front -> c ∈ mask)
    {previous : Option symbol}
    (h : Replaced mask (fun _ part _ => IsToken part) previous (front ++ text) out) :
    exists behind previous', out = front ++ behind ∧
      Replaced mask (fun _ part _ => IsToken part) previous' text behind := by
  induction front generalizing previous out with
  | nil => exact ⟨out, previous, rfl, h⟩
  | cons c front ih =>
      rw [List.cons_append] at h
      generalize htext : c :: (front ++ text) = whole at h
      cases h with
      | nil => cases htext
      | keep hrest =>
          rw [List.cons.injEq] at htext
          rcases htext with ⟨hc, hwhole⟩
          subst hc hwhole
          rcases ih (fun d hd => hfront d (List.mem_cons_of_mem c hd)) hrest with
            ⟨behind, previous', hout, hbehind⟩
          exact ⟨behind, previous', by rw [hout]; rfl, hbehind⟩
      | @put _ part rest out htoken _ =>
          cases part with
          | nil => exact absurd rfl (matcher.ne_nil [] htoken)
          | cons d part =>
              rw [List.cons_append, List.cons.injEq] at htext
              refine absurd ?_ (matcher.notMem _ htoken c (hfront c List.mem_cons_self))
              rw [htext.1]
              exact List.mem_cons_self

end TokenMatcher

/-!
## Masks

A mask consists of value symbols.  It is put in place of a whole run of values, and
never right after one of its own symbols.
-/

structure Mask (symbol : Type u) where
  isValue : symbol -> Bool
  first : symbol
  others : List symbol
  isValue_of_mem : forall c, c ∈ first :: others -> isValue c = true

namespace Mask

variable (mask : Mask symbol)

def text : List symbol := mask.first :: mask.others

def run (text : List symbol) : List symbol := text.takeWhile mask.isValue

def afterRun (text : List symbol) : List symbol := text.dropWhile mask.isValue

def Allowed (previous : Option symbol) (part text : List symbol) : Prop :=
  (exists p, previous = some p ∧ p ∉ mask.text) ∧ part ≠ [] ∧
    (forall c, c ∈ part -> mask.isValue c = true) ∧ mask.run text = []

variable {mask}

theorem first_mem : mask.first ∈ mask.text := List.mem_cons_self

theorem run_append_afterRun (mask : Mask symbol) (text : List symbol) :
    mask.run text ++ mask.afterRun text = text :=
  List.takeWhile_append_dropWhile

theorem run_append {front text : List symbol}
    (hfront : forall c, c ∈ front -> mask.isValue c = true) :
    mask.run (front ++ text) = front ++ mask.run text :=
  List.takeWhile_append_of_pos hfront

theorem run_cons_ne_nil {c : symbol} {text : List symbol} :
    mask.run (c :: text) ≠ [] <-> mask.isValue c = true := by
  unfold run
  rw [List.takeWhile_cons]
  cases mask.isValue c with
  | false => simp
  | true => simp

theorem run_append_ne_nil {part text : List symbol} (hpart : part ≠ [])
    (hvalues : forall c, c ∈ part -> mask.isValue c = true) :
    mask.run (part ++ text) ≠ [] := by
  rw [run_append hvalues]
  exact fun h => hpart (List.append_eq_nil_iff.mp h).1

theorem run_cons_eq_nil {c : symbol} {text : List symbol} :
    mask.run (c :: text) = [] <-> mask.isValue c = false := by
  rw [← not_iff_not, ← Ne, run_cons_ne_nil, Bool.not_eq_false]

theorem isValue_of_mem_run {c : symbol} {text : List symbol} (h : c ∈ mask.run text) :
    mask.isValue c = true :=
  List.mem_takeWhile_imp h

theorem run_afterRun (mask : Mask symbol) (text : List symbol) :
    mask.run (mask.afterRun text) = [] := by
  unfold run afterRun
  induction text with
  | nil => rfl
  | cons c text ih =>
      rw [List.dropWhile_cons]
      cases hc : mask.isValue c with
      | false => simp [hc]
      | true => exact ih

theorem run_text_append {text : List symbol} (h : mask.run text = []) :
    mask.run (mask.text ++ text) = mask.text := by
  rw [Mask.text, run_append mask.isValue_of_mem, h, List.append_nil]

end Mask

namespace Replaced

variable {mask : Mask symbol} {previous : Option symbol} {text out : List symbol}

theorem run_eq_nil (h : Replaced mask.text mask.Allowed previous text out) :
    mask.run text = [] <-> mask.run out = [] := by
  cases h with
  | nil => rfl
  | @keep _ c text out _ =>
      rw [Mask.run_cons_eq_nil, Mask.run_cons_eq_nil]
  | put hpart _ =>
      constructor
      · intro hrun
        exact absurd hrun (Mask.run_append_ne_nil hpart.2.1 hpart.2.2.1)
      · intro hrun
        exact absurd hrun
          (Mask.run_append_ne_nil (List.cons_ne_nil _ _) mask.isValue_of_mem)

theorem through {front : List symbol} (hfront : forall c, c ∈ front -> c ∈ mask.text)
    (hprevious : forall p, previous = some p -> p ∈ mask.text)
    (h : Replaced mask.text mask.Allowed previous (front ++ text) out) :
    exists behind, out = front ++ behind ∧
      Replaced mask.text mask.Allowed (front.getLast?.or previous) text behind := by
  induction front generalizing previous out with
  | nil => exact ⟨out, rfl, h⟩
  | cons c front ih =>
      rw [List.cons_append] at h
      generalize htext : c :: (front ++ text) = whole at h
      cases h with
      | nil => cases htext
      | keep hrest =>
          rw [List.cons.injEq] at htext
          rcases htext with ⟨hc, hwhole⟩
          subst hc hwhole
          have hmem : c ∈ mask.text := hfront c List.mem_cons_self
          rcases ih (fun d hd => hfront d (List.mem_cons_of_mem c hd))
            (fun p hp => Option.some.inj hp ▸ hmem) hrest with ⟨behind, hout, hbehind⟩
          refine ⟨behind, by rw [hout]; rfl, ?_⟩
          rw [getLast?_cons_or]
          exact hbehind
      | put hpart _ =>
          rcases hpart.1 with ⟨p, hp, hnot⟩
          exact absurd (hprevious p hp) hnot

/--
Right after a symbol that is not of the mask, a run that is the mask in the first text is
the mask in the second, and so is a run that was replaced.
-/
theorem run_eq {p : symbol} (h : Replaced mask.text mask.Allowed (some p) text out)
    (hvalue : mask.run out ≠ []) (hmasked : mask.run text = mask.text) :
    mask.run out = mask.text := by
  generalize hwhole : text = whole at h
  cases h with
  | nil => exact absurd rfl hvalue
  | @put _ part rest out hpart hrest =>
      apply Mask.run_text_append
      exact (run_eq_nil hrest).mp hpart.2.2.2
  | @keep _ c rest out hrest =>
      subst hwhole
      have hsplit := mask.run_append_afterRun (c :: rest)
      rw [hmasked, Mask.text, List.cons_append, List.cons.injEq] at hsplit
      rcases hsplit with ⟨hc, hbehind⟩
      rw [← hbehind] at hrest
      rcases through (fun d hd => List.mem_cons_of_mem _ hd)
        (fun q hq => by rw [← Option.some.inj hq, ← hc]; exact Mask.first_mem) hrest with
        ⟨behind, hout, hafter⟩
      have hnone : mask.run behind = [] :=
        (run_eq_nil hafter).mp (mask.run_afterRun (c :: rest))
      rw [hout, ← hc, ← List.cons_append]
      exact Mask.run_text_append hnone

end Replaced

/-!
## Heads

A head is what a match reads before the value.  Nothing of the mask stands where a head
could take it up: not its first symbol in a head, not the last symbol of a head in it, and
no head begins inside a head or inside the mask.
-/

structure Heads (mask : Mask symbol) where
  head? : List symbol -> Option (List symbol × List symbol)
  IsHead : List symbol -> Prop
  head?_eq_some_iff : forall text head rest, head? text = some (head, rest) <->
    text = head ++ rest ∧ IsHead head ∧ mask.run rest ≠ []
  first_notMem : forall head, IsHead head -> mask.first ∉ head
  exists_last : forall head, IsHead head ->
    exists p, head.getLast? = some p ∧ p ∉ mask.text
  not_inside : forall front back rest head rest', IsHead (front ++ back) -> front ≠ [] ->
    back ≠ [] -> IsHead head -> back ++ rest ≠ head ++ rest'
  not_in_mask : forall front back rest head rest', mask.text = front ++ back -> back ≠ [] ->
    IsHead head -> back ++ rest ≠ head ++ rest'

namespace Heads

variable {mask : Mask symbol} (heads : Heads mask)

def match? (text : List symbol) : Option (List symbol × List symbol) :=
  (heads.head? text).map fun found => (found.1 ++ mask.text, mask.afterRun found.2)

def sub (text : List symbol) : List symbol := replaceAll heads.match? text

/-- The value of a head is the mask, wherever in the text the head stands. -/
def Masked (text : List symbol) : Prop :=
  forall front back head rest, text = front ++ back -> heads.head? back = some (head, rest) ->
    mask.run rest = mask.text

variable {heads}

theorem ne_nil {head : List symbol} (h : heads.IsHead head) : head ≠ [] := by
  rcases heads.exists_last head h with ⟨p, hp, _⟩
  intro hnil
  rw [hnil] at hp
  cases hp

theorem match?_eq_none {text : List symbol} (h : heads.head? text = none) :
    heads.match? text = none := by
  rw [match?, h]
  rfl

theorem match?_eq_some {text head rest : List symbol} (h : heads.head? text = some (head, rest)) :
    heads.match? text = some (head ++ mask.text, mask.afterRun rest) := by
  rw [match?, h]
  rfl

theorem shrinks : Shrinks heads.match? := by
  intro text replacement rest hmatch
  cases hhead : heads.head? text with
  | none =>
      rw [match?_eq_none hhead] at hmatch
      cases hmatch
  | some found =>
      rcases found with ⟨head, behind⟩
      rw [match?_eq_some hhead] at hmatch
      cases hmatch
      rcases (heads.head?_eq_some_iff _ _ _).mp hhead with ⟨htext, hisHead, _⟩
      have hpos := List.length_pos_of_ne_nil (ne_nil hisHead)
      have hle : (mask.afterRun behind).length ≤ behind.length :=
        (List.dropWhile_sublist _).length_le
      rw [htext, List.length_append]
      omega

theorem sub_of_none {c : symbol} {text : List symbol} (h : heads.head? (c :: text) = none) :
    heads.sub (c :: text) = c :: heads.sub text :=
  replaceAll_of_none (match?_eq_none h)

theorem sub_of_some {text head rest : List symbol}
    (h : heads.head? text = some (head, rest)) :
    heads.sub text = head ++ (mask.text ++ heads.sub (mask.afterRun rest)) := by
  rw [sub, replaceAll_of_some shrinks (match?_eq_some h), List.append_assoc]
  rfl

/--
Induction along a substitution: a symbol that is kept, or a head, its value and the text
after it.
-/
theorem sub_induction (heads : Heads mask) {motive : List symbol -> Prop} (nil : motive [])
    (none : forall c text, heads.head? (c :: text) = none -> motive text -> motive (c :: text))
    (some : forall head rest, heads.head? (head ++ rest) = some (head, rest) ->
      heads.IsHead head -> mask.run rest ≠ [] -> motive (mask.afterRun rest) ->
        motive (head ++ rest))
    (text : List symbol) : motive text := by
  generalize hlength : text.length = n
  induction n using Nat.strong_induction_on generalizing text with
  | _ n ih =>
      subst hlength
      cases hhead : heads.head? text with
      | none =>
          cases text with
          | nil => exact nil
          | cons c text => exact none c text hhead (ih _ (Nat.lt_succ_self _) text rfl)
      | some found =>
          rcases found with ⟨head, rest⟩
          have hshort := shrinks _ _ _ (match?_eq_some hhead)
          rcases (heads.head?_eq_some_iff _ _ _).mp hhead with ⟨htext, hisHead, hvalue⟩
          subst htext
          exact some head rest hhead hisHead hvalue (ih _ hshort _ rfl)

/-- Only values are replaced, each right after a head. -/
theorem sub_replaced (heads : Heads mask) (previous : Option symbol) (text : List symbol) :
    Replaced mask.text mask.Allowed previous text (heads.sub text) := by
  induction text using sub_induction heads generalizing previous with
  | nil => exact Replaced.nil previous
  | none c text hhead ih =>
      rw [sub_of_none hhead]
      exact Replaced.keep (ih _)
  | some head rest hhead hisHead hvalue ih =>
      rw [sub_of_some hhead]
      apply Replaced.append
      rcases heads.exists_last head hisHead with ⟨p, hp, hnot⟩
      have hallowed : mask.Allowed (head.getLast?.or previous) (mask.run rest)
          (mask.afterRun rest) := by
        constructor
        · exact ⟨p, by rw [hp]; rfl, hnot⟩
        · exact ⟨hvalue, fun c hc => Mask.isValue_of_mem_run hc, mask.run_afterRun rest⟩
      have hput := Replaced.put hallowed (ih none)
      rw [mask.run_append_afterRun rest] at hput
      exact hput

theorem Masked.tail (front : List symbol) {back : List symbol}
    (h : heads.Masked (front ++ back)) : heads.Masked back := by
  intro front' back' head rest hback hhead
  exact h (front ++ front') back' head rest (by rw [hback, List.append_assoc]) hhead

/-- A text whose values are masked already is left as it is. -/
theorem sub_eq_self {text : List symbol} (h : heads.Masked text) : heads.sub text = text := by
  induction text using sub_induction heads with
  | nil => rfl
  | none c text hhead ih =>
      rw [sub_of_none hhead, ih (Masked.tail [c] h)]
  | some head rest hhead hisHead hvalue ih =>
      have hrun : mask.run rest = mask.text := h [] _ head rest rfl hhead
      have hrest := mask.run_append_afterRun rest
      have htail : heads.Masked (mask.afterRun rest) := by
        apply Masked.tail (head ++ mask.run rest)
        rw [List.append_assoc, hrest]
        exact h
      rw [sub_of_some hhead, ih htail, ← hrun, hrest]

theorem head?_of_replaced {previous : Option symbol} {text out head rest : List symbol}
    (h : Replaced mask.text mask.Allowed previous text out)
    (hhead : heads.head? out = some (head, rest)) :
    exists p before, heads.head? text = some (head, before) ∧
      Replaced mask.text mask.Allowed (some p) before rest := by
  rcases (heads.head?_eq_some_iff _ _ _).mp hhead with ⟨hout, hisHead, hvalue⟩
  subst hout
  rcases h.kept rfl (heads.first_notMem head hisHead) with ⟨before, htext, hbefore⟩
  rcases heads.exists_last head hisHead with ⟨p, hp, _⟩
  rw [hp] at hbefore
  refine ⟨p, before, ?_, hbefore⟩
  apply (heads.head?_eq_some_iff _ _ _).mpr
  exact ⟨htext, hisHead, fun hnone => hvalue ((Replaced.run_eq_nil hbefore).mp hnone)⟩

theorem Masked.of_replaced (heads : Heads mask) {previous : Option symbol} {text out : List symbol}
    (hmasked : heads.Masked text) (h : Replaced mask.text mask.Allowed previous text out) :
    heads.Masked out := by
  intro front back head rest hout hhead
  rcases (heads.head?_eq_some_iff _ _ _).mp hhead with ⟨hback, hisHead, hvalue⟩
  subst hout
  rcases h.split with
    ⟨before, behind, middle, htext, hbehind⟩ | ⟨inner, last, tail, hmask, hlast, hin⟩
  · rcases head?_of_replaced hbehind hhead with ⟨p, after, hafter, hrest⟩
    exact Replaced.run_eq hrest hvalue (hmasked before behind head after htext hafter)
  · rw [hback] at hin
    exact absurd hin.symm (heads.not_in_mask inner last tail head rest hmask hlast hisHead)

/-- After one pass every value is the mask. -/
theorem sub_masked (heads : Heads mask) (text : List symbol) : heads.Masked (heads.sub text) := by
  induction text using sub_induction heads with
  | nil =>
      intro front back head rest hsplit hhead
      have hback : back = [] := (List.append_eq_nil_iff.mp hsplit.symm).2
      rcases (heads.head?_eq_some_iff _ _ _).mp hhead with ⟨hhead, hisHead, _⟩
      rw [hback] at hhead
      exact absurd (List.append_eq_nil_iff.mp hhead.symm).1 (ne_nil hisHead)
  | none c text hnone ih =>
      intro front back head rest hsplit hhead
      cases front with
      | nil =>
          rw [List.nil_append] at hsplit
          subst hsplit
          -- The head would have been found in the text before.
          rcases head?_of_replaced (sub_replaced heads none (c :: text)) hhead with
            ⟨_, before, hfound, _⟩
          rw [hnone] at hfound
          cases hfound
      | cons d front =>
          rw [sub_of_none hnone, List.cons_append, List.cons.injEq] at hsplit
          exact ih front back head rest hsplit.2 hhead
  | some head rest hfound hisHead hvalue ih =>
      intro front back head' rest' hsplit hhead
      rcases (heads.head?_eq_some_iff _ _ _).mp hhead with ⟨hback, hisHead', _⟩
      rw [sub_of_some hfound] at hsplit
      have hafter : mask.run (heads.sub (mask.afterRun rest)) = [] :=
        (Replaced.run_eq_nil (sub_replaced heads none _)).mp (mask.run_afterRun rest)
      rcases List.append_eq_append_iff.mp hsplit with
        ⟨more, hfront, hmore⟩ | ⟨part, hpart, hmore⟩
      · -- The second head stands after the first one: in the mask, or after the value.
        rcases List.append_eq_append_iff.mp hmore with
          ⟨beyond, _, hbeyond⟩ | ⟨last, hmask, hlast⟩
        · exact ih beyond back head' rest' hbeyond hhead
        · cases last with
          | nil => exact ih [] back head' rest' (by rw [hlast]; rfl) hhead
          | cons m last =>
              rw [hback] at hlast
              exact absurd hlast.symm
                (heads.not_in_mask more (m :: last) _ _ _ hmask (List.cons_ne_nil m last) hisHead')
      · -- It begins in the first one, so it is the first one.
        rw [hback] at hmore
        cases part with
        | nil =>
            exact absurd hmore.symm
              (heads.not_in_mask [] mask.text _ _ _ rfl (List.cons_ne_nil _ _) hisHead')
        | cons m part =>
            cases front with
            | cons d front =>
                rw [hpart] at hisHead
                exact absurd hmore.symm
                  (heads.not_inside _ _ _ _ _ hisHead (List.cons_ne_nil d front)
                    (List.cons_ne_nil m part) hisHead')
            | nil =>
                rw [List.nil_append] at hpart
                have hsame : heads.head? back = some (head, mask.text ++ _) :=
                  (heads.head?_eq_some_iff _ _ _).mpr ⟨by rw [hback, hmore, hpart], hisHead,
                    Mask.run_append_ne_nil (List.cons_ne_nil _ _) mask.isValue_of_mem⟩
                rw [hhead] at hsame
                cases hsame
                exact Mask.run_text_append hafter

end Heads

end Foundation
end YasinMcp
