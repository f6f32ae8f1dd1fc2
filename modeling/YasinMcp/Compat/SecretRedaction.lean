import YasinMcp.Compat.CoreContracts
import YasinMcp.Foundation.Scanning

/-!
# Credentials in Core messages

The message of a Core error record is redacted by two substitutions: of the value of a
secret word, and of tokens of three segments.  A credential is hidden by them when it has
such a token or such a word itself, wherever it stands.
-/

namespace YasinMcp

open Foundation

/-!
## The value of a secret word
-/

def isCoreValue (c : Char) : Bool :=
  !Text.isSpace c

theorem isCoreValue_of_mem_stars (c : Char) (h : c ∈ '*' :: "**".toList) :
    isCoreValue c = true := by
  revert c
  exact List.forall_iff_forall_mem.mp (by decide)

theorem eq_star_of_mem : forall c, c ∈ "***".toList -> c = '*' :=
  List.forall_iff_forall_mem.mp (by decide)

def coreMask : Mask Char where
  isValue := isCoreValue
  first := '*'
  others := "**".toList
  isValue_of_mem := isCoreValue_of_mem_stars

theorem isSpace_of_isCoreValue (c : Char) (h : isCoreValue c = true) :
    Text.isSpace c = false :=
  (Bool.not_eq_true' _).mp h

theorem isKeySeparator_of_mem_stars (c : Char) (h : c ∈ coreMask.text) :
    isKeySeparator c = false := by
  revert c
  exact List.forall_iff_forall_mem.mp (by decide)

def coreValues : Alphabet coreMask :=
  keyValues coreMask isSpace_of_isCoreValue isKeySeparator_of_mem_stars

def secretWordPattern : KeyPattern Char where
  keys := secretWords.map String.toList
  scheme := none

theorem secretWordPattern_clean : coreValues.Clean secretWordPattern := by
  decide

def coreHeads : Heads coreMask := coreValues.heads secretWordPattern secretWordPattern_clean

theorem coreRun_dropBlanks (text : List Char) :
    coreMask.run (text.dropWhile Text.isSpace) = [] <-> text.dropWhile Text.isSpace = [] := by
  constructor
  · intro hrun
    cases hvalue : text.dropWhile Text.isSpace with
    | nil => rfl
    | cons c value =>
        have hnot := List.head?_dropWhile_not Text.isSpace text
        rw [hvalue] at hnot hrun
        rw [Mask.run_cons_eq_nil] at hrun
        have hspace : Text.isSpace c = true := (Bool.not_eq_false' _).mp hrun
        exact absurd (hspace.symm.trans hnot) (by decide)
  · intro hnil
    rw [hnil]
    rfl

theorem take_before_value {n : Nat} {text afterSeparator : List Char} {separator : Char}
    (h : (text.drop n).dropWhile Text.isSpace = separator :: afterSeparator) :
    text.take (text.length - (afterSeparator.dropWhile Text.isSpace).length) =
      text.take n ++ (text.drop n).takeWhile Text.isSpace ++
        separator :: afterSeparator.takeWhile Text.isSpace := by
  have htext := List.take_append_drop n text
  have hgap := List.takeWhile_append_dropWhile (p := Text.isSpace) (l := text.drop n)
  have hblanks := List.takeWhile_append_dropWhile (p := Text.isSpace) (l := afterSeparator)
  rw [h] at hgap
  generalize afterSeparator.dropWhile Text.isSpace = value at hblanks
  have hwhole : text = text.take n ++ (text.drop n).takeWhile Text.isSpace ++
      separator :: afterSeparator.takeWhile Text.isSpace ++ value := by
    rw [List.append_assoc _ _ value, List.cons_append, hblanks, List.append_assoc, hgap, htext]
  have hlength := congrArg List.length hwhole
  rw [List.length_append] at hlength
  have hfront := congrArg (List.take (text.length - value.length)) hwhole
  rw [List.take_left' (by omega)] at hfront
  exact hfront

/-- The pattern of the first substitution is a pattern of keys. -/
theorem secretMatch?_eq (text : List Char) :
    secretMatch? text = (coreValues.head? secretWordPattern text).map fun found =>
      (found.1 ++ coreMask.text, coreMask.afterRun found.2) := by
  unfold secretMatch? Alphabet.head? secretWordPattern
  simp only [List.findSome?_map, Option.map_map, Function.comp_def]
  rw [List.map_findSome?]
  congr 1
  funext word
  rw [Function.comp_apply]
  by_cases hword : (text.take word.length).map ignoreCase = word.toList
  · have hafter : coreValues.afterWord? word.toList text = some (text.drop word.length) := by
      rw [Alphabet.afterWord?, String.length_toList]
      exact if_pos hword
    rw [if_pos hword, Alphabet.afterHead?, hafter, Option.bind_eq_bind, Option.bind_some,
      show coreValues.isBlank = Text.isSpace from rfl]
    cases hseparator : (text.drop word.length).dropWhile Text.isSpace with
    | nil => rfl
    | cons separator afterSeparator =>
        dsimp only
        by_cases hkey : isKeySeparator separator = true
        · have hread : coreValues.afterSeparator? (separator :: afterSeparator) =
              some afterSeparator := by
            rw [Alphabet.afterSeparator?]
            exact if_pos hkey
          rw [hread, Option.bind_some, Alphabet.afterScheme?, Option.bind_some]
          by_cases hvalue : afterSeparator.dropWhile Text.isSpace = []
          · rw [if_neg (fun h => h.2 hvalue), if_pos ((coreRun_dropBlanks _).mpr hvalue)]
            rfl
          · rw [if_pos ⟨(isKeySeparator_iff separator).mp hkey, hvalue⟩,
              if_neg (fun h => hvalue ((coreRun_dropBlanks _).mp h)), Option.map_some,
              take_before_value hseparator]
            rfl
        · have hread : coreValues.afterSeparator? (separator :: afterSeparator) = none := by
            rw [Alphabet.afterSeparator?]
            exact if_neg hkey
          rw [hread, if_neg (fun h => hkey ((isKeySeparator_iff separator).mpr h.1))]
          rfl
  · have hafter : coreValues.afterWord? word.toList text = none := by
      rw [Alphabet.afterWord?, String.length_toList]
      exact if_neg hword
    rw [if_neg hword, Alphabet.afterHead?, hafter]
    rfl

/-!
## Tokens of three segments
-/

def IsSegment (segment : List Char) : Prop :=
  segment ≠ [] ∧ forall c, c ∈ segment -> isTokenChar c = true

inductive IsJwt : List Char -> Prop where
  | intro {first second third : List Char} (hfirst : IsSegment first)
      (hsecond : IsSegment second) (hthird : IsSegment third) :
      IsJwt ("eyJ".toList ++ (first ++ '.' :: (second ++ '.' :: third)))

theorem tokenSegment?_eq_some {text rest : List Char} (h : tokenSegment? text = some rest) :
    exists segment, IsSegment segment ∧ text = segment ++ rest := by
  unfold tokenSegment? at h
  split at h
  · cases h
  · next hne =>
      cases h
      exact ⟨text.takeWhile isTokenChar, ⟨hne, fun _ hc => List.mem_takeWhile_imp hc⟩,
        List.takeWhile_append_dropWhile.symm⟩

theorem tokenSegment?_append {segment : List Char} (h : IsSegment segment) (rest : List Char) :
    tokenSegment? (segment ++ rest) = some (rest.dropWhile isTokenChar) := by
  unfold tokenSegment?
  rw [List.takeWhile_append_of_pos h.2, List.dropWhile_append_of_pos h.2]
  exact if_neg fun hnil => h.1 (List.append_eq_nil_iff.mp hnil).1

theorem dotSegment?_eq_some {text rest : List Char} (h : dotSegment? text = some rest) :
    exists segment, IsSegment segment ∧ text = '.' :: (segment ++ rest) := by
  unfold dotSegment? at h
  split at h
  · rcases tokenSegment?_eq_some h with ⟨segment, hsegment, htext⟩
    exact ⟨segment, hsegment, by rw [htext]⟩
  · cases h

theorem IsJwt.mem {token : List Char} (h : IsJwt token) {c : Char} (hc : c ∈ token) :
    isTokenChar c = true ∨ c = '.' := by
  cases h with
  | intro hfirst hsecond hthird =>
      rcases List.mem_append.mp hc with hmark | hc
      · have hmarks : forall d, d ∈ "eyJ".toList -> isTokenChar d = true :=
          List.forall_iff_forall_mem.mp (by decide)
        exact Or.inl (hmarks c hmark)
      · rcases List.mem_append.mp hc with hc | hc
        · exact Or.inl (hfirst.2 c hc)
        · rcases List.mem_cons.mp hc with hc | hc
          · exact Or.inr hc
          · rcases List.mem_append.mp hc with hc | hc
            · exact Or.inl (hsecond.2 c hc)
            · rcases List.mem_cons.mp hc with hc | hc
              · exact Or.inr hc
              · exact Or.inl (hthird.2 c hc)

theorem IsJwt.notMem {token : List Char} (h : IsJwt token) {c : Char}
    (hchar : isTokenChar c = false) (hdot : c ≠ '.') : c ∉ token := by
  intro hc
  rcases h.mem hc with htoken | hc
  · rw [htoken] at hchar
    cases hchar
  · exact hdot hc

theorem jwtMatch?_found (text replacement rest : List Char)
    (h : jwtMatch? text = some (replacement, rest)) :
    replacement = coreMask.text ∧ exists token, IsJwt token ∧ text = token ++ rest := by
  unfold jwtMatch? at h
  split at h
  · rcases Option.bind_eq_some_iff.mp h with ⟨afterFirst, hfirst, h⟩
    rcases Option.bind_eq_some_iff.mp h with ⟨afterSecond, hsecond, h⟩
    rcases Option.bind_eq_some_iff.mp h with ⟨afterThird, hthird, h⟩
    rw [Option.some.injEq, Prod.mk.injEq] at h
    rcases h with ⟨hreplacement, hrest⟩
    subst hreplacement hrest
    rcases tokenSegment?_eq_some hfirst with ⟨first, hisFirst, htext⟩
    rcases dotSegment?_eq_some hsecond with ⟨second, hisSecond, hafterFirst⟩
    rcases dotSegment?_eq_some hthird with ⟨third, hisThird, hafterSecond⟩
    refine ⟨rfl, _, IsJwt.intro hisFirst hisSecond hisThird, ?_⟩
    rw [htext, hafterFirst, hafterSecond]
    simp only [List.append_assoc, List.cons_append]
    rfl
  · cases h

theorem jwtMatch?_finds (token rest : List Char) (h : IsJwt token) :
    jwtMatch? (token ++ rest) ≠ none := by
  cases h with
  | @intro first second third hfirst hsecond hthird =>
      have hdot : forall text, ('.' :: text).dropWhile isTokenChar = '.' :: text := by
        intro text
        rfl
      have hmatch : jwtMatch? ("eyJ".toList ++ (first ++ '.' :: (second ++ '.' :: third)) ++ rest)
          = some ("***".toList, rest.dropWhile isTokenChar) := by
        simp only [List.append_assoc, List.cons_append]
        show (tokenSegment? (first ++ '.' :: (second ++ '.' :: (third ++ rest))) >>= fun text =>
          dotSegment? text >>= fun text => dotSegment? text >>= fun text =>
            some ("***".toList, text)) = _
        rw [tokenSegment?_append hfirst, hdot]
        show (tokenSegment? (second ++ '.' :: (third ++ rest)) >>= fun text =>
          dotSegment? text >>= fun text => some ("***".toList, text)) = _
        rw [tokenSegment?_append hsecond, hdot]
        show (tokenSegment? (third ++ rest) >>= fun text => some ("***".toList, text)) = _
        rw [tokenSegment?_append hthird]
        rfl
      rw [hmatch]
      exact Option.some_ne_none _

theorem jwtMatcher : TokenMatcher coreMask.text IsJwt jwtMatch? where
  found := jwtMatch?_found
  finds := jwtMatch?_finds
  ne_nil := by
    intro token htoken
    cases htoken with
    | intro _ _ _ => exact List.cons_ne_nil _ _
  notMem := by
    intro token htoken c hc
    rw [eq_star_of_mem c hc]
    exact htoken.notMem (by decide) (by decide)
  mask_ne_nil := List.cons_ne_nil _ _

/-!
## What is left after both
-/

def cleanSecrets (text : List Char) : List Char :=
  replaceAll jwtMatch? (coreValues.sub secretWordPattern text)

theorem redactSecretsCompatible_eq (text : String) (limit : Int) :
    redactSecretsCompatible text limit =
      String.ofList ((cleanSecrets text.toList).take (max 1 limit).toNat) := by
  have hmatch : secretMatch? = fun text =>
      (coreValues.head? secretWordPattern text).map fun found =>
        (found.1 ++ coreMask.text, coreMask.afterRun found.2) := funext secretMatch?_eq
  unfold redactSecretsCompatible
  rw [hmatch, ← String.length_toList]
  rfl

theorem cleanSecrets_replaced (text : List Char) :
    Replaced coreMask.text (fun _ part _ => IsJwt part) none
      (coreValues.sub secretWordPattern text) (cleanSecrets text) :=
  jwtMatcher.replaced none _

theorem sub_secretWord_masked (text : List Char) :
    coreValues.Masked secretWordPattern (coreValues.sub secretWordPattern text) :=
  Heads.sub_masked (coreValues.heads secretWordPattern secretWordPattern_clean) text

theorem run_of_replaced {previous : Option Char} {text out : List Char}
    (h : Replaced coreMask.text (fun _ part _ => IsJwt part) previous text out)
    (hout : coreMask.run out ≠ []) : coreMask.run text ≠ [] := by
  cases h with
  | nil => exact hout
  | keep _ => exact Mask.run_cons_ne_nil.mpr (Mask.run_cons_ne_nil.mp hout)
  | put htoken _ =>
      cases htoken with
      | intro _ _ _ => exact Mask.run_cons_ne_nil.mpr (by decide)

theorem cleanSecrets_value {text front back word value : List Char} {separator : Char}
    (hword : word.map ignoreCase ∈ secretWords.map String.toList)
    (hseparator : isKeySeparator separator = true)
    (hvalue : forall c, c ∈ value -> Text.isSpace c = false) (hne : value ≠ [])
    (hout : cleanSecrets text = front ++ (word ++ [separator] ++ (value ++ back))) :
    value <+: coreMask.text := by
  have hhead : coreValues.IsHead secretWordPattern (word ++ [separator]) :=
    Alphabet.IsHead.of_key rfl hword hseparator
  have hisValue : forall c, c ∈ value -> coreMask.isValue c = true := fun c hc =>
    (Bool.not_eq_true' _).mpr (hvalue c hc)
  have hreplaced := cleanSecrets_replaced text
  rw [hout] at hreplaced
  rcases hreplaced.split with
    ⟨before, behind, middle, htext, hbehind⟩ | ⟨inner, last, rest, hmask, hlast, hin⟩
  · rcases hbehind.kept rfl (hhead.first_notMem secretWordPattern_clean) with
      ⟨after, hafterHead, hafter⟩
    have hrun : coreMask.run after ≠ [] :=
      run_of_replaced hafter (Mask.run_append_ne_nil hne hisValue)
    rw [hafterHead] at htext
    have hmasked : coreMask.run after = coreMask.text :=
      sub_secretWord_masked text before _ _ after htext
        (Alphabet.head?_append secretWordPattern_clean hhead hrun)
    rw [← coreMask.run_append_afterRun after, hmasked] at hafter
    rcases jwtMatcher.kept_mask (fun c hc => hc) hafter with ⟨out, previous, hsame, hrest⟩
    rcases List.append_eq_append_iff.mp hsame with ⟨more, hmore, _⟩ | ⟨more, hmore, hbeyond⟩
    · exact ⟨more, hmore.symm⟩
    · cases more with
      | nil =>
          rw [hmore, List.append_nil]
      | cons c more =>
          -- The value would go on past the mask.
          have hc : c ∈ value := by
            rw [hmore]
            exact List.mem_append_right _ List.mem_cons_self
          have hbeyondRun : coreMask.run out ≠ [] := by
            rw [hbeyond]
            exact Mask.run_cons_ne_nil.mpr (hisValue c hc)
          exact absurd (coreMask.run_afterRun after) (run_of_replaced hrest hbeyondRun)
  · exact absurd hin.symm
      (hhead.not_in_mask secretWordPattern_clean hmask hlast)

/-!
## What the credential says

A credential is hidden when it holds a token of three segments, or a secret word with
a separator and a value of its own.
-/

def HasJwt (credential : List Char) : Prop :=
  exists token, IsJwt token ∧ token <:+: credential

def AssignsSecret (credential : List Char) : Prop :=
  exists front word separator value, credential = front ++ (word ++ separator :: value) ∧
    word.map ignoreCase ∈ secretWords.map String.toList ∧ isKeySeparator separator = true ∧
    ¬ value <+: "***".toList

theorem cleanSecrets_noJwt {credential text : List Char} (h : HasJwt credential) :
    ¬ credential <:+: cleanSecrets text := by
  intro hinfix
  rcases h with ⟨token, htoken, hin⟩
  exact jwtMatcher.not_infix htoken _ (hin.trans hinfix)

theorem cleanSecrets_noAssignment {credential text : List Char} (h : AssignsSecret credential)
    (hblank : forall c, c ∈ credential -> Text.isSpace c = false) :
    ¬ credential <:+: cleanSecrets text := by
  intro hinfix
  rcases h with ⟨front, word, separator, value, hcredential, hword, hseparator, hvalue⟩
  rcases hinfix with ⟨before, behind, hout⟩
  apply hvalue
  have hne : value ≠ [] := by
    intro hnil
    rw [hnil] at hvalue
    exact hvalue List.nil_prefix
  have hvalueBlank : forall c, c ∈ value -> Text.isSpace c = false := by
    intro c hc
    apply hblank
    rw [hcredential]
    exact List.mem_append_right _ (List.mem_append_right _ (List.mem_cons_of_mem _ hc))
  have hwhole : cleanSecrets text =
      before ++ front ++ (word ++ [separator] ++ (value ++ behind)) := by
    rw [← hout, hcredential]
    simp only [List.append_assoc, List.cons_append, List.nil_append]
  exact cleanSecrets_value hword hseparator hvalueBlank hne hwhole

theorem head_of_not_blank {head rest : List Char}
    (hhead : coreValues.IsHead secretWordPattern head)
    (hblank : forall c, c ∈ head ++ rest -> Text.isSpace c = false) :
    exists word separator, head = word ++ [separator] ∧
      word.map ignoreCase ∈ secretWords.map String.toList ∧ isKeySeparator separator = true := by
  have hnil : forall gap : List Char, coreValues.Blank gap ->
      (forall c, c ∈ gap -> c ∈ head) -> gap = [] := by
    intro gap hgap hin
    cases gap with
    | nil => rfl
    | cons c gap =>
        have hspace : Text.isSpace c = true := hgap c List.mem_cons_self
        rw [hblank c (List.mem_append_left _ (hin c List.mem_cons_self))] at hspace
        cases hspace
  cases hhead with
  | @intro word gap gap' tail separator hword hgap hseparator hgap' htail =>
      have hgapNil := hnil gap hgap (fun c hc => by simp [hc])
      have hgapNil' := hnil gap' hgap' (fun c hc => by simp [hc])
      cases htail
      refine ⟨word, separator, ?_, hword, hseparator⟩
      rw [hgapNil, hgapNil']
      rfl

/-- Nothing, or white space first. -/
def EndsWord (text : List Char) : Prop :=
  forall c rest, text = c :: rest -> Text.isSpace c = true

theorem coreHead?_boundary {c : Char} (h : coreValues.isBoundary c = true) (text : List Char) :
    coreValues.head? secretWordPattern (c :: text) = none := by
  by_contra hsome
  rcases Option.ne_none_iff_exists'.mp hsome with ⟨⟨head, rest⟩, hfound⟩
  rcases Alphabet.head?_eq_some hfound with ⟨htext, hhead, _⟩
  have hkey : coreValues.NoKey secretWordPattern [c] :=
    Alphabet.NoKey.boundary secretWordPattern_clean h
  exact Alphabet.NoKey.ne_head secretWordPattern_clean hkey hhead htext

theorem sub_boundaries {gap : List Char}
    (h : forall c, c ∈ gap -> coreValues.isBoundary c = true) (text : List Char) :
    coreValues.sub secretWordPattern (gap ++ text) =
      gap ++ coreValues.sub secretWordPattern text := by
  rw [← Alphabet.heads_sub secretWordPattern_clean, ← Alphabet.heads_sub secretWordPattern_clean]
  induction gap with
  | nil => rfl
  | cons c gap ih =>
      have hnone := coreHead?_boundary (h c List.mem_cons_self) (gap ++ text)
      rw [List.cons_append, Heads.sub_of_none hnone,
        ih fun d hd => h d (List.mem_cons_of_mem c hd), List.cons_append]

theorem sub_of_endsWord {text : List Char} (h : EndsWord text) :
    EndsWord (coreValues.sub secretWordPattern text) := by
  cases text with
  | nil =>
      intro c rest hcons
      cases hcons
  | cons c text =>
      have hspace := h c text rfl
      have hboundary : forall d, d ∈ [c] -> coreValues.isBoundary d = true := by
        intro d hd
        rw [List.mem_singleton.mp hd]
        exact Alphabet.isBoundary_of_blank hspace
      have hsub := sub_boundaries hboundary text
      rw [List.singleton_append] at hsub
      intro d rest hcons
      rw [hsub, List.singleton_append, List.cons.injEq] at hcons
      rw [← hcons.1]
      exact hspace

/-- Nothing, or a symbol that no token has: white space or a star. -/
def EndsToken (text : List Char) : Prop :=
  forall c rest, text = c :: rest -> Text.isSpace c = true ∨ c = '*'

/-- Otherwise the credential stays, before white space, a star or the end. -/
theorem sub_credential {credential after : List Char}
    (hblank : forall c, c ∈ credential -> Text.isSpace c = false)
    (hassigns : ¬ AssignsSecret credential) (hafter : EndsWord after) :
    exists tail, coreValues.sub secretWordPattern (credential ++ after) = credential ++ tail ∧
      EndsToken tail := by
  generalize hlength : credential.length = n
  induction n using Nat.strong_induction_on generalizing credential with
  | _ n ih =>
      subst hlength
      have hlast : exists tail, coreValues.sub secretWordPattern after = tail ∧ EndsToken tail :=
        ⟨_, rfl, fun c rest hcons => Or.inl (sub_of_endsWord hafter c rest hcons)⟩
      cases credential with
      | nil => exact hlast
      | cons c credential =>
          cases hfound : coreValues.head? secretWordPattern (c :: credential ++ after) with
          | none =>
              have htail : ¬ AssignsSecret credential := by
                intro h
                rcases h with ⟨front, word, separator, value, htext, hrest⟩
                exact hassigns ⟨c :: front, word, separator, value, by rw [htext]; rfl, hrest⟩
              rcases ih credential.length (Nat.lt_succ_self _)
                (fun d hd => hblank d (List.mem_cons_of_mem c hd)) htail rfl with
                ⟨tail, hsub, hends⟩
              refine ⟨tail, ?_, hends⟩
              rw [← Alphabet.heads_sub secretWordPattern_clean] at hsub ⊢
              rw [List.cons_append] at hfound ⊢
              rw [Heads.sub_of_none hfound, hsub, List.cons_append]
          | some found =>
              rcases found with ⟨head, rest⟩
              rcases Alphabet.head?_eq_some hfound with ⟨hsplit, hhead, _⟩
              have hsub := Heads.sub_of_some (show (coreValues.heads secretWordPattern
                secretWordPattern_clean).head? _ = some (head, rest) from hfound)
              rw [Alphabet.heads_sub secretWordPattern_clean] at hsub
              rcases List.append_eq_append_iff.mp hsplit with
                ⟨part, hpart, hrest⟩ | ⟨part, hpart, hrest⟩
              · -- The head goes on past the credential, and its value stands after it.
                refine ⟨part ++ (coreMask.text ++ _), by
                  rw [hsub, hpart, List.append_assoc], ?_⟩
                intro d more hcons
                cases part with
                | nil =>
                    rw [List.nil_append, Mask.text, List.cons_append, List.cons.injEq] at hcons
                    exact Or.inr hcons.1.symm
                | cons e part =>
                    rw [List.cons_append, List.cons.injEq] at hcons
                    rw [← hcons.1]
                    exact Or.inl (hafter e _ hrest)
              · have hpartBlank : forall d, d ∈ head ++ part -> Text.isSpace d = false := by
                  rw [← hpart]
                  exact hblank
                rcases head_of_not_blank hhead hpartBlank with
                  ⟨word, separator, hword, hkey, hseparator⟩
                have hprefix : part <+: "***".toList := by
                  by_contra hnot
                  apply hassigns
                  refine ⟨[], word, separator, part, ?_, hkey, hseparator, hnot⟩
                  rw [hpart, hword, List.append_assoc]
                  rfl
                have hvalues : forall d, d ∈ part -> coreMask.isValue d = true := fun d hd =>
                  (Bool.not_eq_true' _).mpr (hpartBlank d (List.mem_append_right _ hd))
                have hrun : coreMask.afterRun (part ++ after) = after := by
                  rw [Heads.afterRun_append_of_forall hvalues]
                  cases after with
                  | nil => rfl
                  | cons d after =>
                      apply List.dropWhile_cons_of_neg
                      simp [coreMask, isCoreValue, hafter d after rfl]
                rcases hprefix with ⟨stars, hstars⟩
                rcases hlast with ⟨tail, htail, hends⟩
                refine ⟨stars ++ tail, ?_, ?_⟩
                · rw [hsub, hrest, hrun, Alphabet.heads_sub secretWordPattern_clean, htail, hpart,
                    show coreMask.text = "***".toList from rfl, ← hstars]
                  simp only [List.append_assoc]
                · intro d more hcons
                  cases stars with
                  | nil => exact hends d more hcons
                  | cons e stars =>
                      rw [List.cons_append, List.cons.injEq] at hcons
                      right
                      rw [← hcons.1]
                      apply eq_star_of_mem
                      rw [← hstars]
                      exact List.mem_append_right _ List.mem_cons_self

end YasinMcp
