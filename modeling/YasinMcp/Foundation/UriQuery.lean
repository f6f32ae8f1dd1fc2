import YasinMcp.Foundation.UriSegments

/-!
# Parameters of a query

A query is names and values, with marks between them.  Bytes that are written with escapes
hold no mark, so a query is read as the parameters that it was written from, whatever their
bytes are.
-/

namespace YasinMcp
namespace Foundation
namespace Uri

/-- The name and the value of a parameter, in bytes. -/
abbrev Parameter := List UInt8 × List UInt8

/-- A name or a value as it is read, where a plus is a blank. -/
def readBytes? (cs : List Char) : Option (List UInt8) :=
  decode? (fun c => isQueryChar c || c = ' ') (cs.map fun c => if c = '+' then ' ' else c)

def readParameter? (field : List Char) : Option Parameter := do
  let name ← readBytes? (cut '=' field).1
  let value ← readBytes? ((cut '=' field).2.getD [])
  some (name, value)

def readParameters? (query : List Char) : Option (List Parameter) :=
  (query.splitOn '&').mapM readParameter?

example : readParameters? "a=1+2&b&c%3D=%26".toList =
    some [(utf8 ['a'], utf8 ['1', ' ', '2']), (utf8 ['b'], []), (utf8 ['c', '='], utf8 ['&'])] := by
  decide +kernel

structure EscapeDigits where
  digit : Nat -> Char
  value : forall n, n < 16 -> Json.hexDigit? (digit n) = some n

namespace EscapeDigits

variable (digits : EscapeDigits)

def writeByte (byte : UInt8) : List Char :=
  if isUnreserved (Char.ofNat byte.toNat) then [Char.ofNat byte.toNat]
  else ['%', digits.digit (byte.toNat / 16), digits.digit (byte.toNat % 16)]

def writeBytes (bytes : List UInt8) : List Char :=
  bytes.flatMap digits.writeByte

def writeParameter (parameter : Parameter) : List Char :=
  digits.writeBytes parameter.1 ++ '=' :: digits.writeBytes parameter.2

def writeParameters (parameters : List Parameter) : List Char :=
  ['&'].intercalate (parameters.map digits.writeParameter)

end EscapeDigits

/-!
## Escapes
-/

theorem utf8EncodeChar_unreserved : forall n, n < 256 -> isUnreserved (Char.ofNat n) = true ->
    String.utf8EncodeChar (Char.ofNat n) = [UInt8.ofNat n] := by
  decide +kernel

theorem toNat_of_isUnreserved {c : Char} (h : isUnreserved c = true) : c.toNat < 128 := by
  rw [isUnreserved, Bool.or_eq_true] at h
  rcases h with halphanum | hmark
  · exact (Text.toNat_of_isAlphanum halphanum).2.trans (by decide)
  · have hmarks : "-._~".toList.Forall fun mark => mark.toNat < 128 := by decide
    exact List.forall_iff_forall_mem.mp hmarks c (List.contains_iff_mem.mp hmark)

theorem isUnreserved_of_isDigit {c : Char} (h : c.isDigit = true) : isUnreserved c = true := by
  delta isUnreserved Char.isAlphanum
  rw [h, Bool.or_true, Bool.true_or]

theorem isUnreserved_of_hexDigit? {c : Char} {n : Nat} (h : Json.hexDigit? c = some n) :
    isUnreserved c = true := by
  have halphanum : c.isAlphanum = true := by
    delta Char.isAlphanum Char.isAlpha Char.isUpper Char.isLower Char.isDigit
    simp only [Bool.or_eq_true, Bool.and_eq_true, decide_eq_true_eq, UInt32.le_iff_toNat_le,
      ge_iff_le]
    rw [Json.hexDigit?] at h
    simp only [Char.le_def, UInt32.le_iff_toNat_le, Bool.and_eq_true, decide_eq_true_eq] at h
    split at h
    · rename_i hdigit
      exact Or.inr hdigit
    · split at h
      · rename_i hlower
        exact Or.inl (Or.inr ⟨hlower.1, hlower.2.trans (by decide)⟩)
      · split at h
        · rename_i hupper
          exact Or.inl (Or.inl ⟨hupper.1, hupper.2.trans (by decide)⟩)
        · cases h
  rw [isUnreserved, halphanum, Bool.true_or]

theorem decode?_plain {allowed : Char -> Bool} {c : Char} (hpercent : c ≠ '%')
    (hallowed : allowed c = true) (rest : List Char) :
    decode? allowed (c :: rest) =
      (decode? allowed rest).map fun bytes => String.utf8EncodeChar c ++ bytes := by
  rw [decode?.eq_3, if_pos hallowed]
  intro a b tail hc _
  exact hpercent hc

namespace EscapeDigits

variable (digits : EscapeDigits)

theorem mem_writeBytes {bytes : List UInt8} {c : Char} (h : c ∈ digits.writeBytes bytes) :
    isUnreserved c = true ∨ c = '%' := by
  rcases List.mem_flatMap.mp h with ⟨byte, _, hc⟩
  have hlt := byte.toNat_lt
  rw [writeByte] at hc
  split at hc
  · rename_i hunreserved
    rw [List.mem_singleton] at hc
    subst hc
    exact Or.inl hunreserved
  · rcases List.mem_cons.mp hc with hpercent | hdigits
    · exact Or.inr hpercent
    · rcases List.mem_pair.mp hdigits with hhigh | hlow
      · subst hhigh
        exact Or.inl (isUnreserved_of_hexDigit? (digits.value _ (by omega)))
      · subst hlow
        exact Or.inl (isUnreserved_of_hexDigit? (digits.value _ (by omega)))

theorem not_mem_writeBytes (mark : Char) (hreserved : isUnreserved mark = false)
    (hpercent : mark ≠ '%') (bytes : List UInt8) : mark ∉ digits.writeBytes bytes := by
  intro hmem
  rcases mem_writeBytes digits hmem with hunreserved | hescape
  · rw [hreserved] at hunreserved
    cases hunreserved
  · exact hpercent hescape

theorem writeBytes_utf8 {cs : List Char} (h : forall c, c ∈ cs -> isUnreserved c = true) :
    digits.writeBytes (utf8 cs) = cs := by
  induction cs with
  | nil => rfl
  | cons c rest ih =>
      have hunreserved := h c List.mem_cons_self
      have hlt := toNat_of_isUnreserved hunreserved
      have hchar := utf8EncodeChar_unreserved c.toNat (hlt.trans (by decide))
      have hbyte : (UInt8.ofNat c.toNat).toNat = c.toNat :=
        UInt8.toNat_ofNat_of_lt' (hlt.trans (by decide))
      rw [Char.ofNat_toNat] at hchar
      rw [utf8_cons, hchar hunreserved, writeBytes, List.singleton_append, List.flatMap_cons,
        ← writeBytes, ih fun d hd => h d (List.mem_cons_of_mem c hd), writeByte, hbyte,
        Char.ofNat_toNat, if_pos hunreserved]
      rfl

theorem isQueryChar_of_unreserved {c : Char} (h : isUnreserved c = true) :
    isQueryChar c = true := by
  rw [isQueryChar, isPchar, h]
  rfl

theorem decode?_writeByte {allowed : Char -> Bool}
    (hallowed : forall c, isUnreserved c = true -> allowed c = true) (byte : UInt8)
    (rest : List Char) :
    decode? allowed (digits.writeByte byte ++ rest) =
      (decode? allowed rest).map fun bytes => byte :: bytes := by
  have hlt := byte.toNat_lt
  rw [writeByte]
  split
  · rename_i hunreserved
    have hpercent : Char.ofNat byte.toNat ≠ '%' := by
      intro hpercent
      rw [hpercent] at hunreserved
      exact absurd hunreserved (by decide)
    rw [List.singleton_append, decode?_plain hpercent (hallowed _ hunreserved),
      utf8EncodeChar_unreserved byte.toNat hlt hunreserved, UInt8.ofNat_toNat]
    rfl
  · have hbyte : UInt8.ofNat (byte.toNat / 16 * 16 + byte.toNat % 16) = byte := by
      rw [Nat.div_add_mod']
      exact UInt8.ofNat_toNat
    rw [List.cons_append, List.cons_append, List.singleton_append, decode?.eq_2,
      digits.value _ (by omega), digits.value _ (Nat.mod_lt _ (by decide))]
    cases decode? allowed rest with
    | none => rfl
    | some bytes =>
        show some (UInt8.ofNat (byte.toNat / 16 * 16 + byte.toNat % 16) :: bytes) =
          some (byte :: bytes)
        rw [hbyte]

/-- Bytes are decoded from what they are written as. -/
theorem decode?_writeBytes {allowed : Char -> Bool}
    (hallowed : forall c, isUnreserved c = true -> allowed c = true) (bytes : List UInt8)
    (rest : List Char) :
    decode? allowed (digits.writeBytes bytes ++ rest) =
      (decode? allowed rest).map fun read => bytes ++ read := by
  induction bytes with
  | nil => simp [writeBytes]
  | cons byte bytes ih =>
      rw [writeBytes, List.flatMap_cons, List.append_assoc, decode?_writeByte digits hallowed,
        ← writeBytes, ih, Option.map_map]
      rfl

/-!
## Parameters
-/

theorem readBytes?_writeBytes (bytes : List UInt8) :
    readBytes? (digits.writeBytes bytes) = some bytes := by
  have hplus : (digits.writeBytes bytes).map (fun c => if c = '+' then ' ' else c) =
      digits.writeBytes bytes := by
    rw [List.map_congr_left (g := id), List.map_id]
    intro c hc
    apply if_neg
    intro hplus
    subst hplus
    exact not_mem_writeBytes digits _ (by decide) (by decide) bytes hc
  have hallowed : forall c, isUnreserved c = true -> (isQueryChar c || c = ' ') = true := by
    intro c hunreserved
    rw [isQueryChar_of_unreserved hunreserved, Bool.true_or]
  have hread := decode?_writeBytes digits hallowed bytes []
  rw [List.append_nil] at hread
  rw [readBytes?, hplus, hread, decode?, Option.map_some, List.append_nil]

theorem readParameter?_writeParameter (parameter : Parameter) :
    readParameter? (digits.writeParameter parameter) = some parameter := by
  have hcut := cut_append_cons
    (not_mem_writeBytes digits '=' (by decide) (by decide) parameter.1)
    (digits.writeBytes parameter.2)
  rw [readParameter?, writeParameter, hcut, readBytes?_writeBytes digits]
  show (readBytes? (digits.writeBytes parameter.2) >>= fun value => some (parameter.1, value)) = _
  rw [readBytes?_writeBytes digits]
  rfl

theorem writeParameters_cons_cons (parameter other : Parameter) (rest : List Parameter) :
    digits.writeParameters (parameter :: other :: rest) =
      digits.writeParameter parameter ++ '&' :: digits.writeParameters (other :: rest) := by
  rw [writeParameters, List.map_cons, List.map_cons, List.intercalate_cons_cons,
    List.append_assoc]
  rfl

theorem not_mem_writeParameter (mark : Char) (hreserved : isUnreserved mark = false)
    (hpercent : mark ≠ '%') (hequals : mark ≠ '=') (parameter : Parameter) :
    mark ∉ digits.writeParameter parameter := by
  rw [writeParameter, List.mem_append, List.mem_cons, not_or, not_or]
  exact ⟨not_mem_writeBytes digits _ hreserved hpercent _, hequals,
    not_mem_writeBytes digits _ hreserved hpercent _⟩

/-- A query is read as the parameters that it was written from. -/
theorem readParameters?_writeParameters {parameters : List Parameter} (hne : parameters ≠ []) :
    readParameters? (digits.writeParameters parameters) = some parameters := by
  have hmarks : forall field, field ∈ parameters.map digits.writeParameter -> '&' ∉ field := by
    intro field hfield
    rcases List.mem_map.mp hfield with ⟨parameter, _, hparameter⟩
    subst hparameter
    exact not_mem_writeParameter digits _ (by decide) (by decide) (by decide) parameter
  rw [readParameters?, writeParameters, List.splitOn_intercalate '&' hmarks (by simpa using hne)]
  clear hmarks hne
  induction parameters with
  | nil => rfl
  | cons parameter rest ih =>
      rw [List.map_cons, List.mapM_cons, readParameter?_writeParameter digits, ih]
      rfl

end EscapeDigits

/-!
## Identifiers with parameters
-/

/-- The text is read as an identifier of this host with these segments and parameters. -/
def Asks (text host : String) (segs : List (List Char)) (parameters : List Parameter) : Prop :=
  exists uri query, parse? text = some uri ∧ uri.host? = some host ∧
    (segments uri.path).map (decode? isPchar) = ([] :: segs).map (fun seg => some (utf8 seg)) ∧
    uri.hasDotSegment = false ∧ uri.query = some query ∧
    readParameters? query = some parameters ∧ uri.fragment = none

namespace EscapeDigits

variable (digits : EscapeDigits)

theorem decode?_writeParameters (parameters : List Parameter) :
    (decode? isQueryChar (digits.writeParameters parameters)).isSome = true := by
  have happend : forall bytes rest, (decode? isQueryChar rest).isSome = true ->
      (decode? isQueryChar (digits.writeBytes bytes ++ rest)).isSome = true := by
    intro bytes rest hrest
    rw [decode?_writeBytes digits (fun c => isQueryChar_of_unreserved), Option.isSome_map]
    exact hrest
  have hparameter : forall parameter rest, (decode? isQueryChar rest).isSome = true ->
      (decode? isQueryChar (digits.writeParameter parameter ++ rest)).isSome = true := by
    intro parameter rest hrest
    rw [writeParameter, List.append_assoc, List.cons_append]
    apply happend
    rw [decode?_plain (by decide) (by decide), Option.isSome_map]
    exact happend _ _ hrest
  induction parameters with
  | nil => rfl
  | cons parameter rest ih =>
      cases rest with
      | nil =>
          have halone := hparameter parameter [] rfl
          rw [List.append_nil] at halone
          rw [writeParameters, List.map_singleton, List.intercalate_singleton]
          exact halone
      | cons other rest =>
          rw [digits.writeParameters_cons_cons]
          apply hparameter
          rw [decode?_plain (by decide) (by decide), Option.isSome_map]
          exact ih

theorem not_mem_writeParameters (parameters : List Parameter) :
    '#' ∉ digits.writeParameters parameters := by
  have hparameter := not_mem_writeParameter digits '#' (by decide)
    (by decide) (by decide)
  induction parameters with
  | nil => exact List.not_mem_nil
  | cons parameter rest ih =>
      cases rest with
      | nil =>
          rw [writeParameters, List.map_singleton, List.intercalate_singleton]
          exact hparameter parameter
      | cons other rest =>
          rw [digits.writeParameters_cons_cons, List.mem_append, List.mem_cons, not_or, not_or]
          exact ⟨hparameter parameter, by decide, ih⟩

/-- Under a site, plain segments and any parameters are read as they were written. -/
theorem asks_route (site : Site) {segs : List (List Char)} (hne : segs ≠ [])
    (hplain : forall seg, seg ∈ segs -> IsPlainSegment seg) {parameters : List Parameter}
    (hsome : parameters ≠ []) :
    Asks (site.route segs (some (digits.writeParameters parameters))) site.host segs
      parameters := by
  have hslash : forall seg, seg ∈ segs -> '/' ∉ seg := by
    intro seg hseg hmem
    exact absurd ((hplain seg hseg).1 '/' hmem) (by decide)
  rcases (@path_split_iff segs none site hne hslash (fun q hq => by cases hq)).mpr hplain with
    ⟨⟨parts, hparts⟩, hparse, hhost, hsegs, hdots, hquery, hfragment⟩
  rw [parse?_eq_some_iff, Site.route, String.toList_ofList] at hparse
  have hmarks := no_marks_of_route hparse hquery hfragment
  simp only [List.mem_append, List.mem_cons, not_or] at hmarks
  have hpath : '?' ∉ ['/'].intercalate segs ∧ '#' ∉ ['/'].intercalate segs :=
    ⟨hmarks.1.2.2, hmarks.2.2.2⟩
  rw [split?_route hpath (fun q hq => by cases hq), Option.some.injEq] at hparse
  change _ = parts at hparse
  subst hparse
  have hwell : UriParts.wellFormed ⟨site.scheme, some (splitAuthority site.authority),
      '/' :: ['/'].intercalate segs, some (digits.writeParameters parameters), none⟩ = true := by
    have hwritten := decode?_writeParameters digits parameters
    simp only [UriParts.wellFormed, Bool.and_eq_true, Option.all_some] at hparts ⊢
    exact ⟨⟨hparts.1.1, hwritten⟩, hparts.2⟩
  refine ⟨⟨_, hwell⟩, _, ?_, hhost, hsegs, hdots, rfl, readParameters?_writeParameters digits hsome,
    hfragment⟩
  rw [parse?_eq_some_iff, Site.route, String.toList_ofList, split?_route hpath]
  intro q hq
  cases hq
  exact not_mem_writeParameters digits parameters

end EscapeDigits

theorem Asks.unique {text host other : String} {segs others : List (List Char)}
    {parameters otherParameters : List Parameter} (h : Asks text host segs parameters)
    (hother : Asks text other others otherParameters) :
    host = other ∧ segs = others ∧ parameters = otherParameters := by
  rcases h with ⟨uri, query, hparse, hhost, hsegs, _, hquery, hread, _⟩
  rcases hother with ⟨uri', query', hparse', hhost', hsegs', _, hquery', hread', _⟩
  rw [hparse, Option.some.injEq] at hparse'
  subst hparse'
  rw [hhost, Option.some.injEq] at hhost'
  rw [hquery, Option.some.injEq] at hquery'
  subst hquery'
  rw [hread, Option.some.injEq] at hread'
  rw [hsegs, List.map_cons, List.map_cons, List.cons.injEq] at hsegs'
  refine ⟨hhost', ?_, hread'⟩
  exact List.map_injective_iff.mpr
    (fun seg seg' hseg => utf8_injective (Option.some.inj hseg)) hsegs'.2

end Uri
end Foundation
end YasinMcp
