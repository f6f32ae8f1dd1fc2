import YasinMcp.Foundation.Json

/-!
# Uniform resource identifiers

The generic syntax of identifiers: their parts, the characters each may hold, and
percent-encoding.  A host is a registered name here; one in brackets is not
accepted.

A part that decodes to its own characters has no escapes, since an escape is
three characters for one byte.
-/

namespace YasinMcp
namespace Foundation

structure Authority where
  userInfo : Option (List Char)
  host : List Char
  port : Option (List Char)
deriving DecidableEq

/-- The parts of an identifier as its delimiters separate them. -/
structure UriParts where
  scheme : List Char
  authority : Option Authority
  path : List Char
  query : Option (List Char)
  fragment : Option (List Char)
deriving DecidableEq

namespace Uri

/-!
## Splitting
-/

def cut (mark : Char) : List Char -> List Char × Option (List Char)
  | [] => ([], none)
  | c :: rest =>
      if c = mark then ([], some rest) else (c :: (cut mark rest).1, (cut mark rest).2)

theorem cut_of_not_mem {mark : Char} {cs : List Char} (h : mark ∉ cs) :
    cut mark cs = (cs, none) := by
  induction cs with
  | nil => rfl
  | cons c rest ih =>
      rw [List.mem_cons, not_or] at h
      rw [cut, if_neg (Ne.symm h.1), ih h.2]

theorem cut_append_cons {mark : Char} {before : List Char} (h : mark ∉ before)
    (after : List Char) : cut mark (before ++ mark :: after) = (before, some after) := by
  induction before with
  | nil => simp [cut]
  | cons c rest ih =>
      rw [List.mem_cons, not_or] at h
      rw [List.cons_append, cut, if_neg (Ne.symm h.1), ih h.2]

theorem not_mem_of_cut {mark : Char} {cs : List Char} (h : (cut mark cs).2 = none) :
    mark ∉ cs := by
  induction cs with
  | nil => exact List.not_mem_nil
  | cons c rest ih =>
      rw [cut] at h
      split at h
      · cases h
      · rename_i hc
        rw [List.mem_cons, not_or]
        exact ⟨Ne.symm hc, ih h⟩

theorem not_mem_of_cut_append {mark : Char} {before after : List Char}
    (h : (cut mark (before ++ mark :: after)).2 = some after) : mark ∉ before := by
  induction before with
  | nil => exact List.not_mem_nil
  | cons c rest ih =>
      rw [List.cons_append, cut] at h
      split at h
      · have hlength := congrArg List.length (Option.some.inj h)
        simp at hlength
        omega
      · rename_i hc
        rw [List.mem_cons, not_or]
        exact ⟨Ne.symm hc, ih h⟩

def splitAuthority (cs : List Char) : Authority :=
  let (userInfo, hostAndPort) :=
    match cut '@' cs with
    | (before, some after) => (some before, after)
    | (_, none) => (none, cs)
  { userInfo := userInfo
    host := (cut ':' hostAndPort).1
    port := (cut ':' hostAndPort).2 }

/-- An authority runs up to the next slash. -/
def splitHierarchy (cs : List Char) : Option Authority × List Char :=
  match cs with
  | '/' :: '/' :: rest =>
      (some (splitAuthority (rest.takeWhile fun c => c ≠ '/')),
        rest.dropWhile fun c => c ≠ '/')
  | path => (none, path)

def split? (cs : List Char) : Option UriParts :=
  let beforeFragment := (cut '#' cs).1
  let beforeQuery := (cut '?' beforeFragment).1
  match cut ':' beforeQuery with
  | (_, none) => none
  | (scheme, some hierarchy) =>
      some
        { scheme := scheme
          authority := (splitHierarchy hierarchy).1
          path := (splitHierarchy hierarchy).2
          query := (cut '?' beforeFragment).2
          fragment := (cut '#' cs).2 }

theorem splitHierarchy_authority {authority : List Char} (h : '/' ∉ authority)
    (path : List Char) :
    splitHierarchy ('/' :: '/' :: (authority ++ '/' :: path)) =
      (some (splitAuthority authority), '/' :: path) := by
  have hauth : forall c, c ∈ authority -> decide (c ≠ '/') = true := by
    intro c hc
    rw [decide_eq_true_eq]
    intro hslash
    exact h (hslash ▸ hc)
  simp only [splitHierarchy]
  rw [List.takeWhile_append_of_pos hauth, List.dropWhile_append_of_pos hauth]
  simp

theorem split?_authority {cs scheme authority path : List Char} {query : Option (List Char)}
    (hfragment : '#' ∉ cs) (hscheme : ':' ∉ scheme) (hauthority : '/' ∉ authority)
    (hcut : cut '?' cs = (scheme ++ ':' :: '/' :: '/' :: authority ++ '/' :: path, query)) :
    split? cs = some ⟨scheme, some (splitAuthority authority), '/' :: path, query, none⟩ := by
  rw [split?]
  simp only [cut_of_not_mem hfragment, hcut]
  rw [List.append_assoc, List.cons_append, cut_append_cons hscheme]
  simp only [List.cons_append, splitHierarchy_authority hauthority]

/-- An identifier with an authority, a query and no fragment is split where it was joined. -/
theorem split?_join {scheme authority path query : List Char}
    (hscheme : ':' ∉ scheme ∧ '?' ∉ scheme ∧ '#' ∉ scheme)
    (hauthority : '/' ∉ authority ∧ '?' ∉ authority ∧ '#' ∉ authority)
    (hpath : '?' ∉ path ∧ '#' ∉ path) (hquery : '#' ∉ query) :
    split? (scheme ++ ':' :: '/' :: '/' :: authority ++ '/' :: path ++ '?' :: query) =
      some ⟨scheme, some (splitAuthority authority), '/' :: path, some query, none⟩ := by
  have hbefore : '?' ∉ scheme ++ ':' :: '/' :: '/' :: authority ++ '/' :: path := by
    simp [hscheme, hauthority, hpath]
  apply split?_authority _ hscheme.1 hauthority.1 (cut_append_cons hbefore query)
  simp [hscheme, hauthority, hpath, hquery]

/-- Where a text and a query were joined, there is no other delimiter of a query before. -/
theorem no_marks_of_split? {before query : List Char} {parts : UriParts}
    (h : split? (before ++ '?' :: query) = some parts) (hquery : parts.query = some query)
    (hfragment : parts.fragment = none) : '?' ∉ before ∧ '#' ∉ before := by
  rw [split?] at h
  split at h
  · cases h
  · cases h
    have hmark := not_mem_of_cut hfragment
    simp only [cut_of_not_mem hmark] at hquery
    refine ⟨not_mem_of_cut_append hquery, ?_⟩
    intro hmem
    exact hmark (List.mem_append_left _ hmem)

/-!
## Characters
-/

def isUnreserved (c : Char) : Bool :=
  c.isAlphanum || "-._~".toList.contains c

def isSubDelim (c : Char) : Bool :=
  "!$&'()*+,;=".toList.contains c

def isPchar (c : Char) : Bool :=
  isUnreserved c || isSubDelim c || c = ':' || c = '@'

def isPathChar (c : Char) : Bool :=
  isPchar c || c = '/'

def isQueryChar (c : Char) : Bool :=
  isPchar c || c = '/' || c = '?'

def isUserInfoChar (c : Char) : Bool :=
  isUnreserved c || isSubDelim c || c = ':'

def isRegNameChar (c : Char) : Bool :=
  isUnreserved c || isSubDelim c

def isScheme : List Char -> Bool
  | [] => false
  | c :: rest => c.isAlpha && rest.all fun c => c.isAlphanum || "+-.".toList.contains c

/-!
## Percent-encoding
-/

def utf8 (cs : List Char) : List UInt8 :=
  cs.flatMap String.utf8EncodeChar

/-- The bytes of a part: of allowed characters and of escapes, if there is nothing else. -/
def decode? (allowed : Char -> Bool) : List Char -> Option (List UInt8)
  | [] => some []
  | '%' :: a :: b :: rest => do
      let high ← Json.hexDigit? a
      let low ← Json.hexDigit? b
      let bytes ← decode? allowed rest
      some (UInt8.ofNat (high * 16 + low) :: bytes)
  | c :: rest =>
      if allowed c then (decode? allowed rest).map fun bytes => String.utf8EncodeChar c ++ bytes
      else none

@[simp] theorem utf8_cons (c : Char) (rest : List Char) :
    utf8 (c :: rest) = String.utf8EncodeChar c ++ utf8 rest := rfl

theorem utf8_injective {cs cs' : List Char} (h : utf8 cs = utf8 cs') : cs = cs' := by
  have hencode : cs.utf8Encode = cs'.utf8Encode := congrArg List.toByteArray h
  have hdecode := List.utf8Decode?_utf8Encode (l := cs)
  rw [hencode, List.utf8Decode?_utf8Encode] at hdecode
  simpa using hdecode.symm

section

variable {allowed : Char -> Bool}

theorem length_of_decode? {cs : List Char} {bytes : List UInt8}
    (h : decode? allowed cs = some bytes) : bytes.length ≤ (utf8 cs).length := by
  fun_induction decode? allowed cs generalizing bytes with
  | case1 =>
      cases h
      exact Nat.le_refl _
  | case2 a b rest ih =>
      simp only [Option.bind_eq_bind, Option.bind_eq_some_iff, Option.some.injEq] at h
      rcases h with ⟨high, _, low, _, bytes', hbytes, hall⟩
      have hrest := ih hbytes
      rw [← hall]
      simp only [utf8_cons, List.length_cons, List.length_append, String.length_utf8EncodeChar]
      have := Char.utf8Size_pos '%'
      omega
  | case3 c rest hescape hallowed ih =>
      rcases Option.map_eq_some_iff.mp h with ⟨bytes', hbytes, hall⟩
      rw [← hall, utf8_cons, List.length_append, List.length_append]
      exact Nat.add_le_add_left (ih hbytes) _
  | case4 => cases h

/-- A part decodes to its own characters exactly when it consists of allowed ones. -/
theorem decode?_eq_utf8_iff (hpercent : allowed '%' = false) (cs : List Char) :
    decode? allowed cs = some (utf8 cs) <-> forall c, c ∈ cs -> allowed c = true := by
  fun_induction decode? allowed cs with
  | case1 => simp [utf8]
  | case2 a b rest ih =>
      constructor
      · intro h
        simp only [Option.bind_eq_bind, Option.bind_eq_some_iff, Option.some.injEq] at h
        rcases h with ⟨high, _, low, _, bytes, hbytes, hall⟩
        have hle := length_of_decode? hbytes
        have hlength := congrArg List.length hall
        simp only [utf8_cons, List.length_cons, List.length_append,
          String.length_utf8EncodeChar] at hlength
        have ha := Char.utf8Size_pos a
        have hb := Char.utf8Size_pos b
        have hp := Char.utf8Size_pos '%'
        omega
      · intro h
        have habsurd := h '%' List.mem_cons_self
        rw [hpercent] at habsurd
        cases habsurd
  | case3 c rest hescape hallowed ih =>
      rw [utf8_cons, List.forall_mem_cons, ← ih, Option.map_eq_some_iff]
      constructor
      · intro h
        rcases h with ⟨bytes, hbytes, hall⟩
        rw [List.append_cancel_left hall] at hbytes
        exact ⟨hallowed, hbytes⟩
      · intro h
        exact ⟨utf8 rest, h.2, rfl⟩
  | case4 c rest hescape hallowed =>
      constructor
      · intro h
        cases h
      · intro h
        exact absurd (h c List.mem_cons_self) hallowed

end

/-!
## Segments
-/

def segments (path : List Char) : List (List Char) :=
  path.splitOn '/'

theorem mem_of_mem_segments {path segment : List Char} (h : segment ∈ segments path) {c : Char}
    (hc : c ∈ segment) : c ∈ path ∧ c ≠ '/' := by
  unfold segments at h
  induction path generalizing segment with
  | nil =>
      rw [List.splitOn_nil, List.mem_singleton] at h
      subst h
      cases hc
  | cons d rest ih =>
      rw [List.splitOn_cons_eq_if_modifyHead] at h
      split at h
      · rcases List.mem_cons.mp h with hempty | hrest
        · subst hempty
          cases hc
        · exact ⟨List.mem_cons_of_mem d (ih hrest hc).1, (ih hrest hc).2⟩
      · rename_i hd
        cases hsplit : rest.splitOn '/' with
        | nil => exact absurd hsplit (List.splitOn_ne_nil '/' rest)
        | cons first others =>
            rw [hsplit] at ih h
            rcases List.mem_cons.mp h with hfirst | hother
            · subst hfirst
              rcases List.mem_cons.mp hc with hhead | htail
              · subst hhead
                exact ⟨List.mem_cons_self, by simpa using hd⟩
              · have hmem := ih List.mem_cons_self htail
                exact ⟨List.mem_cons_of_mem d hmem.1, hmem.2⟩
            · have hmem := ih (List.mem_cons_of_mem first hother) hc
              exact ⟨List.mem_cons_of_mem d hmem.1, hmem.2⟩

/-- The segment says to stay or to go up, once its escapes are decoded. -/
def isDotSegment (segment : List Char) : Bool :=
  decode? isPchar segment = some (utf8 ['.']) || decode? isPchar segment = some (utf8 ['.', '.'])

theorem isDotSegment_iff {segment : List Char}
    (h : forall c, c ∈ segment -> isPchar c = true) :
    isDotSegment segment = true <-> segment = ['.'] ∨ segment = ['.', '.'] := by
  rw [isDotSegment, (decode?_eq_utf8_iff (by decide) segment).mpr h]
  simp only [Bool.or_eq_true, decide_eq_true_eq, Option.some.injEq]
  constructor
  · intro h
    exact h.imp utf8_injective utf8_injective
  · intro h
    exact h.imp (congrArg utf8) (congrArg utf8)

/-!
## Well-formed identifiers
-/

end Uri

def Authority.wellFormed (authority : Authority) : Bool :=
  authority.userInfo.all (fun cs => (Uri.decode? Uri.isUserInfoChar cs).isSome) &&
    (Uri.decode? Uri.isRegNameChar authority.host).isSome &&
    authority.port.all fun cs => cs.all Char.isDigit

def UriParts.wellFormed (parts : UriParts) : Bool :=
  Uri.isScheme parts.scheme &&
    parts.authority.all Authority.wellFormed &&
    (Uri.decode? Uri.isPathChar parts.path).isSome &&
    parts.query.all (fun cs => (Uri.decode? Uri.isQueryChar cs).isSome) &&
    parts.fragment.all fun cs => (Uri.decode? Uri.isQueryChar cs).isSome

structure Uri extends UriParts where
  wellFormed : toUriParts.wellFormed = true
deriving DecidableEq

namespace Uri

def parse? (text : String) : Option Uri := do
  let parts ← split? text.toList
  if h : parts.wellFormed = true then some ⟨parts, h⟩ else none

theorem path_decodes (uri : Uri) : (decode? isPathChar uri.path).isSome = true := by
  have h := uri.wellFormed
  simp only [UriParts.wellFormed, Bool.and_eq_true] at h
  exact h.1.1.2

def pathBytes (uri : Uri) : List UInt8 :=
  (decode? isPathChar uri.path).get uri.path_decodes

theorem decode?_path (uri : Uri) : decode? isPathChar uri.path = some uri.pathBytes :=
  (Option.some_get uri.path_decodes).symm

theorem parse?_eq_some_iff {text : String} {uri : Uri} :
    parse? text = some uri <-> split? text.toList = some uri.toUriParts := by
  rw [parse?, Option.bind_eq_bind, Option.bind_eq_some_iff]
  constructor
  · intro h
    rcases h with ⟨parts, hparts, huri⟩
    split at huri
    · cases huri
      exact hparts
    · cases huri
  · intro h
    exact ⟨uri.toUriParts, h, dif_pos uri.wellFormed⟩

def hasDotSegment (uri : Uri) : Bool :=
  (segments uri.path).any isDotSegment

def host? (uri : Uri) : Option String :=
  uri.authority.map fun authority => String.ofList authority.host

example : (parse? "https://u@example.org:443/a/%2E%2e/b%20c?q=1#f").map
    (fun uri => (uri.host?, uri.pathBytes, uri.hasDotSegment, uri.query.map String.ofList)) =
      some (some "example.org", utf8 "/a/../b c".toList, true, some "q=1") := by
  decide +kernel

/-!
## Identifiers put together
-/

/-- The text is an identifier of this host, path and query, read as they are. -/
def Identifies (text host : String) (path query : List Char) : Prop :=
  exists uri, parse? text = some uri ∧ uri.host? = some host ∧ uri.pathBytes = utf8 path ∧
    uri.hasDotSegment = false ∧ uri.query = some query ∧ uri.fragment = none

/-- The path needs no escapes and has nothing to resolve. -/
def IsPlain (path : List Char) : Prop :=
  (forall c, c ∈ path -> isPathChar c = true) ∧
    ['.'] ∉ segments path ∧ ['.', '.'] ∉ segments path

instance (path : List Char) : Decidable (IsPlain path) :=
  decidable_of_iff
    (path.all isPathChar = true ∧ ['.'] ∉ segments path ∧ ['.', '.'] ∉ segments path)
    (and_congr_left' List.all_eq_true)

/-- A scheme and an authority to put paths under. -/
structure Site where
  scheme : List Char
  authority : List Char
  scheme_marks : ':' ∉ scheme ∧ '?' ∉ scheme ∧ '#' ∉ scheme
  authority_marks : '/' ∉ authority ∧ '?' ∉ authority ∧ '#' ∉ authority
  scheme_wellFormed : isScheme scheme = true
  authority_wellFormed : (splitAuthority authority).wellFormed = true

def Site.host (site : Site) : String :=
  String.ofList (splitAuthority site.authority).host

def Site.text (site : Site) (path query : List Char) : String :=
  String.ofList (site.scheme ++ ':' :: '/' :: '/' :: site.authority ++ '/' :: path ++ '?' :: query)

theorem isPlain_append_slash (before path : List Char) :
    IsPlain (before ++ '/' :: path) <-> IsPlain before ∧ IsPlain path := by
  have hslash : isPathChar '/' = true := by decide
  unfold IsPlain segments
  rw [List.splitOn_append_cons_self]
  simp only [List.mem_append, List.mem_cons, not_or]
  constructor
  · intro h
    rcases h with ⟨hall, hdot, hdots⟩
    exact ⟨⟨fun c hc => hall c (.inl hc), hdot.1, hdots.1⟩,
      fun c hc => hall c (.inr (.inr hc)), hdot.2, hdots.2⟩
  · intro h
    rcases h with ⟨⟨hbefore, hdot, hdots⟩, hpath, hdot', hdots'⟩
    refine ⟨?_, ⟨hdot, hdot'⟩, hdots, hdots'⟩
    intro c hc
    rcases hc with hc | hc | hc
    · exact hbefore c hc
    · exact hc ▸ hslash
    · exact hpath c hc

theorem isPlain_iff {path : List Char} :
    IsPlain path <->
      (forall c, c ∈ path -> isPathChar c = true) ∧ (segments path).any isDotSegment = false := by
  refine and_congr_right ?_
  intro hall
  have hsegment : forall segment, segment ∈ segments path ->
      (isDotSegment segment = true <-> segment = ['.'] ∨ segment = ['.', '.']) := by
    intro segment hmem
    refine isDotSegment_iff ?_
    intro c hc
    have hpath := hall c (mem_of_mem_segments hmem hc).1
    rw [isPathChar, Bool.or_eq_true, decide_eq_true_eq] at hpath
    exact hpath.resolve_right (mem_of_mem_segments hmem hc).2
  rw [List.any_eq_false]
  constructor
  · intro h segment hmem
    rw [hsegment segment hmem, not_or]
    exact ⟨fun hdot => h.1 (hdot ▸ hmem), fun hdots => h.2 (hdots ▸ hmem)⟩
  · intro h
    exact ⟨fun hmem => h _ hmem ((hsegment _ hmem).mpr (.inl rfl)),
      fun hmem => h _ hmem ((hsegment _ hmem).mpr (.inr rfl))⟩

/-- Under a site and with a plain query, exactly the plain paths are read as they are. -/
theorem identifies_iff (site : Site) (path : List Char) {query : List Char}
    (hquery : forall c, c ∈ query -> isQueryChar c = true) :
    Identifies (site.text path query) site.host ('/' :: path) query <->
      IsPlain ('/' :: path) := by
  have hhash : '#' ∉ query := by
    intro hmem
    exact absurd (hquery '#' hmem) (by decide)
  have hdecodes := decode?_eq_utf8_iff (show isPathChar '%' = false by decide) ('/' :: path)
  rw [isPlain_iff]
  constructor
  · intro h
    rcases h with ⟨uri, hparse, _, hbytes, hdots, hq, hfragment⟩
    rw [parse?_eq_some_iff, Site.text, String.toList_ofList] at hparse
    have hmarks := no_marks_of_split? hparse hq hfragment
    simp only [List.mem_append, List.mem_cons, not_or] at hmarks
    rw [split?_join site.scheme_marks site.authority_marks
      ⟨hmarks.1.2.2, hmarks.2.2.2⟩ hhash, Option.some.injEq] at hparse
    have hpath : uri.path = '/' :: path := by rw [← hparse]
    rw [hasDotSegment, hpath] at hdots
    have hdecoded := uri.decode?_path
    rw [hpath, hbytes] at hdecoded
    exact ⟨hdecodes.mp hdecoded, hdots⟩
  · intro h
    rcases h with ⟨hall, hdots⟩
    have hmarks : '?' ∉ path ∧ '#' ∉ path := by
      constructor
      · intro hmem
        exact absurd (hall '?' (List.mem_cons_of_mem '/' hmem)) (by decide)
      · intro hmem
        exact absurd (hall '#' (List.mem_cons_of_mem '/' hmem)) (by decide)
    have hsplit := split?_join site.scheme_marks site.authority_marks hmarks hhash
    have hwell : UriParts.wellFormed
        ⟨site.scheme, some (splitAuthority site.authority), '/' :: path, some query, none⟩ = true := by
      have hq := (decode?_eq_utf8_iff (show isQueryChar '%' = false by decide) query).mpr hquery
      simp [UriParts.wellFormed, site.scheme_wellFormed, site.authority_wellFormed,
        hdecodes.mpr hall, hq]
    refine ⟨⟨_, hwell⟩, ?_, rfl, ?_, hdots, rfl, rfl⟩
    · rw [parse?_eq_some_iff, Site.text, String.toList_ofList]
      exact hsplit
    · refine Option.some.inj ?_
      rw [← decode?_path]
      exact hdecodes.mpr hall

end Uri

end Foundation
end YasinMcp
