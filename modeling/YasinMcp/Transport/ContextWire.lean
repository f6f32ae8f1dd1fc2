import YasinMcp.Contracts.ContextMapping
import YasinMcp.Foundation.JsonPrintable
import YasinMcp.Foundation.JsonRoundTrip
import YasinMcp.Transport.SecretUse

/-!
# A context on the wire

A client writes a context as a mapping, the mapping as one line of JSON, and the line as
the bytes of a header.  The middleware reads the mapping back as it was written, so that
a request is treated as if its mapping had been validated where it was made, and a context
that was validated once arrives as it is and is shown as it is by every audit event.
-/

namespace YasinMcp

open Foundation

/-!
## Mappings as texts
-/

namespace Foundation.Json

mutual

theorem readBack_eq_self : forall v : Value, Named v -> IsJson v -> readBack v = v
  | .list items, hnamed, hjson => by
      rw [readBack, readBackItems_eq_self items hnamed hjson]
  | .tuple items, _, hjson => hjson.elim
  | .dict entries, hnamed, hjson => by
      rw [readBack, readBackEntries_eq_self entries hnamed.2 hjson,
        Dict.ofEntries_entries hnamed.1]
  | .none, _, _ => rfl
  | .bool _, _, _ => rfl
  | .int _, _, _ => rfl
  | .float _, _, _ => rfl
  | .str _, _, _ => rfl

theorem readBackItems_eq_self : forall items : List Value, NamedItems items ->
    IsJsonItems items -> readBackItems items = items
  | [], _, _ => rfl
  | v :: rest, hnamed, hjson => by
      rw [readBackItems, readBack_eq_self v hnamed.1 hjson.1,
        readBackItems_eq_self rest hnamed.2 hjson.2]

theorem readBackEntries_eq_self : forall entries : List (Key × Value), NamedEntries entries ->
    IsJsonEntries entries -> readBackEntries entries = entries
  | [], _, _ => rfl
  | (key, v) :: rest, hnamed, hjson => by
      rw [readBackEntries, readBack_eq_self v hnamed.2.1 hjson.2.1,
        readBackEntries_eq_self rest hnamed.2.2 hjson.2.2, ← hnamed.1]

end

end Foundation.Json

/-- A mapping that JSON writes and reads as it is, as deep as the decoder goes. -/
structure Portable (py : Builtins) (recursionLimit : Nat) (pairs : List (Key × Value)) : Prop where
  named : Json.Named (.dict pairs)
  json : IsJson (.dict pairs)
  writable : Json.Writable py (.dict pairs)
  shallow : Json.nesting (.dict pairs) ≤ recursionLimit

def contextText (py : Builtins) (pairs : List (Key × Value)) : String :=
  Json.dumps py (.dict pairs)

section

variable {py : Builtins} {recursionLimit : Nat} {pairs : List (Key × Value)}

theorem loads_contextText (h : Portable py recursionLimit pairs) :
    Json.loads recursionLimit (contextText py pairs) = .ok (.dict pairs) := by
  rw [contextText, Json.loads_dumps h.writable h.shallow,
    Json.readBack_eq_self _ h.named h.json]

theorem isAscii_contextText (hfloats : Json.PlainFloats py) :
    Text.isAscii (contextText py pairs) = true := by
  apply List.all_eq_true.mpr
  intro c hc
  have hprintable := Json.printable_dumps hfloats (.dict pairs) c hc
  exact decide_eq_true (by omega)

theorem contextText_ne_empty (h : Portable py recursionLimit pairs) : contextText py pairs ≠ "" := by
  intro hempty
  have hloads := loads_contextText h
  rw [hempty] at hloads
  cases recursionLimit with
  | zero => cases hloads
  | succ limit => cases hloads

theorem extractIntegrationContext_contextText (h : Portable py recursionLimit pairs)
    (hshort : (contextText py pairs).length ≤ maxContextHeaderLength) :
    extractIntegrationContext py recursionLimit (some (contextText py pairs)) =
      some <$> IntegrationContext.fromMapping py (.dict pairs) := by
  rw [extractIntegrationContext, if_neg (contextText_ne_empty h), if_neg (Nat.not_lt.mpr hshort),
    loads_contextText h]
  rfl

end

/-!
## Headers as bytes
-/

def lastHeaderBytes (scope : Scope) (name : String) : Option (List UInt8) :=
  ((scope.headers.filter fun (k, _) =>
    Text.lower (Text.decodeLatin1 k) = name).getLast?).map Prod.snd

theorem lastHeader_of_bytes {scope : Scope} {name text : String}
    (htext : Text.isAscii text = true)
    (h : lastHeaderBytes scope name = some (asciiBytes text)) :
    lastHeader scope name = some text := by
  have hdecode : lastHeader scope name =
      (lastHeaderBytes scope name).map Text.decodeLatin1 := by
    rw [lastHeader, lastHeaderBytes, Option.map_map]
    rfl
  rw [hdecode, h, Option.map_some, decodeLatin1_asciiBytes htext]

/-- The request brings the mapping in its context header. -/
structure Carried (py : Builtins) (recursionLimit : Nat) (scope : Scope)
    (pairs : List (Key × Value)) : Prop where
  http : scope.scopeType = "http"
  notExempt : scope.path ∉ exemptPaths
  portable : Portable py recursionLimit pairs
  short : (contextText py pairs).length ≤ maxContextHeaderLength
  header : lastHeaderBytes scope contextHeader = some (asciiBytes (contextText py pairs))

namespace RequireBearerAuthMiddleware

theorem requestContext_of_carried {py : Builtins} (hfloats : Json.PlainFloats py)
    {recursionLimit : Nat} {scope : Scope} {pairs : List (Key × Value)}
    (h : Carried py recursionLimit scope pairs) :
    requestContext py recursionLimit scope =
      some <$> IntegrationContext.fromMapping py (.dict pairs) := by
  rw [requestContext, lastHeader_of_bytes (isAscii_contextText hfloats) h.header,
    extractIntegrationContext_contextText h.portable h.short]

/--
A request that brings a mapping is treated as the mapping is validated: one that validation
rejects is raised with the rejection and reaches nothing, and an accepted one is authorized
with the context that it makes.
-/
theorem handle_carried {py : Builtins} (hfloats : Json.PlainFloats py) {recursionLimit : Nat}
    {scope : Scope} {pairs : List (Key × Value)} (h : Carried py recursionLimit scope pairs)
    (m : RequireBearerAuthMiddleware) (app : App) (vars : RequestVars) :
    m.handle py recursionLimit app scope vars =
      match IntegrationContext.fromMapping py (.dict pairs) with
      | .error e => raised vars e
      | .ok c => m.authorize app scope vars (some c) (requestToken scope) := by
  rw [handle_http h.http h.notExempt, requestContext_of_carried hfloats h]
  cases hmapping : IntegrationContext.fromMapping py (.dict pairs) with
  | ok c => rfl
  | error e =>
      rcases IntegrationContext.raises_fromMapping py (.dict pairs) e hmapping with
        ⟨message, details, heq⟩
      rw [heq]
      rfl

theorem lastHeaderBytes_remoteRequest (token text : String) :
    lastHeaderBytes (remoteRequest (some token) (some text)) contextHeader =
      some (asciiBytes text) := by
  have hname : Text.lower (Text.decodeLatin1 (asciiBytes "X-Yasin-Context")) = contextHeader := by
    decide +kernel
  have hother : Text.lower (Text.decodeLatin1 (asciiBytes "Authorization")) ≠ contextHeader := by
    decide +kernel
  simp [lastHeaderBytes, remoteRequest, hname, hother]

theorem portable_operatorPairs (py : Builtins) : Portable py 1000 operatorPairs := by
  constructor
  · exact ⟨by decide, rfl, trivial, rfl, ⟨by decide, rfl, trivial, rfl, trivial, trivial⟩, trivial⟩
  · exact ⟨⟨_, rfl⟩, trivial, ⟨_, rfl⟩, ⟨⟨_, rfl⟩, trivial, ⟨_, rfl⟩, trivial, trivial⟩, trivial⟩
  · simp [Json.Writable, operatorPairs, Json.scalars, Json.scalarsEntries, Json.isLong]
  · decide

theorem handle_carried_operator :
    (handle Json.tenthsBuiltins 1000 ⟨true, some "s3cret"⟩ idleApp
      (remoteRequest (some "s3cret") (some (contextText Json.tenthsBuiltins operatorPairs)))
      {}).calls = [⟨some "s3cret", some operatorContext⟩] := by
  have hshort : (contextText Json.tenthsBuiltins operatorPairs).length ≤
      maxContextHeaderLength := by decide +kernel
  have hmapping : IntegrationContext.fromMapping Json.tenthsBuiltins (.dict operatorPairs) =
      .ok operatorContext := by decide +kernel
  have hcarried : Carried Json.tenthsBuiltins 1000
      (remoteRequest (some "s3cret") (some (contextText Json.tenthsBuiltins operatorPairs)))
      operatorPairs :=
    ⟨rfl, mcp_not_exempt, portable_operatorPairs _, hshort,
      lastHeaderBytes_remoteRequest _ _⟩
  rw [handle_carried Json.plainFloats_tenths hcarried ⟨true, some "s3cret"⟩ idleApp {}, hmapping]
  have htoken : requestToken
      (remoteRequest (some "s3cret") (some (contextText Json.tenthsBuiltins operatorPairs))) =
        some "s3cret" := by decide +kernel
  rw [htoken]
  rfl

end RequireBearerAuthMiddleware

/-!
## Written entries
-/

/-- Entries that JSON writes and reads as they are, with brackets this deep. -/
structure WrittenEntries (py : Builtins) (depth : Nat) (entries : List (Key × Value)) : Prop where
  named : Json.NamedEntries entries
  json : IsJsonEntries entries
  writable : Json.Writable py (.dict entries)
  shallow : Json.nestingEntries entries ≤ depth

namespace WrittenEntries

variable {py : Builtins} {depth : Nat} {rest : List (Key × Value)}

theorem nil : WrittenEntries py depth [] :=
  ⟨trivial, trivial, fun _ hscalar => absurd hscalar List.not_mem_nil, Nat.zero_le _⟩

theorem cons {name : String} {v : Value} (hnamed : Json.Named v) (hjson : IsJson v)
    (hwritable : Json.Writable py v) (hshallow : Json.nesting v ≤ depth)
    (h : WrittenEntries py depth rest) : WrittenEntries py depth ((Key.str name, v) :: rest) := by
  constructor
  · exact ⟨rfl, hnamed, h.named⟩
  · exact ⟨⟨name, rfl⟩, hjson, h.json⟩
  · intro scalar hscalar
    rcases List.mem_append.mp hscalar with hvalue | hrest
    · exact hwritable scalar hvalue
    · exact h.writable scalar hrest
  · exact max_le hshallow h.shallow

theorem scalar {name : String} {v : Value} (hscalar : IsScalar v)
    (hlong : Json.isLong v = false) (hfloat : forall x, v = .float x -> Json.FloatReads py x)
    (h : WrittenEntries py depth rest) : WrittenEntries py depth ((Key.str name, v) :: rest) := by
  have hflat : Json.Named v ∧ IsJson v ∧ Json.scalars v = [v] ∧ Json.nesting v = 0 := by
    cases v with
    | list items => exact hscalar.elim
    | tuple items => exact hscalar.elim
    | dict entries => exact hscalar.elim
    | _ => exact ⟨trivial, trivial, rfl, rfl⟩
  rcases hflat with ⟨hnamed, hjson, hscalars, hnesting⟩
  refine cons hnamed hjson ?_ (hnesting ▸ Nat.zero_le _) h
  intro x hx
  rw [hscalars, List.mem_singleton] at hx
  rw [hx]
  exact ⟨hlong, hfloat⟩

theorem str {name text : String} (h : WrittenEntries py depth rest) :
    WrittenEntries py depth ((Key.str name, .str text) :: rest) :=
  scalar trivial rfl (fun _ hx => Value.noConfusion hx) h

theorem idEntry (name : String) (value : Option String) (h : WrittenEntries py depth rest) :
    WrittenEntries py depth (GovernanceContext.idEntry name value ++ rest) := by
  cases value with
  | none => exact h
  | some text => exact str h

end WrittenEntries

namespace IntegrationContext

/-- The values of the metadata are scalars that JSON writes and reads as they are. -/
def Written (py : Builtins) (c : IntegrationContext) : Prop :=
  forall entry, entry ∈ c.extra.mapping.entries ->
    IsScalar entry.2 ∧ Json.isLong entry.2 = false ∧
      forall x, entry.2 = .float x -> Json.FloatReads py x

end IntegrationContext

/-!
## From the header to the audit trail
-/

end YasinMcp
