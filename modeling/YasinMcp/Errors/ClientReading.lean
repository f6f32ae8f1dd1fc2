import YasinMcp.Errors.ClientContract
import YasinMcp.Foundation.JsonPrintable
import YasinMcp.Foundation.JsonRoundTrip

/-!
# What a client reads of a tool error

The text of a tool error is one line of printable ASCII.  A client that decodes it gets
the payload that the error was mapped to, with the details in the order of their names,
and two errors reach clients by the same text only when their payloads agree.
-/

namespace YasinMcp

open Foundation

/-!
## Written details
-/

def writtenDetail (py : Builtins) (v : Value) : String :=
  (Json.encodeScalar? py v).getD ""

theorem detailMembers_eq_some {py : Builtins} {entries : List (String × Value)}
    {members : List (String × String)} (h : detailMembers py entries = some members) :
    (members = entries.map fun entry => (entry.1, writtenDetail py entry.2)) ∧
      forall entry, entry ∈ entries ->
        Json.encodeScalar? py entry.2 = some (writtenDetail py entry.2) := by
  induction entries generalizing members with
  | nil =>
      cases h
      refine ⟨rfl, ?_⟩
      intro entry hentry
      cases hentry
  | cons entry rest ih =>
      rcases entry with ⟨name, value⟩
      rw [detailMembers] at h
      cases htext : Json.encodeScalar? py value with
      | none =>
          rw [htext] at h
          cases h
      | some text =>
          rw [htext] at h
          cases hrest : detailMembers py rest with
          | none =>
              rw [hrest] at h
              cases h
          | some others =>
              rw [hrest] at h
              cases h
              rcases ih hrest with ⟨hothers, hwritten⟩
              have hdetail : writtenDetail py value = text := by
                rw [writtenDetail, htext]
                rfl
              constructor
              · rw [hothers, List.map_cons, hdetail]
              · intro entry hentry
                rcases List.mem_cons.mp hentry with heq | hmem
                · rw [heq, hdetail, htext]
                · exact hwritten entry hmem

theorem detailMembers_eq_none_iff {py : Builtins} {entries : List (String × Value)} :
    detailMembers py entries = none <->
      exists entry, entry ∈ entries ∧ Json.encodeScalar? py entry.2 = none := by
  induction entries with
  | nil => simp [detailMembers]
  | cons entry rest ih =>
      rcases entry with ⟨name, value⟩
      rw [detailMembers, List.exists_mem_cons_iff]
      cases htext : Json.encodeScalar? py value with
      | none => exact iff_of_true rfl (Or.inl rfl)
      | some text =>
          rw [← ih]
          cases hrest : detailMembers py rest with
          | none => exact iff_of_true rfl (Or.inr rfl)
          | some members => simp

theorem encodeScalar_shownDetail_eq_none_iff {py : Builtins} {v : Value} :
    Json.encodeScalar? py (shownDetail v) = none <->
      exists n, shownDetail v = .int n ∧ Json.BeyondDigits n := by
  cases v with
  | int n => simp [shownDetail, Json.encodeScalar?]
  | float x => cases x <;> simp [shownDetail, Json.encodeScalar?]
  | _ => simp [shownDetail, Json.encodeScalar?]

theorem shownDetail_eq_float {v : Value} {x : PyFloat} (h : shownDetail v = .float x) :
    v = .float x := by
  cases v with
  | none => cases h
  | bool b => cases h
  | int n => cases h
  | float y => exact h
  | str s => cases h
  | list items => cases h
  | tuple items => cases h
  | dict entries => cases h

theorem mem_safeDetails {e : McpError} {entry : String × Value}
    (h : entry ∈ (safeDetails e).entries) :
    exists given, given ∈ e.details ∧ Text.mentionsAny blockedDetailKeys given.1.text = false ∧
      entry = (given.1.text, shownDetail given.2) := by
  rcases List.mem_map.mp (Dict.mem_of_mem_ofEntries h) with ⟨given, hgiven, heq⟩
  rcases List.mem_filter.mp hgiven with ⟨hmem, hkept⟩
  rw [Bool.not_eq_true'] at hkept
  exact ⟨given, hmem, hkept, heq.symm⟩

/-!
## The document
-/

def ClientPayload.documentEntries (payload : ClientPayload) : List (Key × Value) :=
  [("category", .str payload.category), ("code", .str payload.code.value),
    ("details", .dict ((Json.sortedMembers payload.details.entries).map
      fun entry => (Key.str entry.1, entry.2))),
    ("error_contract_version", .str payload.errorContractVersion),
    ("message", .str payload.message)]

def ClientPayload.document (payload : ClientPayload) : Value :=
  .dict payload.documentEntries

theorem nodup_sortedDetails (details : Dict String Value) :
    (((Json.sortedMembers details.entries).map fun entry => (Key.str entry.1, entry.2)).map
      Prod.fst).Nodup := by
  have hnames : ((Json.sortedMembers details.entries).map Prod.fst).Nodup :=
    ((Json.sortedMembers_perm details.entries).map Prod.fst).nodup_iff.mpr details.nodup
  have hkeys := hnames.map (f := Key.str) fun a b hab => Key.str.inj hab
  rw [List.map_map] at hkeys ⊢
  exact hkeys

def payloadMembers (py : Builtins) (payload : ClientPayload) : List (String × String × Value) :=
  [("error_contract_version", Json.encodeString payload.errorContractVersion,
      .str payload.errorContractVersion),
    ("code", Json.encodeString payload.code.value, .str payload.code.value),
    ("category", Json.encodeString payload.category, .str payload.category),
    ("message", Json.encodeString payload.message, .str payload.message),
    ("details", Json.encodeObject
        (payload.details.entries.map fun entry => (entry.1, writtenDetail py entry.2)),
      .dict ((Json.sortedMembers payload.details.entries).map
        fun entry => (Key.str entry.1, entry.2)))]

theorem formatToolErrorMessage_eq_ok {py : Builtins} {payload : ClientPayload}
    {message : String} (h : formatToolErrorMessage py payload = .ok message) :
    message =
        Json.encodeObject ((payloadMembers py payload).map fun member => (member.1, member.2.1)) ∧
      forall entry, entry ∈ payload.details.entries ->
        Json.encodeScalar? py entry.2 = some (writtenDetail py entry.2) := by
  rw [formatToolErrorMessage] at h
  split at h
  · cases h
  · rename_i members hmembers
    rcases detailMembers_eq_some hmembers with ⟨heq, hwritten⟩
    rw [heq] at h
    exact ⟨(Except.ok.inj h).symm, hwritten⟩

theorem sortedMembers_payload (py : Builtins) (payload : ClientPayload) :
    .dict (Dict.ofEntries ((Json.sortedMembers (payloadMembers py payload)).map
      fun member => (Key.str member.1, member.2.2))).entries = payload.document := by
  have hsorted : (Json.sortedMembers (payloadMembers py payload)).map
      (fun member => (Key.str member.1, member.2.2)) = payload.documentEntries := by
    simp +decide [payloadMembers, ClientPayload.documentEntries, Json.sortedMembers,
      List.orderedInsert]
  have hnodup : (payload.documentEntries.map Prod.fst).Nodup := by
    simp +decide [ClientPayload.documentEntries]
  rw [hsorted, Dict.ofEntries_entries hnodup, ClientPayload.document]

theorem loads_formatToolErrorMessage {py : Builtins} {payload : ClientPayload} {message : String}
    (hfloats : forall entry, entry ∈ payload.details.entries ->
      forall x, entry.2 = .float x -> Json.FloatReads py x)
    (h : formatToolErrorMessage py payload = .ok message) (depth : Nat) :
    Json.loads (depth + 2) message = .ok payload.document := by
  rcases formatToolErrorMessage_eq_ok h with ⟨hmessage, hwritten⟩
  have hdetails := Json.part_encodeObject
    (payload.details.entries.map fun entry => (entry.1, writtenDetail py entry.2, entry.2)) (by
      intro member hmember
      rcases List.mem_map.mp hmember with ⟨entry, hentry, heq⟩
      rw [← heq]
      exact Json.part_encodeScalar (hwritten entry hentry) (hfloats entry hentry) depth)
  rw [Json.sortedMembers_map (fun v => (writtenDetail py v, v)), List.map_map, List.map_map]
    at hdetails
  have hobject := Dict.ofEntries_entries (nodup_sortedDetails payload.details)
  apply Json.loads_of_part
  rw [hmessage, ← sortedMembers_payload py]
  apply Json.part_encodeObject
  simp only [payloadMembers, List.forall_mem_cons]
  refine ⟨?_, ?_, ?_, ?_, ?_, ?_⟩
  case refine_5 =>
    rw [← hobject]
    exact hdetails
  case refine_6 =>
    intro member hmember
    cases hmember
  all_goals
    rw [Json.encodeString, String.toList_ofList]
    exact Json.part_string _ _

/-!
## Agreement of two payloads
-/

/-- Payloads that a client cannot tell apart. -/
structure SameReading (p q : ClientPayload) : Prop where
  version : p.errorContractVersion = q.errorContractVersion
  code : p.code = q.code
  category : p.category = q.category
  message : p.message = q.message
  details : forall name, p.details.get? name = q.details.get? name

theorem sortedDetails_eq_iff (p q : Dict String Value) :
    Json.sortedMembers p.entries = Json.sortedMembers q.entries <->
      forall name, p.get? name = q.get? name := by
  constructor
  · intro h name
    have hperm := (Json.sortedMembers_perm p.entries).symm.trans
      (h ▸ Json.sortedMembers_perm q.entries)
    exact Dict.lookupIn_of_perm p.nodup hperm name
  · intro h
    exact Json.sortedMembers_congr p.nodup (Dict.perm_of_lookupIn p.nodup q.nodup h)

theorem document_eq_iff (p q : ClientPayload) : p.document = q.document <-> SameReading p q := by
  constructor
  · intro h
    simp only [ClientPayload.document, ClientPayload.documentEntries, Value.dict.injEq, List.cons.injEq, Prod.mk.injEq,
      Value.str.injEq, true_and, and_true] at h
    rcases h with ⟨hcategory, hcode, hdetails, hversion, hmessage⟩
    have hinjective : Function.Injective fun entry : String × Value =>
        (Key.str entry.1, entry.2) := by
      rintro ⟨name, v⟩ ⟨name', v'⟩ heq
      cases heq
      rfl
    exact ⟨hversion, ClientErrorCode.value_injective hcode, hcategory, hmessage,
      (sortedDetails_eq_iff _ _).mp (List.map_injective_iff.mpr hinjective hdetails)⟩
  · intro h
    rw [ClientPayload.document, ClientPayload.document, ClientPayload.documentEntries,
      ClientPayload.documentEntries, h.version, h.code, h.category, h.message,
      (sortedDetails_eq_iff _ _).mpr h.details]

theorem formatToolErrorMessage_congr {py : Builtins} {p q : ClientPayload} (h : SameReading p q)
    {message message' : String} (hp : formatToolErrorMessage py p = .ok message)
    (hq : formatToolErrorMessage py q = .ok message') : message = message' := by
  have hobject : forall details details' : Dict String Value,
      (forall name, details.get? name = details'.get? name) ->
        Json.encodeObject
            (details.entries.map fun entry => (entry.1, writtenDetail py entry.2)) =
          Json.encodeObject
            (details'.entries.map fun entry => (entry.1, writtenDetail py entry.2)) := by
    intro details details' hlookup
    have hsorted := (sortedDetails_eq_iff details details').mpr hlookup
    have hwritten := congrArg (List.map fun entry => (entry.1, writtenDetail py entry.2)) hsorted
    rw [← Json.sortedMembers_map, ← Json.sortedMembers_map] at hwritten
    rw [Json.sortedMembers, Json.sortedMembers] at hwritten
    rw [Json.encodeObject, Json.encodeObject, hwritten]
  rw [(formatToolErrorMessage_eq_ok hp).1, (formatToolErrorMessage_eq_ok hq).1, payloadMembers,
    payloadMembers, List.map_cons, List.map_cons, List.map_cons, List.map_cons, List.map_cons,
    List.map_cons, List.map_cons, List.map_cons, List.map_cons, List.map_cons, h.version, h.code,
    h.category, h.message, hobject _ _ h.details]

/-!
## Tool errors
-/

/-- The decoder reads the floats among the details as they are. -/
def McpError.FloatsRead (py : Builtins) (e : McpError) : Prop :=
  forall entry, entry ∈ e.details -> forall x, entry.2 = .float x -> Json.FloatReads py x

theorem floatReads_of_payload {py : Builtins} {e : McpError} (h : e.FloatsRead py)
    {payload : ClientPayload} (hpayload : mapMcpError py e = .ok payload)
    (entry : String × Value) (hentry : entry ∈ payload.details.entries) (x : PyFloat)
    (hx : entry.2 = .float x) : Json.FloatReads py x := by
  rw [(mapMcpError_eq_ok hpayload).2.2] at hentry
  rcases mem_safeDetails hentry with ⟨given, hgiven, _, heq⟩
  rw [heq] at hx
  exact h given hgiven x (shownDetail_eq_float hx)

theorem printable_formatToolErrorMessage {py : Builtins} (hfloats : Json.PlainFloats py)
    {payload : ClientPayload} {message : String}
    (h : formatToolErrorMessage py payload = .ok message) : Json.Printable message.toList := by
  rcases formatToolErrorMessage_eq_ok h with ⟨hmessage, hwritten⟩
  rw [hmessage]
  apply Json.printable_encodeObject
  simp only [payloadMembers, List.map_cons, List.map_nil, List.forall_mem_cons]
  refine ⟨?_, ?_, ?_, ?_, ?_, ?_⟩
  case refine_5 =>
    apply Json.printable_encodeObject
    intro member hmember
    rcases List.mem_map.mp hmember with ⟨entry, hentry, heq⟩
    rw [← heq]
    exact Json.printable_encodeScalar hfloats (hwritten entry hentry)
  case refine_6 =>
    intro member hmember
    cases hmember
  all_goals exact Json.printable_encodeString _

/-!
## Errors without a text
-/

/-- The detail by which the code of an error of this class is chosen. -/
def McpErrorClass.codeDetail? : McpErrorClass -> Option String
  | .policyDeniedError => some "decision"
  | .unauthenticatedError => some "status"
  | .validationError => some "reason_code"
  | _ => none

/-- An integer of too many digits is shown, or is in the detail that the code is chosen by. -/
def McpError.HasNoText (e : McpError) : Prop :=
  (exists entry n, entry ∈ (safeDetails e).entries ∧ entry.2 = .int n ∧ Json.BeyondDigits n) ∨
    exists name v, e.errorClass.codeDetail? = some name ∧
      Dict.lookupIn (Key.str name) e.details = some v ∧ v.beyondDigits = true

theorem toStr_error_iff {py : Builtins} {v : Value} :
    (exists failure, v.toStr py = .error failure) <-> v.beyondDigits = true := by
  cases v with
  | str text => simp [Value.toStr, Value.beyondDigits]
  | _ =>
      unfold Value.toStr
      dsimp only
      split
      · rename_i hbeyond
        exact iff_of_true ⟨_, rfl⟩ hbeyond
      · rename_i hwithin
        apply iff_of_false _ hwithin
        intro h
        rcases h with ⟨failure, h⟩
        cases h

theorem detailText_error_iff {py : Builtins} {details : List (Key × Value)} {name : String} :
    (exists failure, detailText py details name = .error failure) <->
      exists v, Dict.lookupIn (Key.str name) details = some v ∧ v.beyondDigits = true := by
  rw [detailText, toStr_error_iff]
  cases Dict.lookupIn (Key.str name) details with
  | none => simp [Value.beyondDigits]
  | some v => simp

theorem bind_error_iff {x : Except PyException String}
    {f : String -> Except PyException ClientErrorCode}
    (hf : forall text, exists code, f text = .ok code) :
    (exists failure, (x >>= f) = .error failure) <-> exists failure, x = .error failure := by
  cases x with
  | error failure => simp
  | ok text =>
      rcases hf text with ⟨code, hcode⟩
      simp [hcode]

theorem codeFor_error_iff {py : Builtins} {e : McpError} :
    (exists failure, codeFor py e = .error failure) <->
      exists name v, e.errorClass.codeDetail? = some name ∧
        Dict.lookupIn (Key.str name) e.details = some v ∧ v.beyondDigits = true := by
  have hchosen : forall name : String,
      (exists failure, detailText py e.details name = .error failure) <->
        exists name' v, some name = some name' ∧
          Dict.lookupIn (Key.str name') e.details = some v ∧ v.beyondDigits = true := by
    intro name
    rw [detailText_error_iff]
    simp
  unfold codeFor
  cases e.errorClass with
  | policyDeniedError =>
      refine (bind_error_iff fun text => ?_).trans (hchosen "decision")
      split
      · exact ⟨_, rfl⟩
      · split <;> exact ⟨_, rfl⟩
  | unauthenticatedError =>
      refine (bind_error_iff fun text => ?_).trans (hchosen "status")
      split <;> exact ⟨_, rfl⟩
  | validationError =>
      refine (bind_error_iff fun text => ?_).trans (hchosen "reason_code")
      split <;> exact ⟨_, rfl⟩
  | _ => simp [McpErrorClass.codeDetail?]

theorem formatToolErrorMessage_error_iff {py : Builtins} {e : McpError} {payload : ClientPayload}
    (h : payload.details = safeDetails e) :
    (exists failure, formatToolErrorMessage py payload = .error failure) <->
      exists entry n, entry ∈ (safeDetails e).entries ∧ entry.2 = .int n ∧
        Json.BeyondDigits n := by
  have hshown : forall entry, entry ∈ (safeDetails e).entries ->
      (Json.encodeScalar? py entry.2 = none <->
        exists n, entry.2 = .int n ∧ Json.BeyondDigits n) := by
    intro entry hentry
    rcases mem_safeDetails hentry with ⟨given, _, _, heq⟩
    rw [heq]
    exact encodeScalar_shownDetail_eq_none_iff
  have hmembers : detailMembers py payload.details.entries = none <->
      exists entry n, entry ∈ (safeDetails e).entries ∧ entry.2 = .int n ∧
        Json.BeyondDigits n := by
    rw [h, detailMembers_eq_none_iff]
    refine exists_congr fun entry => ?_
    rw [exists_and_left]
    exact and_congr_right fun hentry => hshown entry hentry
  rw [← hmembers, formatToolErrorMessage]
  cases detailMembers py payload.details.entries <;> simp

/-- Exactly the errors without a text are raised as something else than a tool error. -/
theorem raiseAsMcpToolError_passed_iff {py : Builtins} {e : McpError} :
    (exists failure, raiseAsMcpToolError py e = .passed failure) <-> e.HasNoText := by
  have hchosen := @codeFor_error_iff py e
  rw [McpError.HasNoText, ← hchosen, raiseAsMcpToolError, mapMcpError]
  cases hcode : codeFor py e with
  | error failure => simp
  | ok code =>
      simp only [ok_bind, reduceCtorEq, exists_false, or_false]
      have hshown := @formatToolErrorMessage_error_iff py e
        ⟨clientErrorContractVersion, code, e.category.value, e.message, safeDetails e⟩ rfl
      rw [← hshown]
      cases formatToolErrorMessage py
        ⟨clientErrorContractVersion, code, e.category.value, e.message, safeDetails e⟩ <;> simp

theorem exists_toolError (py : Builtins) {e : McpError} (h : ¬ e.HasNoText) :
    exists message, raiseAsMcpToolError py e = .toolError message := by
  cases hraise : raiseAsMcpToolError py e with
  | toolError message => exact ⟨message, rfl⟩
  | passed failure => exact absurd (raiseAsMcpToolError_passed_iff.mp ⟨failure, hraise⟩) h

/--
What reaches a client of an error: one printable line that is decoded to its payload,
unless the error has no text.
-/
inductive ReadAs (py : Builtins) (e : McpError) (depth : Nat) : ToolException -> Prop where
  | toolError {payload : ClientPayload} {message : String} :
      ¬ e.HasNoText -> mapMcpError py e = .ok payload -> Json.Printable message.toList ->
      Json.loads (depth + 2) message = .ok payload.document ->
      ReadAs py e depth (.toolError message)
  | passed {failure : PyException} : e.HasNoText -> ReadAs py e depth (.passed failure)

/-- Every client that decodes a tool error gets the payload it was raised with. -/
theorem raiseAsMcpToolError_read {py : Builtins} (hfloats : Json.PlainFloats py) {e : McpError}
    (hread : e.FloatsRead py) (depth : Nat) : ReadAs py e depth (raiseAsMcpToolError py e) := by
  cases hraise : raiseAsMcpToolError py e with
  | toolError message =>
      rcases raiseAsMcpToolError_eq_toolError_iff.mp hraise with ⟨payload, hpayload, hformat⟩
      have htext : ¬ e.HasNoText := by
        intro hnone
        rcases (@raiseAsMcpToolError_passed_iff py e).mpr hnone with ⟨failure, hpassed⟩
        rw [hraise] at hpassed
        cases hpassed
      apply ReadAs.toolError htext hpayload (printable_formatToolErrorMessage hfloats hformat)
      exact loads_formatToolErrorMessage (floatReads_of_payload hread hpayload) hformat depth
  | passed failure =>
      exact ReadAs.passed (raiseAsMcpToolError_passed_iff.mp ⟨failure, hraise⟩)

def limitError (secret : String) : McpError where
  errorClass := .upstreamError
  category := .upstreamError
  message := "Rate é"
  details :=
    [("wait", .float (.decimal false 25 (-1))), ("api_key", .str secret), ("left", .int 0),
      ("seen", .list [.str secret])]

theorem floatsRead_limit (secret : String) : (limitError secret).FloatsRead Json.tenthsBuiltins := by
  intro entry hentry x hx
  simp only [limitError, List.mem_cons, List.not_mem_nil, or_false] at hentry
  rcases hentry with hentry | hentry | hentry | hentry <;> subst hentry <;> cases hx
  decide +kernel

theorem hasText_limit (secret : String) : ¬ (limitError secret).HasNoText := by
  intro h
  rcases h with ⟨entry, n, hentry, hn, hbeyond⟩ | ⟨name, v, hname, _⟩
  · rcases mem_safeDetails hentry with ⟨given, hgiven, _, heq⟩
    rw [heq] at hn
    simp only [limitError, List.mem_cons, List.not_mem_nil, or_false] at hgiven
    rcases hgiven with hgiven | hgiven | hgiven | hgiven <;> subst hgiven <;> cases hn
    exact Json.not_beyondDigits_of_lt (by decide) hbeyond
  · cases hname

theorem raiseAsMcpToolError_read_limit :
    Json.PlainFloats Json.tenthsBuiltins ∧ (limitError "s").FloatsRead Json.tenthsBuiltins ∧
      ReadAs Json.tenthsBuiltins (limitError "s") 0
        (raiseAsMcpToolError Json.tenthsBuiltins (limitError "s")) :=
  ⟨Json.plainFloats_tenths, floatsRead_limit "s",
    raiseAsMcpToolError_read Json.plainFloats_tenths (floatsRead_limit "s") 0⟩

/-- Two errors reach clients by the same text exactly when their payloads agree. -/
theorem raiseAsMcpToolError_eq_iff {py : Builtins} {e e' : McpError} (hread : e.FloatsRead py)
    (hread' : e'.FloatsRead py) {message message' : String}
    (h : raiseAsMcpToolError py e = .toolError message)
    (h' : raiseAsMcpToolError py e' = .toolError message') :
    exists payload payload', mapMcpError py e = .ok payload ∧ mapMcpError py e' = .ok payload' ∧
      (message = message' <-> SameReading payload payload') := by
  rcases raiseAsMcpToolError_eq_toolError_iff.mp h with ⟨payload, hpayload, hformat⟩
  rcases raiseAsMcpToolError_eq_toolError_iff.mp h' with ⟨payload', hpayload', hformat'⟩
  refine ⟨payload, payload', hpayload, hpayload', ?_⟩
  constructor
  · intro heq
    have hloads := loads_formatToolErrorMessage (floatReads_of_payload hread hpayload) hformat 0
    have hloads' :=
      loads_formatToolErrorMessage (floatReads_of_payload hread' hpayload') hformat' 0
    rw [heq, hloads'] at hloads
    exact (document_eq_iff _ _).mp (Except.ok.inj hloads).symm
  · intro hsame
    exact formatToolErrorMessage_congr hsame hformat hformat'

/-- A secret under a blocked key makes no difference. -/
theorem raiseAsMcpToolError_eq_iff_limit :
    exists message message' payload payload',
      raiseAsMcpToolError Json.tenthsBuiltins (limitError "s") = .toolError message ∧
      raiseAsMcpToolError Json.tenthsBuiltins (limitError "t") = .toolError message' ∧
      mapMcpError Json.tenthsBuiltins (limitError "s") = .ok payload ∧
      mapMcpError Json.tenthsBuiltins (limitError "t") = .ok payload' ∧
      (message = message' <-> SameReading payload payload') := by
  rcases exists_toolError Json.tenthsBuiltins (hasText_limit "s") with ⟨message, h⟩
  rcases exists_toolError Json.tenthsBuiltins (hasText_limit "t") with ⟨message', h'⟩
  rcases raiseAsMcpToolError_eq_iff (floatsRead_limit "s") (floatsRead_limit "t") h h' with
    ⟨payload, payload', hpayload, hpayload', hiff⟩
  exact ⟨message, message', payload, payload', h, h', hpayload, hpayload', hiff⟩

end YasinMcp
