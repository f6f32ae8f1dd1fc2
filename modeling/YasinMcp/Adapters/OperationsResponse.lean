import YasinMcp.Adapters.Operations
import YasinMcp.Foundation.JsonLocality

/-!
# Decoding the gateway's response

The gateway ends its line with a newline, and inside the line any character may
stand that JSON allows in a string.  Three of these end a line for the adapter.
A response is decoded exactly when no line ends inside it: what comes before the
first line end is a part of an object, and no part of one decodes.
-/

namespace YasinMcp

open Foundation

structure GatewayResponse where
  success : Bool
  status : String
  data : List (Key × Value)
  error : Option (List (Key × Value))
deriving DecidableEq

def OperationsResult.response (result : OperationsResult) : GatewayResponse where
  success := result.success
  status := result.status
  data := result.data
  error := result.error

structure IsResponse (payload : List (Key × Value)) (response : GatewayResponse) : Prop where
  success : Dict.lookupIn (Key.str "success") payload = some (.bool response.success)
  status : Dict.lookupIn (Key.str "status") payload = some (.str response.status)
  data : Dict.lookupIn (Key.str "data") payload = some (.dict response.data)
  error : Dict.lookupIn (Key.str "error") payload =
    some (match response.error with
      | none => .none
      | some error => .dict error)

/-- The text is an encoding of the object on one line. -/
structure Encodes (recursionLimit : Nat) (line : String) (payload : List (Key × Value)) : Prop where
  single_line : '\n' ∉ line.toList
  decodes : Json.loads recursionLimit line = .ok (.dict payload)

def gatewayHandler (requestId : String) (outcome : SubprocessOutcome) (_ : Unit) :
    (op : GatewayOp) -> GatewayRes op × Unit
  | .isReadableFile _ => (true, ())
  | .which _ => (true, ())
  | .requestId => (requestId, ())
  | .run _ _ _ => (outcome, ())

section

variable {py : Builtins} {interpreter : String} {recursionLimit : Nat}
  {adapter : OperationsAdapter} {operation targetKind targetIdentifier requestId : String}

/-- What is returned or raised when the gateway wrote this. -/
def OperationsAdapter.answer (py : Builtins) (interpreter : String) (recursionLimit : Nat)
    (adapter : OperationsAdapter) (operation targetKind targetIdentifier requestId : String)
    (stdout : List UInt8) (returncode : Int) : Except PyException OperationsResult :=
  (Program.run (gatewayHandler requestId (.completed stdout returncode))
    (adapter.invoke py interpreter recursionLimit operation targetKind targetIdentifier) ()).result

theorem answer_eq (hallowed : operation ∈ allowedOperations) (stdout : List UInt8)
    (returncode : Int) :
    adapter.answer py interpreter recursionLimit operation targetKind targetIdentifier requestId
        stdout returncode =
      (OperationsAdapter.decodeStdout stdout >>= fun text =>
        adapter.readResponse py recursionLimit operation text returncode) := by
  rw [OperationsAdapter.answer, OperationsAdapter.invoke, executableAvailable]
  split <;>
    simp only [buildRequest, Program.perform_bind, Program.pure_bind, Program.run_perform,
      gatewayHandler, Bool.not_true, Bool.false_eq_true, if_false, hallowed, not_true,
      Program.run_ofExcept]

theorem utf8ByteSize_universalNewlines (cs : List Char) :
    (String.ofList (Text.universalNewlines cs)).utf8ByteSize ≤ (String.ofList cs).utf8ByteSize := by
  rw [← Utf8.length_encodeUtf8, ← Utf8.length_encodeUtf8, encodeUtf8, encodeUtf8,
    String.toList_ofList, String.toList_ofList]
  fun_induction Text.universalNewlines cs with
  | case1 => exact Nat.le_refl _
  | case2 rest ih =>
      simp only [Uri.utf8_cons, List.length_append, String.length_utf8EncodeChar]
      omega
  | case3 rest hnewline ih =>
      simp only [Uri.utf8_cons, List.length_append, String.length_utf8EncodeChar]
      have hsize : Char.utf8Size '\n' = Char.utf8Size '\r' := by decide
      omega
  | case4 c rest hpair hreturn ih =>
      simp only [Uri.utf8_cons, List.length_append]
      omega

theorem decodeStdout_line (line : String) :
    OperationsAdapter.decodeStdout (encodeUtf8 (line ++ "\n")) =
      .ok (String.ofList (Text.universalNewlines (line.toList ++ ['\n']))) := by
  rw [OperationsAdapter.decodeStdout, Utf8.decode_encode]
  simp only [String.toList_append]
  rfl

/-!
## The line that is taken
-/

theorem isSpace_of_allSpace {cs : List Char} (h : Json.AllSpace cs) :
    forall c, c ∈ cs -> Text.isSpace c = true := by
  intro c hc
  have hspace := h c hc
  simp only [Json.isJsonSpace, Bool.or_eq_true, decide_eq_true_eq] at hspace
  rcases hspace with ((hspace | hspace) | hspace) | hspace <;> subst hspace <;> decide

theorem trimmed_of_objectText {text : List Char} {entries : List (Key × Value)}
    (h : Json.IsObjectText recursionLimit text entries) : Text.Trimmed text := by
  rcases h with ⟨hhead, hlast, _⟩
  rcases List.getLast?_eq_some_iff.mp hlast with ⟨front, hfront⟩
  cases text with
  | nil => cases hhead
  | cons c text =>
      cases hhead
      exact Text.trimmed_of_ends (by decide) (by decide) hfront

theorem strip_of_encodes {line : String} {payload : List (Key × Value)}
    (h : Encodes recursionLimit line payload) :
    Json.IsObjectText recursionLimit (Text.strip line).toList payload := by
  rcases Json.exists_objectText h.decodes with ⟨before, text, after, hline, hbefore, hafter, htext⟩
  have hstrip : Text.stripChars line.toList = text := by
    rw [hline]
    exact Text.stripChars_between (trimmed_of_objectText htext) (isSpace_of_allSpace hbefore)
      (isSpace_of_allSpace hafter)
  rw [Text.strip, String.toList_ofList, hstrip]
  exact htext

theorem responseLine_of_encodes {line : String} {payload : List (Key × Value)}
    (h : Encodes recursionLimit line payload) :
    responseLine (String.ofList (Text.universalNewlines (line.toList ++ ['\n']))) =
      String.ofList ((Text.strip line).toList.takeWhile fun c => !Text.isLineBoundary c) := by
  have htext := strip_of_encodes h
  have hstrip : (Text.strip line).toList = Text.stripChars line.toList := String.toList_ofList
  have hne : Text.stripChars line.toList ≠ [] := by
    intro hnil
    rw [hstrip, hnil] at htext
    cases htext.1
  have hread : Text.universalNewlines (Text.stripChars line.toList) ≠ [] := by
    cases hcs : Text.stripChars line.toList with
    | nil => exact absurd hcs hne
    | cons c cs =>
        rw [hstrip, hcs] at htext
        cases htext.1
        exact List.cons_ne_nil _ _
  rw [responseLine, Text.strip, String.toList_ofList, String.toList_ofList,
    Text.stripChars_universalNewlines hne, List.headD_eq_head?_getD, Text.head?_splitLines hread,
    Text.takeWhile_universalNewlines, hstrip]
  rfl

theorem responseLine_ne_empty {line : String} {payload : List (Key × Value)}
    (h : Encodes recursionLimit line payload) :
    responseLine (String.ofList (Text.universalNewlines (line.toList ++ ['\n']))) ≠ "" := by
  rw [responseLine_of_encodes h, ne_eq, ← String.toList_eq_nil_iff, String.toList_ofList]
  have htext := strip_of_encodes h
  cases hcs : (Text.strip line).toList with
  | nil =>
      rw [hcs] at htext
      cases htext.1
  | cons c cs =>
      rw [hcs] at htext
      cases htext.1
      exact List.cons_ne_nil _ _

/-!
## Decoding
-/

/-- The members are read as they are meant. -/
theorem readEnvelope_of_isResponse {payload : List (Key × Value)} {response : GatewayResponse}
    (h : IsResponse payload response) :
    exists result, adapter.readEnvelope py operation payload = .ok result ∧
      result.response = response := by
  rw [OperationsAdapter.readEnvelope]
  simp only [h.success, h.status, h.data, h.error, Option.getD_some, Value.toStr, ok_bind]
  refine ⟨_, rfl, ?_⟩
  cases response with
  | mk success status data error =>
      cases error with
      | none => rfl
      | some error => rfl

theorem loads_first_line {text : List Char} {payload : List (Key × Value)}
    (h : Json.IsObjectText recursionLimit text payload)
    (hinside : exists c, c ∈ text ∧ Text.isLineBoundary c = true) (v : Value) :
    Json.loads recursionLimit
      (String.ofList (text.takeWhile fun c => !Text.isLineBoundary c)) ≠ .ok v := by
  intro hloads
  have hsplit := List.takeWhile_append_dropWhile (p := fun c => !Text.isLineBoundary c) (l := text)
  have hbehind : text.dropWhile (fun c => !Text.isLineBoundary c) ≠ [] := by
    intro hnil
    rcases hinside with ⟨c, hc, hboundary⟩
    have hnot := List.dropWhile_eq_nil_iff.mp hnil c hc
    rw [hboundary] at hnot
    cases hnot
  have hspace : Json.AllSpace (text.dropWhile fun c => !Text.isLineBoundary c) := by
    have hwhole : (String.ofList (text.takeWhile fun c => !Text.isLineBoundary c)).toList ++
        text.dropWhile (fun c => !Text.isLineBoundary c) = [] ++ (text ++ []) := by
      rw [String.toList_ofList, hsplit, List.nil_append, List.append_nil]
    exact Json.allSpace_of_loads_front hwhole (fun c hc => absurd hc List.not_mem_nil)
      (fun c hc => absurd hc List.not_mem_nil) h hloads
  have hlast := h.2.1
  rw [← hsplit, List.getLast?_append_of_ne_nil _ hbehind] at hlast
  exact absurd (hspace '}' (List.mem_of_getLast? hlast)) (by decide)

theorem size_of_line {limit : Int} (line : String)
    (hfits : ((encodeUtf8 (line ++ "\n")).length : Int) ≤ limit) :
    ¬ limit < (String.ofList (Text.universalNewlines (line.toList ++ ['\n']))).utf8ByteSize := by
  have hle := utf8ByteSize_universalNewlines (line.toList ++ ['\n'])
  have hwhole : String.ofList (line.toList ++ ['\n']) = line ++ "\n" := by
    rw [String.ofList_append, String.ofList_toList]
  have hlength := Utf8.length_encodeUtf8 (line ++ "\n")
  rw [hwhole] at hle
  omega

theorem decodes_whole_line {line : String} {payload : List (Key × Value)}
    (hline : Encodes recursionLimit line payload)
    (hwhole : (Text.strip line).toList.any Text.isLineBoundary = false) :
    Json.loads recursionLimit
        (String.ofList ((Text.strip line).toList.takeWhile fun c => !Text.isLineBoundary c)) =
      .ok (.dict payload) := by
  have htake : ((Text.strip line).toList.takeWhile fun c => !Text.isLineBoundary c) =
      (Text.strip line).toList :=
    List.takeWhile_eq_self_iff.mpr fun c hc => by simpa using List.any_eq_false.mp hwhole c hc
  rw [htake, String.ofList_toList]
  exact Json.loads_of_isObjectText (strip_of_encodes hline)

theorem answer_of_whole_line (hallowed : operation ∈ allowedOperations) {line : String}
    {payload : List (Key × Value)} (hline : Encodes recursionLimit line payload)
    (hfits : ((encodeUtf8 (line ++ "\n")).length : Int) ≤ adapter.maxResponseBytes)
    (hwhole : (Text.strip line).toList.any Text.isLineBoundary = false) (returncode : Int) :
    adapter.answer py interpreter recursionLimit operation targetKind targetIdentifier requestId
        (encodeUtf8 (line ++ "\n")) returncode =
      adapter.readEnvelope py operation payload := by
  rw [answer_eq hallowed, decodeStdout_line, ok_bind, OperationsAdapter.readResponse,
    if_neg (size_of_line line hfits), if_neg (responseLine_ne_empty hline),
    responseLine_of_encodes hline, decodes_whole_line hline hwhole]

/-- Whatever stands before a line end inside the object, nothing is returned. -/
theorem answer_ne_ok (hallowed : operation ∈ allowedOperations) {line : String}
    {payload : List (Key × Value)} (hline : Encodes recursionLimit line payload)
    (hfits : ((encodeUtf8 (line ++ "\n")).length : Int) ≤ adapter.maxResponseBytes)
    (hinside : (Text.strip line).toList.any Text.isLineBoundary = true) (returncode : Int)
    (result : OperationsResult) :
    adapter.answer py interpreter recursionLimit operation targetKind targetIdentifier requestId
      (encodeUtf8 (line ++ "\n")) returncode ≠ .ok result := by
  rw [answer_eq hallowed, decodeStdout_line, ok_bind, OperationsAdapter.readResponse,
    if_neg (size_of_line line hfits), if_neg (responseLine_ne_empty hline),
    responseLine_of_encodes hline]
  intro hresult
  split at hresult
  · cases hresult
  · cases hresult
  · cases hresult
  · rename_i entries hloads
    exact loads_first_line (strip_of_encodes hline) (List.any_eq_true.mp hinside) _ hloads
  · cases hresult

/--
A response on one line within the limit is decoded to what it says if and only if
the line, without white space at its ends, has no character that ends a line.
-/
theorem decodes_iff (py : Builtins) (interpreter : String) (adapter : OperationsAdapter)
    (targetKind targetIdentifier requestId : String) (returncode : Int)
    (hallowed : operation ∈ allowedOperations) {line : String} {payload : List (Key × Value)}
    (hline : Encodes recursionLimit line payload) {response : GatewayResponse}
    (hresponse : IsResponse payload response)
    (hfits : ((encodeUtf8 (line ++ "\n")).length : Int) ≤ adapter.maxResponseBytes) :
    (exists result,
      adapter.answer py interpreter recursionLimit operation targetKind targetIdentifier requestId
          (encodeUtf8 (line ++ "\n")) returncode = .ok result ∧ result.response = response) <->
      (Text.strip line).toList.any Text.isLineBoundary = false := by
  cases hinside : (Text.strip line).toList.any Text.isLineBoundary with
  | false =>
      refine iff_of_true ?_ rfl
      rw [answer_of_whole_line hallowed hline hfits hinside]
      exact readEnvelope_of_isResponse hresponse
  | true =>
      refine iff_of_false ?_ (by decide)
      intro h
      rcases h with ⟨result, hresult, _⟩
      exact answer_ne_ok hallowed hline hfits hinside returncode result hresult

end

def sampleLine (status : String) : String :=
  "\x7b\"success\":true,\"status\":\"" ++ status ++ "\",\"data\":\x7b\x7d,\"error\":null\x7d"

def samplePayload (status : String) : List (Key × Value) :=
  [("success", .bool true), ("status", .str status), ("data", .dict []), ("error", .none)]

theorem decodes_sample :
    exists result,
      OperationsAdapter.answer plainBuiltins "python" 1000 {} operationListServices "runtime" "local"
          "r1" (encodeUtf8 (sampleLine "succeeded" ++ "\n")) 0 = .ok result ∧
        result.response = ⟨true, "succeeded", [], none⟩ :=
  (decodes_iff plainBuiltins "python" {} "runtime" "local" "r1" 0 (by decide)
    (show Encodes 1000 (sampleLine "succeeded") (samplePayload "succeeded") from
      ⟨by decide, by decide +kernel⟩) ⟨rfl, rfl, rfl, rfl⟩ (by decide +kernel)).mpr
    (by decide)

/-- A line separator stands raw in the status; the response is within every limit. -/
theorem line_separator_malformed :
    Encodes 1000 (sampleLine "a\u2028b") (samplePayload "a\u2028b") ∧
      IsResponse (samplePayload "a\u2028b") ⟨true, "a\u2028b", [], none⟩ ∧
      ((encodeUtf8 (sampleLine "a\u2028b" ++ "\n")).length : Int) ≤ defaultMaxResponseBytes ∧
      ¬ exists result,
        OperationsAdapter.answer plainBuiltins "python" 1000 {} operationListServices "runtime"
            "local" "r1" (encodeUtf8 (sampleLine "a\u2028b" ++ "\n")) 0 = .ok result ∧
          result.response = ⟨true, "a\u2028b", [], none⟩ := by
  have hline : Encodes 1000 (sampleLine "a\u2028b") (samplePayload "a\u2028b") :=
    ⟨by decide, by decide +kernel⟩
  have hresponse : IsResponse (samplePayload "a\u2028b") ⟨true, "a\u2028b", [], none⟩ :=
    ⟨rfl, rfl, rfl, rfl⟩
  have hfits : ((encodeUtf8 (sampleLine "a\u2028b" ++ "\n")).length : Int) ≤
      defaultMaxResponseBytes := by
    decide +kernel
  refine ⟨hline, hresponse, hfits, ?_⟩
  intro h
  rcases h with ⟨result, hresult, _⟩
  exact answer_ne_ok (by decide) hline hfits (by decide) 0 result hresult

end YasinMcp
