import YasinMcp.Adapters.Payload
import YasinMcp.Capabilities.Contract
import YasinMcp.Foundation.Lines
import YasinMcp.Foundation.Utf8

/-!
# Operations adapter

The adapter writes one request to the gateway's standard input, as one line of
JSON, and takes the first line of what the gateway wrote for the response.  It
finds that line by the rules of strings and not by those of the protocol: white
space is stripped at both ends, and a line ends at every character that splits a
string into lines.
-/

namespace YasinMcp

open Foundation

def operationListServices : String := "list_services"
def operationServiceStatus : String := "service_status"
def operationHealthCheck : String := "health_check"
def operationDiagnostics : String := "diagnostics"

def allowedOperations : List String :=
  [operationListServices, operationServiceStatus, operationHealthCheck, operationDiagnostics]

def safetyClassReadOnly : String := "read_only"
def defaultGatewayExecutable : String := "yasin-operations"
def defaultTimeoutSeconds : Int := 15
def defaultMaxResponseBytes : Int := 1000000
def schemaVersion : Int := 1

structure OperationsResult where
  operation : String
  success : Bool
  status : String
  data : List (Key × Value)
  error : Option (List (Key × Value))
  evidenceStatus : EvidenceStatus
  source : String
deriving DecidableEq

inductive SubprocessOutcome where
  | fileNotFound
  | timeoutExpired
  | completed (stdout : List UInt8) (returncode : Int)
deriving DecidableEq

inductive GatewayOp where
  | isReadableFile (path : String)
  | which (name : String)
  | requestId
  | run (command : List String) (input : String) (timeout : Int)

abbrev GatewayRes : GatewayOp -> Type
  | .isReadableFile _ => Bool
  | .which _ => Bool
  | .requestId => String
  | .run _ _ _ => SubprocessOutcome

abbrev Gateway := Program GatewayOp GatewayRes PyException

structure OperationsAdapter where
  executable : String := defaultGatewayExecutable
  timeoutSeconds : Int := defaultTimeoutSeconds
  maxResponseBytes : Int := defaultMaxResponseBytes

/-!
## The request
-/

def isScript (executable : String) : Bool :=
  ".py".toList.isSuffixOf executable.toList

def executableAvailable (executable : String) : Gateway Bool :=
  if isScript executable then .perform (.isReadableFile executable) .pure
  else .perform (.which executable) .pure

/-- The command; a script is run by this interpreter. -/
def commandForExecutable (interpreter executable : String) : List String :=
  if isScript executable then [interpreter, executable, "gateway"] else [executable, "gateway"]

def buildRequest (py : Builtins) (operation targetKind targetIdentifier : String) :
    Gateway String :=
  if operation ∉ allowedOperations then
    .raise (validationError
      ("operation " ++ py.repr (.str operation) ++
        " is not permitted through the Operations adapter")
      [("operation", .str operation)])
  else
    .perform .requestId fun requestId =>
      .pure (Json.writeObject
        [("schema_version", toString schemaVersion),
          ("request", Json.writeObject
            [("operation", Json.writeString operation),
              ("target_kind", Json.writeString targetKind),
              ("target_identifier", Json.writeString targetIdentifier),
              ("safety_class", Json.writeString safetyClassReadOnly),
              ("parameters", "\x7b\x7d"),
              ("actor", Json.writeString "yasin-mcp"),
              ("source", Json.writeString "yasin-mcp"),
              ("request_id", Json.writeString requestId)])])

/-!
## The response
-/

/-- The first line of the text without white space at its ends, or nothing. -/
def responseLine (stdout : String) : String :=
  String.ofList ((Text.splitLines (Text.strip stdout).toList).headD [])

namespace OperationsAdapter

def source (adapter : OperationsAdapter) : String :=
  "yasin-operations gateway (" ++ adapter.executable ++ ")"

def readEnvelope (py : Builtins) (adapter : OperationsAdapter) (operation : String)
    (entries : List (Key × Value)) : Except PyException OperationsResult := do
  let member := fun name => Dict.lookupIn (Key.str name) entries
  let status ← ((member "status").getD (.str "unknown")).toStr py
  .ok
    { operation := operation
      success := ((member "success").getD (.bool false)).truthy
      status := status
      data :=
        match member "data" with
        | some (.dict data) => data
        | _ => []
      error :=
        match member "error" with
        | some (.dict error) => some error
        | _ => none
      evidenceStatus :=
        if ((member "service_available").getD (.bool true)).truthy then .confirmed else .unresolved
      source := adapter.source }

def readResponse (py : Builtins) (recursionLimit : Nat) (adapter : OperationsAdapter)
    (operation stdout : String) (returncode : Int) : Except PyException OperationsResult :=
  if adapter.maxResponseBytes < stdout.utf8ByteSize then
    .error (internalError "Yasin-Operations gateway response exceeded the maximum allowed size"
      [("max_response_bytes", .int adapter.maxResponseBytes)])
  else if responseLine stdout = "" then
    .error (internalError "Yasin-Operations gateway produced no response"
      [("operation", .str operation), ("returncode", .int returncode)])
  else
    match Json.loads recursionLimit (responseLine stdout) with
    | .error .decode =>
        .error (internalError "Yasin-Operations gateway returned a malformed response"
          [("operation", .str operation)])
    | .error (.digits count) => .error (.valueError (digitLimitMessage count))
    | .error .recursion => .error .recursionError
    | .ok (.dict entries) => readEnvelope py adapter operation entries
    | .ok _ =>
        .error (internalError
          "Yasin-Operations gateway response envelope must be a JSON object"
          [("operation", .str operation)])

def decodeStdout (stdout : List UInt8) : Except PyException String :=
  match decodeUtf8? stdout with
  | none => .error (.other "UnicodeDecodeError" true)
  | some text => .ok (String.ofList (Text.universalNewlines text.toList))

def invoke (py : Builtins) (interpreter : String) (recursionLimit : Nat)
    (adapter : OperationsAdapter) (operation targetKind targetIdentifier : String) :
    Gateway OperationsResult := do
  let available ← executableAvailable adapter.executable
  if !available then
    .raise (unavailableDependencyError
      "Yasin-Operations gateway executable is not available on PATH"
      [("executable", .str adapter.executable)])
  else do
    let request ← buildRequest py operation targetKind targetIdentifier
    .perform
      (.run (commandForExecutable interpreter adapter.executable) (request ++ "\n")
        adapter.timeoutSeconds)
      fun outcome =>
        match outcome with
        | .fileNotFound =>
            .raise (unavailableDependencyError
              "Yasin-Operations gateway executable could not be started"
              [("executable", .str adapter.executable)])
        | .timeoutExpired =>
            .raise (timeoutMcpError
              ("Yasin-Operations gateway did not respond within " ++
                toString adapter.timeoutSeconds ++ "s")
              [("operation", .str operation)])
        | .completed stdout returncode =>
            .ofExcept do
              let text ← decodeStdout stdout
              readResponse py recursionLimit adapter operation text returncode

def listServices (py : Builtins) (interpreter : String) (recursionLimit : Nat)
    (adapter : OperationsAdapter) : Gateway OperationsResult :=
  adapter.invoke py interpreter recursionLimit operationListServices "runtime" "local"

def serviceStatus (py : Builtins) (interpreter : String) (recursionLimit : Nat)
    (adapter : OperationsAdapter) (serviceName : String) : Gateway OperationsResult :=
  if Text.isBlank serviceName then
    .raise (validationError "service_name must not be empty")
  else
    adapter.invoke py interpreter recursionLimit operationServiceStatus "service"
      (Text.strip serviceName)

def health (py : Builtins) (interpreter : String) (recursionLimit : Nat)
    (adapter : OperationsAdapter) : Gateway OperationsResult :=
  adapter.invoke py interpreter recursionLimit operationHealthCheck "self" "runtime"

def diagnostics (py : Builtins) (interpreter : String) (recursionLimit : Nat)
    (adapter : OperationsAdapter) : Gateway OperationsResult :=
  adapter.invoke py interpreter recursionLimit operationDiagnostics "runtime" "local"

end OperationsAdapter

end YasinMcp
