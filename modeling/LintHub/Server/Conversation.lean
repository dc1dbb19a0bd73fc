import LintHub.Protocol.Notices
import LintHub.Protocol.Requests
import LintHub.Server.State

set_option autoImplicit false

/-!
# The conversation with an editor

Editors speak in requests, which are answered, and notifications, which are not. The conversation
goes through phases: nothing but the request to initialize is served before it, nothing but the
notification to exit after the request to shut down. A message whose parameters are not as they
should be is answered with an error, or dropped.
-/

namespace LintHub.Server

open Json

/-- A message of the editor. -/
structure Call where
  /-- The name of a request, by which it is answered; a notification has none. -/
  id : Option Value
  method : String
  params : Option Value

/-- A message as it comes from an editor. Null is a name of a request, and null parameters are
parameters. -/
def Call.ofJson (v : Value) : Call :=
  let method := match v.member? "method" with
    | some (.string s) => s
    | _ => ""
  ⟨v.member? "id", method, v.member? "params"⟩

/-- An error of the conversation. -/
structure CallError where
  code : Nat
  text : String
  data : Option Value

/-- What a message is answered with. -/
inductive Response where
  | none
  | result (id : Value) (v : Value)
  | error (id : Value) (e : CallError)
  /-- The conversation is over. -/
  | exited

namespace CallError

/-- The server was not initialized. The code is negative. -/
def notInitialized : CallError := ⟨32002, "Server not initialized", Option.none⟩

/-- The request makes no sense at this point. -/
def invalidRequest : CallError := ⟨32600, "Invalid request", Option.none⟩

/-- The request is one that is not served. -/
def notServed : CallError := ⟨32601, "Method not found", Option.none⟩

/-- There is no such request. -/
def unknownMethod (method : String) : CallError :=
  ⟨32601, "Method not found", some (.string method)⟩

/-- The parameters are not as they should be. -/
def invalidParams (reason : String) : CallError := ⟨32602, reason, Option.none⟩

/-- The error as a JSON value. -/
def toJson (e : CallError) : Value :=
  .object ([("code", .number (.negative e.code)), ("message", .string e.text)] ++
    Message.optionalMember "data" id e.data)

end CallError

/-- The response as a JSON value. -/
def Response.toJson : Response → Value
  | .none => .null
  | .result id v => .object [("jsonrpc", .string "2.0"), ("id", id), ("result", v)]
  | .error id e => .object [("jsonrpc", .string "2.0"), ("id", id), ("error", e.toJson)]
  | .exited => .object [("exited", .string "language server has exited")]

/-! ## Parameters -/

/-- Reads parameters, which must be given. -/
def readParams {α : Type} (d : Decoder α) (params : Option Value) : Except CallError α :=
  match params with
  | none => .error (.invalidParams "Missing params field")
  | some v =>
    match decodeFromValue d v with
    | .error e => .error (.invalidParams e.text)
    | .ok a => .ok a

/-- The directory that the parameters of the first request name. -/
def rootOfParams (params : Option Value) : Except CallError (Option Path) :=
  (readParams Protocol.decodeRoot params).map fun u => u.bind Uri.toPath?

/-! ## Messages -/

/-- The name of the server. -/
def serverName : String := "lintdeck-lsp"

/-- The version of the server. -/
def serverVersion : String := "0.1.0"

/-- What the server says about itself: it is sent the full text of changed and saved documents. -/
def introduction : Value :=
  .object [("capabilities", .object [("textDocumentSync", .object
      [("openClose", .bool true), ("change", .ofNat 1),
        ("save", .object [("includeText", .bool true)])])]),
    ("serverInfo", .object [("name", .string serverName), ("version", .string serverVersion)])]

/-- The notifications that are known. -/
def knownNotifications : List String :=
  ["initialized", "textDocument/didOpen", "textDocument/didChange", "textDocument/willSave",
   "textDocument/didSave", "textDocument/didClose", "workspace/didChangeConfiguration",
   "workspace/didChangeWorkspaceFolders", "workspace/didChangeWatchedFiles",
   "workspace/didCreateFiles", "workspace/didRenameFiles", "workspace/didDeleteFiles",
   "$/cancelRequest"]

/-- Enters a phase. -/
def enter (phase : Phase) (w : State) : State := w.modifyHost fun d => { d with phase }

/-- The error of a request that its phase does not admit. -/
def outOfPhase (phase : Phase) : CallError :=
  match phase with
  | .uninitialized => .notInitialized
  | _ => .invalidRequest

/-- What a notification does to the server, if its parameters are as they should be. -/
def effectOf (emit : Emit Tap Desk) (method : String) (params : Option Value) :
    Except CallError (State → State) :=
  match method with
  | "initialized" =>
    (readParams Protocol.nothing params).map fun _ =>
      tell (.log 3 "lintdeck LSP server initialized!")
  | "textDocument/didOpen" =>
    (readParams Protocol.Opening.decode params).map fun p =>
      didOpen emit p.uri p.language p.text p.version
  | "textDocument/didChange" =>
    (readParams Protocol.Change.decode params).map fun p => didChange p.uri p.texts p.version
  | "textDocument/didSave" =>
    (readParams Protocol.Saving.decode params).map fun p => didSave emit p.uri p.text
  | "textDocument/didClose" =>
    (readParams Protocol.decodeClosing params).map fun uri => didClose emit uri
  | "workspace/didChangeWatchedFiles" =>
    (readParams Protocol.decodeFileEvents params).map fun uris => didChangeFiles emit uris
  | _ => .ok id

/-- A notification takes effect, unless something is wrong with its parameters. -/
def notice (emit : Emit Tap Desk) (method : String) (params : Option Value) (w : State) : State :=
  match effectOf emit method params with
  | .ok f => f w
  | .error _ => w

/-- The request to initialize is answered. -/
def initializeWith (emit : Emit Tap Desk) (id : Value) (params : Option Value) (w : State) :
    State × Response :=
  if w.host.phase == .uninitialized then
    match rootOfParams params with
    | .error e => (w, .error id e)
    | .ok root => (openRoot emit root (enter .initialized w), .result id introduction)
  else (w, .error id .invalidRequest)

/-- The request to shut down is answered. -/
def shutDownWith (emit : Emit Tap Desk) (id : Value) (params : Option Value) (w : State) :
    State × Response :=
  if w.host.phase == .initialized then
    match params with
    | none => (shutdown emit (enter .shutDown w), .result id .null)
    | some v =>
      -- The phase is entered all the same, but the engine is not shut down.
      (enter .shutDown w, .error id (.invalidParams ("Unexpected params: " ++ v.ordered.compress)))
  else (w, .error id (outOfPhase w.host.phase))

/-- What is wrong with a request that is not served. -/
def refusal (phase : Phase) (shape : Shape) (params : Option Value) : CallError :=
  if phase == .initialized then
    match readParams shape params with
    | .ok () => .notServed
    | .error e => e
  else outOfPhase phase

/-- A request is answered. -/
def request (emit : Emit Tap Desk) (id : Value) (method : String) (params : Option Value)
    (w : State) : State × Response :=
  if method == "initialize" then initializeWith emit id params w
  else if method == "shutdown" then shutDownWith emit id params w
  else if method == "exit" then (enter .exited w, .none)
  else if knownNotifications.contains method then
    if w.host.phase == .initialized then (w, .error id .invalidRequest)
    else (w, .error id (outOfPhase w.host.phase))
  else
    match Protocol.unservedRequests.find? (·.1 == method) with
    | some r => (w, .error id (refusal w.host.phase r.2 params))
    | none =>
      if method.toList.take 2 == ['$', '/'] then (w, .none)
      else (w, .error id (.unknownMethod method))

/-- A message of the editor is handled. -/
def handle (emit : Emit Tap Desk) (c : Call) (w : State) : State × Response :=
  if w.host.phase == .exited then (w, .exited)
  else
    match c.id with
    | some id => request emit id c.method c.params w
    | none =>
      if c.method == "exit" then (enter .exited w, .none)
      -- Without a name nobody awaits an answer: the phase changes, and the engine stays as it is.
      else if c.method == "shutdown" && w.host.phase == .initialized then
        (enter .shutDown w, .none)
      else if w.host.phase == .initialized then (notice emit c.method c.params w, .none)
      else (w, .none)

end LintHub.Server
