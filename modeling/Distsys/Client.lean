import Distsys.Lib.Runs
import Distsys.Transport.Framing
import Distsys.Wire.Decoding

/-!
# The client of the service

`CrdtClient` sends each call over a connection of its own and joins the token of every
successful response into the token of the session. Calls of one client may overlap: a request
is made with the token of the moment, and the token of the response is joined into the token
the client has when the response arrives.
-/

namespace Distsys

/-- A client with the token of its session. -/
structure CrdtClient where
  clientId : PyStr
  causalToken : CausalToken := .empty

/-- The exceptions of a call. -/
inductive CrdtClientError
  | correlationMismatch (message : PyStr)
  | connectionError (message : String)
  | remoteCrdtError (code : Option ErrorCode) (message : String)
  | valueError (message : String)
  | raised (error : PeerException)

/-- What a call of the client returns. -/
structure CrdtResult where
  key : PyStr
  crdtType : CrdtType
  value : Json
  causalToken : CausalToken
  servedBy : PyStr
  repairPerformed : Bool

/-- The calls of a client. -/
inductive CrdtCall
  | increment (key : PyStr) (amount : Nat) (crdtType : CrdtType)
  | decrement (key : PyStr) (amount : Nat)
  | add (key element : PyStr)
  | remove (key element : PyStr)
  | writeRegister (key : PyStr) (value : Json)
  | read (key : PyStr)

/-- The key that a call is about. -/
def CrdtCall.key : CrdtCall → PyStr
  | .increment key _ _ | .decrement key _ | .add key _ | .remove key _ | .writeRegister key _
  | .read key => key

/-- What happens to an exchange: the connection with what arrives over it, and the exception
of closing it. -/
structure ClientOutcome where
  peer : PeerOutcome
  closing : Option PeerException := none

/-- The layouts and limits that a client is built with. -/
structure ClientSetup where
  json : JsonReader
  envelope : Protobuf Proto.Envelope (List UInt8)
  wire : CrdtWire (List UInt8)
  maxFrameSize : Nat

namespace CrdtClient

/-- `_token`. -/
def token (client : CrdtClient) (explicit : Option CausalToken) : CausalToken :=
  match explicit with
  | none => client.causalToken
  | some explicit => client.causalToken.merge explicit

variable (setup : ClientSetup)

/-- The payload of the message that `_mutate` sends. -/
def encodeMutation (request : CrdtMutationData) :
    Except CrdtClientError (MessageType × List UInt8) :=
  match mutationRequestToProto request with
  | .ok msg => .ok (.crdtMutateRequest, setup.wire.mutationRequest.serialize msg)
  | .error error => .error (.raised (.ofPyError error))

/-- The payload of the message that `read` sends. -/
def encodeRead (request : CrdtReadData) : Except CrdtClientError (MessageType × List UInt8) :=
  match readRequestToProto request with
  | .ok msg => .ok (.crdtReadRequest, setup.wire.readRequest.serialize msg)
  | .error error => .error (.raised (.ofPyError error))

/-- The methods of the client, up to their exchange. -/
def prepare (client : CrdtClient) (call : CrdtCall) (explicit : Option CausalToken) :
    Except CrdtClientError (MessageType × List UInt8) :=
  let causalToken := client.token explicit
  match call with
  | .increment key amount crdtType =>
      if crdtType ≠ .gcounter ∧ crdtType ≠ .pncounter then
        .error (.valueError "increment supports GCounter or PNCounter")
      else encodeMutation setup { key, crdtType, operation := .increment, amount, causalToken }
  | .decrement key amount =>
      encodeMutation setup
        { key, crdtType := .pncounter, operation := .decrement, amount, causalToken }
  | .add key element =>
      encodeMutation setup
        { key, crdtType := .orset, operation := .add, value := .str element, causalToken }
  | .remove key element =>
      encodeMutation setup
        { key, crdtType := .orset, operation := .remove, value := .str element, causalToken }
  | .writeRegister key value =>
      encodeMutation setup { key, crdtType := .mvregister, operation := .write, value, causalToken }
  | .read key => encodeRead setup { key, causalToken }

/-- Write the request to the connection and read one message from it. A connection error of
the closing is dropped, any other exception of it is raised. -/
def converse (request : Message) (outcome : ClientOutcome) : Except PeerException Message :=
  match outcome.peer with
  | .refused reason => .error (.connectionError reason)
  | .timedOut reason => .error (.timeoutError reason)
  | .failed reason => .error (.osError reason)
  | .raised error => .error (.raised error)
  | .answered stream =>
      match outcome.closing with
      | none | some (.connectionError _) => do
          let _ ← encodeFrame setup.envelope setup.maxFrameSize request
          readMessage setup.envelope setup.maxFrameSize stream
      | some error => .error error

/-- The rest of `_exchange`: only a successful response changes the token. -/
def exchange (client : CrdtClient) (request : Message) (outcome : ClientOutcome) :
    Except CrdtClientError CrdtResponseData × CrdtClient :=
  match converse setup request outcome with
  | .error error => (.error (.raised error), client)
  | .ok response =>
      if response.correlationId ≠ request.correlationId then
        (.error (.correlationMismatch (PyStr.ofString "expected " ++ request.correlationId ++
          PyStr.ofString ", got " ++ response.correlationId)), client)
      else if response.msgType ≠ .crdtResponse then
        (.error (.connectionError ("expected CRDT_RESPONSE, got " ++ response.msgType.name)),
          client)
      else match decodeCrdtResponse setup.json setup.wire.response response.payload with
        | .error error => (.error (.raised (.ofPyError error)), client)
        | .ok decoded =>
            if decoded.success then
              (.ok decoded,
                { client with causalToken := client.causalToken.merge decoded.causalToken })
            else (.error (.remoteCrdtError decoded.errorCode decoded.errorMessage), client)

/-- `_result`. -/
def result (client : CrdtClient) (key : PyStr) (response : CrdtResponseData) :
    Except CrdtClientError CrdtResult :=
  match response.crdtType with
  | none => .error (.connectionError "successful CRDT response did not include a CRDT type")
  | some crdtType =>
      .ok ⟨key, crdtType, response.value, client.causalToken, response.servedBy,
        response.repairPerformed⟩

end CrdtClient

/-- A client with the calls that are waiting for their responses and the results so far. -/
structure ClientSession where
  client : CrdtClient
  waiting : List (PyStr × Message) := []
  results : List (Except CrdtClientError CrdtResult) := []

/-- The client makes a call, or the exchange of a waiting call comes to its end. -/
inductive ClientStep
  | call (call : CrdtCall) (explicit : Option CausalToken) (correlationId : PyStr)
      (timestampMs : Nat)
  | finish (index : Nat) (outcome : ClientOutcome)

namespace ClientSession

variable (setup : ClientSetup)

/-- One step of a session; a response may arrive after later calls. -/
def step (session : ClientSession) : ClientStep → Option ClientSession
  | .call call explicit correlationId timestampMs =>
      match session.client.prepare setup call explicit with
      | .error error => some { session with results := session.results ++ [.error error] }
      | .ok (msgType, payload) =>
          let request : Message :=
            { msgType, senderId := session.client.clientId, correlationId, timestampMs, payload }
          some { session with waiting := session.waiting ++ [(call.key, request)] }
  | .finish index outcome =>
      match session.waiting[index]? with
      | none => none
      | some (key, request) =>
          let (response, client) := session.client.exchange setup request outcome
          let result := response.bind (client.result key)
          some ⟨client, session.waiting.eraseIdx index, session.results ++ [result]⟩

variable {setup}

/-- An exchange keeps the token or joins another into it. -/
theorem token_le_exchange (client : CrdtClient) (request : Message) (outcome : ClientOutcome) :
    client.causalToken.version ≤ (client.exchange setup request outcome).2.causalToken.version := by
  unfold CrdtClient.exchange
  repeat' split
  all_goals first
    | exact le_rfl
    | exact le_sup_left

theorem token_le_step {before after : ClientSession} {label : ClientStep}
    (stepped : before.step setup label = some after) :
    before.client.causalToken.version ≤ after.client.causalToken.version := by
  cases label with
  | call call explicit correlationId timestampMs =>
      unfold step at stepped
      dsimp only at stepped
      split at stepped
      · cases stepped
        exact le_rfl
      · cases stepped
        exact le_rfl
  | finish index outcome =>
      unfold step at stepped
      dsimp only at stepped
      split at stepped
      · cases stepped
      · cases stepped
        exact token_le_exchange _ _ _

/-- The token of a session never decreases. -/
theorem token_le_runs {first last : ClientSession}
    (run : RunsUnder (step setup) (fun _ _ => True) first last) :
    first.client.causalToken.version ≤ last.client.causalToken.version :=
  run.invariant (first.client.causalToken.version ≤ ·.client.causalToken.version) le_rfl
    fun below _ stepped => below.trans (token_le_step stepped)

end ClientSession

end Distsys
