import ModelWiring.Exchange.Receipt
import ModelWiring.World

/-!
Asking a client. A request to the backend is prepared, sent over an open
channel and answered by the next reply; an exchange that fails is reported.
-/

namespace ModelWiring

/-- Takes the next reply to a request, with what it sets on the channel, and
gives the document that it brings. -/
def Request.send (request : Request) (channel : Nat) : Action Value := do
  modify fun w => { w with sent := w.sent ++ [request] }
  let receipt ← liftM (Receipt.ofReply request (← Action.takeReply))
  let w ← get
  let c := w.channel channel
  let cookies := Cookie.receive w.today request.target receipt.headers c.cookies
  Action.setChannel channel { c with cookies }
  liftM (receipt.document request cookies)

/-- Sends a table to an endpoint of the backend and waits for the document. -/
def Service.post (s : Service) (channel : Nat) (endpoint request : Value) : Action Value := do
  let c := (← get).channel channel
  let request ← liftM (s.prepare c.cookies endpoint request)
  if c.isClosed then throw .clientClosed
  tryCatch (request.send channel) fun cause => do
    if cause.isExchange then Action.note (.requestFailed endpoint cause)
    throw cause

namespace Client

def ask (id : ClientId) (capability : Capability) (request : Value) : Action Value := do
  let w ← get
  match w.clients[id]? with
  | none => throw (.failed "no such client")
  | some state => match state.client with
      | .service s channel => s.post channel (s.endpoint capability) request
      | .supplied _ _ answer =>
          let asked := { state with calls := state.calls ++ [(capability, request)] }
          set { w with clients := w.clients.set id asked }
          return answer capability request

def canClose : Client → Bool
  | service .. | supplied _ .returns _ | supplied _ (.fails _) _ => true
  | supplied _ .absent _ => false

/-- Closes a client: the backend's by closing its channel. -/
def close (id : ClientId) : Action Unit := do
  let w ← get
  match w.clients[id]? with
  | none => return
  | some state =>
      let closed := w.clients.set id { state with closes := state.closes + 1 }
      match state.client with
      | .service _ channel =>
          set { w with clients := closed }
          Action.setChannel channel { w.channel channel with isClosed := true }
      | .supplied _ .absent _ => return
      | .supplied _ .returns _ => set { w with clients := closed }
      | .supplied _ (.fails message) _ => throw (.failed message)

end Client

def openService (c : Connection) (channel : Nat) : Action ClientId := do
  let service ← liftM (Service.ofConnection c)
  Action.addClient (.service service channel)

end ModelWiring
