import Remoting.World.Connect

/-!
# Running operations

A handler admits an operation, gets a channel for it, calls it and runs the body that the call
yields. From its admission to its end the operation holds a ticket and can be cancelled wherever it
waits. A cancellation is looked for whenever the operation is polled while it waits for its channel,
once more between the call and the first poll of the body, and whenever it is polled after that. So
an operation that is cancelled in the poll in which its channel arrives is still called, but its
body does not run.
-/

namespace Remoting.World

/-- Gets a channel for a handler. -/
def supply (w : World) (task : TaskId) (handler : HandlerId) (frames : List Frame) : World :=
  match w.handlers[handler]?.map fun h => h.supplier with
  | some (Supplier.plan channels calls) =>
    let plan := behaviourAt channels default calls
    (w.modifyHandler handler fun h => { h with supplier := .plan channels (calls + 1) }).enter task
      (.behave plan.behaviour) (.supplied plan.channel :: frames)
  | some (Supplier.client client) => w.enter task (.clientSupply client) frames
  | none => w.answer task (.error (.closed clientName)) frames

/-- Gets a channel from the source that a client hands out. The source works as long as somebody
holds the client. -/
def clientSupply (w : World) (task : TaskId) (client : ClientId) (frames : List Frame) : World :=
  if w.exists? client then w.enter task (.getChannel client) (.keep client :: frames)
  else w.answer task (.error (.closed clientName)) frames

/-- Hands on a channel that a stand-alone source has yielded. -/
def supplied (w : World) (task : TaskId) (channel : ChannelId) (reply : Reply)
    (frames : List Frame) : World :=
  w.answer task (reply.map fun _ => .handle channel) frames

/-- Runs an operation on a handler. -/
def execute (w : World) (task : TaskId) (handler : HandlerId) (routine : Routine)
    (client : Option ClientId) (frames : List Frame) : World :=
  match w.registerOperation handler with
  | (.error e, w) => w.answer task (.error e) frames
  | (.ok operation, w) =>
    w.enter task (.supply handler) (.supply handler operation routine client :: frames)

/-- Ends an operation with a reply. -/
def endExecute (w : World) (task : TaskId) (handler : HandlerId) (operation : OperationId)
    (reply : Reply) (frames : List Frame) : World :=
  (w.endOperation handler operation).answer task reply frames

/-- Goes on with an operation whose source of channels has answered. It is called with the channel
even if it was cancelled meanwhile. -/
def startOperation (w : World) (task : TaskId) (handler : HandlerId) (operation : OperationId)
    (routine : Routine) (client : Option ClientId) (reply : Reply) (frames : List Frame) : World :=
  match reply with
  | .ok (.handle channel) =>
    (w.bindOperation handler operation channel).enter task
      (.operate routine.call ⟨handler, channel, client⟩)
      (.opening operation routine.body ⟨handler, channel, client⟩ :: frames)
  | reply => w.endExecute task handler operation reply frames

/-- Goes on with an operation that was called. The body of an operation that was cancelled by now
does not run. -/
def startBody (w : World) (task : TaskId) (operation : OperationId) (body : Script) (site : Site)
    (frames : List Frame) : World :=
  match w.cancellation? site.handler operation with
  | some reason => w.endExecute task site.handler operation (.error reason) frames
  | none => w.enter task (.operate body site) (.operation site.handler operation :: frames)

/-- Runs the rest of a script of an operation. -/
def operate (w : World) (task : TaskId) (script : Script) (site : Site) (frames : List Frame) :
    World :=
  match script with
  | [] => w.answer task (.ok .unit) frames
  | .sleep ms :: rest => w.await task (.sleep (w.after ms)) (.script rest site :: frames)
  | .mark value :: rest => (w.emit (.mark value)).enter task (.operate rest site) frames
  | .pending :: _ => w.await task .forever frames
  | .panic content :: _ => w.goto task (.unwind content) frames
  | .ret value :: _ => w.answer task (.ok (.data value)) frames
  | .fail error :: _ => w.answer task (.error error) frames
  | .channel :: _ =>
    w.answer task (.ok (.channel site.channel (w.isOpen site.channel))) frames
  | .closeChannel :: _ => (w.closeChannel site.channel).answer task (.ok .unit) frames
  | .shutdown :: rest =>
    (w.shutdownHandler site.handler).enter task (.operate rest site) frames
  | .shutdownNow :: rest =>
    (w.shutdownHandlerNow site.handler).enter task (.operate rest site) frames
  | .channelClosed :: rest =>
    (w.handlerChannelClosed site.handler site.channel none).enter task (.operate rest site) frames
  | .active :: rest =>
    let count := (w.handlers[site.handler]?.map fun h => h.tracker.count).getD 0
    (w.emit (.active count)).enter task (.operate rest site) frames
  | .execute routine :: rest =>
    w.enter task (.execute site.handler routine site.client) (.nested rest site :: frames)
  | .getChannel :: rest =>
    match site.client with
    | some client => w.enter task (.getChannel client) (.nested rest site :: frames)
    | none => w.enter task (.operate rest site) frames
  | .closeClient :: rest =>
    match site.client with
    | some client => w.enter task (.close client none) (.nested rest site :: frames)
    | none => w.enter task (.operate rest site) frames

/-- Notes the result of a call inside an operation and goes on with the script. -/
def nestedDone (w : World) (task : TaskId) (rest : Script) (site : Site) (reply : Reply)
    (frames : List Frame) : World :=
  (w.emit (.result (reply.map w.present))).enter task (.operate rest site) frames

end Remoting.World
