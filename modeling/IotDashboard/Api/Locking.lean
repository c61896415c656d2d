import IotDashboard.Api.PubSub
import IotDashboard.Api.Wiring
import IotDashboard.Foundation.LockOrder

/-!
# The locks of the program

Every mutex of the program is a member of one object and is taken by the scopes of that object's
functions. Some of these functions run inside the scopes of others: a request is handled under the
mutex of the router, a message of the broker under the mutex of the callback, and a session's queue
is filled under the mutex of the server. What follows is, function by function, which mutexes are
taken around what. For the code of the device manager it is read off its programs; for the
application, the WebSocket server and the two servers' sessions it is written down from the source.
That a thread waits for another to end is left out: no mutex is held over a join.

## Main definitions

* `Mutex`: the mutexes, with an order;
* `EntryPoint.locks`: what the threads of the program run.

## Main results

* `EntryPoint.orderedAbove_locks`: every function takes its mutexes in order;
* `locks_of_reachable`: mutual exclusion, no mutex taken twice, and no deadlock.
-/

namespace IotDashboard

open LockCmd

/-- The mutexes of the program. -/
inductive Mutex where
  /-- `HttpRouter::m_mutex`. -/
  | router
  /-- `MqttClient::m_callbackMutex`. -/
  | callback
  /-- `MqttClient::m_subsMutex`. -/
  | subs
  /-- `MqttClient::m_cvMutex`. -/
  | cv
  | deviceManager
  | deviceRepository
  | sensorRepository
  | ruleRepository
  | heartbeatMonitor
  | authService
  /-- `WsServer::m_sessionsMutex`. -/
  | sessions
  /-- `WsSession::m_writeMutex` of a session. -/
  | write (id : ConnectionId)
deriving DecidableEq

namespace Mutex

/-- How deep a mutex is taken. -/
def rank : Mutex → ℕ
  | router | callback => 0
  | write _ => 2
  | _ => 1

instance : Preorder Mutex := Preorder.lift rank

private theorem lt_iff {m m' : Mutex} : m < m' ↔ m.rank < m'.rank := Iff.rfl

/-- The mutex may be taken while those of the list are held. -/
def Above (m : Mutex) (held : List Mutex) : Prop := ∀ h ∈ held, h < m

@[simp]
theorem above_nil (m : Mutex) : m.Above [] := fun _ h => absurd h List.not_mem_nil

end Mutex

/-- What code does with the mutexes. -/
abbrev Locking : Type 1 := LockCmd Mutex

/-- A function whose body is one scope. -/
def Mutex.scope (m : Mutex) : Locking := locked m skip

/-! ## WebSocket server -/

namespace WsSession

/-- `Send`; what it posts runs later. -/
def sendLocks (id : ConnectionId) : Locking := (Mutex.write id).scope

/-- `DoWrite`: the next message is taken in a scope and written outside. -/
def doWriteLocks (id : ConnectionId) : Locking := (Mutex.write id).scope

end WsSession

namespace WsServer

/-- `ConnectionCount`. -/
def connectionCountLocks : Locking := Mutex.sessions.scope

/-- `Broadcast`. -/
def broadcastLocks : Locking := locked .sessions (loop (choose WsSession.sendLocks))

/-- The functions that `WsOperation` lists. -/
def applyLocks : WsOperation → Locking
  | .send id _ => locked .sessions (perhaps (WsSession.sendLocks id))
  | .broadcast _ => broadcastLocks
  -- No topic, no loop.
  | .broadcastToTopic _ _ => locked .sessions (loop (choose WsSession.sendLocks))
  | .subscribe _ _ => Mutex.sessions.scope
  | .unsubscribe _ _ => Mutex.sessions.scope

/-- `OnSessionConnected`, which logs the number of connections; no callback is installed. -/
def onSessionConnectedLocks : Locking := block [Mutex.sessions.scope, connectionCountLocks]

/-- `OnSessionDisconnected`. -/
def onSessionDisconnectedLocks : Locking := block [Mutex.sessions.scope, connectionCountLocks]

/-- `OnSessionMessage` with the callback of `WireWebSocketHandlers`. -/
def onSessionMessageLocks (V : Vendor) (msg : WsMessage) : Locking :=
  block ((webSocketHandler V msg).map applyLocks)

/-- `Stop`: closing a session is posted. -/
def stopLocks : Locking := perhaps (locked .sessions (loop skip))

end WsServer

namespace WsSession

/-- `OnWrite`. -/
def onWriteLocks (id : ConnectionId) : Locking :=
  either WsServer.onSessionDisconnectedLocks
    (block [(Mutex.write id).scope, perhaps (doWriteLocks id)])

/-- The handler of a completion. -/
def onCompletionLocks (V : Vendor) (id : ConnectionId) : Completion → Locking
  | .accept succeeded => if succeeded then WsServer.onSessionConnectedLocks else skip
  | .read .closed | .read .error => WsServer.onSessionDisconnectedLocks
  | .read (.text payload) => WsServer.onSessionMessageLocks V ⟨id, payload⟩
  | .read .binary => skip
  | .doWrite => doWriteLocks id
  | .write _ _ => onWriteLocks id

end WsSession

/-! ## Device manager -/

instance (e : PortCall) : Nonempty e.Reply := by
  cases e <;> first | exact ⟨false⟩ | exact ⟨.error .deviceNotFound⟩

instance (e : ManagerCall) : Nonempty e.Reply := by
  cases e with
  | port e => exact inferInstanceAs (Nonempty e.Reply)
  | statusCallback deviceId online => exact ⟨.ok ()⟩
  | sensorCallback reading => exact ⟨.ok ()⟩

/-- The functions of the repository and of the MQTT client that `PortCall` lists. -/
def PortCall.locks : PortCall → Locking
  | getById _ | getAll | add _ | update _ | remove _ => Mutex.deviceRepository.scope
  | isConnected => skip
  -- The table of subscriptions is written if the broker was asked.
  | subscribe _ _ => perhaps Mutex.subs.scope
  | unsubscribe _ => Mutex.subs.scope
  | publish _ _ _ _ => skip

/-- Code of the device manager. -/
def Ports.locks {α : Type} (p : Ports α) : Locking := p.locking PortCall.locks

variable (V : Vendor)

/-- `RuleEngine::Evaluate`. -/
def RuleEngine.evaluateLocks : Locking := Mutex.ruleRepository.scope

/-- The installed callbacks, which are copied in a scope and called outside. -/
def ManagerCall.locks : ManagerCall → Locking
  | port e => e.locks
  | statusCallback _ _ => block [Mutex.deviceManager.scope, WsServer.broadcastLocks,
      WsServer.applyLocks (.broadcastToTopic [] [])]
  | sensorCallback _ => block [Mutex.deviceManager.scope,
      WsServer.applyLocks (.broadcastToTopic [] []), WsServer.applyLocks (.broadcastToTopic [] []),
      RuleEngine.evaluateLocks, choose fun actions => (Wired.dispatch V actions).locks]

/-! ## MQTT client -/

namespace MqttClient

/-- `OnMessageArrived`: the callback runs in the scope. -/
def onMessageArrivedLocks (now : Timestamp) (topic payload : StdString) : Locking :=
  locked .callback ((DeviceManager.handleMqttMessage V now topic payload).locking
    (ManagerCall.locks V))

/-- `OnConnected`, which subscribes to everything again. -/
def onConnectedLocks : Locking := locked .subs (loop skip)

/-- `OnConnectSuccess` and `OnConnectFailure`. -/
def onConnectResultLocks : Locking := Mutex.cv.scope

/-- `Connect`; while it waits, the mutex is free. -/
def connectLocks : Locking := block [Mutex.cv.scope, perhaps Mutex.cv.scope]

/-- `SetMessageCallback`. -/
def setMessageCallbackLocks : Locking := Mutex.callback.scope

end MqttClient

/-! ## HTTP requests -/

/-- The middleware of `MakeAuthMiddleware`. -/
def authMiddlewareLocks : Locking := perhaps Mutex.authService.scope

/-- The handlers that the controllers add to the router, with what they pass on. -/
inductive HandlerRun where
  | getHealth
  | postLogin
  | postRefresh
  | postLogout
  | getDevices (filter : DeviceFilter)
  | postDevices (now : Timestamp) (request : RegisterDeviceRequest)
  | deleteDevices (deviceId : StdString)
  | postCommands (deviceId command parameters : StdString)
  | getSensors
  | getRules
  | postRules
  | deleteRules
  | getMetrics

/-- A handler; a request that is turned down goes no further. -/
def HandlerRun.locks : HandlerRun → Locking
  | getHealth => skip
  | postLogin | postRefresh | postLogout => perhaps Mutex.authService.scope
  | getDevices filter => (DeviceManager.list filter).locks
  | postDevices now request => perhaps (DeviceManager.register now request).locks
  | deleteDevices deviceId => perhaps (DeviceManager.unregister deviceId).locks
  | postCommands deviceId command parameters =>
    perhaps (DeviceManager.sendCommand V deviceId command parameters).locks
  | getSensors => Mutex.sensorRepository.scope
  | getRules => Mutex.ruleRepository.scope
  -- The rule is added and then read again.
  | postRules => perhaps (block [Mutex.ruleRepository.scope, perhaps Mutex.ruleRepository.scope])
  | deleteRules => perhaps Mutex.ruleRepository.scope
  | getMetrics => WsServer.connectionCountLocks

/-- `Dispatch`: the middlewares and the handler run in the scope. -/
def HttpRouter.dispatchLocks : Locking :=
  locked .router (block [loop authMiddlewareLocks,
    perhaps (choose (R := Option HandlerRun) fun
      | none => skip
      | some handler => handler.locks V)])

/-! ## The application -/

/-- A round of `PollLoop`: the callbacks are called outside the scope. -/
def HeartbeatMonitor.pollLocks : Locking :=
  block [Mutex.heartbeatMonitor.scope, loop WsServer.broadcastLocks]

namespace Application

/-- `Initialize`. -/
def initializeLocks : Locking :=
  block [Mutex.authService.scope, MqttClient.setMessageCallbackLocks,
    Mutex.heartbeatMonitor.scope, loop Mutex.router.scope, Mutex.deviceManager.scope,
    Mutex.deviceManager.scope]

/-- `Start`. -/
def startLocks : Locking :=
  block [MqttClient.connectLocks, perhaps DeviceManager.subscribeAll.locks]

end Application

/-- What the threads of the program run: the main thread, those of the two servers, those of the
broker's library and the one of the monitor. -/
inductive EntryPoint where
  | setUp
  | start
  | stop
  | request
  | completion (id : ConnectionId) (result : Completion)
  | messageArrived (now : Timestamp) (topic payload : StdString)
  | connected
  | connectResult
  | poll

/-- What an entry point does with the mutexes. -/
def EntryPoint.locks : EntryPoint → Locking
  | setUp => Application.initializeLocks
  | start => Application.startLocks
  | stop => WsServer.stopLocks
  | request => HttpRouter.dispatchLocks V
  | completion id result => WsSession.onCompletionLocks V id result
  | messageArrived now topic payload => MqttClient.onMessageArrivedLocks V now topic payload
  | connected => MqttClient.onConnectedLocks
  | connectResult => MqttClient.onConnectResultLocks
  | poll => HeartbeatMonitor.pollLocks

/-! ## The order -/

/-- Only the outermost mutexes are held, or none. -/
def Outermost (held : List Mutex) : Prop := ∀ m ∈ held, m.rank = 0

private theorem outermost_nil : Outermost [] := fun _ h => absurd h List.not_mem_nil

private theorem outermost_singleton {m : Mutex} (hm : m.rank = 0) : Outermost [m] := fun m' h => by
  rw [List.mem_singleton.mp h, hm]

section Order

variable {V : Vendor} {held : List Mutex}

@[simp]
theorem orderedAbove_scope {m : Mutex} : OrderedAbove held m.scope ↔ m.Above held := by
  simp [Mutex.scope, Mutex.Above]

/-- Every mutex but the outermost ones may be taken. -/
theorem Outermost.above (h : Outermost held) (m : Mutex) (hm : 0 < m.rank) : m.Above held :=
  fun m' hmem => Mutex.lt_iff.mpr ((h m' hmem).symm ▸ hm)

private theorem Outermost.applyLocks (h : Outermost held) (op : WsOperation) :
    OrderedAbove held (WsServer.applyLocks op) := by
  have hsessions := h.above .sessions (by decide)
  have hsend (id : ConnectionId) :
      OrderedAbove (.sessions :: held) (WsSession.sendLocks id) := by
    rw [WsSession.sendLocks, orderedAbove_scope]
    intro m hmem
    rcases List.mem_cons.mp hmem with rfl | hmem
    · exact Nat.lt_succ_self 1
    · exact (hsessions m hmem).trans (Nat.lt_succ_self 1)
  cases op with
  | send id message => exact ⟨hsessions, orderedAbove_perhaps.mpr (hsend id)⟩
  | broadcast message => exact ⟨hsessions, hsend⟩
  | broadcastToTopic topic message => exact ⟨hsessions, hsend⟩
  | subscribe id topic => exact orderedAbove_scope.mpr hsessions
  | unsubscribe id topic => exact orderedAbove_scope.mpr hsessions

private theorem Outermost.broadcastLocks (h : Outermost held) :
    OrderedAbove held WsServer.broadcastLocks :=
  h.applyLocks (.broadcast [])

private theorem Outermost.portLocks (h : Outermost held) (e : PortCall) :
    OrderedAbove held e.locks := by
  have hrepository := h.above .deviceRepository (by decide)
  have hsubs := h.above .subs (by decide)
  cases e <;> simp [PortCall.locks, hrepository, hsubs]

private theorem Outermost.deviceLocks (h : Outermost held) {α : Type} (p : Ports α) :
    OrderedAbove held p.locks :=
  Program.orderedAbove_locking h.portLocks p

private theorem Outermost.managerLocks (h : Outermost held) (e : ManagerCall) :
    OrderedAbove held (e.locks V) := by
  have hmanager := h.above .deviceManager (by decide)
  have hrules := h.above .ruleRepository (by decide)
  cases e with
  | port e => exact h.portLocks e
  | statusCallback deviceId online =>
    simp [ManagerCall.locks, hmanager, h.applyLocks, h.broadcastLocks]
  | sensorCallback reading =>
    simp [ManagerCall.locks, hmanager, h.applyLocks, RuleEngine.evaluateLocks, hrules,
      h.deviceLocks]

private theorem Outermost.handlerLocks (h : Outermost held) (handler : HandlerRun) :
    OrderedAbove held (handler.locks V) := by
  have hauth := h.above .authService (by decide)
  have hsensors := h.above .sensorRepository (by decide)
  have hrules := h.above .ruleRepository (by decide)
  have hsessions := h.above .sessions (by decide)
  cases handler <;>
    simp [HandlerRun.locks, WsServer.connectionCountLocks, h.deviceLocks, hauth, hsensors, hrules,
      hsessions]

/-- What a session does runs outside all scopes. -/
theorem orderedAbove_onCompletionLocks (id : ConnectionId) (completion : Completion) :
    OrderedAbove [] (WsSession.onCompletionLocks V id completion) := by
  rcases completion with (_ | _) | (_ | _ | payload | _) | _ | ⟨message, succeeded⟩
  case read.text =>
    show OrderedAbove [] (block _)
    rw [orderedAbove_block]
    intro c hc
    obtain ⟨op, -, rfl⟩ := List.mem_map.mp hc
    exact outermost_nil.applyLocks op
  all_goals
    simp [WsSession.onCompletionLocks, WsServer.onSessionConnectedLocks,
      WsServer.onSessionDisconnectedLocks, WsServer.connectionCountLocks, WsSession.doWriteLocks,
      WsSession.onWriteLocks]

private theorem orderedAbove_dispatchLocks : OrderedAbove [] (HttpRouter.dispatchLocks V) := by
  have hrouter := outermost_singleton (m := .router) rfl
  have hauth := hrouter.above .authService (by decide)
  have hhandler (handler : Option HandlerRun) : OrderedAbove [.router] (match handler with
      | none => skip
      | some handler => handler.locks V) := by
    cases handler with
    | none => trivial
    | some handler => exact hrouter.handlerLocks handler
  simpa [HttpRouter.dispatchLocks, authMiddlewareLocks, hauth] using hhandler

/-- Every function takes its mutexes in order. -/
theorem EntryPoint.orderedAbove_locks (e : EntryPoint) : OrderedAbove [] (e.locks V) := by
  cases e with
  | setUp =>
    simp [EntryPoint.locks, Application.initializeLocks, MqttClient.setMessageCallbackLocks]
  | start =>
    simp [EntryPoint.locks, Application.startLocks, MqttClient.connectLocks,
      outermost_nil.deviceLocks]
  | stop => simp [EntryPoint.locks, WsServer.stopLocks]
  | request => exact orderedAbove_dispatchLocks
  | completion id result => exact orderedAbove_onCompletionLocks id result
  | messageArrived now topic payload =>
    have hcallback := outermost_singleton (m := .callback) rfl
    exact ⟨Mutex.above_nil _, Program.orderedAbove_locking hcallback.managerLocks _⟩
  | connected => simp [EntryPoint.locks, MqttClient.onConnectedLocks]
  | connectResult => simp [EntryPoint.locks, MqttClient.onConnectResultLocks]
  | poll => simp [EntryPoint.locks, HeartbeatMonitor.pollLocks, outermost_nil.broadcastLocks]

end Order

/-! ## The threads -/

instance : Nonempty EntryPoint := ⟨.poll⟩

/-- A thread that runs entry points, one after the other. -/
def worker : LockThread Mutex := [.run (loop (choose (EntryPoint.locks V)))]

/-- Whatever the threads of the program run, in whatever order and with whatever exceptions: no
mutex is held by two threads or twice by one, no thread waits for a mutex that it holds, no threads
wait for each other, and until all have finished one of them can go on. -/
theorem locks_of_reachable {V : Vendor} {ι : Type} [Finite ι] [DecidableEq ι]
    {s : LockThreads ι Mutex}
    (hreach : Relation.ReflTransGen LockThreads.Step (fun _ : ι => worker V) s) :
    (∀ i j m, m ∈ (s i).held → m ∈ (s j).held → i = j) ∧ (∀ i, (s i).held.Nodup) ∧
    (∀ i m, (s i).wants = some m → m ∉ (s i).held) ∧
    (∀ threads : Set ι, ¬ LockThreads.Deadlocked s threads) ∧
    ((∃ i, s i ≠ []) → ∃ s', LockThreads.Step s s') := by
  have hworker : (worker V).Ordered := ⟨EntryPoint.orderedAbove_locks, trivial⟩
  have hinv := LockThreads.inv_of_reachable (fun _ => hworker) (fun _ => rfl) hreach
  refine ⟨hinv.exclusive, fun i => (hinv.ordered i).nodup_held, fun i m hwants hheld => ?_,
    hinv.not_deadlocked, hinv.exists_step⟩
  exact lt_irrefl m ((hinv.ordered i).lt_of_wants hwants m hheld)

/-- Two threads. -/
def twoThreads (t t' : LockThread Mutex) : LockThreads Bool Mutex := fun i => cond i t t'

private theorem twoThreads_step {t t' u u' : LockThread Mutex}
    (h : (LockThread.Step (LockThreads.Free (twoThreads t t')) t u ∧ u' = t') ∨
      (LockThread.Step (LockThreads.Free (twoThreads t t')) t' u' ∧ u = t)) :
    LockThreads.Step (twoThreads t t') (twoThreads u u') := by
  rcases h with ⟨hstep, rfl⟩ | ⟨hstep, rfl⟩
  · have hupdate : Function.update (twoThreads t u') true u = twoThreads u u' := by
      funext i
      cases i <;> rfl
    exact hupdate ▸ LockThreads.Step.turn true hstep
  · have hupdate : Function.update (twoThreads u t') false u' = twoThreads u u' := by
      funext i
      cases i <;> rfl
    exact hupdate ▸ LockThreads.Step.turn false hstep

/-- One of two threads handles a request and the other one is about to. -/
theorem locks_of_reachable_requests : ∃ s : LockThreads Bool Mutex,
    (s true).held = [.router] ∧ (s false).wants = some .router ∧
      ∀ threads : Set Bool, ¬ LockThreads.Deadlocked s threads := by
  let idle := worker Vendor.reference
  let called : LockThread Mutex := .run (HttpRouter.dispatchLocks Vendor.reference) :: idle
  have hcalled {free : Mutex → Prop} : Relation.ReflTransGen (LockThread.Step free) idle called :=
    .head (.again _ _) (.single (.choose _ EntryPoint.request _))
  have hfirst : Relation.ReflTransGen LockThreads.Step (twoThreads idle idle)
      (twoThreads called idle) :=
    .head (twoThreads_step (.inl ⟨.again _ _, rfl⟩))
      (.single (twoThreads_step (.inl ⟨.choose _ EntryPoint.request _, rfl⟩)))
  have hsecond := (hfirst.tail (twoThreads_step (.inr ⟨.again _ _, rfl⟩))).tail
    (twoThreads_step (.inr ⟨.choose _ EntryPoint.request _, rfl⟩))
  have hfree : LockThreads.Free (twoThreads called called) .router := by
    intro i
    cases i <;> exact List.not_mem_nil
  have hreach := hsecond.tail (twoThreads_step (.inl ⟨.locked _ _ hfree, rfl⟩))
  exact ⟨_, rfl, rfl, (locks_of_reachable (V := Vendor.reference) (by
    convert hreach using 1
    funext i
    cases i <;> rfl)).2.2.2.1⟩

end IotDashboard
