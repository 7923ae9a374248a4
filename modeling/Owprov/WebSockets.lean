import Owprov.Handler
import Owprov.Lib.Histories
import Owprov.Lib.Runs
import Owprov.ServiceRegistry

/-!
# The web sockets of the user interface

The reports of the jobs go to the users by web socket.  A connection is opened without a token; its
first text must name one that the security service accepts, and later texts are commands.  The
reactor, the threads of the jobs and the cleaner take turns under one mutex.
-/

namespace Owprov

open Histories Runs

/-! ## The server -/

/-- `UI_WebSocketClientInfo`. -/
structure UIWebSocketClientInfo where
  id : String
  userName : String
  authenticated : Bool := false
  socketRegistered : Bool := false
  filter : List UInt64 := []

/-- `Clients_`, by socket in ascending order, and `ToBeRemoved_`. -/
structure UIWebSocketClientServer where
  clients : List (ℕ × UIWebSocketClientInfo) := []
  toBeRemoved : List ℕ := []

/-- What happens to the connections. -/
inductive SocketEvent where
  | opened (socket : ℕ)
  /-- A token is accepted for the user with an e-mail address. -/
  | accepted (socket : ℕ) (token email : String)
  /-- A client asks for notifications to be dropped. -/
  | asked (socket : ℕ) (filters : List Json)
  /-- A notification goes out, to one user or to all. -/
  | sent (socket : ℕ) (typeId : UInt64) (user : Option String)

/-- What `receiveFrame` gives. -/
inductive Frame where
  | failed
  | empty
  | ping
  | pong
  | close
  | text (incoming : String)
  | other

/-- The parser for objects, the conversion of numbers, and `Processor`, whose result is an answer
and whether to close; each may throw. -/
structure SocketEnv where
  parse : String → Option JsonObject
  toUInt64 : Json → Option UInt64
  processor : JsonObject → Option (String × Bool)

/-- The numbers up to one that does not convert, and whether all did. -/
def convertFilters (toUInt64 : Json → Option UInt64) : List Json → List UInt64 × Bool
  | [] => ([], true)
  | filter :: filters =>
      match toUInt64 filter with
      | none => ([], false)
      | some id =>
          let (ids, whole) := convertFilters toUInt64 filters
          (id :: ids, whole)

namespace UIWebSocketClientServer

/-- `Clients_[socket] = client`. -/
def place (socket : ℕ) (client : UIWebSocketClientInfo) :
    List (ℕ × UIWebSocketClientInfo) → List (ℕ × UIWebSocketClientInfo)
  | [] => [(socket, client)]
  | (other, old) :: rest =>
      if socket = other then (socket, client) :: rest
      else if socket < other then (socket, client) :: (other, old) :: rest
      else (other, old) :: place socket client rest

def modify (s : UIWebSocketClientServer) (socket : ℕ)
    (change : UIWebSocketClientInfo → UIWebSocketClientInfo) : UIWebSocketClientServer :=
  { s with
    clients := s.clients.map fun entry =>
      if entry.1 = socket then (entry.1, change entry.2) else entry }

/-- `NewClient`. -/
def newClient (s : UIWebSocketClientServer) (socket : ℕ) (id userName : String) :
    UIWebSocketClientServer :=
  { s with clients := place socket { id, userName, socketRegistered := true } s.clients }

/-- `EndConnection`. -/
def endConnection (s : UIWebSocketClientServer) (socket : ℕ) : UIWebSocketClientServer :=
  let unregistered := s.modify socket fun client => { client with socketRegistered := false }
  { unregistered with toBeRemoved := unregistered.toBeRemoved ++ [socket] }

def endIf (s : UIWebSocketClientServer) (socket : ℕ) (ends : Bool) : UIWebSocketClientServer :=
  if ends then s.endConnection socket else s

/-- The first text of a connection, which names a token. -/
def authenticate (s : UIWebSocketClientServer) (isAuthorized : String → Option String)
    (went : Bool) (socket : ℕ) (text : String) : UIWebSocketClientServer × List SocketEvent :=
  match split text ':' with
  | [_, token] =>
      match isAuthorized token with
      | some email =>
          ((s.modify socket fun client =>
              { client with authenticated := true, userName := email }).endIf socket !went,
            [.accepted socket token email])
      | none => (s.endConnection socket, [])
  | _ => (s.endConnection socket, [])

/-- A later text. -/
def command (s : UIWebSocketClientServer) (env : SocketEnv) (went : Bool) (socket : ℕ)
    (text : String) : UIWebSocketClientServer × List SocketEvent :=
  match env.parse text with
  | none => (s.endConnection socket, [])
  | some object =>
      match object.getArray? "drop-notifications" with
      | some filters =>
          let (ids, whole) := convertFilters env.toUInt64 filters
          ((s.modify socket fun client =>
              { client with filter := if whole then ids.mergeSort (· ≤ ·) else ids }).endIf socket
              !whole,
            [.asked socket filters])
      | none =>
          match env.processor object with
          | none => (s.endConnection socket, [])
          -- the answer, or `{}` for none, is sent before the connection is closed
          | some (_, closeConnection) => (s.endIf socket (!went || closeConnection), [])

/-- `OnSocketReadable`.  `went` tells whether what is sent back goes out; otherwise it throws. -/
def onSocketReadable (s : UIWebSocketClientServer) (env : SocketEnv)
    (isAuthorized : String → Option String) (went : Bool) (socket : ℕ) (frame : Frame) :
    UIWebSocketClientServer × List SocketEvent :=
  match s.clients.lookup socket with
  | none => (s, [])
  | some client =>
      match frame with
      | .failed | .empty | .close => (s.endConnection socket, [])
      | .ping => (s.endIf socket !went, [])
      | .pong | .other => (s, [])
      | .text incoming =>
          -- the buffer is read as far as a NUL
          let text := String.ofList (incoming.toList.takeWhile (· ≠ '\x00'))
          if client.authenticated then s.command env went socket text
          else s.authenticate isAuthorized went socket text

/-- `OnSocketError` and `OnSocketShutdown`. -/
def onSocketError (s : UIWebSocketClientServer) (socket : ℕ) : UIWebSocketClientServer :=
  s.endIf socket (s.clients.lookup socket).isSome

/-- `IsFiltered`. -/
def isFiltered (id : UInt64) (client : UIWebSocketClientInfo) : Bool :=
  client.filter.contains id

/-- `SendToUser`, which tries the first connection of the user. -/
def sendToUser (s : UIWebSocketClientServer) (went : ℕ → Bool) (userName : String) (id : UInt64) :
    Bool × List SocketEvent :=
  match s.clients.find? fun entry => entry.2.userName == userName with
  | none => (false, [])
  | some (socket, client) =>
      if !isFiltered id client && client.authenticated && went socket then
        (true, [.sent socket id (some userName)])
      else
        (false, [])

/-- `SendToAll`. -/
def sendToAll (s : UIWebSocketClientServer) (went : ℕ → Bool) (id : UInt64) : List SocketEvent :=
  (s.clients.filter fun entry =>
    !isFiltered id entry.2 && entry.2.authenticated && went entry.1).reverse.map fun entry =>
      .sent entry.1 id none

/-- One turn of `run`, the cleaner. -/
def clean (s : UIWebSocketClientServer) : UIWebSocketClientServer where
  clients := s.clients.filter fun entry => entry.1 ∉ s.toBeRemoved
  toBeRemoved := []

/-- `Stop`. -/
def stop (s : UIWebSocketClientServer) : UIWebSocketClientServer :=
  { s with clients := [] }

end UIWebSocketClientServer

/-- The server and what happened so far, the newest first. -/
structure SocketRun where
  server : UIWebSocketClientServer := {}
  history : List SocketEvent := []

/-- One turn under the mutex.  A new socket is none of those that the server still holds, and the
reactor calls for registered sockets only. -/
inductive SocketStep (env : SocketEnv) : SocketRun → SocketRun → Prop where
  | newClient {r : SocketRun} {socket : ℕ} (id userName : String)
      (fresh : ∀ entry ∈ r.server.clients, entry.1 ≠ socket) :
      SocketStep env r
        { server := r.server.newClient socket id userName
          history := .opened socket :: r.history }
  | readable {r : SocketRun} {socket : ℕ} {client : UIWebSocketClientInfo}
      (isAuthorized : String → Option String) (went : Bool) (frame : Frame)
      (found : r.server.clients.lookup socket = some client)
      (registered : client.socketRegistered) :
      SocketStep env r
        { server := (r.server.onSocketReadable env isAuthorized went socket frame).1
          history :=
            (r.server.onSocketReadable env isAuthorized went socket frame).2 ++ r.history }
  | error {r : SocketRun} (socket : ℕ) :
      SocketStep env r { r with server := r.server.onSocketError socket }
  | sendToUser {r : SocketRun} (went : ℕ → Bool) (userName : String) (id : UInt64) :
      SocketStep env r
        { r with history := (r.server.sendToUser went userName id).2 ++ r.history }
  | sendToAll {r : SocketRun} (went : ℕ → Bool) (id : UInt64) :
      SocketStep env r { r with history := r.server.sendToAll went id ++ r.history }
  | clean {r : SocketRun} : SocketStep env r { r with server := r.server.clean }
  | stop {r : SocketRun} : SocketStep env r { r with server := r.server.stop }

/-! ## What a connection may get -/

/-- A token of a user was accepted on the connection that a socket has now. -/
def AcceptedFor (socket : ℕ) (email : String) : List SocketEvent → Prop :=
  Since (fun event => event = .opened socket) fun event =>
    ∃ token, event = .accepted socket token email

/-- The last demand of the connection is to drop notifications of a type, among others. -/
def Declined (env : SocketEnv) (socket : ℕ) (typeId : UInt64) : List SocketEvent → Prop :=
  Since (fun event => event = .opened socket ∨ ∃ filters, event = .asked socket filters)
    fun event => ∃ filters, event = .asked socket filters ∧
      typeId ∈ (convertFilters env.toUInt64 filters).1

def SocketEvent.IsSent (event : SocketEvent) : Prop :=
  ∃ socket typeId user, event = .sent socket typeId user

/-- A notification is due to a connection. -/
def Due (env : SocketEnv) (event : SocketEvent) (history : List SocketEvent) : Prop :=
  ∀ socket typeId user, event = .sent socket typeId user →
    (∃ email, AcceptedFor socket email history ∧ ∀ name, user = some name → name = email) ∧
      ¬ Declined env socket typeId history

/-- What the server knows of a connection is what happened to it. -/
structure ClientSound (env : SocketEnv) (history : List SocketEvent)
    (entry : ℕ × UIWebSocketClientInfo) : Prop where
  accepted : entry.2.authenticated = true → AcceptedFor entry.1 entry.2.userName history
  filter : ∀ typeId, Declined env entry.1 typeId history ↔ typeId ∈ entry.2.filter

structure SocketsSound (env : SocketEnv) (r : SocketRun) : Prop where
  clients : ∀ entry ∈ r.server.clients, ClientSound env r.history entry
  due : Always SocketEvent.IsSent (Due env) r.history

/-- An event that changes nothing for a socket. -/
def SocketEvent.SilentFor (socket : ℕ) : SocketEvent → Prop
  | .opened other => other ≠ socket
  | .accepted other _ _ => other ≠ socket
  | .asked other _ => other ≠ socket
  | .sent _ _ _ => True

section Silence

variable {env : SocketEnv} {events history : List SocketEvent} {socket : ℕ}

theorem acceptedFor_append (silent : ∀ event ∈ events, event.SilentFor socket) (email : String) :
    AcceptedFor socket email (events ++ history) ↔ AcceptedFor socket email history := by
  refine since_append_of_silent fun event member => ?_
  have quiet := silent event member
  refine ⟨?_, ?_⟩
  · rintro rfl
    exact quiet rfl
  · rintro ⟨token, rfl⟩
    exact quiet rfl

theorem declined_append (silent : ∀ event ∈ events, event.SilentFor socket) (typeId : UInt64) :
    Declined env socket typeId (events ++ history) ↔ Declined env socket typeId history := by
  refine since_append_of_silent fun event member => ?_
  have quiet := silent event member
  refine ⟨?_, ?_⟩
  · rintro (rfl | ⟨filters, rfl⟩)
    · exact quiet rfl
    · exact quiet rfl
  · rintro ⟨filters, rfl, -⟩
    exact quiet rfl

theorem ClientSound.append {entry : ℕ × UIWebSocketClientInfo}
    (sound : ClientSound env history entry)
    (silent : ∀ event ∈ events, event.SilentFor entry.1) :
    ClientSound env (events ++ history) entry where
  accepted authenticated :=
    (acceptedFor_append silent _).mpr (sound.accepted authenticated)
  filter typeId := (declined_append silent typeId).trans (sound.filter typeId)

theorem due_append {event : SocketEvent} (due : Due env event history)
    (sent : ∀ event ∈ events, event.IsSent) : Due env event (events ++ history) := by
  have silent : ∀ socket, ∀ event ∈ events, event.SilentFor socket := by
    intro socket event member
    obtain ⟨_, _, _, rfl⟩ := sent event member
    exact trivial
  intro socket typeId user isSent
  obtain ⟨⟨email, accepted, named⟩, wanted⟩ := due socket typeId user isSent
  exact ⟨⟨email, (acceptedFor_append (silent socket) email).mpr accepted, named⟩,
    (declined_append (silent socket) typeId).not.mpr wanted⟩

end Silence

/-! ## The turns -/

section Turns

variable {env : SocketEnv} {history : List SocketEvent} {s : UIWebSocketClientServer} {socket : ℕ}

namespace UIWebSocketClientServer

theorem mem_place {client : UIWebSocketClientInfo} {clients : List (ℕ × UIWebSocketClientInfo)}
    {entry : ℕ × UIWebSocketClientInfo} (member : entry ∈ place socket client clients) :
    entry = (socket, client) ∨ entry ∈ clients := by
  induction clients with
  | nil => exact .inl (List.mem_singleton.mp member)
  | cons first clients ih =>
      unfold place at member
      split_ifs at member
      · exact (List.mem_cons.mp member).imp_right (List.mem_cons_of_mem first)
      · exact List.mem_cons.mp member
      · rcases List.mem_cons.mp member with rfl | rest
        · exact .inr List.mem_cons_self
        · exact (ih rest).imp_right (List.mem_cons_of_mem first)

/-- A change of the client of a socket, with the events that go with it. -/
theorem modify_sound {change : UIWebSocketClientInfo → UIWebSocketClientInfo}
    {events : List SocketEvent} (sound : ∀ entry ∈ s.clients, ClientSound env history entry)
    (elsewhere : ∀ other, other ≠ socket → ∀ event ∈ events, event.SilentFor other)
    (here : ∀ client, ClientSound env history (socket, client) →
      ClientSound env (events ++ history) (socket, change client)) :
    ∀ entry ∈ (s.modify socket change).clients, ClientSound env (events ++ history) entry := by
  intro entry member
  obtain ⟨old, isOld, rfl⟩ := List.mem_map.mp member
  obtain ⟨other, client⟩ := old
  by_cases same : other = socket
  · subst same
    simpa using here client (sound _ isOld)
  · simpa [same] using (sound _ isOld).append (elsewhere other same)

theorem endConnection_sound (sound : ∀ entry ∈ s.clients, ClientSound env history entry) :
    ∀ entry ∈ (s.endConnection socket).clients, ClientSound env history entry := by
  change ∀ entry ∈ (s.modify socket fun client =>
    { client with socketRegistered := false }).clients, ClientSound env ([] ++ history) entry
  exact modify_sound sound (fun _ _ => List.forall_mem_nil _) fun _ before =>
    ⟨before.accepted, before.filter⟩

theorem endIf_sound {ends : Bool} (sound : ∀ entry ∈ s.clients, ClientSound env history entry) :
    ∀ entry ∈ (s.endIf socket ends).clients, ClientSound env history entry := by
  unfold endIf
  split
  · exact endConnection_sound sound
  · exact sound

theorem authenticate_sound (sound : ∀ entry ∈ s.clients, ClientSound env history entry)
    (isAuthorized : String → Option String) (went : Bool) (text : String) :
    ∀ entry ∈ (s.authenticate isAuthorized went socket text).1.clients,
      ClientSound env ((s.authenticate isAuthorized went socket text).2 ++ history) entry := by
  unfold authenticate
  split
  case h_2 => exact endConnection_sound sound
  case h_1 name token _ =>
    cases isAuthorized token with
    | none => exact endConnection_sound sound
    | some email =>
        refine endIf_sound (modify_sound sound ?_ ?_)
        · intro other differs event member
          rw [List.mem_singleton.mp member]
          exact Ne.symm differs
        · intro client before
          refine ⟨fun _ => Since.here ⟨token, rfl⟩, fun typeId => ?_⟩
          rw [← before.filter typeId]
          exact since_append_of_silent (by simp)

theorem command_sound (sound : ∀ entry ∈ s.clients, ClientSound env history entry)
    (went : Bool) (text : String) :
    ∀ entry ∈ (s.command env went socket text).1.clients,
      ClientSound env ((s.command env went socket text).2 ++ history) entry := by
  unfold command
  cases env.parse text with
  | none => exact endConnection_sound sound
  | some object =>
      dsimp only
      split
      case h_1 filters _ =>
        refine endIf_sound (modify_sound sound ?_ ?_)
        · intro other differs event member
          rw [List.mem_singleton.mp member]
          exact Ne.symm differs
        · intro client before
          refine ⟨fun authenticated => (before.accepted authenticated).later (by simp), ?_⟩
          intro typeId
          rw [List.singleton_append, Declined, since_cons]
          dsimp only
          split <;> simp
      case h_2 =>
        cases env.processor object with
        | none => exact endConnection_sound sound
        | some result => exact endIf_sound sound

theorem onSocketReadable_sound (sound : ∀ entry ∈ s.clients, ClientSound env history entry)
    (isAuthorized : String → Option String) (went : Bool) (frame : Frame) :
    ∀ entry ∈ (s.onSocketReadable env isAuthorized went socket frame).1.clients,
      ClientSound env ((s.onSocketReadable env isAuthorized went socket frame).2 ++ history)
        entry := by
  unfold onSocketReadable
  cases s.clients.lookup socket with
  | none => exact sound
  | some client =>
      cases frame with
      | failed => exact endConnection_sound sound
      | empty => exact endConnection_sound sound
      | close => exact endConnection_sound sound
      | ping => exact endIf_sound sound
      | pong => exact sound
      | other => exact sound
      | text incoming =>
          dsimp only
          split
          · exact command_sound sound went _
          · exact authenticate_sound sound isAuthorized went _

theorem authenticate_events (isAuthorized : String → Option String) (went : Bool)
    (text : String) :
    ∀ event ∈ (s.authenticate isAuthorized went socket text).2, ¬ event.IsSent := by
  unfold authenticate
  split
  case h_2 => exact List.forall_mem_nil _
  case h_1 name token _ =>
    cases isAuthorized token with
    | none => exact List.forall_mem_nil _
    | some email => simp [SocketEvent.IsSent]

theorem command_events (went : Bool) (text : String) :
    ∀ event ∈ (s.command env went socket text).2, ¬ event.IsSent := by
  unfold command
  cases env.parse text with
  | none => exact List.forall_mem_nil _
  | some object =>
      dsimp only
      split
      case h_1 filters _ => simp [SocketEvent.IsSent]
      case h_2 => cases env.processor object <;> exact List.forall_mem_nil _

/-- What is read sends no notification. -/
theorem onSocketReadable_events (isAuthorized : String → Option String) (went : Bool)
    (frame : Frame) :
    ∀ event ∈ (s.onSocketReadable env isAuthorized went socket frame).2, ¬ event.IsSent := by
  unfold onSocketReadable
  cases s.clients.lookup socket with
  | none => exact List.forall_mem_nil _
  | some client =>
      cases frame with
      | text incoming =>
          dsimp only
          split
          · exact command_events went _
          · exact authenticate_events isAuthorized went _
      | _ => exact List.forall_mem_nil _

/-- A notification is due to a connection that the server finds. -/
theorem due_of_sound {entry : ℕ × UIWebSocketClientInfo} {typeId : UInt64} {user : Option String}
    (sound : ClientSound env history entry) (authenticated : entry.2.authenticated = true)
    (wanted : isFiltered typeId entry.2 = false)
    (named : ∀ name, user = some name → name = entry.2.userName) :
    Due env (.sent entry.1 typeId user) history := by
  rintro socket id name ⟨⟩
  refine ⟨⟨entry.2.userName, sound.accepted authenticated, named⟩, ?_⟩
  rw [sound.filter]
  simpa [isFiltered] using wanted

theorem sendToUser_due (sound : ∀ entry ∈ s.clients, ClientSound env history entry)
    (went : ℕ → Bool) (userName : String) (id : UInt64) :
    ∀ event ∈ (s.sendToUser went userName id).2, event.IsSent ∧ Due env event history := by
  unfold sendToUser
  cases found : s.clients.find? fun entry => entry.2.userName == userName with
  | none => exact List.forall_mem_nil _
  | some entry =>
      obtain ⟨socket, client⟩ := entry
      have isUser : client.userName = userName := by simpa using List.find?_some found
      dsimp only
      split
      case isFalse => exact List.forall_mem_nil _
      case isTrue goes =>
        simp only [Bool.and_eq_true, Bool.not_eq_eq_eq_not, Bool.not_true] at goes
        refine List.forall_mem_singleton.mpr ⟨⟨_, _, _, rfl⟩, ?_⟩
        refine due_of_sound (sound _ (List.mem_of_find?_eq_some found)) goes.1.2 goes.1.1 ?_
        rintro name ⟨⟩
        exact isUser.symm

theorem sendToAll_due (sound : ∀ entry ∈ s.clients, ClientSound env history entry)
    (went : ℕ → Bool) (id : UInt64) :
    ∀ event ∈ s.sendToAll went id, event.IsSent ∧ Due env event history := by
  intro event member
  obtain ⟨entry, isEntry, rfl⟩ := List.mem_map.mp member
  obtain ⟨isClient, goes⟩ := List.mem_filter.mp (List.mem_reverse.mp isEntry)
  simp only [Bool.and_eq_true, Bool.not_eq_eq_eq_not, Bool.not_true] at goes
  exact ⟨⟨_, _, _, rfl⟩, due_of_sound (sound _ isClient) goes.1.2 goes.1.1 (by simp)⟩

end UIWebSocketClientServer

open UIWebSocketClientServer

/-- Notifications that are due go out at once. -/
theorem SocketsSound.sends {r : SocketRun} {events : List SocketEvent} (sound : SocketsSound env r)
    (each : ∀ event ∈ events, event.IsSent ∧ Due env event r.history) :
    SocketsSound env { r with history := events ++ r.history } where
  clients entry member := (sound.clients entry member).append fun event made => by
    obtain ⟨_, _, _, rfl⟩ := (each event made).1
    exact trivial
  due := by
    refine sound.due.append fun newer event older same _ => ?_
    have made : ∀ other ∈ newer ++ event :: older, other.IsSent ∧ Due env other r.history := by
      rw [← same]
      exact each
    refine due_append (made event (by simp)).2 fun other member => (made other ?_).1
    simp [member]

theorem SocketsSound.step {r r' : SocketRun} (sound : SocketsSound env r)
    (isStep : SocketStep env r r') : SocketsSound env r' := by
  cases isStep with
  | @newClient socket id userName fresh =>
      constructor
      case clients =>
        intro entry member
        rcases mem_place member with rfl | old
        · refine ⟨fun authenticated => absurd authenticated Bool.false_ne_true, fun typeId => ?_⟩
          simp [Declined, since_cons]
        · change ClientSound env ([.opened socket] ++ r.history) entry
          refine (sound.clients entry old).append ?_
          exact List.forall_mem_singleton.mpr (Ne.symm (fresh entry old))
      case due => exact ⟨fun isSent => by simp [SocketEvent.IsSent] at isSent, sound.due⟩
  | readable isAuthorized went frame found registered =>
      constructor
      case clients => exact onSocketReadable_sound sound.clients isAuthorized went frame
      case due =>
        refine sound.due.append fun newer event older same isSent => ?_
        have member : event ∈ newer ++ event :: older := by simp
        exact absurd isSent (onSocketReadable_events isAuthorized went frame event (same ▸ member))
  | error socket => exact ⟨endIf_sound sound.clients, sound.due⟩
  | sendToUser went userName id => exact sound.sends (sendToUser_due sound.clients went userName id)
  | sendToAll went id => exact sound.sends (sendToAll_due sound.clients went id)
  | clean =>
      exact ⟨fun entry member => sound.clients entry (List.mem_of_mem_filter member), sound.due⟩
  | stop => exact ⟨List.forall_mem_nil _, sound.due⟩

end Turns

/-- In every run of the server a notification goes out on a connection only when a token was
accepted on it, of the user that the notification is for if it is for one, and when the last
demand of the connection, if any, did not decline its type. -/
theorem delivered_of_run {env : SocketEnv} {r : SocketRun}
    (reached : Reachable (fun r => r = {}) (SocketStep env) r)
    {newer older : List SocketEvent} {socket : ℕ} {typeId : UInt64} {user : Option String}
    (sent : r.history = newer ++ .sent socket typeId user :: older) :
    (∃ email, AcceptedFor socket email older ∧ ∀ name, user = some name → name = email) ∧
      ¬ Declined env socket typeId older := by
  have sound : SocketsSound env r := by
    refine reached.invariant ?_ fun _ _ => SocketsSound.step
    rintro s rfl
    exact ⟨List.forall_mem_nil _, trivial⟩
  exact sound.due.condition_of_eq sent ⟨socket, typeId, user, rfl⟩ socket typeId user rfl

def plainSocketEnv : SocketEnv where
  parse _ := none
  toUInt64 _ := none
  processor _ := none

def greetedClient : UIWebSocketClientInfo where
  id := "c-1"
  userName := "u@x"
  authenticated := true
  socketRegistered := true

/-- A user has opened a connection and named a token. -/
def greeted : SocketRun where
  server := { clients := [(5, greetedClient)] }
  history := [.accepted 5 "T" "u@x", .opened 5]

theorem greeted_reached : Reachable (fun r => r = {}) (SocketStep plainSocketEnv) greeted := by
  have opened : Reachable (fun r => r = {}) (SocketStep plainSocketEnv)
      { server := UIWebSocketClientServer.newClient {} 5 "c-1" "", history := [.opened 5] } :=
    .step (.start rfl) (.newClient "c-1" "" (List.forall_mem_nil _))
  exact opened.step (@SocketStep.readable plainSocketEnv _ 5
    { id := "c-1", userName := "", socketRegistered := true } (fun _ => some "u@x") true
    (.text "token:T") rfl rfl)

theorem report_after_token : (∃ email, AcceptedFor 5 email greeted.history ∧
    ∀ name, some "u@x" = some name → name = email) ∧
      ¬ Declined plainSocketEnv 5 2000 greeted.history := by
  have sent := greeted_reached.step (.sendToUser (fun _ => true) "u@x" 2000)
  exact delivered_of_run sent (by rfl : _ = [] ++ .sent 5 2000 (some "u@x") :: greeted.history)

end Owprov
