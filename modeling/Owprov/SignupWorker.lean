import Owprov.SerialNumbers
import Owprov.SubscriberHandlers

/-!
# The signup worker and its timer

`Signup` keeps copies of the entries that are outstanding.  A worker looks for their devices and
completes a signup from its copy; a timer gives up entries that are too old, in the database.
-/

namespace Owprov

open RowTable

/-- The periods of the configuration, and the texts of device states. -/
structure SignupEnv where
  gracePeriod : ℕ := 3600
  lingerPeriod : ℕ := 86400
  /-- The state of a device when a signup is completed. -/
  completedState : String := ""
  /-- A state has the method `signup` and the id of an entry. -/
  isSignupState : String → String → Bool := fun _ _ => false

/-! ## The timer -/

/-- The difference of two times, which are numbers of 64 bits. -/
def elapsed (now submitted : ℕ) : ℕ :=
  (now + 2 ^ 64 - submitted) % 2 ^ 64

/-- An entry that is deleted. -/
def SignupEntry.lingers (env : SignupEnv) (now : ℕ) (entry : SignupEntry) : Bool :=
  entry.completed == 0 && decide (env.lingerPeriod < elapsed now entry.submitted)

/-- An entry that is given up. -/
def SignupEntry.isOverdue (env : SignupEnv) (now : ℕ) (entry : SignupEntry) : Bool :=
  entry.completed == 0 && !decide (env.lingerPeriod < elapsed now entry.submitted) &&
    decide (env.gracePeriod < elapsed now entry.submitted)

/-- The device of an entry that is given up goes back. -/
def releaseDevice (env : SignupEnv) (inventoryDB : Table InventoryTag) (entry : SignupEntry) :
    Table InventoryTag :=
  if entry.statusCode = .signupWaitingForDevice then
    match getBy inventoryDB InventoryTag.serialNumber entry.serialNumber with
    | none => inventoryDB
    | some tag =>
        if ["", "any", "subscriber"].contains tag.devClass &&
            env.isSignupState tag.state entry.info.id then
          inventoryDB.update { tag with subscriber := "" }
        else
          inventoryDB
  else
    inventoryDB

def SignupEntry.timedOut (entry : SignupEntry) : SignupEntry :=
  { entry with statusCode := .signupTimedOut, status := "timedOut" }

/-- `RemoveIncompleteSignups`. -/
def removeIncompleteSignups (env : SignupEnv) (now : ℕ) (db : Store) : Store :=
  let toDelete := db.signupDB.rows.filter fun entry => entry.lingers env now
  let timedOut := db.signupDB.rows.filter fun entry => entry.isOverdue env now
  { db with
    inventoryDB := timedOut.foldl (releaseDevice env) db.inventoryDB
    signupDB := timedOut.foldl
      (fun table entry => table.modify entry.info.id SignupEntry.timedOut)
      (toDelete.foldl (fun table entry => table.delete entry.info.id) db.signupDB) }

/-! ## The worker -/

/-- The serial numbers that are tried for a MAC address. -/
def triedSerialNumbers (macAddress : String) : Option (List String) :=
  (stoull16 macAddress).map fun value =>
    (List.range 4).map fun i => intToSerialNumber ((value + i) % 2 ^ 64)

/-- The first of the serial numbers whose device has contacted the service. -/
def findDevice (inventoryDB : Table InventoryTag) (serialNumbers : List String) :
    Option (String × InventoryTag) :=
  serialNumbers.findSome? fun serialNumber =>
    match getBy inventoryDB InventoryTag.serialNumber serialNumber with
    | none => none
    | some tag => if tag.deviceType = "" then none else some (serialNumber, tag)

/-- `DefaultForOperator`. -/
def defaultForOperator (db : Store) (operatorId : String) : String :=
  ((db.serviceClassDB.rows.find? fun service =>
    service.operatorId == operatorId && service.defaultService).map fun service =>
      service.info.id).getD ""

/-- A copy after its signup was completed. -/
def SignupEntry.completedWith (entry : SignupEntry) (now : ℕ) (serialNumber : String) :
    SignupEntry :=
  { entry with
    status := "signup completed"
    serialNumber := serialNumber
    statusCode := .signupSuccess
    completed := now
    error := 0 }

/-- The device of a subscriber whose signup is completed. -/
def signupDevice (env : SignupEnv) (db : Store) (entry : SignupEntry) (serialNumber newId : String)
    (tag : InventoryTag) : SubscriberDevice where
  info := { id := newId, name := entry.macAddress }
  operatorId := entry.operatorId
  serialNumber := serialNumber
  realMacAddress := entry.macAddress
  locale := tag.locale
  deviceType := tag.deviceType
  state := env.completedState
  subscriberId := entry.userId
  serviceClass := defaultForOperator db entry.operatorId

/-- What the worker writes when it has found the device of an entry. -/
def completeSignup (env : SignupEnv) (now : ℕ) (db : Store) (entry : SignupEntry)
    (serialNumber newId : String) (tag : InventoryTag) : Store :=
  let cleared := db.subscriberDeviceDB.deleteWhere fun device => device.serialNumber == serialNumber
  { db with
    inventoryDB := db.inventoryDB.update
      { tag with
        subscriber := entry.userId
        realMacAddress := entry.macAddress
        state := env.completedState }
    subscriberDeviceDB :=
      (cleared.insert? (signupDevice env db entry serialNumber newId tag)).getD cleared
    signupDB := db.signupDB.update (entry.completedWith now serialNumber) }

/-- The database after the loop of the worker, the copies that it completed, and whether it came
to its end: a MAC address that is no number ends the thread with an exception. -/
structure WorkerResult where
  db : Store
  completed : List SignupEntry
  finished : Bool

/-- The loop of `Signup::run` over the copies. -/
def workerLoop (env : SignupEnv) (ctx : Context) : ℕ → List SignupEntry → Store → WorkerResult
  | _, [], db => { db, completed := [], finished := true }
  | created, entry :: rest, db =>
      if entry.statusCode = .signupWaitingForDevice then
        match triedSerialNumbers entry.macAddress with
        | none => { db, completed := [], finished := false }
        | some serialNumbers =>
            match findDevice db.inventoryDB serialNumbers with
            | none => workerLoop env ctx created rest db
            | some (serialNumber, tag) =>
                let result := workerLoop env ctx (created + 1) rest
                  (completeSignup env ctx.env.clock db entry serialNumber (ctx.newId created) tag)
                { result with
                  completed := entry.completedWith ctx.env.clock serialNumber ::
                    result.completed }
      else
        workerLoop env ctx created rest db

/-! ## The service -/

/-- The database, the copies of the outstanding entries, and whether the worker runs. -/
structure SignupServer where
  db : Store
  outstanding : Table SignupEntry
  running : Bool

namespace SignupServer

/-- The copies in the order of their ids. -/
def copies (server : SignupServer) : List SignupEntry :=
  server.outstanding.rows.insertionSort fun a b => a.info.id ≤ b.info.id

/-- `AddOutstandingSignup`. -/
def addOutstandingSignup (outstanding : Table SignupEntry) (entry : SignupEntry) :
    Table SignupEntry :=
  (outstanding.insert? entry).getD (outstanding.update entry)

/-- A subscriber POST, which adds a copy of a new entry. -/
def post (ctx : Context) (server : SignupServer) (request : Request) : SignupServer :=
  { server with
    db := (subscriberDoPost ctx server.db request).store
    outstanding :=
      match subscriberDoPostPlan ctx server.db request with
      | .ok (_, _, .created entry) => addOutstandingSignup server.outstanding entry
      | _ => server.outstanding }

/-- A subscriber PUT, which renews the copy of an entry when its email is verified. -/
def put (server : SignupServer) (request : Request) : SignupServer :=
  { server with
    db := (subscriberDoPut server.db request).store
    outstanding :=
      match subscriberDoPutPlan server.db request with
      | .ok entry =>
          if request.getParameter "operation" = "emailVerified" then
            addOutstandingSignup server.outstanding entry
          else
            server.outstanding
      | .error _ => server.outstanding }

def delete (ctx : Context) (server : SignupServer) (request : Request) : SignupServer :=
  { server with db := (subscriberDoDelete ctx server.db request).store }

/-- `onTimer`. -/
def timer (env : SignupEnv) (now : ℕ) (server : SignupServer) : SignupServer :=
  { server with db := removeIncompleteSignups env now server.db }

/-- A pass of the worker, which erases the copies that are completed. -/
def workerPass (env : SignupEnv) (ctx : Context) (server : SignupServer) : SignupServer :=
  if server.running then
    let result := workerLoop env ctx 0 server.copies server.db
    let updated := result.completed.foldl Table.update server.outstanding
    { db := result.db
      outstanding :=
        if result.finished then updated.deleteWhere fun entry => entry.completed != 0
        else updated
      running := result.finished }
  else
    server

end SignupServer

end Owprov
