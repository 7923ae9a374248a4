import Owprov.DanglingReferences
import Owprov.SignupWorker
import Owprov.SubDeviceHandlers

/-!
# The default service class of an operator

An operator gets a default service class when it is created, and the devices of its subscribers
are stamped with the one that `DefaultForOperator` finds.  A class that nobody uses can be deleted,
also when it is the default one; as long as that does not happen every operator has exactly one.
-/

namespace Owprov

open RowTable Runs

/-! ## Requests for service classes -/

def validPeriod (period : String) : Bool :=
  ["hourly", "daily", "monthly", "yearly", "quarterly", "lifetime", "custom1", "custom2",
    "custom3", "custom4"].contains period

/-- What makes a class the default one of an operator. -/
def ServiceClass.isDefaultFor (service : ServiceClass) (operatorId : String) : Bool :=
  service.defaultService && service.operatorId == operatorId

/-- The checks of `RESTAPI_service_class_handler::DoPost` and the record it creates, which keeps
the id of the body when it has no name. -/
def serviceClassDoPostPlan (ctx : Context) (db : Store) (request : Request) :
    Except Failure ServiceClass := do
  let body ← request.jsonBody
  let newObject ← ServiceClass.fromJson body
  require (newObject.operatorId != "" && idExists db.operatorDB newObject.operatorId)
    (.badRequest .missingUUID)
  let info ← createObjectInfoUnchecked body newObject.info (ctx.newId 0)
  require (!body.has "managementPolicy" || idExists db.policyDB newObject.managementPolicy)
    (.badRequest .unknownManagementPolicyUUID)
  require (newObject.billingCode != "") (.badRequest .invalidBillingCode)
  let period := if newObject.period = "" then "monthly" else newObject.period
  require (validPeriod period) (.badRequest .invalidBillingPeriod)
  return { newObject with
    info := info
    defaultService := !db.serviceClassDB.rows.any fun service =>
      service.isDefaultFor newObject.operatorId
    period := period }

def serviceClassDoPost (ctx : Context) (db : Store) (request : Request) : Outcome :=
  match serviceClassDoPostPlan ctx db request with
  | .error failure => .fail db failure
  | .ok newObject =>
      match db.serviceClassDB.insert? newObject with
      | none => .fail db (.internalError .recordNotCreated)
      | some serviceClassDB => .done { db with serviceClassDB := serviceClassDB }

/-- The checks of `RESTAPI_service_class_handler::DoPut` and the updated record. -/
def serviceClassDoPutPlan (db : Store) (request : Request) : Except Failure ServiceClass := do
  let uuid := request.getBinding "uuid"
  require (uuid != "") (.badRequest .missingUUID)
  match db.serviceClassDB.get? uuid with
  | none => throw (.badRequest .missingUUID)
  | some existing =>
      let body ← request.jsonBody
      let updateObj ← ServiceClass.fromJson body
      require (!body.has "managementPolicy" || idExists db.policyDB updateObj.managementPolicy)
        (.badRequest .unknownManagementPolicyUUID)
      let info ← updateObjectInfoUnchecked body existing.info
      let currency ← body.assignIfPresent "currency" existing.currency
      require (!(body.has "billingCode" && updateObj.billingCode == ""))
        (.badRequest .invalidBillingCode)
      let billingCode ← body.assignIfPresent "billingCode" existing.billingCode
      return { existing with info := info, currency := currency, billingCode := billingCode }

def serviceClassDoPut (db : Store) (request : Request) : Outcome :=
  match serviceClassDoPutPlan db request with
  | .error failure => .fail db failure
  | .ok updated => .done { db with serviceClassDB := db.serviceClassDB.update updated }

/-! ## One default class -/

/-- The number of default classes of an operator. -/
def defaultCount (db : Store) (operatorId : String) : ℕ :=
  db.serviceClassDB.rows.countP fun service => service.isDefaultFor operatorId

/-- Every operator has one default class, every class an operator, and a default class an id. -/
structure OneDefault (db : Store) : Prop where
  one : ∀ id operator, db.operatorDB.get? id = some operator → defaultCount db id = 1
  owned : ∀ service ∈ db.serviceClassDB.rows, ∃ operator,
    db.operatorDB.get? service.operatorId = some operator
  filled : ∀ service ∈ db.serviceClassDB.rows, service.defaultService = true →
    service.info.id ≠ ""

/-- Every operator has exactly one default class, which the lookup answers. -/
def DefaultsFound (db : Store) : Prop :=
  ∀ id operator, db.operatorDB.get? id = some operator →
    defaultCount db id = 1 ∧
      ∃ service ∈ db.serviceClassDB.rows, service.operatorId = id ∧
        service.defaultService = true ∧ service.info.id ≠ "" ∧
        defaultForOperator db id = service.info.id

section Defaults

variable {db : Store}

theorem isDefaultFor_iff {service : ServiceClass} {operatorId : String} :
    service.isDefaultFor operatorId = true ↔
      service.defaultService = true ∧ service.operatorId = operatorId := by
  simp [ServiceClass.isDefaultFor]

theorem defaultForOperator_eq (operatorId : String) :
    defaultForOperator db operatorId =
      ((db.serviceClassDB.rows.find? fun service => service.isDefaultFor operatorId).map
        fun service => service.info.id).getD "" := by
  unfold defaultForOperator
  congr 3
  funext service
  exact Bool.and_comm _ _

/-- The defaults counted in the column of what the rows say about an operator. -/
theorem defaultCount_eq_count (operatorId : String) :
    defaultCount db operatorId =
      (db.serviceClassDB.rows.map fun service => service.isDefaultFor operatorId).count true := by
  unfold defaultCount
  rw [List.count, List.countP_map]
  refine List.countP_congr fun service _ => ?_
  simp

theorem exists_default_of_count {operatorId : String} (one : defaultCount db operatorId = 1) :
    ∃ service ∈ db.serviceClassDB.rows, service.isDefaultFor operatorId = true := by
  have positive : 0 < defaultCount db operatorId := by omega
  exact List.countP_pos_iff.mp positive

theorem OneDefault.defaultsFound (oneDefault : OneDefault db) : DefaultsFound db := by
  intro id operator isOperator
  have one := oneDefault.one id operator isOperator
  refine ⟨one, ?_⟩
  obtain ⟨service, member, isDefault⟩ := exists_default_of_count one
  rw [defaultForOperator_eq]
  cases found : db.serviceClassDB.rows.find? fun service => service.isDefaultFor id with
  | none => exact absurd isDefault (List.find?_eq_none.mp found service member)
  | some first =>
      have firstMem := List.mem_of_find?_eq_some found
      have isDefault : first.isDefaultFor id = true := by
        simpa using List.find?_some found
      obtain ⟨default, owner⟩ := isDefaultFor_iff.mp isDefault
      exact ⟨first, firstMem, owner, default, oneDefault.filled first firstMem default, rfl⟩

end Defaults

/-! ## Steps -/

section Steps

variable {ctx : Context} {db : Store} {request : Request}

theorem serviceClassDoPostPlan_eq_ok {service : ServiceClass}
    (planned : serviceClassDoPostPlan ctx db request = .ok service) :
    (∃ operator, db.operatorDB.get? service.operatorId = some operator) ∧
      service.defaultService = !db.serviceClassDB.rows.any fun other =>
        other.isDefaultFor service.operatorId := by
  simp only [serviceClassDoPostPlan, bind_eq_ok_iff, require_eq_ok_iff] at planned
  obtain ⟨body, -, newObject, -, -, exist, info, -, -, -, -, -, -, -, planned⟩ := planned
  obtain rfl := Except.ok.inj planned
  rw [Bool.and_eq_true] at exist
  exact ⟨Option.isSome_iff_exists.mp exist.2, rfl⟩

theorem OneDefault.serviceClassDoPost (oneDefault : OneDefault db) :
    OneDefault (serviceClassDoPost ctx db request).store := by
  unfold Owprov.serviceClassDoPost
  cases planned : serviceClassDoPostPlan ctx db request with
  | error failure => exact oneDefault
  | ok service =>
      obtain ⟨⟨operator, isOperator⟩, default⟩ := serviceClassDoPostPlan_eq_ok planned
      dsimp only
      cases inserted : db.serviceClassDB.insert? service with
      | none => exact oneDefault
      | some table =>
          have notDefault : service.defaultService = false := by
            have one := oneDefault.one service.operatorId operator isOperator
            rw [default, Bool.not_eq_false', List.any_eq_true]
            exact exists_default_of_count one
          have noneFor : ∀ id, service.isDefaultFor id = false := by
            intro id
            simp [ServiceClass.isDefaultFor, notDefault]
          refine ⟨fun id other isOther => ?_, fun row member => ?_, fun row member isDefault => ?_⟩
          · rw [defaultCount_eq_count]
            change ((table.rows.map fun service => service.isDefaultFor id).count true) = 1
            rw [Table.map_rows_insert? inserted, noneFor, List.count_append,
              ← defaultCount_eq_count, oneDefault.one id other isOther]
            rfl
          · rcases (Table.mem_rows_insert? inserted).mp member with old | rfl
            · exact oneDefault.owned row old
            · exact ⟨operator, isOperator⟩
          · rcases (Table.mem_rows_insert? inserted).mp member with old | rfl
            · exact oneDefault.filled row old isDefault
            · rw [notDefault] at isDefault
              cases isDefault

theorem serviceClassDoPutPlan_eq_ok {updated : ServiceClass}
    (planned : serviceClassDoPutPlan db request = .ok updated) :
    (request.getBinding "uuid" ≠ "" ∧ updated.info.id = request.getBinding "uuid") ∧
      ∃ existing, db.serviceClassDB.get? updated.info.id = some existing ∧
        updated.defaultService = existing.defaultService ∧
        updated.operatorId = existing.operatorId := by
  simp only [serviceClassDoPutPlan, bind_eq_ok_iff, require_eq_ok_iff] at planned
  obtain ⟨_, filled, planned⟩ := planned
  split at planned
  · cases planned
  · rename_i existing found
    simp only [bind_eq_ok_iff, require_eq_ok_iff] at planned
    obtain ⟨body, _, object, _, _, _, info, updatedInfo, currency, _, _, _, code, _, planned⟩ :=
      planned
    cases planned
    have sameId : info.id = existing.info.id := updateObjectInfoUnchecked_eq_ok updatedInfo
    have bound : info.id = request.getBinding "uuid" := sameId.trans (Table.key_of_get? found)
    exact ⟨⟨bne_iff_ne.mp filled, bound⟩, existing, bound ▸ found, rfl, rfl⟩

theorem OneDefault.serviceClassDoPut (oneDefault : OneDefault db) :
    OneDefault (serviceClassDoPut db request).store := by
  unfold Owprov.serviceClassDoPut
  cases planned : serviceClassDoPutPlan db request with
  | error failure => exact oneDefault
  | ok updated =>
      obtain ⟨_, existing, found, default, owner⟩ := serviceClassDoPutPlan_eq_ok planned
      have existingMem := Table.mem_of_get? found
      refine ⟨fun id other isOther => ?_, fun row member => ?_, fun row member isDefault => ?_⟩
      · rw [defaultCount_eq_count]
        change ((db.serviceClassDB.update updated).rows.map fun service =>
          service.isDefaultFor id).count true = 1
        rw [Table.map_rows_update, ← defaultCount_eq_count, oneDefault.one id other isOther]
        intro row isRow
        obtain rfl := Option.some.inj (isRow.symm.trans found)
        simp [ServiceClass.isDefaultFor, default, owner]
      · rcases Table.mem_rows_update member with rfl | old
        · rw [owner]
          exact oneDefault.owned existing existingMem
        · exact oneDefault.owned row old
      · rcases Table.mem_rows_update member with rfl | old
        · have sameId : existing.info.id = row.info.id := Table.key_of_get? found
          rw [← sameId]
          exact oneDefault.filled existing existingMem (default.symm.trans isDefault)
        · exact oneDefault.filled row old isDefault

/-- A class that is no default may be deleted. -/
theorem OneDefault.serviceClassDoDelete (oneDefault : OneDefault db)
    (plain : ∀ service, serviceClassDoDeletePlan db request = .ok service →
      service.defaultService = false) :
    OneDefault (serviceClassDoDelete db request).store := by
  unfold Owprov.serviceClassDoDelete
  cases planned : serviceClassDoDeletePlan db request with
  | error failure => exact oneDefault
  | ok existing =>
      have notDefault := plain existing planned
      have found : db.serviceClassDB.get? existing.info.id = some existing := by
        simp only [serviceClassDoDeletePlan, bind_eq_ok_iff, require_eq_ok_iff] at planned
        obtain ⟨_, _, planned⟩ := planned
        split at planned
        · cases planned
        · rename_i isFound
          simp only [bind_eq_ok_iff, require_eq_ok_iff] at planned
          obtain ⟨_, _, planned⟩ := planned
          cases planned
          exact Table.get?_key_of_mem (Table.mem_of_get? isFound)
      refine ⟨fun id other isOther => ?_, fun row member => ?_, fun row member isDefault => ?_⟩
      · rw [← oneDefault.one id other isOther]
        change (db.serviceClassDB.rows.filter _).countP _ = db.serviceClassDB.rows.countP _
        rw [List.countP_filter]
        refine List.countP_congr fun row member => ?_
        rw [Bool.and_eq_true, and_iff_left_of_imp]
        intro isDefault
        have differ : key row ≠ existing.info.id := by
          intro same
          have isExisting := Table.get?_key_of_mem member
          rw [same, found] at isExisting
          obtain rfl := Option.some.inj isExisting
          rw [(isDefaultFor_iff.mp isDefault).1] at notDefault
          cases notDefault
        simpa using differ
      · exact oneDefault.owned row (Table.mem_rows_delete.mp member).1
      · exact oneDefault.filled row (Table.mem_rows_delete.mp member).1 isDefault

theorem OneDefault.operatorDoPost (oneDefault : OneDefault db) (fresh : ctx.Fresh db)
    (unclassed : ∀ i, db.serviceClassDB.get? (ctx.newId i) = none) :
    OneDefault (operatorDoPost ctx db request).store := by
  rcases operatorDoPost_cases fresh request with same |
    ⟨operator, entity, operatorDB, entityDB, planned, stored, -, after⟩
  · rw [same]
    exact oneDefault
  · have newId : operator.info.id = ctx.newId 0 := (operatorDoPostPlan_eq_ok planned).2.2.2
    have free : db.serviceClassDB.get?
        (key (defaultServiceClass (ctx.newId 2) operator.info.id)) = none := unclassed 2
    obtain ⟨table, inserted⟩ := Table.insert?_isSome free
    rw [after, inserted]
    have operators : ∀ id other, operatorDB.get? id = some other →
        id = operator.info.id ∨ db.operatorDB.get? id = some other := by
      intro id other isOther
      rw [Table.get?_insert? stored] at isOther
      by_cases same : id = key operator
      · exact .inl same
      · rw [if_neg same] at isOther
        exact .inr isOther
    have kept : ∀ id other, db.operatorDB.get? id = some other →
        operatorDB.get? id = some other := by
      intro id other isOther
      rw [Table.get?_insert? stored, if_neg]
      · exact isOther
      · rintro rfl
        have unknown := fresh.operator 0
        rw [← newId] at unknown
        rw [show key operator = operator.info.id from rfl, unknown] at isOther
        cases isOther
    have unowned : defaultCount db operator.info.id = 0 := by
      unfold defaultCount
      rw [List.countP_eq_zero]
      intro service member isDefault
      obtain ⟨owner, isOwner⟩ := oneDefault.owned service member
      rw [(isDefaultFor_iff.mp isDefault).2, newId, fresh.operator 0] at isOwner
      cases isOwner
    refine ⟨fun id other isOther => ?_, fun row member => ?_, fun row member isDefault => ?_⟩
    · rw [defaultCount_eq_count]
      change (table.rows.map fun service => service.isDefaultFor id).count true = 1
      rw [Table.map_rows_insert? inserted, List.count_append, ← defaultCount_eq_count]
      rcases operators id other isOther with rfl | old
      · rw [unowned]
        simp [ServiceClass.isDefaultFor, defaultServiceClass]
      · have differ : operator.info.id ≠ id := by
          intro same
          rw [← same, newId, fresh.operator 0] at old
          cases old
        rw [oneDefault.one id other old]
        simp [ServiceClass.isDefaultFor, defaultServiceClass, differ]
    · rcases (Table.mem_rows_insert? inserted).mp member with old | rfl
      · obtain ⟨owner, isOwner⟩ := oneDefault.owned row old
        exact ⟨owner, kept row.operatorId owner isOwner⟩
      · exact ⟨operator, Table.get?_insert? stored (key operator) |>.trans (if_pos rfl)⟩
    · rcases (Table.mem_rows_insert? inserted).mp member with old | rfl
      · exact oneDefault.filled row old isDefault
      · exact fresh.filled 2

theorem OneDefault.operatorDoDelete (oneDefault : OneDefault db) :
    OneDefault (operatorDoDelete db request).store := by
  by_cases accepted : (Owprov.operatorDoDelete db request).Succeeds
  · obtain ⟨existing, policyDB, -, -, after⟩ := operatorDoDelete_succeeds accepted
    rw [after]
    have left : ∀ row ∈ (db.serviceClassDB.deleteWhere fun service =>
        service.operatorId == request.getBinding "uuid").rows,
        row ∈ db.serviceClassDB.rows ∧ row.operatorId ≠ request.getBinding "uuid" := by
      intro row member
      simpa [Table.deleteWhere] using member
    refine ⟨fun id other isOther => ?_, fun row member => ?_, fun row member isDefault => ?_⟩
    · change (db.operatorDB.delete (request.getBinding "uuid")).get? id = some other at isOther
      rw [Table.get?_delete] at isOther
      split at isOther
      · cases isOther
      · rename_i differ
        rw [← oneDefault.one id other isOther]
        change (db.serviceClassDB.rows.filter _).countP _ = db.serviceClassDB.rows.countP _
        rw [List.countP_filter]
        refine List.countP_congr fun row _ => ?_
        rw [Bool.and_eq_true, and_iff_left_of_imp]
        intro isDefault
        have owner := (isDefaultFor_iff.mp isDefault).2
        simpa [owner] using differ
    · obtain ⟨old, differ⟩ := left row member
      obtain ⟨owner, isOwner⟩ := oneDefault.owned row old
      refine ⟨owner, ?_⟩
      change (db.operatorDB.delete (request.getBinding "uuid")).get? row.operatorId = _
      rw [Table.get?_delete, if_neg differ, isOwner]
    · exact oneDefault.filled row (left row member).1 isDefault
  · have same : (Owprov.operatorDoDelete db request).store = db := by
      unfold Owprov.operatorDoDelete at accepted ⊢
      cases planned : operatorDoDeletePlan db request with
      | error failure => rfl
      | ok plan =>
          rw [planned] at accepted
          exact absurd rfl accepted
    rw [same]
    exact oneDefault

end Steps

/-! ## Runs -/

/-- A database in which a run may start; the default class of the first operator has an id. -/
def ClassesStart (db : Store) : Prop :=
  ServiceStart db ∧ ∀ service ∈ db.serviceClassDB.rows, service.info.id ≠ ""

/-- A request for an operator or a service class, or a step that leaves both tables alone; the
classes that are deleted meet a condition. -/
inductive ClassStep (condition : ServiceClass → Prop) : Store → Store → Prop
  | operatorPost {before : Store} (ctx : Context) (request : Request) :
      ctx.Fresh before → (∀ i, before.serviceClassDB.get? (ctx.newId i) = none) →
      ClassStep condition before (operatorDoPost ctx before request).store
  | operatorDelete {before : Store} (request : Request) :
      ClassStep condition before (operatorDoDelete before request).store
  | post {before : Store} (ctx : Context) (request : Request) :
      ClassStep condition before (serviceClassDoPost ctx before request).store
  | put {before : Store} (request : Request) :
      ClassStep condition before (serviceClassDoPut before request).store
  | delete {before : Store} (request : Request) :
      (∀ service, serviceClassDoDeletePlan before request = .ok service → condition service) →
      ClassStep condition before (serviceClassDoDelete before request).store
  | other {before after : Store} :
      after.operatorDB = before.operatorDB → after.serviceClassDB = before.serviceClassDB →
      ClassStep condition before after

theorem oneDefault_start {db : Store} (start : ClassesStart db) : OneDefault db := by
  obtain ⟨start, filled⟩ := start
  cases start with
  | bare =>
      exact
        { one := fun id other isOther => nomatch isOther
          owned := fun row member => nomatch member
          filled := fun row member => nomatch member }
  | served operatorId serviceId nonempty =>
      refine ⟨fun id other isOther => ?_, fun row member => ?_,
        fun row member _ => filled row member⟩
      · change (Table.singleton _).get? id = some other at isOther
        rw [Table.get?_singleton] at isOther
        split at isOther
        · rename_i same
          subst same
          change List.countP _ [defaultServiceClass serviceId operatorId] = 1
          simp [ServiceClass.isDefaultFor, defaultServiceClass]
          rfl
        · cases isOther
      · obtain rfl := List.mem_singleton.mp member
        exact ⟨_, (Table.get?_singleton _ _).trans (if_pos rfl)⟩

/-- As long as no default class is deleted, every operator has exactly one and it is found. -/
theorem defaults_found_of_run {db : Store}
    (reached : Reachable ClassesStart (ClassStep fun service => service.defaultService = false) db) :
    DefaultsFound db := by
  have oneDefault : OneDefault db := by
    refine reached.invariant (fun _ => oneDefault_start) fun s t oneDefault isStep => ?_
    cases isStep with
    | operatorPost ctx request fresh unclassed => exact oneDefault.operatorDoPost fresh unclassed
    | operatorDelete request => exact oneDefault.operatorDoDelete
    | post ctx request => exact oneDefault.serviceClassDoPost
    | put request => exact oneDefault.serviceClassDoPut
    | delete request plain => exact oneDefault.serviceClassDoDelete plain
    | other operators classes =>
        refine ⟨fun id other isOther => ?_, fun row member => ?_, fun row member isDefault => ?_⟩
        · rw [operators] at isOther
          unfold defaultCount
          rw [classes]
          exact oneDefault.one id other isOther
        · rw [classes] at member
          rw [operators]
          exact oneDefault.owned row member
        · rw [classes] at member
          exact oneDefault.filled row member isDefault
  exact oneDefault.defaultsFound

/-- Another class for the first operator. -/
def classRequest : Request where
  method := .post
  uri := "/api/v1/serviceClass/0"
  bindings := [("uuid", "0")]
  body := some [("name", .str "Gold"), ("operatorId", .str "o-1"), ("billingCode", .str "gold")]

theorem classesStart_systemStore : ClassesStart (systemStore "o-1" "s-1") := by
  refine ⟨.served "o-1" "s-1" (by decide), fun service member => ?_⟩
  obtain rfl := List.mem_singleton.mp member
  decide

theorem default_found_after_class :
    DefaultsFound (serviceClassDoPost (rootContext 14) (systemStore "o-1" "s-1")
      classRequest).store :=
  defaults_found_of_run (.step (.start classesStart_systemStore)
    (.post (rootContext 14) classRequest))

/-- The default class is deleted while no device uses it. -/
theorem unused_default_deleted :
    ¬∀ db, Reachable ClassesStart (ClassStep fun _ => True) db → DefaultsFound db := by
  intro claim
  have deleted : ClassStep (fun _ => True) (systemStore "o-1" "s-1")
      (serviceClassDoDelete (systemStore "o-1" "s-1") (deleteRequest "s-1")).store :=
    .delete (deleteRequest "s-1") fun _ _ => trivial
  have found := claim _ (.step (.start classesStart_systemStore) deleted)
  obtain ⟨operator, isOperator⟩ : ∃ operator, (serviceClassDoDelete (systemStore "o-1" "s-1")
      (deleteRequest "s-1")).store.operatorDB.get? "o-1" = some operator := by
    rw [← Option.isSome_iff_exists]
    decide
  have one := (found "o-1" operator isOperator).1
  have none : defaultCount (serviceClassDoDelete (systemStore "o-1" "s-1")
      (deleteRequest "s-1")).store "o-1" = 0 := by
    decide
  omega

end Owprov
