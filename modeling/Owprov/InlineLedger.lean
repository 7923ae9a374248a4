import Owprov.InUseLedger

/-!
# The ledgers of venues and devices

A venue may come with an inline location and a device with an inline configuration, which are
stored as the body has them, and a device that leaves its subscriber, or is deleted, may take its
configuration along.  The ledgers follow such a request as long as those records are unused.
-/

namespace Owprov

open RowTable ForeignKeys UsageLedger Runs

/-! ## Inline objects -/

/-- The fields of an inline object name no existing policy and no user. -/
structure ComesUnused (db : Store) (fields : JsonObject) : Prop where
  policy : idExists db.policyDB (fields.stringField "managementPolicy") = false
  users : ∀ inUse, fields.stringsField "inUse" = .ok inUse → ∀ user : User, user.entry ∉ inUse

/-- The inline object of a request comes unused, if there is one. -/
def InlineComesUnused (db : Store) (request : Request) (field : String) : Prop :=
  ∀ body item fields, request.body = some body → createObjectsItem request body = .ok (some item) →
    item.getObject? field = some fields → ComesUnused db fields

section Inline

variable {ctx : Context} {db located : Store}

/-- A record that is read from the inline object of a body. -/
def IsInline (request : Request) (body : JsonObject) (field managementPolicy : String)
    (inUse : List String) : Prop :=
  ∃ item fields, createObjectsItem request body = .ok (some item) ∧
    item.getObject? field = some fields ∧
    managementPolicy = fields.stringField "managementPolicy" ∧
    fields.stringsField "inUse" = .ok inUse

theorem IsInline.comesUnused {request : Request} {body : JsonObject}
    {field managementPolicy : String} {inUse : List String}
    (isInline : IsInline request body field managementPolicy inUse)
    (isBody : request.body = some body) (unused : InlineComesUnused db request field) :
    idExists db.policyDB managementPolicy = false ∧ ∀ user : User, user.entry ∉ inUse := by
  obtain ⟨item, fields, isItem, isFields, rfl, isInUse⟩ := isInline
  have comes := unused body item fields isBody isItem isFields
  exact ⟨comes.policy, comes.users inUse isInUse⟩

theorem lookup_cons_of_ne {field other : String} (apart : field ≠ other) (value : Json)
    (obj : JsonObject) : ((other, value) :: obj).lookup field = obj.lookup field := by
  rw [List.lookup_cons, beq_false_of_ne apart]

theorem Location.usage_of_fromJson {obj : JsonObject} {location : Location}
    (read : Location.fromJson obj = .ok location) :
    location.managementPolicy = obj.stringField "managementPolicy" ∧
      obj.stringsField "inUse" = .ok location.inUse := by
  unfold Location.fromJson at read
  rw [orInvalid_eq_ok_iff] at read
  simp only [bind_eq_ok_iff] at read
  obtain ⟨_, _, inUse, isInUse, read⟩ := read
  obtain rfl := Except.ok.inj read
  exact ⟨rfl, isInUse⟩

theorem DeviceConfiguration.usage_of_fromJson {obj : JsonObject} {config : DeviceConfiguration}
    (read : DeviceConfiguration.fromJson obj = .ok config) :
    config.managementPolicy = obj.stringField "managementPolicy" ∧
      obj.stringsField "inUse" = .ok config.inUse := by
  unfold DeviceConfiguration.fromJson at read
  rw [orInvalid_eq_ok_iff] at read
  simp only [bind_eq_ok_iff] at read
  obtain ⟨_, _, inUse, isInUse, _, _, _, _, read⟩ := read
  obtain rfl := Except.ok.inj read
  exact ⟨rfl, isInUse⟩

/-- The body of a venue with an inline location names no other one. -/
theorem inlineLocation_eq_ok {env : Env} {request : Request} {body : JsonObject}
    {present : String} {location : Location}
    (read : inlineLocation env db request body present = .ok (some location)) :
    body.has "location" = false ∧
      IsInline request body "location" location.managementPolicy location.inUse := by
  unfold inlineLocation at read
  cases isItem : createObjectsItem request body with
  | error error =>
      rw [isItem] at read
      cases read
  | ok item =>
      rw [isItem] at read
      dsimp only [bind, Except.bind] at read
      split at read
      · cases read
      · rename_i item
        split at read
        · cases read
        · split at read
          · cases read
          · rename_i fields isFields
            split at read
            · cases read
            · rename_i absent
              split at read
              · cases read
              · split at read
                · split at read
                  · cases read
                  · split at read
                    · cases read
                    · rename_i timezone _ _ _ isLocation
                      obtain rfl := Option.some.inj (Except.ok.inj read)
                      obtain ⟨policy, inUse⟩ := Location.usage_of_fromJson isLocation
                      refine ⟨by simpa using absent, item, fields, isItem, isFields, ?_, ?_⟩
                      · rw [policy, JsonObject.stringField, JsonObject.stringField,
                          lookup_cons_of_ne (by decide)]
                      · rw [← inUse, JsonObject.stringsField, JsonObject.stringsField,
                          JsonObject.getArray?, JsonObject.getArray?, lookup_cons_of_ne (by decide)]
                · cases read

/-- The inline location that a venue gets. -/
theorem createVenueObjects_eq_ok {request : Request} {body : JsonObject} {newObject : Venue}
    {newId : String} {location : Location}
    (created : createVenueObjects ctx db request body newObject newId = .ok (some location)) :
    body.has "location" = false ∧ location.info.id = newId ∧
      IsInline request body "location" location.managementPolicy location.inUse := by
  unfold createVenueObjects at created
  split at created
  · cases created
  · cases created
  · rename_i given read
    obtain ⟨absent, isInline⟩ := inlineLocation_eq_ok read
    unfold placeInlineLocation at created
    split at created
    · cases created
    · obtain rfl := Option.some.inj (Except.ok.inj created)
      exact ⟨absent, rfl, isInline⟩

/-- An inline location that comes unused is stored. -/
theorem ExactLedgers.storeInlineLocation (exact : ExactLedgers db) {location : Option Location}
    (stored : storeInlineLocation db location = .ok located)
    (unreferenced : ∀ created, location = some created →
      ∀ user, created.info.id ∉ uses db user .location)
    (unused : ∀ created, location = some created →
      idExists db.policyDB created.managementPolicy = false ∧
        ∀ user : User, user.entry ∉ created.inUse) :
    ExactLedgers located := by
  unfold Owprov.storeInlineLocation at stored
  split at stored
  · cases stored
    exact exact
  · rename_i created
    split at stored
    · cases stored
    · rename_i locationDB inserted
      obtain rfl := Except.ok.inj stored
      refine exact.storeUnused .location created.info.id .location (by rintro ⟨⟩)
        (usesOf_of_missing (Table.get?_key_of_insert? inserted)) (unreferenced created rfl)
        (unused created rfl)
        (uses_writeLocation (usesOf_insert? inserted)
          (sameView_addMembership (fun _ _ => rfl) _ _)) ?_
      refine (ledgers_locationDB db locationDB).trans ?_
      rw [memberships_insert? inserted]
      rfl

/-- An inline configuration is read from the object of a body. -/
theorem inlineConfiguration_reads {env : Env} {request : Request} {body : JsonObject}
    {platform : String} {config : DeviceConfiguration}
    (read : inlineConfiguration env request body platform = .ok (some config)) :
    body.has "deviceConfiguration" = false ∧
      ∃ item fields, createObjectsItem request body = .ok (some item) ∧
        item.getObject? "configuration" = some fields ∧
        DeviceConfiguration.fromJson fields = .ok config := by
  unfold inlineConfiguration at read
  cases isItem : createObjectsItem request body with
  | error error =>
      rw [isItem] at read
      cases read
  | ok item =>
      rw [isItem] at read
      dsimp only [bind, Except.bind] at read
      split at read
      · cases read
      · rename_i item
        split at read
        · cases read
        · split at read
          · cases read
          · rename_i fields isFields
            split at read
            · cases read
            · rename_i absent
              split at read
              · cases read
              · rename_i isConfig
                split at read
                · cases read
                · obtain rfl := Option.some.inj (Except.ok.inj read)
                  exact ⟨by simpa using absent, item, fields, rfl, isFields, isConfig⟩

/-- The inline configuration of a device gets an id of its own. -/
theorem createTagObjects_reads {request : Request} {body : JsonObject} {platform newId : String}
    {config : DeviceConfiguration}
    (created : createTagObjects ctx request body platform newId = .ok (some config)) :
    ∃ given, inlineConfiguration ctx.env request body platform = .ok (some given) ∧
      config = { given with info := { given.info with id := newId } } := by
  unfold createTagObjects at created
  split at created
  · cases created
  · cases created
  · rename_i given read
    obtain rfl := Option.some.inj (Except.ok.inj created)
    exact ⟨given, read, rfl⟩

theorem createTagObjects_eq_ok {request : Request} {body : JsonObject} {platform newId : String}
    {config : DeviceConfiguration}
    (created : createTagObjects ctx request body platform newId = .ok (some config)) :
    body.has "deviceConfiguration" = false ∧ config.info.id = newId ∧
      IsInline request body "configuration" config.managementPolicy config.inUse := by
  obtain ⟨given, read, rfl⟩ := createTagObjects_reads created
  obtain ⟨absent, item, fields, isItem, isFields, isConfig⟩ := inlineConfiguration_reads read
  obtain ⟨policy, inUse⟩ := DeviceConfiguration.usage_of_fromJson isConfig
  exact ⟨absent, rfl, item, fields, isItem, isFields, policy, inUse⟩

/-- An inline configuration that comes unused is stored. -/
theorem ExactLedgers.storeInlineConfiguration (exact : ExactLedgers db)
    {config : Option DeviceConfiguration}
    (stored : storeInlineConfiguration db config = .ok located)
    (unreferenced : ∀ created, config = some created →
      ∀ user, created.info.id ∉ uses db user .configuration)
    (unused : ∀ created, config = some created →
      idExists db.policyDB created.managementPolicy = false ∧
        ∀ user : User, user.entry ∉ created.inUse) :
    ExactLedgers located := by
  unfold Owprov.storeInlineConfiguration at stored
  split at stored
  · cases stored
    exact exact
  · rename_i created
    split at stored
    · cases stored
    · rename_i configurationDB inserted
      obtain rfl := Except.ok.inj stored
      refine exact.storeUnused .configuration created.info.id .configuration (by rintro ⟨⟩)
        (usesOf_of_missing (Table.get?_key_of_insert? inserted)) (unreferenced created rfl)
        (unused created rfl) (uses_configurationDB (usesOf_insert? inserted)) ?_
      rw [ledgers_configurationDB, memberships_insert? inserted]
      rfl

end Inline

/-! ## Venues -/

section Venues

variable {ctx : Context} {db : Store}

theorem inline_of_venueDoPostPlan {request : Request} {venue : Venue} {location : Option Location}
    (planned : venueDoPostPlan ctx db request = .ok (venue, location)) {created : Location}
    (isCreated : location = some created) :
    created.info.id = ctx.newId 1 ∧ ∃ body, request.body = some body ∧
      IsInline request body "location" created.managementPolicy created.inUse := by
  simp only [venueDoPostPlan, bind_eq_ok_iff, require_eq_ok_iff] at planned
  obtain ⟨_, _, body, read, newObject, _, _, _, info, _, _, _, _, _, entity, _, planned⟩ := planned
  obtain ⟨_, _, _, _, _, _, _, _, _, _, _, _, _, _, _, _, inline, made, planned⟩ := planned
  obtain ⟨_, rfl⟩ := Prod.mk.inj (Except.ok.inj planned)
  rw [isCreated] at made
  obtain ⟨_, id, isInline⟩ := createVenueObjects_eq_ok made
  exact ⟨id, body, body_of_jsonBody read, isInline⟩

theorem ExactLedgers.venueDoPost (exact : ExactLedgers db) (unseen : ctx.Unseen db)
    {request : Request}
    (condition : (venueDoPost ctx db request).Succeeds →
      InlineComesUnused db request "location") :
    ExactLedgers (venueDoPost ctx db request).store := by
  rcases venueDoPost_cases unseen.toFresh request with
    unchanged | ⟨venue, location, located, venueDB, created⟩
  · rw [unchanged]
    exact exact
  · have unused : InlineComesUnused db request "location" := condition (by rw [created.outcome]; rfl)
    have located' : ExactLedgers located := by
      apply exact.storeInlineLocation created.stored
      · intro inline isInline user
        rw [(inline_of_venueDoPostPlan created.planned isInline).1]
        exact unseen.unreferenced 1 user .location
      · intro inline isInline
        obtain ⟨_, body, isBody, fromBody⟩ := inline_of_venueDoPostPlan created.planned isInline
        exact fromBody.comesUnused isBody unused
    rw [created.outcome, Outcome.store_done]
    apply ExactLedgers.autoCreateCreatorRole
    refine LedgersAgree.follow located' ⟨.venue, venue.info.id⟩ venue.references
      venue.arrivals.fromReferences venue.arrivals.toReferences ?_ (by rintro ⟨⟩)
      ((uses_moveVenue _ _ _).trans (uses_venueDB (usesOf_insert? created.inserted)))
      (ledgers_moveVenue _ _ _)
    intro kind
    rw [show uses located ⟨.venue, venue.info.id⟩ = fun _ => [] from
      usesOf_of_missing (Table.get?_key_of_insert? created.inserted)]
    cases kind <;> exact Or.inl ⟨rfl, rfl⟩

theorem follows_of_requiredMove {β : Type} [Keyed β String] {body : JsonObject}
    {field existing : String} {table : Table β} {missing : Errors} {fromId toId value : String}
    (moved : requiredMove body field existing table missing = .ok (fromId, toId, value)) :
    Moves existing value fromId toId := by
  rcases requiredMove_eq_ok moved with ⟨_, rfl, rfl, rfl⟩ | ⟨_, _, rfl, rfl, _⟩
  · exact Or.inl ⟨rfl, rfl, rfl⟩
  · exact Or.inr ⟨rfl, rfl⟩

theorem follows_of_contactsMove {body : JsonObject}
    {newContacts existing fromContacts toContacts contacts : List String}
    (moved : contactsMove db body newContacts existing = .ok (fromContacts, toContacts, contacts)) :
    Follows existing contacts fromContacts toContacts := by
  unfold contactsMove at moved
  split at moved
  · cases moved
    exact Or.inr ⟨rfl, rfl⟩
  · simp only [bind_eq_ok_iff] at moved
    obtain ⟨moveTo, _, _, _, moved⟩ := moved
    cases moved
    exact Or.inl ⟨rfl, rfl⟩

theorem follows_of_configurationsMove {body : JsonObject}
    {newConfigurations existing fromIds toIds configurations : List String}
    (moved : configurationsMove db body newConfigurations existing =
      .ok (fromIds, toIds, configurations)) :
    Follows existing configurations fromIds toIds := by
  unfold configurationsMove at moved
  split at moved
  · simp only [bind_eq_ok_iff] at moved
    obtain ⟨_, _, moved⟩ := moved
    cases moved
    exact Or.inl ⟨rfl, rfl⟩
  · cases moved
    exact Or.inr ⟨rfl, rfl⟩

/-- A field that the body does not name keeps its value. -/
theorem value_of_createMove {β : Type} [Keyed β String] {body : JsonObject}
    {field existing : String} {table : Table β} {missing : Failure} {fromId toId value : String}
    (moved : createMove body field existing table missing = .ok (fromId, toId, value))
    (absent : body.has field = false) : value = existing := by
  unfold createMove at moved
  rw [absent] at moved
  cases moved
  rfl

/-- What a venue update moves is what it changes. -/
theorem follows_of_venueDoPutPlan {request : Request} {existing : Venue} {update : VenueUpdate}
    (planned : venueDoPutPlan ctx db request existing = .ok update) (kind : Referable) :
    Follows (existing.references kind) (update.updated.references kind)
      (update.moves.fromReferences kind) (update.moves.toReferences kind) := by
  simp only [venueDoPutPlan, bind_eq_ok_iff, require_eq_ok_iff] at planned
  obtain ⟨body, read, newObject, _, _, _, info, _, _, _, entityMove, _, planned⟩ := planned
  obtain ⟨venueMove, _, locationMove, locationMoved, contactsMove, contactsMoved, policyMove,
    policyMoved, configMove, configMoved, inline, made, planned⟩ := planned
  obtain rfl := Except.ok.inj planned
  cases kind with
  | policy => exact follows_of_moves (follows_of_requiredMove policyMoved)
  | contact => exact follows_of_contactsMove contactsMoved
  | configuration => exact follows_of_configurationsMove configMoved
  | location =>
      cases inline with
      | none => exact follows_of_moves (moves_of_createMove locationMoved).1
      | some created =>
          obtain ⟨absent, _⟩ := createVenueObjects_eq_ok made
          have kept := value_of_createMove locationMoved absent
          refine Or.inl ⟨?_, rfl⟩
          show singleReference locationMove.2.2 = singleReference existing.location
          rw [kept]

theorem inline_of_venueDoPutPlan {request : Request} {existing : Venue} {update : VenueUpdate}
    (planned : venueDoPutPlan ctx db request existing = .ok update) {created : Location}
    (isCreated : update.location = some created) :
    created.info.id = ctx.newId 0 ∧ ∃ body, request.body = some body ∧
      IsInline request body "location" created.managementPolicy created.inUse := by
  simp only [venueDoPutPlan, bind_eq_ok_iff, require_eq_ok_iff] at planned
  obtain ⟨body, read, newObject, _, _, _, info, _, _, _, entityMove, _, planned⟩ := planned
  obtain ⟨_, _, _, _, _, _, _, _, _, _, inline, made, planned⟩ := planned
  obtain rfl := Except.ok.inj planned
  obtain rfl : inline = some created := isCreated
  obtain ⟨_, id, isInline⟩ := createVenueObjects_eq_ok made
  exact ⟨id, body, body_of_jsonBody read, isInline⟩

/-- A venue keeps its references while an inline location is stored. -/
theorem ExactLedgers.venueDoPut (exact : ExactLedgers db) (unseen : ctx.Unseen db)
    {request : Request}
    (condition : (venueDoPut ctx db request).Succeeds →
      venueCommand request = none → InlineComesUnused db request "location") :
    ExactLedgers (venueDoPut ctx db request).store := by
  rcases venueDoPut_cases ctx db request with
    ⟨unchanged, _⟩ | ⟨noCommand, existing, update, located, updated⟩
  · rw [unchanged]
    exact exact
  · have unused : InlineComesUnused db request "location" :=
      condition (by rw [updated.outcome]; rfl) noCommand
    have located' : ExactLedgers located := by
      apply exact.storeInlineLocation updated.stored
      · intro inline isInline user
        rw [(inline_of_venueDoPutPlan updated.planned isInline).1]
        exact unseen.unreferenced 0 user .location
      · intro inline isInline
        obtain ⟨_, body, isBody, fromBody⟩ := inline_of_venueDoPutPlan updated.planned isInline
        exact fromBody.comesUnused isBody unused
    rw [updated.outcome, Outcome.store_done]
    refine LedgersAgree.follow located' ⟨.venue, update.updated.info.id⟩ update.updated.references
      update.moves.fromReferences update.moves.toReferences ?_ (by rintro ⟨⟩)
      ((uses_moveVenue _ _ _).trans (uses_venueDB (usesOf_update updated.foundLocated)))
      (ledgers_moveVenue _ _ _)
    intro kind
    rw [show uses located ⟨.venue, update.updated.info.id⟩ = existing.references from
      usesOf_of_get? updated.foundLocated]
    exact follows_of_venueDoPutPlan updated.planned kind

theorem ExactLedgers.venueDoDelete (exact : ExactLedgers db) (request : Request) :
    ExactLedgers (venueDoDelete db request).store := by
  rcases venueDoDelete_cases db request with unchanged | ⟨existing, planned, deleted⟩
  · rw [unchanged]
    exact exact
  · obtain ⟨found, _⟩ := venueDoDeletePlan_eq_ok planned
    have moved : LedgersAgree (uses db) (ledgers db) := exact
    have released : ExactLedgers
        { moveVenue db existing.departures existing.info.id with
          venueDB := (moveVenue db existing.departures existing.info.id).venueDB.delete
            existing.info.id } := by
      refine moved.follow ⟨.venue, existing.info.id⟩ (fun _ => [])
        existing.departures.fromReferences existing.departures.toReferences ?_ (by rintro ⟨⟩) ?_
        (ledgers_moveVenue db _ _)
      · intro kind
        rw [show uses db ⟨.venue, existing.info.id⟩ = existing.references from
          usesOf_of_get? found]
        cases kind <;> exact Or.inl ⟨rfl, rfl⟩
      · rw [← uses_moveVenue db existing.departures existing.info.id]
        exact uses_venueDB (usesOf_delete existing.info.id)
    rw [deleted]
    dsimp only
    rw [deleteScopeRoles_venueDB_comm, deleteScopeRoles_venueDB]
    exact released.deleteScopeRoles _

end Venues

/-! ## Devices -/

section Devices

variable {ctx : Context} {db : Store}

theorem createTagObjects_of_inventoryDoPostPlan {request : Request} {tag : InventoryTag}
    {config : Option DeviceConfiguration}
    (planned : inventoryDoPostPlan ctx db request = .ok (tag, config)) :
    tag.info.id = ctx.newId 0 ∧ ∃ body platform, request.body = some body ∧
      createTagObjects ctx request body platform (ctx.newId 1) = .ok config := by
  simp only [inventoryDoPostPlan, bind_eq_ok_iff, require_eq_ok_iff] at planned
  obtain ⟨_, _, _, _, _, _, body, read, newObject, _, _, _, _, _, _, _, info, named, planned⟩ :=
    planned
  obtain ⟨_, _, _, _, _, _, planned⟩ := planned
  obtain ⟨_, _, _, _, _, _, _, _, _, _, _, _, inline, made, planned⟩ := planned
  obtain ⟨rfl, rfl⟩ := Prod.mk.inj (Except.ok.inj planned)
  exact ⟨createObjectInfo_eq_ok named, body, newObject.platform, body_of_jsonBody read, made⟩

theorem inline_of_inventoryDoPostPlan {request : Request} {tag : InventoryTag}
    {config : Option DeviceConfiguration}
    (planned : inventoryDoPostPlan ctx db request = .ok (tag, config)) :
    tag.info.id = ctx.newId 0 ∧ ∀ created, config = some created →
      created.info.id = ctx.newId 1 ∧ ∃ body, request.body = some body ∧
        IsInline request body "configuration" created.managementPolicy created.inUse := by
  obtain ⟨id, body, platform, isBody, made⟩ := createTagObjects_of_inventoryDoPostPlan planned
  refine ⟨id, ?_⟩
  rintro created rfl
  obtain ⟨_, id, isInline⟩ := createTagObjects_eq_ok made
  exact ⟨id, body, isBody, isInline⟩

theorem ExactLedgers.inventoryDoPost (exact : ExactLedgers db) (unseen : ctx.Unseen db)
    {request : Request}
    (condition : (inventoryDoPost ctx db request).Succeeds →
      InlineComesUnused db request "configuration") :
    ExactLedgers (inventoryDoPost ctx db request).store := by
  cases planned : inventoryDoPostPlan ctx db request with
  | error failure =>
      simp only [Owprov.inventoryDoPost, planned]
      exact exact
  | ok plan =>
      obtain ⟨tag, config⟩ := plan
      obtain ⟨id, inlined⟩ := inline_of_inventoryDoPostPlan planned
      cases stored : Owprov.storeInlineConfiguration db config with
      | error failure =>
          simp only [Owprov.inventoryDoPost, planned, stored]
          exact exact
      | ok configured =>
          have sameTags : configured.inventoryDB = db.inventoryDB := by
            rw [storeInlineConfiguration_eq_ok stored]
          have free : configured.inventoryDB.get? (key tag) = none := by
            rw [sameTags, show key tag = tag.info.id from rfl, id]
            exact unseen.inventory 0
          obtain ⟨inventoryDB, inserted⟩ := Table.insert?_isSome free
          simp only [Owprov.inventoryDoPost, planned, stored, inserted] at condition ⊢
          have unused : InlineComesUnused db request "configuration" := condition rfl
          have configured' : ExactLedgers configured := by
            apply exact.storeInlineConfiguration stored
            · intro inline isInline user
              rw [(inlined inline isInline).1]
              exact unseen.unreferenced 1 user .configuration
            · intro inline isInline
              obtain ⟨_, body, isBody, fromBody⟩ := inlined inline isInline
              exact fromBody.comesUnused isBody unused
          refine LedgersAgree.follow configured' ⟨.inventory, tag.info.id⟩ tag.references
            tag.arrivals.fromReferences tag.arrivals.toReferences ?_ (by rintro ⟨⟩)
            ((uses_moveTag _ _ _).trans (uses_inventoryDB (usesOf_insert? inserted)))
            (ledgers_moveTag _ _ _)
          intro kind
          rw [show uses configured ⟨.inventory, tag.info.id⟩ = fun _ => [] from
            usesOf_of_missing free]
          cases kind <;> exact Or.inl ⟨rfl, rfl⟩

/-- What a device update moves is what it changes. -/
theorem follows_of_inventoryDoPutPlan {request : Request} {existing : InventoryTag}
    {update : TagUpdate} (planned : inventoryDoPutPlan ctx db request existing = .ok update)
    (kind : Referable) :
    Follows (existing.references kind) (update.updated.references kind)
      (update.moves.fromReferences kind) (update.moves.toReferences kind) := by
  simp only [inventoryDoPutPlan, bind_eq_ok_iff, require_eq_ok_iff] at planned
  obtain ⟨body, read, newObject, _, _, _, _, _, _, _, info, _, policyMove, policyMoved, planned⟩ :=
    planned
  obtain ⟨_, _, _, _, locationMove, locationMoved, contactMove, contactMoved, configMove,
    configMoved, planned⟩ := planned
  obtain ⟨subscriber, _, overrides, _, inline, made, planned⟩ := planned
  obtain rfl := Except.ok.inj planned
  cases kind with
  | policy => exact follows_of_moves (moves_of_createMove policyMoved).1
  | location => exact follows_of_moves (moves_of_createMove locationMoved).1
  | contact => exact follows_of_moves (moves_of_createMove contactMoved).1
  | configuration =>
      cases inline with
      | none => exact follows_of_moves (moves_of_createMove configMoved).1
      | some created =>
          obtain ⟨absent, _⟩ := createTagObjects_eq_ok made
          have kept := value_of_createMove configMoved absent
          refine Or.inl ⟨?_, rfl⟩
          show singleReference configMove.2.2 = singleReference existing.deviceConfiguration
          rw [kept]

theorem createTagObjects_of_inventoryDoPutPlan {request : Request} {existing : InventoryTag}
    {update : TagUpdate} (planned : inventoryDoPutPlan ctx db request existing = .ok update) :
    ∃ body platform, request.body = some body ∧
      createTagObjects ctx request body platform (ctx.newId 0) = .ok update.config := by
  simp only [inventoryDoPutPlan, bind_eq_ok_iff, require_eq_ok_iff] at planned
  obtain ⟨body, read, newObject, _, _, _, _, _, _, _, info, _, _, _, planned⟩ := planned
  obtain ⟨_, _, _, _, _, _, _, _, _, _, planned⟩ := planned
  obtain ⟨subscriber, _, overrides, _, inline, made, planned⟩ := planned
  obtain rfl := Except.ok.inj planned
  exact ⟨body, newObject.platform, body_of_jsonBody read, made⟩

theorem inline_of_inventoryDoPutPlan {request : Request} {existing : InventoryTag}
    {update : TagUpdate} (planned : inventoryDoPutPlan ctx db request existing = .ok update)
    {created : DeviceConfiguration} (isCreated : update.config = some created) :
    created.info.id = ctx.newId 0 ∧ ∃ body, request.body = some body ∧
      IsInline request body "configuration" created.managementPolicy created.inUse := by
  obtain ⟨body, platform, isBody, made⟩ := createTagObjects_of_inventoryDoPutPlan planned
  rw [isCreated] at made
  obtain ⟨_, id, isInline⟩ := createTagObjects_eq_ok made
  exact ⟨id, body, isBody, isInline⟩

/-- A configuration without an existing policy is deleted. -/
theorem ExactLedgers.dropConfiguration (exact : ExactLedgers db) {id : String}
    {config : DeviceConfiguration} (found : db.configurationDB.get? id = some config)
    (noPolicy : idExists db.policyDB config.managementPolicy = false) :
    ExactLedgers { db with configurationDB := db.configurationDB.delete id } := by
  let dropped : Store := { db with configurationDB := db.configurationDB.delete id }
  have closed : LedgersAgree (uses db) (ledgers dropped) := by
    refine LedgersAgree.closeLedger exact .configuration id ?_
    rw [ledgers_configurationDB, memberships_delete]
    rfl
  refine closed.rename (fun kind ref there => ?_) (by rintro ⟨⟩)
    (uses_configurationDB (usesOf_delete id)) rfl
  rw [show uses db ⟨.configuration, id⟩ = policyReference config.managementPolicy from
    usesOf_of_get? found]
  have stillNone : idExists dropped.policyDB config.managementPolicy = false := noPolicy
  exact iff_of_false List.not_mem_nil (notMem_policyReference stillNone there)

/-- A device drops a configuration that does not exist. -/
theorem ExactLedgers.clearConfiguration (exact : ExactLedgers db) {existing : InventoryTag}
    (released : InventoryTag)
    (found : db.inventoryDB.get? (key released) = some existing)
    (gone : idExists db.configurationDB existing.deviceConfiguration = false)
    (others : ∀ kind, kind ≠ .configuration → released.references kind = existing.references kind)
    (cleared : released.deviceConfiguration = "") :
    ExactLedgers { db with inventoryDB := db.inventoryDB.update released } := by
  refine LedgersAgree.rename exact (fun kind id there => ?_) (by rintro ⟨⟩)
    (uses_inventoryDB (usesOf_update found)) rfl
  rw [show uses db ⟨.inventory, key released⟩ = existing.references from usesOf_of_get? found]
  by_cases isConfiguration : kind = .configuration
  · subst isConfiguration
    rw [InventoryTag.references, cleared]
    refine iff_of_false List.not_mem_nil fun member => ?_
    obtain ⟨rfl, _⟩ := mem_singleReference.mp member
    have present : idExists db.configurationDB existing.deviceConfiguration = true := by
      rw [← there]
      exact isSome_memberships.symm
    rw [gone] at present
    cases present
  · rw [others kind isConfiguration]

/-- The configuration of a device that a subscriber gives back goes away, and has no policy. -/
def ReturnsConfiguration (db : Store) (request : Request) : Prop :=
  ∀ existing config,
    getBy db.inventoryDB InventoryTag.serialNumber (request.getBinding "serialNumber") =
      some existing →
    db.configurationDB.get? existing.deviceConfiguration = some config →
      config.subscriberOnly = true ∧ idExists db.policyDB config.managementPolicy = false

theorem ExactLedgers.removeSubscriber (exact : ExactLedgers db) {existing : InventoryTag}
    (member : existing ∈ db.inventoryDB.rows) {subscriber : String}
    (condition : (removeSubscriber ctx db existing subscriber).Succeeds →
      ∀ config, db.configurationDB.get? existing.deviceConfiguration = some config →
        config.subscriberOnly = true ∧ idExists db.policyDB config.managementPolicy = false) :
    ExactLedgers (removeSubscriber ctx db existing subscriber).store := by
  unfold Owprov.removeSubscriber at condition ⊢
  split
  · rename_i same
    rw [if_pos same] at condition
    have returns := condition rfl
    have found : db.inventoryDB.get? existing.info.id = some existing :=
      Table.get?_key_of_mem member
    dsimp only [Outcome.store_done]
    cases isConfig : db.configurationDB.get? existing.deviceConfiguration with
    | none =>
        have noConfig : idExists db.configurationDB existing.deviceConfiguration = false := by
          rw [idExists, isConfig]
          rfl
        have kept : dropSubscriberConfiguration db existing.deviceConfiguration =
            db.configurationDB := by
          rw [dropSubscriberConfiguration, isConfig]
          rfl
        rw [kept, noConfig]
        refine exact.of_sameReferences
          { tags := .update found ?_
            entities := sameView_removeMembership (fun _ _ => rfl) _ _ } rfl
        funext kind
        cases kind <;> rfl
    | some config =>
        obtain ⟨subscriberOnly, noPolicy⟩ := returns config isConfig
        have present : idExists db.configurationDB existing.deviceConfiguration = true := by
          rw [idExists, isConfig]
          rfl
        have dropped : dropSubscriberConfiguration db existing.deviceConfiguration =
            db.configurationDB.delete existing.deviceConfiguration := by
          rw [dropSubscriberConfiguration, isConfig]
          exact if_pos subscriberOnly
        have exact' := exact.dropConfiguration isConfig noPolicy
        rw [dropped, present]
        have gone : idExists (db.configurationDB.delete existing.deviceConfiguration)
            existing.deviceConfiguration = false := by
          rw [idExists, Table.get?_delete, if_pos rfl]
          rfl
        have cleared := exact'.clearConfiguration
          { existing with
            deviceConfiguration := ""
            subscriber := ""
            devClass := "any"
            state := returnedState ctx.env.now } found gone (fun kind apart => by
              cases kind <;> first | rfl | exact absurd rfl apart) rfl
        exact cleared.of_sameReferences
          { entities := sameView_removeMembership (fun _ _ => rfl) _ _ } rfl
  · exact exact

theorem ExactLedgers.inventoryDoPut (exact : ExactLedgers db) (unseen : ctx.Unseen db)
    {request : Request}
    (condition : (inventoryDoPut ctx db request).Succeeds →
      if request.getParameter "removeSubscriber" = "" then
        InlineComesUnused db request "configuration"
      else ReturnsConfiguration db request) :
    ExactLedgers (inventoryDoPut ctx db request).store := by
  unfold Owprov.inventoryDoPut at condition ⊢
  dsimp only at condition ⊢
  split
  · exact exact
  · rename_i valid
    rw [if_neg valid] at condition
    split
    · exact exact
    · rename_i existing found
      rw [found] at condition
      dsimp only at condition
      have member := getBy_mem found
      split
      · rename_i leaves
        rw [if_pos leaves, if_neg leaves] at condition
        exact exact.removeSubscriber member fun succeeds config isConfig =>
          condition succeeds existing config found isConfig
      · rename_i stays
        rw [if_neg stays, if_pos (not_not.mp stays)] at condition
        cases planned : inventoryDoPutPlan ctx db request existing with
        | error failure => exact exact
        | ok update =>
            rw [planned] at condition
            dsimp only at condition ⊢
            cases stored : Owprov.storeInlineConfiguration db update.config with
            | error failure =>
                rw [inventoryDoPutCommit, stored]
                exact exact
            | ok configured =>
                rw [inventoryDoPutCommit, stored] at condition ⊢
                have unused : InlineComesUnused db request "configuration" := condition rfl
                have configured' : ExactLedgers configured := by
                  apply exact.storeInlineConfiguration stored
                  · intro inline isInline user
                    rw [(inline_of_inventoryDoPutPlan planned isInline).1]
                    exact unseen.unreferenced 0 user .configuration
                  · intro inline isInline
                    obtain ⟨_, body, isBody, fromBody⟩ :=
                      inline_of_inventoryDoPutPlan planned isInline
                    exact fromBody.comesUnused isBody unused
                have foundKey : configured.inventoryDB.get? (key update.updated) =
                    some existing := by
                  rw [storeInlineConfiguration_eq_ok stored,
                    show key update.updated = existing.info.id from id_of_inventoryDoPutPlan planned]
                  exact Table.get?_key_of_mem member
                have moved : ExactLedgers (moveTag
                    { configured with inventoryDB := configured.inventoryDB.update update.updated }
                    update.moves update.updated.info.id) := by
                  refine LedgersAgree.follow configured' ⟨.inventory, update.updated.info.id⟩
                    update.updated.references update.moves.fromReferences update.moves.toReferences
                    ?_ (by rintro ⟨⟩)
                    ((uses_moveTag _ _ _).trans (uses_inventoryDB (usesOf_update foundKey)))
                    (ledgers_moveTag _ _ _)
                  intro kind
                  rw [show uses configured ⟨.inventory, update.updated.info.id⟩ =
                    existing.references from usesOf_of_get? foundKey]
                  exact follows_of_inventoryDoPutPlan planned kind
                exact moved.of_sameReferences {} rfl

/-- A configuration that goes with a deleted device has no policy. -/
def DeletesConfiguration (db : Store) (request : Request) : Prop :=
  ∀ existing config,
    getBy db.inventoryDB InventoryTag.serialNumber (request.getBinding "serialNumber") =
      some existing →
    db.configurationDB.get? existing.deviceConfiguration = some config →
      config.subscriberOnly = true → idExists db.policyDB config.managementPolicy = false

/-- The configuration of a deleted device goes, or loses the device as a user, or is not
there. -/
theorem agree_releaseConfiguration (exact : ExactLedgers db) {existing : InventoryTag}
    (found : db.inventoryDB.get? existing.info.id = some existing)
    (noPolicy : ∀ config, db.configurationDB.get? existing.deviceConfiguration = some config →
      config.subscriberOnly = true → idExists db.policyDB config.managementPolicy = false) :
    ∃ left : Referable → List String,
      (∀ kind, left kind ⊆ existing.references kind) ∧
        LedgersAgree
          (Function.update (uses { db with configurationDB := releaseConfiguration db existing })
            ⟨.inventory, existing.info.id⟩ left)
          (ledgers { db with configurationDB := releaseConfiguration db existing }) := by
  have refers : ∀ db' : Store, db'.inventoryDB = db.inventoryDB →
      uses db' ⟨.inventory, existing.info.id⟩ = existing.references := by
    intro db' same
    refine usesOf_of_get? (show db'.inventoryDB.get? existing.info.id = some existing from ?_)
    rw [same, found]
  have untouched : ∀ db' : Store, db'.inventoryDB = db.inventoryDB → ExactLedgers db' →
      ∃ left : Referable → List String, (∀ kind, left kind ⊆ existing.references kind) ∧
        LedgersAgree (Function.update (uses db') ⟨.inventory, existing.info.id⟩ left)
          (ledgers db') := by
    intro db' same exact'
    refine ⟨existing.references, fun kind => List.Subset.refl _, ?_⟩
    rw [← refers db' same, Function.update_eq_self]
    exact exact'
  unfold releaseConfiguration
  split
  · exact untouched _ rfl exact
  · rename_i config isConfig
    split
    · exact untouched _ rfl exact
    · rename_i filled
      split
      · rename_i subscriberOnly
        exact untouched _ rfl (exact.dropConfiguration isConfig
          (noPolicy config isConfig subscriberOnly))
      · let released : Store :=
          { db with
            configurationDB := manipulateVectorMember db.configurationDB
              DeviceConfiguration.inUseMember existing.deviceConfiguration
              ("inv:" ++ existing.info.id) false }
        have sameUses : uses released = uses db :=
          SameReferences.uses_eq
            { configurations := sameView_manipulateVectorMember (fun _ _ => rfl) _ _ _ }
        let device : User := ⟨.inventory, existing.info.id⟩
        let objects : Referable → List String := fun kind =>
          if kind = .configuration then [existing.deviceConfiguration] else []
        have moved : ∀ kind, ledgers released kind =
            UsageLedger.follow (ledgers db kind) (objects kind) [] device.entry := by
          intro kind
          cases kind with
          | configuration => exact memberships_remove existing.deviceConfiguration _
          | policy => rfl
          | location => rfl
          | contact => rfl
        have struck := LedgersAgree.strike exact device objects moved
        rw [← sameUses] at struck
        refine ⟨_, fun kind => ?_, struck⟩
        rw [refers released rfl]
        exact List.filter_subset_self _

/-- A device whose remaining references are a part of what is struck has none left. -/
theorem LedgersAgree.strikeRest {left : Referable → List String} {user : User} {before : Store}
    (agree : LedgersAgree (Function.update (uses before) user left) (ledgers db))
    (objects : Referable → List String) (part : ∀ kind, left kind ⊆ objects kind) {db' : Store}
    (struck : ∀ kind, ledgers db' kind =
      UsageLedger.follow (ledgers db kind) (objects kind) [] user.entry) :
    LedgersAgree (Function.update (uses before) user fun _ => []) (ledgers db') := by
  have rest := agree.strike user objects struck
  rw [Function.update_self, Function.update_idem] at rest
  have none : (fun kind => (left kind).filter fun id => id ∉ objects kind) = fun _ => [] := by
    funext kind
    rw [List.filter_eq_nil_iff]
    intro id member
    simpa using part kind member
  rw [none] at rest
  exact rest

/-- A device that takes nothing leaves what it leaves. -/
theorem ledgers_moveTag_leaving (db : Store) (moves : TagMoves)
    (leaving : ∀ kind, moves.toReferences kind = []) (id : String) (kind : Referable) :
    ledgers (moveTag db moves id) kind =
      UsageLedger.follow (ledgers db kind) (moves.fromReferences kind) []
        (User.entry ⟨.inventory, id⟩) := by
  rw [ledgers_moveTag, leaving]

theorem found_of_inventoryDoDeletePlan {request : Request} {existing : InventoryTag}
    (planned : inventoryDoDeletePlan db request = .ok existing) :
    getBy db.inventoryDB InventoryTag.serialNumber (request.getBinding "serialNumber") =
      some existing := by
  unfold inventoryDoDeletePlan at planned
  dsimp only at planned
  split at planned
  · cases planned
  · rename_i bound isBound
    simp only [bind_eq_ok_iff, require_eq_ok_iff] at planned
    obtain ⟨_, _, _, _, planned⟩ := planned
    obtain rfl := Except.ok.inj planned
    exact isBound

theorem ExactLedgers.inventoryDoDelete (exact : ExactLedgers db) {request : Request}
    (condition : (inventoryDoDelete db request).Succeeds → DeletesConfiguration db request) :
    ExactLedgers (inventoryDoDelete db request).store := by
  cases planned : inventoryDoDeletePlan db request with
  | error failure =>
      simp only [Owprov.inventoryDoDelete, planned]
      exact exact
  | ok existing =>
      simp only [Owprov.inventoryDoDelete, planned] at condition ⊢
      have deletes : DeletesConfiguration db request := condition rfl
      have found := inventoryDoDeletePlan_eq_ok planned
      have isBound := found_of_inventoryDoDeletePlan planned
      obtain ⟨left, part, agree⟩ := agree_releaseConfiguration exact found
        (deletes existing · isBound)
      let unlisted : Store :=
        { db with
          venueDB := removeMembership db.venueDB Venue.configurationsMember existing.venue
            existing.info.id
          entityDB := removeMembership db.entityDB Entity.configurationsMember existing.entity
            existing.info.id
          configurationDB := releaseConfiguration db existing }
      let once : TagMoves :=
        { fromPolicy := existing.managementPolicy
          fromLocation := existing.location
          fromContact := existing.contact }
      have lists : uses unlisted =
          uses { db with configurationDB := releaseConfiguration db existing } :=
        SameReferences.uses_eq
          { venues := sameView_removeMembership (fun _ _ => rfl) _ _
            entities := sameView_removeMembership (fun _ _ => rfl) _ _ }
      rw [← lists] at agree
      have agree' : LedgersAgree
          (Function.update (uses unlisted) ⟨.inventory, existing.info.id⟩ left)
          (ledgers unlisted) := agree
      have released := agree'.strike ⟨.inventory, existing.info.id⟩ once.fromReferences
        (ledgers_moveTag_leaving unlisted once (by rintro ⟨⟩ <;> rfl) existing.info.id)
      rw [Function.update_self, Function.update_idem] at released
      have moved := released.strikeRest existing.departures.fromReferences
        (fun kind id member => by
          have whole := part kind (List.mem_of_mem_filter member)
          cases kind <;> exact whole)
        (ledgers_moveTag_leaving _ existing.departures (by rintro ⟨⟩ <;> rfl) existing.info.id)
      let gone : Store := moveTag (moveTag unlisted once existing.info.id) existing.departures
        existing.info.id
      have sameUses : uses gone = uses unlisted :=
        (uses_moveTag _ _ _).trans (uses_moveTag _ _ _)
      have deleted : uses { gone with inventoryDB := gone.inventoryDB.delete existing.info.id } =
          Function.update (uses unlisted) ⟨.inventory, existing.info.id⟩ fun _ => [] := by
        rw [← sameUses]
        exact uses_inventoryDB (usesOf_delete existing.info.id)
      rw [← deleted] at moved
      exact moved

end Devices

end Owprov
