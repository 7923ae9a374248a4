import Owprov.ScopeAgreement
import Owprov.VenueForest
import Owprov.VisibleScopes

/-!
# The order of the roles and the entity tree

The tree of a user shows the visible records below the visible roots, and at each node its
devices when the first role that decides about the node allows reading the inventory.  Its
shape depends on the visible sets only; the devices depend on the order of the roles where
the roles that may decide differ.
-/

namespace Owprov

open AcyclicRelation MarkedTraversal OptionLists RowTable StateTransition

/-! ## The nodes of the tree -/

/-- A record that may be a node of the tree. -/
inductive ScopeRef where
  | entity (id : String)
  | venue (id : String)
  deriving DecidableEq, Repr

namespace Visible

variable (db : Store) (visible : Visible)

/-- The records that the node of a record goes on with. -/
def subnodes : ScopeRef → List ScopeRef
  | .entity id =>
      match visible.entityRecord db id with
      | none => []
      | some entity =>
          entity.children.map .entity ++ (visible.topVenues db entity).map .venue
  | .venue id =>
      match visible.venueRecord db id with
      | none => []
      | some venue => venue.children.map .venue

def roots : List ScopeRef :=
  (visible.rootEntities db).map .entity ++ (visible.rootVenues db).map .venue

/-- The devices of a visible record. -/
def devicesAt : ScopeRef → List String
  | .entity id => ((visible.entityRecord db id).map Entity.devices).getD []
  | .venue id => ((visible.venueRecord db id).map Venue.devices).getD []

/-- The record has a node. -/
def hasNode : ScopeRef → Bool
  | .entity id => (visible.entityRecord db id).isSome
  | .venue id => (visible.venueRecord db id).isSome

def Below (above below : ScopeRef) : Prop :=
  below ∈ visible.subnodes db above

/-- The record is a node of the tree or a missing child of one. -/
def Shown (node : ScopeRef) : Prop :=
  ∃ root ∈ visible.roots db, Relation.ReflTransGen (visible.Below db) root node

/-- The recursion below the roots ends. -/
def TreeEnds : Prop :=
  ∀ root ∈ visible.roots db, Acc (Function.swap (visible.Below db)) root

variable {db visible}

theorem subnodes_entity {id : String} {entity : Entity}
    (found : visible.entityRecord db id = some entity) :
    visible.subnodes db (.entity id) =
      entity.children.map .entity ++ (visible.topVenues db entity).map .venue := by
  simp [subnodes, found]

theorem subnodes_venue {id : String} {venue : Venue}
    (found : visible.venueRecord db id = some venue) :
    visible.subnodes db (.venue id) = venue.children.map .venue := by
  simp [subnodes, found]

theorem devicesAt_entity {id : String} {entity : Entity}
    (found : visible.entityRecord db id = some entity) :
    visible.devicesAt db (.entity id) = entity.devices := by
  simp [devicesAt, found]

theorem devicesAt_venue {id : String} {venue : Venue}
    (found : visible.venueRecord db id = some venue) :
    visible.devicesAt db (.venue id) = venue.devices := by
  simp [devicesAt, found]

end Visible

/-- The node of either kind of record. -/
def buildNode (db : Store) (visible : Visible) (canRead : ScopeRef → Bool) (fuel : ℕ) :
    ScopeRef → Option (Option ScopeNode)
  | .entity id =>
      buildEntityNode db visible (fun venueId => canRead (.venue venueId))
        (fun entityId => canRead (.entity entityId)) fuel id
  | .venue id => buildVenueNode db visible (fun venueId => canRead (.venue venueId)) fuel id

section Nodes

variable {db : Store} {visible : Visible} {canRead other : ScopeRef → Bool} {fuel : ℕ}

theorem buildNode_venue (venueId : String) :
    buildNode db visible canRead (fuel + 1) (.venue venueId) =
      match visible.venueRecord db venueId with
      | none => some none
      | some venue =>
          (venue.children.mapM fun child => buildNode db visible canRead fuel (.venue child)).map
            fun children => some (.venue venue.info.name venue.info.id children.reduceOption
              (if canRead (.venue venueId) then venue.devices else [])) := by
  unfold buildNode
  dsimp only
  rw [buildVenueNode]
  cases visible.venueRecord db venueId with
  | none => rfl
  | some venue =>
      dsimp only
      cases venue.children.mapM (buildVenueNode db visible _ fuel) <;> rfl

theorem buildNode_entity (entityId : String) :
    buildNode db visible canRead (fuel + 1) (.entity entityId) =
      match visible.entityRecord db entityId with
      | none => some none
      | some entity =>
          (entity.children.mapM fun child =>
            buildNode db visible canRead fuel (.entity child)).bind fun children =>
          ((visible.topVenues db entity).mapM fun venue =>
            buildNode db visible canRead fuel (.venue venue)).map fun venues =>
          some (.entity entity.info.name entity.info.id children.reduceOption venues.reduceOption
            (if canRead (.entity entityId) then entity.devices else [])) := by
  unfold buildNode
  dsimp only
  rw [buildEntityNode]
  cases visible.entityRecord db entityId with
  | none => rfl
  | some entity =>
      dsimp only
      cases entity.children.mapM (buildEntityNode db visible _ _ fuel) with
      | none => rfl
      | some children =>
          dsimp only [Option.bind_some, Option.bind_eq_bind]
          cases (visible.topVenues db entity).mapM (buildVenueNode db visible _ fuel) <;> rfl

theorem buildNode_zero (node : ScopeRef) : buildNode db visible canRead 0 node = none := by
  cases node <;> rfl

/-- A missing node depends on the visible records only. -/
theorem buildNode_eq_some_none_iff (node : ScopeRef) :
    buildNode db visible canRead fuel node = some none ↔
      fuel ≠ 0 ∧ visible.hasNode db node = false := by
  cases fuel with
  | zero => simp [buildNode_zero]
  | succ fuel =>
      cases node with
      | entity id =>
          rw [buildNode_entity, Visible.hasNode]
          cases visible.entityRecord db id with
          | none => simp
          | some entity => simp [Option.bind_eq_some_iff]
      | venue id =>
          rw [buildNode_venue, Visible.hasNode]
          cases visible.venueRecord db id <;> simp

theorem buildNode_isSome_succ (node : ScopeRef) :
    (buildNode db visible canRead (fuel + 1) node).isSome ↔
      ∀ below, visible.Below db node below →
        (buildNode db visible canRead fuel below).isSome := by
  unfold Visible.Below
  cases node with
  | entity id =>
      rw [buildNode_entity, Visible.subnodes]
      cases visible.entityRecord db id with
      | none => simp
      | some entity =>
          have parts : ∀ {β γ δ : Type} (first : Option β) (second : Option γ) (f : β → γ → δ),
              (first.bind fun x => second.map (f x)).isSome ↔
                first.isSome ∧ second.isSome := by
            intro β γ δ first second f
            cases first <;> simp
          rw [parts, mapM_isSome_iff, mapM_isSome_iff]
          simp [or_imp, forall_and]
  | venue id =>
      rw [buildNode_venue, Visible.subnodes]
      cases visible.venueRecord db id with
      | none => simp
      | some venue => simp [mapM_isSome_iff]

theorem buildNode_isSome_iff (node : ScopeRef) :
    (∃ fuel, (buildNode db visible canRead fuel node).isSome) ↔
      Acc (Function.swap (visible.Below db)) node := by
  refine exists_stops_iff_acc (visible.Below db)
    (fun fuel node => (buildNode db visible canRead fuel node).isSome) ?_ ?_ ?_
  · simp [buildNode_zero]
  · exact fun fuel node => buildNode_isSome_succ node
  · exact fun node => ⟨visible.subnodes db node, fun _ => Iff.rfl⟩

/-- What a node lists agrees between two readers exactly when they agree, unless there is
nothing to list. -/
theorem devices_eq_iff {devices : List String} {first second : Bool} :
    (if first then devices else []) = (if second then devices else []) ↔
      (devices ≠ [] → first = second) := by
  cases first <;> cases second <;> simp [eq_comm]

/-- The nodes are equal when both readers agree wherever there are devices. -/
theorem buildNode_congr (node : ScopeRef)
    (agree : ∀ below, Relation.ReflTransGen (visible.Below db) node below →
      visible.devicesAt db below ≠ [] → canRead below = other below) :
    buildNode db visible canRead fuel node = buildNode db visible other fuel node := by
  induction fuel generalizing node with
  | zero => rw [buildNode_zero, buildNode_zero]
  | succ fuel ih =>
      have deeper : ∀ below ∈ visible.subnodes db node,
          buildNode db visible canRead fuel below = buildNode db visible other fuel below :=
        fun below isBelow => ih below fun further path => agree further (.head isBelow path)
      have here := agree node .refl
      cases node with
      | entity id =>
          rw [buildNode_entity, buildNode_entity]
          cases found : visible.entityRecord db id with
          | none => rfl
          | some entity =>
              rw [Visible.subnodes_entity found] at deeper
              rw [Visible.devicesAt_entity found] at here
              have children := mapM_eq_of_forall fun child member =>
                deeper _ (List.mem_append_left _ (List.mem_map_of_mem (f := ScopeRef.entity) member))
              have venues := mapM_eq_of_forall fun venue member =>
                deeper _ (List.mem_append_right _ (List.mem_map_of_mem (f := ScopeRef.venue) member))
              dsimp only
              rw [children, venues, devices_eq_iff.mpr here]
      | venue id =>
          rw [buildNode_venue, buildNode_venue]
          cases found : visible.venueRecord db id with
          | none => rfl
          | some venue =>
              rw [Visible.subnodes_venue found] at deeper
              rw [Visible.devicesAt_venue found] at here
              have children := mapM_eq_of_forall fun child member =>
                deeper _ (List.mem_map_of_mem (f := ScopeRef.venue) member)
              dsimp only
              rw [children, devices_eq_iff.mpr here]

theorem buildNode_none_congr (item : ScopeRef) :
    buildNode db visible canRead fuel item = some none ↔
      buildNode db visible other fuel item = some none := by
  rw [buildNode_eq_some_none_iff, buildNode_eq_some_none_iff]

/-- Equal nodes have equal nodes below them, and list the same devices. -/
theorem buildNode_succ_inj (node : ScopeRef)
    (ends : (buildNode db visible canRead (fuel + 1) node).isSome)
    (same : buildNode db visible canRead (fuel + 1) node =
      buildNode db visible other (fuel + 1) node) :
    (∀ below ∈ visible.subnodes db node,
      buildNode db visible canRead fuel below = buildNode db visible other fuel below) ∧
    (visible.devicesAt db node ≠ [] → canRead node = other node) := by
  cases node with
  | entity id =>
      rw [buildNode_entity] at ends
      rw [buildNode_entity, buildNode_entity] at same
      cases found : visible.entityRecord db id with
      | none => simp [Visible.subnodes, Visible.devicesAt, found]
      | some entity =>
          rw [found] at ends same
          dsimp only at ends same
          rw [Visible.subnodes_entity found, Visible.devicesAt_entity found]
          obtain ⟨node, built⟩ := Option.isSome_iff_exists.mp ends
          rw [built] at same
          obtain ⟨xs, children, built⟩ := Option.bind_eq_some_iff.mp built
          obtain ⟨vs, venues, rfl⟩ := Option.map_eq_some_iff.mp built
          obtain ⟨ys, children', built'⟩ := Option.bind_eq_some_iff.mp same.symm
          obtain ⟨ws, venues', equal⟩ := Option.map_eq_some_iff.mp built'
          injection equal with equal
          injection equal with _ _ sameChildren sameVenues sameDevices
          constructor
          · intro below isBelow
            rcases List.mem_append.mp isBelow with isChild | isVenue
            · obtain ⟨child, member, rfl⟩ := List.mem_map.mp isChild
              exact eq_of_reduceOption_eq children children'
                (fun item _ => buildNode_none_congr (.entity item)) sameChildren.symm child member
            · obtain ⟨venue, member, rfl⟩ := List.mem_map.mp isVenue
              exact eq_of_reduceOption_eq venues venues'
                (fun item _ => buildNode_none_congr (.venue item)) sameVenues.symm venue member
          · exact devices_eq_iff.mp sameDevices.symm
  | venue id =>
      rw [buildNode_venue] at ends
      rw [buildNode_venue, buildNode_venue] at same
      cases found : visible.venueRecord db id with
      | none => simp [Visible.subnodes, Visible.devicesAt, found]
      | some venue =>
          rw [found] at ends same
          dsimp only at ends same
          rw [Visible.subnodes_venue found, Visible.devicesAt_venue found]
          obtain ⟨node, built⟩ := Option.isSome_iff_exists.mp ends
          rw [built] at same
          obtain ⟨xs, children, rfl⟩ := Option.map_eq_some_iff.mp built
          obtain ⟨ys, children', equal⟩ := Option.map_eq_some_iff.mp same.symm
          injection equal with equal
          injection equal with _ _ sameChildren sameDevices
          constructor
          · intro below isBelow
            obtain ⟨child, member, rfl⟩ := List.mem_map.mp isBelow
            exact eq_of_reduceOption_eq children children'
              (fun item _ => buildNode_none_congr (.venue item)) sameChildren.symm child member
          · exact devices_eq_iff.mp sameDevices.symm

/-- Equal nodes come from readers that agree wherever there are devices. -/
theorem agree_of_buildNode_eq (node : ScopeRef)
    (ends : (buildNode db visible canRead fuel node).isSome)
    (same : buildNode db visible canRead fuel node = buildNode db visible other fuel node)
    {below : ScopeRef} (path : Relation.ReflTransGen (visible.Below db) node below)
    (filled : visible.devicesAt db below ≠ []) : canRead below = other below := by
  induction fuel generalizing node with
  | zero =>
      rw [buildNode_zero] at ends
      cases ends
  | succ fuel ih =>
      obtain ⟨sameBelow, here⟩ := buildNode_succ_inj node ends same
      rcases path.cases_head with rfl | ⟨next, isBelow, further⟩
      · exact here filled
      · exact ih next ((buildNode_isSome_succ node).mp ends next isBelow)
          (sameBelow next isBelow) further

theorem buildNode_mono {more : ℕ} (enough : fuel ≤ more) {node : ScopeRef}
    (ends : (buildNode db visible canRead fuel node).isSome) :
    (buildNode db visible canRead more node).isSome :=
  stops_mono (visible.Below db)
    (fun fuel node => (buildNode db visible canRead fuel node).isSome)
    (fun node => by simp [buildNode_zero]) (fun _ node => buildNode_isSome_succ node) enough ends

variable (canRead) in
theorem exists_buildNode_isSome (ends : visible.TreeEnds db) :
    ∃ fuel, ∀ root ∈ visible.roots db, (buildNode db visible canRead fuel root).isSome :=
  exists_stops_of_forall (visible.Below db)
    (fun fuel node => (buildNode db visible canRead fuel node).isSome)
    (fun node => by simp [buildNode_zero]) (fun _ node => buildNode_isSome_succ node)
    fun root isRoot => (buildNode_isSome_iff root).mpr (ends root isRoot)

end Nodes

/-! ## Reading the inventory -/

/-- A role that may be the first one to decide whether the devices of a node are shown. -/
def decides (db : Store) (roles : List ManagementRole) : ScopeRef → ManagementRole → Bool
  | .entity eId, role => role.entity == eId && role.venue == ""
  | .venue vId, role =>
      if roles.any fun other => other.venue == vId then
        role.venue == vId
      else
        match db.venueDB.get? vId with
        | none => false
        | some ven => ven.entity != "" && (role.entity == ven.entity && role.venue == "")

/-- The roles that may decide about a node agree. -/
def Caller.ReadersAgree (db : Store) (caller : Caller) (node : ScopeRef) : Prop :=
  ∀ first ∈ caller.roles, ∀ second ∈ caller.roles, decides db caller.roles node first = true →
    decides db caller.roles node second = true →
      caller.checkRolePolicy "inventory" .get first =
        caller.checkRolePolicy "inventory" .get second

/-- Whether the devices of a node are shown. -/
def canReadInventory (db : Store) (caller : Caller) (node : ScopeRef) : Bool :=
  match caller.roles.find? (decides db caller.roles node) with
  | none => false
  | some role => caller.checkRolePolicy "inventory" .get role

section Readers

variable {db : Store} {caller : Caller}

theorem canReadInventoryOnEntity_eq (eId : String) :
    canReadInventoryOnEntity caller eId = canReadInventory db caller (.entity eId) := by
  unfold canReadInventoryOnEntity canReadInventory decides
  cases caller.roles.find? _ <;> rfl

theorem canReadInventoryOnVenue_eq (vId : String) :
    canReadInventoryOnVenue db caller vId = canReadInventory db caller (.venue vId) := by
  unfold canReadInventoryOnVenue canReadInventory decides
  by_cases specific : caller.roles.any (fun other => other.venue == vId) = true
  · simp only [specific, if_true]
    cases found : caller.roles.find? fun role => role.venue == vId with
    | some role => rfl
    | none =>
        rw [List.find?_eq_none] at found
        obtain ⟨role, member, onVenue⟩ := List.any_eq_true.mp specific
        exact absurd onVenue (found role member)
  · have noneOn : caller.roles.find? (fun role => role.venue == vId) = none := by
      rw [List.find?_eq_none]
      exact fun role member onVenue => specific (List.any_eq_true.mpr ⟨role, member, onVenue⟩)
    rw [noneOn]
    simp only [specific]
    have noRole : caller.roles.find? (fun _ => false) = none :=
      List.find?_eq_none.mpr fun _ _ impossible => Bool.noConfusion impossible
    cases db.venueDB.get? vId with
    | none => simp [noRole]
    | some ven =>
        by_cases filled : ven.entity = ""
        · simp [filled, noRole]
        · have isFilled : (ven.entity != "") = true := bne_iff_ne.mpr filled
          simp only [isFilled, Bool.true_and, ne_eq, filled, not_false_eq_true, if_true,
            Bool.false_eq_true, if_false]
          cases caller.roles.find? fun role => role.entity == ven.entity && role.venue == "" <;> rfl

/-- A role that decides in one order of the roles does in another. -/
theorem decides_perm {roles : List ManagementRole} (perm : roles.Perm caller.roles) :
    decides db roles = decides db caller.roles := by
  funext node role
  cases node with
  | entity eId => rfl
  | venue vId =>
      have sameAny : (roles.any fun other => other.venue == vId) =
          caller.roles.any fun other => other.venue == vId := by
        rw [Bool.eq_iff_iff, List.any_eq_true, List.any_eq_true]
        simp only [perm.mem_iff]
      simp only [decides, sameAny]

/-- What the first deciding role says is the same in every order when the roles agree. -/
theorem canReadInventory_perm_iff (node : ScopeRef) :
    (∀ roles, roles.Perm caller.roles →
      canReadInventory db (caller.withRoles roles) node = canReadInventory db caller node) ↔
    caller.ReadersAgree db node := by
  constructor
  · intro same
    have decided : ∀ role ∈ caller.roles, decides db caller.roles node role = true →
        caller.checkRolePolicy "inventory" .get role = canReadInventory db caller node := by
      intro role member decider
      obtain ⟨before, after, split⟩ := List.append_of_mem member
      have perm : (role :: (before ++ after)).Perm caller.roles := by
        rw [split]
        exact List.perm_middle.symm
      rw [← same _ perm]
      unfold canReadInventory Caller.withRoles
      rw [decides_perm perm, List.find?_cons_of_pos decider]
      rfl
    intro first isFirst second isSecond decidesFirst decidesSecond
    rw [decided first isFirst decidesFirst, decided second isSecond decidesSecond]
  · intro agree roles perm
    unfold canReadInventory Caller.withRoles
    rw [decides_perm perm]
    cases here : roles.find? (decides db caller.roles node) with
    | none =>
        have nowhere : caller.roles.find? (decides db caller.roles node) = none := by
          rw [List.find?_eq_none] at here ⊢
          exact fun role member => here role (perm.mem_iff.mpr member)
        rw [nowhere]
    | some first =>
        cases there : caller.roles.find? (decides db caller.roles node) with
        | none =>
            rw [List.find?_eq_none] at there
            exact absurd (List.find?_some here)
              (there first (perm.mem_iff.mp (List.mem_of_find?_eq_some here)))
        | some second =>
            exact agree first (perm.mem_iff.mp (List.mem_of_find?_eq_some here)) second
              (List.mem_of_find?_eq_some there) (List.find?_some here) (List.find?_some there)

end Readers

/-! ## The tree -/

theorem scopeTree_inj {entities entities' venues venues' : List ScopeNode}
    (sameEntities : entities.length = entities'.length)
    (sameVenues : venues.length = venues'.length)
    (same : scopeTree entities venues = scopeTree entities' venues') :
    entities = entities' ∧ venues = venues' := by
  match entities, entities', sameEntities with
  | [], [], _ =>
      match venues, venues', sameVenues with
      | [], [], _ => exact ⟨rfl, rfl⟩
      | [v], [w], _ => simpa [scopeTree] using same
      | v :: v₂ :: vs, w :: w₂ :: ws, _ => simpa [scopeTree] using same
  | [e], [f], _ =>
      match venues, venues', sameVenues with
      | [], [], _ => simpa [scopeTree] using same
      | v :: vs, w :: ws, _ => simpa [scopeTree] using same
  | e :: e₂ :: es, f :: f₂ :: fs, _ => simpa [scopeTree] using same

section Tree

variable {db : Store} {caller : Caller} {visible : Visible} {fuel : ℕ}

private theorem bind_pure_eq_map {α β γ : Type} (first : Option α) (second : Option β)
    (f : α → β → γ) :
    (do let a ← first; let b ← second; return f a b) =
      first.bind fun a => second.map (f a) := by
  cases first <;> cases second <;> rfl

theorem buildScopeTree_eq : buildScopeTree db caller visible fuel =
    ((visible.rootEntities db).mapM fun id =>
      buildNode db visible (canReadInventory db caller) fuel (.entity id)).bind fun entities =>
    ((visible.rootVenues db).mapM fun id =>
      buildNode db visible (canReadInventory db caller) fuel (.venue id)).map fun venues =>
    scopeTree entities.reduceOption venues.reduceOption := by
  have onVenue : canReadInventoryOnVenue db caller =
      fun id => canReadInventory db caller (.venue id) := funext canReadInventoryOnVenue_eq
  have onEntity : canReadInventoryOnEntity caller =
      fun id => canReadInventory db caller (.entity id) := funext canReadInventoryOnEntity_eq
  unfold buildScopeTree buildNode
  rw [onVenue, onEntity]
  exact bind_pure_eq_map _ _ _

theorem buildScopeTree_isSome_iff : (buildScopeTree db caller visible fuel).isSome ↔
    ∀ root ∈ visible.roots db,
      (buildNode db visible (canReadInventory db caller) fuel root).isSome := by
  rw [buildScopeTree_eq]
  constructor
  · intro built root isRoot
    obtain ⟨tree, built⟩ := Option.isSome_iff_exists.mp built
    obtain ⟨entities, ofEntities, built⟩ := Option.bind_eq_some_iff.mp built
    obtain ⟨venues, ofVenues, _⟩ := Option.map_eq_some_iff.mp built
    rcases List.mem_append.mp isRoot with isEntity | isVenue
    · obtain ⟨id, member, rfl⟩ := List.mem_map.mp isEntity
      exact mapM_isSome_iff.mp (Option.isSome_of_eq_some ofEntities) id member
    · obtain ⟨id, member, rfl⟩ := List.mem_map.mp isVenue
      exact mapM_isSome_iff.mp (Option.isSome_of_eq_some ofVenues) id member
  · intro each
    obtain ⟨entities, ofEntities⟩ := Option.isSome_iff_exists.mp (mapM_isSome
      fun id member => each _ (List.mem_append_left _
        (List.mem_map_of_mem (f := ScopeRef.entity) member)))
    obtain ⟨venues, ofVenues⟩ := Option.isSome_iff_exists.mp (mapM_isSome
      fun id member => each _ (List.mem_append_right _
        (List.mem_map_of_mem (f := ScopeRef.venue) member)))
    rw [ofEntities, Option.bind_some, ofVenues]
    rfl

/-- The trees of two callers are equal when both read the inventory of the same nodes with
devices. -/
theorem buildScopeTree_congr {other : Caller}
    (agree : ∀ node, visible.Shown db node → visible.devicesAt db node ≠ [] →
      canReadInventory db caller node = canReadInventory db other node) :
    buildScopeTree db caller visible fuel = buildScopeTree db other visible fuel := by
  have ofRoot : ∀ root ∈ visible.roots db,
      buildNode db visible (canReadInventory db caller) fuel root =
        buildNode db visible (canReadInventory db other) fuel root :=
    fun root isRoot => buildNode_congr root fun below path => agree below ⟨root, isRoot, path⟩
  have entities := mapM_eq_of_forall fun id member =>
    ofRoot _ (List.mem_append_left _ (List.mem_map_of_mem (f := ScopeRef.entity) member))
  have venues := mapM_eq_of_forall fun id member =>
    ofRoot _ (List.mem_append_right _ (List.mem_map_of_mem (f := ScopeRef.venue) member))
  rw [buildScopeTree_eq, buildScopeTree_eq, entities, venues]

theorem treeEnds_of_buildScopeTree_isSome
    (built : (buildScopeTree db caller visible fuel).isSome) : visible.TreeEnds db :=
  fun root isRoot =>
    (buildNode_isSome_iff root).mp ⟨fuel, buildScopeTree_isSome_iff.mp built root isRoot⟩

/-- Equal trees come from callers that read the inventory of the same nodes with devices. -/
theorem agree_of_buildScopeTree_eq {other : Caller}
    (built : (buildScopeTree db caller visible fuel).isSome)
    (same : buildScopeTree db caller visible fuel = buildScopeTree db other visible fuel)
    {node : ScopeRef} (shown : visible.Shown db node)
    (filled : visible.devicesAt db node ≠ []) :
    canReadInventory db caller node = canReadInventory db other node := by
  have ends := buildScopeTree_isSome_iff.mp built
  have ofRoot : ∀ root ∈ visible.roots db,
      buildNode db visible (canReadInventory db caller) fuel root =
        buildNode db visible (canReadInventory db other) fuel root := by
    obtain ⟨tree, isTree⟩ := Option.isSome_iff_exists.mp built
    rw [isTree] at same
    rw [buildScopeTree_eq] at isTree same
    obtain ⟨entities, ofEntities, rest⟩ := Option.bind_eq_some_iff.mp isTree
    obtain ⟨venues, ofVenues, rfl⟩ := Option.map_eq_some_iff.mp rest
    obtain ⟨entities', ofEntities', rest'⟩ := Option.bind_eq_some_iff.mp same.symm
    obtain ⟨venues', ofVenues', equal⟩ := Option.map_eq_some_iff.mp rest'
    have missing : ∀ node : ScopeRef,
        buildNode db visible (canReadInventory db other) fuel node = some none ↔
          buildNode db visible (canReadInventory db caller) fuel node = some none :=
      fun node => buildNode_none_congr node
    have missingEntities := fun id (_ : id ∈ visible.rootEntities db) => missing (.entity id)
    have missingVenues := fun id (_ : id ∈ visible.rootVenues db) => missing (.venue id)
    obtain ⟨sameEntities, sameVenues⟩ := scopeTree_inj
      (length_reduceOption_eq ofEntities' ofEntities missingEntities)
      (length_reduceOption_eq ofVenues' ofVenues missingVenues) equal
    intro root isRoot
    rcases List.mem_append.mp isRoot with isEntity | isVenue
    · obtain ⟨id, member, rfl⟩ := List.mem_map.mp isEntity
      exact (eq_of_reduceOption_eq ofEntities' ofEntities missingEntities sameEntities
        id member).symm
    · obtain ⟨id, member, rfl⟩ := List.mem_map.mp isVenue
      exact (eq_of_reduceOption_eq ofVenues' ofVenues missingVenues sameVenues id member).symm
  obtain ⟨root, isRoot, path⟩ := shown
  exact agree_of_buildNode_eq root (ends root isRoot) (ofRoot root isRoot) path filled

end Tree

/-! ## The order of the roles -/

/-- The entity list handler answers alike for every order of the caller's roles. -/
def OrderIndependent (db : Store) (caller : Caller) : Prop :=
  ∀ roles, roles.Perm caller.roles → ∀ getTree fuel,
    entityListDoGet db (caller.withRoles roles) getTree fuel =
      entityListDoGet db caller getTree fuel

/-- The devices of the tree are settled: at each node with devices, the roles that may decide
agree. -/
def Caller.DevicesSettled (db : Store) (caller : Caller) : Prop :=
  ∀ visible, caller.Sees db visible → visible.TreeEnds db →
    ∀ node, visible.Shown db node → visible.devicesAt db node ≠ [] → caller.ReadersAgree db node

section Order

variable {db : Store} {caller : Caller} {fuel : ℕ} {roles : List ManagementRole}

theorem entityListDoGet_nonRoot (nonRoot : caller.NonRoot) (getTree : Bool) :
    entityListDoGet db caller getTree fuel =
      (visibleScopes db caller fuel).bind fun visible =>
        if getTree then (buildScopeTree db caller visible fuel).map .tree
        else some (.scopes visible.entities visible.venues) := by
  unfold entityListDoGet
  rw [if_neg nonRoot]
  cases visibleScopes db caller fuel with
  | none => rfl
  | some visible =>
      cases getTree with
      | false => rfl
      | true =>
          dsimp only [Option.bind_some, Option.bind_eq_bind, if_true]
          cases buildScopeTree db caller visible fuel <;> rfl

/-- Answers with the same sets come from the same visible sets, as the hidden venues do not
depend on the order of the roles. -/
theorem visibleScopes_eq_of_answer
    (ends : ∀ role ∈ caller.roles, (roleGrant db caller fuel role).isSome)
    (perm : roles.Perm caller.roles) (nonRoot : caller.NonRoot)
    (same : entityListDoGet db (caller.withRoles roles) false fuel =
      entityListDoGet db caller false fuel) :
    visibleScopes db (caller.withRoles roles) fuel = visibleScopes db caller fuel := by
  have endsToo : ∀ role ∈ (caller.withRoles roles).roles,
      (roleGrant db (caller.withRoles roles) fuel role).isSome :=
    fun role member => ends role (perm.mem_iff.mp member)
  rw [entityListDoGet_nonRoot nonRoot,
    entityListDoGet_nonRoot (show (caller.withRoles roles).NonRoot from nonRoot),
    visibleScopes_eq ends, visibleScopes_eq endsToo] at same
  rw [visibleScopes_eq ends, visibleScopes_eq endsToo]
  have hidden : hiddenVenues db (caller.withRoles roles) (caller.withRoles roles).roles =
      hiddenVenues db caller caller.roles := hiddenVenues_perm perm
  injection same with same
  injection same with sameEntities sameVenues
  dsimp only at sameEntities sameVenues
  rw [Option.some.injEq, Visible.mk.injEq]
  exact ⟨sameEntities, sameVenues, hidden⟩

theorem orderIndependent_of_settled
    (settled : caller.NonRoot → caller.AscentsEnd db →
      caller.VenuesSettled db ∧ caller.DevicesSettled db) :
    OrderIndependent db caller := by
  intro roles perm getTree fuel
  by_cases isRoot : caller.user.userRole = .root
  · unfold entityListDoGet
    rw [if_pos isRoot, if_pos (show (caller.withRoles roles).user.userRole = .root from isRoot)]
  · have nonRoot : caller.NonRoot := isRoot
    rw [entityListDoGet_nonRoot nonRoot,
      entityListDoGet_nonRoot (show (caller.withRoles roles).NonRoot from nonRoot)]
    by_cases ends : ∀ role ∈ caller.roles, (roleGrant db caller fuel role).isSome
    · obtain ⟨venues, devices⟩ := settled nonRoot (exists_roleGrants_end.mp ⟨fuel, ends⟩)
      rw [(visibleScopes_perm_iff ends).mpr venues roles perm]
      cases computed : visibleScopes db caller fuel with
      | none => rfl
      | some visible =>
          have sees := sees_of_visibleScopes ends venues computed
          have sameTree : buildScopeTree db (caller.withRoles roles) visible fuel =
              buildScopeTree db caller visible fuel := by
            by_cases treeEnds : visible.TreeEnds db
            · apply buildScopeTree_congr
              intro node shown filled
              have agree := devices visible sees treeEnds node shown filled
              exact (canReadInventory_perm_iff node).mpr agree roles perm
            · have never : ∀ other : Caller, buildScopeTree db other visible fuel = none :=
                fun other => Option.not_isSome_iff_eq_none.mp
                  (mt treeEnds_of_buildScopeTree_isSome treeEnds)
              rw [never, never]
          rw [Option.bind_some, Option.bind_some, sameTree]
    · push Not at ends
      obtain ⟨role, isRole, endless⟩ := ends
      have isNone : roleGrant db caller fuel role = none :=
        Option.not_isSome_iff_eq_none.mp (by simpa using endless)
      have here : visibleScopes db caller fuel = none :=
        visibleScopes_eq_none ⟨role, isRole, isNone⟩
      have there : visibleScopes db (caller.withRoles roles) fuel = none :=
        visibleScopes_eq_none ⟨role, perm.mem_iff.mpr isRole, isNone⟩
      rw [here, there]
      rfl

theorem settled_of_orderIndependent (independent : OrderIndependent db caller)
    (nonRoot : caller.NonRoot) (ascents : caller.AscentsEnd db) :
    caller.VenuesSettled db ∧ caller.DevicesSettled db := by
  obtain ⟨forScopes, ends⟩ := exists_roleGrants_end.mpr ascents
  have sameScopes : ∀ fuel, (∀ role ∈ caller.roles, (roleGrant db caller fuel role).isSome) →
      ∀ roles, roles.Perm caller.roles →
        visibleScopes db (caller.withRoles roles) fuel = visibleScopes db caller fuel :=
    fun fuel ends roles perm =>
      visibleScopes_eq_of_answer ends perm nonRoot (independent roles perm false fuel)
  have venues := (visibleScopes_perm_iff ends).mp (sameScopes forScopes ends)
  refine ⟨venues, ?_⟩
  intro visible sees treeEnds node shown filled
  obtain ⟨forTree, builds⟩ := exists_buildNode_isSome (canReadInventory db caller) treeEnds
  -- enough fuel for the sets and for the tree
  let fuel := max forScopes forTree
  have ends' : ∀ role ∈ caller.roles, (roleGrant db caller fuel role).isSome :=
    fun role isRole => roleGrant_isSome_mono (Nat.le_max_left _ _) (ends role isRole)
  have built : (buildScopeTree db caller visible fuel).isSome :=
    buildScopeTree_isSome_iff.mpr fun root isRoot =>
      buildNode_mono (Nat.le_max_right _ _) (builds root isRoot)
  have computed : visibleScopes db caller fuel = some visible := by
    rw [visibleScopes_eq ends']
    have seesToo := sees_of_visibleScopes ends' venues (visibleScopes_eq ends')
    rw [seesToo.eq sees]
  rw [← canReadInventory_perm_iff]
  intro roles perm
  have same := independent roles perm true fuel
  rw [entityListDoGet_nonRoot nonRoot,
    entityListDoGet_nonRoot (show (caller.withRoles roles).NonRoot from nonRoot),
    sameScopes fuel ends' roles perm, computed] at same
  have sameTree : buildScopeTree db caller visible fuel =
      buildScopeTree db (caller.withRoles roles) visible fuel := by
    apply Option.map_injective (f := EntityListing.tree) (fun _ _ equal => by
      injection equal)
    exact same.symm
  exact (agree_of_buildScopeTree_eq built sameTree shown filled).symm

/-- The entity list does not depend on the order of the caller's roles exactly when, for a
caller who is not root and whose ways up end, the roles settle which venues are visible and,
at each node of a tree that ends, whether the devices are shown. -/
theorem orderIndependent_iff (db : Store) (caller : Caller) :
    OrderIndependent db caller ↔
      (caller.NonRoot → caller.AscentsEnd db →
        caller.VenuesSettled db ∧ caller.DevicesSettled db) :=
  ⟨settled_of_orderIndependent, orderIndependent_of_settled⟩

end Order

/-- A caller with a role on one of two venues and a role on their entity. -/
def overlappingCaller : Caller where
  user := { id := "user", userRole := .admin }
  roles := [roleOn (unaryId 16) (unaryId 21) "full", roleOn (unaryId 16) "" "full"]
  policy := fun _ => some fullPolicy

/-- With the role on the venue first, the entity is taken for expanded and its other venue is
not shown. -/
theorem other_venue_shown_in_one_order : ¬ OrderIndependent twoVenues overlappingCaller := by
  intro independent
  have same := visibleScopes_eq_of_answer (by decide) (List.Perm.swap _ _ _)
    (fun isRoot => by cases isRoot) (independent _ (List.Perm.swap _ _ _) false 2)
  revert same
  decide

end Owprov
