import Owprov.Lib.ReadModifyWrite
import Owprov.OperatorLinks

/-!
# Concurrent updates of the vectors of a record

`ManipulateVectorMember` reads a whole record with `GetRecord` and writes it back with
`UpdateRecord`.  The requests of several threads may come in between, for the same vector or for
another one of the record.
-/

namespace Owprov

open RowTable ReadModifyWrite

/-! ## Calls -/

/-- The vectors of a kind of record, which are members of their own. -/
structure RecordVectors (α ν : Type) [Keyed α String] where
  member : ν → VectorMember α
  apart : ∀ vector other, vector ≠ other → ∀ ids row,
    (member vector).get ((member other).set ids row) = (member vector).get row
  set_get : ∀ vector row, (member vector).set ((member vector).get row) row = row

/-- The vectors of an entity that other records are listed in. -/
inductive EntityVector where
  | children
  | venues
  | locations
  | devices
  | configurations
  | managementRoles

def Entity.vectors : RecordVectors Entity EntityVector where
  member
    | .children => Entity.childrenMember
    | .venues => Entity.venuesMember
    | .locations => Entity.locationsMember
    | .devices => Entity.devicesMember
    | .configurations => Entity.configurationsMember
    | .managementRoles => Entity.managementRolesMember
  apart vector other differ _ _ := by
    cases vector <;> cases other <;> first | rfl | exact absurd rfl differ
  set_get vector _ := by
    cases vector <;> rfl

/-- The vectors of a venue that other records are listed in. -/
inductive VenueVector where
  | children
  | devices
  | configurations
  | managementRoles

def Venue.vectors : RecordVectors Venue VenueVector where
  member
    | .children => Venue.childrenMember
    | .devices => Venue.devicesMember
    | .configurations => Venue.configurationsMember
    | .managementRoles => Venue.managementRolesMember
  apart vector other differ _ _ := by
    cases vector <;> cases other <;> first | rfl | exact absurd rfl differ
  set_get vector _ := by
    cases vector <;> rfl

/-- The only vector of a kind of record, such as the `inUse` of the policies. -/
def RecordVectors.only {α : Type} [Keyed α String] (member : VectorMember α)
    (set_get : ∀ row, member.set (member.get row) row = row) : RecordVectors α Unit where
  member _ := member
  apart _ _ differ := absurd rfl differ
  set_get _ := set_get

def ManagementPolicy.vectors : RecordVectors ManagementPolicy Unit :=
  .only ManagementPolicy.inUseMember fun _ => rfl

def Contact.vectors : RecordVectors Contact Unit :=
  .only Contact.inUseMember fun _ => rfl

def Location.vectors : RecordVectors Location Unit :=
  .only Location.inUseMember fun _ => rfl

def DeviceConfiguration.vectors : RecordVectors DeviceConfiguration Unit :=
  .only DeviceConfiguration.inUseMember fun _ => rfl

/-- The arguments of `ManipulateVectorMember`. -/
structure VectorCall (ν : Type) where
  vector : ν
  parentUUID : String
  childUUID : String
  add : Bool

namespace VectorCall

variable {α ν : Type} [Keyed α String] (vectors : RecordVectors α ν)

/-- What the call makes of the record that it read, unless there is nothing to change. -/
def manipulate (call : VectorCall ν) (R : α) : Option α :=
  let member := vectors.member call.vector
  if call.add then
    if call.childUUID ∈ member.get R then
      none
    else
      some (member.set ((member.get R ++ [call.childUUID]).insertionSort (· ≤ ·)) R)
  else
    if call.childUUID ∈ member.get R then
      some (member.set ((member.get R).erase call.childUUID) R)
    else
      none

/-- `ManipulateVectorMember` with its `GetRecord` and its `UpdateRecord` apart. -/
def steps (call : VectorCall ν) : Call (Table α) α where
  fetch table := table.get? call.parentUUID
  revise := call.manipulate vectors
  store R table := table.update R

/-- `ManipulateVectorMember` in one piece. -/
def perform (call : VectorCall ν) (table : Table α) : Table α :=
  manipulateVectorMember table (vectors.member call.vector) call.parentUUID call.childUUID call.add

/-- A call adds what another one removed, or removes what it added. -/
def Undoes (other call : VectorCall ν) : Prop :=
  other.vector = call.vector ∧ other.parentUUID = call.parentUUID ∧
    other.childUUID = call.childUUID ∧ other.add ≠ call.add

variable {vectors}

/-- Nothing to write is the same as writing what was read. -/
theorem manipulate_eq_none {call : VectorCall ν} {R : α}
    (unchanged : call.manipulate vectors R = none) :
    (vectors.member call.vector).set
      (manipulateVector ((vectors.member call.vector).get R) call.childUUID call.add) R = R := by
  have kept : manipulateVector ((vectors.member call.vector).get R) call.childUUID call.add =
      (vectors.member call.vector).get R := by
    unfold manipulate at unchanged
    dsimp only at unchanged
    unfold manipulateVector
    by_cases adds : call.add = true
    · rw [if_pos adds] at unchanged
      by_cases present : call.childUUID ∈ (vectors.member call.vector).get R
      · rw [if_pos adds, if_pos present]
      · rw [if_neg present] at unchanged
        cases unchanged
    · rw [if_neg adds] at unchanged
      by_cases present : call.childUUID ∈ (vectors.member call.vector).get R
      · rw [if_pos present] at unchanged
        cases unchanged
      · rw [if_neg adds, List.erase_of_not_mem present]
  rw [kept, vectors.set_get]

theorem manipulate_eq_some {call : VectorCall ν} {R R' : α}
    (changed : call.manipulate vectors R = some R') :
    R' = (vectors.member call.vector).set
      (manipulateVector ((vectors.member call.vector).get R) call.childUUID call.add) R := by
  unfold manipulate at changed
  dsimp only at changed
  unfold manipulateVector
  by_cases adds : call.add = true
  · rw [if_pos adds] at changed
    by_cases present : call.childUUID ∈ (vectors.member call.vector).get R
    · rw [if_pos present] at changed
      cases changed
    · rw [if_neg present] at changed
      rw [if_pos adds, if_neg present]
      exact (Option.some.inj changed).symm
  · rw [if_neg adds] at changed
    by_cases present : call.childUUID ∈ (vectors.member call.vector).get R
    · rw [if_pos present] at changed
      rw [if_neg adds]
      exact (Option.some.inj changed).symm
    · rw [if_neg present] at changed
      cases changed

/-- The two steps in a row are the function in one piece. -/
theorem run_steps (call : VectorCall ν) (table : Table α) :
    (call.steps vectors).run table = call.perform vectors table := by
  unfold Call.run perform manipulateVectorMember Table.modify
  dsimp only [steps]
  cases found : table.get? call.parentUUID with
  | none => rw [Option.bind_none]
  | some R =>
      rw [Option.bind_some]
      cases changed : call.manipulate vectors R with
      | none =>
          dsimp only
          rw [manipulate_eq_none changed, Table.update_self (Table.mem_of_get? found)]
      | some R' =>
          dsimp only
          rw [manipulate_eq_some changed]

end VectorCall

/-! ## Serial executions -/

/-- The outcome of calls that are executed one after the other.  What the last call on a child
has done to it holds in the end. -/
structure SerialOutcome {α ν : Type} [Keyed α String] (vectors : RecordVectors α ν)
    (calls : List (VectorCall ν)) (table table' : Table α) : Prop where
  result : table' = calls.foldl (fun table call => call.perform vectors table) table
  added : ∀ before call after, calls = before ++ call :: after → call.add = true →
    (∀ other ∈ after, ¬ VectorCall.Undoes other call) →
    ∀ row, table'.get? call.parentUUID = some row →
      call.childUUID ∈ (vectors.member call.vector).get row
  removed : ∀ before call after, calls = before ++ call :: after → call.add = false →
    (∀ other ∈ after, ¬ VectorCall.Undoes other call) →
    (∀ row, table.get? call.parentUUID = some row →
      ((vectors.member call.vector).get row).Nodup) →
    ∀ row, table'.get? call.parentUUID = some row →
      call.childUUID ∉ (vectors.member call.vector).get row

namespace VectorCall

variable {α ν : Type} [Keyed α String] {vectors : RecordVectors α ν} {table : Table α}

/-- What a call does to a vector of a record. -/
theorem get?_perform [DecidableEq ν] (vectors : RecordVectors α ν) (call : VectorCall ν)
    (table : Table α) (vector : ν) (parentUUID : String) :
    ((call.perform vectors table).get? parentUUID).map (vectors.member vector).get =
      if parentUUID = call.parentUUID ∧ vector = call.vector then
        ((table.get? parentUUID).map (vectors.member vector).get).map fun ids =>
          manipulateVector ids call.childUUID call.add
      else
        (table.get? parentUUID).map (vectors.member vector).get := by
  rw [perform, get?_manipulateVectorMember]
  by_cases sameParent : parentUUID = call.parentUUID
  · subst sameParent
    rw [if_pos rfl, Option.map_map]
    by_cases sameVector : vector = call.vector
    · subst sameVector
      rw [if_pos ⟨rfl, rfl⟩, Option.map_map]
      congr 1
      funext row
      exact (vectors.member call.vector).get_set _ _
    · rw [if_neg fun both => sameVector both.2]
      congr 1
      funext row
      exact vectors.apart _ _ sameVector _ _
  · rw [if_neg sameParent, if_neg fun both => sameParent both.1]

/-- What a vector of a record satisfies, if the record exists. -/
def Satisfies (vectors : RecordVectors α ν) (table : Table α) (vector : ν) (parentUUID : String)
    (property : List String → Prop) : Prop :=
  ∀ row, table.get? parentUUID = some row → property ((vectors.member vector).get row)

theorem Satisfies.perform {call : VectorCall ν} {vector : ν} {parentUUID : String}
    {property property' : List String → Prop}
    (satisfies : Satisfies vectors table vector parentUUID property)
    (changed : parentUUID = call.parentUUID → vector = call.vector →
      ∀ ids, property ids → property' (manipulateVector ids call.childUUID call.add))
    (kept : ¬ (parentUUID = call.parentUUID ∧ vector = call.vector) →
      ∀ ids, property ids → property' ids) :
    Satisfies vectors (call.perform vectors table) vector parentUUID property' := by
  classical
  intro row found
  have view := get?_perform vectors call table vector parentUUID
  rw [found, Option.map_some] at view
  by_cases same : parentUUID = call.parentUUID ∧ vector = call.vector
  · rw [if_pos same] at view
    obtain ⟨ids, isIds, becomes⟩ := Option.map_eq_some_iff.mp view.symm
    obtain ⟨old, isOld, rfl⟩ := Option.map_eq_some_iff.mp isIds
    rw [← becomes]
    exact changed same.1 same.2 _ (satisfies old isOld)
  · rw [if_neg same] at view
    obtain ⟨old, isOld, stays⟩ := Option.map_eq_some_iff.mp view.symm
    rw [← stays]
    exact kept same _ (satisfies old isOld)

/-- What every call keeps, all of them keep. -/
theorem Satisfies.foldl {vector : ν} {parentUUID : String} {property : List String → Prop}
    (calls : List (VectorCall ν))
    (changed : ∀ call ∈ calls, parentUUID = call.parentUUID → vector = call.vector →
      ∀ ids, property ids → property (manipulateVector ids call.childUUID call.add))
    (satisfies : Satisfies vectors table vector parentUUID property) :
    Satisfies vectors (calls.foldl (fun table call => call.perform vectors table) table) vector
      parentUUID property := by
  induction calls generalizing table with
  | nil => exact satisfies
  | cons call calls ih =>
      rw [List.foldl_cons]
      apply ih
      · exact fun other member => changed other (List.mem_cons_of_mem _ member)
      · exact satisfies.perform (changed call List.mem_cons_self) fun _ _ holds => holds

/-- A call that does not remove a child leaves it in its vector. -/
theorem mem_of_not_undoes {call other : VectorCall ν} (adds : call.add = true)
    (apart : ¬ other.Undoes call) (sameParent : call.parentUUID = other.parentUUID)
    (sameVector : call.vector = other.vector) (ids : List String)
    (present : call.childUUID ∈ ids) :
    call.childUUID ∈ manipulateVector ids other.childUUID other.add := by
  cases otherAdds : other.add with
  | true => exact (mem_manipulateVector_add ids _ _).mpr (Or.inl present)
  | false =>
      have differ : call.childUUID ≠ other.childUUID := by
        intro sameChild
        refine apart ⟨sameVector.symm, sameParent.symm, sameChild.symm, ?_⟩
        rw [otherAdds, adds]
        decide
      exact (List.mem_erase_of_ne differ).mpr present

/-- A call that does not add a child leaves it out of its vector. -/
theorem not_mem_of_not_undoes {call other : VectorCall ν} (removes : call.add = false)
    (apart : ¬ other.Undoes call) (sameParent : call.parentUUID = other.parentUUID)
    (sameVector : call.vector = other.vector) (ids : List String)
    (absent : call.childUUID ∉ ids) :
    call.childUUID ∉ manipulateVector ids other.childUUID other.add := by
  cases otherAdds : other.add with
  | true =>
      have differ : call.childUUID ≠ other.childUUID := by
        intro sameChild
        refine apart ⟨sameVector.symm, sameParent.symm, sameChild.symm, ?_⟩
        rw [otherAdds, removes]
        decide
      rw [mem_manipulateVector_add]
      exact fun present => present.elim absent differ
  | false => exact fun present => absent (List.mem_of_mem_erase present)

theorem serialOutcome (vectors : RecordVectors α ν) (calls : List (VectorCall ν))
    (table : Table α) :
    SerialOutcome vectors calls table
      (calls.foldl (fun table call => call.perform vectors table) table) := by
  constructor
  case result => rfl
  case added =>
    rintro before call after rfl adds last
    rw [List.foldl_append, List.foldl_cons]
    have anything : Satisfies vectors
        (before.foldl (fun table call => call.perform vectors table) table) call.vector
        call.parentUUID fun _ => True := fun _ _ => trivial
    have present : Satisfies vectors
        (call.perform vectors
          (before.foldl (fun table call => call.perform vectors table) table))
        call.vector call.parentUUID fun ids => call.childUUID ∈ ids := by
      refine anything.perform ?_ ?_
      · intro _ _ ids _
        rw [adds]
        exact (mem_manipulateVector_add ids _ _).mpr (Or.inr rfl)
      · exact fun other => absurd ⟨rfl, rfl⟩ other
    exact present.foldl after fun other member => mem_of_not_undoes adds (last other member)
  case removed =>
    rintro before call after rfl removes last nodup
    rw [List.foldl_append, List.foldl_cons]
    have nodup' : Satisfies vectors
        (before.foldl (fun table call => call.perform vectors table) table) call.vector
        call.parentUUID List.Nodup :=
      Satisfies.foldl before (fun _ _ _ _ _ nodup => nodup_manipulateVector nodup _ _) nodup
    have absent : Satisfies vectors
        (call.perform vectors
          (before.foldl (fun table call => call.perform vectors table) table))
        call.vector call.parentUUID fun ids => call.childUUID ∉ ids := by
      refine nodup'.perform ?_ ?_
      · intro _ _ ids nodup
        rw [removes, mem_manipulateVector_remove nodup]
        exact fun present => present.2 rfl
      · exact fun other => absurd ⟨rfl, rfl⟩ other
    exact absent.foldl after fun other member => not_mem_of_not_undoes removes (last other member)

end VectorCall

/-! ## Concurrent executions -/

/-- The calls have the outcome of some serial execution. -/
def NoLostUpdate {α ν : Type} [Keyed α String] (vectors : RecordVectors α ν) {n : ℕ}
    (calls : Fin n → VectorCall ν) (table table' : Table α) : Prop :=
  ∃ order : List (VectorCall ν), order.Perm (List.ofFn calls) ∧
    SerialOutcome vectors order table table'

/-- The interleavings of calls on the records of a table, which start with a `GetRecord` each. -/
def Interleaving {α ν : Type} [Keyed α String] (vectors : RecordVectors α ν) {n : ℕ}
    (calls : Fin n → VectorCall ν) (condition : Call (Table α) α → α → Table α → Prop)
    (table : Table α) (state : State (Table α) α (Fin n)) : Prop :=
  Relation.ReflTransGen (Step (fun i => (calls i).steps vectors) condition)
    (State.initial table) state

/-- As long as every `UpdateRecord` finds the record as its `GetRecord` did, no update is
lost. -/
theorem no_lost_update_of_run {α ν : Type} [Keyed α String] (vectors : RecordVectors α ν) {n : ℕ}
    (calls : Fin n → VectorCall ν) (table : Table α) (state : State (Table α) α (Fin n))
    (run : Interleaving vectors calls Current table state) (finished : state.Finished) :
    NoLostUpdate vectors calls table state.store := by
  obtain ⟨order, perm, result⟩ := serial_of_run run finished
  have serial : state.store =
      (order.map calls).foldl (fun table call => call.perform vectors table) table := by
    rw [result, serially, List.foldl_map]
    simp only [VectorCall.run_steps]
  refine ⟨order.map calls, ?_, ?_⟩
  · rw [List.ofFn_eq_map]
    exact perm.map calls
  · rw [serial]
    exact VectorCall.serialOutcome vectors _ table

/-! ### Two vectors of one record -/

/-- A new venue and a new entity below the root. -/
def rootCalls : Fin 2 → VectorCall EntityVector
  | 0 => { vector := .venues, parentUUID := rootUUID, childUUID := "v-1", add := true }
  | 1 => { vector := .children, parentUUID := rootUUID, childUUID := "e-1", add := true }

/-- The root with a venue and an entity below it. -/
def rootEntity (venues children : List String) : Entity :=
  { info := { id := rootUUID, name := "Top Entity" }
    deviceRules := { rrm := "off" }
    venues := venues
    children := children }

/-- Both calls read the root, and each writes it back with its own child. -/
theorem venue_lost :
    ¬ ∀ state, Interleaving Entity.vectors rootCalls (fun _ _ _ => True) initialStore.entityDB
        state → state.Finished →
      NoLostUpdate Entity.vectors rootCalls initialStore.entityDB state.store := by
  intro claim
  have run : Interleaving Entity.vectors rootCalls (fun _ _ _ => True) initialStore.entityDB _ :=
    .tail (.tail (.tail (.single (.fetch _ 0 rfl)) (.fetch _ 1 rfl))
      (.store _ 0 (rootEntity [] []) (rootEntity ["v-1"] []) rfl rfl trivial))
      (.store _ 1 (rootEntity [] []) (rootEntity [] ["e-1"]) rfl rfl trivial)
  obtain ⟨order, perm, serial⟩ := claim _ run fun i => match i with
    | 0 => rfl
    | 1 => rfl
  have adds : ∀ call ∈ order, call.add = true := by
    intro call member
    obtain ⟨i, rfl⟩ := (List.mem_ofFn' _ _).mp (perm.mem_iff.mp member)
    match i with
    | 0 => rfl
    | 1 => rfl
  have first : rootCalls 0 ∈ order := by
    rw [perm.mem_iff, List.mem_ofFn']
    exact ⟨0, rfl⟩
  obtain ⟨before, after, split⟩ := List.append_of_mem first
  have last : ∀ other ∈ after, ¬ VectorCall.Undoes other (rootCalls 0) := by
    rintro other member ⟨_, _, _, differ⟩
    apply differ
    rw [adds other (by simp [split, member])]
    rfl
  have listed := serial.added before (rootCalls 0) after split rfl last
    (rootEntity [] ["e-1"]) rfl
  cases listed

/-- One after the other, both children are listed. -/
theorem root_updates_kept :
    ∃ table, (table.rows.map fun entity => (entity.venues, entity.children)) =
        [(["v-1"], ["e-1"])] ∧
      NoLostUpdate Entity.vectors rootCalls initialStore.entityDB table := by
  have run : Interleaving Entity.vectors rootCalls Current initialStore.entityDB _ :=
    .tail (.tail (.tail (.single (.fetch _ 0 rfl))
      (.store _ 0 (rootEntity [] []) (rootEntity ["v-1"] []) rfl rfl rfl))
      (.fetch _ 1 rfl))
      (.store _ 1 (rootEntity ["v-1"] []) (rootEntity ["v-1"] ["e-1"]) rfl rfl rfl)
  exact ⟨_, rfl, no_lost_update_of_run Entity.vectors rootCalls initialStore.entityDB _ run
    fun i => match i with
      | 0 => rfl
      | 1 => rfl⟩

end Owprov
