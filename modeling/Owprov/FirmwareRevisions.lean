import Mathlib.Data.List.Dedup
import Mathlib.Data.String.Basic
import Mathlib.Order.Bounds.Defs
import Owprov.VenueUpgrade

/-!
# The firmware revisions of a venue

With `upgradeAllDevices` and `revisionsAvailable` a venue update answers with the revisions that
all devices of the venue can be upgraded to, by kind.  They come from the lists that the firmware
service has for the types of the devices.
-/

namespace Owprov

open PagedVisits

/-- A firmware with its date. -/
structure DatedFirmware where
  revision : String
  imageDate : ℕ := 0
  deriving DecidableEq, Repr

inductive RevisionType where
  | release
  | releaseCandidate
  | development
  deriving DecidableEq, Repr

/-- `RevisionIdentify`, by what stands after the first slash. -/
def revisionIdentify (revision : String) : RevisionType :=
  match revision.toList.dropWhile (· ≠ '/') with
  | [] => .development
  | _ :: rest =>
      if "TIP-devel-".toList <:+: rest then .development
      else if "-rc".toList <:+: rest then .releaseCandidate
      else if "TIP-v".toList <:+: rest then .release
      else .development

/-- `RevisionDate`. -/
def revisionDate (revision : String) (firmwares : List DatedFirmware) : ℕ :=
  ((firmwares.find? (·.revision == revision)).map DatedFirmware.imageDate).getD 0

/-- The elements of a `std::set` of texts. -/
def orderedSet (texts : List String) : List String :=
  texts.dedup.mergeSort

/-- `AllRevisions`, `AllFMs` and `first_pass`. -/
structure RevisionPass where
  allRevisions : List String := []
  allFMs : List (String × List DatedFirmware) := []
  firstPass : Bool := true

/-- The body of the loop over the device types, in their order, with what the firmware service
lists for a type, if it answers. -/
def RevisionPass.visit (pass : RevisionPass)
    (listing : String × Option (List DatedFirmware)) : RevisionPass :=
  match listing.2 with
  | none => { pass with firstPass := false }
  | some firmwares =>
      let revisions := orderedSet (firmwares.map DatedFirmware.revision)
      { allRevisions :=
          if pass.firstPass then revisions else pass.allRevisions.filter (· ∈ revisions)
        allFMs := pass.allFMs ++ [(listing.1, firmwares)]
        firstPass := false }

/-- The answer, with the date of each revision. -/
structure RevisionOffer where
  releases : List (String × ℕ)
  releasesCandidates : List (String × ℕ)
  developmentReleases : List (String × ℕ)

def RevisionPass.offer (pass : RevisionPass) : RevisionOffer :=
  let dated := pass.allRevisions.map fun revision =>
    (revision, revisionDate revision (pass.allFMs.head?.elim [] Prod.snd))
  { releases := dated.filter fun entry => revisionIdentify entry.1 = .release
    releasesCandidates := dated.filter fun entry => revisionIdentify entry.1 = .releaseCandidate
    developmentReleases := dated.filter fun entry => revisionIdentify entry.1 = .development }

/-- The types of the devices of a venue. -/
def venueDeviceTypes (db : Store) (fuel : ℕ) (venueUuid : String) : Option (List String) :=
  (iterate db.inventoryDB.rows (fun _ tag => tag.venue == venueUuid)
    (fun types tag => (true, types ++ [tag.deviceType])) s!" venue=\x27{venueUuid}\x27 " fuel 0
    []).map fun visited => orderedSet visited.state

/-- The answer to `revisionsAvailable`, unless a list of the firmware service cannot be read,
which throws. -/
def revisionsAvailable (db : Store) (listing : String → Option (Option (List DatedFirmware)))
    (fuel : ℕ) (venueUuid : String) : Option RevisionOffer := do
  let types ← venueDeviceTypes db fuel venueUuid
  let listings ← types.mapM fun type => (listing type).map fun firmwares => (type, firmwares)
  some (listings.foldl RevisionPass.visit {}).offer

/-! ## Ordered sets -/

theorem mem_orderedSet {texts : List String} {text : String} :
    text ∈ orderedSet texts ↔ text ∈ texts := by
  simp [orderedSet]

theorem nodup_orderedSet (texts : List String) : (orderedSet texts).Nodup :=
  (List.mergeSort_perm _ _).nodup_iff.mpr texts.nodup_dedup

/-- The first element is the least. -/
theorem isLeast_of_orderedSet {texts rest : List String} {first : String}
    (ordered : orderedSet texts = first :: rest) : IsLeast {text | text ∈ texts} first := by
  have sorted : (first :: rest).Pairwise fun a b => decide (a ≤ b) = true :=
    ordered ▸ List.pairwise_mergeSort (by simpa using fun _ _ _ => le_trans)
      (by simpa using le_total) _
  refine ⟨mem_orderedSet.mp (by simp [ordered]), fun text member => ?_⟩
  have listed : text ∈ first :: rest := ordered ▸ mem_orderedSet.mpr member
  rcases List.mem_cons.mp listed with rfl | later
  · exact le_refl _
  · exact of_decide_eq_true ((List.pairwise_cons.mp sorted).1 text later)

/-! ## The loop -/

/-- A revision is in every list that the service answers with. -/
def InAnswered (revision : String) (listings : List (String × Option (List DatedFirmware))) :
    Prop :=
  ∀ listing ∈ listings, ∀ firmwares, listing.2 = some firmwares →
    revision ∈ firmwares.map DatedFirmware.revision

theorem inAnswered_cons {revision : String} {listing : String × Option (List DatedFirmware)}
    {listings : List (String × Option (List DatedFirmware))} :
    InAnswered revision (listing :: listings) ↔
      (∀ firmwares, listing.2 = some firmwares →
        revision ∈ firmwares.map DatedFirmware.revision) ∧ InAnswered revision listings :=
  List.forall_mem_cons

/-- Once the first pass is over, lists only take revisions out. -/
theorem mem_allRevisions_visits {pass : RevisionPass} (isOver : pass.firstPass = false)
    (listings : List (String × Option (List DatedFirmware))) (revision : String) :
    revision ∈ (listings.foldl RevisionPass.visit pass).allRevisions ↔
      revision ∈ pass.allRevisions ∧ InAnswered revision listings := by
  induction listings generalizing pass with
  | nil => simp [InAnswered]
  | cons listing listings ih =>
      have visited : (pass.visit listing).firstPass = false := by
        unfold RevisionPass.visit
        split <;> rfl
      rw [List.foldl_cons, ih visited, inAnswered_cons, ← and_assoc]
      refine and_congr_left fun _ => ?_
      unfold RevisionPass.visit
      split
      case h_1 missing => simp [missing]
      case h_2 firmwares answered => simp [answered, isOver, mem_orderedSet]

/-- The first type decides whether there are revisions at all. -/
theorem mem_allRevisions {listings : List (String × Option (List DatedFirmware))}
    {revision : String} :
    revision ∈ (listings.foldl RevisionPass.visit {}).allRevisions ↔
      (∃ type firmwares, listings.head? = some (type, some firmwares)) ∧
        InAnswered revision listings := by
  cases listings with
  | nil => simp
  | cons listing listings =>
      obtain ⟨type, answered⟩ := listing
      cases answered with
      | none =>
          rw [List.foldl_cons, mem_allRevisions_visits rfl]
          simp [RevisionPass.visit]
      | some firmwares =>
          rw [List.foldl_cons, mem_allRevisions_visits rfl, inAnswered_cons]
          simp [RevisionPass.visit, mem_orderedSet]

theorem nodup_allRevisions {pass : RevisionPass} (once : pass.allRevisions.Nodup)
    (listings : List (String × Option (List DatedFirmware))) :
    (listings.foldl RevisionPass.visit pass).allRevisions.Nodup := by
  induction listings generalizing pass with
  | nil => exact once
  | cons listing listings ih =>
      refine ih ?_
      unfold RevisionPass.visit
      split
      case h_1 => exact once
      case h_2 firmwares _ =>
        dsimp only
        split
        · exact nodup_orderedSet _
        · exact once.filter _

theorem allFMs_visits (pass : RevisionPass)
    (listings : List (String × Option (List DatedFirmware))) :
    (listings.foldl RevisionPass.visit pass).allFMs =
      pass.allFMs ++ listings.filterMap fun listing => listing.2.map (listing.1, ·) := by
  induction listings generalizing pass with
  | nil => simp
  | cons listing listings ih =>
      rw [List.foldl_cons, ih]
      obtain ⟨type, answered⟩ := listing
      cases answered with
      | none => simp [RevisionPass.visit]
      | some firmwares => simp [RevisionPass.visit]

/-! ## The answer -/

/-- The revisions of all kinds. -/
def RevisionOffer.all (offer : RevisionOffer) : List (String × ℕ) :=
  offer.releases ++ offer.releasesCandidates ++ offer.developmentReleases

/-- Each revision is of one kind. -/
theorem all_offer_perm (pass : RevisionPass) :
    pass.offer.all.Perm (pass.allRevisions.map fun revision =>
      (revision, revisionDate revision (pass.allFMs.head?.elim [] Prod.snd))) := by
  unfold RevisionOffer.all RevisionPass.offer
  dsimp only
  generalize (pass.allRevisions.map fun revision =>
    (revision, revisionDate revision (pass.allFMs.head?.elim [] Prod.snd))) = dated
  induction dated with
  | nil => rfl
  | cons entry dated ih =>
      cases kind : revisionIdentify entry.1 with
      | release => simpa [kind] using ih
      | releaseCandidate =>
          refine List.Perm.trans ?_ (ih.cons entry)
          simp [kind]
      | development =>
          refine List.Perm.trans ?_ (ih.cons entry)
          have moved := @List.perm_middle _ entry
            (dated.filter (fun entry => revisionIdentify entry.1 = .release) ++
              dated.filter fun entry => revisionIdentify entry.1 = .releaseCandidate)
            (dated.filter fun entry => revisionIdentify entry.1 = .development)
          simpa [kind] using moved

/-- A revision of a list has the date of a firmware of it. -/
theorem revisionDate_mem {revision : String} {firmwares : List DatedFirmware}
    (listed : revision ∈ firmwares.map DatedFirmware.revision) :
    ⟨revision, revisionDate revision firmwares⟩ ∈ firmwares := by
  unfold revisionDate
  cases found : firmwares.find? (·.revision == revision) with
  | none =>
      obtain ⟨firmware, member, same⟩ := List.mem_map.mp listed
      exact absurd (List.find?_eq_none.mp found firmware member) (by simp [same])
  | some firmware =>
      have same : firmware.revision = revision := by simpa using List.find?_some found
      subst same
      exact List.mem_of_find?_eq_some found

/-- The types of the devices of a venue. -/
def venueTypes (db : Store) (venueUuid : String) : Set String :=
  {type | ∃ tag ∈ db.inventoryDB.rows, tag.venue = venueUuid ∧ tag.deviceType = type}

theorem venueDeviceTypes_eq (db : Store) (venueUuid : String) {fuel : ℕ}
    (enough : db.inventoryDB.rows.length < 50 * fuel) :
    venueDeviceTypes db fuel venueUuid = some (orderedSet
      ((db.inventoryDB.rows.filter (·.venue == venueUuid)).map InventoryTag.deviceType)) := by
  have opened : toString " venue=\x27" ≠ "" := by decide
  unfold venueDeviceTypes
  rw [iterate_eq_visit _ _ _ enough, Option.map_some, visit_listed, List.nil_append, selectRows,
    if_neg (by simp [opened])]

theorem mem_venueTypes_iff {db : Store} {venueUuid type : String} :
    type ∈ (db.inventoryDB.rows.filter (·.venue == venueUuid)).map InventoryTag.deviceType ↔
      type ∈ venueTypes db venueUuid := by
  simp [venueTypes, and_assoc]

/-- A venue is offered, once each, the revisions that are in every list that the firmware service
answers with for the types of its devices, if it answers for the first of the types; otherwise it
is offered none.  The dates are those of the first type. -/
theorem revisions_offered {db : Store} {venueUuid : String} {fuel : ℕ}
    {listing : String → Option (Option (List DatedFirmware))}
    {answers : String → Option (List DatedFirmware)}
    (enough : db.inventoryDB.rows.length < 50 * fuel)
    (readable : ∀ type ∈ venueTypes db venueUuid, listing type = some (answers type)) :
    ∃ offer, revisionsAvailable db listing fuel venueUuid = some offer ∧
      (∀ revision, revision ∈ offer.all.map Prod.fst ↔
        (∃ first, IsLeast (venueTypes db venueUuid) first ∧ (answers first).isSome) ∧
          ∀ type ∈ venueTypes db venueUuid, ∀ firmwares, answers type = some firmwares →
            revision ∈ firmwares.map DatedFirmware.revision) ∧
      (offer.all.map Prod.fst).Nodup ∧
      ∀ first firmwares, IsLeast (venueTypes db venueUuid) first →
        answers first = some firmwares → ∀ entry ∈ offer.all, ⟨entry.1, entry.2⟩ ∈ firmwares := by
  have types_eq : {type | type ∈ (db.inventoryDB.rows.filter (·.venue == venueUuid)).map
      InventoryTag.deviceType} = venueTypes db venueUuid :=
    Set.ext fun _ => mem_venueTypes_iff
  generalize isTypes : orderedSet ((db.inventoryDB.rows.filter (·.venue == venueUuid)).map
    InventoryTag.deviceType) = types
  have mem_types : ∀ type, type ∈ types ↔ type ∈ venueTypes db venueUuid := fun type => by
    rw [← isTypes, mem_orderedSet, mem_venueTypes_iff]
  have first_iff : ∀ first, IsLeast (venueTypes db venueUuid) first ↔
      types.head? = some first := by
    intro first
    cases types with
    | nil => simpa using fun isFirst : IsLeast (venueTypes db venueUuid) first =>
        List.not_mem_nil ((mem_types first).mpr isFirst.1)
    | cons least rest =>
        have isLeast : IsLeast (venueTypes db venueUuid) least :=
          types_eq ▸ isLeast_of_orderedSet isTypes
        rw [List.head?_cons, Option.some.injEq]
        exact ⟨fun isFirst => isLeast.unique isFirst, fun same => same ▸ isLeast⟩
  let listings := types.map fun type => (type, answers type)
  have listed : ((types.map id).mapM fun type =>
      (listing type).map fun firmwares => (type, firmwares)) = some listings :=
    OptionLists.mapM_map_eq_some fun type member => by
      simp [readable type ((mem_types type).mp member)]
  rw [List.map_id] at listed
  let pass := listings.foldl RevisionPass.visit {}
  have same := all_offer_perm pass
  have names : (pass.offer.all.map Prod.fst).Perm pass.allRevisions := by
    simpa [Function.comp_def] using same.map Prod.fst
  have in_iff : ∀ revision, InAnswered revision listings ↔
      ∀ type ∈ venueTypes db venueUuid, ∀ firmwares, answers type = some firmwares →
        revision ∈ firmwares.map DatedFirmware.revision := by
    intro revision
    simp only [InAnswered, listings, List.forall_mem_map, mem_types]
  have mem_iff : ∀ revision, revision ∈ pass.allRevisions ↔
      (∃ first, IsLeast (venueTypes db venueUuid) first ∧ (answers first).isSome) ∧
        ∀ type ∈ venueTypes db venueUuid, ∀ firmwares, answers type = some firmwares →
          revision ∈ firmwares.map DatedFirmware.revision := by
    intro revision
    rw [mem_allRevisions, in_iff]
    refine and_congr_left fun _ => ?_
    simp only [first_iff, listings, List.head?_map]
    cases types.head? with
    | none => simp
    | some first => simp [Option.isSome_iff_exists]
  refine ⟨pass.offer, ?_, fun revision => ?_, ?_, ?_⟩
  · unfold revisionsAvailable
    rw [venueDeviceTypes_eq db venueUuid enough, isTypes]
    simp [listed, pass]
  · rw [names.mem_iff, mem_iff]
  · exact names.nodup_iff.mpr (nodup_allRevisions List.nodup_nil listings)
  · intro first firmwares isFirst answered entry member
    obtain ⟨revision, isRevision, rfl⟩ := List.mem_map.mp (same.mem_iff.mp member)
    have head : listings.head? = some (first, some firmwares) := by
      rw [List.head?_map, (first_iff first).mp isFirst, Option.map_some, answered]
    obtain ⟨others, isCons⟩ := List.head?_eq_some_iff.mp head
    have lists : pass.allFMs.head?.elim [] Prod.snd = firmwares := by
      rw [allFMs_visits, isCons]
      simp
    rw [lists]
    exact revisionDate_mem (((mem_iff revision).mp isRevision).2 first isFirst.1 firmwares answered)

/-- A venue with one device. -/
def oneModel : Store :=
  { initialStore with
    inventoryDB := RowTable.Table.singleton
      { info := { id := "t-1" }, serialNumber := "aabbccddeeff", deviceType := "eap101",
        venue := "v-1" } }

/-- The firmwares of the device. -/
def modelFirmwares : List DatedFirmware :=
  [{ revision := "OpenWrt / TIP-v2.1", imageDate := 5 },
    { revision := "OpenWrt / TIP-v2.2-rc1", imageDate := 6 }]

theorem revisions_of_one_model : ∃ offer,
    revisionsAvailable oneModel (fun _ => some (some modelFirmwares)) 1 "v-1" = some offer ∧
      "OpenWrt / TIP-v2.2-rc1" ∈ offer.all.map Prod.fst := by
  obtain ⟨offer, isOffer, offered, -⟩ := @revisions_offered oneModel "v-1" 1
    (fun _ => some (some modelFirmwares)) (fun _ => some modelFirmwares) (by decide)
    fun _ _ => rfl
  have only : ∀ type, type ∈ venueTypes oneModel "v-1" ↔ type = "eap101" := by
    simp [venueTypes, oneModel, RowTable.Table.singleton, eq_comm]
  refine ⟨offer, isOffer, (offered _).mpr ⟨⟨"eap101", ⟨(only _).mpr rfl, ?_⟩, rfl⟩, ?_⟩⟩
  · intro type member
    exact ((only type).mp member).ge
  · rintro type - firmwares ⟨⟩
    decide

end Owprov
