import Owprov.RecordFields

/-!
# Rows of the stored records

The records of the provisioning database with all their fields: the object that the API shows of
each, and the two conversions between it and the columns of its row.  Row columns are in the order
of their positions.
-/

namespace Owprov.Stored

open JsonValues

structure ObjectInfo where
  id : String := ""
  name : String := ""
  description : String := ""
  notes : List NoteInfo := []
  created : UInt64 := 0
  modified : UInt64 := 0
  tags : List UInt64 := []
  deriving Repr

def ObjectInfo.toJson (info : ObjectInfo) (obj : Members) : Members :=
  obj
    |>.set "id" (.str info.id)
    |>.set "name" (.str info.name)
    |>.set "description" (.str info.description)
    |>.set "created" (ofUInt64 info.created)
    |>.set "modified" (ofUInt64 info.modified)
    |>.set "notes" (ofObjects NoteInfo.toJson info.notes)
    |>.set "tags" (ofTags info.tags)

/-! ## Enumerations -/

inductive LocationType where
  | service
  | equipment
  | auto
  | manual
  | special
  | unknown
  | corporate
  deriving DecidableEq, Repr

/-- `to_string` of a location type. -/
def LocationType.toText : LocationType → String
  | .service => "SERVICE"
  | .equipment => "EQUIPMENT"
  | .auto => "AUTO"
  | .manual => "MANUAL"
  | .special => "SPECIAL"
  | .unknown => "UNKNOWN"
  | .corporate => "CORPORATE"

def locationFromString (text : String) : LocationType :=
  if icompare text "SERVICE" then .service
  else if icompare text "EQUIPMENT" then .equipment
  else if icompare text "AUTO" then .auto
  else if icompare text "MANUAL" then .manual
  else if icompare text "SPECIAL" then .special
  else if icompare text "UNKNOWN" then .unknown
  else if icompare text "CORPORATE" then .corporate
  else .unknown

theorem locationFromString_toText (type : LocationType) :
    locationFromString type.toText = type := by
  cases type <;> decide

inductive ContactType where
  | subscriber
  | user
  | installer
  | csr
  | manager
  | businessowner
  | technician
  | corporate
  | unknown
  deriving DecidableEq, Repr

/-- `to_string` of a contact type. -/
def ContactType.toText : ContactType → String
  | .subscriber => "SUBSCRIBER"
  | .user => "USER"
  | .installer => "INSTALLER"
  | .csr => "CSR"
  | .manager => "MANAGER"
  | .businessowner => "BUSINESSOWNER"
  | .technician => "TECHNICIAN"
  | .corporate => "CORPORATE"
  | .unknown => "UNKNOWN"

/-- The type of a contact; no text is read as a manager. -/
def contactFromString (text : String) : ContactType :=
  if icompare text "SUBSCRIBER" then .subscriber
  else if icompare text "USER" then .user
  else if icompare text "INSTALLER" then .installer
  else if icompare text "CSR" then .csr
  else if icompare text "BUSINESSOWNER" then .businessowner
  else if icompare text "TECHNICIAN" then .technician
  else if icompare text "CORPORATE" then .corporate
  else if icompare text "UNKNOWN" then .unknown
  else .unknown

theorem contactFromString_toText (type : ContactType) :
    contactFromString type.toText = if type = .manager then .unknown else type := by
  cases type <;> decide

/-! ## Records and rows -/

structure Contact where
  info : ObjectInfo := {}
  type : ContactType := .user
  title : String := ""
  salutation : String := ""
  firstname : String := ""
  lastname : String := ""
  initials : String := ""
  visual : String := ""
  mobiles : List String := []
  phones : List String := []
  primaryEmail : String := ""
  secondaryEmail : String := ""
  accessPIN : String := ""
  inUse : List String := []
  entity : String := ""
  managementPolicy : String := ""
  deriving Repr

def Contact.toJson (record : Contact) (obj : Members) : Members :=
  record.info.toJson obj
    |>.set "type" (.str record.type.toText)
    |>.set "title" (.str record.title)
    |>.set "salutation" (.str record.salutation)
    |>.set "firstname" (.str record.firstname)
    |>.set "lastname" (.str record.lastname)
    |>.set "initials" (.str record.initials)
    |>.set "visual" (.str record.visual)
    |>.set "mobiles" (ofStrings record.mobiles)
    |>.set "phones" (ofStrings record.phones)
    |>.set "primaryEmail" (.str record.primaryEmail)
    |>.set "secondaryEmail" (.str record.secondaryEmail)
    |>.set "accessPIN" (.str record.accessPIN)
    |>.set "inUse" (ofStrings record.inUse)
    |>.set "entity" (.str record.entity)
    |>.set "managementPolicy" (.str record.managementPolicy)

abbrev ContactDBRecordType :=
  String × String × String × String × UInt64 × UInt64 × String × String × String × String ×
    String × String × String × String × String × String × String × String × String × String ×
    String × String

def Contact.toRow (poco : Poco) (record : Contact) : ContactDBRecordType :=
  (record.info.id, record.info.name, record.info.description,
   poco.objectsToString NoteInfo.toJson record.info.notes, record.info.created,
   record.info.modified, record.type.toText, record.title, record.salutation, record.firstname,
   record.lastname, record.initials, record.visual, poco.stringsToString record.mobiles,
   poco.stringsToString record.phones, record.primaryEmail, record.secondaryEmail,
   record.accessPIN, poco.stringsToString record.inUse, poco.tagsToString record.info.tags,
   record.managementPolicy, record.entity)

def Contact.ofRow (poco : Poco) : ContactDBRecordType → Contact → Option Contact
  | (c0, c1, c2, c3, c4, c5, c6, c7, c8, c9, c10, c11, c12, c13, c14, c15, c16, c17, c18, c19,
     c20, c21), out =>
      some { out with
        info := { out.info with
          id := c0, name := c1, description := c2,
          notes := poco.toObjectArray (NoteInfo.fromJson poco) c3, created := c4, modified := c5,
          tags := poco.toTaglist c19 }
        type := contactFromString c6, title := c7, salutation := c8, firstname := c9,
        lastname := c10, initials := c11, visual := c12, mobiles := poco.toStringArray c13,
        phones := poco.toStringArray c14, primaryEmail := c15, secondaryEmail := c16,
        accessPIN := c17, inUse := poco.toStringArray c18, managementPolicy := c20, entity := c21 }

structure Location where
  info : ObjectInfo := {}
  type : LocationType := .service
  buildingName : String := ""
  addressLines : List String := []
  city : String := ""
  state : String := ""
  postal : String := ""
  country : String := ""
  phones : List String := []
  mobiles : List String := []
  geoCode : String := ""
  inUse : List String := []
  entity : String := ""
  managementPolicy : String := ""
  timezone : String := ""
  deriving Repr

def Location.toJson (record : Location) (obj : Members) : Members :=
  record.info.toJson obj
    |>.set "type" (.str record.type.toText)
    |>.set "buildingName" (.str record.buildingName)
    |>.set "addressLines" (ofStrings record.addressLines)
    |>.set "city" (.str record.city)
    |>.set "state" (.str record.state)
    |>.set "postal" (.str record.postal)
    |>.set "country" (.str record.country)
    |>.set "phones" (ofStrings record.phones)
    |>.set "mobiles" (ofStrings record.mobiles)
    |>.set "geoCode" (.str record.geoCode)
    |>.set "inUse" (ofStrings record.inUse)
    |>.set "entity" (.str record.entity)
    |>.set "managementPolicy" (.str record.managementPolicy)
    |>.set "timezone" (.str record.timezone)

abbrev LocationDBRecordType :=
  String × String × String × String × UInt64 × UInt64 × String × String × String × String ×
    String × String × String × String × String × String × String × String × String × String ×
    String

def Location.toRow (poco : Poco) (record : Location) : LocationDBRecordType :=
  (record.info.id, record.info.name, record.info.description,
   poco.objectsToString NoteInfo.toJson record.info.notes, record.info.created,
   record.info.modified, record.type.toText, record.buildingName,
   poco.stringsToString record.addressLines, record.city, record.state, record.postal,
   record.country, poco.stringsToString record.phones, poco.stringsToString record.mobiles,
   record.geoCode, poco.stringsToString record.inUse, poco.tagsToString record.info.tags,
   record.managementPolicy, record.entity, record.timezone)

def Location.ofRow (poco : Poco) : LocationDBRecordType → Location → Option Location
  | (c0, c1, c2, c3, c4, c5, c6, c7, c8, c9, c10, c11, c12, c13, c14, c15, c16, c17, c18, c19,
     c20), out =>
      some { out with
        info := { out.info with
          id := c0, name := c1, description := c2,
          notes := poco.toObjectArray (NoteInfo.fromJson poco) c3, created := c4, modified := c5,
          tags := poco.toTaglist c17 }
        type := locationFromString c6, buildingName := c7, addressLines := poco.toStringArray c8,
        city := c9, state := c10, postal := c11, country := c12, phones := poco.toStringArray c13,
        mobiles := poco.toStringArray c14, geoCode := c15, inUse := poco.toStringArray c16,
        managementPolicy := c18, entity := c19, timezone := c20 }

structure Venue where
  info : ObjectInfo := {}
  entity : String := ""
  parent : String := ""
  subscriber : String := ""
  children : List String := []
  managementPolicy : String := ""
  devices : List String := []
  topology : List DiGraphEntry := []
  design : String := ""
  deviceConfiguration : List String := []
  contacts : List String := []
  location : String := ""
  deviceRules : DeviceRules := {}
  sourceIP : List String := []
  «variables» : List String := []
  configurations : List String := []
  maps : List String := []
  managementPolicies : List String := []
  managementRoles : List String := []
  boards : List String := []
  deriving Repr

def Venue.toJson (record : Venue) (obj : Members) : Members :=
  record.info.toJson obj
    |>.set "parent" (.str record.parent)
    |>.set "entity" (.str record.entity)
    |>.set "subscriber" (.str record.subscriber)
    |>.set "children" (ofStrings record.children)
    |>.set "devices" (ofStrings record.devices)
    |>.set "topology" (ofObjects DiGraphEntry.toJson record.topology)
    |>.set "parent" (.str record.parent)
    |>.set "design" (.str record.design)
    |>.set "managementPolicy" (.str record.managementPolicy)
    |>.set "deviceConfiguration" (ofStrings record.deviceConfiguration)
    |>.set "contacts" (ofStrings record.contacts)
    |>.set "location" (.str record.location)
    |>.set "deviceRules" (.obj (DeviceRules.toJson record.deviceRules []))
    |>.set "sourceIP" (ofStrings record.sourceIP)
    |>.set "variables" (ofStrings record.«variables»)
    |>.set "managementPolicies" (ofStrings record.managementPolicies)
    |>.set "managementRoles" (ofStrings record.managementRoles)
    |>.set "maps" (ofStrings record.maps)
    |>.set "configurations" (ofStrings record.configurations)
    |>.set "boards" (ofStrings record.boards)

abbrev VenueDBRecordType :=
  String × String × String × String × UInt64 × UInt64 × String × String × String × String ×
    String × String × String × String × String × String × String × String × String × String ×
    String × String × String × String × String × String

def Venue.toRow (poco : Poco) (record : Venue) : VenueDBRecordType :=
  (record.info.id, record.info.name, record.info.description,
   poco.objectsToString NoteInfo.toJson record.info.notes, record.info.created,
   record.info.modified, record.entity, record.parent, poco.stringsToString record.children,
   poco.stringsToString record.devices, record.managementPolicy,
   poco.objectsToString DiGraphEntry.toJson record.topology, record.design,
   poco.stringsToString record.contacts, record.location,
   poco.objectToString DeviceRules.toJson record.deviceRules, poco.tagsToString record.info.tags,
   poco.stringsToString record.deviceConfiguration, poco.stringsToString record.sourceIP,
   poco.stringsToString record.«variables», poco.stringsToString record.configurations,
   poco.stringsToString record.maps, poco.stringsToString record.managementPolicies,
   poco.stringsToString record.managementRoles, poco.stringsToString record.boards,
   record.subscriber)

def Venue.ofRow (poco : Poco) : VenueDBRecordType → Venue → Option Venue
  | (c0, c1, c2, c3, c4, c5, c6, c7, c8, c9, c10, c11, c12, c13, c14, c15, c16, c17, c18, c19,
     c20, c21, c22, c23, c24, c25), out => do
      let deviceRules ← poco.toObject (DeviceRules.fromJson poco) {} c15
      some { out with
        info := { out.info with
          id := c0, name := c1, description := c2,
          notes := poco.toObjectArray (NoteInfo.fromJson poco) c3, created := c4, modified := c5,
          tags := poco.toTaglist c16 }
        entity := c6, parent := c7, children := poco.toStringArray c8,
        devices := poco.toStringArray c9, managementPolicy := c10,
        topology := poco.toObjectArray (DiGraphEntry.fromJson poco) c11, design := c12,
        contacts := poco.toStringArray c13, location := c14, deviceRules := deviceRules,
        deviceConfiguration := poco.toStringArray c17, sourceIP := poco.toStringArray c18,
        «variables» := poco.toStringArray c19, configurations := poco.toStringArray c20,
        maps := poco.toStringArray c21, managementPolicies := poco.toStringArray c22,
        managementRoles := poco.toStringArray c23, boards := poco.toStringArray c24,
        subscriber := c25 }

structure Entity where
  info : ObjectInfo := {}
  parent : String := ""
  operatorId : String := ""
  children : List String := []
  venues : List String := []
  contacts : List String := []
  locations : List String := []
  managementPolicy : String := ""
  deviceConfiguration : List String := []
  devices : List String := []
  deviceRules : DeviceRules := {}
  sourceIP : List String := []
  «variables» : List String := []
  managementPolicies : List String := []
  managementRoles : List String := []
  maps : List String := []
  configurations : List String := []
  deriving Repr

def Entity.toJson (record : Entity) (obj : Members) : Members :=
  record.info.toJson obj
    |>.set "parent" (.str record.parent)
    |>.set "operatorId" (.str record.operatorId)
    |>.set "venues" (ofStrings record.venues)
    |>.set "children" (ofStrings record.children)
    |>.set "contacts" (ofStrings record.contacts)
    |>.set "locations" (ofStrings record.locations)
    |>.set "managementPolicy" (.str record.managementPolicy)
    |>.set "deviceConfiguration" (ofStrings record.deviceConfiguration)
    |>.set "devices" (ofStrings record.devices)
    |>.set "deviceRules" (.obj (DeviceRules.toJson record.deviceRules []))
    |>.set "sourceIP" (ofStrings record.sourceIP)
    |>.set "variables" (ofStrings record.«variables»)
    |>.set "managementPolicies" (ofStrings record.managementPolicies)
    |>.set "managementRoles" (ofStrings record.managementRoles)
    |>.set "maps" (ofStrings record.maps)
    |>.set "configurations" (ofStrings record.configurations)

abbrev EntityDBRecordType :=
  String × String × String × String × UInt64 × UInt64 × String × String × String × String ×
    String × String × String × String × String × String × String × String × String × String ×
    String × String × String

def Entity.toRow (poco : Poco) (record : Entity) : EntityDBRecordType :=
  (record.info.id, record.info.name, record.info.description,
   poco.objectsToString NoteInfo.toJson record.info.notes, record.info.created,
   record.info.modified, record.parent, poco.stringsToString record.children,
   poco.stringsToString record.contacts, poco.stringsToString record.locations,
   record.managementPolicy, poco.stringsToString record.venues,
   poco.stringsToString record.deviceConfiguration, poco.stringsToString record.devices,
   poco.objectToString DeviceRules.toJson record.deviceRules, poco.tagsToString record.info.tags,
   poco.stringsToString record.sourceIP, poco.stringsToString record.«variables»,
   poco.stringsToString record.managementPolicies, poco.stringsToString record.managementRoles,
   poco.stringsToString record.maps, poco.stringsToString record.configurations, record.operatorId)

def Entity.ofRow (poco : Poco) : EntityDBRecordType → Entity → Option Entity
  | (c0, c1, c2, c3, c4, c5, c6, c7, c8, c9, c10, c11, c12, c13, c14, c15, c16, c17, c18, c19,
     c20, c21, c22), out => do
      let deviceRules ← poco.toObject (DeviceRules.fromJson poco) {} c14
      some { out with
        info := { out.info with
          id := c0, name := c1, description := c2,
          notes := poco.toObjectArray (NoteInfo.fromJson poco) c3, created := c4, modified := c5,
          tags := poco.toTaglist c15 }
        parent := c6, children := poco.toStringArray c7, contacts := poco.toStringArray c8,
        locations := poco.toStringArray c9, managementPolicy := c10,
        venues := poco.toStringArray c11, deviceConfiguration := poco.toStringArray c12,
        devices := poco.toStringArray c13, deviceRules := deviceRules,
        sourceIP := poco.toStringArray c16, «variables» := poco.toStringArray c17,
        managementPolicies := poco.toStringArray c18, managementRoles := poco.toStringArray c19,
        maps := poco.toStringArray c20, configurations := poco.toStringArray c21,
        operatorId := c22 }

structure InventoryTag where
  info : ObjectInfo := {}
  serialNumber : String := ""
  venue : String := ""
  entity : String := ""
  subscriber : String := ""
  deviceType : String := ""
  qrCode : String := ""
  geoCode : String := ""
  location : String := ""
  contact : String := ""
  deviceConfiguration : String := ""
  deviceRules : DeviceRules := {}
  managementPolicy : String := ""
  state : String := ""
  devClass : String := ""
  locale : String := ""
  realMacAddress : String := ""
  doNotAllowOverrides : Bool := false
  imported : UInt64 := 0
  connected : UInt64 := 0
  platform : String := "AP"
  deriving Repr

def InventoryTag.toJson (record : InventoryTag) (obj : Members) : Members :=
  record.info.toJson obj
    |>.set "serialNumber" (.str record.serialNumber)
    |>.set "venue" (.str record.venue)
    |>.set "entity" (.str record.entity)
    |>.set "subscriber" (.str record.subscriber)
    |>.set "deviceType" (.str record.deviceType)
    |>.set "qrCode" (.str record.qrCode)
    |>.set "geoCode" (.str record.geoCode)
    |>.set "location" (.str record.location)
    |>.set "contact" (.str record.contact)
    |>.set "deviceConfiguration" (.str record.deviceConfiguration)
    |>.set "deviceRules" (.obj (DeviceRules.toJson record.deviceRules []))
    |>.set "managementPolicy" (.str record.managementPolicy)
    |>.set "state" (.str record.state)
    |>.set "devClass" (.str record.devClass)
    |>.set "locale" (.str record.locale)
    |>.set "realMacAddress" (.str record.realMacAddress)
    |>.set "doNotAllowOverrides" (.bool record.doNotAllowOverrides)
    |>.set "imported" (ofUInt64 record.imported)
    |>.set "connected" (ofUInt64 record.connected)
    |>.set "platform" (.str record.platform)

abbrev InventoryDBRecordType :=
  String × String × String × String × UInt64 × UInt64 × String × String × String × String ×
    String × String × String × String × String × String × String × String × String × String ×
    String × String × String × Bool × UInt64 × UInt64 × String

def InventoryTag.toRow (poco : Poco) (record : InventoryTag) : InventoryDBRecordType :=
  (record.info.id, record.info.name, record.info.description,
   poco.objectsToString NoteInfo.toJson record.info.notes, record.info.created,
   record.info.modified, record.serialNumber, record.venue, record.entity, record.subscriber,
   record.deviceType, record.qrCode, record.geoCode, record.location, record.contact,
   record.deviceConfiguration, poco.objectToString DeviceRules.toJson record.deviceRules,
   poco.tagsToString record.info.tags, record.managementPolicy, record.state, record.devClass,
   record.locale, record.realMacAddress, record.doNotAllowOverrides, record.imported,
   record.connected, record.platform)

def InventoryTag.ofRow (poco : Poco) : InventoryDBRecordType → InventoryTag → Option InventoryTag
  | (c0, c1, c2, c3, c4, c5, c6, c7, c8, c9, c10, c11, c12, c13, c14, c15, c16, c17, c18, c19,
     c20, c21, c22, c23, c24, c25, c26), out => do
      let deviceRules ← poco.toObject (DeviceRules.fromJson poco) {} c16
      some { out with
        info := { out.info with
          id := c0, name := c1, description := c2,
          notes := poco.toObjectArray (NoteInfo.fromJson poco) c3, created := c4, modified := c5,
          tags := poco.toTaglist c17 }
        serialNumber := c6, venue := c7, entity := c8, subscriber := c9, deviceType := c10,
        qrCode := c11, geoCode := c12, location := c13, contact := c14,
        deviceConfiguration := c15, deviceRules := deviceRules, managementPolicy := c18,
        state := c19, devClass := c20, locale := c21, realMacAddress := c22,
        doNotAllowOverrides := c23, imported := c24, connected := c25, platform := c26 }

structure ManagementPolicy where
  info : ObjectInfo := {}
  entries : List ManagementPolicyEntry := []
  inUse : List String := []
  entity : String := ""
  venue : String := ""
  deriving Repr

def ManagementPolicy.toJson (record : ManagementPolicy) (obj : Members) : Members :=
  record.info.toJson obj
    |>.set "entries" (ofObjects ManagementPolicyEntry.toJson record.entries)
    |>.set "inUse" (ofStrings record.inUse)
    |>.set "entity" (.str record.entity)

abbrev PolicyDBRecordType :=
  String × String × String × String × UInt64 × UInt64 × String × String × String × String ×
    String

def ManagementPolicy.toRow (poco : Poco) (record : ManagementPolicy) : PolicyDBRecordType :=
  (record.info.id, record.info.name, record.info.description,
   poco.objectsToString NoteInfo.toJson record.info.notes, record.info.created,
   record.info.modified, poco.objectsToString ManagementPolicyEntry.toJson record.entries,
   poco.stringsToString record.inUse, poco.tagsToString record.info.tags, record.entity,
   record.venue)

def ManagementPolicy.ofRow (poco : Poco) :
    PolicyDBRecordType → ManagementPolicy → Option ManagementPolicy
  | (c0, c1, c2, c3, c4, c5, c6, c7, c8, c9, c10), out =>
      some { out with
        info := { out.info with
          id := c0, name := c1, description := c2,
          notes := poco.toObjectArray (NoteInfo.fromJson poco) c3, created := c4, modified := c5,
          tags := poco.toTaglist c8 }
        entries := poco.toObjectArray (ManagementPolicyEntry.fromJson poco) c6,
        inUse := poco.toStringArray c7, entity := c9, venue := c10 }

structure ManagementRole where
  info : ObjectInfo := {}
  managementPolicy : String := ""
  users : List String := []
  inUse : List String := []
  entity : String := ""
  venue : String := ""
  deriving Repr

def ManagementRole.toJson (record : ManagementRole) (obj : Members) : Members :=
  record.info.toJson obj
    |>.set "managementPolicy" (.str record.managementPolicy)
    |>.set "users" (ofStrings record.users)
    |>.set "entity" (.str record.entity)
    |>.set "venue" (.str record.venue)

abbrev ManagementRoleDBRecordType :=
  String × String × String × String × UInt64 × UInt64 × String × String × String × String ×
    String × String

def ManagementRole.toRow (poco : Poco) (record : ManagementRole) : ManagementRoleDBRecordType :=
  (record.info.id, record.info.name, record.info.description,
   poco.objectsToString NoteInfo.toJson record.info.notes, record.info.created,
   record.info.modified, record.managementPolicy, poco.stringsToString record.users,
   poco.stringsToString record.inUse, poco.tagsToString record.info.tags, record.entity,
   record.venue)

def ManagementRole.ofRow (poco : Poco) :
    ManagementRoleDBRecordType → ManagementRole → Option ManagementRole
  | (c0, c1, c2, c3, c4, c5, c6, c7, c8, c9, c10, c11), out =>
      some { out with
        info := { out.info with
          id := c0, name := c1, description := c2,
          notes := poco.toObjectArray (NoteInfo.fromJson poco) c3, created := c4, modified := c5,
          tags := poco.toTaglist c9 }
        managementPolicy := c6, users := poco.toStringArray c7, inUse := poco.toStringArray c8,
        entity := c10, venue := c11 }

structure DeviceConfiguration where
  info : ObjectInfo := {}
  managementPolicy : String := ""
  deviceTypes : List String := []
  configuration : List DeviceConfigurationElement := []
  inUse : List String := []
  «variables» : List String := []
  deviceRules : DeviceRules := {}
  subscriberOnly : Bool := false
  venue : String := ""
  entity : String := ""
  subscriber : String := ""
  deriving Repr

def DeviceConfiguration.toJson (record : DeviceConfiguration) (obj : Members) : Members :=
  record.info.toJson obj
    |>.set "managementPolicy" (.str record.managementPolicy)
    |>.set "deviceTypes" (ofStrings record.deviceTypes)
    |>.set "subscriberOnly" (.bool record.subscriberOnly)
    |>.set "entity" (.str record.entity)
    |>.set "venue" (.str record.venue)
    |>.set "subscriber" (.str record.subscriber)
    |>.set "configuration" (ofObjects DeviceConfigurationElement.toJson record.configuration)
    |>.set "inUse" (ofStrings record.inUse)
    |>.set "variables" (ofStrings record.«variables»)
    |>.set "deviceRules" (.obj (DeviceRules.toJson record.deviceRules []))

abbrev ConfigurationDBRecordType :=
  String × String × String × String × UInt64 × UInt64 × String × String × String × String ×
    String × String × String × Bool × String × String × String

def DeviceConfiguration.toRow (poco : Poco) (record : DeviceConfiguration) :
    ConfigurationDBRecordType :=
  (record.info.id, record.info.name, record.info.description,
   poco.objectsToString NoteInfo.toJson record.info.notes, record.info.created,
   record.info.modified, record.managementPolicy, poco.stringsToString record.deviceTypes,
   poco.objectsToString DeviceConfigurationElement.toJson record.configuration,
   poco.stringsToString record.inUse, poco.stringsToString record.«variables»,
   poco.objectToString DeviceRules.toJson record.deviceRules, poco.tagsToString record.info.tags,
   record.subscriberOnly, record.entity, record.venue, record.subscriber)

def DeviceConfiguration.ofRow (poco : Poco) :
    ConfigurationDBRecordType → DeviceConfiguration → Option DeviceConfiguration
  | (c0, c1, c2, c3, c4, c5, c6, c7, c8, c9, c10, c11, c12, c13, c14, c15, c16), out => do
      let deviceRules ← poco.toObject (DeviceRules.fromJson poco) {} c11
      some { out with
        info := { out.info with
          id := c0, name := c1, description := c2,
          notes := poco.toObjectArray (NoteInfo.fromJson poco) c3, created := c4, modified := c5,
          tags := poco.toTaglist c12 }
        managementPolicy := c6, deviceTypes := poco.toStringArray c7,
        configuration := poco.toObjectArray (DeviceConfigurationElement.fromJson poco) c8,
        inUse := poco.toStringArray c9, «variables» := poco.toStringArray c10,
        deviceRules := deviceRules, subscriberOnly := c13, entity := c14, venue := c15,
        subscriber := c16 }

structure SubscriberDevice where
  info : ObjectInfo := {}
  serialNumber : String := ""
  deviceType : String := ""
  deviceGroup : String := ""
  operatorId : String := ""
  subscriberId : String := ""
  location : SubLocation := {}
  contact : SubContact := {}
  managementPolicy : String := ""
  serviceClass : String := ""
  qrCode : String := ""
  geoCode : String := ""
  deviceRules : DeviceRules := {}
  state : String := ""
  locale : String := ""
  billingCode : String := ""
  deviceConfiguration : String := ""
  configuration : List DeviceConfigurationElement := []
  suspended : Bool := false
  realMacAddress : String := ""
  deriving Repr

def SubscriberDevice.toJson (record : SubscriberDevice) (obj : Members) : Members :=
  record.info.toJson obj
    |>.set "serialNumber" (.str record.serialNumber)
    |>.set "deviceType" (.str record.deviceType)
    |>.set "deviceGroup" (.str record.deviceGroup)
    |>.set "operatorId" (.str record.operatorId)
    |>.set "subscriberId" (.str record.subscriberId)
    |>.set "location" (.obj (record.location.toJson []))
    |>.set "contact" (.obj (record.contact.toJson []))
    |>.set "managementPolicy" (.str record.managementPolicy)
    |>.set "serviceClass" (.str record.serviceClass)
    |>.set "qrCode" (.str record.qrCode)
    |>.set "geoCode" (.str record.geoCode)
    |>.set "deviceRules" (.obj (DeviceRules.toJson record.deviceRules []))
    |>.set "state" (.str record.state)
    |>.set "locale" (.str record.locale)
    |>.set "billingCode" (.str record.billingCode)
    |>.set "deviceConfiguration" (.str record.deviceConfiguration)
    |>.set "suspended" (.bool record.suspended)
    |>.set "realMacAddress" (.str record.realMacAddress)

abbrev SubDeviceDBRecordType :=
  String × String × String × String × UInt64 × UInt64 × String × String × String × String ×
    String × String × String × String × String × String × String × String × String × String ×
    String × Bool × String × String

def SubscriberDevice.toRow (poco : Poco) (record : SubscriberDevice) : SubDeviceDBRecordType :=
  (record.info.id, record.info.name, record.info.description,
   poco.objectsToString NoteInfo.toJson record.info.notes, record.info.created,
   record.info.modified, record.serialNumber, record.deviceType, record.operatorId,
   record.subscriberId, poco.objectToString SubLocation.toJson record.location,
   poco.objectToString SubContact.toJson record.contact, record.managementPolicy,
   record.serviceClass, record.qrCode, record.geoCode,
   poco.objectToString DeviceRules.toJson record.deviceRules, record.state, record.locale,
   record.billingCode, record.deviceConfiguration, record.suspended, record.realMacAddress,
   toLower record.deviceGroup)

def SubscriberDevice.ofRow (poco : Poco) :
    SubDeviceDBRecordType → SubscriberDevice → Option SubscriberDevice
  | (c0, c1, c2, c3, c4, c5, c6, c7, c8, c9, c10, c11, c12, c13, c14, c15, c16, c17, c18, c19,
     c20, c21, c22, c23), out => do
      let location ← poco.toObject (SubLocation.fromJson poco) {} c10
      let contact ← poco.toObject (SubContact.fromJson poco) {} c11
      let deviceRules ← poco.toObject (DeviceRules.fromJson poco) {} c16
      some { out with
        info := { out.info with
          id := c0, name := c1, description := c2,
          notes := poco.toObjectArray (NoteInfo.fromJson poco) c3, created := c4, modified := c5 }
        serialNumber := c6, deviceType := c7, operatorId := c8, subscriberId := c9,
        location := location, contact := contact, managementPolicy := c12, serviceClass := c13,
        qrCode := c14, geoCode := c15, deviceRules := deviceRules, state := c17, locale := c18,
        billingCode := c19, deviceConfiguration := c20, suspended := c21, realMacAddress := c22,
        deviceGroup := toLower c23 }

structure SignupEntry where
  info : ObjectInfo := {}
  email : String := ""
  userId : String := ""
  macAddress : String := ""
  serialNumber : String := ""
  submitted : UInt64 := 0
  completed : UInt64 := 0
  status : String := ""
  error : UInt64 := 0
  statusCode : UInt64 := 0
  deviceID : String := ""
  registrationId : String := ""
  operatorId : String := ""
  deriving Repr

def SignupEntry.toJson (record : SignupEntry) (obj : Members) : Members :=
  record.info.toJson obj
    |>.set "email" (.str record.email)
    |>.set "userId" (.str record.userId)
    |>.set "macAddress" (.str record.macAddress)
    |>.set "serialNumber" (.str record.serialNumber)
    |>.set "submitted" (ofUInt64 record.submitted)
    |>.set "completed" (ofUInt64 record.completed)
    |>.set "status" (.str record.status)
    |>.set "error" (ofUInt64 record.error)
    |>.set "statusCode" (ofUInt64 record.statusCode)
    |>.set "deviceID" (.str record.deviceID)
    |>.set "registrationId" (.str record.registrationId)
    |>.set "operatorId" (.str record.operatorId)

abbrev SignupDBRecordType :=
  String × String × String × String × UInt64 × UInt64 × String × String × String × UInt64 ×
    UInt64 × String × UInt64 × UInt64 × String × String × String × String

def SignupEntry.toRow (poco : Poco) (record : SignupEntry) : SignupDBRecordType :=
  (record.info.id, record.info.name, record.info.description,
   poco.objectsToString NoteInfo.toJson record.info.notes, record.info.created,
   record.info.modified, record.email, record.userId, record.serialNumber, record.submitted,
   record.completed, record.status, record.error, record.statusCode, record.macAddress,
   record.deviceID, record.registrationId, record.operatorId)

def SignupEntry.ofRow (poco : Poco) : SignupDBRecordType → SignupEntry → Option SignupEntry
  | (c0, c1, c2, c3, c4, c5, c6, c7, c8, c9, c10, c11, c12, c13, c14, c15, c16, c17), out =>
      some { out with
        info := { out.info with
          id := c0, name := c1, description := c2,
          notes := poco.toObjectArray (NoteInfo.fromJson poco) c3, created := c4, modified := c5 }
        email := c6, userId := c7, serialNumber := c8, submitted := c9, completed := c10,
        status := c11, error := c12, statusCode := c13, macAddress := c14, deviceID := c15,
        registrationId := c16, operatorId := c17 }

end Owprov.Stored
