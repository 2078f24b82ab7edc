import IotLab.Library.ForeignKeys
import IotLab.Library.Runs
import IotLab.Server.Store

/-!
# The tables behind the administration pages

Labels, strategies, types and filters are added and deleted through `InfoResource`, motes are
removed and made anchors there; the streams and the other resources add the rows that refer
to them.  The foreign keys are those of `iotlab.sql`.
-/

namespace IotLab.Server

open IotLab.Library

/-- The tables of `iotlab.sql` that are connected by foreign keys. -/
inductive TableName where
  | mote
  | sender
  | sink
  | anchor
  | calibrationMeasure
  | calibrationData
  | geolocationData
  | data
  | experiment
  | label
  | strategy
  | type
  | filter
  | monitoringRule
  | alert
  deriving Repr, DecidableEq

/-- The columns that the requests read. -/
inductive Record where
  | mote (mac : Text)
  | label (label : Text)
  | strategy (className : Text)
  | type (description streamName : Text) (minDataNumber : ℤ)
  | filter (offset strategy label type : ℤ)
  | other
  deriving Repr, DecidableEq

abbrev Catalogue := Database TableName Record

abbrev CatalogueRow := Row TableName Record

/-! ## Rows -/

/-- A foreign key with ON DELETE CASCADE. -/
def cascading (table : TableName) (id : ℤ) : Reference TableName := ⟨(table, id), .cascade⟩

/-- A foreign key without it. -/
def restricting (table : TableName) (id : ℤ) : Reference TableName := ⟨(table, id), .restrict⟩

/-- A row of the table `Filter`. -/
def filterRow (id offset strategy label type : ℤ) : CatalogueRow :=
  ⟨(.filter, id), [restricting .strategy strategy, restricting .label label,
    restricting .type type], .filter offset strategy label type⟩

/-- The rows that are added by other requests than those of labels, strategies, types and
filters. -/
inductive Recorded where
  | mote (id : ℤ) (mac : Text)
  | sender (mote : ℤ)
  | sink (mote : ℤ)
  | anchor (mote : ℤ)
  | calibrationMeasure (id first second : ℤ)
  | calibrationData (id measure : ℤ)
  | geolocationData (id src dest : ℤ)
  | data (id mote label experiment : ℤ)
  | experiment (id : ℤ)
  | monitoringRule (id mote label : ℤ)
  | alert (id rule : ℤ)
  deriving Repr, DecidableEq

/-- The row with its foreign keys. -/
def Recorded.row : Recorded → CatalogueRow
  | .mote id mac => ⟨(.mote, id), [], .mote mac⟩
  | .sender moteId => ⟨(.sender, moteId), [cascading .mote moteId], .other⟩
  | .sink moteId => ⟨(.sink, moteId), [cascading .mote moteId], .other⟩
  | .anchor moteId => ⟨(.anchor, moteId), [cascading .mote moteId], .other⟩
  | .calibrationMeasure id first second =>
      ⟨(.calibrationMeasure, id), [cascading .anchor first, cascading .anchor second], .other⟩
  | .calibrationData id measureId =>
      ⟨(.calibrationData, id), [cascading .calibrationMeasure measureId], .other⟩
  | .geolocationData id src dest =>
      ⟨(.geolocationData, id), [cascading .mote src, cascading .mote dest], .other⟩
  | .data id moteId labelId experimentId =>
      ⟨(.data, id), [restricting .label labelId, restricting .experiment experimentId,
        cascading .mote moteId], .other⟩
  | .experiment id => ⟨(.experiment, id), [], .other⟩
  | .monitoringRule id moteId labelId =>
      ⟨(.monitoringRule, id), [cascading .mote moteId, cascading .label labelId], .other⟩
  | .alert id ruleId => ⟨(.alert, id), [cascading .monitoringRule ruleId], .other⟩

/-! ## Requests -/

/-- How a request ends: with an answer, or with an exception. -/
inductive Answer where
  | reply (success : Bool) (message : Text)
  | exception
  deriving Repr, DecidableEq

namespace Catalogue

/-- `EntityManager.find`. -/
def findRow (catalogue : Catalogue) (key : TableName × ℤ) : Option CatalogueRow :=
  catalogue.rows.find? fun row => row.key = key

/-- The query for a row with these columns. -/
def findRecord (catalogue : Catalogue) (record : Record) : Option CatalogueRow :=
  catalogue.rows.find? fun row => row.value = record

/-- `addLabel` and `addStrategy`: a row whose name is not there yet gets the next id. -/
def addNamed (catalogue : Catalogue) (table : TableName) (record : Record)
    (exists_ added : Text) : Answer × Catalogue :=
  match catalogue.findRecord record with
  | some _ => (.reply false exists_, catalogue)
  | none =>
      match catalogue.insert ⟨(table, catalogue.next table), [], record⟩ with
      | none => (.exception, catalogue)
      | some next => (.reply true added, next)

/-- `InfoResource.addLabel`. -/
def addLabel (catalogue : Catalogue) (label : Text) : Answer × Catalogue :=
  catalogue.addNamed .label (.label label)
    ("Label ".toList ++ label ++ " already exists ! Labels must be unique.".toList)
    ("Label ".toList ++ label ++ " has been successfully added !".toList)

/-- `InfoResource.addStrategy`. -/
def addStrategy (catalogue : Catalogue) (className : Text) : Answer × Catalogue :=
  catalogue.addNamed .strategy (.strategy className)
    ("Strategy associated with the class ".toList ++ className ++
      " already exists ! Strategies must be unique.".toList)
    ("Strategy ".toList ++ className ++ " has been successfully added !".toList)

/-- `InfoResource.addType`, where the id is given. -/
def addType (catalogue : Catalogue) (id : ℤ) (description streamName : Text)
    (minDataNumber : ℤ) : Answer × Catalogue :=
  match catalogue.findRow (.type, id) with
  | some _ =>
      (.reply false ("Type ".toList ++ printInt id ++
        " already exists ! Types must be unique.".toList), catalogue)
  | none =>
      match catalogue.insert ⟨(.type, id), [], .type description streamName minDataNumber⟩ with
      | none => (.exception, catalogue)
      | some next =>
          (.reply true ("Type ".toList ++ printInt id ++
            " has been successfully added !".toList), next)

/-- The filter for an offset of a type. -/
def findFilter (catalogue : Catalogue) (offset type : ℤ) : Option CatalogueRow :=
  catalogue.rows.find? fun row =>
    match row.value with
    | .filter otherOffset _ _ otherType => otherOffset = offset ∧ otherType = type
    | _ => false

/-- `InfoResource.addFilter`. -/
def addFilter (catalogue : Catalogue) (offset strategy label type : ℤ) : Answer × Catalogue :=
  match catalogue.findRow (.type, type) with
  | none => (.reply false "This type does not exist".toList, catalogue)
  | some _ =>
      match catalogue.findFilter offset type with
      | some _ =>
          (.reply false ("Filter with offset ".toList ++ printInt offset ++ "and type ".toList ++
            printInt type ++
            " already exists ! An offset can be used only once for a given type.".toList),
            catalogue)
      | none =>
          match catalogue.findRow (.strategy, strategy) with
          | none =>
              (.reply false ("Strategy with id=".toList ++ printInt strategy ++
                " not found".toList), catalogue)
          | some _ =>
              match catalogue.findRow (.label, label) with
              | none =>
                  (.reply false ("Label with id=".toList ++ printInt label ++
                    " not found".toList), catalogue)
              | some _ =>
                  match catalogue.insert
                      (filterRow (catalogue.next .filter) offset strategy label type) with
                  | none => (.exception, catalogue)
                  | some next =>
                      (.reply true "The Filter has been successfully added !".toList, next)

/-- The deletion of a row that is found first, with the texts of its answers. -/
def deleteFound (catalogue : Catalogue) (key : TableName × ℤ) (missing : Answer)
    (deleted refused : Record → Text) : Answer × Catalogue :=
  match catalogue.findRow key with
  | none => (missing, catalogue)
  | some row =>
      match catalogue.delete key with
      | none => (.reply false (refused row.value), catalogue)
      | some next => (.reply true (deleted row.value), next)

/-- The text that names a row in a message. -/
def nameOf : Record → Text
  | .mote mac => mac
  | .label label => label
  | .strategy className => className
  | .type description _ _ => description
  | .filter offset _ _ _ => printInt offset
  | .other => []

/-- `InfoResource.deleteLabel`. -/
def deleteLabel (catalogue : Catalogue) (id : ℤ) : Answer × Catalogue :=
  catalogue.deleteFound (.label, id) (.reply false "This label does not exist".toList)
    (fun record => "Label '".toList ++ nameOf record ++ "' has been deleted".toList)
    (fun record => "The label '".toList ++ nameOf record ++
      "' cannot be deleted because some filters or data are dependent on it".toList)

/-- `InfoResource.deleteStrategy`. -/
def deleteStrategy (catalogue : Catalogue) (id : ℤ) : Answer × Catalogue :=
  catalogue.deleteFound (.strategy, id) (.reply false "This strategy does not exist".toList)
    (fun record => "Strategy associated with class '".toList ++ nameOf record ++
      "' has been deleted".toList)
    (fun record => "Strategy associated with '".toList ++ nameOf record ++
      "' cannot be deleted due to dependances".toList)

/-- `InfoResource.deleteType`. -/
def deleteType (catalogue : Catalogue) (id : ℤ) : Answer × Catalogue :=
  catalogue.deleteFound (.type, id) (.reply false "This type does not exist".toList)
    (fun _ => "Type '".toList ++ printInt id ++ "' has been deleted".toList)
    (fun record => "The type '".toList ++ nameOf record ++
      "' cannot be deleted because some filters are dependent on it".toList)

/-- The type of a filter. -/
def typeOf : Record → ℤ
  | .filter _ _ _ type => type
  | _ => 0

/-- `InfoResource.deleteFilter`. -/
def deleteFilter (catalogue : Catalogue) (id : ℤ) : Answer × Catalogue :=
  catalogue.deleteFound (.filter, id) (.reply false "This filter does not exist".toList)
    (fun record => "Filter with offset '".toList ++ nameOf record ++ " and type ".toList ++
      printInt (typeOf record) ++ "' has been deleted".toList)
    (fun record => "Filter with offset '".toList ++ nameOf record ++
      "' cannot be deleted".toList)

/-- `InfoResource.removeMote`; the reference to a missing mote is an exception. -/
def removeMote (catalogue : Catalogue) (id : ℤ) : Answer × Catalogue :=
  catalogue.deleteFound (.mote, id) .exception
    (fun _ => "Mote has been successfully removed".toList)
    (fun record => "The mote '".toList ++ nameOf record ++
      "' cannot be deleted because some data are dependent on it".toList)

/-- `InfoResource.addAnchor`; an anchor that is there is merged with itself. -/
def addAnchor (catalogue : Catalogue) (mote : ℤ) : Answer × Catalogue :=
  match catalogue.findRow (.mote, mote) with
  | none => (.reply false "Mote not found".toList, catalogue)
  | some _ =>
      match catalogue.findRow (.anchor, mote) with
      | some _ => (.reply true "Anchor has been successfully added".toList, catalogue)
      | none =>
          match catalogue.insert (Recorded.anchor mote).row with
          | none => (.exception, catalogue)
          | some next => (.reply true "Anchor has been successfully added".toList, next)

/-- `InfoResource.removeAnchor`; nothing is flushed, so that the text for a refusal is that of
an exception. -/
def removeAnchor (catalogue : Catalogue) (mote : ℤ) : Answer × Catalogue :=
  match catalogue.findRow (.anchor, mote) with
  | none => (.exception, catalogue)
  | some _ =>
      match catalogue.delete (.anchor, mote) with
      | none => (.exception, catalogue)
      | some next => (.reply true "Anchor has been successfully removed".toList, next)

/-- A row of another request; one that the database refuses is an exception. -/
def persist (catalogue : Catalogue) (recorded : Recorded) : Answer × Catalogue :=
  match catalogue.insert recorded.row with
  | none => (.exception, catalogue)
  | some next => (.reply true [], next)

/-- A filter as the streams read it, with the class name of its strategy and the text of its
label. -/
def asFilter (catalogue : Catalogue) (row : CatalogueRow) : Option Filter :=
  match row.value with
  | .filter offset strategyId labelId typeId =>
      match catalogue.findRow (.strategy, strategyId), catalogue.findRow (.label, labelId) with
      | some ⟨_, _, .strategy className⟩, some ⟨_, _, .label text⟩ =>
          some ⟨offset, className, text, typeId⟩
      | _, _ => none
  | _ => none

/-- The filters as the streams read them. -/
def filters (catalogue : Catalogue) : List Filter :=
  catalogue.rows.filterMap catalogue.asFilter

end Catalogue

/-- The requests. -/
inductive CatalogueRequest where
  | addLabel (label : Text)
  | deleteLabel (id : ℤ)
  | addStrategy (className : Text)
  | deleteStrategy (id : ℤ)
  | addType (id : ℤ) (description streamName : Text) (minDataNumber : ℤ)
  | deleteType (id : ℤ)
  | addFilter (offset strategy label type : ℤ)
  | deleteFilter (id : ℤ)
  | removeMote (id : ℤ)
  | addAnchor (mote : ℤ)
  | removeAnchor (mote : ℤ)
  | persist (recorded : Recorded)
  deriving Repr, DecidableEq

/-- The request adds or deletes a filter. -/
def CatalogueRequest.aboutFilters : CatalogueRequest → Bool
  | .addFilter _ _ _ _ | .deleteFilter _ => true
  | .addLabel _ | .deleteLabel _ | .addStrategy _ | .deleteStrategy _ | .addType _ _ _ _
  | .deleteType _ | .removeMote _ | .addAnchor _ | .removeAnchor _ | .persist _ => false

/-- Serve a request. -/
def Catalogue.serve (catalogue : Catalogue) : CatalogueRequest → Answer × Catalogue
  | .addLabel label => catalogue.addLabel label
  | .deleteLabel id => catalogue.deleteLabel id
  | .addStrategy className => catalogue.addStrategy className
  | .deleteStrategy id => catalogue.deleteStrategy id
  | .addType id description streamName minDataNumber =>
      catalogue.addType id description streamName minDataNumber
  | .deleteType id => catalogue.deleteType id
  | .addFilter offset strategy label type => catalogue.addFilter offset strategy label type
  | .deleteFilter id => catalogue.deleteFilter id
  | .removeMote id => catalogue.removeMote id
  | .addAnchor mote => catalogue.addAnchor mote
  | .removeAnchor mote => catalogue.removeAnchor mote
  | .persist recorded => catalogue.persist recorded

/-- One request after the other. -/
def catalogueStep (catalogue : Catalogue) (request : CatalogueRequest) : Option Catalogue :=
  some (catalogue.serve request).2

end IotLab.Server
