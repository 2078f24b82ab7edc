import IotLab.Server.Catalogue

/-!
# The catalogue over whole runs

After every sequence of requests the names are unique and the filters complete, the removal
of a mote takes exactly what depends on it, and only the requests about filters change how
lines are decoded.
-/

namespace IotLab.Server

open IotLab.Library

/-! ## Names -/

/-- What must not occur twice: labels, class names, and the offsets of a type. -/
inductive Name where
  | label (label : Text)
  | strategy (className : Text)
  | filter (type offset : ℤ)
  deriving Repr, DecidableEq

/-- The name of a row. -/
def Record.name : Record → Option Name
  | .label text => some (.label text)
  | .strategy className => some (.strategy className)
  | .filter offset _ _ typeId => some (.filter typeId offset)
  | .mote _ | .type _ _ _ | .other => none

theorem Record.filter_of_name {record : Record} {offset type : ℤ}
    (named : record.name = some (.filter type offset)) :
    ∃ strategy label, record = .filter offset strategy label type := by
  cases record with
  | filter _ strategyId labelId _ =>
      cases named
      exact ⟨strategyId, labelId, rfl⟩
  | mote | label | strategy | type | other => cases named

/-- The rows that requests make. -/
inductive Made : CatalogueRow → Prop where
  | recorded (recorded : Recorded) : Made recorded.row
  | label (id : ℤ) (label : Text) : Made ⟨(.label, id), [], .label label⟩
  | strategy (id : ℤ) (className : Text) : Made ⟨(.strategy, id), [], .strategy className⟩
  | type (id : ℤ) (description streamName : Text) (minDataNumber : ℤ) :
      Made ⟨(.type, id), [], .type description streamName minDataNumber⟩
  | filter (id offset strategy label type : ℤ) : Made (filterRow id offset strategy label type)

theorem Recorded.row_name (recorded : Recorded) : recorded.row.value.name = none := by
  cases recorded <;> rfl

theorem Made.eq_label {row : CatalogueRow} {id : ℤ} (made : Made row)
    (key : row.key = (.label, id)) : ∃ text, row = ⟨(.label, id), [], .label text⟩ := by
  cases made with
  | recorded recorded => cases recorded <;> cases key
  | label _ text => cases key; exact ⟨text, rfl⟩
  | strategy | type | filter => cases key

theorem Made.eq_strategy {row : CatalogueRow} {id : ℤ} (made : Made row)
    (key : row.key = (.strategy, id)) :
    ∃ className, row = ⟨(.strategy, id), [], .strategy className⟩ := by
  cases made with
  | recorded recorded => cases recorded <;> cases key
  | strategy _ className => cases key; exact ⟨className, rfl⟩
  | label | type | filter => cases key

theorem Made.eq_type {row : CatalogueRow} {id : ℤ} (made : Made row)
    (key : row.key = (.type, id)) :
    ∃ description streamName minDataNumber,
      row = ⟨(.type, id), [], .type description streamName minDataNumber⟩ := by
  cases made with
  | recorded recorded => cases recorded <;> cases key
  | type _ description streamName minDataNumber =>
      cases key
      exact ⟨description, streamName, minDataNumber, rfl⟩
  | label | strategy | filter => cases key

theorem Made.eq_filter {row : CatalogueRow} {offset strategy label type : ℤ} (made : Made row)
    (value : row.value = .filter offset strategy label type) :
    ∃ id, row = filterRow id offset strategy label type := by
  cases made with
  | recorded recorded => cases recorded <;> cases value
  | filter id => cases value; exact ⟨id, rfl⟩
  | label | strategy | type => cases value

namespace Catalogue

/-- The names in use. -/
def names (catalogue : Catalogue) : List Name :=
  catalogue.rows.filterMap fun row => row.value.name

/-- Rows that requests have made, no two of one name. -/
structure Consistent (catalogue : Catalogue) : Prop where
  made : ∀ row ∈ catalogue.rows, Made row
  unique : catalogue.names.Nodup

section Steps

variable {catalogue next : Catalogue}

theorem Consistent.insert (consistent : catalogue.Consistent) {row : CatalogueRow}
    (inserted : Database.insert catalogue row = some next) (made : Made row)
    (free : ∀ name, row.value.name = some name → name ∉ catalogue.names) : next.Consistent := by
  have rows := Database.insert_rows inserted
  refine ⟨fun other member => ?_, ?_⟩
  · rw [rows, List.mem_append, List.mem_singleton] at member
    rcases member with old | rfl
    · exact consistent.made other old
    · exact made
  · rw [names, rows, List.filterMap_append]
    cases name : row.value.name with
    | none =>
        simp only [List.filterMap_cons, name, List.filterMap_nil, List.append_nil]
        exact consistent.unique
    | some name' =>
        have unique := consistent.unique
        simp only [List.filterMap_cons, name, List.filterMap_nil]
        refine List.nodup_append.2 ⟨unique, List.nodup_singleton _, fun old member new same => ?_⟩
        rw [List.mem_singleton] at same
        rintro rfl
        exact free name' name (same ▸ member)

theorem Consistent.delete (consistent : catalogue.Consistent) {key : TableName × ℤ}
    (deleted : Database.delete catalogue key = some next) : next.Consistent := by
  have sublist := Database.delete_sublist deleted
  exact ⟨fun row member => consistent.made row (sublist.subset member),
    consistent.unique.sublist (sublist.filterMap _)⟩

theorem not_mem_names {record : Record} {name : Name}
    (identifies : ∀ found : Record, found.name = some name → found = record)
    (missing : catalogue.findRecord record = none) : name ∉ catalogue.names := by
  intro taken
  obtain ⟨row, member, named⟩ := List.mem_filterMap.1 taken
  exact List.find?_eq_none.1 missing row member (decide_eq_true (identifies _ named))

theorem Consistent.addNamed (consistent : catalogue.Consistent) {table : TableName}
    {record : Record} {exists_ added : Text}
    (made : Made ⟨(table, catalogue.next table), [], record⟩)
    (identifies : ∀ name, record.name = some name →
      ∀ found : Record, found.name = some name → found = record) :
    (catalogue.addNamed table record exists_ added).2.Consistent := by
  rw [Catalogue.addNamed]
  split
  · exact consistent
  · next missing =>
      split
      · exact consistent
      · next inserted =>
          exact consistent.insert inserted made fun name named =>
            not_mem_names (identifies name named) missing

theorem Consistent.deleteFound (consistent : catalogue.Consistent) (key : TableName × ℤ)
    (missing : Answer) (deleted refused : Record → Text) :
    (catalogue.deleteFound key missing deleted refused).2.Consistent := by
  rw [Catalogue.deleteFound]
  split
  · exact consistent
  · split
    · exact consistent
    · next removed => exact consistent.delete removed

theorem Consistent.addFilter (consistent : catalogue.Consistent)
    (offset strategy label type : ℤ) :
    (catalogue.addFilter offset strategy label type).2.Consistent := by
  rw [Catalogue.addFilter]
  split
  · exact consistent
  · split
    · exact consistent
    · next missing =>
        split
        · exact consistent
        · split
          · exact consistent
          · split
            · exact consistent
            · next inserted =>
                refine consistent.insert inserted (.filter _ _ _ _ _) fun name named taken => ?_
                obtain ⟨row, member, same⟩ := List.mem_filterMap.1 taken
                cases named
                obtain ⟨_, _, value⟩ := Record.filter_of_name same
                apply List.find?_eq_none.1 missing row member
                simp [value]

theorem Consistent.serve (consistent : catalogue.Consistent) (request : CatalogueRequest) :
    (catalogue.serve request).2.Consistent := by
  cases request with
  | addLabel label =>
      refine consistent.addNamed (.label _ _) fun name named found same => ?_
      cases named
      cases found with
      | label => cases same; rfl
      | mote | strategy | type | filter | other => cases same
  | addStrategy className =>
      refine consistent.addNamed (.strategy _ _) fun name named found same => ?_
      cases named
      cases found with
      | strategy => cases same; rfl
      | mote | label | type | filter | other => cases same
  | deleteLabel id | deleteStrategy id | deleteType id | deleteFilter id | removeMote id =>
      exact consistent.deleteFound _ _ _ _
  | addType id description streamName minDataNumber =>
      rw [Catalogue.serve, Catalogue.addType]
      split
      · exact consistent
      · split
        · exact consistent
        · next inserted => exact consistent.insert inserted (.type _ _ _ _) (by simp [Record.name])
  | addFilter offset strategy label type => exact consistent.addFilter offset strategy label type
  | addAnchor moteId =>
      rw [Catalogue.serve, Catalogue.addAnchor]
      split
      · exact consistent
      · split
        · exact consistent
        · split
          · exact consistent
          · next inserted =>
              exact consistent.insert inserted (.recorded _)
                (by simp [Recorded.row_name])
  | removeAnchor moteId =>
      rw [Catalogue.serve, Catalogue.removeAnchor]
      split
      · exact consistent
      · split
        · exact consistent
        · next removed => exact consistent.delete removed
  | persist recorded =>
      rw [Catalogue.serve, Catalogue.persist]
      split
      · exact consistent
      · next inserted =>
          exact consistent.insert inserted (.recorded _) (by simp [Recorded.row_name])

theorem consistent_empty : Consistent {} :=
  ⟨fun _ none => absurd none List.not_mem_nil, List.nodup_nil⟩

theorem run_consistent {requests : List CatalogueRequest} {start final : Catalogue}
    (consistent : start.Consistent) (executed : run catalogueStep start requests = some final) :
    final.Consistent := by
  refine run_preserves Consistent (fun state request next kept stepped => ?_) consistent executed
  cases stepped
  exact kept.serve request

end Steps

/-! ## What a filter refers to -/

section Filters

variable {catalogue : Catalogue}

theorem Consistent.exists_referenced (consistent : catalogue.Consistent) {row : CatalogueRow}
    (member : row ∈ catalogue.rows) (reference : Reference TableName)
    (listed : reference ∈ row.references) :
    ∃ found ∈ catalogue.rows, found.key = reference.key ∧ Made found := by
  obtain ⟨found, there, key⟩ := List.mem_map.1
    (catalogue.resolved row member reference listed)
  exact ⟨found, there, key, consistent.made found there⟩

/-- The strategy, the label and the type of a filter are there. -/
theorem Consistent.filter_complete (consistent : catalogue.Consistent) {row : CatalogueRow}
    (member : row ∈ catalogue.rows) {offset strategy label type : ℤ}
    (value : row.value = .filter offset strategy label type) :
    (∃ className, ⟨(.strategy, strategy), [], .strategy className⟩ ∈ catalogue.rows) ∧
      (∃ text, ⟨(.label, label), [], .label text⟩ ∈ catalogue.rows) ∧
      ∃ description streamName minDataNumber,
        ⟨(.type, type), [], .type description streamName minDataNumber⟩ ∈ catalogue.rows := by
  obtain ⟨id, rfl⟩ := (consistent.made row member).eq_filter value
  refine ⟨?_, ?_, ?_⟩
  · obtain ⟨found, there, key, made⟩ := consistent.exists_referenced member
      (restricting .strategy strategy) (by simp [filterRow])
    obtain ⟨className, rfl⟩ := made.eq_strategy key
    exact ⟨className, there⟩
  · obtain ⟨found, there, key, made⟩ := consistent.exists_referenced member
      (restricting .label label) (by simp [filterRow])
    obtain ⟨text, rfl⟩ := made.eq_label key
    exact ⟨text, there⟩
  · obtain ⟨found, there, key, made⟩ := consistent.exists_referenced member
      (restricting .type type) (by simp [filterRow])
    obtain ⟨description, streamName, minDataNumber, rfl⟩ := made.eq_type key
    exact ⟨description, streamName, minDataNumber, there⟩

end Filters

/-! ## The removal of a mote -/

section Removal

variable {catalogue : Catalogue}

/-- The tables whose rows belong to a mote. -/
def OfMote : TableName → Prop
  | .mote | .sender | .sink | .anchor | .calibrationMeasure | .calibrationData
  | .geolocationData | .data | .monitoringRule | .alert => True
  | .experiment | .label | .strategy | .type | .filter => False

/-- Cascades start in rows of a mote, and restricting keys lead elsewhere. -/
theorem ofMote_of_reference {row : CatalogueRow} (made : Made row)
    {reference : Reference TableName} (listed : reference ∈ row.references) :
    (reference.onDelete = .cascade → OfMote row.key.1) ∧
      (reference.onDelete = .restrict → ¬ OfMote reference.key.1) := by
  cases made with
  | recorded recorded =>
      cases recorded <;>
        simp [Recorded.row, cascading, restricting] at listed <;>
        rcases listed with rfl | rfl | rfl <;> simp [OfMote, Recorded.row]
  | label | strategy | type => cases listed
  | filter =>
      simp only [filterRow, List.mem_cons, List.not_mem_nil, or_false] at listed
      rcases listed with rfl | rfl | rfl <;> simp [OfMote, restricting]

theorem Consistent.ofMote_of_dependent (consistent : catalogue.Consistent) {start : ℤ}
    {key : TableName × ℤ} (dependent : Dependent catalogue.rows (.mote, start) key) :
    OfMote key.1 := by
  induction dependent with
  | self => trivial
  | cascade member listed cascades =>
      exact (ofMote_of_reference (consistent.made _ member) listed).1 cascades

end Removal

/-! ## The filters that the streams read -/

section Decoding

variable {catalogue next : Catalogue}

theorem findRow_eq_some_iff {key : TableName × ℤ} {row : CatalogueRow} :
    catalogue.findRow key = some row ↔ row ∈ catalogue.rows ∧ row.key = key := by
  constructor
  · intro found
    exact ⟨List.mem_of_find?_eq_some found, by simpa using List.find?_some found⟩
  · rintro ⟨member, rfl⟩
    cases found : catalogue.findRow row.key with
    | none => exact absurd (decide_eq_true rfl) (List.find?_eq_none.1 found row member)
    | some other =>
        have there := List.mem_of_find?_eq_some found
        have same : other.key = row.key := by simpa using List.find?_some found
        rw [List.inj_on_of_nodup_map catalogue.unique there member same]

theorem Consistent.asFilter_eq (consistent : catalogue.Consistent) {row : CatalogueRow}
    (member : row ∈ catalogue.rows) {offset strategy label type : ℤ}
    (value : row.value = .filter offset strategy label type) :
    ∃ className text,
      ⟨(.strategy, strategy), [], .strategy className⟩ ∈ catalogue.rows ∧
      ⟨(.label, label), [], .label text⟩ ∈ catalogue.rows ∧
      catalogue.asFilter row = some ⟨offset, className, text, type⟩ := by
  obtain ⟨⟨className, named⟩, ⟨text, labelled⟩, -⟩ := consistent.filter_complete member value
  refine ⟨className, text, named, labelled, ?_⟩
  simp only [asFilter, value, findRow_eq_some_iff.2 ⟨named, rfl⟩,
    findRow_eq_some_iff.2 ⟨labelled, rfl⟩]

theorem asFilter_of_not_filter {row : CatalogueRow}
    (plain : ∀ offset strategy label type, row.value ≠ .filter offset strategy label type) :
    catalogue.asFilter row = none := by
  rw [asFilter]
  split
  · next value => exact absurd value (plain _ _ _ _)
  · rfl

theorem Consistent.asFilter_of_subset (consistent : catalogue.Consistent)
    (larger : catalogue.rows ⊆ next.rows) {row : CatalogueRow} (member : row ∈ catalogue.rows) :
    next.asFilter row = catalogue.asFilter row := by
  by_cases filter : ∃ offset strategy label type, row.value = .filter offset strategy label type
  · obtain ⟨offset, strategy, label, type, value⟩ := filter
    obtain ⟨className, text, named, labelled, read⟩ := consistent.asFilter_eq member value
    rw [read]
    simp only [asFilter, value, findRow_eq_some_iff.2 ⟨larger named, rfl⟩,
      findRow_eq_some_iff.2 ⟨larger labelled, rfl⟩]
  · push Not at filter
    rw [asFilter_of_not_filter filter, asFilter_of_not_filter filter]

theorem Consistent.filters_insert (consistent : catalogue.Consistent) {row : CatalogueRow}
    (inserted : Database.insert catalogue row = some next)
    (plain : ∀ offset strategy label type, row.value ≠ .filter offset strategy label type) :
    next.filters = catalogue.filters := by
  have rows := Database.insert_rows inserted
  rw [filters, rows, List.filterMap_append, List.filterMap_cons_none
    (asFilter_of_not_filter plain), List.filterMap_nil, List.append_nil, filters]
  apply List.filterMap_congr
  intro other member
  apply consistent.asFilter_of_subset _ member
  rw [rows]
  exact List.subset_append_left _ _

/-- The deletion of another row leaves the filters as they are: what they need is not
deleted. -/
theorem Consistent.filters_delete (consistent : catalogue.Consistent) {key : TableName × ℤ}
    (other : key.1 ≠ .filter) (deleted : Database.delete catalogue key = some next) :
    next.filters = catalogue.filters := by
  have rows := Database.delete_rows deleted
  have after := consistent.delete deleted
  have smaller := (Database.delete_sublist deleted).subset
  have kept {row : CatalogueRow} (member : row ∈ catalogue.rows) {offset strategy label type : ℤ}
      (value : row.value = .filter offset strategy label type) : row ∈ next.rows := by
    refine (Database.mem_delete_rows deleted).2 ⟨member, fun dependent => ?_⟩
    obtain ⟨id, rfl⟩ := (consistent.made row member).eq_filter value
    rcases dependent.eq_or_cascades with same | ⟨found, there, same, reference, listed, cascades⟩
    · exact other (congrArg Prod.fst same).symm
    · have owned := (ofMote_of_reference (consistent.made found there) listed).1 cascades
      rw [same] at owned
      exact owned
  rw [filters, rows, List.filterMap_filter, filters]
  apply List.filterMap_congr
  intro row member
  by_cases filter : ∃ offset strategy label type, row.value = .filter offset strategy label type
  · obtain ⟨offset, strategy, label, type, value⟩ := filter
    have stays := kept member value
    have listed := rows ▸ stays
    rw [if_pos (List.mem_filter.1 listed).2]
    exact (after.asFilter_of_subset smaller stays).symm
  · push Not at filter
    rw [asFilter_of_not_filter filter, asFilter_of_not_filter filter, ite_self]

theorem Consistent.filters_deleteFound (consistent : catalogue.Consistent)
    {key : TableName × ℤ} (other : key.1 ≠ .filter) (missing : Answer)
    (deleted refused : Record → Text) :
    (catalogue.deleteFound key missing deleted refused).2.filters = catalogue.filters := by
  rw [Catalogue.deleteFound]
  split
  · rfl
  · split
    · rfl
    · next removed => exact consistent.filters_delete other removed

theorem Consistent.filters_addNamed (consistent : catalogue.Consistent) {table : TableName}
    {record : Record} {exists_ added : Text}
    (plain : ∀ offset strategy label type, record ≠ .filter offset strategy label type) :
    (catalogue.addNamed table record exists_ added).2.filters = catalogue.filters := by
  rw [Catalogue.addNamed]
  split
  · rfl
  · split
    · rfl
    · next inserted => exact consistent.filters_insert inserted plain

theorem Recorded.row_ne_filter (recorded : Recorded) (offset strategy label type : ℤ) :
    recorded.row.value ≠ .filter offset strategy label type := by
  intro same
  have name := Recorded.row_name recorded
  rw [same] at name
  cases name

/-- A request that is not about filters leaves them as they are. -/
theorem Consistent.filters_serve (consistent : catalogue.Consistent) {request : CatalogueRequest}
    (plain : request.aboutFilters = false) :
    (catalogue.serve request).2.filters = catalogue.filters := by
  cases request with
  | addFilter | deleteFilter => cases plain
  | addLabel | addStrategy => exact consistent.filters_addNamed fun _ _ _ _ => nofun
  | deleteLabel | deleteStrategy | deleteType | removeMote =>
      exact consistent.filters_deleteFound (by simp) _ _ _
  | addType id description streamName minDataNumber =>
      rw [Catalogue.serve, Catalogue.addType]
      split
      · rfl
      · split
        · rfl
        · next inserted => exact consistent.filters_insert inserted fun _ _ _ _ => nofun
  | addAnchor moteId =>
      rw [Catalogue.serve, Catalogue.addAnchor]
      split
      · rfl
      · split
        · rfl
        · split
          · rfl
          · next inserted =>
              exact consistent.filters_insert inserted (Recorded.row_ne_filter _)
  | removeAnchor moteId =>
      rw [Catalogue.serve, Catalogue.removeAnchor]
      split
      · rfl
      · split
        · rfl
        · next removed => exact consistent.filters_delete (by simp) removed
  | persist recorded =>
      rw [Catalogue.serve, Catalogue.persist]
      split
      · rfl
      · next inserted => exact consistent.filters_insert inserted (Recorded.row_ne_filter _)

/-- The type and the offset of a filter, out of its name. -/
def filterKey : Name → Option (ℤ × ℤ)
  | .filter type offset => some (type, offset)
  | .label _ | .strategy _ => none

/-- The filters that the streams read have different offsets for a type. -/
theorem Consistent.filters_unique (consistent : catalogue.Consistent) :
    (catalogue.filters.map fun filter => (filter.type, filter.offset)).Nodup := by
  have keys : (catalogue.filters.map fun filter => (filter.type, filter.offset)) =
      catalogue.names.filterMap filterKey := by
    rw [filters, names, List.map_filterMap, List.filterMap_filterMap]
    apply List.filterMap_congr
    intro row member
    cases value : row.value with
    | filter offset strategyId labelId typeId =>
        obtain ⟨className, text, -, -, read⟩ := consistent.asFilter_eq member value
        rw [read]
        rfl
    | mote | label | strategy | type | other =>
        rw [asFilter_of_not_filter (by simp [value])]
        rfl
  rw [keys]
  apply consistent.unique.filterMap
  intro name other key first second
  cases name with
  | label | strategy => cases first
  | filter =>
      cases other with
      | label | strategy => cases second
      | filter =>
          cases first
          cases second
          rfl

end Decoding

end Catalogue

/-! ## Main results -/

open Catalogue

variable {requests : List CatalogueRequest} {catalogue : Catalogue}

theorem consistent_of_run (executed : run catalogueStep {} requests = some catalogue) :
    catalogue.Consistent :=
  run_consistent consistent_empty executed

/-- After any requests no label, no class name and no offset of a type is there twice, and the
streams read every filter, with the class name of its strategy and the text of its label, for a
type that exists. -/
theorem catalogue_well_formed (executed : run catalogueStep {} requests = some catalogue) :
    catalogue.names.Nodup ∧
      (catalogue.filters.map fun filter => (filter.type, filter.offset)).Nodup ∧
      ∀ row ∈ catalogue.rows, ∀ offset strategy label type,
        row.value = .filter offset strategy label type →
        ∃ className text description streamName minDataNumber,
          ⟨(.strategy, strategy), [], .strategy className⟩ ∈ catalogue.rows ∧
          ⟨(.label, label), [], .label text⟩ ∈ catalogue.rows ∧
          ⟨(.type, type), [], .type description streamName minDataNumber⟩ ∈ catalogue.rows ∧
          ⟨offset, className, text, type⟩ ∈ catalogue.filters := by
  have consistent := consistent_of_run executed
  refine ⟨consistent.unique, consistent.filters_unique, ?_⟩
  intro row member offset strategy label type value
  obtain ⟨className, text, named, labelled, read⟩ := consistent.asFilter_eq member value
  obtain ⟨-, -, description, streamName, minDataNumber, typed⟩ :=
    consistent.filter_complete member value
  exact ⟨className, text, description, streamName, minDataNumber, named, labelled, typed,
    List.mem_filterMap.2 ⟨row, member, read⟩⟩

/-- Whatever requests came before, the removal of a mote that is there succeeds; exactly the
rows that depend on the mote vanish, and no label, strategy, type, filter or experiment. -/
theorem removeMote_exact (executed : run catalogueStep {} requests = some catalogue) {id : ℤ}
    {mac : Text} (there : ⟨(.mote, id), [], .mote mac⟩ ∈ catalogue.rows) :
    ∃ next, catalogue.serve (.removeMote id) =
        (.reply true "Mote has been successfully removed".toList, next) ∧
      (∀ row, row ∈ next.rows ↔
        row ∈ catalogue.rows ∧ ¬ Dependent catalogue.rows (.mote, id) row.key) ∧
      ∀ row ∈ catalogue.rows, ¬ OfMote row.key.1 → row ∈ next.rows := by
  have consistent := consistent_of_run executed
  have found : catalogue.findRow (.mote, id) = some ⟨(.mote, id), [], .mote mac⟩ :=
    findRow_eq_some_iff.2 ⟨there, rfl⟩
  cases deleted : Database.delete catalogue (.mote, id) with
  | none =>
      obtain ⟨row, member, reference, listed, restricts, dependent⟩ :=
        Database.delete_eq_none_iff.1 deleted
      exact absurd (consistent.ofMote_of_dependent dependent)
        ((ofMote_of_reference (consistent.made row member) listed).2 restricts)
  | some next =>
      refine ⟨next, ?_, fun row => Database.mem_delete_rows deleted, fun row member kept => ?_⟩
      · rw [Catalogue.serve, removeMote, deleteFound, found, deleted]
      · exact (Database.mem_delete_rows deleted).2 ⟨member, fun dependent =>
          kept (consistent.ofMote_of_dependent dependent)⟩

/-- Requests that add or delete no filter leave the filters that the streams read as they are,
whatever labels, strategies, types, motes and anchors they add or delete. -/
theorem filters_kept {later : Catalogue} {more : List CatalogueRequest}
    (executed : run catalogueStep {} requests = some catalogue)
    (continued : run catalogueStep catalogue more = some later)
    (plain : ∀ request ∈ more, request.aboutFilters = false) :
    later.filters = catalogue.filters := by
  have kept := EveryStep.preserves
    (fun state => Consistent state ∧ state.filters = catalogue.filters)
    (fun state request next invariant plain stepped => by
      cases stepped
      exact ⟨invariant.1.serve request, (invariant.1.filters_serve plain).trans invariant.2⟩)
    (everyStep_of_forall plain catalogue) ⟨consistent_of_run executed, rfl⟩ continued
  exact kept.2

/-! ## An example -/

/-- A label, a strategy, a type and a filter, a mote, an experiment and a datum. -/
def someRequests : List CatalogueRequest :=
  [.addLabel ['t'], .addStrategy ['s'], .addType 0 [] [] 3, .addFilter 26 1 1 0,
    .persist (.mote 7 ['m']), .persist (.experiment 1), .persist (.data 1 7 1 1)]

theorem catalogue_well_formed_some :
    ∃ catalogue, run catalogueStep {} someRequests = some catalogue ∧
      catalogue.names.Nodup :=
  ⟨_, rfl, (catalogue_well_formed (rfl : run catalogueStep {} someRequests = _)).1⟩

theorem removeMote_exact_some :
    ∃ catalogue next, run catalogueStep {} someRequests = some catalogue ∧
      catalogue.serve (.removeMote 7) =
        (.reply true "Mote has been successfully removed".toList, next) := by
  obtain ⟨next, served, -⟩ := @removeMote_exact someRequests _ rfl 7 ['m'] (by decide)
  exact ⟨_, next, rfl, served⟩

theorem filters_kept_some :
    ∃ catalogue later, run catalogueStep {} someRequests = some catalogue ∧
      run catalogueStep catalogue [.removeMote 7, .deleteLabel 1] = some later ∧
      later.filters = catalogue.filters :=
  ⟨_, _, rfl, rfl, filters_kept (rfl : run catalogueStep {} someRequests = _)
    (rfl : run catalogueStep _ [.removeMote 7, .deleteLabel 1] = _) (by decide)⟩

end IotLab.Server
