import IotLab.Server.DataStream

/-!
# Posts of data

`DataResource.add` builds a stream from the posted text, converts it and persists
the rows.  The rows depend on the tables of types, filters and experiments only, and
no post changes these.
-/

namespace IotLab.Server

/-- `DataResource.add`: the store and the rows to persist.  Any exception leaves
none. -/
def Store.add (store : Store) (dataStr : Text) : Store × List Data :=
  let built := newDataStream store dataStr
  match built.2 with
  | .error _ => (built.1, [])
  | .ok stream =>
      let converted := stream.convertData built.1 .doubleDefault
      match converted.2 with
      | .error _ => (converted.1, [])
      | .ok rows => (converted.1, rows)

/-- Two stores have the same types, filters and experiments, and accept the same senders. -/
structure SameTables (store other : Store) : Prop where
  types : store.types = other.types
  filters : store.filters = other.filters
  experiments : store.experiments = other.experiments
  accepts : ∀ address, store.Accepts address ↔ other.Accepts address

theorem SameTables.refl (store : Store) : SameTables store store :=
  ⟨rfl, rfl, rfl, fun _ => Iff.rfl⟩

theorem SameTables.symm {store other : Store} (same : SameTables store other) :
    SameTables other store :=
  ⟨same.types.symm, same.filters.symm, same.experiments.symm,
    fun address => (same.accepts address).symm⟩

theorem SameTables.trans {store other third : Store} (first : SameTables store other)
    (second : SameTables other third) : SameTables store third :=
  ⟨first.types.trans second.types, first.filters.trans second.filters,
    first.experiments.trans second.experiments,
    fun address => (first.accepts address).trans (second.accepts address)⟩

theorem sameTables_withSender {store : Store} {address : Text} (accepts : store.Accepts address) :
    SameTables (store.withSender address) store := by
  refine ⟨?_, ?_, ?_, fun _ => accepts_withSender_iff accepts⟩
  all_goals
    rw [Store.withSender]
    split <;> rfl

theorem sameTables_postConvertData (store : Store) (stream : InputStream)
    (values : List Converted) :
    SameTables (stream.postConvertData store values).1 store := by
  rw [InputStream.postConvertData]
  cases readInt stream.data nodeIdOffset with
  | error failure => exact .refl store
  | ok nodeId =>
      rcases mergeSender_cases store (moteAddress nodeId) with ⟨accepts, merged⟩ | ⟨_, merged⟩
      · simp only [getMote, merged]
        exact sameTables_withSender accepts
      · simp only [getMote, merged]
        exact .refl store

theorem sameTables_convertData (store : Store) (stream : InputStream)
    (default : Strategy) : SameTables (stream.convertData store default).1 store := by
  rw [InputStream.convertData]
  cases stream.convertValues store default with
  | error failure => exact .refl store
  | ok values => exact sameTables_postConvertData store stream values

theorem sameTables_newDataStream (store : Store) (text : Text) :
    SameTables (newDataStream store text).1 store :=
  ⟨rfl, rfl, rfl, fun _ => Iff.rfl⟩

/-- A post does not change the tables. -/
theorem sameTables_add (store : Store) (dataStr : Text) :
    SameTables (store.add dataStr).1 store := by
  have built := sameTables_newDataStream store dataStr
  rw [Store.add]
  cases (newDataStream store dataStr).2 with
  | error failure => exact built
  | ok stream =>
      have converted := sameTables_convertData (newDataStream store dataStr).1 stream
        .doubleDefault
      simp only
      cases (stream.convertData (newDataStream store dataStr).1 .doubleDefault).2 with
      | error failure => exact converted.trans built
      | ok rows => exact converted.trans built

/-- The conversion reads the tables only. -/
theorem SameTables.converted {store other : Store} (same : SameTables store other)
    (stream : InputStream) (default : Strategy) :
    (stream.convertData store default).2 = (stream.convertData other default).2 := by
  have values : stream.convertValues store default =
      stream.convertValues other default := by
    rw [InputStream.convertValues, InputStream.convertValues, same.filters]
  rw [InputStream.convertData, InputStream.convertData, values]
  cases stream.convertValues other default with
  | error failure => rfl
  | ok values =>
      simp only [InputStream.postConvertData]
      cases readInt stream.data nodeIdOffset with
      | error failure => rfl
      | ok nodeId =>
          rcases mergeSender_cases store (moteAddress nodeId) with
            ⟨accepts, merged⟩ | ⟨refuses, merged⟩
          · have there := mergeSender_of_accepts ((same.accepts _).1 accepts)
            simp only [getMote, merged, there, Store.getActiveExperiment, same.experiments,
              same.filters]
          · have there := mergeSender_of_not_accepts fun taken =>
              refuses ((same.accepts _).2 taken)
            simp only [getMote, merged, there]

theorem SameTables.built {store other : Store} (same : SameTables store other)
    (text : Text) : (newDataStream store text).2 = (newDataStream other text).2 := by
  have found : ∀ id, store.findType id = other.findType id := by
    intro id
    rw [Store.findType, Store.findType, same.types]
  simp only [newDataStream, readStream]
  split
  · rfl
  · split
    · rfl
    · simp only [found]

/-- The rows of a post depend on the tables only. -/
theorem SameTables.added {store other : Store} (same : SameTables store other)
    (dataStr : Text) : (store.add dataStr).2 = (other.add dataStr).2 := by
  have tables : SameTables (newDataStream store dataStr).1 (newDataStream other dataStr).1 :=
    (sameTables_newDataStream store dataStr).trans
      (same.trans (sameTables_newDataStream other dataStr).symm)
  rw [Store.add, Store.add, same.built]
  cases (newDataStream other dataStr).2 with
  | error failure => rfl
  | ok stream =>
      have rows := tables.converted stream .doubleDefault
      simp only [rows]
      cases (stream.convertData (newDataStream other dataStr).1 .doubleDefault).2 with
      | error failure => rfl
      | ok rows => rfl

end IotLab.Server
