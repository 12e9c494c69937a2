import Companion.Name.ClassName
import Companion.Layout

/-!
# Settings — what companions look like

The settings name the classes that companions refer to and the markers they carry, and
say how their source is laid out. Their defaults are those of the Realm persistence
library.
-/

namespace Companion

/-- The settings of a generator. -/
structure Settings where
  /-- The word that the simple name of every companion starts with. -/
  leading : String := "Realm"
  /-- The class that every companion extends. -/
  baseClass : ClassName := .ofTopLevel "io.realm" "RealmObject"
  /-- The marker of the primary key. -/
  primaryKeyMarker : ClassName := .ofTopLevel "io.realm.annotations" "PrimaryKey"
  /-- The marker of a field that is not persisted. -/
  ignoreMarker : ClassName := .ofTopLevel "io.realm.annotations" "Ignore"
  /-- The marker of entities in the declarations. -/
  entityMarker : ClassName := .ofTopLevel "com.realm.annotation.api" "Entity"
  /-- The marker of excluded fields in the declarations. -/
  transientMarker : ClassName := .ofTopLevel "com.realm.annotation.api" "Transient"
  /-- The layout of the source. -/
  layout : Layout := {}
  deriving DecidableEq, Repr

namespace Settings

/-- The markers that are looked for in declarations. -/
def markers (s : Settings) : List String :=
  [s.entityMarker.canonical, s.transientMarker.canonical]

end Settings

end Companion
