import AccessorUpgrade.DeclaredType
import AccessorUpgrade.Request

/-!
# Wrapper types

Upgraded methods return wrappers: lazy properties and file collections. Each wrapper class stands
for the type that the method returned before.

This is the Wrapper Type Resolver of section 4.2 of the specification. Its original type is the
former type here, and `DeclaredType.unwrapped?` finds it; `DeclaredType.propertyKind` is the
category of section E3, `UpgradedPropertyType`.
-/

namespace AccessorUpgrade

/-- The wrapper classes. -/
inductive Wrapper where
  | regularFile
  | directory
  | single
  | fileCollection
  | map
  | list
  | set
deriving DecidableEq, Repr

namespace Wrapper

/-- All wrapper classes. -/
def all : List Wrapper := [regularFile, directory, single, fileCollection, map, list, set]

/-- The name of a wrapper class. -/
def className : Wrapper → String
  | regularFile => "org.gradle.api.file.RegularFileProperty"
  | directory => "org.gradle.api.file.DirectoryProperty"
  | single => "org.gradle.api.provider.Property"
  | fileCollection => "org.gradle.api.file.ConfigurableFileCollection"
  | map => "org.gradle.api.provider.MapProperty"
  | list => "org.gradle.api.provider.ListProperty"
  | set => "org.gradle.api.provider.SetProperty"

/-- The wrapper class of some name. -/
def ofClassName? (name : String) : Option Wrapper := all.find? (·.className == name)

/-- The wrapper class that a declared type belongs to, whatever its arguments. An array of wrappers
is no wrapper. -/
def of? (declared : DeclaredType) : Option Wrapper := declared.className?.bind ofClassName?

/-- The kind of property that a wrapper class holds. -/
def kind : Wrapper → PropertyKind
  | regularFile | directory => .fileSystemLocation
  | single => .single
  | fileCollection => .fileCollection
  | map => .map
  | list => .list
  | set => .set

/-- The type that was returned before the wrapper. It depends on the type arguments only for a
wrapper of a single value, which has to have exactly one. -/
def formerType : Wrapper → List DeclaredType → Option ErasedType
  | regularFile, _ | directory, _ => some (.object "java.io.File")
  | single, [argument] => some argument.erasure
  | single, _ => none
  | fileCollection, _ => some (.object "org.gradle.api.file.FileCollection")
  | map, _ => some (.object "java.util.Map")
  | list, _ => some (.object "java.util.List")
  | set, _ => some (.object "java.util.Set")

end Wrapper

namespace DeclaredType

/-- The kind of an upgraded property, by its declared type. A type that is no wrapper counts as one
of a single value. -/
def propertyKind (declared : DeclaredType) : PropertyKind :=
  (Wrapper.of? declared).elim .single Wrapper.kind

/-- The type that a declared wrapper has replaced. -/
def unwrapped? (declared : DeclaredType) : Option ErasedType :=
  (Wrapper.of? declared).bind (·.formerType declared.arguments)

end DeclaredType

end AccessorUpgrade
