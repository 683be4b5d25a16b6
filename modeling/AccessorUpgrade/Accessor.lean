import AccessorUpgrade.Method
import AccessorUpgrade.Naming
import AccessorUpgrade.Refusal
import AccessorUpgrade.Wrapper

/-!
# Former accessors

The accessors that an upgraded method has replaced. They are declared one by one in the entries of
its directive; without entries they are a getter and a setter that follow from the method.

An `Accessor` is the accessor spec of sections 3 and 4.3 of the specification. Its Accessor Spec
Builder is `Accessor.ofDirective`, and `Method.formerType` resolves the original type of section
4.2.
-/

namespace AccessorUpgrade

namespace Method

/-- The type of the method's property before the upgrade: the written one, else the one that the
declared return type stands for. -/
def formerType (m : Method) (written : Option ErasedType) : Except Refusal ErasedType :=
  match written with
  | some t => .ok t
  | none =>
    match m.returnType.unwrapped? with
    | some t => .ok t
    | none => .error (.unresolved m.qualifiedSignature m.returnType.spelling)

end Method

/-- A former accessor. -/
structure Accessor where
  kind : AccessorKind
  methodName : String
  formerType : ErasedType
  /-- Whether the setter returns the object it is called on. -/
  fluentSetter : Bool
deriving DecidableEq, Repr

namespace Accessor

/-- The property that the accessor belongs to. -/
def propertyName (a : Accessor) : String := Naming.property a.methodName

/-- Whether setters are fluent: as it is written, else as it is declared. -/
def fluency (written fallback : Option Bool) : Except Refusal Bool :=
  match written.or fallback with
  | some fluent => .ok fluent
  | none => .error (.missing .fluentSetter)

/-- The accessor that an entry declares. Of several faults the first in this order counts: no method
name, no kind, an unknown kind, no former type, nothing about fluency. -/
def ofEntry (m : Method) (fallbacks : Fallbacks) (entry : AccessorEntry) :
    Except Refusal Accessor :=
  match entry.methodName with
  | none => .error (.missing .methodName)
  | some methodName =>
    match entry.value with
    | none => .error (.missing .value)
    | some constant =>
      match AccessorKind.ofConstant? constant with
      | none => .error (.unsupportedKind constant)
      | some kind =>
        match m.formerType entry.formerType with
        | .error refusal => .error refusal
        | .ok formerType =>
          match fluency entry.fluentSetter fallbacks.entryFluentSetter with
          | .error refusal => .error refusal
          | .ok fluent => .ok ⟨kind, methodName, formerType, fluent⟩

/-- The name of the accessor that follows from an upgraded method. -/
def impliedName (m : Method) (formerType : ErasedType) : AccessorKind → String
  | .getter => Naming.getter (Naming.property m.name) (formerType == .boolean)
  | .setter => Naming.setter m.name

/-- The accessor of a kind that follows from an upgraded method. -/
def implied (m : Method) (directive : Directive) (fallbacks : Fallbacks) (kind : AccessorKind) :
    Except Refusal Accessor :=
  match m.formerType directive.formerType with
  | .error refusal => .error refusal
  | .ok formerType =>
    match fluency directive.fluentSetter fallbacks.directiveFluentSetter with
    | .error refusal => .error refusal
    | .ok fluent => .ok ⟨kind, impliedName m formerType kind, formerType, fluent⟩

/-- The accessors that an upgraded method has replaced, or the first refusal. -/
def ofDirective (m : Method) (directive : Directive) (fallbacks : Fallbacks) :
    Except Refusal (List Accessor) :=
  match directive.entries with
  | [] => [AccessorKind.getter, .setter].mapM (implied m directive fallbacks)
  | entries => entries.mapM (ofEntry m fallbacks)

end Accessor

end AccessorUpgrade
