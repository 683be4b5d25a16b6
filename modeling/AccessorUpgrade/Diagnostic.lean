import AccessorUpgrade.Site

/-!
# Diagnostics

What is reported of a method that cannot be upgraded. The codes do not change from one release to
the next, so that other programs may rely on them; section E5 of the specification lists them.
-/

namespace AccessorUpgrade

/-- The kinds of diagnostics. -/
inductive Diagnostic.Code where
  | missingProjectContext
  | invalidAccessorShape
  | missingAttribute
  | unresolvedFormerType
  | unsupportedAccessorKind
deriving DecidableEq, Repr

namespace Diagnostic.Code

/-- The word for a code in data. -/
def constant : Code → String
  | missingProjectContext => "MISSING_PROJECT_CONTEXT"
  | invalidAccessorShape => "INVALID_ACCESSOR_SHAPE"
  | missingAttribute => "MISSING_ATTRIBUTE"
  | unresolvedFormerType => "UNRESOLVED_ORIGINAL_TYPE"
  | unsupportedAccessorKind => "UNSUPPORTED_ACCESSOR_KIND"

/-- The code as it is shown to users. -/
def label (code : Code) : String := "E_PROPSHIM_" ++ code.constant

end Diagnostic.Code

/-- A method that cannot be upgraded, and why. -/
structure Diagnostic where
  code : Diagnostic.Code
  message : String
  site : Option Site
deriving DecidableEq, Repr

namespace Diagnostic

/-- Code and message in one line. -/
def text (d : Diagnostic) : String := d.code.label ++ ": " ++ d.message

/-- The line that is shown to users. It starts with the site, or with the signature of the method if
the site does not locate it. -/
def line (d : Diagnostic) (signature : String) : String :=
  let place :=
    match d.site with
    | some site => if site.isLocated then site.text else signature
    | none => signature
  place ++ ": " ++ d.text ++ "\n"

end Diagnostic

end AccessorUpgrade
