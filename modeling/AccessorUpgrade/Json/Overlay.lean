import AccessorUpgrade.Json.Basic

/-!
# Overlays

Objects laid over each other, the later one on top. What lies on top covers what lies under it, key
by key and on every level.
-/

namespace AccessorUpgrade.Json

/-- The members of an object; any other value has none. -/
def members : Json → List (String × Json)
  | .object members _ => members
  | _ => []

/-- The members with a key set to a value, in the place of its value so far or as the last. -/
def put (key : String) (value : Json) : List (String × Json) → List (String × Json)
  | [] => [(key, value)]
  | (k, v) :: rest => if k == key then (k, value) :: rest else (k, v) :: put key value rest

mutual

/-- A value with another over it. An object goes over the members of what is under it one by one;
any other value covers what is under it wholly. -/
def overlay (under : Json) : Json → Json
  | .object top _ => record (overlayMembers under.members top)
  | value => value

/-- Members with others over them. -/
def overlayMembers (under : List (String × Json)) : List (String × Json) → List (String × Json)
  | [] => under
  | (key, value) :: rest =>
    overlayMembers (put key (overlay ((lookup key under).getD .null) value) under) rest

end

/-- A value below a path of keys, in objects that hold nothing else. -/
def nest (path : List String) (value : Json) : Json :=
  path.foldr (fun key inner => record [(key, inner)]) value

end AccessorUpgrade.Json
