/-
# Names of types and values

How the generated names are made from the names in the configuration. A type
is named by its words, each with a capital (`MailAddress`); a value is named
by the same words but the first, which is small (`mailAddress`). Names of
different kinds of types begin differently: `Managed`, `System` and, for types
inside others, `Sub`.

A name whose words cannot be told apart (`Name.wordsOf`) makes no name at all.

Key definitions: `typeName`, `valueName`, `managedTypeName`, `systemTypeName`,
`systemValueName`, `subTypeName`.
-/
import IdentityTypes.Name.Words

namespace IdentityTypes.Name

open Text

/-- Every word with a capital. -/
def upperCamel (words : List (List Char)) : List Char :=
  words.flatMap capitalize

/-- The first word small, every other word with a capital. -/
def lowerCamel : List (List Char) → List Char
  | [] => []
  | w :: ws => lower w ++ upperCamel ws

/-- The name that a type takes from `name`. -/
def typeName (name : String) : Option String :=
  (wordsOf name.toList).map fun ws => String.ofList (upperCamel ws)

/-- The name that a value takes from `name`. -/
def valueName (name : String) : Option String :=
  (wordsOf name.toList).map fun ws => String.ofList (lowerCamel ws)

/-- The type of a managed object: `user` gives `ManagedUser`. -/
def managedTypeName (object : String) : Option String := do
  let object ← typeName object
  pure ("Managed" ++ object)

/-- The type of an object of a connector: `ldap` and `account` give
`SystemLdapAccount`. -/
def systemTypeName (connector objectType : String) : Option String := do
  let connector ← typeName connector
  let objectType ← typeName objectType
  pure ("System" ++ connector ++ objectType)

/-- The accessor of an object of a connector: `ldap` and `account` give
`ldapAccount`. -/
def systemValueName (connector objectType : String) : Option String := do
  let connector ← valueName connector
  let objectType ← typeName objectType
  pure (connector ++ objectType)

/-- The type of the object that a property of `parent` holds. Only the
outermost of several such types gets the word `Sub`: `address` of `ManagedUser`
is a `SubManagedUserAddress`, and `geo` of that a `SubManagedUserAddressGeo`. -/
def subTypeName (parent property : String) : Option String := do
  let property ← typeName property
  pure (if "Sub".toList.isPrefixOf parent.toList then parent ++ property
    else "Sub" ++ parent ++ property)

example : managedTypeName "user" = some "ManagedUser" := by decide +kernel
example : systemValueName "ldap" "account" = some "ldapAccount" := by decide +kernel
example : subTypeName "SubManagedUserAddress" "geo_point" = some "SubManagedUserAddressGeoPoint" := by
  decide +kernel
example : typeName "prénom_usuel" = some "Préno_usuel" := by decide +kernel

end IdentityTypes.Name
