/-
# Declarations

What is generated from the configuration: a declaration for each resource and
for each object that a property holds. There are two families of resources, the
managed objects of the server and the objects of its connectors.

Key definitions: `Family`, `Property`, `SubType`, `ManagedResource`,
`SystemResource`, `Warning`, `ResourceSet`.
-/
import IdentityTypes.TypeExpr

namespace IdentityTypes

/-- The families of resources. -/
inductive Family where
  | managed
  | system
  deriving DecidableEq, Repr

/-- A property of a declared type. Whether reads return it by default is known of
managed objects only. -/
structure Property where
  name : String
  type : Descriptor
  required : Bool
  title : String
  description : String
  returnByDefault : Option Bool
  deriving DecidableEq, Repr

/-- The type of the object that the property `declaredName` of the type
`parentTypeName` holds. -/
structure SubType where
  declaredName : String
  typeName : String
  parentTypeName : String
  properties : List Property
  deriving DecidableEq, Repr

/-- A managed object. -/
structure ManagedResource where
  name : String
  typeName : String
  properties : List Property
  deriving DecidableEq, Repr

/-- Where the object is found on the server. -/
def ManagedResource.path (r : ManagedResource) : String := "managed/" ++ r.name

/-- An object type of a connector. Its full name is the text it is sorted by and
found under. -/
structure SystemResource where
  connector : String
  objectType : String
  fullName : String
  valueName : String
  typeName : String
  properties : List Property
  deriving DecidableEq, Repr

/-- Where the object is found on the server. -/
def SystemResource.path (r : SystemResource) : String := "system/" ++ r.fullName

/-- A relationship that points at no managed object, so that its type stays
open. -/
structure Warning where
  owner : String
  property : String
  candidates : List String
  deriving DecidableEq, Repr

/-- How a warning is worded. -/
def Warning.text (w : Warning) : String :=
  "relationship [" ++ w.property ++ "] of [" ++ w.owner ++
    "] has no managed object in its resource collection [" ++ ", ".intercalate w.candidates ++
    "], using an open map"

/-- The declarations and warnings of one family. -/
structure ResourceSet (R : Type) where
  resources : List R
  subTypes : List SubType
  warnings : List Warning
  deriving DecidableEq, Repr

namespace ResourceSet

variable {R : Type}

/-- The set of nothing. -/
def empty : ResourceSet R := ⟨[], [], []⟩

end ResourceSet

end IdentityTypes
