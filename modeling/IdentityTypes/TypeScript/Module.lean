/-
# The generated module

The catalog of types as a TypeScript module: a header with the imports, the
declarations, and an object with an accessor for each resource. The module is a
list of declarations and entries first, then a list of lines, and a text only at
the end.

Key definitions: `Declaration`, `Catalog.declarations`, `Declaration.lines`,
`Entry`, `Catalog.headerLines`, `Catalog.modelLines`, `Catalog.accessorLines`,
`Catalog.render`.
-/
import IdentityTypes.Catalog
import IdentityTypes.Text.Blank
import IdentityTypes.Text.Lines
import IdentityTypes.TypeScript.Name
import IdentityTypes.TypeScript.TypeText

namespace IdentityTypes.TypeScript

/-- A declaration of the module: an object type, where a resource has its path
as tag, or the members of an object type that reads return by default. -/
inductive Declaration where
  | object (name : String) (tag : Option String) (properties : List Property)
  | pick (name : String) (source : String) (keys : List String)
  deriving DecidableEq, Repr

/-- The accessor of a resource: its key, the type of the resource, the type of
what reads return by default, and the path of the resource. -/
structure Entry where
  key : String
  model : String
  defaults : String
  path : String
  deriving DecidableEq, Repr

/-- The member that holds the path of a resource. -/
def tagName : String := "_tag"

/-- The name of the type of what reads return by default. -/
def defaultsName (typeName : String) : String := typeName ++ "Defaults"

/-- The keys that reads return by default. -/
def defaultKeys (properties : List Property) : List String :=
  tagName :: (properties.filter fun p => p.returnByDefault.getD true).map (·.name)

/-- The declarations of a managed object. -/
def managedDeclarations (r : ManagedResource) : List Declaration :=
  [.object r.typeName (some r.path) r.properties,
    .pick (defaultsName r.typeName) r.typeName (defaultKeys r.properties)]

/-- The declaration of an object type of a connector. -/
def systemDeclaration (r : SystemResource) : Declaration :=
  .object r.typeName (some r.path) r.properties

/-- The declaration of an object that a property holds. -/
def subTypeDeclaration (s : SubType) : Declaration :=
  .object s.typeName none s.properties

/-- The declarations of the module. -/
def declarations (c : Catalog) : List Declaration :=
  c.managed.flatMap managedDeclarations ++
    (c.managedSubTypes.map subTypeDeclaration ++
      (c.system.map systemDeclaration ++ c.systemSubTypes.map subTypeDeclaration))

/-- The accessors of the managed objects. -/
def managedEntries (c : Catalog) : List Entry :=
  c.managed.map fun r => ⟨r.name, r.typeName, defaultsName r.typeName, r.path⟩

/-- The accessors of the connectors' objects. Nothing is known about what reads of
them return by default, so they return the whole object. -/
def systemEntries (c : Catalog) : List Entry :=
  c.system.map fun r => ⟨r.valueName, r.typeName, r.typeName, r.path⟩

/-- A line of a comment, in which no comment can end. -/
def guardComment : List Char → List Char
  | '*' :: '/' :: r => '*' :: '\\' :: '/' :: guardComment r
  | c :: r => c :: guardComment r
  | [] => []

/-- The lines that a comment shows: the title, and after an empty line the
description. -/
def commentLines (p : Property) : List (List Char) :=
  let title := Text.linesOf p.title
  if p.description = "" then title
  else if title.isEmpty then Text.linesOf p.description
  else title ++ [] :: Text.linesOf p.description

/-- A line of a comment as it is written. -/
def commentLine (line : List Char) : String :=
  match guardComment (Text.trimEnd line) with
  | [] => "   *"
  | cs => "   * " ++ String.ofList cs

/-- The comment of a property, if there is anything to say. -/
def docLines (p : Property) : List String :=
  match commentLines p with
  | [] => []
  | lines => "  /**" :: lines.map commentLine ++ ["   */"]

/-- The line of a property. -/
def propertyLine (p : Property) : String :=
  "  " ++ propertyKey p.name ++ (if p.required then "" else "?") ++ ": " ++ p.type.text ++ ";"

/-- The lines of a property. -/
def propertyLines (p : Property) : List String := docLines p ++ [propertyLine p]

/-- The line that a declaration of an object type begins with. -/
def openLine (name : String) : String := "export type " ++ name ++ " = \x7b"

/-- The line of the member that holds the path of a resource. -/
def tagLine (path : String) : String := "  readonly " ++ tagName ++ "?: " ++ Json.quote path ++ ";"

/-- The line of the members that reads return by default. -/
def pickLine (name source : String) (keys : List String) : String :=
  "export type " ++ name ++ " = Pick<" ++ source ++ ", " ++
    " | ".intercalate (keys.map Json.quote) ++ ">;"

/-- The lines of a declaration, with an empty one at the end. -/
def Declaration.lines : Declaration → List String
  | .object name tag properties =>
    openLine name :: (tag.toList.map tagLine ++ (properties.flatMap propertyLines ++ ["\x7d;", ""]))
  | .pick name source keys => [pickLine name source keys, ""]

/-- The line of an accessor. -/
def Entry.line (e : Entry) : String :=
  "    " ++ propertyKey e.key ++ ": idmObject<" ++ e.model ++ ", " ++ e.defaults ++ ">(" ++
    Json.quote e.path ++ "),"

/-- All properties that are written. -/
def properties (c : Catalog) : List Property :=
  c.managed.flatMap (·.properties) ++ (c.system.flatMap (·.properties) ++
    (c.managedSubTypes.flatMap (·.properties) ++ c.systemSubTypes.flatMap (·.properties)))

/-- What the module imports. -/
def imports (c : Catalog) : List String :=
  (if c.managed.isEmpty && c.system.isEmpty then [] else ["idmObject"]) ++
    (if (properties c).any (·.type.types.any TypeExpr.usesReference) then ["ReferenceType"] else [])

/-- The lines with which the module begins. -/
def headerLines (runtimeModule : String) (c : Catalog) : List String :=
  "// Generated by idm-ts-gen, do not edit." ::
    ((match imports c with
      | [] => []
      | names =>
        ["import \x7b " ++ ", ".intercalate names ++ " \x7d from " ++ Json.quote runtimeModule ++
          ";"]) ++ [""])

/-- The lines of the declarations. -/
def modelLines (c : Catalog) : List String := (declarations c).flatMap Declaration.lines

/-- The lines of the accessors. -/
def accessorLines (c : Catalog) : List String :=
  ["export const idm = \x7b", "  managed: \x7b"] ++ (managedEntries c).map Entry.line ++
    ["  \x7d,", "  system: \x7b"] ++ (systemEntries c).map Entry.line ++ ["  \x7d,", "\x7d;"]

/-- The lines of the module. -/
def lines (runtimeModule : String) (c : Catalog) : List String :=
  headerLines runtimeModule c ++ (modelLines c ++ accessorLines c)

/-- The text of the module. -/
def render (runtimeModule : String) (c : Catalog) : String :=
  Text.unlines (lines runtimeModule c)

end IdentityTypes.TypeScript
