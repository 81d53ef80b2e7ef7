import MarkdownDirectives.Document

/-!
# Layers of properties

Properties come from several sources, the most important one last. A value that counts as given
overrides the same key of an earlier layer; other values override nothing. Classes are not
overridden: those of all layers are collected, each once, in the order they are first seen.
-/

namespace MarkdownDirectives

/-! ## Merging -/

/-- What the layers so far amount to. -/
structure Merged where
  properties : Properties := SortedMap.empty
  classes : List String := []
deriving DecidableEq, Inhabited

/-- Adds a class that is not there yet. -/
def addClass (classes : List String) (token : String) : List String :=
  if token.isEmpty || classes.contains token then classes else classes ++ [token]

/-- The classes that a value lists. -/
def classTokens : Property → List String
  | .string value => Text.wordList value
  | .list items => items
  | .bool _ | .int _ => []

/-- Whether a key holds classes. -/
def isClassKey (key : String) : Bool :=
  key == "class" || key == "className"

/-- Adds an entry of a layer. -/
def Merged.addEntry (m : Merged) (entry : String × Property) : Merged :=
  if !entry.2.truthy then m
  else if isClassKey entry.1 then
    { m with classes := (classTokens entry.2).foldl addClass m.classes }
  else { m with properties := m.properties.insert entry.1 entry.2 }

/-- Adds a layer. -/
def Merged.addLayer (m : Merged) (layer : Properties) : Merged :=
  layer.entries.foldl addEntry m

/-- The merged properties. -/
def Merged.finish (m : Merged) : Properties :=
  if m.classes.isEmpty then m.properties
  else m.properties.insert "className" (.list m.classes)

/-- Merges layers, the most important one last. Absent layers add nothing. -/
def mergeLayers (layers : List (Option Properties)) : Properties :=
  ((layers.filterMap id).foldl Merged.addLayer {}).finish

/-! ## Sources -/

/-- Where properties come from: always the same, or computed from the directive they are for. -/
inductive PropertySource where
  | fixed (properties : Properties)
  | computed (f : Directive → Option Properties)
deriving Inhabited

/-- The properties for a directive. -/
def PropertySource.resolve : PropertySource → Directive → Option Properties
  | fixed properties, _ => some properties
  | computed f, d => f d

/-- The properties of a source, if there is one. -/
def resolveSource (source : Option PropertySource) (d : Directive) : Option Properties :=
  source.bind (·.resolve d)

/-- Merges the sources for a directive, and attributes over them. -/
def mergeSources (sources : List (Option PropertySource)) (d : Directive)
    (attributes : Option Attributes) : Properties :=
  mergeLayers (sources.map (resolveSource · d) ++ [attributes.map Attributes.toProperties])

/-- A layer of one string. -/
def stringLayer (key value : String) : Option Properties :=
  some (Properties.single key (.string value))

/-- A layer of one class. -/
def classLayer (name : String) : Option Properties :=
  some (Properties.single "className" (.list [name]))

/-! ## Render targets -/

/-- What a directive is rendered as. -/
structure RenderTarget where
  name : String
  properties : Properties
  /-- Markup in the place of the directive's children, if any. -/
  children : Option (List Markup) := none
deriving Inhabited

/-- Writes all of a target. -/
def RenderTarget.apply (target : RenderTarget) (data : Data) : Data :=
  { data with
    name := some target.name, properties := some target.properties, children := target.children }

end MarkdownDirectives
