import MarkdownDirectives.Family.Basic
import MarkdownDirectives.Options

/-!
# Image containers

A container around at least one image. The suffix of its name is the tag it is rendered as. A
figure gets a caption: the label of the container, or else the text of the image it starts with.
-/

namespace MarkdownDirectives

/-- The tags that an image container can have. -/
def imageTags : List String := [
  "figure", "a", "div", "span", "section", "article", "main", "aside", "header", "footer", "nav",
  "fieldset", "form"]

/-! ## Images -/

/-- Adds properties to those of an image. -/
def Image.addProperties (properties : Option Properties) (image : Image) : Image :=
  match properties with
  | some added =>
    { image with data.properties := some (mergeLayers [image.data.properties, some added]) }
  | none => image

/-- Changes the images that the scope selects, `none` if there is no image at all. -/
def ImageScope.mapImages? (scope : ImageScope) (f : Image → Image) (nodes : List Node) :
    Option (List Node) :=
  match scope with
  | .first => Node.mapFirstImageList? f nodes
  | .all => if (Node.imagesList nodes).isEmpty then none else some (Node.mapImagesList f nodes)

/-- An image instead of a paragraph that holds nothing else. The label of a container stays. -/
def stripNode : Node → Node
  | .paragraph data [.image image] =>
    if data.label then .paragraph data [.image image] else .image image
  | node => node

/-! ## Captions -/

/-- A label with nothing in it. -/
def isEmptyLabel : Node → Bool
  | .paragraph data [] => data.label
  | _ => false

/-- The image that nodes start with, alone or at the front of a paragraph. -/
def leadingImage? : List Node → Option Image
  | .image image :: _ => some image
  | .paragraph _ (.image image :: _) :: _ => some image
  | _ => none

/-- The caption for nodes that do not start with a label. -/
def imageCaption (nodes : List Node) : Except DirectiveFault (List Node) :=
  match leadingImage? nodes with
  | some image =>
    if image.alt.isEmpty then .error .captionMissing else .ok [.text image.alt]
  | none => .error .captionMissing

/-- The nodes without their label, and the caption. -/
def takeCaption (nodes : List Node) : List Node × Except DirectiveFault (List Node) :=
  match nodes.filter (!isEmptyLabel ·) with
  | .paragraph data children :: rest =>
    if data.label && !children.isEmpty then (rest, .ok children)
    else (.paragraph data children :: rest, imageCaption (.paragraph data children :: rest))
  | nodes => (nodes, imageCaption nodes)

/-! ## Rendering -/

/-- A caption with its properties. -/
def captionNode (properties : Properties) (caption : List Node) : Node :=
  .paragraph { name := some "figcaption", properties := some properties } caption

/-- A figure: the children with the caption behind them, and what they are rendered as. -/
def ImageOptions.figure (options : ImageOptions) (d : Directive) :
    List Node × Except DirectiveFault RenderTarget :=
  let captionProperties := mergeSources [options.captionProperties] d (some d.attributes)
  match takeCaption d.children with
  | (children, .error fault) => (children, .error fault)
  | (children, .ok caption) =>
    (children ++ [captionNode captionProperties caption],
      .ok { name := "figure", properties := mergeSources [options.figureProperties] d none })

/-- The children that an image container ends up with, and what it is rendered as. -/
def ImageOptions.resolve (options : ImageOptions) (d : Directive) (suffix : Option String) :
    List Node × Except DirectiveFault RenderTarget :=
  match suffix.filter imageTags.contains with
  | none => (d.children, .error .unknownTag)
  | some tag =>
    let added := resolveSource options.imageProperties d
    match options.scope.mapImages? (Image.addProperties added) d.children with
    | none => (d.children, .error .imageMissing)
    | some children =>
      let d := { d with
        children := if options.stripParagraph then children.map stripNode else children }
      if tag = "figure" then options.figure d
      else (d.children, .ok {
        name := tag
        properties := mergeSources [options.elementProperties] d (some d.attributes) })

end MarkdownDirectives
