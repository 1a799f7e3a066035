import CmsMarkup.Html.Node

/-! The markup conventions of the content management system that takes the pages. -/

namespace CmsMarkup.Convention

open Html (Attribute)

def headingNames : List String := ["h1", "h2", "h3", "h4"]

def tableWrapperClass : String := "table-layer"

def tableClass : String := "table-headling-x"

def gridClass : String := "img-grid--1"

def galleryClass : String := "lb-gallery"

def mediaName : String := "drupal-entity"

/-- How the system shows an embedded image. -/
def displaySettings : String :=
  "\x7b\"image_style\":\"crop_freeform\",\"image_link\":\"\"," ++
  "\"image_loading\":\x7b\"attribute\":\"lazy\"\x7d,\"svg_render_as_image\":true," ++
  "\"svg_attributes\":\x7b\"width\":\"\",\"height\":\"\"\x7d\x7d"

/-- The media item is found later, so every image names the same one. -/
def mediaAttributes : List Attribute :=
  [⟨"data-entity-type", "media"⟩,
   ⟨"data-entity-uuid", "11111111-2222-3333-4444-555555555555"⟩,
   ⟨"data-embed-button", "media_browser"⟩,
   ⟨"data-entity-embed-display", "media_image"⟩,
   ⟨"data-entity-embed-display-settings", displaySettings⟩]

/-- The system colours no shell code; PHP comes closest. -/
def codeLanguages : List (String × String) :=
  [("language-sh", "language-php"), ("language-bash", "language-php")]

end CmsMarkup.Convention
