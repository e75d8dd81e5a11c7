import RouteDocs.Document.Wire
import RouteDocs.Json.Printer
import RouteDocs.Text.Quoted

/-!
Documents as text, and the generated module that holds them: a listing, and a declaration for each resource in the
order of the keys, all of them as quoted literals.
-/

namespace RouteDocs

def renderDocument {α : Type} [Tree α] (document : α) : String := (wire document).pretty

/-- documents as text; the declarations stand under the keys of their resources -/
structure DocumentTexts where
  listing : String
  descriptions : OrderedMap String String
deriving DecidableEq

/-- the texts of a listing and of declarations, these in the order of their keys -/
def renderDocuments (listing : Listing) (declarations : OrderedMap String Declaration) : DocumentTexts where
  listing := renderDocument listing
  descriptions := (declarations.sortKeys textLe).mapValues renderDocument

def moduleHeader : String := "\"\"\"This file is generated automatically. Do not edit it manually.\"\"\"\n\n"

def descriptionLine (key text : String) : String := "    " ++ Text.quoted key ++ ": " ++ Text.quoted text ++ ",\n"

def renderModule (texts : DocumentTexts) : String :=
  moduleHeader ++ "RESOURCE_LISTING = " ++ Text.quoted texts.listing ++ "\n\nAPI_DESCRIPTIONS = \x7b\n"
    ++ String.join ((texts.descriptions.sortKeys textLe).entries.map fun e => descriptionLine e.1 e.2) ++ "\x7d\n"

end RouteDocs
