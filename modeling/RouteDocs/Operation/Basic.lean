import RouteDocs.Json.Basic
import RouteDocs.Schema.Model

/-!
Operations: one documented handler, with its route, its parameters and its responses.
-/

namespace RouteDocs

structure Parameter where
  name : String
  /-- where the parameter is sent: query, form, path, body or header -/
  paramType : String
  type : String
  dataType : String
  required : Bool
  description : String
deriving DecidableEq

structure Response where
  code : Int
  message : String
  /-- the model of the response body -/
  model : Option String
deriving DecidableEq

/-- one documented handler -/
structure Operation where
  method : String := "GET"
  nickname : String := ""
  type : String := ""
  items : Option Schema.Items := none
  summary : String := ""
  notes : String := ""
  parameters : List Parameter := []
  responses : List Response := []
  consumes : List String := []
  produces : List String := []
  /-- free-form objects, each given by its members -/
  authorizations : List (List (String × Json)) := []
  protocols : List String := []
  path : String := ""
  /-- the models that the responses reach; they belong to the resource, not to the written operation -/
  models : List Schema.Model := []
deriving DecidableEq

/-- an operation about which nothing is known yet -/
def Operation.blank : Operation := {}

end RouteDocs
