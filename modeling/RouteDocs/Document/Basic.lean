import RouteDocs.Operation.Basic

/-!
The two kinds of documents: the listing of all resources, and the declaration of one resource.
-/

namespace RouteDocs

structure Api where
  path : String
  description : String
  operations : List Operation
deriving DecidableEq

/-- the document of one resource -/
structure Declaration where
  apiVersion : String
  swaggerVersion : String
  basePath : String
  resourcePath : String
  apis : List Api
  models : OrderedMap String Schema.Model
deriving DecidableEq

/-- a resource as the listing mentions it -/
structure ResourceRef where
  path : String
  description : String
deriving DecidableEq

/-- the document that lists every resource -/
structure Listing where
  apiVersion : String
  swaggerVersion : String
  basePath : String
  apis : List ResourceRef
  info : OrderedMap String String
deriving DecidableEq

def swaggerVersion : String := "1.2"

end RouteDocs
