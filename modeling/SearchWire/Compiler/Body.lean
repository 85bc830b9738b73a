import SearchWire.Compiler.Walk

/-!
# Bodies

What is compiled as a whole: expressions, searches, containers of
aggregations, documents and the mappings of single fields.
-/

namespace SearchWire

def Config.compiler (config : Config) (dialect : Dialect) : Compiler := ⟨dialect, config.maxDepth⟩

def Expr.compile (c : Compiler) (expr : Expr) : Result Json := expr.compileAt c 0

def Expr.fieldNameAt (c : Compiler) (expr : Expr) (depth : Nat) : Result String := do
  (← expr.compileAt c depth).fieldName

def Search.compile (config : Config) (search : Search) : Result Json := do
  let c := config.compiler .query
  search.compileAt c (← c.enter 0)

def Search.body (search : Search) : Result Json := search.compile search.config

namespace Aggregations

def compile (config : Config) (aggregations : Aggregations) : Result Json := do
  let c := config.compiler .query
  return .object (← compileAggregations c aggregations (← c.enter 0))

end Aggregations

def Document.compile (config : Config) (document : Document) : Result Json := do
  let c := config.compiler .mapping
  document.compileAt c (← c.enter 0)

def Document.mapping (document : Document) : Result Json := document.compile .default

/-- The mapping of one field without its name. -/
def Field.mapping (config : Config) (field : Field) (depth : Nat) : Result Json := do
  return .object (← field.fragmentAt (config.compiler .mapping) depth)

end SearchWire
