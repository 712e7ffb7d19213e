import Std.Data.ExtTreeMap
import RetryTrial.Decline.Basic
import RetryTrial.Traced

/-!
# Decline tables

A `Table` tells for each payment plugin which processor it talks to and what that processor's codes
mean. It is built from registrations: the codes of a processor, of which the last registration
counts, and routes from plugins to processors. Where a processor is registered does not matter; a
route to a processor that never is gets dropped with a warning and changes nothing.
-/

namespace RetryTrial

abbrev CodeTable := Std.ExtTreeMap Int32 Decline

/-- What a processor publishes about one code. -/
structure PublishedCode where
  code : Int32
  message : String
  category : Category
  retryable : Bool
deriving DecidableEq

def PublishedCode.decline (processor : String) (p : PublishedCode) : Decline :=
  ⟨processor, p.code, p.message, p.category, p.retryable⟩

def CodeTable.ofPublished (processor : String) (codes : List PublishedCode) : CodeTable :=
  codes.foldl (fun table p => table.insert p.code (p.decline processor)) ∅

structure Route where
  processor : String
  codes : CodeTable

structure Table where
  routes : Std.ExtTreeMap String Route

inductive Registration
  | processor (name : String) (codes : List PublishedCode)
  | route (plugin processor : String)

/-- What has been registered so far: the code tables of the processors, and the routes in order. -/
structure TableBuilder where
  processors : Std.ExtTreeMap String CodeTable
  routes : List (String × String)

namespace TableBuilder

def empty : TableBuilder := ⟨∅, []⟩

def register (b : TableBuilder) : Registration → TableBuilder
  | .processor name codes =>
    { b with processors := b.processors.insert name (.ofPublished name codes) }
  | .route plugin processor => { b with routes := b.routes ++ [(plugin, processor)] }

def of (registrations : List Registration) : TableBuilder := registrations.foldl register empty

/-- One route more, if its processor is registered. -/
def addRoute (b : TableBuilder) (table : Table) (route : String × String) : Traced Table :=
  let (plugin, processor) := route
  match b.processors[processor]? with
  | some codes => pure ⟨table.routes.insert plugin ⟨processor, codes⟩⟩
  | none => do
    Traced.log (.routeDropped plugin processor)
    return table

def build (b : TableBuilder) : Traced Table := b.routes.foldlM b.addRoute ⟨∅⟩

end TableBuilder

namespace Table

def build (registrations : List Registration) : Traced Table :=
  (TableBuilder.of registrations).build

def processorFor? (table : Table) (plugin : String) : Option String :=
  table.routes[plugin]?.map Route.processor

def codesFor? (table : Table) (plugin : String) : Option CodeTable :=
  table.routes[plugin]?.map Route.codes

def lookup? (table : Table) (plugin : String) (code : Int32) : Option Decline :=
  (table.codesFor? plugin).bind fun codes => codes[code]?

def plugins (table : Table) : List (String × CodeTable) :=
  table.routes.toList.map fun (plugin, route) => (plugin, route.codes)

/-- The codes with that retryable flag and, if one is given, of that category. -/
def filtered (table : Table) (retryable : Bool) (category : Option Category) :
    Std.ExtTreeMap String CodeTable :=
  table.routes.map fun _ route =>
    route.codes.filter fun _ d =>
      d.retryable == retryable && category.all fun c => decide (d.category = c)

/-- Both plugins are routed, and to the same processor. -/
def shares (table : Table) (plugin other : String) : Bool :=
  match table.processorFor? plugin, table.processorFor? other with
  | some p, some q => p == q
  | _, _ => false

theorem lookup?_eq_some {table : Table} {plugin : String} {code : Int32} {d : Decline} :
    table.lookup? plugin code = some d ↔
      ∃ route, table.routes[plugin]? = some route ∧ route.codes[code]? = some d := by
  cases h : table.routes[plugin]? <;> simp [lookup?, codesFor?, h]

end Table

end RetryTrial
