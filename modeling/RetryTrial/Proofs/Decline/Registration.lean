import RetryTrial.Decline.Table
import RetryTrial.Proofs.LastMember

/-!
# Tables by their registrations

A table is determined by two sequences: the processors in the order of their registration, and the
routes in theirs. The last registration of a processor counts, and of its rows the last one of each
code. The last route of a plugin counts among those to a processor that is registered anywhere.
-/

namespace RetryTrial

namespace Registration

def processor? : Registration → Option (String × List PublishedCode)
  | processor name codes => some (name, codes)
  | route .. => none

def route? : Registration → Option (String × String)
  | processor .. => none
  | route plugin name => some (plugin, name)

theorem processor?_eq_some {r : Registration} {p : String × List PublishedCode} :
    r.processor? = some p ↔ r = processor p.1 p.2 := by
  cases r <;> simp [processor?, Prod.ext_iff]

theorem route?_eq_some {r : Registration} {p : String × String} :
    r.route? = some p ↔ r = route p.1 p.2 := by
  cases r <;> simp [route?, Prod.ext_iff]

end Registration

theorem CodeTable.getElem?_ofPublished_eq_some_iff {processor : String}
    {rows : List PublishedCode} {code : Int32} {d : Decline} :
    (ofPublished processor rows)[code]? = some d ↔
      ∃ row, IsLast (fun r : PublishedCode => r.code = code) rows row ∧
        row.decline processor = d := by
  rw [ofPublished, getElem?_foldl_insert]
  simp only [Std.ExtTreeMap.getElem?_empty, Option.or_none, Option.map_eq_some_iff,
    find?_reverse_eq_some_iff]

namespace Table

variable {registrations : List Registration} {plugin name : String} {rows : List PublishedCode}
  {code : Int32} {d : Decline}

def processors (registrations : List Registration) : List (String × List PublishedCode) :=
  registrations.filterMap Registration.processor?

def routed (registrations : List Registration) : List (String × String) :=
  registrations.filterMap Registration.route?

def Registered (registrations : List Registration) (name : String) : Prop :=
  ∃ rows, Registration.processor name rows ∈ registrations

/-- These are the rows of the processor's last registration. -/
def Publishes (registrations : List Registration) (name : String) (rows : List PublishedCode) :
    Prop :=
  IsLast (fun p : String × List PublishedCode => p.1 = name) (processors registrations) (name, rows)

/-- The plugin's last route to a registered processor leads to this one. -/
def Targets (registrations : List Registration) (plugin name : String) : Prop :=
  IsLast (fun r : String × String => r.1 = plugin ∧ Registered registrations r.2)
    (routed registrations) (plugin, name)

theorem mem_processors : (name, rows) ∈ processors registrations ↔
    .processor name rows ∈ registrations := by
  simp [processors, Registration.processor?_eq_some]

theorem mem_routed : (plugin, name) ∈ routed registrations ↔
    .route plugin name ∈ registrations := by
  simp [routed, Registration.route?_eq_some]

theorem exists_publishes_iff :
    (∃ rows, Publishes registrations name rows) ↔ Registered registrations name := by
  constructor
  · rintro ⟨rows, h⟩
    exact ⟨rows, mem_processors.mp h.mem⟩
  · rintro ⟨rows, h⟩
    have hmem : ∃ p ∈ processors registrations, p.1 = name :=
      ⟨(name, rows), mem_processors.mpr h, rfl⟩
    obtain ⟨⟨name', rows'⟩, hlast⟩ := exists_isLast_iff.mpr hmem
    obtain rfl : name' = name := hlast.holds
    exact ⟨rows', hlast⟩

theorem exists_targets_iff : (∃ name, Targets registrations plugin name) ↔
    ∃ name, .route plugin name ∈ registrations ∧ Registered registrations name := by
  constructor
  · rintro ⟨name, h⟩
    exact ⟨name, mem_routed.mp h.mem, h.holds.2⟩
  · rintro ⟨name, hr, hreg⟩
    have hmem : ∃ r ∈ routed registrations, r.1 = plugin ∧ Registered registrations r.2 :=
      ⟨(plugin, name), mem_routed.mpr hr, rfl, hreg⟩
    obtain ⟨⟨plugin', name'⟩, hlast⟩ := exists_isLast_iff.mpr hmem
    obtain rfl : plugin' = plugin := hlast.holds.1
    exact ⟨name', hlast⟩

theorem processors_foldl_register (registrations : List Registration) (b : TableBuilder) :
    (registrations.foldl TableBuilder.register b).processors =
      (processors registrations).foldl
        (fun map p => map.insert p.1 (CodeTable.ofPublished p.1 p.2)) b.processors := by
  induction registrations generalizing b with
  | nil => rfl
  | cons r rest ih => cases r <;> exact ih _

theorem routes_foldl_register (registrations : List Registration) (b : TableBuilder) :
    (registrations.foldl TableBuilder.register b).routes = b.routes ++ routed registrations := by
  induction registrations generalizing b with
  | nil => simp [routed]
  | cons r rest ih =>
      rw [List.foldl_cons, ih]
      cases r with
      | processor name codes => rfl
      | route plugin name => simp [TableBuilder.register, routed, Registration.route?]

theorem routes_of (registrations : List Registration) :
    (TableBuilder.of registrations).routes = routed registrations :=
  routes_foldl_register registrations .empty

theorem processors_of (registrations : List Registration) :
    (TableBuilder.of registrations).processors =
      (processors registrations).foldl
        (fun map p => map.insert p.1 (CodeTable.ofPublished p.1 p.2)) ∅ :=
  processors_foldl_register registrations .empty

theorem getElem?_processors_of_eq_some_iff {codes : CodeTable} :
    (TableBuilder.of registrations).processors[name]? = some codes ↔
      ∃ rows, Publishes registrations name rows ∧ CodeTable.ofPublished name rows = codes := by
  rw [processors_of, getElem?_foldl_insert, Std.ExtTreeMap.getElem?_empty, Option.or_none,
    Option.map_eq_some_iff]
  simp only [find?_reverse_eq_some_iff]
  constructor
  · rintro ⟨⟨name', rows⟩, hlast, rfl⟩
    obtain rfl : name' = name := hlast.holds
    exact ⟨rows, hlast, rfl⟩
  · rintro ⟨rows, hlast, rfl⟩
    exact ⟨(name, rows), hlast, rfl⟩

theorem exists_getElem?_processors_of_iff :
    (∃ codes, (TableBuilder.of registrations).processors[name]? = some codes) ↔
      Registered registrations name := by
  simp only [getElem?_processors_of_eq_some_iff, ← exists_publishes_iff]
  exact ⟨fun ⟨_, rows, h, _⟩ => ⟨rows, h⟩, fun ⟨rows, h⟩ => ⟨_, rows, h, rfl⟩⟩

instance : Decidable (Registered registrations name) :=
  decidable_of_iff ((TableBuilder.of registrations).processors[name]?.isSome = true) <| by
    rw [Option.isSome_iff_exists, exists_getElem?_processors_of_iff]

section Builder

variable (b : TableBuilder)

/-- What a route adds to the table under its plugin. -/
def routeOf? (plugin : String) (r : String × String) : Option Route :=
  if r.1 = plugin then b.processors[r.2]?.map (Route.mk r.2) else none

variable {b}

theorem routeOf?_eq_some_iff {r : String × String} {route : Route} :
    routeOf? b plugin r = some route ↔
      r = (plugin, route.processor) ∧ b.processors[route.processor]? = some route.codes := by
  obtain ⟨plugin', name⟩ := r
  obtain ⟨processor, codes⟩ := route
  by_cases hp : plugin' = plugin <;> by_cases hn : name = processor <;>
    simp [routeOf?, hp, hn]

theorem exists_routeOf?_iff {r : String × String} :
    (∃ route, routeOf? b plugin r = some route) ↔
      r.1 = plugin ∧ ∃ codes, b.processors[r.2]? = some codes := by
  simp only [routeOf?_eq_some_iff]
  constructor
  · rintro ⟨route, rfl, h⟩
    exact ⟨rfl, route.codes, h⟩
  · rintro ⟨rfl, codes, h⟩
    exact ⟨⟨r.2, codes⟩, rfl, h⟩

theorem getElem?_routes_addRoute (table : Table) (r : String × String) (plugin : String) :
    (b.addRoute table r).value.routes[plugin]? =
      (routeOf? b plugin r).or table.routes[plugin]? := by
  rw [TableBuilder.addRoute, routeOf?]
  cases b.processors[r.2]? with
  | none => simp
  | some codes =>
      by_cases hp : r.1 = plugin <;> simp [Std.ExtTreeMap.getElem?_insert, hp]

theorem getElem?_routes_foldlM (table : Table) (routes : List (String × String))
    (plugin : String) :
    (routes.foldlM b.addRoute table).value.routes[plugin]? =
      (routes.reverse.findSome? (routeOf? b plugin)).or table.routes[plugin]? := by
  induction routes generalizing table with
  | nil => simp
  | cons r routes ih =>
      rw [List.foldlM_cons, Traced.value_bind, ih, getElem?_routes_addRoute, List.reverse_cons,
        List.findSome?_append, Option.or_assoc, List.findSome?_singleton]

theorem entries_foldlM (table : Table) (routes : List (String × String)) :
    (routes.foldlM b.addRoute table).entries =
      (routes.filter fun r => b.processors[r.2]?.isNone).map fun r => .routeDropped r.1 r.2 := by
  induction routes generalizing table with
  | nil => rfl
  | cons r routes ih =>
      rw [List.foldlM_cons, Traced.entries_bind, ih, TableBuilder.addRoute]
      cases h : b.processors[r.2]? <;> simp [h]

end Builder

theorem entries_build (registrations : List Registration) :
    (build registrations).entries =
      ((routed registrations).filter fun r => ¬ Registered registrations r.2).map fun r =>
        .routeDropped r.1 r.2 := by
  rw [build, TableBuilder.build, entries_foldlM, routes_of]
  congr 1
  apply List.filter_congr
  intro r _
  have hreg : (TableBuilder.of registrations).processors[r.2]?.isSome ↔
      Registered registrations r.2 := by
    rw [Option.isSome_iff_exists, exists_getElem?_processors_of_iff]
  simp only [← hreg]
  cases (TableBuilder.of registrations).processors[r.2]? <;> rfl

theorem getElem?_routes_build_eq_some_iff {route : Route} :
    (build registrations).value.routes[plugin]? = some route ↔
      Targets registrations plugin route.processor ∧
        (TableBuilder.of registrations).processors[route.processor]? = some route.codes := by
  rw [build, TableBuilder.build, getElem?_routes_foldlM, routes_of, Std.ExtTreeMap.getElem?_empty,
    Option.or_none, findSome?_reverse_eq_some_iff]
  simp only [exists_routeOf?_iff, exists_getElem?_processors_of_iff]
  simp only [routeOf?_eq_some_iff]
  constructor
  · rintro ⟨r, hlast, rfl, hreg⟩
    exact ⟨hlast, hreg⟩
  · rintro ⟨hlast, hreg⟩
    exact ⟨_, hlast, rfl, hreg⟩

theorem processorFor?_build_eq_some_iff :
    (build registrations).value.processorFor? plugin = some name ↔
      Targets registrations plugin name := by
  rw [processorFor?, Option.map_eq_some_iff]
  constructor
  · rintro ⟨route, h, rfl⟩
    exact (getElem?_routes_build_eq_some_iff.mp h).1
  · intro h
    obtain ⟨codes, hreg⟩ := exists_getElem?_processors_of_iff.mpr h.holds.2
    exact ⟨⟨name, codes⟩, getElem?_routes_build_eq_some_iff.mpr ⟨h, hreg⟩, rfl⟩

theorem codesFor?_build_eq_some_iff {codes : CodeTable} :
    (build registrations).value.codesFor? plugin = some codes ↔
      ∃ name, Targets registrations plugin name ∧
        (TableBuilder.of registrations).processors[name]? = some codes := by
  rw [codesFor?, Option.map_eq_some_iff]
  constructor
  · rintro ⟨route, h, rfl⟩
    exact ⟨route.processor, getElem?_routes_build_eq_some_iff.mp h⟩
  · rintro ⟨name, h, hreg⟩
    exact ⟨⟨name, codes⟩, getElem?_routes_build_eq_some_iff.mpr ⟨h, hreg⟩, rfl⟩

theorem lookup?_build_eq_some_iff :
    (build registrations).value.lookup? plugin code = some d ↔
      ∃ name rows row, Targets registrations plugin name ∧ Publishes registrations name rows ∧
        IsLast (fun r : PublishedCode => r.code = code) rows row ∧ row.decline name = d := by
  rw [lookup?, Option.bind_eq_some_iff]
  simp only [codesFor?_build_eq_some_iff, getElem?_processors_of_eq_some_iff]
  constructor
  · rintro ⟨_, ⟨name, ht, rows, hp, rfl⟩, hd⟩
    obtain ⟨row, hrow, rfl⟩ := CodeTable.getElem?_ofPublished_eq_some_iff.mp hd
    exact ⟨name, rows, row, ht, hp, hrow, rfl⟩
  · rintro ⟨name, rows, row, ht, hp, hrow, rfl⟩
    exact ⟨_, ⟨name, ht, rows, hp, rfl⟩,
      CodeTable.getElem?_ofPublished_eq_some_iff.mpr ⟨row, hrow, rfl⟩⟩

end Table

end RetryTrial
