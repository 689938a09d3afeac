import MeshDoctor.Json.Printer
import MeshDoctor.Proofs.Catalogue.Outcomes
import MeshDoctor.Proofs.Catalogue.TrafficPolicy
import MeshDoctor.Proofs.Cluster.Services
import MeshDoctor.Proofs.Cluster.Snapshot
import MeshDoctor.Proofs.Envoy.RoundTrip
import MeshDoctor.Proofs.Suite.Records
import MeshDoctor.Proofs.Text.Blanks
import MeshDoctor.Proofs.Text.Words
import MeshDoctor.Proofs.Version

/-!
# Catalogue — outbound routes

The domains of a route configuration are made of the name and the namespace of a service. Whether
one of them is that of a service is seen from its front.

* `IsDomainOf`, `domainMatches_iff`: the domains of a service.
* **`IsDomainOf.unique`**: a domain tells its service, if names have no dots and no colons.
* `ConfigDump.IsFirstRoutes`, `World.HasService`: what the check looks for, by the parts of a dump
  and of a cluster.
* **`Snapshot.hasOutboundRoute_pass_iff`**: when the check passes.
-/

namespace MeshDoctor

open Catalogue Envoy Json

/-! ## Domains of services -/

/-- The name has no dot and no colon. -/
def IsDomainLabel (name : String) : Prop := '.' ∉ name.toList ∧ ':' ∉ name.toList

/-- The domain is that of a service: its name and its namespace, with nothing, a longer domain or a
port after it. -/
def IsDomainOf (domain service ns : String) : Prop :=
  ∃ rest : String, domain = service ++ "." ++ ns ++ rest ∧
    (rest = "" ∨ (∃ more, rest = "." ++ more) ∨ ∃ more, rest = ":" ++ more)

variable {domain service ns service' ns' : String}

theorem dropWord?_eq_some_iff {word text : String} {rest : List Char} :
    Text.dropWord? word text.toList = some rest ↔ text = word ++ String.ofList rest := by
  rw [Text.dropWord?_eq_some_iff_append, ← String.toList_inj, String.toList_append,
    String.toList_ofList]

theorem domainMatches_iff : domainMatches domain (service ++ "." ++ ns) ↔
    IsDomainOf domain service ns := by
  rw [domainMatches, IsDomainOf]
  constructor
  · intro h
    cases hrest : Text.dropWord? (service ++ "." ++ ns) domain.toList with
    | none => simp [hrest] at h
    | some rest =>
      refine ⟨String.ofList rest, dropWord?_eq_some_iff.mp hrest, ?_⟩
      cases rest with
      | nil => exact .inl rfl
      | cons c more =>
        simp only [hrest, Bool.or_eq_true, decide_eq_true_eq] at h
        refine .inr (h.imp (fun hc => ⟨String.ofList more, ?_⟩) fun hc => ⟨String.ofList more, ?_⟩)
        all_goals
          subst hc
          exact String.toList_injective (by simp)
  · rintro ⟨rest, hdomain, hrest⟩
    have hdrop : Text.dropWord? (service ++ "." ++ ns) domain.toList = some rest.toList :=
      dropWord?_eq_some_iff.mpr (by rw [hdomain, String.ofList_toList])
    rw [hdrop]
    rcases hrest with rfl | ⟨more, rfl⟩ | ⟨more, rfl⟩ <;> simp

/-- **A domain tells its service**, if names have no dots and no colons. -/
theorem IsDomainOf.unique (h : IsDomainOf domain service ns) (h' : IsDomainOf domain service' ns')
    (hservice : IsDomainLabel service) (hns : IsDomainLabel ns) (hservice' : IsDomainLabel service')
    (hns' : IsDomainLabel ns') : service = service' ∧ ns = ns' := by
  obtain ⟨rest, rfl, hrest⟩ := h
  obtain ⟨rest', hdomain, hrest'⟩ := h'
  have hchars : service.toList ++ '.' :: (ns.toList ++ rest.toList) =
      service'.toList ++ '.' :: (ns'.toList ++ rest'.toList) := by
    simpa using congrArg String.toList hdomain
  -- The name goes up to the first dot, and the namespace from there to the next dot or colon.
  have hfront : ∀ {name : String}, IsDomainLabel name → ∀ more,
      (name.toList ++ '.' :: more).takeWhile (· ≠ '.') = name.toList := fun hname more =>
    Text.takeWhile_front (fun c hc => decide_eq_true fun h => hname.1 (h ▸ hc)) (by simp)
  have hbehind : ∀ {name : String}, IsDomainLabel name → ∀ {more : String},
      (more = "" ∨ (∃ text, more = "." ++ text) ∨ ∃ text, more = ":" ++ text) →
      (name.toList ++ more.toList).takeWhile (fun c => c ≠ '.' ∧ c ≠ ':') = name.toList := by
    intro name hname more hmore
    refine Text.takeWhile_front (fun c hc => decide_eq_true ⟨fun h => hname.1 (h ▸ hc),
      fun h => hname.2 (h ▸ hc)⟩) ?_
    rcases hmore with rfl | ⟨text, rfl⟩ | ⟨text, rfl⟩ <;> simp
  have hname : service.toList = service'.toList := by
    rw [← hfront hservice, hchars, hfront hservice']
  rw [hname] at hchars
  have hmore := (List.cons.inj (List.append_cancel_left hchars)).2
  refine ⟨String.toList_injective hname, String.toList_injective ?_⟩
  rw [← hbehind hns hrest, hmore, hbehind hns' hrest']

/-! ## Routes and services -/

/-- The first route configuration of a name, the fixed ones coming first. -/
def Envoy.ConfigDump.IsFirstRoutes (dump : ConfigDump) (name : String) (config : RouteConfig) :
    Prop :=
  ∃ before after : List RouteConfig,
    (dump.routes.fixed ++ dump.routes.dynamic).map (·.routeConfig) = before ++ config :: after ∧
      config.name = name ∧ ∀ other ∈ before, other.name ≠ name

theorem routeConfig?_eq_some_iff {dump : ConfigDump} {name : String} {config : RouteConfig} :
    dump.routeConfig? name = some config ↔ dump.IsFirstRoutes name config := by
  rw [ConfigDump.routeConfig?, List.find?_eq_some_iff_append, ConfigDump.IsFirstRoutes]
  simp only [decide_eq_true_eq, Bool.not_eq_true', decide_eq_false_iff_not]
  constructor
  · rintro ⟨hname, before, after, hlist, hbefore⟩
    exact ⟨before, after, hlist, hname, hbefore⟩
  · rintro ⟨before, after, hlist, hname, hbefore⟩
    exact ⟨hname, before, after, hlist, hbefore⟩

/-- In the world, a service of this name selects the pod in its namespace. -/
def World.HasService (w : World) (destination : PodRef) (name : String) : Prop :=
  ∃ pod services, w.finds (getPod destination) = .ok pod ∧
    w.finds (listAs Service.decode .services (.inNamespace destination.namespace)) = .ok services ∧
    ∃ service ∈ services, service.metadata.name = some name ∧ service.Selects pod

namespace Catalogue

theorem routesTo_iff {config : RouteConfig} {names : List String} :
    routesTo config (names.map fun name => name ++ "." ++ ns) ↔
      ∃ host ∈ config.virtualHosts, ∃ domain ∈ host.domains, ∃ name ∈ names,
        IsDomainOf domain name ns := by
  simp only [routesTo, List.any_eq_true, List.mem_flatMap, List.mem_map]
  constructor
  · rintro ⟨domain, ⟨host, hhost, hdomain⟩, _, ⟨name, hname, rfl⟩, hmatches⟩
    exact ⟨host, hhost, domain, hdomain, name, hname, domainMatches_iff.mp hmatches⟩
  · rintro ⟨host, hhost, domain, hdomain, name, hname, hmatches⟩
    exact ⟨domain, ⟨host, hhost, hdomain⟩, _, ⟨name, hname, rfl⟩, domainMatches_iff.mpr hmatches⟩

/-- Once the release and the configuration are read, the pod and its services decide. -/
theorem hasOutboundRoute_eq_pass {w : World} {mesh : Mesh} {destination : PodRef}
    {getter : Option Getter} {release : ReleaseLine} {routes : String} {dump : ConfigDump}
    (hrelease : w.finds mesh.controllerVersion = .ok release)
    (hroutes : routeConfigName release.text .outbound = .ok routes)
    (hdump : w.finds (loadConfig getter) = .ok dump) :
    (w.verdict (hasOutboundRoute mesh destination getter)).status = .pass ↔
      ∃ pod services, w.finds (getPod destination) = .ok pod ∧
        w.finds (servicesSelecting pod) = .ok services ∧
        (dump.routeConfig? routes).any fun config =>
          routesTo config ((serviceNames services).map (· ++ "." ++ destination.namespace)) := by
  rw [hasOutboundRoute, World.verdict_lookup_of_ok hrelease,
    World.verdict_bind_of_ok ((w.finds_diagnosis _).trans hroutes), World.verdict_bind_of_ok hdump]
  cases hpod : w.finds (getPod destination) with
  | error e => simp [World.verdict_lookup_of_error hpod, Outcome.status]
  | ok pod =>
    rw [World.verdict_lookup_of_ok hpod]
    cases hservices : w.finds (servicesSelecting pod) with
    | error e => simp [World.verdict_lookup_of_error hservices, hservices, Outcome.status]
    | ok services =>
      rw [World.verdict_lookup_of_ok hservices]
      simp only [Except.ok.injEq, exists_and_left, exists_eq_left', hservices]
      -- Without services there is no domain to look for, and no route has one.
      cases serviceNames services with
      | nil =>
        have hnone : ∀ config, routesTo config [] = false := fun config => by simp [routesTo]
        cases dump.routeConfig? routes <;> simp [hnone, Outcome.status]
      | cons name names =>
        simp only [List.map_cons, List.isEmpty_cons, Bool.false_eq_true, if_false]
        split <;> simp_all [Outcome.status]

end Catalogue

namespace Snapshot

variable {c : Snapshot} {destination : PodRef} {name : String}

theorem hasService_iff_of_finds {pod : Pod} {services : List Service}
    (hpod : c.world.finds (getPod destination) = .ok pod)
    (hservices : c.world.finds (servicesSelecting pod) = .ok services) :
    c.world.HasService destination name ↔ name ∈ serviceNames services := by
  obtain ⟨all, hall, rfl⟩ := exists_of_finds_servicesSelecting hservices
  rw [namespace_of_getPod hpod] at hall
  have hnames : name ∈ serviceNames (all.filter (·.Selects pod)) ↔
      ∃ service ∈ all, service.metadata.name = some name ∧ service.Selects pod :=
    mem_servicesAmong
  rw [hnames]
  constructor
  · rintro ⟨pod', all', hpod', hall', hservice⟩
    obtain rfl := Except.ok.inj (hpod.symm.trans hpod')
    obtain rfl := Except.ok.inj (hall.symm.trans hall')
    exact hservice
  · exact fun hservice => ⟨pod, all, hpod, hall, hservice⟩

/-- The names that the check reads are those of the services that select the pod. -/
theorem hasService_iff : c.world.HasService destination name ↔
    ∃ pod services, c.world.finds (getPod destination) = .ok pod ∧
      c.world.finds (servicesSelecting pod) = .ok services ∧ name ∈ serviceNames services := by
  constructor
  · intro h
    have ⟨pod, all, hpod, hall, _⟩ := h
    obtain ⟨services, hservices⟩ :
        ∃ services, c.world.finds (servicesSelecting pod) = .ok services := by
      rw [servicesSelecting, World.finds_bind, namespace_of_getPod hpod, hall]
      exact ⟨_, rfl⟩
    exact ⟨pod, services, hpod, hservices, (hasService_iff_of_finds hpod hservices).mp h⟩
  · rintro ⟨pod, services, hpod, hservices, hname⟩
    exact (hasService_iff_of_finds hpod hservices).mpr hname

/-- **The check of outbound routes passes exactly if the route configuration has a domain of a
service that selects the destination.** Where names have no dots and no colons, a domain is that of
one service only, and domains of other services do not make it pass. -/
theorem hasOutboundRoute_pass_iff (c : Snapshot) (mesh : Mesh) (source destination : PodRef)
    (getter : Option Getter) {release : ReleaseLine} {dump : ConfigDump}
    (hrelease : c.world.finds mesh.controllerVersion = .ok release)
    (hsupported : isSupported release.text)
    (hdump : c.world.finds (loadConfig getter) = .ok dump)
    (hns : IsDomainLabel destination.namespace)
    (hnames : ∀ name, c.world.HasService destination name → IsDomainLabel name) :
    let record :=
      (Diagnostic.hasOutboundRoute mesh source destination getter).check.recordIn c.world
    (∀ domain service ns service' ns', IsDomainLabel service → IsDomainLabel ns →
      IsDomainLabel service' → IsDomainLabel ns' → IsDomainOf domain service ns →
      (domainMatches domain (service' ++ "." ++ ns') ↔ service = service' ∧ ns = ns')) ∧
    ∃ routes, routeConfigName release.text .outbound = .ok routes ∧
      (record.status = .pass ↔ ∃ config, dump.IsFirstRoutes routes config ∧
        ∃ host ∈ config.virtualHosts, ∃ domain ∈ host.domains, ∃ name,
          c.world.HasService destination name ∧ IsDomainOf domain name destination.namespace) ∧
      ∀ config, dump.IsFirstRoutes routes config →
        (∀ host ∈ config.virtualHosts, ∀ domain ∈ host.domains, ∃ service ns,
          IsDomainLabel service ∧ IsDomainLabel ns ∧ IsDomainOf domain service ns ∧
            ¬ (c.world.HasService destination service ∧ ns = destination.namespace)) →
        record.status ≠ .pass := by
  intro record
  obtain ⟨routes, hroutes⟩ := (isVersionGate_routeConfigName .outbound release.text).1 hsupported
  have hpass : record.status = .pass ↔ ∃ config, dump.IsFirstRoutes routes config ∧
      ∃ host ∈ config.virtualHosts, ∃ domain ∈ host.domains, ∃ name,
        c.world.HasService destination name ∧ IsDomainOf domain name destination.namespace := by
    have hstatus : record.status =
        (c.world.verdict (hasOutboundRoute mesh destination getter)).status :=
      Diagnostic.status_recordIn _ _
    rw [hstatus, hasOutboundRoute_eq_pass hrelease hroutes hdump]
    simp only [Option.any_eq_true, routesTo_iff, routeConfig?_eq_some_iff, hasService_iff]
    constructor
    · rintro ⟨pod, services, hpod, hservices, config, hfirst, host, hhost, domain, hdomain, name,
        hname, hof⟩
      exact ⟨config, hfirst, host, hhost, domain, hdomain, name,
        ⟨pod, services, hpod, hservices, hname⟩, hof⟩
    · rintro ⟨config, hfirst, host, hhost, domain, hdomain, name,
        ⟨pod, services, hpod, hservices, hname⟩, hof⟩
      exact ⟨pod, services, hpod, hservices, config, hfirst, host, hhost, domain, hdomain, name,
        hname, hof⟩
  refine ⟨fun domain service ns service' ns' hservice hns hservice' hns' hof => ?_, routes, hroutes,
    hpass, fun config hfirst hothers hpassed => ?_⟩
  · rw [domainMatches_iff]
    refine ⟨fun hof' => hof.unique hof' hservice hns hservice' hns', ?_⟩
    rintro ⟨rfl, rfl⟩
    exact hof
  · obtain ⟨config', hfirst', host, hhost, domain, hdomain, name, hname, hof⟩ := hpass.mp hpassed
    obtain rfl : config = config' := Option.some.inj
      ((routeConfig?_eq_some_iff.mpr hfirst).symm.trans (routeConfig?_eq_some_iff.mpr hfirst'))
    obtain ⟨service, ns, hservice, hplain, hof', hother⟩ := hothers host hhost domain hdomain
    obtain ⟨rfl, rfl⟩ := hof'.unique hof hservice hplain (hnames name hname) hns
    exact hother ⟨hname, rfl⟩

end Snapshot

/-! ## Two stocks -/

/-- A store in two namespaces with a service in each, and another service in the first. -/
def stockedShop : Snapshot where
  objects :=
    let pod (ns : String) : String × Value := (Kind.pods.name, .object
      [("metadata", .object
        [("labels", .object [("app", .string "store")]), ("name", .string "store-0"),
          ("namespace", .string ns)])])
    let service (name ns app : String) : String × Value := (Kind.services.name, .object
      [("metadata", named name ns),
        ("spec", .object [("selector", .object [("app", .string app)])])])
    [pod "stock", pod "stock2", service "store" "stock" "store", service "store-b" "stock" "cache",
      service "store" "stock2" "store",
      (Kind.pods.name, .object
        [("metadata", .object
          [("labels", .object
              [("app", .string "osm-controller"),
                ("app.kubernetes.io/version", .string "v0.11.1")]),
            ("namespace", .string "osm-system")])])]

/-- The routes of a buyer, to one domain. -/
def routesOver (domain : String) : ConfigDump where
  routes := { dynamic := [⟨⟨"rds-outbound", [⟨"", [domain]⟩]⟩⟩] }

/-- A sidecar with these routes. -/
def sidecarOver (domain : String) : Getter :=
  .canned ⟨"shop", "buyer"⟩ (.ok (Value.object [("configs", .array
    [(routesOver domain).entry "RoutesConfigDump" .routes])]).compact)

theorem finds_loadConfig_sidecarOver (w : World) (domain : String) :
    w.finds (loadConfig (some (sidecarOver domain))) = .ok (routesOver domain) := by
  have hreadable : ∀ entry ∈ [(routesOver domain).entry "RoutesConfigDump" .routes],
      Readable (nestingLimit - 2) entry := by
    rw [List.forall_mem_singleton]
    exact ConfigDump.readable_entry _ 114 _ .routes
  have hlists := ConfigDump.listsEntries_printed hreadable
  have hentries : ConfigDump.ofEntries [(routesOver domain).entry "RoutesConfigDump" .routes] =
      .ok (routesOver domain) := rfl
  exact finds_loadConfig_canned ((ConfigDump.ofText_of_listsEntries hlists).trans hentries)

/-- The route to the service of the pod passes, and those to a longer name and to a longer namespace
do not. -/
theorem hasOutboundRoute_pass_iff_stocked :
    let pod : PodRef := ⟨"stock", "store-0"⟩
    let status (domain : String) := ((Diagnostic.hasOutboundRoute bookstoreMesh ⟨"shop", "buyer"⟩ pod
      (some (sidecarOver domain))).check.recordIn stockedShop.world).status
    stockedShop.world.finds bookstoreMesh.controllerVersion = .ok ⟨0, 11⟩ ∧
      isSupported "v0.11" ∧ IsDomainLabel pod.namespace ∧
      (∀ name, stockedShop.world.HasService pod name → IsDomainLabel name) ∧
      (∀ domain, stockedShop.world.finds (loadConfig (some (sidecarOver domain))) =
        .ok (routesOver domain)) ∧
      status "store.stock.svc" = .pass ∧ status "store-b.stock:80" ≠ .pass ∧
      status "store.stock2" ≠ .pass := by
  intro pod status
  have hrelease : stockedShop.world.finds bookstoreMesh.controllerVersion = .ok ⟨0, 11⟩ := rfl
  have hplain : IsDomainLabel "stock" ∧ IsDomainLabel "store" ∧ IsDomainLabel "store-b" ∧
      IsDomainLabel "stock2" := by
    simp only [IsDomainLabel]
    decide
  obtain ⟨hstock, hstore, hstoreB, hstock2⟩ := hplain
  have hservice : ∀ name, stockedShop.world.HasService pod name ↔ name = "store" := by
    intro name
    obtain ⟨store, services, hfound, hselecting, hnames⟩ : ∃ store services,
        stockedShop.world.finds (getPod pod) = .ok store ∧
          stockedShop.world.finds (servicesSelecting store) = .ok services ∧
            serviceNames services = ["store"] := ⟨_, _, rfl, rfl, rfl⟩
    rw [Snapshot.hasService_iff_of_finds hfound hselecting, hnames, List.mem_singleton]
  have hnames : ∀ name, stockedShop.world.HasService pod name → IsDomainLabel name := by
    intro name hname
    rwa [(hservice name).mp hname]
  have hdump : ∀ domain, stockedShop.world.finds (loadConfig (some (sidecarOver domain))) =
      .ok (routesOver domain) := finds_loadConfig_sidecarOver _
  have hroute := fun domain => Snapshot.hasOutboundRoute_pass_iff stockedShop bookstoreMesh
    ⟨"shop", "buyer"⟩ pod (some (sidecarOver domain)) hrelease rfl (hdump domain) hstock hnames
  have hfirst : ∀ domain, (routesOver domain).IsFirstRoutes "rds-outbound" _ :=
    fun domain => ⟨[], [], rfl, rfl, by simp⟩
  -- A domain of another service keeps the check from passing.
  have hother : ∀ domain service ns, IsDomainLabel service → IsDomainLabel ns →
      IsDomainOf domain service ns → ¬ (service = "store" ∧ ns = "stock") →
      status domain ≠ .pass := by
    intro domain service ns hservice' hns hof hne
    obtain ⟨-, routes, hroutes, -, hothers⟩ := hroute domain
    obtain rfl := Except.ok.inj hroutes
    refine hothers _ (hfirst domain) fun host hhost d hd => ?_
    obtain rfl := List.mem_singleton.mp hhost
    obtain rfl := List.mem_singleton.mp hd
    exact ⟨service, ns, hservice', hns, hof, fun h => hne ⟨(hservice _).mp h.1, h.2⟩⟩
  refine ⟨hrelease, rfl, hstock, hnames, hdump, ?_, ?_, ?_⟩
  · obtain ⟨-, routes, hroutes, hpass, -⟩ := hroute _
    obtain rfl := Except.ok.inj hroutes
    exact hpass.mpr ⟨_, hfirst _, _, List.mem_singleton_self _, _, List.mem_singleton_self _,
      "store", (hservice _).mpr rfl, ".svc", by decide, .inr (.inl ⟨"svc", by decide⟩)⟩
  · exact hother _ "store-b" "stock" hstoreB hstock ⟨":80", by decide, .inr (.inr ⟨"80", by decide⟩)⟩
      (by decide)
  · exact hother _ "store" "stock2" hstore hstock2 ⟨"", by decide, .inl rfl⟩ (by decide)

end MeshDoctor
