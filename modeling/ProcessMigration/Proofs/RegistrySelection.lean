import Mathlib.Data.List.Perm.Basic
import ProcessMigration.Proofs.PipelineOrder
import ProcessMigration.Proofs.Registrations
import ProcessMigration.Proofs.Triple

/-!
# What settings choose from a registry

A build first looks at all entries of the settings, and refuses them at the first one that is
unknown or stands there twice. Only then does it run factories: for the interceptors that run by
themselves and are not mentioned, and then for the enabled entries, up to the first factory that
fails.

* `Registry.Accepts` and `Registry.Rejects` say which settings are refused, and why;
* `Registry.Schedules` says which factories have to be run with what, and in which order;
* `Registry.Builds` says what a build comes to and which factories it runs:
  `Registry.watchedBuild_run_iff`;
* `Registry.Builds.perm`: settings in another order choose the same interceptors;
* `Registry.settings_choose_interceptors` sums it up for all registrations and all settings.
-/

namespace ProcessMigration

open Registration (IsLatest)

/-- What tells a factory which interceptor to make: its id and the properties. -/
def FactoryRun.order (x : FactoryRun) : String × SortedMap Json := (x.id, x.properties)

/-- The run of the factory makes this interceptor. -/
def FactoryRun.Makes (x : FactoryRun) (i : Interceptor) : Prop := x.result = .ok i

namespace Registry

variable {came : List Registration} {settings settings' : List InterceptorSettings}
  {runs done rest : List FactoryRun} {is : List Interceptor} {p p' : Pipeline} {x : FactoryRun}
  {e : RegistryError} {r : Except RegistryError Pipeline}

/-! ## Which settings are refused -/

/-- All entries are known, and no two have the same id. -/
structure Accepts (came : List Registration) (settings : List InterceptorSettings) : Prop where
  known : ∀ s ∈ settings, s.id ∈ came.map (·.id)
  distinct : (settings.map (·.id)).Nodup

/-- The entries before one are all right, but that one is unknown, or it repeats the id of one of
them. Whether it is enabled does not matter. -/
inductive Rejects (came : List Registration) (settings : List InterceptorSettings) :
    RegistryError → Prop where
  | unknown {before after : List InterceptorSettings} {s : InterceptorSettings}
      (split : settings = before ++ s :: after) (earlier : Accepts came before)
      (strange : s.id ∉ came.map (·.id)) : Rejects came settings (.unknownInterceptor s.id)
  | repeated {before after : List InterceptorSettings} {s : InterceptorSettings}
      (split : settings = before ++ s :: after) (earlier : Accepts came before)
      (again : s.id ∈ before.map (·.id)) : Rejects came settings (.duplicateEntry s.id)

theorem Accepts.snoc {s : InterceptorSettings} (h : Accepts came settings)
    (hknown : s.id ∈ came.map (·.id)) (hnew : s.id ∉ settings.map (·.id)) :
    Accepts came (settings ++ [s]) := by
  constructor
  case known =>
    intro s' hs'
    rcases List.mem_append.1 hs' with hs' | hs'
    · exact h.known s' hs'
    · rw [List.mem_singleton.1 hs']
      exact hknown
  case distinct =>
    rw [List.map_append, List.map_singleton]
    exact List.nodup_append.2 ⟨h.distinct, List.nodup_singleton _, fun a ha b hb heq =>
      hnew (List.mem_singleton.1 hb ▸ heq ▸ ha)⟩

theorem Accepts.perm (h : Accepts came settings) (hperm : settings.Perm settings') :
    Accepts came settings' :=
  ⟨fun s hs => h.known s (hperm.mem_iff.2 hs), (hperm.map _).nodup_iff.1 h.distinct⟩

theorem Rejects.append (h : Rejects came settings e) (others : List InterceptorSettings) :
    Rejects came (settings ++ others) e := by
  cases h with
  | @unknown before after s hsplit hearlier hstrange =>
    have hsplit' : settings ++ others = before ++ s :: (after ++ others) := by
      rw [hsplit, List.append_assoc, List.cons_append]
    exact .unknown hsplit' hearlier hstrange
  | @repeated before after s hsplit hearlier hagain =>
    have hsplit' : settings ++ others = before ++ s :: (after ++ others) := by
      rw [hsplit, List.append_assoc, List.cons_append]
    exact .repeated hsplit' hearlier hagain

/-- Settings are all right, or there is a first entry that is not. -/
theorem accepts_or_rejects (came : List Registration) (settings : List InterceptorSettings) :
    Accepts came settings ∨ ∃ e, Rejects came settings e := by
  induction settings using List.reverseRecOn with
  | nil => exact .inl ⟨fun s hs => absurd hs List.not_mem_nil, .nil⟩
  | append_singleton settings s ih =>
    rcases ih with haccepts | ⟨e, hrejects⟩
    · by_cases hknown : s.id ∈ came.map (·.id)
      · by_cases hnew : s.id ∈ settings.map (·.id)
        · exact .inr ⟨_, .repeated rfl haccepts hnew⟩
        · exact .inl (haccepts.snoc hknown hnew)
      · exact .inr ⟨_, .unknown rfl haccepts hknown⟩
    · exact .inr ⟨e, hrejects.append [s]⟩

/-- The check comes to what stands behind entries that are all right. -/
theorem Accepts.checkIds_append (h : Accepts came settings) (others seen : List String)
    (hseen : ∀ s ∈ settings, s.id ∉ seen) :
    (ofRegistrations came).checkIds (settings.map (·.id) ++ others) seen =
      (ofRegistrations came).checkIds others ((settings.map (·.id)).reverse ++ seen) := by
  induction settings generalizing seen with
  | nil => rfl
  | cons s settings ih =>
    have hknown := isSome_get?_ofRegistrations.2 (h.known s List.mem_cons_self)
    have hnew : seen.contains s.id = false := by
      simpa using hseen s List.mem_cons_self
    obtain ⟨hfirst, hdistinct⟩ := List.nodup_cons.1 h.distinct
    have hrest : Accepts came settings :=
      ⟨fun s' hs' => h.known s' (List.mem_cons_of_mem s hs'), hdistinct⟩
    rw [List.map_cons, List.cons_append, checkIds, Option.isNone_eq_false_iff.2 hknown,
      if_neg Bool.false_ne_true, hnew, if_neg Bool.false_ne_true, ih hrest]
    · rw [List.reverse_cons, List.append_assoc]
      rfl
    · intro s' hs' hmem
      rcases List.mem_cons.1 hmem with heq | hmem
      · exact hfirst (List.mem_map.2 ⟨s', hs', heq⟩)
      · exact hseen s' (List.mem_cons_of_mem s hs') hmem

theorem Accepts.checkIds_behind (h : Accepts came settings) (others : List String) :
    (ofRegistrations came).checkIds (settings.map (·.id) ++ others) [] =
      (ofRegistrations came).checkIds others (settings.map (·.id)).reverse := by
  rw [h.checkIds_append others [] fun s _ => List.not_mem_nil, List.append_nil]

theorem Accepts.checkIds_ok (h : Accepts came settings) :
    (ofRegistrations came).checkIds (settings.map (·.id)) [] = .ok () := by
  have hcheck := h.checkIds_behind []
  rw [List.append_nil] at hcheck
  exact hcheck

theorem Rejects.checkIds_error (h : Rejects came settings e) :
    (ofRegistrations came).checkIds (settings.map (·.id)) [] = .error e := by
  cases h with
  | @unknown before after s hsplit hearlier hstrange =>
    have hnone : ((ofRegistrations came).factories.get? s.id).isNone = true := by
      rw [Option.isNone_iff_eq_none, ← Option.not_isSome_iff_eq_none]
      intro hsome
      exact hstrange (isSome_get?_ofRegistrations.1 hsome)
    rw [hsplit, List.map_append, hearlier.checkIds_behind, List.map_cons, checkIds, if_pos hnone]
  | @repeated before after s hsplit hearlier hagain =>
    -- an id that came before was found to be known then
    obtain ⟨s', hs', hid⟩ := List.mem_map.1 hagain
    have hknown := isSome_get?_ofRegistrations.2 (hid ▸ hearlier.known s' hs')
    have hseen : (before.map InterceptorSettings.id).reverse.contains s.id = true :=
      List.contains_iff_mem.2 (List.mem_reverse.2 hagain)
    rw [hsplit, List.map_append, hearlier.checkIds_behind, List.map_cons, checkIds,
      Option.isNone_eq_false_iff.2 hknown, if_neg Bool.false_ne_true, if_pos hseen]

/-! ## Which factories are run -/

/-- These are the runs of factories that the settings ask for, in order: for each id that runs by
itself and is not mentioned, without properties, and for each enabled entry with its own. The
factory of an id is the one that was registered last. -/
structure Schedules (came : List Registration) (settings : List InterceptorSettings)
    (runs : List FactoryRun) : Prop where
  orders : ∃ defaults, FirstOrder (Registration.defaultIds came) defaults ∧
    runs.map FactoryRun.order =
      (defaults.filter fun id => id ∉ settings.map (·.id)).map (fun id => (id, .empty)) ++
        (settings.filter (·.enabled)).map fun s => (s.id, s.properties)
  latest : ∀ x ∈ runs, IsLatest came x.id x.factory

theorem Schedules.selected_eq (h : Schedules came settings runs) :
    (ofRegistrations came).selected settings = runs.map FactoryRun.order := by
  obtain ⟨defaults, hdefaults, horders⟩ := h.orders
  rw [horders, hdefaults.unique (firstOrder_defaults came)]
  unfold selected
  simp only [List.contains_eq_mem, decide_not]

/-- Every id that is known has a factory to run. -/
theorem exists_runs (orders : List (String × SortedMap Json))
    (hknown : ∀ order ∈ orders, order.1 ∈ came.map (·.id)) :
    ∃ runs : List FactoryRun, runs.map FactoryRun.order = orders ∧
      ∀ x ∈ runs, IsLatest came x.id x.factory := by
  induction orders with
  | nil => exact ⟨[], rfl, fun _ hx => absurd hx List.not_mem_nil⟩
  | cons order orders ih =>
    obtain ⟨runs, horders, hlatest⟩ := ih fun o ho => hknown o (List.mem_cons_of_mem order ho)
    have hsome := isSome_get?_ofRegistrations.2 (hknown order List.mem_cons_self)
    obtain ⟨factory, hget⟩ := Option.isSome_iff_exists.1 hsome
    refine ⟨⟨order.1, factory, order.2⟩ :: runs, ?_, ?_⟩
    · rw [List.map_cons, horders]
      rfl
    · intro x hx
      rcases List.mem_cons.1 hx with rfl | hx
      · exact get?_ofRegistrations.1 hget
      · exact hlatest x hx

/-- Where the settings are all right there is such a schedule. -/
theorem Accepts.exists_schedules (h : Accepts came settings) :
    ∃ runs, Schedules came settings runs := by
  have hdefaults := firstOrder_defaults came
  have hknown : ∀ order ∈
      ((ofRegistrations came).defaults.filter fun id => id ∉ settings.map (·.id)).map
          (fun id => (id, SortedMap.empty)) ++
        (settings.filter (·.enabled)).map fun s => (s.id, s.properties),
      order.1 ∈ came.map (·.id) := by
    intro order horder
    rcases List.mem_append.1 horder with horder | horder
    · obtain ⟨id, hid, rfl⟩ := List.mem_map.1 horder
      have hcame := (hdefaults.mem id).1 (List.mem_filter.1 hid).1
      exact (List.filter_sublist.map _).subset hcame
    · obtain ⟨s, hs, rfl⟩ := List.mem_map.1 horder
      exact h.known s (List.mem_filter.1 hs).1
  obtain ⟨runs, horders, hlatest⟩ := exists_runs _ hknown
  exact ⟨runs, ⟨_, hdefaults, horders⟩, hlatest⟩

/-- Settings in another order ask for the same runs in another order. -/
theorem Schedules.perm (h : Schedules came settings runs) (hperm : settings.Perm settings') :
    ∃ runs', Schedules came settings' runs' ∧ runs'.Perm runs := by
  obtain ⟨defaults, hdefaults, horders⟩ := h.orders
  have hmentioned : ∀ id, id ∈ settings'.map (·.id) ↔ id ∈ settings.map (·.id) := by
    intro id
    exact (hperm.map _).mem_iff.symm
  -- the ones that run by themselves are the same, in the same order
  have hsame : (defaults.filter fun id => id ∉ settings'.map (·.id)) =
      defaults.filter fun id => id ∉ settings.map (·.id) :=
    List.filter_congr fun id _ => decide_eq_decide.2 (not_congr (hmentioned id))
  have hentries : ((settings'.filter (·.enabled)).map fun s => (s.id, s.properties)).Perm
      ((settings.filter (·.enabled)).map fun s => (s.id, s.properties)) :=
    (hperm.symm.filter _).map _
  have hruns : List.Forall₂ (fun order x => order = FactoryRun.order x)
      (runs.map FactoryRun.order) runs := by
    rw [List.forall₂_map_left_iff, List.forall₂_same]
    intro _ _
    exact rfl
  rw [horders] at hruns
  obtain ⟨runs', horders', hperm'⟩ := List.perm_comp_forall₂ (hentries.append_left _) hruns
  rw [← List.forall₂_map_right_iff, List.forall₂_eq_eq_eq] at horders'
  refine ⟨runs', ⟨⟨defaults, hdefaults, ?_⟩, ?_⟩, hperm'⟩
  · rw [hsame]
    exact horders'.symm
  · intro x hx
    exact h.latest x (hperm'.mem_iff.1 hx)

/-! ## What a build comes to -/

/-- A build ends like this, and these are the factories that it runs. -/
inductive Builds (came : List Registration) (settings : List InterceptorSettings) :
    Except RegistryError Pipeline → List FactoryRun → Prop where
  /-- Settings are refused before any factory is run. -/
  | rejected {e : RegistryError} (rejects : Rejects came settings e) :
      Builds came settings (.error e) []
  /-- The first factory that fails is the last one that is run. -/
  | stopped {done rest : List FactoryRun} {x : FactoryRun} {is : List Interceptor}
      {e : RegistryError} (accepts : Accepts came settings)
      (schedules : Schedules came settings (done ++ x :: rest))
      (made : List.Forall₂ FactoryRun.Makes done is) (fails : x.result = .error e) :
      Builds came settings (.error e) (done ++ [x])
  /-- All factories are run, and the pipeline has what they make. -/
  | finished {runs : List FactoryRun} {is : List Interceptor} {p : Pipeline}
      (accepts : Accepts came settings) (schedules : Schedules came settings runs)
      (made : List.Forall₂ FactoryRun.Makes runs is) (order : StableOrder is p.interceptors) :
      Builds came settings (.ok p) runs

theorem stableOrder_pushAll (is : List Interceptor) :
    StableOrder is (Pipeline.empty.pushAll is).interceptors :=
  Pipeline.pushAll_interceptors ⟨.nil, .nil, fun _ => rfl⟩ is

/-- Factories all make something, or there is a first one that fails. -/
theorem made_or_fails (runs : List FactoryRun) :
    (∃ is, List.Forall₂ FactoryRun.Makes runs is) ∨
      ∃ done x rest is e, runs = done ++ x :: rest ∧ List.Forall₂ FactoryRun.Makes done is ∧
        x.result = .error e := by
  induction runs with
  | nil => exact .inl ⟨[], .nil⟩
  | cons x runs ih =>
    cases hresult : x.result with
    | error e => exact .inr ⟨[], x, runs, [], e, rfl, .nil, hresult⟩
    | ok i =>
      rcases ih with ⟨is, hmade⟩ | ⟨done, y, rest, is, e, rfl, hmade, hfails⟩
      · exact .inl ⟨i :: is, .cons hresult hmade⟩
      · exact .inr ⟨x :: done, y, rest, i :: is, e, rfl, .cons hresult hmade, hfails⟩

/-- Every build comes to something. -/
theorem exists_builds (came : List Registration) (settings : List InterceptorSettings) :
    ∃ r runs, Builds came settings r runs := by
  rcases accepts_or_rejects came settings with haccepts | ⟨e, hrejects⟩
  · obtain ⟨runs, hschedules⟩ := haccepts.exists_schedules
    rcases made_or_fails runs with ⟨is, hmade⟩ | ⟨done, x, rest, is, e, rfl, hmade, hfails⟩
    · exact ⟨_, _, .finished haccepts hschedules hmade (stableOrder_pushAll is)⟩
    · exact ⟨_, _, .stopped haccepts hschedules hmade hfails⟩
  · exact ⟨_, _, .rejected hrejects⟩

theorem watchAll_run (hlatest : ∀ x ∈ done, IsLatest came x.id x.factory)
    (hmade : List.Forall₂ FactoryRun.Makes done is) (orders : List (String × SortedMap Json))
    (p : Pipeline) (log : List FactoryRun) :
    ((ofRegistrations came).watchAll (done.map FactoryRun.order ++ orders) p).run log =
      ((ofRegistrations came).watchAll orders (p.pushAll is)).run (log ++ done) := by
  induction hmade generalizing p log with
  | nil => rw [List.append_nil]; rfl
  | @cons x i done is hx _ ih =>
    have hget := get?_ofRegistrations.2 (hlatest x List.mem_cons_self)
    have hrun : x.watched.run log = (.ok i, log ++ [x]) := congrArg (·, log ++ [x]) hx
    rw [List.map_cons, List.cons_append, FactoryRun.order, watchAll, hget]
    dsimp only
    rw [Action.run_bind_ok hrun, ih fun y hy => hlatest y (List.mem_cons_of_mem x hy),
      List.append_assoc]
    rfl

/-- The factory that fails is run last. -/
theorem watchAll_fails (hlatest : IsLatest came x.id x.factory) (hfails : x.result = .error e)
    (orders : List (String × SortedMap Json)) (p : Pipeline) (log : List FactoryRun) :
    ((ofRegistrations came).watchAll (x.order :: orders) p).run log = (.error e, log ++ [x]) := by
  have hrun : x.watched.run log = (.error e, log ++ [x]) := congrArg (·, log ++ [x]) hfails
  rw [FactoryRun.order, watchAll, get?_ofRegistrations.2 hlatest]
  exact Action.run_bind_error hrun _

theorem Accepts.watchedBuild_run (haccepts : Accepts came settings)
    (hschedules : Schedules came settings runs) :
    ((ofRegistrations came).watchedBuild settings).run [] =
      ((ofRegistrations came).watchAll (runs.map FactoryRun.order) .empty).run [] := by
  unfold watchedBuild
  rw [haccepts.checkIds_ok, Action.run_bind_ok (Action.run_ofExcept _ _), hschedules.selected_eq]

theorem Builds.watchedBuild_run (h : Builds came settings r runs) :
    ((ofRegistrations came).watchedBuild settings).run [] = (r, runs) := by
  cases h with
  | rejected hrejects =>
    unfold watchedBuild
    rw [hrejects.checkIds_error, Action.run_bind_error (Action.run_ofExcept _ _)]
  | @stopped done rest x is e haccepts hschedules hmade hfails =>
    have hlatest := hschedules.latest
    rw [List.forall_mem_append, List.forall_mem_cons] at hlatest
    rw [haccepts.watchedBuild_run hschedules, List.map_append, watchAll_run hlatest.1 hmade,
      List.map_cons, watchAll_fails hlatest.2.1 hfails, List.nil_append]
  | @finished runs is p haccepts hschedules hmade horder =>
    have hrun := watchAll_run hschedules.latest hmade [] .empty []
    rw [List.append_nil] at hrun
    rw [haccepts.watchedBuild_run hschedules, hrun, List.nil_append]
    -- there is one stable order of what was made
    have hpipeline : Pipeline.empty.pushAll is = p :=
      congrArg Pipeline.mk ((stableOrder_pushAll is).unique horder)
    rw [← hpipeline]
    rfl

/-- What a registry that is watched does is what it has to do. -/
theorem watchedBuild_run_iff :
    ((ofRegistrations came).watchedBuild settings).run [] = (r, runs) ↔
      Builds came settings r runs := by
  constructor
  · intro hrun
    obtain ⟨r', runs', hbuilds⟩ := exists_builds came settings
    rw [hbuilds.watchedBuild_run] at hrun
    cases hrun
    exact hbuilds
  · exact Builds.watchedBuild_run

/-- Watching changes nothing. -/
theorem watchAll_result (r : Registry) (orders : List (String × SortedMap Json)) (p : Pipeline)
    (log : List FactoryRun) : ((r.watchAll orders p).run log).1 = r.buildAll orders p := by
  induction orders generalizing p log with
  | nil => rfl
  | cons order orders ih =>
    obtain ⟨id, properties⟩ := order
    unfold watchAll buildAll
    cases r.factories.get? id with
    | none => rfl
    | some factory =>
      have hrun : (FactoryRun.watched ⟨id, factory, properties⟩).run log =
        (factory properties, log ++ [⟨id, factory, properties⟩]) := rfl
      dsimp only
      cases hresult : factory properties with
      | error e =>
        rw [hresult] at hrun
        rw [Action.run_bind_error hrun]
      | ok i =>
        rw [hresult] at hrun
        rw [Action.run_bind_ok hrun, ih]

theorem watchedBuild_result (r : Registry) (settings : List InterceptorSettings)
    (log : List FactoryRun) : ((r.watchedBuild settings).run log).1 = r.build settings := by
  unfold watchedBuild build
  cases r.checkIds (settings.map (·.id)) [] with
  | error e => rfl
  | ok _ => rw [Action.run_bind_ok (Action.run_ofExcept _ _), watchAll_result]

theorem build_eq_ok_iff :
    (ofRegistrations came).build settings = .ok p ↔ ∃ runs, Builds came settings (.ok p) runs := by
  rw [← watchedBuild_result _ _ []]
  constructor
  · intro hok
    exact ⟨_, watchedBuild_run_iff.1 (Prod.ext hok rfl)⟩
  · rintro ⟨runs, hbuilds⟩
    rw [hbuilds.watchedBuild_run]

/-! ## Settings in another order -/

/-- Settings in another order choose the same interceptors. -/
theorem Builds.perm (h : Builds came settings (.ok p) runs) (hperm : settings.Perm settings') :
    ∃ p' runs', Builds came settings' (.ok p') runs' ∧
      ∃ is is', StableOrder is p.interceptors ∧ StableOrder is' p'.interceptors ∧ is.Perm is' := by
  cases h with
  | @finished _ is _ haccepts hschedules hmade horder =>
    obtain ⟨runs', hschedules', hruns⟩ := hschedules.perm hperm
    obtain ⟨is', hmade', his⟩ := List.perm_comp_forall₂ hruns hmade
    exact ⟨_, runs', .finished (haccepts.perm hperm) hschedules' hmade' (stableOrder_pushAll is'),
      is, is', horder, stableOrder_pushAll is', his.symm⟩

theorem build_ok_perm (hperm : settings.Perm settings')
    (h : ∃ p, (ofRegistrations came).build settings = .ok p) :
    ∃ p, (ofRegistrations came).build settings' = .ok p := by
  obtain ⟨p, hp⟩ := h
  obtain ⟨runs, hbuilds⟩ := build_eq_ok_iff.1 hp
  obtain ⟨p', runs', hbuilds', -⟩ := hbuilds.perm hperm
  exact ⟨p', build_eq_ok_iff.2 ⟨runs', hbuilds'⟩⟩

/-- What settings choose from the registry that these registrations have filled. -/
structure Chooses (came : List Registration) (settings : List InterceptorSettings) : Prop where
  /-- A build that is watched does what it has to do, and nothing else. -/
  watched : ∀ r runs, ((ofRegistrations came).watchedBuild settings).run [] = (r, runs) ↔
    Builds came settings r runs
  /-- Watching it changes nothing. -/
  result : (ofRegistrations came).build settings =
    (((ofRegistrations came).watchedBuild settings).run []).1
  /-- In another order the settings are taken if and only if they are in this one. -/
  taken : ∀ settings', settings.Perm settings' →
    ((∃ p, (ofRegistrations came).build settings = .ok p) ↔
      ∃ p, (ofRegistrations came).build settings' = .ok p)
  /-- With distinct priorities they choose the same pipeline. -/
  same : ∀ settings' p p', settings.Perm settings' →
    (ofRegistrations came).build settings = .ok p →
    (ofRegistrations came).build settings' = .ok p' →
    (p.interceptors.map (·.priority)).Nodup → p' = p

/-- **Settings choose interceptors**, whatever was registered: all entries are checked before any
factory is run, then the factories are run in order, and the order of the entries only matters for
interceptors of one priority. -/
theorem settings_choose_interceptors (came : List Registration)
    (settings : List InterceptorSettings) : Chooses came settings := by
  constructor
  case watched => exact fun r runs => watchedBuild_run_iff
  case result => exact (watchedBuild_result _ settings []).symm
  case taken =>
    intro settings' hperm
    exact ⟨build_ok_perm hperm, build_ok_perm hperm.symm⟩
  case same =>
    intro settings' p p' hperm hp hp' hdistinct
    obtain ⟨runs, hbuilds⟩ := build_eq_ok_iff.1 hp
    obtain ⟨p'', runs', hbuilds', is, is', horder, horder', his⟩ := hbuilds.perm hperm
    have hp'' := build_eq_ok_iff.2 ⟨runs', hbuilds'⟩
    rw [hp'] at hp''
    cases hp''
    -- distinct priorities leave one order
    have hcame : (is.map (·.priority)).Nodup := (horder.perm.map _).nodup_iff.1 hdistinct
    exact congrArg Pipeline.mk (horder.eq_of_perm horder' his hcame).symm

/-- Of two registrations of an id the later one counts, and it keeps its turn. -/
example :
    let named (name : String) : InterceptorFactory := fun _ =>
      .ok ⟨name, 0, .universal, fun _ value => .ok value⟩
    ((ofRegistrations [⟨"a", named "x", true⟩, ⟨"b", named "y", true⟩, ⟨"c", named "w", true⟩,
      ⟨"a", named "z", false⟩]).build [⟨"c", false, .empty⟩]).map Pipeline.names =
        .ok ["z", "y"] := by
  cbv

end Registry
end ProcessMigration
