import ProcessMigration.Proofs.MapEntries
import ProcessMigration.Proofs.PipelineOrder
import ProcessMigration.Proofs.Triple
import ProcessMigration.Variables.Watched

/-!
# What a pipeline does

A variable either passes all interceptors that see it, each of them given what the one before it has
made, or it fails at the first of them that fails. The variables of a scope go through one after the
other, until the first one that fails.

* `Pipeline.Passes` and `Pipeline.PassAll`: what is run for a variable that passes, and for
  variables that all pass, in order;
* `Pipeline.FailsFirst`: what is run until the first failure, which is the last execution;
* `Pipeline.watchedTransform_result`: a pipeline that is watched does what it does unwatched;
* `Pipeline.runs_in_order`: order and effect of every pipeline.
-/

namespace ProcessMigration

namespace Pipeline

variable {p : Pipeline} {v : SourceVariable} {vs : List SourceVariable} {is : List Interceptor}
  {value value' : Json} {es es' : List Execution} {pairs : List (String × Json)} {e : PipelineError}

/-! ## What is run -/

/-- The value passes the interceptors, with these executions. -/
inductive Passes (v : SourceVariable) :
    List Interceptor → Json → List Execution → Json → Prop where
  | nil (value : Json) : Passes v [] value [] value
  | cons {i : Interceptor} {rest : List Interceptor} {value value' value'' : Json}
      {es : List Execution} (executed : i.execute v value = .ok value')
      (passes : Passes v rest value' es value'') :
      Passes v (i :: rest) value (⟨i, v, value⟩ :: es) value''

/-- All variables pass the interceptors that see them, with these executions and these values. -/
inductive PassAll (p : Pipeline) :
    List SourceVariable → List Execution → List (String × Json) → Prop where
  | nil : PassAll p [] [] []
  | cons {v : SourceVariable} {rest : List SourceVariable} {es es' : List Execution}
      {value : Json} {pairs : List (String × Json)}
      (passes : Passes v (p.seeing v) v.value es value)
      (others : PassAll p rest es' pairs) :
      PassAll p (v :: rest) (es ++ es') ((v.name, value) :: pairs)

/-- The variables before one pass, and that one fails: it passes the interceptors before one, and
that one fails. -/
inductive FailsFirst (p : Pipeline) (vs : List SourceVariable) :
    List Execution → PipelineError → Prop where
  | intro {before after : List SourceVariable} {v : SourceVariable} {done rest : List Interceptor}
      {i : Interceptor} {es es' : List Execution} {pairs : List (String × Json)} {value : Json}
      {failure : InterceptorFailure} (split : vs = before ++ v :: after)
      (earlier : PassAll p before es pairs) (sees : p.seeing v = done ++ i :: rest)
      (passes : Passes v done v.value es' value) (fails : i.execute v value = .error failure) :
      FailsFirst p vs (es ++ (es' ++ [⟨i, v, value⟩])) (failure.at i v)

/-- A value passes interceptors, or there is a first one that fails. -/
theorem passes_or_fails (v : SourceVariable) (is : List Interceptor) (value : Json) :
    (∃ es value', Passes v is value es value') ∨
      ∃ done i rest es value' failure, is = done ++ i :: rest ∧ Passes v done value es value' ∧
        i.execute v value' = .error failure := by
  induction is generalizing value with
  | nil => exact .inl ⟨[], value, .nil value⟩
  | cons i rest ih =>
    cases hexecute : i.execute v value with
    | error failure => exact .inr ⟨[], i, rest, [], value, failure, rfl, .nil value, hexecute⟩
    | ok value₁ =>
      rcases ih value₁ with ⟨es, value', hpasses⟩ |
        ⟨done, j, rest', es, value', failure, rfl, hpasses, hfails⟩
      · exact .inl ⟨_, value', .cons hexecute hpasses⟩
      · exact .inr ⟨i :: done, j, rest', _, value', failure, rfl, .cons hexecute hpasses, hfails⟩

theorem FailsFirst.cons (hpasses : Passes v (p.seeing v) v.value es value)
    (h : FailsFirst p vs es' e) : FailsFirst p (v :: vs) (es ++ es') e := by
  cases h with
  | intro hsplit hearlier hsees hdone hfails =>
    subst hsplit
    rw [← List.append_assoc]
    exact .intro (List.cons_append ..).symm (.cons hpasses hearlier) hsees hdone hfails

/-- Variables all pass, or there is a first one that fails. -/
theorem passAll_or_failsFirst (p : Pipeline) (vs : List SourceVariable) :
    (∃ es pairs, PassAll p vs es pairs) ∨ ∃ es e, FailsFirst p vs es e := by
  induction vs with
  | nil => exact .inl ⟨[], [], .nil⟩
  | cons v rest ih =>
    rcases passes_or_fails v (p.seeing v) v.value with ⟨es, value, hpasses⟩ |
      ⟨done, i, rest', es, value, failure, hsees, hpasses, hfails⟩
    · rcases ih with ⟨es', pairs, hothers⟩ | ⟨es', e, hfails⟩
      · exact .inl ⟨_, _, .cons hpasses hothers⟩
      · exact .inr ⟨_, _, .cons hpasses hfails⟩
    · exact .inr ⟨_, _, .intro (List.nil_append _).symm .nil hsees hpasses hfails⟩

theorem PassAll.passes (h : PassAll p vs es pairs) (hv : v ∈ vs) :
    ∃ es value, Passes v (p.seeing v) v.value es value := by
  induction h with
  | nil => cases hv
  | cons hpasses _ ih =>
    rcases List.mem_cons.1 hv with rfl | hv
    · exact ⟨_, _, hpasses⟩
    · exact ih hv

theorem PassAll.names (h : PassAll p vs es pairs) : pairs.map (·.1) = vs.map (·.name) := by
  induction h with
  | nil => rfl
  | @cons v _ _ _ _ _ _ _ ih => exact congrArg (v.name :: ·) ih

/-- The value of a variable among variables that pass. -/
theorem PassAll.split {before after : List SourceVariable}
    (h : PassAll p (before ++ v :: after) es pairs) :
    ∃ es value earlier later, Passes v (p.seeing v) v.value es value ∧
      pairs = earlier ++ (v.name, value) :: later ∧ later.map (·.1) = after.map (·.name) := by
  induction before generalizing es pairs with
  | nil =>
    cases h with
    | cons hpasses hothers => exact ⟨_, _, [], _, hpasses, rfl, hothers.names⟩
  | cons w before ih =>
    cases h with
    | cons hfirst hothers =>
      obtain ⟨es, value, earlier, later, hpasses, rfl, hnames⟩ := ih hothers
      exact ⟨es, value, _ :: earlier, later, hpasses, rfl, hnames⟩

/-- The variables and interceptors that have to be run, in order. -/
def schedule (p : Pipeline) (vs : List SourceVariable) : List (SourceVariable × Interceptor) :=
  vs.flatMap fun v => (p.seeing v).map fun i => (v, i)

theorem Passes.scheduled (h : Passes v is value es value') :
    es.map (fun x => (x.subject, x.interceptor)) = is.map fun i => (v, i) := by
  induction h with
  | nil => rfl
  | @cons i _ _ _ _ _ _ _ ih => exact congrArg ((v, i) :: ·) ih

theorem PassAll.scheduled (h : PassAll p vs es pairs) :
    es.map (fun x => (x.subject, x.interceptor)) = p.schedule vs := by
  induction h with
  | nil => rfl
  | cons hpasses _ ih =>
    unfold schedule at ih ⊢
    rw [List.map_append, hpasses.scheduled, ih, List.flatMap_cons]

theorem FailsFirst.scheduled (h : FailsFirst p vs es e) :
    es.map (fun x => (x.subject, x.interceptor)) <+: p.schedule vs := by
  cases h with
  | @intro before after v done rest i es es' _ _ _ hsplit hearlier hsees hpasses _ =>
    refine ⟨rest.map (fun i => (v, i)) ++ p.schedule after, ?_⟩
    rw [List.map_append, List.map_append, hearlier.scheduled, hpasses.scheduled, hsplit]
    unfold schedule
    rw [List.flatMap_append, List.flatMap_cons, hsees, List.map_append, List.map_cons]
    simp only [List.map_cons, List.map_nil, List.append_assoc, List.cons_append, List.nil_append]

/-! ## Watching -/

/-- Watching changes nothing. -/
theorem watchAll_result (v : SourceVariable) (is : List Interceptor) (value : Json)
    (log : List Execution) : ((watchAll v is value).run log).1 = runAll v is value := by
  induction is generalizing value log with
  | nil => rfl
  | cons i rest ih =>
    unfold watchAll runAll
    have hrun : (i.watched v value).run log =
      ((i.execute v value).mapError (InterceptorFailure.at i v), log ++ [⟨i, v, value⟩]) := rfl
    cases hexecute : i.execute v value with
    | ok value' =>
      rw [hexecute] at hrun
      rw [Action.run_bind_ok hrun, ih]
    | error failure =>
      rw [hexecute] at hrun
      rw [Action.run_bind_error hrun]
      cases failure <;> rfl

theorem watchInto_result (vs : List SourceVariable) (out : Variables) (log : List Execution) :
    ((p.watchInto vs out).run log).1 = p.transformInto vs out := by
  induction vs generalizing out log with
  | nil => rfl
  | cons v rest ih =>
    unfold watchInto transformInto
    have hvariable : ((p.watchVariable v).run log).1 = p.transformVariable v :=
      watchAll_result v (p.seeing v) v.value log
    rcases hrun : (p.watchVariable v).run log with ⟨r, log'⟩
    rw [hrun] at hvariable
    rw [← hvariable]
    cases r with
    | ok value => rw [Action.run_bind_ok hrun, ih]
    | error e => rw [Action.run_bind_error hrun]

theorem watchedTransform_result (vs : List SourceVariable) (log : List Execution) :
    ((p.watchedTransform vs).run log).1 = p.transform vs :=
  watchInto_result vs .empty log

theorem Passes.watchAll_run (h : Passes v is value es value') (rest : List Interceptor)
    (log : List Execution) :
    (watchAll v (is ++ rest) value).run log = (watchAll v rest value').run (log ++ es) := by
  induction h generalizing log with
  | nil value => rw [List.nil_append, List.append_nil]
  | @cons i is value value₁ value'' es hexecuted _ ih =>
    have hrun : (i.watched v value).run log = (.ok value₁, log ++ [⟨i, v, value⟩]) := by
      show ((i.execute v value).mapError _, _) = _
      rw [hexecuted]
      rfl
    rw [List.cons_append, watchAll, Action.run_bind_ok hrun, ih, List.append_assoc]
    rfl

theorem Passes.watchVariable_run (h : Passes v (p.seeing v) v.value es value)
    (log : List Execution) : (p.watchVariable v).run log = (.ok value, log ++ es) := by
  have hrun := h.watchAll_run [] log
  rw [List.append_nil] at hrun
  exact hrun

/-- The interceptor that fails is run last. -/
theorem Passes.watchVariable_fails {done rest : List Interceptor} {i : Interceptor}
    {failure : InterceptorFailure} (h : Passes v done v.value es value)
    (hsees : p.seeing v = done ++ i :: rest) (hfails : i.execute v value = .error failure)
    (log : List Execution) : (p.watchVariable v).run log =
      (.error (failure.at i v), log ++ (es ++ [⟨i, v, value⟩])) := by
  have hrun : (i.watched v value).run (log ++ es) =
      (.error (failure.at i v), log ++ es ++ [⟨i, v, value⟩]) := by
    show ((i.execute v value).mapError _, _) = _
    rw [hfails]
    rfl
  unfold watchVariable
  rw [hsees, h.watchAll_run, watchAll, Action.run_bind_error hrun, List.append_assoc]

theorem PassAll.watchInto_run (h : PassAll p vs es pairs) (rest : List SourceVariable)
    (out : Variables) (log : List Execution) :
    (p.watchInto (vs ++ rest) out).run log =
      (p.watchInto rest (pairs.foldl (fun m pair => m.insert pair.1 pair.2) out)).run
        (log ++ es) := by
  induction h generalizing out log with
  | nil => rw [List.nil_append, List.append_nil, List.foldl_nil]
  | cons hpasses _ ih =>
    rw [List.cons_append, watchInto, Action.run_bind_ok (hpasses.watchVariable_run log), ih,
      List.foldl_cons, List.append_assoc]

theorem PassAll.watchedTransform_run (h : PassAll p vs es pairs) :
    (p.watchedTransform vs).run [] = (.ok (.ofList pairs), es) := by
  have hrun := h.watchInto_run [] .empty []
  rw [List.append_nil] at hrun
  exact hrun

theorem FailsFirst.watchedTransform_run (h : FailsFirst p vs es e) :
    (p.watchedTransform vs).run [] = (.error e, es) := by
  cases h with
  | intro hsplit hearlier hsees hpasses hfails =>
    subst hsplit
    unfold watchedTransform
    rw [hearlier.watchInto_run, watchInto,
      Action.run_bind_error (hpasses.watchVariable_fails hsees hfails _), List.nil_append]

/-! ## Everything at once -/

theorem transform_of_passAll (h : PassAll p vs es pairs) :
    p.transform vs = .ok (.ofList pairs) := by
  rw [← watchedTransform_result vs [], h.watchedTransform_run]

theorem transform_of_failsFirst (h : FailsFirst p vs es e) : p.transform vs = .error e := by
  rw [← watchedTransform_result vs [], h.watchedTransform_run]

/-- What a pipeline does to the variables of a scope. -/
structure Transforms (p : Pipeline) (vs : List SourceVariable) : Prop where
  /-- It succeeds if and only if every variable passes the interceptors that see it. -/
  succeeds : (∃ out, p.transform vs = .ok out) ↔
    ∀ v ∈ vs, ∃ es value, Passes v (p.seeing v) v.value es value
  /-- Then the last variable of a name has the name. -/
  last : ∀ out, p.transform vs = .ok out → ∀ before v after, vs = before ++ v :: after →
    v.name ∉ after.map (·.name) →
      ∃ es value, Passes v (p.seeing v) v.value es value ∧ out.get? v.name = some value
  /-- There are no other names. -/
  others : ∀ out, p.transform vs = .ok out → ∀ name ∉ vs.map (·.name), out.get? name = none
  /-- Otherwise it fails as the first variable that fails does, at the first interceptor at which it
  does. -/
  fails : ∀ e, p.transform vs = .error e ↔ ∃ es, FailsFirst p vs es e
  /-- On success everything is run in order. -/
  runs : ∀ out, p.transform vs = .ok out → ∃ es pairs, PassAll p vs es pairs ∧
    (p.watchedTransform vs).run [] = (.ok out, es) ∧
    es.map (fun x => (x.subject, x.interceptor)) = p.schedule vs
  /-- On failure nothing is run any more. -/
  stops : ∀ e, p.transform vs = .error e → ∃ es, FailsFirst p vs es e ∧
    (p.watchedTransform vs).run [] = (.error e, es) ∧
    es.map (fun x => (x.subject, x.interceptor)) <+: p.schedule vs

theorem exists_passAll (h : ∀ v ∈ vs, ∃ es value, Passes v (p.seeing v) v.value es value) :
    ∃ es pairs, PassAll p vs es pairs := by
  induction vs with
  | nil => exact ⟨[], [], .nil⟩
  | cons v rest ih =>
    obtain ⟨es, value, hpasses⟩ := h v List.mem_cons_self
    obtain ⟨es', pairs, hothers⟩ := ih fun w hw => h w (List.mem_cons_of_mem v hw)
    exact ⟨_, _, .cons hpasses hothers⟩

/-- A pipeline that succeeds has let all variables pass. -/
theorem passAll_of_transform {out : Variables} (h : p.transform vs = .ok out) :
    ∃ es pairs, PassAll p vs es pairs ∧ out = .ofList pairs := by
  rcases passAll_or_failsFirst p vs with ⟨es, pairs, hall⟩ | ⟨es, e, hfails⟩
  · rw [transform_of_passAll hall] at h
    cases h
    exact ⟨es, pairs, hall, rfl⟩
  · rw [transform_of_failsFirst hfails] at h
    cases h

theorem failsFirst_of_transform (h : p.transform vs = .error e) : ∃ es, FailsFirst p vs es e := by
  rcases passAll_or_failsFirst p vs with ⟨es, pairs, hall⟩ | ⟨es, e', hfails⟩
  · rw [transform_of_passAll hall] at h
    cases h
  · rw [transform_of_failsFirst hfails] at h
    cases h
    exact ⟨es, hfails⟩

theorem transforms (p : Pipeline) (vs : List SourceVariable) : Transforms p vs where
  succeeds := by
    constructor
    · rintro ⟨out, hout⟩ v hv
      obtain ⟨es, pairs, hall, _⟩ := passAll_of_transform hout
      exact hall.passes hv
    · intro hpass
      obtain ⟨es, pairs, hall⟩ := exists_passAll hpass
      exact ⟨_, transform_of_passAll hall⟩
  last := by
    rintro out hout before v after rfl hlast
    obtain ⟨_, pairs, hall, rfl⟩ := passAll_of_transform hout
    obtain ⟨es, value, earlier, later, hpasses, rfl, hnames⟩ := hall.split
    refine ⟨es, value, hpasses, SortedMap.get?_ofList_last fun pair hpair hname => hlast ?_⟩
    rw [← hnames, ← hname]
    exact List.mem_map_of_mem hpair
  others := by
    intro out hout name hname
    obtain ⟨_, pairs, hall, rfl⟩ := passAll_of_transform hout
    cases hget : (SortedMap.ofList pairs).get? name with
    | none => rfl
    | some value =>
      have hmem := List.mem_map_of_mem (f := (·.1)) (SortedMap.mem_of_get?_ofList hget)
      rw [hall.names] at hmem
      exact absurd hmem hname
  fails e := ⟨failsFirst_of_transform, fun ⟨_, hfails⟩ => transform_of_failsFirst hfails⟩
  runs out hout := by
    obtain ⟨es, pairs, hall, rfl⟩ := passAll_of_transform hout
    exact ⟨es, pairs, hall, hall.watchedTransform_run, hall.scheduled⟩
  stops e he := by
    obtain ⟨es, hfails⟩ := failsFirst_of_transform he
    exact ⟨es, hfails, hfails.watchedTransform_run, hfails.scheduled⟩

/-- The pipeline of interceptors that were added in this order. -/
structure InOrder (came : List Interceptor) (p : Pipeline) : Prop where
  /-- It holds them in the stable order. -/
  order : StableOrder came p.interceptors
  /-- So it runs those that see a variable. -/
  seeing : ∀ v, StableOrder (came.filter fun i => i.scope.appliesTo v.kind) (p.seeing v)
  /-- With distinct priorities any other order of adding them gives the same pipeline. -/
  same : (came.map (·.priority)).Nodup → ∀ came', came.Perm came' → Pipeline.empty.pushAll came' = p

theorem inOrder_pushAll (came : List Interceptor) : InOrder came (Pipeline.empty.pushAll came) := by
  have hempty : StableOrder [] Pipeline.empty.interceptors := ⟨.nil, .nil, fun _ => rfl⟩
  have horder : ∀ came, StableOrder came (Pipeline.empty.pushAll came).interceptors :=
    pushAll_interceptors hempty
  refine ⟨horder came, fun v => (horder came).filter _, ?_⟩
  intro hdistinct came' hperm
  have hsame := (horder came).eq_of_perm (horder came') hperm hdistinct
  exact congrArg Pipeline.mk hsame.symm

/-- **A pipeline runs its interceptors in order**, whatever they are, and on every list of
variables it stops at the first failure. -/
theorem runs_in_order (came : List Interceptor) (vs : List SourceVariable) :
    InOrder came (Pipeline.empty.pushAll came) ∧ Transforms (Pipeline.empty.pushAll came) vs :=
  ⟨inOrder_pushAll came, transforms _ vs⟩

example : (empty.pushAll ([("late", 10), ("early", -1), ("first", 5), ("second", 5)].map
    fun (name, priority) => ⟨name, priority, .universal, fun _ value => .ok value⟩)).names =
      ["early", "first", "second", "late"] := by
  cbv

end Pipeline
end ProcessMigration
