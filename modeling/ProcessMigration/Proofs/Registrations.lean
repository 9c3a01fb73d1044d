import Mathlib.Data.List.Induction
import Mathlib.Data.List.Nodup
import ProcessMigration.Variables.Registration

/-!
# What a registry knows

A registry that was filled by registrations keeps two things: for each id the factory that was
registered last, and of the ids that run by themselves the order in which they first came.

* `Registration.IsLatest` and `FirstOrder` say so by the registrations alone; both determine what
  they speak of: `FirstOrder.unique`;
* `Registry.get?_ofRegistrations` and `Registry.firstOrder_defaults`: so the registry has them.
-/

namespace ProcessMigration

/-- This factory was registered for the id, and none after it. -/
def Registration.IsLatest (came : List Registration) (id : String) (f : InterceptorFactory) :
    Prop :=
  ∃ before x after, came = before ++ x :: after ∧ x.id = id ∧ x.factory = f ∧
    ∀ y ∈ after, y.id ≠ id

/-- The ids that came to run by themselves, as often as they came. -/
def Registration.defaultIds (came : List Registration) : List String :=
  (came.filter (·.byDefault)).map (·.id)

/-- These are the ids that came, once each, in the order in which they first came. -/
structure FirstOrder (came ids : List String) : Prop where
  mem : ∀ id, id ∈ ids ↔ id ∈ came
  order : ids.Pairwise fun a b => came.idxOf a < came.idxOf b

namespace FirstOrder

variable {came ids ids' : List String}

theorem nodup (h : FirstOrder came ids) : ids.Nodup := by
  refine h.order.imp ?_
  intro a b hlt heq
  exact Nat.lt_irrefl _ (heq ▸ hlt)

/-- There is one such order. -/
theorem unique (h : FirstOrder came ids) (h' : FirstOrder came ids') : ids = ids' := by
  have hperm : ids.Perm ids' := by
    rw [List.perm_ext_iff_of_nodup h.nodup h'.nodup]
    intro id
    rw [h.mem, h'.mem]
  refine List.Perm.eq_of_pairwise ?_ h.order h'.order hperm
  intro a b _ _ hab hba
  exact absurd hab (Nat.lt_asymm hba)

theorem nil : FirstOrder [] [] := ⟨fun _ => Iff.rfl, .nil⟩

/-- An id that came before keeps its turn. -/
theorem again (h : FirstOrder came ids) {id : String} (hid : id ∈ came) :
    FirstOrder (came ++ [id]) ids := by
  constructor
  case mem =>
    intro other
    rw [h.mem, List.mem_append, List.mem_singleton]
    constructor
    · exact .inl
    · rintro (hother | rfl)
      · exact hother
      · exact hid
  case order =>
    refine h.order.imp_of_mem ?_
    intro a b ha hb hlt
    rwa [List.idxOf_append_of_mem ((h.mem a).1 ha), List.idxOf_append_of_mem ((h.mem b).1 hb)]

/-- An id that comes for the first time is the last one. -/
theorem snoc (h : FirstOrder came ids) {id : String} (hid : id ∉ came) :
    FirstOrder (came ++ [id]) (ids ++ [id]) := by
  constructor
  case mem =>
    intro other
    rw [List.mem_append, List.mem_append, h.mem]
  case order =>
    rw [List.pairwise_append]
    refine ⟨?_, List.pairwise_singleton _ _, ?_⟩
    · refine h.order.imp_of_mem ?_
      intro a b ha hb hlt
      rwa [List.idxOf_append_of_mem ((h.mem a).1 ha), List.idxOf_append_of_mem ((h.mem b).1 hb)]
    · intro a ha b hb
      rw [List.mem_singleton.1 hb, List.idxOf_append_of_mem ((h.mem a).1 ha),
        List.idxOf_append_of_notMem hid]
      have hlt := List.idxOf_lt_length_of_mem ((h.mem a).1 ha)
      omega

end FirstOrder

namespace Registration

variable {came : List Registration} {x : Registration} {id : String} {f : InterceptorFactory}

/-- The registration that comes last is the latest of its id, and leaves those of other ids. -/
theorem isLatest_snoc :
    IsLatest (came ++ [x]) id f ↔ if id = x.id then x.factory = f else IsLatest came id f := by
  constructor
  · rintro ⟨before, y, after, hsplit, hid, hfactory, hafter⟩
    rcases List.eq_nil_or_concat' after with rfl | ⟨after, z, rfl⟩
    · obtain ⟨-, hlast⟩ := List.append_inj' hsplit rfl
      cases hlast
      rw [if_pos hid.symm]
      exact hfactory
    · rw [← List.cons_append, ← List.append_assoc] at hsplit
      obtain ⟨rfl, hlast⟩ := List.append_inj' hsplit rfl
      cases hlast
      rw [if_neg fun heq => hafter x (List.mem_append_right _ List.mem_cons_self) heq.symm]
      exact ⟨before, y, after, rfl, hid, hfactory, fun z hz => hafter z (List.mem_append_left _ hz)⟩
  · intro h
    split at h
    next hid => exact ⟨came, x, [], rfl, hid.symm, h, fun _ hy => absurd hy List.not_mem_nil⟩
    next hid =>
      obtain ⟨before, y, after, rfl, hy, hfactory, hafter⟩ := h
      refine ⟨before, y, after ++ [x], by simp, hy, hfactory, ?_⟩
      intro z hz
      rcases List.mem_append.1 hz with hz | hz
      · exact hafter z hz
      · rw [List.mem_singleton.1 hz]
        intro heq
        exact hid heq.symm

theorem defaultIds_snoc :
    defaultIds (came ++ [x]) = defaultIds came ++ if x.byDefault then [x.id] else [] := by
  unfold defaultIds
  rw [List.filter_append, List.map_append, List.filter_singleton]
  cases x.byDefault <;> rfl

end Registration

namespace Registry

variable {came : List Registration} {id : String} {f : InterceptorFactory}

theorem ofRegistrations_snoc (came : List Registration) (x : Registration) :
    ofRegistrations (came ++ [x]) = (ofRegistrations came).add x := by
  unfold ofRegistrations
  rw [List.foldl_append, List.foldl_cons, List.foldl_nil]

theorem get?_add (r : Registry) (x : Registration) (id : String) :
    (r.add x).factories.get? id = if id = x.id then some x.factory else r.factories.get? id := by
  have hfactories : (r.add x).factories = r.factories.insert x.id x.factory := by
    unfold add
    split <;> rfl
  rw [hfactories, SortedMap.get?_insert]

/-- A registry knows the factories that were registered last. -/
theorem get?_ofRegistrations :
    (ofRegistrations came).factories.get? id = some f ↔ Registration.IsLatest came id f := by
  induction came using List.reverseRecOn with
  | nil =>
    constructor
    · intro h
      cases h
    · rintro ⟨before, x, after, hsplit, -⟩
      cases before <;> cases hsplit
  | append_singleton came x ih =>
    rw [ofRegistrations_snoc, get?_add, Registration.isLatest_snoc]
    split
    · exact Option.some_inj
    · exact ih

/-- It knows the ids that came. -/
theorem isSome_get?_ofRegistrations :
    ((ofRegistrations came).factories.get? id).isSome = true ↔ id ∈ came.map (·.id) := by
  induction came using List.reverseRecOn with
  | nil => exact iff_of_false Bool.false_ne_true List.not_mem_nil
  | append_singleton came x ih =>
    rw [ofRegistrations_snoc, get?_add, List.map_append, List.mem_append, List.map_singleton,
      List.mem_singleton, ← ih]
    by_cases hid : id = x.id
    · simp [hid]
    · simp [hid]

/-- Those that run by themselves are in the order in which they first came. -/
theorem firstOrder_defaults (came : List Registration) :
    FirstOrder (Registration.defaultIds came) (ofRegistrations came).defaults := by
  induction came using List.reverseRecOn with
  | nil => exact .nil
  | append_singleton came x ih =>
    rw [ofRegistrations_snoc, Registration.defaultIds_snoc]
    unfold add
    cases x.byDefault with
    | false =>
      rw [if_neg Bool.false_ne_true, if_neg Bool.false_ne_true, List.append_nil]
      exact ih
    | true =>
      rw [if_pos rfl, if_pos rfl]
      by_cases hid : x.id ∈ (ofRegistrations came).defaults
      · have hdefaults : ((ofRegistrations came).registerDefault x.id x.factory).defaults =
            (ofRegistrations came).defaults := if_pos (List.contains_iff_mem.2 hid)
        rw [hdefaults]
        exact ih.again ((ih.mem x.id).1 hid)
      · have hdefaults : ((ofRegistrations came).registerDefault x.id x.factory).defaults =
            (ofRegistrations came).defaults ++ [x.id] :=
          if_neg fun hcontains => hid (List.contains_iff_mem.1 hcontains)
        rw [hdefaults]
        exact ih.snoc fun hcame => hid ((ih.mem x.id).2 hcame)

/-- The registry of the built-in interceptors is filled by three registrations. -/
example : builtin = ofRegistrations [⟨"default", .plain "default" .textual, true⟩,
    ⟨"file-validator", .plain "file-validator" .noFiles, true⟩,
    ⟨"date-format", .dateFormat, true⟩] := rfl

end Registry
end ProcessMigration
