import ProcessMigration.Proofs.Reopening

/-!
# The keys of a new instance

The engine draws the keys of an instance one after the other: that of the instance, that of its
start element, and one for each listener. Either all of them are left, and the instance gets the
next keys in ascending order, or it gets none and those that are left are drawn in vain.

* `KeyAllocator.left` is the number of keys that are left;
* `KeyAllocator.draws_in_order`: the next keys are ascending;
* `TargetEngine.createInstance_drawn`: an accepted creation writes the entry with the next keys;
* `TargetEngine.createInstance_exhausted`: with too few keys left a creation fails, whatever its
  journal.
-/

namespace ProcessMigration

open ProcessMigration.Action (Triple)

namespace KeyAllocator

variable {a a' : KeyAllocator} {key key' : Int} {n : Nat}

/-- The number of keys that are left. -/
def left (a : KeyAllocator) : Nat := (Key.span - a.nextLocal).toNat

/-- The next key. -/
def upcoming (a : KeyAllocator) : Int := Key.base a.partition + a.nextLocal

/-- The allocator after so many keys more. -/
def advance (a : KeyAllocator) (n : Nat) : KeyAllocator := { a with nextLocal := a.nextLocal + n }

@[simp] theorem advance_zero (a : KeyAllocator) : a.advance 0 = a := by
  unfold advance
  rw [Int.natCast_zero, Int.add_zero]

@[simp] theorem advance_advance (a : KeyAllocator) (n m : Nat) :
    (a.advance n).advance m = a.advance (n + m) := by
  unfold advance
  rw [Int.natCast_add, Int.add_assoc]

@[simp] theorem left_advance (a : KeyAllocator) (n : Nat) : (a.advance n).left = a.left - n := by
  show (Key.span - (a.nextLocal + n)).toNat = (Key.span - a.nextLocal).toNat - n
  omega

theorem next?_of_left (h : 0 < a.left) : a.next? = some (a.upcoming, a.advance 1) := by
  unfold left at h
  unfold next?
  rw [if_pos (by omega)]
  rfl

theorem next?_of_none_left (h : a.left = 0) : a.next? = none := by
  unfold left at h
  unfold next?
  rw [if_neg (by omega)]

theorem draws_succ (h : 0 < a.left) (n : Nat) :
    draws (n + 1) a = a.upcoming :: draws n (a.advance 1) := by
  rw [draws, next?_of_left h]

/-- The next keys are drawn on the way to the condition behind them. -/
theorem draws_advance (h : n ≤ a.left) : Draws a (a.advance n) (draws n a) := by
  induction n generalizing a with
  | zero =>
    rw [advance_zero]
    exact .refl a
  | succ n ih =>
    have hfirst : Draws a (a.advance 1) [a.upcoming] := draws_next? (next?_of_left (by omega))
    have hrest : Draws (a.advance 1) ((a.advance 1).advance n) (draws n (a.advance 1)) :=
      ih (by rw [left_advance]; omega)
    rw [draws_succ (by omega), Nat.add_comm n 1, ← advance_advance]
    exact hfirst.trans hrest

/-- What was passed lies below what was not. -/
theorem Passed.lt (h : a.Passed key) (hpartition : Key.partition key' = a.partition)
    (hnew : ¬a.Passed key') : key < key' := by
  have hlocal : a.nextLocal ≤ Key.local key' := Int.not_lt.1 fun hlt => hnew ⟨hpartition, hlt⟩
  obtain ⟨hsame, hless⟩ := h
  rw [← hpartition] at hsame
  unfold Key.partition Key.span at hsame
  unfold Key.local Key.span at hlocal hless
  omega

theorem Draws.partition_eq {keys : List Int} (h : Draws a a' keys) (ha : a.Within)
    (hkey : key ∈ keys) : Key.partition key = a.partition :=
  (h.fresh ha key hkey).2.1.trans h.partition

/-- The next keys are in ascending order. -/
theorem draws_in_order (ha : a.Within) (h : n ≤ a.left) : (draws n a).Pairwise (· < ·) := by
  induction n generalizing a with
  | zero => exact .nil
  | succ n ih =>
    have hfirst : Draws a (a.advance 1) [a.upcoming] := draws_next? (next?_of_left (by omega))
    have hwithin := hfirst.within ha
    have hroom : n ≤ (a.advance 1).left := by
      rw [left_advance]
      omega
    rw [draws_succ (by omega)]
    refine List.pairwise_cons.2 ⟨?_, ih hwithin hroom⟩
    intro key hkey
    have hpassed := (hfirst.fresh ha _ List.mem_cons_self).2
    have hrest := draws_advance hroom
    exact hpassed.lt (hrest.partition_eq hwithin hkey) (hrest.fresh hwithin key hkey).1

end KeyAllocator

open KeyAllocator (draws)

/-! ## The entry of a new instance -/

/-- The number of keys that an instance of a definition needs. -/
def Definition.keysNeeded (d : Definition) : Nat :=
  match d.startEvent with
  | none => 1
  | some event => event.listenerJobTypes.length + 2

/-- Jobs of these types with the next keys. -/
def KeyAllocator.nextJobs (a : KeyAllocator) : List String → List JournalJob
  | [] => []
  | jobType :: rest => ⟨a.upcoming, jobType⟩ :: nextJobs (a.advance 1) rest

/-- The entry of an instance with the next keys. -/
def CreateRequest.entry (request : CreateRequest) (d : Definition) (a : KeyAllocator) :
    StartedInstance :=
  match d.startEvent with
  | none => ⟨a.upcoming, d.key, d.businessId, request.tenant, none, none, [], request.vars⟩
  | some event =>
    ⟨a.upcoming, d.key, d.businessId, request.tenant, some event.id, some (a.advance 1).upcoming,
      (a.advance 2).nextJobs event.listenerJobTypes, request.vars⟩

theorem KeyAllocator.keys_nextJobs {a : KeyAllocator} {types : List String}
    (h : types.length ≤ a.left) : (a.nextJobs types).map (·.key) = draws types.length a := by
  induction types generalizing a with
  | nil => rfl
  | cons type rest ih =>
    rw [List.length_cons] at h ⊢
    have hrest : rest.length ≤ (a.advance 1).left := by
      rw [left_advance]
      omega
    rw [draws_succ (by omega), ← ih hrest]
    rfl

/-- The keys of a new instance are the next ones. -/
theorem CreateRequest.keysOf_entry (request : CreateRequest) {d : Definition} {a : KeyAllocator}
    (h : d.keysNeeded ≤ a.left) :
    TargetState.keysOf (request.entry d a) = draws d.keysNeeded a := by
  unfold Definition.keysNeeded at h ⊢
  unfold CreateRequest.entry
  cases hstart : d.startEvent with
  | none =>
    simp only [hstart] at h ⊢
    rw [KeyAllocator.draws_succ h]
    rfl
  | some event =>
    simp only [hstart] at h ⊢
    have hsecond : 0 < (a.advance 1).left := by
      rw [KeyAllocator.left_advance]
      omega
    have hjobs : event.listenerJobTypes.length ≤ (a.advance 2).left := by
      rw [KeyAllocator.left_advance]
      omega
    rw [KeyAllocator.draws_succ (by omega), KeyAllocator.draws_succ hsecond,
      KeyAllocator.advance_advance, ← KeyAllocator.keys_nextJobs hjobs]
    rfl

/-! ## Drawing the keys -/

namespace TargetEngine

variable {t : TargetEngine} {request : CreateRequest} {d : Definition} {es : List JournalEntry}

/-- The failure of a creation for which too few keys are left. -/
def keysExhausted : ConnectorError := ⟨.target, "create_instance", "key space exhausted"⟩

@[simp] theorem keys_withKeys (t : TargetEngine) (a : KeyAllocator) :
    (t.withKeys a).state.keys = a := rfl

@[simp] theorem withKeys_withKeys (t : TargetEngine) (a a' : KeyAllocator) :
    (t.withKeys a).withKeys a' = t.withKeys a' := rfl

theorem drawKey_run (h : 0 < t.state.keys.left) :
    drawKey.run t = (.ok t.state.keys.upcoming, t.withKeys (t.state.keys.advance 1)) := by
  unfold Action.run drawKey
  rw [KeyAllocator.next?_of_left h]
  rfl

theorem drawKey_exhausted (h : t.state.keys.left = 0) :
    drawKey.run t = (.error keysExhausted, t) := by
  unfold Action.run drawKey
  rw [KeyAllocator.next?_of_none_left h]
  rfl

theorem drawJobs_run {types : List String} (h : types.length ≤ t.state.keys.left) :
    (drawJobs types).run t =
      (.ok (t.state.keys.nextJobs types), t.withKeys (t.state.keys.advance types.length)) := by
  induction types generalizing t with
  | nil =>
    rw [List.length_nil, KeyAllocator.advance_zero]
    rfl
  | cons type rest ih =>
    rw [List.length_cons] at h
    have hrest : rest.length ≤ (t.withKeys (t.state.keys.advance 1)).state.keys.left := by
      rw [keys_withKeys, KeyAllocator.left_advance]
      omega
    unfold drawJobs
    rw [Action.run_bind_ok (drawKey_run (by omega)), Action.run_bind_ok (ih hrest), keys_withKeys,
      withKeys_withKeys, KeyAllocator.advance_advance, List.length_cons, Nat.add_comm]
    rfl

/-- Where the keys do not suffice for all jobs, all of them are drawn. -/
theorem drawJobs_exhausted (types : List String) (h : t.state.keys.left < types.length) :
    (drawJobs types).run t =
      (.error keysExhausted, t.withKeys (t.state.keys.advance t.state.keys.left)) := by
  induction types generalizing t with
  | nil => exact absurd h (Nat.not_lt_zero _)
  | cons type rest ih =>
    rw [List.length_cons] at h
    unfold drawJobs
    by_cases hnone : t.state.keys.left = 0
    · rw [Action.run_bind_error (drawKey_exhausted hnone), hnone, KeyAllocator.advance_zero]
      rfl
    · have hrest := ih (t := t.withKeys (t.state.keys.advance 1))
      rw [keys_withKeys, withKeys_withKeys, KeyAllocator.left_advance,
        KeyAllocator.advance_advance, Nat.add_sub_cancel' (by omega)] at hrest
      rw [Action.run_bind_ok (drawKey_run (by omega)), Action.run_bind_error (hrest (by omega))]

/-! ## Creations -/

/-- With enough keys left a creation comes to the entry with the next ones. -/
theorem createInstance_run
    (hfind : t.definitions.find? (fun d => d.key == request.definitionKey) = some d)
    (h : d.keysNeeded ≤ t.state.keys.left) :
    (createInstance request).run t =
      (do accept "create_instance" (.create (request.entry d t.state.keys))
          return ⟨t.state.keys.upcoming, d.key⟩ : TargetAction InstanceHandle).run
        (t.withKeys (t.state.keys.advance d.keysNeeded)) := by
  unfold createInstance
  rw [Action.run_bind_ok (Action.run_get t)]
  simp only [hfind]
  unfold Definition.keysNeeded at h ⊢
  unfold CreateRequest.entry
  cases hstart : d.startEvent with
  | none =>
    simp only [hstart] at h ⊢
    rw [Action.run_bind_ok (drawKey_run h)]
    rfl
  | some event =>
    simp only [hstart] at h ⊢
    have hsecond : 0 < (t.withKeys (t.state.keys.advance 1)).state.keys.left := by
      rw [keys_withKeys, KeyAllocator.left_advance]
      omega
    have hjobs : event.listenerJobTypes.length ≤
        (t.withKeys (t.state.keys.advance 2)).state.keys.left := by
      rw [keys_withKeys, KeyAllocator.left_advance]
      omega
    rw [Action.run_bind_ok (drawKey_run (by omega)), Action.run_bind_ok (drawKey_run hsecond),
      keys_withKeys, withKeys_withKeys, KeyAllocator.advance_advance,
      Action.run_bind_ok (drawJobs_run hjobs), keys_withKeys, withKeys_withKeys,
      KeyAllocator.advance_advance, Nat.add_comm 2]
    rfl

/-- With too few keys left a creation fails, and all that are left are drawn. -/
theorem createInstance_exhausted
    (hfind : t.definitions.find? (fun d => d.key == request.definitionKey) = some d)
    (h : t.state.keys.left < d.keysNeeded) :
    (createInstance request).run t =
      (.error keysExhausted, t.withKeys (t.state.keys.advance t.state.keys.left)) := by
  unfold createInstance
  rw [Action.run_bind_ok (Action.run_get t)]
  simp only [hfind]
  by_cases hnone : t.state.keys.left = 0
  · rw [Action.run_bind_error (drawKey_exhausted hnone), hnone, KeyAllocator.advance_zero]
    rfl
  · rw [Action.run_bind_ok (drawKey_run (by omega))]
    unfold Definition.keysNeeded at h
    cases hstart : d.startEvent with
    | none =>
      simp only [hstart] at h
      omega
    | some event =>
      simp only [hstart] at h ⊢
      have hleft : (t.withKeys (t.state.keys.advance 1)).state.keys.left =
          t.state.keys.left - 1 := KeyAllocator.left_advance _ _
      by_cases hone : t.state.keys.left = 1
      · rw [Action.run_bind_error (drawKey_exhausted (by omega)), hone]
      · rw [Action.run_bind_ok (drawKey_run (by omega)), keys_withKeys, withKeys_withKeys,
          KeyAllocator.advance_advance]
        have hjobs := drawJobs_exhausted (t := t.withKeys (t.state.keys.advance 2))
          event.listenerJobTypes
        rw [keys_withKeys, withKeys_withKeys, KeyAllocator.left_advance,
          KeyAllocator.advance_advance, Nat.add_sub_cancel' (by omega)] at hjobs
        rw [Action.run_bind_error (hjobs (by omega))]

/-- With enough keys left a creation is accepted and writes the entry with the next ones. -/
theorem createInstance_accepted (h : t.Wrote es)
    (hfind : t.definitions.find? (fun d => d.key == request.definitionKey) = some d)
    (hroom : d.keysNeeded ≤ t.state.keys.left) :
    Triple (fun t' => t' = t) (createInstance request)
      (fun _ t' => t'.Wrote (es ++ [.create (request.entry d t.state.keys)]) ∧
        t'.state = (t.state.withKeys (t.state.keys.advance d.keysNeeded)).create
          (request.entry d t.state.keys))
      (fun _ => False) := by
  intro t' ht
  subst ht
  have hdraws : t'.state.keys.Draws (t'.state.keys.advance d.keysNeeded)
      (TargetState.keysOf (request.entry d t'.state.keys)) := by
    rw [request.keysOf_entry hroom]
    exact KeyAllocator.draws_advance hroom
  rw [createInstance_run hfind hroom]
  have hcreate : Triple (fun t => t = t'.withKeys (t'.state.keys.advance d.keysNeeded))
      (do accept "create_instance" (.create (request.entry d t'.state.keys))
          return ⟨t'.state.keys.upcoming, d.key⟩ : TargetAction InstanceHandle)
      (fun _ t => t.Wrote (es ++ [.create (request.entry d t'.state.keys)]) ∧
        t.state = (t'.state.withKeys (t'.state.keys.advance d.keysNeeded)).create
          (request.entry d t'.state.keys))
      fun _ => False := by
    refine Triple.bind (accept_create h hdraws) ?_
    intro _
    apply Triple.pure
    intro t'' ⟨hstate, _, hwrote⟩
    exact ⟨hwrote, hstate⟩
  exact hcreate _ rfl

/-- An accepted creation writes the entry with the next keys; a refused one draws keys at most. -/
theorem createInstance_drawn (h : t.Wrote es) (request : CreateRequest) :
    Triple (fun t' => t' = t) (createInstance request)
      (fun _ t' => ∃ d, t.definitions.find? (fun d => d.key == request.definitionKey) = some d ∧
        d.keysNeeded ≤ t.state.keys.left ∧
        t'.Wrote (es ++ [.create (request.entry d t.state.keys)]) ∧
        t'.state = (t.state.withKeys (t.state.keys.advance d.keysNeeded)).create
          (request.entry d t.state.keys))
      (Idle t) := by
  cases hfind : t.definitions.find? (fun d => d.key == request.definitionKey) with
  | none =>
    intro t' ht
    subst ht
    have hrun : (createInstance request).run t' = (.error ⟨.target, "create_instance",
        "unknown process definition key " ++ toString request.definitionKey⟩, t') := by
      unfold createInstance
      rw [Action.run_bind_ok (Action.run_get t')]
      simp only [hfind]
      rfl
    rw [hrun]
    exact ⟨t'.state.keys, [], .refl _, rfl⟩
  | some d =>
    by_cases hroom : d.keysNeeded ≤ t.state.keys.left
    · refine (createInstance_accepted h hfind hroom).succeeds.post ?_
      intro _ t' ⟨hwrote, hstate⟩
      exact ⟨d, rfl, hroom, hwrote, hstate⟩
    · intro t' ht
      subst ht
      rw [createInstance_exhausted hfind (Nat.not_le.1 hroom)]
      exact ⟨_, _, KeyAllocator.draws_advance (Nat.le_refl _), rfl⟩

end TargetEngine
end ProcessMigration
