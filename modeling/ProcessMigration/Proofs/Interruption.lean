import ProcessMigration.Migration.Session
import ProcessMigration.Proofs.Triple

/-!
# Calls in the course of events

Before a call others may start instances, and the call itself may be refused or cut off. What a
proof knows before a call must outlast the first, and what it knows after a failure must hold in
either of the other two.

* `Interrupted.Stable`: neither others nor the incidents to come disturb a property;
* `Interrupted.call_triple` is the rule for a call, `query_reads` and `storeCall_reads` those for
  questions, which change nothing;
* `Run.engine_reads` and `Run.store_reads` lift them to the runs of a migrator.
-/

namespace ProcessMigration

open ProcessMigration.Action (Triple)

variable {σ ε α β : Type}

/-! ## Questions -/

/-- An action that leaves the state as it is. -/
def Action.ReadOnly (x : Action σ ε α) : Prop := ∀ s, (x.run s).2 = s

namespace Action.ReadOnly

theorem pure (a : α) : ReadOnly (Pure.pure a : Action σ ε α) := fun _ => rfl

theorem fail (e : ε) : ReadOnly (Action.fail e : Action σ ε α) := fun _ => rfl

theorem ofExcept (r : Except ε α) : ReadOnly (Action.ofExcept r : Action σ ε α) := fun _ => rfl

theorem bind {x : Action σ ε α} {f : α → Action σ ε β} (hx : ReadOnly x) (hf : ∀ a, ReadOnly (f a)) :
    ReadOnly (x >>= f) := by
  intro s
  have h := hx s
  rw [run_bind]
  split
  · next a s' hrun =>
    rw [hrun] at h
    rw [← h]
    exact hf a s'
  · next e s' hrun =>
    rw [hrun] at h
    exact h

theorem triple {x : Action σ ε α} {P : σ → Prop} (h : ReadOnly x) :
    Triple P x (fun a s => P s ∧ (x.run s).1 = .ok a) P := by
  intro s hs
  have hstate := h s
  split
  · next a s' hrun =>
    rw [hrun] at hstate
    subst hstate
    exact ⟨hs, by rw [hrun]⟩
  · next e s' hrun =>
    rw [hrun] at hstate
    subst hstate
    exact hs

end Action.ReadOnly

/-! ## Calls -/

namespace Interrupted

/-- A property of a course of events that neither others nor the incidents to come disturb. -/
structure Stable (t : JobEngine σ) (P : Interrupted σ → Prop) : Prop where
  startByOther : ∀ d request, P d → P (d.startByOther t request)
  coming : ∀ d coming, P d → P { d with coming := coming }

section

variable {t : JobEngine σ} {P M R : Interrupted σ → Prop} {Q : α → Interrupted σ → Prop}

theorem Stable.startByOthers (hP : Stable t P) (requests : List CreateRequest) (d : Interrupted σ)
    (hd : P d) : P (requests.foldl (Interrupted.startByOther t) d) := by
  induction requests generalizing d with
  | nil => exact hd
  | cons request rest ih => exact ih _ (hP.startByOther d request hd)

theorem Stable.next (hP : Stable t P) (d : Interrupted σ) (hd : P d) :
    P (Interrupted.next t d).2 := by
  unfold Interrupted.next
  split
  · exact hd
  · exact hP.startByOthers _ _ (hP.coming d _ hd)

theorem Stable.and {P' : Interrupted σ → Prop} (h : Stable t P) (h' : Stable t P') :
    Stable t fun d => P d ∧ P' d where
  startByOther d request hd := ⟨h.startByOther d request hd.1, h'.startByOther d request hd.2⟩
  coming d coming hd := ⟨h.coming d coming hd.1, h'.coming d coming hd.2⟩

/-- The rule for a call. What is noted of it is noted in any case; after a cut-off call its effect is
there, but not its answer. -/
theorem call_triple {failure : String → ε} {note : Interrupted σ → Interrupted σ}
    {x : Action (Interrupted σ) ε α} (hP : Stable t P) (hnote : ∀ d, P d → M (note d))
    (hrefused : ∀ d, M d → R d) (hx : Triple M x Q R) (hcut : ∀ a d, Q a d → R d) :
    Triple P (call t failure note x) Q R := by
  intro d hd
  have hnext := hnote _ (hP.next d hd)
  have hrun := hx _ hnext
  unfold Action.run call
  rcases hn : next t d with ⟨fate, d'⟩
  rw [hn] at hnext hrun
  cases fate with
  | answered => exact hrun
  | refused message => exact hrefused _ hnext
  | cutOff message =>
    show R (x.run (note d')).2
    split at hrun
    · next a s' h =>
      rw [h]
      exact hcut a _ hrun
    · next e s' h =>
      rw [h]
      exact hrun

theorem inside_triple {x : Action σ ε α}
    (h : ∀ d, P d → Triple (fun w => w = d.world) x (fun a w => Q a (d.withWorld w))
      fun w => R (d.withWorld w)) :
    Triple P (inside x) Q R :=
  Triple.onPart h

theorem inside_reads {x : Action σ ε α} (hx : Action.ReadOnly x) :
    Triple P (inside x) (fun a d => P d ∧ (x.run d.world).1 = .ok a) P := by
  apply inside_triple
  intro d hd
  refine (hx.triple).ends ?_ ?_
  · intro a w ⟨hw, hrun⟩
    subst hw
    exact ⟨hd, hrun⟩
  · intro w hw
    subst hw
    exact hd

end

section

variable {env : Environment σ} {P : Interrupted σ → Prop}

/-- A question to an engine keeps every stable property, and its answer is that of the world at that
moment. -/
theorem query_reads {op : EngineOperation} {x : Action σ ConnectorError α}
    (hP : Stable env.target P) (hx : Action.ReadOnly x) :
    Triple P (query env op x) (fun a d => P d ∧ (x.run d.world).1 = .ok a) P :=
  call_triple hP (fun _ hd => hd) (fun _ hd => hd) (inside_reads hx) fun _ _ h => h.1

/-- A question to the mapping store, likewise. -/
theorem storeCall_reads {x : Action σ StoreError α}
    (hP : Stable env.target P) (hx : Action.ReadOnly x) :
    Triple P (storeCall env x) (fun a d => P d ∧ (x.run d.world).1 = .ok a) P :=
  call_triple hP (fun _ hd => hd) (fun _ hd => hd) (inside_reads hx) fun _ _ h => h.1

end
end Interrupted

/-! ## Runs -/

namespace Run

/-- A property of runs that neither others nor the incidents to come disturb. -/
def Stable (t : JobEngine σ) (P : RunState (Interrupted σ) → Prop) : Prop :=
  ∀ s : RunState (Interrupted σ), Interrupted.Stable t fun d => P { s with world := d }

theorem Stable.and {t : JobEngine σ} {P P' : RunState (Interrupted σ) → Prop} (h : Stable t P)
    (h' : Stable t P') : Stable t fun s => P s ∧ P' s :=
  fun s => (h s).and (h' s)

theorem call_triple {P R : RunState σ → Prop} {Q : α → RunState σ → Prop}
    {x : Action σ MigrationError α}
    (h : ∀ s : RunState σ, Triple (fun d => P { s with world := d }) x (fun a d => Q a { s with world := d })
      fun d => R { s with world := d }) :
    Triple P (Run.call x) Q R :=
  Triple.onPart fun s hs => (h s).pre fun _ hd => hd ▸ hs

variable {env : Environment σ} {P : RunState (Interrupted σ) → Prop}

theorem engine_reads {op : EngineOperation} {x : Action σ ConnectorError α}
    (hP : Stable env.target P) (hx : Action.ReadOnly x) :
    Triple P (Run.engine (Interrupted.query env op x))
      (fun a s => P s ∧ (x.run s.world.world).1 = .ok a) P :=
  call_triple fun s => Triple.mapError (Interrupted.query_reads (hP s) hx)

theorem store_reads {x : Action σ StoreError α} (hP : Stable env.target P)
    (hx : Action.ReadOnly x) :
    Triple P (Run.store (Interrupted.storeCall env x))
      (fun a s => P s ∧ (x.run s.world.world).1 = .ok a) P :=
  call_triple fun s => Triple.mapError (Interrupted.storeCall_reads (hP s) hx)

end Run
end ProcessMigration
