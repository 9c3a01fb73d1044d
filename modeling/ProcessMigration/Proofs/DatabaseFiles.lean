import ProcessMigration.Proofs.LifeCycle
import ProcessMigration.Program

/-!
# What becomes of a database in a file

A file tree changes in few ways: a text is added to the end of a file, directories are made where
nothing was, a database is written back, and what stood beside it is taken away. A database in a
file outlives all of these but the writing back of that very database.

* `FileTree.Holds` says that there is a database in the file at a place, and `Holds.put_of_ne`,
  `Holds.put_new` and `Holds.without` how it outlives a change of the tree;
* `FileTree.Tracks` follows a database through the use of an open one, which may be the same:
  `Tracks.save` and `Tracks.runStore` say what is in the file afterwards.
-/

namespace ProcessMigration

namespace FileTree

variable {t t' : FileTree} {place other : Place} {db database : Database} {path : String}

/-! ## Places -/

/-- The key of a place beside another one ends differently. -/
theorem key_beside (h : place ≠ []) (ending : String) :
    key (beside ending place) = key place ++ ending := by
  rcases List.eq_nil_or_concat place with rfl | ⟨above, name, rfl⟩
  · exact absurd rfl h
  · unfold key beside
    rw [List.concat_eq_append, List.dropLast_concat, List.getLast?_concat, Option.getD_some]
    cases above with
    | nil => rw [List.nil_append, List.nil_append, String.intercalate_singleton,
        String.intercalate_singleton]
    | cons first rest =>
      rw [String.intercalate_append_of_ne_nil (by simp) (by simp),
        String.intercalate_append_of_ne_nil (by simp) (by simp), String.intercalate_singleton,
        String.intercalate_singleton, String.append_assoc, String.append_assoc, String.append_assoc]

theorem key_beside_ends (ending : String) (place : Place) :
    ∃ start, key (beside ending place) = start ++ ending := by
  by_cases h : place = []
  · subst h
    exact ⟨"", String.intercalate_singleton⟩
  · exact ⟨key place, key_beside h ending⟩

/-- The place is none of those beside the database at another one. -/
def NotBeside (place other : Place) : Prop :=
  ∀ ending ∈ besideEndings, key place ≠ key (beside ending other)

/-- No file stands beside itself. -/
theorem notBeside_of_key_eq (h : key place = key other) (hother : other ≠ []) :
    NotBeside place other := by
  intro ending hending hsame
  rw [key_beside hother, h] at hsame
  have hlength := congrArg String.length hsame
  rw [String.length_append] at hlength
  have hpos : 0 < ending.length := by
    simp only [besideEndings, List.mem_cons, List.not_mem_nil, or_false] at hending
    rcases hending with rfl | rfl <;> decide
  omega

/-! ## A database at a place -/

/-- There is a database in the file at a place. -/
def Holds (t : FileTree) (place : Place) (db : Database) : Prop :=
  t.at? place = some (.file (.database db))

theorem holds_iff : t.Holds place db ↔
    place ≠ [] ∧ t.nodes.get? (key place) = some (.file (.database db)) := by
  unfold Holds at?
  cases place with
  | nil => simp
  | cons name rest => simp

namespace Holds

theorem put_of_ne (h : t.Holds place db) (hne : key place ≠ key other) (node : FileNode) :
    (t.put other node).Holds place db := by
  rw [holds_iff] at h ⊢
  refine ⟨h.1, ?_⟩
  unfold put
  rw [SortedMap.get?_insert, if_neg hne]
  exact h.2

/-- What is put where nothing was takes the place of no database. -/
theorem put_new (h : t.Holds place db) (hnew : t.at? other = none) (node : FileNode) :
    (t.put other node).Holds place db := by
  refine h.put_of_ne ?_ node
  intro hsame
  have hthere := (holds_iff.1 h).2
  unfold at? at hnew
  split at hnew
  · cases hnew
  · rw [hsame, hnew] at hthere
    cases hthere

theorem without (h : t.Holds place db) (hne : key place ≠ key other) :
    (t.without other).Holds place db := by
  rw [holds_iff] at h ⊢
  refine ⟨h.1, ?_⟩
  unfold FileTree.without
  rw [SortedMap.get?_erase, if_neg hne]
  exact h.2

/-- A database that was put where there is a name is there. -/
theorem put_same (hplace : place ≠ []) (hsame : key place = key other) :
    (t.put other (.file (.database db))).Holds place db := by
  rw [holds_iff]
  refine ⟨hplace, ?_⟩
  unfold put
  rw [SortedMap.get?_insert, if_pos hsame]

/-- A file with a text at its end is not another file, and a database does not care. -/
theorem append (h : t.Holds place db) {s : String} (happend : t.append path s = .ok t') :
    t'.Holds place db := by
  unfold FileTree.append at happend
  split at happend
  · cases happend
  next at' hlocate =>
    split at happend
    next hnone =>
      cases happend
      exact h.put_new hnone _
    next content hfile =>
      cases happend
      by_cases hsame : key place = key at'
      · have hcontent : content = .database db := by
          obtain ⟨hplace, hthere⟩ := holds_iff.1 h
          unfold at? at hfile
          split at hfile
          · cases hfile
          · rw [← hsame, hthere] at hfile
            cases hfile
            rfl
        subst hcontent
        exact put_same (holds_iff.1 h).1 hsame
      · exact h.put_of_ne hsame _
    next =>
      cases happend
      exact h

theorem append_getD (h : t.Holds place db) (s : String) :
    ((t.append path s).toOption.getD t).Holds place db := by
  cases happend : t.append path s with
  | error e => exact h
  | ok t' => exact h.append happend

/-! ### Directories -/

theorem ensureDirectory (h : t.Holds place db) (path : String) :
    (t.ensureDirectory path).2.Holds place db := by
  unfold FileTree.ensureDirectory
  split
  · next made hmade =>
    unfold makeDirectory at hmade
    split at hmade
    · cases hmade
    · split at hmade
      · cases hmade
      next hnone =>
        cases hmade
        exact h.put_new hnone _
  · exact h

theorem makeChain (h : t.Holds place db) (paths : List String) :
    (t.makeChain paths).2.Holds place db := by
  induction paths generalizing t with
  | nil => exact h
  | cons path above ih =>
    have hensured := h.ensureDirectory path
    unfold FileTree.makeChain
    split
    next made hmade =>
      rw [hmade] at hensured
      have habove := ih hensured
      split
      next made' hmade' =>
        rw [hmade'] at habove
        exact habove.ensureDirectory path
      · exact habove
    · exact hensured

theorem makeDirectories (h : t.Holds place db) (path : String) :
    (t.makeDirectories path).2.Holds place db :=
  h.makeChain (Path.chain path)

end Holds

/-! ## A database in use -/

/-- There is a database in the file at a place, and another one is open, which may be the same; the
place is not beside that one. -/
structure Tracks (t : FileTree) (o : OpenDatabase) (place : Place) (db : Database) : Prop where
  holds : t.Holds place db
  notBeside : ∀ p, o.place = some p → NotBeside place p
  same : ∀ p, o.place = some p → key place = key p → o.database = db

/-- A change of the tree that leaves the file alone. -/
theorem Tracks.of_holds {o : OpenDatabase} (h : Tracks t o place db) (hholds : t'.Holds place db) :
    Tracks t' o place db :=
  ⟨hholds, h.notBeside, h.same⟩

/-- The place of the file that an address leads to, unless the database is in memory. -/
def fileOf? (t : FileTree) (a : DatabaseAddress) : Option Place :=
  if a.inMemory then none else t.databasePlace? (t.start a.path) (Path.parts a.path)

theorem cleared_holds (h : t.Holds place db) (hbeside : NotBeside place other)
    (a : DatabaseAddress) (isNew : Bool) : (t.cleared a other isNew).Holds place db := by
  have hside : key place ≠ key (sidePlace other) := hbeside "-journal" (by simp [besideEndings])
  have hlog : key place ≠ key (logPlace other) := hbeside "-wal" (by simp [besideEndings])
  have hcleared : ∀ {t' : FileTree}, t'.Holds place db →
      (if a.isWritable && t'.isBrokenOff (sidePlace other) then t'.without (sidePlace other)
        else t').Holds place db := by
    intro t' ht'
    split
    · exact ht'.without hside
    · exact ht'
  unfold cleared
  apply hcleared
  split
  · exact h.without hlog
  · exact h

theorem opened_tracks {a : DatabaseAddress} {found : Option Database} {o : OpenDatabase}
    (h : t.Holds place db) (hbeside : NotBeside place other)
    (hsame : key place = key other → found = some db) (hopen : t.opened a other found = (o, t')) :
    Tracks t' o place db := by
  have hfound : key place = key other → found.getD .empty = db := by
    intro hkey
    rw [hsame hkey]
    rfl
  unfold opened at hopen
  dsimp only at hopen
  split at hopen
  · obtain ⟨rfl, rfl⟩ := Prod.mk.inj hopen
    constructor
    case holds => exact cleared_holds h hbeside a _
    all_goals
      rintro _ ⟨⟩
      assumption
  · obtain ⟨rfl, rfl⟩ := Prod.mk.inj hopen
    constructor
    case holds => exact h
    all_goals
      rintro _ ⟨⟩
      assumption

theorem openAt_tracks {a : DatabaseAddress} {o : OpenDatabase} {p : Place} (h : t.Holds place db)
    (hne : p ≠ []) (hbeside : NotBeside place p) (hopen : t.openAt a p = .ok (o, t')) :
    Tracks t' o place db := by
  have hnode : t.at? p = t.nodes.get? (key p) := by
    unfold at?
    rw [if_neg (by simpa using hne)]
  -- at the place of the file there is the database that it holds
  have hthere : key place = key p → t.at? p = some (.file (.database db)) := by
    intro hsame
    rw [hnode, ← hsame]
    exact (holds_iff.1 h).2
  unfold openAt at hopen
  split at hopen
  next content hcontent =>
    refine opened_tracks h hbeside ?_ (Except.ok.inj hopen)
    intro hsame
    cases hcontent.symm.trans (hthere hsame)
    rfl
  next => cases hopen
  next hnone =>
    split at hopen
    · refine opened_tracks (h.put_new hnone _) hbeside ?_ (Except.ok.inj hopen)
      intro hsame
      cases hnone.symm.trans (hthere hsame)
    · cases hopen

/-- The tree once a database is open. -/
theorem openDatabase_tracks {a : DatabaseAddress} {o : OpenDatabase} (h : t.Holds place db)
    (hbeside : ∀ p, t.fileOf? a = some p → key place = key p ∨ NotBeside place p)
    (hopen : t.openDatabase a = .ok (o, t')) : Tracks t' o place db := by
  unfold openDatabase at hopen
  split at hopen
  next =>
    cases hopen
    constructor
    case holds => exact h
    all_goals
      intro p hp
      cases hp
  next hfile =>
    unfold fileOf? at hbeside
    rw [if_neg hfile] at hbeside
    split at hopen
    next => cases hopen
    next p hp =>
      split at hopen
      next => cases hopen
      next hroot =>
        have hne : p ≠ [] := by
          rintro rfl
          exact hroot rfl
        refine openAt_tracks h hne ?_ hopen
        rcases hbeside p hp with hsame | hapart
        · exact notBeside_of_key_eq hsame hne
        · exact hapart

namespace Tracks

variable {o : OpenDatabase}

/-- A database that is written back is in its file; in any other file nothing changes. -/
theorem save (h : Tracks t o place db) (database : Database) :
    ∃ db', Tracks (t.save o database) { o with database } place db' ∧
      (db' = db ∨ o.database = db ∧ db' = database) := by
  obtain ⟨holds, notBeside, same⟩ := h
  unfold FileTree.save
  split
  next heq =>
    subst heq
    exact ⟨db, ⟨holds, notBeside, same⟩, .inl rfl⟩
  next =>
    unfold keep
    split
    next hplace =>
      refine ⟨db, ⟨holds, ?_, ?_⟩, .inl rfl⟩
      all_goals
        intro p hp
        have hnone : o.place = none := hplace
        have hsome : o.place = some p := hp
        rw [hnone] at hsome
        cases hsome
    next p hplace =>
      have hopen : o.place = some p := hplace
      have hside : key place ≠ key (sidePlace p) :=
        notBeside p hopen "-journal" (by simp [besideEndings])
      by_cases hsame : key place = key p
      · refine ⟨database, ⟨?_, notBeside, fun _ _ _ => rfl⟩,
          .inr ⟨same p hopen hsame, rfl⟩⟩
        exact (Holds.put_same (holds_iff.1 holds).1 hsame).without hside
      · refine ⟨db, ⟨(holds.put_of_ne hsame _).without hside, notBeside, ?_⟩, .inl rfl⟩
        intro p' hp' hsame'
        have hopen' : o.place = some p' := hp'
        rw [hopen] at hopen'
        cases hopen'
        exact absurd hsame' hsame

/-- An operation of the mapping store on the open database: the file holds what it held, or what the
operation has made of it. -/
theorem runStore (h : Tracks t o place db) {α : Type} {x : StoreAction α} {r : Except StoreError α}
    {o' : OpenDatabase} (hrun : t.runStore o x = (r, o', t')) :
    ∃ db', Tracks t' o' place db' ∧ (db' = db ∨ x.run db = (r, db')) := by
  unfold FileTree.runStore at hrun
  split at hrun
  next =>
    cases hrun
    exact ⟨db, h, .inl rfl⟩
  next =>
    dsimp only at hrun
    split at hrun
    next =>
      cases hrun
      obtain ⟨db', htracks, hdb'⟩ := h.save (x.run o.database).2
      refine ⟨db', htracks, ?_⟩
      rcases hdb' with rfl | ⟨rfl, rfl⟩
      · exact .inl rfl
      · exact .inr rfl
    next =>
      -- a change of a database that may only be read is not made
      cases hrun
      exact ⟨db, h, .inl rfl⟩

end Tracks
end FileTree
end ProcessMigration
