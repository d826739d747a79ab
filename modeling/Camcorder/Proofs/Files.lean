import Mathlib
import Camcorder.FileTree

/-!
# What stands at a path

A path is followed through directories only, so a change to a file leaves every path leading where it led
(`FileTree.locate_of_directories`). Three requests change what stands at a path: `FileTree.create_cases`,
`FileTree.resolve_store` and `FileTree.remove_cases` say how. One adds to it only: `FileTree.grown_of_makeFolders`.
-/

namespace Camcorder

namespace FileTree

variable {t t' : FileTree} {path : String} {place : List String} {id : Nat} {content : Bytes}

/-! ## Places -/

theorem lookup_filter_ne (entries : List (List String × Node)) (place other : List String) :
    (entries.filter (·.1 != place)).lookup other = if other = place then none else entries.lookup other := by
  induction entries with
  | nil => simp
  | cons entry entries ih =>
    obtain ⟨here, node⟩ := entry
    by_cases removed : here = place
    · -- The entry is left out, and it was not the one that is looked for, unless nothing is to be found.
      have left : ((here, node) :: entries).filter (·.1 != place) = entries.filter (·.1 != place) :=
        List.filter_cons_of_neg (by simp [removed])
      rw [left, ih]
      by_cases same : other = place
      · rw [if_pos same, if_pos same]
      · have differs : (other == here) = false := by simp [removed, same]
        rw [if_neg same, if_neg same, List.lookup_cons, differs]
    · have kept : ((here, node) :: entries).filter (·.1 != place) = (here, node) :: entries.filter (·.1 != place) :=
        List.filter_cons_of_pos (by simp [removed])
      rw [kept, List.lookup_cons, List.lookup_cons, ih]
      by_cases found : other = here
      · have same : (other == here) = true := by simp [found]
        have stays : other ≠ place := by rw [found]; exact removed
        rw [same]
        exact (if_neg stays).symm
      · have differs : (other == here) = false := by simp [found]
        rw [differs]

theorem lookup_map_snd (entries : List (List String × Node)) (f : Node → Node) (place : List String) :
    (entries.map fun e => (e.1, f e.2)).lookup place = (entries.lookup place).map f := by
  induction entries with
  | nil => rfl
  | cons entry entries ih =>
    obtain ⟨here, node⟩ := entry
    rw [List.map_cons, List.lookup_cons, List.lookup_cons, ih]
    cases place == here with
    | true => rfl
    | false => rfl

/-- The working directory is always there; all else is among the entries. -/
theorem node?_eq_lookup (t : FileTree) (inner : place ≠ []) : t.node? place = t.entries.lookup place := by
  cases place with
  | nil => contradiction
  | cons name rest => rfl

theorem ne_nil_of_node? (h : t.node? place ≠ some .directory) : place ≠ [] := by
  intro root
  subst root
  exact h rfl

/-- The trees `t` and `t'` differ at this place at most. -/
def SameBut (place : List String) (t t' : FileTree) : Prop := ∀ other, other ≠ place → t'.node? other = t.node? other

/-- What is inserted is there, and nothing else has changed. -/
theorem node?_insert (t : FileTree) (inner : place ≠ []) (n : Node) :
    (t.insert place n).node? place = some n ∧ SameBut place t (t.insert place n) := by
  constructor
  · rw [node?_eq_lookup _ inner]
    unfold insert
    rw [List.lookup_cons, beq_self_eq_true]
  · intro other differs
    cases other with
    | nil => rfl
    | cons name rest =>
      have missed : (name :: rest == place) = false := by simpa using differs
      unfold insert node?
      dsimp only
      rw [List.lookup_cons, missed]
      exact (lookup_filter_ne t.entries place (name :: rest)).trans (if_neg differs)

/-- What is left of a tree where an entry is left out. -/
theorem node?_filter (t : FileTree) (inner : place ≠ []) :
    ({ t with entries := t.entries.filter (·.1 != place) } : FileTree).node? place = none ∧
      SameBut place t { t with entries := t.entries.filter (·.1 != place) } := by
  constructor
  · rw [node?_eq_lookup _ inner]
    exact (lookup_filter_ne t.entries place place).trans (if_pos rfl)
  · intro other differs
    cases other with
    | nil => rfl
    | cons name rest => exact (lookup_filter_ne t.entries place (name :: rest)).trans (if_neg differs)

/-! ## Paths -/

/-- A step depends on what stands at the place it is taken from, and on nothing else. -/
theorem step_congr {here : List String} (h : t'.node? here = t.node? here) (name : String) :
    t'.step here name = t.step here name := by
  unfold step
  rw [h]

/-- A walk through directories goes on through them. -/
theorem walk_of_directories (kept : ∀ here, t.node? here = some .directory → t'.node? here = some .directory)
    (names : List String) {here there : List String} (walked : names.foldlM t.step here = .ok there) :
    names.foldlM t'.step here = .ok there := by
  induction names generalizing here with
  | nil => exact walked
  | cons name names ih =>
    rw [List.foldlM_cons] at walked ⊢
    rcases stepped : t.step here name with cause | next
    · rw [stepped] at walked
      cases walked
    · -- The step was taken, so it was taken from a directory.
      have directory : t.node? here = some .directory := by
        unfold step at stepped
        split at stepped
        · assumption
        · cases stepped
        · cases stepped
      have same : t'.step here name = t.step here name :=
        step_congr ((kept here directory).trans directory.symm) name
      rw [stepped] at walked
      rw [same, stepped]
      exact ih walked

/-- As long as directories stay directories, a path leads where it led. -/
theorem locate_of_directories (kept : ∀ here, t.node? here = some .directory → t'.node? here = some .directory)
    (found : t.locate path = .ok place) : t'.locate path = .ok place := by
  unfold locate at found ⊢
  split
  · rename_i empty
    rw [if_pos empty] at found
    cases found
  · rename_i proper
    rw [if_neg proper] at found
    exact walk_of_directories kept (steps path) found

/-- A change at a place where there is no directory leads no path astray. -/
theorem locate_of_sameBut (same : SameBut place t t') (plain : t.node? place ≠ some .directory) {there : List String}
    (found : t.locate path = .ok there) : t'.locate path = .ok there := by
  refine locate_of_directories ?_ found
  intro here directory
  have elsewhere : here ≠ place := by
    intro clash
    rw [clash] at directory
    exact plain directory
  rw [same here elsewhere]
  exact directory

/-- What a path names, once its place is known. -/
theorem resolve_of_locate (found : t.locate path = .ok place) :
    t.resolve path = match t.node? place with
      | some (.file id content) => if asksForDirectory path then .error .notADirectory else .ok (.file id content)
      | some .directory => .ok .directory
      | none => .error .notFound := by
  unfold resolve
  rw [found]
  rfl

/-- A path names a file if it leads to one and does not ask for a directory. -/
theorem resolve_eq_file_iff : t.resolve path = .ok (.file id content) ↔
    ∃ place, t.locate path = .ok place ∧ t.node? place = some (.file id content) ∧ asksForDirectory path = false := by
  constructor
  · intro named
    rcases found : t.locate path with cause | place
    · unfold resolve at named
      rw [found] at named
      cases named
    · rw [resolve_of_locate found] at named
      refine ⟨place, rfl, ?_⟩
      split at named
      · rename_i stands
        split at named
        · cases named
        · rename_i plain
          cases named
          exact ⟨stands, by simpa using plain⟩
      · cases named
      · cases named
  · rintro ⟨place, found, stands, plain⟩
    rw [resolve_of_locate found, stands, plain]
    rfl

theorem read_of_resolve (named : t.resolve path = .ok (.file id content)) : t.read path = .ok content := by
  unfold read
  rw [named]

theorem contains_of_resolve (named : t.resolve path = .ok (.file id content)) : t.contains path = true := by
  unfold contains
  rw [named]
  rfl

/-- Whether there is something at a path depends on what the path names. -/
theorem contains_congr (same : t'.resolve path = t.resolve path) : t'.contains path = t.contains path := by
  unfold contains
  rw [same]

theorem node?_of_entries (same : t'.entries = t.entries) : t'.node? = t.node? := by
  funext here
  cases here with
  | nil => rfl
  | cons name rest =>
    unfold node?
    dsimp only
    rw [same]

/-- What the device refuses has nothing to do with what stands where. -/
theorem node?_refusals (t : FileTree) (refusals : List (Option FileError)) :
    ({ t with refusals } : FileTree).node? = t.node? := node?_of_entries rfl

/-- What a path names depends on the entries alone. -/
theorem resolve_of_entries (same : t'.entries = t.entries) (path : String) : t'.resolve path = t.resolve path := by
  have nodes : t'.node? = t.node? := node?_of_entries same
  have steps : t'.step = t.step := by
    funext here name
    exact step_congr (congrFun nodes here) name
  unfold resolve locate
  rw [nodes, steps]

/-! ## Requests -/

/-- A file is not opened, and everything stands where it stood; or it is, and then the path names it, and it is
empty. -/
theorem create_cases (t : FileTree) (path : String) :
    (∃ cause t', t.create path = (.error cause, t') ∧ t'.entries = t.entries) ∨
    ∃ id t', t.create path = (.ok id, t') ∧ t'.resolve path = .ok (.file id #[]) := by
  unfold create
  dsimp only
  cases t.refusals.head?.join with
  | some cause => exact .inl ⟨cause, _, rfl, rfl⟩
  | none =>
    have same : ({ t with refusals := t.refusals.tail } : FileTree).entries = t.entries := rfl
    generalize ({ t with refusals := t.refusals.tail } : FileTree) = u at same ⊢
    rcases found : u.locate path with cause | place
    · exact .inl ⟨cause, u, rfl, same⟩
    · -- The path leads to a place, where a file is opened unless there is a directory.
      have opened (plain : asksForDirectory path = false) (free : u.node? place ≠ some .directory) (id next : Nat) :
          ({ u.insert place (.file id #[]) with nextId := next } : FileTree).resolve path = .ok (.file id #[]) := by
        obtain ⟨stands, others⟩ := node?_insert u (ne_nil_of_node? free) (.file id #[])
        have led : (u.insert place (.file id #[])).locate path = .ok place := locate_of_sameBut others free found
        have named : (u.insert place (.file id #[])).resolve path = .ok (.file id #[]) :=
          resolve_eq_file_iff.mpr ⟨place, led, stands, plain⟩
        rw [← named]
        exact resolve_of_entries rfl path
      dsimp only
      cases plain : asksForDirectory path with
      | true => exact .inl ⟨.isADirectory, u, rfl, same⟩
      | false =>
        rw [if_neg Bool.false_ne_true]
        rcases stands : u.node? place with _ | _ | ⟨id, old⟩
        · have free : u.node? place ≠ some .directory := by rw [stands]; nofun
          exact .inr ⟨t.nextId, _, rfl, opened plain free t.nextId (t.nextId + 1)⟩
        · exact .inl ⟨.isADirectory, u, rfl, same⟩
        · have free : u.node? place ≠ some .directory := by rw [stands]; nofun
          exact .inr ⟨id, _, rfl, opened plain free id u.nextId⟩

/-- What becomes of an entry when the open file `id` is written. -/
def Node.stored (id : Nat) (content : Bytes) : Node → Node
  | .file i old => .file i (if i == id then content ++ old.extract content.size old.size else old)
  | .directory => .directory

/-- Only the file that is stored changes. -/
theorem node?_store (t : FileTree) (id : Nat) (content : Bytes) (place : List String) :
    (t.store id content).node? place = (t.node? place).map (Node.stored id content) := by
  have entries : (t.store id content).entries = t.entries.map fun e => (e.1, Node.stored id content e.2) := by
    unfold store
    apply List.map_congr_left
    rintro ⟨here, node⟩ _
    cases node with
    | directory => rfl
    | file i old =>
      unfold Node.stored
      dsimp only
      split
      · rfl
      · rfl
  cases place with
  | nil => rfl
  | cons name rest =>
    unfold node?
    dsimp only
    rw [entries]
    exact lookup_map_snd t.entries (Node.stored id content) (name :: rest)

/-- An empty file that is written holds what was written, and the path still names it. -/
theorem resolve_store (named : t.resolve path = .ok (.file id #[])) (content : Bytes) :
    (t.store id content).resolve path = .ok (.file id content) := by
  obtain ⟨place, found, stands, plain⟩ := resolve_eq_file_iff.mp named
  refine resolve_eq_file_iff.mpr ⟨place, ?_, ?_, plain⟩
  · refine locate_of_directories ?_ found
    intro here directory
    rw [node?_store, directory]
    rfl
  · rw [node?_store, stands]
    simp [Node.stored]

/-- The tree `t'` is the tree `t` without the file that the path named. -/
structure Without (path : String) (t t' : FileTree) : Prop where
  gone : t'.resolve path = .error .notFound
  others : ∃ place, t.locate path = .ok place ∧ SameBut place t t'

/-- Where a tree is without what was at a path there is nothing at it. -/
theorem Without.contains (h : Without path t t') : t'.contains path = false := by
  unfold FileTree.contains
  rw [h.gone]
  rfl

/-- Where the path names a file, the file is removed. Where it names none, nothing is. -/
theorem remove_cases (t : FileTree) (path : String) :
    (∃ id content t', t.resolve path = .ok (.file id content) ∧ t.remove path = .ok t' ∧ Without path t t') ∨
    ((∀ id content, t.resolve path ≠ .ok (.file id content)) ∧ ∃ cause, t.remove path = .error cause) := by
  unfold remove
  rcases found : t.locate path with cause | place
  · right
    have named : t.resolve path = .error cause := by
      unfold resolve
      rw [found]
      rfl
    rw [named]
    exact ⟨nofun, cause, rfl⟩
  · dsimp only [bind, Except.bind]
    rcases named : t.resolve path with cause | _ | ⟨id, content⟩
    · exact .inr ⟨nofun, cause, rfl⟩
    · exact .inr ⟨nofun, .isADirectory, rfl⟩
    · left
      obtain ⟨place', found', stands, _⟩ := resolve_eq_file_iff.mp named
      rw [found] at found'
      cases found'
      have free : t.node? place ≠ some .directory := by rw [stands]; nofun
      obtain ⟨gone, others⟩ := node?_filter t (ne_nil_of_node? free)
      refine ⟨id, content, _, rfl, rfl, ?_, place, found, others⟩
      rw [resolve_of_locate (locate_of_sameBut others free found), gone]

/-- A file is written if it can be opened, and then the path names it, and it holds what was written. -/
theorem write_cases (t : FileTree) (path : String) (content : Bytes) :
    (∃ cause t', (t.create path).1 = .error cause ∧ t.write path content = (.error cause, t')) ∨
    ∃ id t', (t.create path).1 = .ok id ∧ t.write path content = (.ok (), t') ∧
      t'.resolve path = .ok (.file id content) := by
  unfold write
  rcases create_cases t path with ⟨cause, u, refused, _⟩ | ⟨id, u, opened, named⟩
  · rw [refused]
    exact .inl ⟨cause, u, rfl, rfl⟩
  · rw [opened]
    exact .inr ⟨id, _, rfl, rfl, resolve_store named content⟩

/-! ## Directories that are made -/

/-- The tree `t'` is the tree `t` with directories added to it. -/
structure Grown (t t' : FileTree) : Prop where
  files : ∀ place id content, t'.node? place = some (.file id content) ↔ t.node? place = some (.file id content)
  directories : ∀ place, t.node? place = some .directory → t'.node? place = some .directory

namespace Grown

theorem refl (t : FileTree) : Grown t t := ⟨fun _ _ _ => Iff.rfl, fun _ there => there⟩

theorem trans {u : FileTree} (h : Grown t t') (h' : Grown t' u) : Grown t u :=
  ⟨fun place id content => (h'.files place id content).trans (h.files place id content),
    fun place there => h'.directories place (h.directories place there)⟩

/-- A tree grows by a directory where nothing was. -/
theorem insert (free : t.node? place = none) : Grown t (t.insert place .directory) := by
  have inner : place ≠ [] := ne_nil_of_node? (by rw [free]; nofun)
  obtain ⟨made, others⟩ := node?_insert t inner .directory
  constructor
  · intro here id content
    by_cases same : here = place
    · subst same
      rw [made, free]
      exact ⟨nofun, nofun⟩
    · rw [others here same]
  · intro here there
    by_cases same : here = place
    · rw [same]
      exact made
    · rw [others here same]
      exact there

/-- What a path named it still names. -/
theorem resolve (h : Grown t t') {node : Node} (named : t.resolve path = .ok node) : t'.resolve path = .ok node := by
  rcases found : t.locate path with cause | place
  · unfold FileTree.resolve at named
    rw [found] at named
    cases named
  · have led : t'.locate path = .ok place := locate_of_directories h.directories found
    rw [resolve_of_locate found] at named
    rw [resolve_of_locate led]
    rcases stands : t.node? place with _ | _ | ⟨id, content⟩
    · rw [stands] at named
      cases named
    · rw [stands] at named
      rw [h.directories place stands]
      exact named
    · rw [stands] at named
      rw [(h.files place id content).mpr stands]
      exact named

end Grown

/-- What every step keeps holds where a chain of steps ends. -/
theorem foldlM_keeps {σ α ε : Type} {f : σ → α → Except ε σ} {P : σ → Prop}
    (keeps : ∀ s a s', P s → f s a = .ok s' → P s') (steps : List α) {s s' : σ} (first : P s)
    (walked : steps.foldlM f s = .ok s') : P s' := by
  induction steps generalizing s with
  | nil =>
    cases walked
    exact first
  | cons a steps ih =>
    rw [List.foldlM_cons] at walked
    rcases stepped : f s a with cause | next
    · rw [stepped] at walked
      cases walked
    · rw [stepped] at walked
      exact ih (keeps s a next first stepped) walked

/-- Directories that are made change nothing that was there. -/
theorem grown_of_makeFolders (made : t.makeFolders path = .ok t') : Grown t t' := by
  unfold makeFolders at made
  dsimp only [bind, Except.bind] at made
  split at made
  · cases made
  · rename_i end_ walked
    cases made
    refine foldlM_keeps (P := fun s => Grown t s.1) ?_ _ (Grown.refl t) walked
    rintro ⟨u, here⟩ ⟨name, i⟩ next grown stepped
    dsimp only at stepped
    split at stepped
    · cases stepped
    · split at stepped
      · rename_i free
        cases stepped
        exact grown.trans (.insert free)
      · cases stepped
        exact grown
      · cases stepped

/-- The file system lets the directories above a path be made and a file be opened there. -/
def Admits (t : FileTree) (path : String) : Prop :=
  ∃ u, t.makeFolders (parent path) = .ok u ∧ ∃ id, (u.create path).1 = .ok id

/-! ## Reading after a removal -/

variable {source : String}

/-- What is read is the content of the file that the path names. -/
theorem read_eq_ok_iff : t.read source = .ok content ↔ ∃ id, t.resolve source = .ok (.file id content) := by
  constructor
  · intro there
    unfold read at there
    split at there
    · rename_i id old named
      cases there
      exact ⟨id, named⟩
    · cases there
    · cases there
  · rintro ⟨id, named⟩
    exact read_of_resolve named

/-- A file that is removed is gone, by whatever path it is read, and no other is. -/
theorem read_of_remove (removed : t.remove path = .ok t') (there : t.read source = .ok content) :
    t'.read source = if t.locate source = t.locate path then .error .notFound else .ok content := by
  rcases t.remove_cases path with ⟨_, _, left, named, removed', without⟩ | ⟨_, cause, refused⟩
  · rw [removed] at removed'
    cases removed'
    obtain ⟨place, found, others⟩ := without.others
    obtain ⟨_, found', stood, _⟩ := resolve_eq_file_iff.mp named
    rw [found] at found'
    cases found'
    have plain : t.node? place ≠ some .directory := by rw [stood]; nofun
    obtain ⟨id, named'⟩ := read_eq_ok_iff.mp there
    obtain ⟨other, led, stands, ending⟩ := resolve_eq_file_iff.mp named'
    have led' : t'.locate source = .ok other := locate_of_sameBut others plain led
    by_cases itself : other = place
    · subst itself
      have gone : t'.node? other = none := by
        have none := without.gone
        rw [resolve_of_locate (locate_of_sameBut others plain found)] at none
        split at none
        · split at none
          · cases none
          · cases none
        · cases none
        · assumption
      rw [led, found, if_pos rfl]
      unfold read
      rw [resolve_of_locate led', gone]
    · rw [led, found, if_neg (itself ∘ Except.ok.inj), read_eq_ok_iff]
      exact ⟨id, resolve_eq_file_iff.mpr ⟨other, led', (others other itself).trans stands, ending⟩⟩
  · rw [removed] at refused
    cases refused

/-- Where there is nothing to be removed, no file can be read. -/
theorem locate_ne_of_remove (nothing : t.remove path = .error .notFound) (there : t.read source = .ok content) :
    t.locate source ≠ t.locate path := by
  intro same
  obtain ⟨id, named⟩ := read_eq_ok_iff.mp there
  obtain ⟨place, led, stands, _⟩ := resolve_eq_file_iff.mp named
  have found : t.locate path = .ok place := same.symm.trans led
  unfold remove at nothing
  rw [resolve_of_locate found, found, stands] at nothing
  -- There is a file; if the path does not name it, that is because of the way the path ends.
  cases ending : asksForDirectory path with
  | true =>
    rw [ending] at nothing
    cases nothing
  | false =>
    rw [ending] at nothing
    cases nothing

end FileTree

end Camcorder
