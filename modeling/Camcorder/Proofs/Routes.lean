import Mathlib
import Camcorder.Proofs.Files
import Camcorder.Proofs.Paths

/-!
# Where a path leads

The `route` of a path is every place that it passes, wherever these may lie in a tree; it ends at the `aim` of the path.
What a request does depends on what stands along its route, and on nothing else (`FileTree.locate_agree`,
`FileTree.create_agree`). What it changes is said here place by place: `FileTree.create_outcomes` for a file that is
opened, `FileTree.widened_of_makeFolders` for directories that are made.
-/

namespace Camcorder

namespace FileTree

variable {t t' u : FileTree} {path : String} {place here there : List String} {names : List String}

/-! ## Routes -/

/-- Where one step leads. -/
def advance (here : List String) (name : String) : List String :=
  if name == "." then here else if name == ".." then climb here else here ++ [name]

/-- The place that a path leads to if it leads anywhere. -/
def aim (path : String) : List String := (steps path).foldl advance (origin path)

/-- Every place that a path passes, from where it begins to where it leads. -/
def route (path : String) : List (List String) := (steps path).scanl advance (origin path)

theorem foldl_mem_scanl (names : List String) (here : List String) :
    names.foldl advance here ∈ names.scanl advance here := by
  induction names generalizing here with
  | nil => simp
  | cons name names ih =>
    rw [List.scanl_cons, List.foldl_cons]
    exact List.mem_cons_of_mem _ (ih _)

theorem start_mem_scanl (names : List String) (here : List String) : here ∈ names.scanl advance here := by
  cases names with
  | nil => simp
  | cons name names =>
    rw [List.scanl_cons]
    exact List.mem_cons_self

/-- A path passes the place it leads to. -/
theorem aim_mem_route (path : String) : aim path ∈ route path := foldl_mem_scanl (steps path) (origin path)

theorem origin_mem_route (path : String) : origin path ∈ route path := start_mem_scanl (steps path) (origin path)

/-- The path of a name in a directory leads to that name at the place where the directory is. -/
theorem aim_join (folder : String) {name : String} (plain : Plain name) : aim (join folder name) = aim folder ++ [name] := by
  have begun : origin (join folder name) = origin folder := by
    unfold origin
    rw [isAbsolute_join folder plain]
  have inner : (name == ".") = false := by simpa using plain.inner
  have below : (name == "..") = false := by simpa using plain.below
  unfold aim
  rw [steps_join folder plain, begun, List.foldl_append, List.foldl_cons, List.foldl_nil]
  unfold advance
  rw [inner, below]
  rfl

/-- In a directory every step leads on. -/
theorem step_of_directory (stands : t.node? here = some .directory) (name : String) :
    t.step here name = .ok (advance here name) := by
  unfold step
  rw [stands]
  rfl

/-- A step is taken from a directory. -/
theorem step_eq_ok (stepped : t.step here name = .ok there) :
    t.node? here = some .directory ∧ there = advance here name := by
  unfold step at stepped
  split at stepped
  · rename_i stands
    cases stepped
    exact ⟨stands, rfl⟩
  · cases stepped
  · cases stepped

/-- A walk that comes to its end has taken all its steps. -/
theorem walk_eq_ok (walked : names.foldlM t.step here = .ok there) : there = names.foldl advance here := by
  induction names generalizing here with
  | nil =>
    cases walked
    rfl
  | cons name names ih =>
    rw [List.foldlM_cons] at walked
    rcases stepped : t.step here name with cause | next
    · rw [stepped] at walked
      cases walked
    · rw [stepped] at walked
      obtain ⟨_, rfl⟩ := step_eq_ok stepped
      exact ih walked

/-- A path leads to its aim if it leads anywhere. -/
theorem locate_eq_aim (found : t.locate path = .ok place) : place = aim path := by
  unfold locate at found
  split at found
  · cases found
  · exact walk_eq_ok found

/-- Where all places are directories the walk comes to its end. -/
theorem walk_of_paved (paved : ∀ p ∈ names.scanl advance here, t.node? p = some .directory) :
    names.foldlM t.step here = .ok (names.foldl advance here) := by
  induction names generalizing here with
  | nil => rfl
  | cons name names ih =>
    rw [List.scanl_cons] at paved
    rw [List.foldlM_cons, step_of_directory (paved here List.mem_cons_self)]
    exact ih fun p passed => paved p (List.mem_cons_of_mem _ passed)

/-- In a directory all the way to which is there, every name can be looked for. -/
theorem locate_join {folder name : String} (plain : Plain name) (paved : ∀ p ∈ route folder, t.node? p = some .directory) :
    t.locate (join folder name) = .ok (aim folder ++ [name]) := by
  have proper : (join folder name == "") = false := by simpa using join_ne_empty folder plain
  have begun : origin (join folder name) = origin folder := by
    unfold origin
    rw [isAbsolute_join folder plain]
  have last : t.step (aim folder) name = .ok (aim folder ++ [name]) := by
    rw [step_of_directory (paved _ (aim_mem_route folder))]
    simp [advance, plain.inner, plain.below]
  unfold locate
  rw [proper, if_neg Bool.false_ne_true, steps_join folder plain, begun, List.foldlM_append, walk_of_paved paved]
  exact (bind_pure _).trans last

/-! ## What stands along a route -/

/-- Whether it is a directory. -/
def Node.isDirectory : Node → Bool
  | .directory => true
  | .file .. => false

/-- At each of these places both trees have a directory, or both have a file, or neither has anything. -/
def AgreeOn (places : List (List String)) (t t' : FileTree) : Prop :=
  ∀ p ∈ places, (t'.node? p).map Node.isDirectory = (t.node? p).map Node.isDirectory

theorem AgreeOn.refl (places : List (List String)) (t : FileTree) : AgreeOn places t t := fun _ _ => rfl

theorem AgreeOn.symm {places : List (List String)} (h : AgreeOn places t t') : AgreeOn places t' t :=
  fun p passed => (h p passed).symm

theorem AgreeOn.trans {places : List (List String)} (h : AgreeOn places t t') (h' : AgreeOn places t' u) :
    AgreeOn places t u :=
  fun p passed => (h' p passed).trans (h p passed)

/-- What a step comes to hangs on what it is taken from being a directory. -/
theorem step_agree (same : (t'.node? here).map Node.isDirectory = (t.node? here).map Node.isDirectory) (name : String) :
    t'.step here name = t.step here name := by
  unfold step
  rcases stands : t.node? here with _ | _ | _ <;> rcases stands' : t'.node? here with _ | _ | _ <;>
    simp_all [Node.isDirectory]

theorem walk_agree (agree : AgreeOn (names.scanl advance here) t t') :
    names.foldlM t'.step here = names.foldlM t.step here := by
  -- Both walks are at the same place after the first step, or end there.
  induction names generalizing here with
  | nil => rfl
  | cons name names ih =>
    rw [List.scanl_cons] at agree
    rw [List.foldlM_cons, List.foldlM_cons, step_agree (agree here List.mem_cons_self)]
    rcases stepped : t.step here name with cause | next
    · rfl
    · obtain ⟨_, rfl⟩ := step_eq_ok stepped
      exact ih fun p passed => agree p (List.mem_cons_of_mem _ passed)

/-- Where a path leads depends on the places that it passes. -/
theorem locate_agree (agree : AgreeOn (route path) t t') : t'.locate path = t.locate path := by
  unfold locate
  rw [walk_agree agree]

/-! ## Files that are opened -/

/-- The file `id` was opened at a place of the tree `t`, which makes it the tree `u`. -/
structure Opened (place : List String) (t : FileTree) (id : Nat) (u : FileTree) : Prop where
  stands : u.node? place = some (.file id #[])
  others : SameBut place t u
  plain : t.node? place ≠ some .directory
  refusals : u.refusals = t.refusals.tail
  identity : (∃ old, t.node? place = some (.file id old)) ∧ u.nextId = t.nextId ∨
    t.node? place = none ∧ id = t.nextId ∧ u.nextId = t.nextId + 1

/-- A file is opened at the aim of the path, or everything stands as it stood. -/
theorem create_outcomes (t : FileTree) (path : String) :
    (∃ cause, t.create path = (.error cause, { t with refusals := t.refusals.tail })) ∨
    ∃ id u, t.create path = (.ok id, u) ∧ asksForDirectory path = false ∧ Opened (aim path) t id u := by
  unfold create
  dsimp only
  cases t.refusals.head?.join with
  | some cause => exact .inl ⟨cause, rfl⟩
  | none =>
    have led : ({ t with refusals := t.refusals.tail } : FileTree).locate path = t.locate path := rfl
    dsimp only
    rw [led]
    rcases found : t.locate path with cause | place
    · exact .inl ⟨cause, rfl⟩
    · cases locate_eq_aim found
      dsimp only
      cases plain : asksForDirectory path with
      | true => exact .inl ⟨.isADirectory, rfl⟩
      | false =>
        rw [if_neg Bool.false_ne_true, node?_refusals]
        -- A file that is new and one that is opened again differ in nothing but the number.
        have opened (free : t.node? (aim path) ≠ some .directory) (id next : Nat)
            (identity : (∃ old, t.node? (aim path) = some (.file id old)) ∧ next = t.nextId ∨
              t.node? (aim path) = none ∧ id = t.nextId ∧ next = t.nextId + 1) :
            Opened (aim path) t id
              { t.insert (aim path) (.file id #[]) with refusals := t.refusals.tail, nextId := next } := by
          obtain ⟨stands, others⟩ := node?_insert t (ne_nil_of_node? free) (.file id #[])
          have nodes : ({ t.insert (aim path) (.file id #[]) with refusals := t.refusals.tail, nextId := next } :
              FileTree).node? = (t.insert (aim path) (.file id #[])).node? := node?_of_entries rfl
          refine ⟨?_, ?_, free, rfl, identity⟩
          · rw [nodes]
            exact stands
          · intro other differs
            rw [nodes]
            exact others other differs
        rcases stands : t.node? (aim path) with _ | _ | ⟨id, old⟩
        · have free : t.node? (aim path) ≠ some .directory := by rw [stands]; nofun
          exact .inr ⟨t.nextId, _, rfl, rfl, opened free t.nextId (t.nextId + 1) (.inr ⟨stands, rfl, rfl⟩)⟩
        · exact .inl ⟨.isADirectory, rfl⟩
        · have free : t.node? (aim path) ≠ some .directory := by rw [stands]; nofun
          exact .inr ⟨id, _, rfl, rfl, opened free id t.nextId (.inl ⟨⟨old, stands⟩, rfl⟩)⟩

/-- Whether a file can be opened, and if not, why, depends on what stands along the way and on the device. -/
theorem create_answer (agree : AgreeOn (route path) t t') (refusals : t'.refusals = t.refusals) :
    ((t'.create path).1.map fun _ => ()) = (t.create path).1.map fun _ => () := by
  have kind := agree (aim path) (aim_mem_route path)
  unfold create
  rw [refusals]
  dsimp only
  cases t.refusals.head?.join with
  | some cause => rfl
  | none =>
    have led : ({ t with refusals := t.refusals.tail } : FileTree).locate path = t.locate path := rfl
    have led' : ({ t' with refusals := t.refusals.tail } : FileTree).locate path = t.locate path := locate_agree agree
    dsimp only
    rw [led, led']
    rcases found : t.locate path with cause | place
    · rfl
    · cases locate_eq_aim found
      dsimp only
      rw [node?_refusals t, node?_refusals t']
      cases asksForDirectory path with
      | true => rfl
      | false =>
        rcases stands : t.node? (aim path) with _ | _ | _ <;> rcases stands' : t'.node? (aim path) with _ | _ | _ <;>
          simp_all [Node.isDirectory, Except.map]

/-- Trees that agree along a path still agree after a file was opened there, or was not. -/
theorem create_agree (agree : AgreeOn (route path) t t') (refusals : t'.refusals = t.refusals) :
    (∃ cause u u', t.create path = (.error cause, u) ∧ t'.create path = (.error cause, u') ∧
      AgreeOn (route path) u u' ∧ u'.refusals = u.refusals) ∨
    ∃ id id' u u', t.create path = (.ok id, u) ∧ t'.create path = (.ok id', u') ∧ AgreeOn (route path) u u' ∧
      u'.refusals = u.refusals := by
  have answer := create_answer agree refusals
  rcases create_outcomes t path with ⟨cause, refused⟩ | ⟨id, u, opened, _, o⟩
  · rcases create_outcomes t' path with ⟨cause', refused'⟩ | ⟨id', u', opened', _, _⟩
    · rw [refused, refused'] at answer
      cases answer
      refine .inl ⟨cause, _, _, refused, refused', ?_, congrArg List.tail refusals⟩
      intro p passed
      rw [node?_refusals, node?_refusals]
      exact agree p passed
    · rw [refused, opened'] at answer
      cases answer
  · rcases create_outcomes t' path with ⟨cause', refused'⟩ | ⟨id', u', opened', _, o'⟩
    · rw [opened, refused'] at answer
      cases answer
    · refine .inr ⟨id, id', u, u', opened, opened', ?_, ?_⟩
      · intro p passed
        by_cases same : p = aim path
        · rw [same, o.stands, o'.stands]
          rfl
        · rw [o.others p same, o'.others p same]
          exact agree p passed
      · rw [o.refusals, o'.refusals, refusals]

/-- What is missing in the tree `u` was missing in the tree `t`. -/
def Stands (t u : FileTree) : Prop := ∀ p, u.node? p = none → t.node? p = none

/-- What stands goes on standing when a file is opened. -/
theorem Opened.keeps {id : Nat} (o : Opened place t id u) : Stands t u := by
  intro p missing
  by_cases same : p = place
  · rw [same, o.stands] at missing
    cases missing
  · rw [← o.others p same]
    exact missing

theorem stands_store (t : FileTree) (id : Nat) (content : Bytes) : Stands t (t.store id content) := by
  intro p missing
  rw [node?_store] at missing
  exact Option.map_eq_none_iff.mp missing

/-- Creating a file leaves what stands, even if it fails. -/
theorem stands_create (t : FileTree) (path : String) : Stands t (t.create path).2 := by
  rcases create_outcomes t path with ⟨cause, refused⟩ | ⟨id, u, opened, _, o⟩
  · rw [refused]
    intro p missing
    rw [← missing]
    exact (congrFun (node?_refusals t _) p).symm
  · rw [opened]
    exact o.keeps

/-- A file that is written leaves everything else what it was. -/
theorem write_agree {places : List (List String)} (away : aim path ∉ places) (t : FileTree) (content : Bytes) :
    AgreeOn places t (t.write path content).2 ∧ Stands t (t.write path content).2 := by
  unfold write
  rcases create_outcomes t path with ⟨cause, refused⟩ | ⟨id, u, opened, _, o⟩
  · rw [refused]
    refine ⟨fun p _ => ?_, fun p missing => ?_⟩
    · rw [node?_refusals]
    · rw [node?_refusals] at missing
      exact missing
  · rw [opened]
    refine ⟨fun p passed => ?_, fun p missing => o.keeps p (stands_store u id content p missing)⟩
    have elsewhere : p ≠ aim path := fun same => away (same ▸ passed)
    rw [node?_store, o.others p elsewhere]
    rcases t.node? p with _ | _ | _ <;> rfl

/-! ## Numbers of files -/

/-- Every file has a number of its own, and there is a number for the next one. -/
structure Numbered (t : FileTree) : Prop where
  below {p : List String} {id : Nat} {content : Bytes} (stands : t.node? p = some (.file id content)) : id < t.nextId
  once {p q : List String} {id : Nat} {c c' : Bytes} (stands : t.node? p = some (.file id c))
    (stands' : t.node? q = some (.file id c')) : p = q

theorem numbered_empty : Numbered {} := by
  refine ⟨fun {p} _ _ stands => ?_, fun {p} _ _ _ _ stands => ?_⟩
  · cases p <;> cases stands
  · cases p <;> cases stands

/-- As long as no file is new, each goes on having a number of its own. -/
theorem Numbered.mono (h : Numbered t)
    (known : ∀ p id c, u.node? p = some (.file id c) → ∃ c', t.node? p = some (.file id c'))
    (next : t.nextId ≤ u.nextId) : Numbered u where
  below := by
    intro p id content stands
    obtain ⟨_, stood⟩ := known p id content stands
    exact lt_of_lt_of_le (h.below stood) next
  once := by
    intro p q id c c' stands stands'
    obtain ⟨_, stood⟩ := known p id c stands
    obtain ⟨_, stood'⟩ := known q id c' stands'
    exact h.once stood stood'

/-- Storing gives no numbers away. -/
theorem Numbered.store (h : Numbered t) (id : Nat) (content : Bytes) : Numbered (t.store id content) := by
  refine h.mono ?_ le_rfl
  intro p i c stands
  rw [node?_store, Option.map_eq_some_iff] at stands
  obtain ⟨node, stood, stored⟩ := stands
  cases node with
  | directory => cases stored
  | file j old =>
    cases stored
    exact ⟨old, stood⟩

/-- A file that is opened has a number that no other file has. -/
theorem Opened.alone {id : Nat} (o : Opened place t id u) (h : Numbered t) :
    ∀ p c, u.node? p = some (.file id c) → p = place := by
  intro p c stands
  by_contra differs
  rw [o.others p differs] at stands
  rcases o.identity with ⟨⟨old, stood⟩, _⟩ | ⟨_, rfl, _⟩
  · exact differs (h.once stands stood)
  · exact lt_irrefl _ (h.below stands)

/-- An opened file has a number, and the next one is later. -/
theorem Opened.numbered {id : Nat} (o : Opened place t id u) (h : Numbered t) : Numbered u ∧ id < u.nextId := by
  have next : t.nextId ≤ u.nextId ∧ id < u.nextId := by
    rcases o.identity with ⟨⟨old, stood⟩, same⟩ | ⟨_, rfl, same⟩
    · rw [same]
      exact ⟨le_rfl, h.below stood⟩
    · omega
  refine ⟨⟨?_, ?_⟩, next.2⟩
  · intro p i c stands
    by_cases same : p = place
    · rw [same, o.stands] at stands
      cases stands
      exact next.2
    · rw [o.others p same] at stands
      exact lt_of_lt_of_le (h.below stands) next.1
  · intro p q i c c' stands stands'
    -- The number of the file that was opened is nobody else's.
    by_cases same : i = id
    · subst same
      rw [o.alone h p c stands, o.alone h q c' stands']
    · have elsewhere {r : List String} {b : Bytes} (there : u.node? r = some (.file i b)) :
          t.node? r = some (.file i b) := by
        rw [← o.others r]
        · exact there
        · intro clash
          rw [clash, o.stands] at there
          cases there
          exact same rfl
      exact h.once (elsewhere stands) (elsewhere stands')

/-- A new file that the device lets be written stands at the aim of the path and holds what was written. It has the next
number, and all else is what it was. -/
theorem write_of_missing (h : Numbered t) (willing : t.refusals.head?.join = none)
    (found : t.locate path = .ok (aim path)) (plain : asksForDirectory path = false) (missing : t.node? (aim path) = none)
    (content : Bytes) :
    ∃ u, t.write path content = (.ok (), u) ∧ u.node? (aim path) = some (.file t.nextId content) ∧
      SameBut (aim path) t u ∧ Numbered u ∧ t.nextId < u.nextId := by
  rcases create_outcomes t path with ⟨cause, refused⟩ | ⟨id, u, opened, _, o⟩
  · have free : ({ t with refusals := t.refusals.tail } : FileTree).node? (aim path) = none :=
      (congrFun (node?_refusals t _) (aim path)).trans missing
    have led : ({ t with refusals := t.refusals.tail } : FileTree).locate path = .ok (aim path) := found
    unfold create at refused
    rw [willing] at refused
    dsimp only at refused
    rw [led] at refused
    dsimp only at refused
    rw [plain, if_neg Bool.false_ne_true, free] at refused
    cases refused
  · have number : id = t.nextId := by
      rcases o.identity with ⟨⟨old, stood⟩, _⟩ | ⟨_, next, _⟩
      · rw [missing] at stood
        cases stood
      · exact next
    subst number
    obtain ⟨numbered, more⟩ := o.numbered h
    refine ⟨u.store t.nextId content, ?_, ?_, ?_, numbered.store t.nextId content, more⟩
    · unfold write
      rw [opened]
    · rw [node?_store, o.stands]
      simp [Node.stored]
    · intro p differs
      rw [node?_store, o.others p differs]
      rcases stands : t.node? p with _ | _ | ⟨i, old⟩
      · rfl
      · rfl
      · have other : (i == t.nextId) = false := by simpa using (h.below stands).ne
        simp [Node.stored, other]

/-- A file that is removed stood at the aim of the path. -/
theorem remove_outcome (removed : t.remove path = .ok u) :
    (∃ id content, t.node? (aim path) = some (.file id content)) ∧ u.node? (aim path) = none ∧ SameBut (aim path) t u ∧
      u.nextId = t.nextId := by
  unfold remove at removed
  rcases found : t.locate path with cause | place
  · rw [found] at removed
    cases removed
  · rw [found] at removed
    cases locate_eq_aim found
    rcases named : t.resolve path with cause | _ | ⟨id, content⟩
    · rw [named] at removed
      cases removed
    · rw [named] at removed
      cases removed
    · rw [named] at removed
      cases removed
      obtain ⟨place, found', stands, _⟩ := resolve_eq_file_iff.mp named
      cases locate_eq_aim found'
      obtain ⟨gone, others⟩ := node?_filter t (ne_nil_of_node? (by rw [stands]; nofun))
      exact ⟨⟨id, content, stands⟩, gone, others, rfl⟩

/-- What is removed depends on the entries alone. -/
theorem remove_of_entries (same : t'.entries = t.entries) (path : String) :
    (t'.remove path).map entries = (t.remove path).map entries := by
  have led : t'.locate path = t.locate path := by
    apply locate_agree
    intro p _
    rw [node?_of_entries same]
  unfold remove
  rw [led, resolve_of_entries same]
  rcases t.locate path with cause | place
  · rfl
  · dsimp only [bind, Except.bind]
    rcases t.resolve path with cause | _ | _
    · rfl
    · rfl
    · exact congrArg Except.ok (congrArg (List.filter (·.1 != place)) same)

/-- Removing leaves the numbers in order. -/
theorem Numbered.remove (h : Numbered t) (removed : t.remove path = .ok u) : Numbered u := by
  obtain ⟨_, gone, others, next⟩ := remove_outcome removed
  refine h.mono ?_ next.ge
  intro p id content stands
  have differs : p ≠ aim path := by
    rintro rfl
    rw [gone] at stands
    cases stands
  exact ⟨content, by rw [← others p differs]; exact stands⟩

/-! ## Directories along a route -/

/-- Makes one directory if it is missing, and goes there. The last of `last` directories is told from those above
it. -/
def makeStep (last : Nat) (s : FileTree × List String) (e : String × Nat) : Except FileError (FileTree × List String) := do
  let place ← s.1.step s.2 e.1
  match s.1.node? place with
  | none => .ok (s.1.insert place .directory, place)
  | some .directory => .ok (s.1, place)
  | some (.file ..) => .error (if e.2 == last then .exists else .notADirectory)

/-- Directories are made one step at a time. -/
theorem makeFolders_eq (t : FileTree) (path : String) : t.makeFolders path =
    (((steps path).zipIdx 1).foldlM (makeStep (steps path).length) (t, origin path)).map Prod.fst := by
  show (((steps path).zipIdx 1).foldlM (makeStep (steps path).length) (t, origin path) >>= fun s => .ok s.1) = _
  cases ((steps path).zipIdx 1).foldlM (makeStep (steps path).length) (t, origin path) with
  | error cause => rfl
  | ok s => rfl

/-- The tree `u` is the tree `t` with the directories made that were missing at these places. -/
structure Widened (places : List (List String)) (t u : FileTree) : Prop where
  kept : ∀ p, t.node? p ≠ none → u.node? p = t.node? p
  others : ∀ p, p ∉ places → u.node? p = t.node? p
  refusals : u.refusals = t.refusals
  nextId : u.nextId = t.nextId

theorem Widened.refl (places : List (List String)) (t : FileTree) : Widened places t t :=
  ⟨fun _ _ => rfl, fun _ _ => rfl, rfl, rfl⟩

theorem Widened.trans {places more all : List (List String)} (h : Widened places t t') (h' : Widened more t' u)
    (sub : places ⊆ all) (sub' : more ⊆ all) : Widened all t u where
  kept := by
    intro p there
    have same := h.kept p there
    rw [h'.kept p (by rw [same]; exact there), same]
  others := by
    intro p off
    rw [h'.others p fun on => off (sub' on), h.others p fun on => off (sub on)]
  refusals := h'.refusals.trans h.refusals
  nextId := h'.nextId.trans h.nextId

/-- Where a directory is made, the step there comes from a directory. -/
theorem makeStep_ok {last i : Nat} {name : String} (made : makeStep last (t, here) (name, i) = .ok (u, there)) :
    t.node? here = some .directory ∧ there = advance here name ∧ Widened [there] t u ∧
      u.node? there = some .directory := by
  unfold makeStep at made
  dsimp only [bind, Except.bind] at made
  rcases stepped : t.step here name with cause | place
  · rw [stepped] at made
    cases made
  · rw [stepped] at made
    obtain ⟨directory, rfl⟩ := step_eq_ok stepped
    dsimp only at made
    rcases stands : t.node? (advance here name) with _ | _ | _
    · rw [stands] at made
      cases made
      have inner : advance here name ≠ [] := ne_nil_of_node? (by rw [stands]; nofun)
      obtain ⟨new, others⟩ := node?_insert t inner .directory
      refine ⟨directory, rfl, ⟨?_, ?_, rfl, rfl⟩, new⟩
      · intro p stood
        refine others p ?_
        rintro rfl
        exact stood stands
      · intro p off
        exact others p (by simpa using off)
    · rw [stands] at made
      cases made
      exact ⟨directory, rfl, .refl _ t, stands⟩
    · rw [stands] at made
      cases made

/-- Making directories adds directories on the way, and nothing else. -/
theorem widened_of_makeSteps {last k : Nat} (made : (names.zipIdx k).foldlM (makeStep last) (t, here) = .ok (u, there)) :
    Widened (names.scanl advance here) t u ∧
      (t.node? here = some .directory → ∀ p ∈ names.scanl advance here, u.node? p = some .directory) := by
  induction names generalizing t here k with
  | nil =>
    cases made
    refine ⟨Widened.refl _ _, fun directory p passed => ?_⟩
    rw [List.scanl_nil, List.mem_singleton] at passed
    rw [passed]
    exact directory
  | cons name names ih =>
    rw [List.zipIdx_cons, List.foldlM_cons] at made
    rcases stepped : makeStep last (t, here) (name, k) with cause | ⟨t₁, next⟩
    · rw [stepped] at made
      cases made
    · rw [stepped] at made
      obtain ⟨directory, rfl, widened, stands⟩ := makeStep_ok stepped
      obtain ⟨later, paved⟩ := ih made
      rw [List.scanl_cons]
      have within : [advance here name] ⊆ here :: names.scanl advance (advance here name) :=
        List.cons_subset.mpr ⟨List.mem_cons_of_mem _ (start_mem_scanl names _), List.nil_subset _⟩
      refine ⟨widened.trans later within (List.subset_cons_self _ _), fun _ p passed => ?_⟩
      rcases List.mem_cons.mp passed with rfl | passed
      · -- What is a directory stays one.
        have still := widened.kept p (by rw [directory]; nofun)
        rw [later.kept p (by rw [still, directory]; nofun), still, directory]
      · exact paved stands p passed

/-- Where the last directory is there in the end, the first was there to begin with. -/
theorem begins_of_makeFolders (made : t.makeFolders path = .ok u) (last : u.node? (aim path) = some .directory) :
    t.node? (origin path) = some .directory := by
  rw [makeFolders_eq] at made
  rcases walked : ((steps path).zipIdx 1).foldlM (makeStep (steps path).length) (t, origin path) with cause | ⟨v, there⟩
  · rw [walked] at made
    cases made
  · rw [walked] at made
    cases made
    unfold aim at last
    generalize steps path = names at last walked
    rcases names with _ | ⟨name, names⟩
    · cases walked
      exact last
    · -- The first step was taken from there.
      rw [List.zipIdx_cons, List.foldlM_cons] at walked
      rcases stepped : makeStep (name :: names).length (t, origin path) (name, 1) with cause | ⟨t₁, next⟩
      · rw [stepped] at walked
        cases walked
      · exact (makeStep_ok stepped).1

/-- Directories that are made are new where something was missing along the route, and nothing else is changed. All are
there in the end if the first was there to begin with. -/
theorem widened_of_makeFolders (made : t.makeFolders path = .ok u) :
    Widened (route path) t u ∧
      (t.node? (origin path) = some .directory → ∀ p ∈ route path, u.node? p = some .directory) := by
  rw [makeFolders_eq] at made
  rcases walked : ((steps path).zipIdx 1).foldlM (makeStep (steps path).length) (t, origin path) with cause | ⟨v, there⟩
  · rw [walked] at made
    cases made
  · rw [walked] at made
    cases made
    exact widened_of_makeSteps walked

/-- The way along the route is open: it begins at a directory and passes no file. -/
structure Open (path : String) (t : FileTree) : Prop where
  begins : t.node? (origin path) = some .directory
  free : ∀ p ∈ route path, t.node? p = none ∨ t.node? p = some .directory

theorem Open.of_nodes (h : Open path t) (same : u.node? = t.node?) : Open path u := by
  constructor
  · rw [same]
    exact h.begins
  · rw [same]
    exact h.free

/-- On a free way all directories can be made. -/
theorem makeSteps_ok (last k : Nat) (begins : t.node? here = some .directory)
    (free : ∀ p ∈ names.scanl advance here, t.node? p = none ∨ t.node? p = some .directory) :
    ∃ u there, (names.zipIdx k).foldlM (makeStep last) (t, here) = .ok (u, there) := by
  induction names generalizing t here k with
  | nil => exact ⟨t, here, rfl⟩
  | cons name names ih =>
    rw [List.scanl_cons] at free
    have next := free _ (List.mem_cons_of_mem _ (start_mem_scanl names (advance here name)))
    have stepped : ∃ t₁, makeStep last (t, here) (name, k) = .ok (t₁, advance here name) := by
      unfold makeStep
      dsimp only [bind, Except.bind]
      rw [step_of_directory begins]
      rcases next with stands | stands
      · dsimp only
        rw [stands]
        exact ⟨_, rfl⟩
      · dsimp only
        rw [stands]
        exact ⟨_, rfl⟩
    obtain ⟨t₁, stepped⟩ := stepped
    obtain ⟨_, _, widened, stands⟩ := makeStep_ok stepped
    -- A directory that was made does not block the rest of the way.
    have later := ih (k + 1) stands fun p passed => ?_
    · rw [List.zipIdx_cons, List.foldlM_cons, stepped]
      exact later
    · by_cases same : p = advance here name
      · rw [same]
        exact .inr stands
      · rw [widened.others p (by simpa using same)]
        exact free p (List.mem_cons_of_mem _ passed)

/-- Where the way is open the directories are made. -/
theorem Open.makeFolders_ok (h : Open path t) : ∃ u, t.makeFolders path = .ok u := by
  obtain ⟨u, there, made⟩ := makeSteps_ok (steps path).length 1 h.begins h.free
  rw [makeFolders_eq, made]
  exact ⟨u, rfl⟩

/-- Where the directories could be made, the way was open. -/
theorem open_of_makeFolders (made : t.makeFolders path = .ok u) (last : u.node? (aim path) = some .directory) :
    Open path t := by
  obtain ⟨widened, paved⟩ := widened_of_makeFolders made
  have begins := begins_of_makeFolders made last
  refine ⟨begins, fun p passed => ?_⟩
  by_cases missing : t.node? p = none
  · exact .inl missing
  · right
    rw [← widened.kept p missing]
    exact paved begins p passed

end FileTree

end Camcorder
