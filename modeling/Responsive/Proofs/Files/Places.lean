import Mathlib.Logic.Function.Basic
import Responsive.Entries
import Responsive.Files.Disk
import Responsive.Proofs.Files.Path

/-!
# A disk as a map from places

A place is a list of names from the root on. A disk gives every place a directory, a file or
nothing, and nothing else about it matters: where a path leads, and what an operation answers,
follow from that map alone, and an operation that succeeds changes it at one place.

* `thing?_within`: what a change inside a directory does to the map.
* `walk_eq`, `locate_eq`: paths are followed by looking at places only.
* `follow_mono`: a path leads to the same place as long as no directory goes away.
* `createNew_eq_ok`, `rename_eq_ok` and so on: what the operations do to the map.
-/

set_option autoImplicit false
set_option relaxedAutoImplicit false

namespace Responsive.Disk

/-- What may stand at a place. -/
inductive Thing
  | dir
  | file (content : Content) (age : Option Int)
deriving DecidableEq

/-- What a node is at its own place. -/
def Node.thing : Node → Thing
  | .dir _ => .dir
  | .file content age => .file content age

/-- Nothing stands inside the node. -/
def Node.IsLeaf : Node → Prop
  | .dir inner => inner = []
  | .file .. => True

/-! ### Places inside a directory -/

namespace Folder

/-- What stands at a place inside the directory. -/
def thing? (folder : Folder) (place : List String) : Option Thing :=
  (find? place folder).map Node.thing

@[simp] theorem thing?_nil (folder : Folder) : folder.thing? [] = some .dir := rfl

theorem lookup_cons (first other : String) (old : Node) (rest : Folder) :
    List.lookup other ((first, old) :: rest) =
      if other = first then some old else rest.lookup other :=
  Entries.get?_cons first other old rest

theorem find?_cons (folder : Folder) (name : String) (place : List String) :
    find? (name :: place) folder =
      match folder.lookup name with
      | none => none
      | some (.dir inner) => find? place inner
      | some (.file content age) => if place.isEmpty then some (.file content age) else none := by
  cases hlookup : folder.lookup name with
  | none => simp only [find?, hlookup]
  | some node => cases node <;> simp only [find?, hlookup]

theorem find?_cons_of_dir {folder inner : Folder} {name : String}
    (h : folder.lookup name = some (.dir inner)) (place : List String) :
    find? (name :: place) folder = find? place inner := by
  rw [find?_cons, h]

/-- Behind a directory the search goes on inside it. -/
theorem find?_append {folder inner : Folder} {place : List String}
    (h : find? place folder = some (.dir inner)) (rest : List String) :
    find? (place ++ rest) folder = find? rest inner := by
  induction place generalizing folder with
  | nil =>
    obtain rfl : folder = inner := by simpa [find?] using h
    rfl
  | cons name place ih =>
    rw [find?_cons] at h
    rw [List.cons_append, find?_cons]
    cases hlookup : folder.lookup name with
    | none =>
      rw [hlookup] at h
      contradiction
    | some node =>
      rw [hlookup] at h
      cases node with
      | dir next => exact ih h
      | file content age =>
        dsimp only at h
        split at h <;> simp at h

/-- Whatever stands at a place stands in a directory. -/
theorem find?_parent {folder : Folder} {place : List String} {name : String}
    (h : find? (place ++ [name]) folder ≠ none) :
    ∃ inner, find? place folder = some (.dir inner) := by
  induction place generalizing folder with
  | nil => exact ⟨folder, rfl⟩
  | cons first place ih =>
    rw [List.cons_append, find?_cons] at h
    rw [find?_cons]
    cases hlookup : folder.lookup first with
    | none =>
      rw [hlookup] at h
      contradiction
    | some node =>
      rw [hlookup] at h
      cases node with
      | dir next => exact ih h
      | file content age => simp at h

theorem thing?_eq_dir_iff {folder : Folder} {place : List String} :
    folder.thing? place = some .dir ↔ ∃ inner, find? place folder = some (.dir inner) := by
  rw [thing?, Option.map_eq_some_iff]
  constructor
  · rintro ⟨node, hnode, hdir⟩
    cases node with
    | dir inner => exact ⟨inner, hnode⟩
    | file content age => contradiction
  · rintro ⟨inner, hinner⟩
    exact ⟨.dir inner, hinner, rfl⟩

theorem thing?_parent {folder : Folder} {place : List String} {name : String}
    (h : folder.thing? (place ++ [name]) ≠ none) : folder.thing? place = some .dir := by
  have hfind : find? (place ++ [name]) folder ≠ none := by
    intro hnone
    rw [thing?, hnone] at h
    exact h rfl
  exact thing?_eq_dir_iff.mpr (find?_parent hfind)

/-- The change puts something that holds nothing, or nothing at all, under a name. -/
structure ChangesName (change : String → Folder → Folder) (name : String) (value : Option Node) :
    Prop where
  lookup : ∀ folder other, (change name folder).lookup other =
    if other = name then value else folder.lookup other
  leaf : ∀ node ∈ value, node.IsLeaf

theorem lookup_set_eq (name other : String) (node : Node) (folder : Folder) :
    (folder.set name node).lookup other =
      if other = name then some node else folder.lookup other := by
  induction folder with
  | nil => exact lookup_cons name other node []
  | cons entry rest ih =>
    obtain ⟨first, old⟩ := entry
    rw [set]
    split
    next hfirst =>
      subst hfirst
      rw [lookup_cons, lookup_cons]
      split <;> rfl
    next hfirst =>
      rw [lookup_cons, lookup_cons, ih]
      by_cases h : other = first
      · simp [h, hfirst]
      · simp [h]

theorem lookup_unset (name other : String) (folder : Folder) :
    (folder.unset name).lookup other = if other = name then none else folder.lookup other :=
  Entries.get?_erase folder name other

theorem changesName_set {node : Node} (h : node.IsLeaf) (name : String) :
    ChangesName (Folder.set · node) name (some node) :=
  ⟨fun folder other ↦ lookup_set_eq name other node folder, fun _ hnode ↦ Option.some.inj hnode ▸ h⟩

theorem changesName_unset (name : String) : ChangesName unset name none :=
  ⟨fun folder other ↦ lookup_unset name other folder, nofun⟩

/-- Inside something that holds nothing there is nothing. -/
theorem thing?_cons_of_leaf {folder : Folder} {name : String} {place : List String}
    (h : ∀ node ∈ folder.lookup name, node.IsLeaf) :
    folder.thing? (name :: place) =
      if place = [] then (folder.lookup name).map Node.thing else none := by
  rw [thing?, find?_cons]
  cases hlookup : folder.lookup name with
  | none => simp
  | some node =>
    have hleaf := h node hlookup
    cases node with
    | dir inner =>
      obtain rfl : inner = [] := hleaf
      cases place <;> rfl
    | file content age => cases place <;> rfl

theorem thing?_cons_congr {folder folder' : Folder} {name : String}
    (h : folder.lookup name = folder'.lookup name) (place : List String) :
    folder.thing? (name :: place) = folder'.thing? (name :: place) := by
  rw [thing?, thing?, find?_cons, find?_cons, h]

/-- A change of one name of the directory itself. -/
theorem thing?_change {change : String → Folder → Folder} {name : String} {value : Option Node}
    (hchange : ChangesName change name value) {folder : Folder}
    (hold : folder.thing? [name] ≠ some .dir) :
    (change name folder).thing? =
      Function.update folder.thing? [name] (value.map Node.thing) := by
  funext place
  cases place with
  | nil => simp [Function.update]
  | cons first place =>
    by_cases hfirst : first = name
    · subst hfirst
      have hnew : (change first folder).lookup first = value := by rw [hchange.lookup, if_pos rfl]
      have hleaf : ∀ node ∈ folder.lookup first, node.IsLeaf := by
        intro node hnode
        cases node with
        | dir inner =>
          refine absurd (thing?_eq_dir_iff.mpr ⟨inner, ?_⟩) hold
          rw [find?_cons, Option.mem_def.mp hnode]
          rfl
        | file content age => trivial
      rw [thing?_cons_of_leaf (by rw [hnew]; exact hchange.leaf), hnew, Function.update_apply,
        thing?_cons_of_leaf hleaf]
      cases place <;> simp
    · have hsame : (change name folder).lookup first = folder.lookup first := by
        rw [hchange.lookup, if_neg hfirst]
      rw [thing?_cons_congr hsame, Function.update_of_ne (by simp [hfirst])]

theorem within_cons_append {change : String → Folder → Folder} {first name : String}
    {place : List String} {folder next : Folder} (h : folder.lookup first = some (.dir next)) :
    within change (first :: (place ++ [name])) folder =
      folder.set first (.dir (within change (place ++ [name]) next)) := by
  cases place <;> simp [within, h]

/-- A directory that is put under a name is found there, and elsewhere nothing changes. -/
theorem thing?_set_dir (folder inner : Folder) (first second : String) (rest : List String) :
    (folder.set first (.dir inner)).thing? (second :: rest) =
      if second = first then inner.thing? rest else folder.thing? (second :: rest) := by
  split
  next hsecond =>
    subst hsecond
    have hset : (folder.set second (.dir inner)).lookup second = some (.dir inner) := by
      rw [lookup_set_eq, if_pos rfl]
    rw [thing?, thing?, find?_cons_of_dir hset]
  next hsecond => exact thing?_cons_congr (by rw [lookup_set_eq, if_neg hsecond]) rest

/-- A change of one name inside the directory, at a place that holds no directory. -/
theorem thing?_within {change : String → Folder → Folder} {name : String} {value : Option Node}
    (hchange : ChangesName change name value) {folder : Folder} {place : List String}
    (hdir : folder.thing? place = some .dir) (hold : folder.thing? (place ++ [name]) ≠ some .dir) :
    (folder.within change (place ++ [name])).thing? =
      Function.update folder.thing? (place ++ [name]) (value.map Node.thing) := by
  induction place generalizing folder with
  | nil => exact thing?_change hchange hold
  | cons first place ih =>
    obtain ⟨inner, hinner⟩ := thing?_eq_dir_iff.mp hdir
    rw [find?_cons] at hinner
    cases hlookup : folder.lookup first with
    | none =>
      rw [hlookup] at hinner
      contradiction
    | some node =>
      rw [hlookup] at hinner
      cases node with
      | file content age =>
        dsimp only at hinner
        split at hinner <;> simp at hinner
      | dir next =>
        have hnext (rest : List String) : folder.thing? (first :: rest) = thing? next rest := by
          rw [thing?, thing?, find?_cons_of_dir hlookup]
        rw [hnext] at hdir
        rw [List.cons_append, hnext] at hold
        rw [List.cons_append, within_cons_append hlookup]
        funext other
        cases other with
        | nil => simp [Function.update]
        | cons second rest =>
          rw [thing?_set_dir, ih hdir hold]
          split
          next hsecond =>
            subst hsecond
            simp [Function.update_apply, hnext]
          next hsecond => rw [Function.update_of_ne (by simp [hsecond])]

end Folder

/-! ### Following paths -/

/-- The place that names lead to from a directory: every name but the last one has to be that of a
directory, and there need be nothing under the last one. -/
def follow (look : List String → Option Thing) (place : List String) :
    List String → Except IoError (List String)
  | [] => .ok place
  | name :: names =>
    if name = "." then follow look place names
    else if name = ".." then follow look place.dropLast names
    else if maxNameBytes < name.utf8ByteSize then .error .nameTooLong
    else
      match look (place ++ [name]) with
      | some .dir => follow look (place ++ [name]) names
      | none => if names = [] then .ok (place ++ [name]) else .error .notFound
      | some (.file ..) => if names = [] then .ok (place ++ [name]) else .error .notDirectory

/-- What stands at a place of the disk. -/
def thing? (disk : Disk) : List String → Option Thing :=
  disk.root.thing?

/-- The place that a path leads to. -/
def target? (disk : Disk) (path : String) : Except IoError (List String) :=
  if path.toList.contains '\x00' then .error .nulInPath
  else if maxPathBytes < path.utf8ByteSize then .error .nameTooLong
  else if path.isEmpty then .error .notFound
  else
    follow disk.thing? []
      ((if Path.isAbsolute path.toList then [] else disk.cwd) ++ Path.parts path)

/-- The trail leads from the root directory to a directory. -/
def Trail.LeadsTo (root : Folder) : Trail → Folder → Prop
  | [], here => here = root
  | (name, outer) :: trail, here =>
    outer.lookup name = some (.dir here) ∧ Trail.LeadsTo root trail outer

/-- The place of the directory that a trail leads to. -/
def Trail.place (trail : Trail) : List String :=
  (trail.map (·.1)).reverse

theorem Trail.place_cons (name : String) (outer : Folder) (trail : Trail) :
    Trail.place ((name, outer) :: trail) = trail.place ++ [name] := by
  simp [place]

theorem Trail.LeadsTo.find?_eq {root here : Folder} {trail : Trail} (h : trail.LeadsTo root here)
    (place : List String) : Folder.find? (trail.place ++ place) root = Folder.find? place here := by
  induction trail generalizing here place with
  | nil =>
    obtain rfl : here = root := h
    rfl
  | cons entry trail ih =>
    obtain ⟨name, outer⟩ := entry
    obtain ⟨hlookup, houter⟩ := h
    rw [place_cons, List.append_assoc, ih houter, List.singleton_append,
      Folder.find?_cons_of_dir hlookup]

theorem Trail.LeadsTo.find?_concat {root here : Folder} {trail : Trail}
    (h : trail.LeadsTo root here)
    (name : String) : Folder.find? (trail.place ++ [name]) root = here.lookup name := by
  rw [h.find?_eq, Folder.find?_cons]
  cases here.lookup name with
  | none => rfl
  | some node => cases node <;> rfl

/-- The spot of a place. -/
def Folder.spot (root : Folder) (place : List String) : Spot :=
  match find? place root with
  | some node => .node place node
  | none => .vacant place

/-- Names are followed by looking at places. -/
theorem walk_eq {root here : Folder} {trail : Trail} (h : trail.LeadsTo root here)
    (names : List String) :
    walk trail here names = (follow root.thing? trail.place names).map root.spot := by
  -- The trail changes with every name, `..` shortens it, so it is general in the induction.
  induction names generalizing trail here with
  | nil =>
    have hfind := h.find?_eq []
    rw [List.append_nil] at hfind
    rw [walk, follow, Except.map, Folder.spot, hfind]
    rfl
  | cons name names ih =>
    unfold walk follow
    split
    · exact ih h
    split
    · cases trail with
      | nil => exact ih h
      | cons entry trail =>
        obtain ⟨inner, outer⟩ := entry
        rw [Trail.place_cons, List.dropLast_concat]
        exact ih h.2
    split
    · rfl
    have hfind := h.find?_concat name
    have hthing : root.thing? (trail.place ++ [name]) = (here.lookup name).map Node.thing := by
      rw [Folder.thing?, hfind]
    have hspot : root.spot (trail.place ++ [name]) =
        match here.lookup name with
        | some node => .node (trail.place ++ [name]) node
        | none => .vacant (trail.place ++ [name]) := by
      rw [Folder.spot, hfind]
    rw [hthing]
    cases hlookup : here.lookup name with
    | none =>
      rw [hlookup] at hspot
      cases names with
      | nil => exact congrArg Except.ok hspot.symm
      | cons next names => rfl
    | some node =>
      rw [hlookup] at hspot
      cases node with
      | dir inner =>
        have hinner : Trail.LeadsTo root ((name, here) :: trail) inner := ⟨hlookup, h⟩
        exact (ih hinner).trans (by rw [Trail.place_cons]; rfl)
      | file content age =>
        cases names with
        | nil => exact congrArg Except.ok hspot.symm
        | cons next names => rfl

/-- Nothing but a directory is found under a path that ends in a slash. -/
def settle (path : String) : Spot → Except IoError Spot
  | .node place (.file content age) =>
    if Path.endsInSlash path then .error .notDirectory else .ok (.node place (.file content age))
  | spot => .ok spot

/-- A path is looked up by following it to its place. -/
theorem locate_eq (disk : Disk) (path : String) :
    disk.locate path = disk.target? path >>= fun place ↦ settle path (disk.root.spot place) := by
  rw [locate, target?]
  split
  · rfl
  split
  · rfl
  split
  · rfl
  have hroot : Trail.LeadsTo disk.root [] disk.root := rfl
  have hwalk := walk_eq hroot
    ((if Path.isAbsolute path.toList then [] else disk.cwd) ++ Path.parts path)
  dsimp only
  rw [hwalk]
  change _ = (follow disk.root.thing? (Trail.place []) _) >>= _
  cases follow disk.root.thing? (Trail.place []) _ with
  | error e => rfl
  | ok place =>
    change _ = settle path (disk.root.spot place)
    rw [Except.map]
    rcases disk.root.spot place with ⟨_, _ | ⟨_, _⟩⟩ | _ <;> rfl

section Locate

variable {disk : Disk} {path : String} {place : List String}

theorem thing?_eq_none_iff : disk.thing? place = none ↔ Folder.find? place disk.root = none :=
  Option.map_eq_none_iff

theorem thing?_eq_file_iff {content : Content} {age : Option Int} :
    disk.thing? place = some (.file content age) ↔
      Folder.find? place disk.root = some (.file content age) := by
  rw [thing?, Folder.thing?]
  rcases Folder.find? place disk.root with _ | ⟨_ | ⟨_, _⟩⟩ <;> simp [Node.thing]

theorem target?_of_locate_eq_ok {spot : Spot} (h : disk.locate path = .ok spot) :
    ∃ place, disk.target? path = .ok place ∧ settle path (disk.root.spot place) = .ok spot := by
  rw [locate_eq] at h
  cases htarget : disk.target? path with
  | error e =>
    rw [htarget] at h
    contradiction
  | ok place =>
    rw [htarget] at h
    exact ⟨place, rfl, h⟩

/-- What a path that is looked up may lead to: nothing, a directory, or a file if the path does not
end in a slash. -/
theorem locate_cases {spot : Spot} (h : disk.locate path = .ok spot) :
    ∃ place, disk.target? path = .ok place ∧
      ((Folder.find? place disk.root = none ∧ spot = .vacant place) ∨
        (∃ inner, Folder.find? place disk.root = some (.dir inner) ∧
          spot = .node place (.dir inner)) ∨
        ∃ content age, Folder.find? place disk.root = some (.file content age) ∧
          spot = .node place (.file content age) ∧ Path.endsInSlash path = false) := by
  obtain ⟨place, htarget, hsettle⟩ := target?_of_locate_eq_ok h
  refine ⟨place, htarget, ?_⟩
  rw [Folder.spot] at hsettle
  rcases hfind : Folder.find? place disk.root with _ | ⟨inner | ⟨content, age⟩⟩ <;>
    rw [hfind] at hsettle
  · exact .inl ⟨rfl, (Except.ok.inj hsettle).symm⟩
  · exact .inr (.inl ⟨inner, rfl, (Except.ok.inj hsettle).symm⟩)
  · dsimp only [settle] at hsettle
    split at hsettle
    · contradiction
    next hslash =>
      exact .inr (.inr ⟨content, age, rfl, (Except.ok.inj hsettle).symm,
        Bool.eq_false_iff.mpr hslash⟩)

theorem locate_eq_vacant_iff :
    disk.locate path = .ok (.vacant place) ↔
      disk.target? path = .ok place ∧ disk.thing? place = none := by
  rw [thing?_eq_none_iff]
  constructor
  · intro h
    obtain ⟨_, htarget, ⟨hfind, ⟨⟩⟩ | ⟨_, _, ⟨⟩⟩ | ⟨_, _, _, ⟨⟩, _⟩⟩ := locate_cases h
    exact ⟨htarget, hfind⟩
  · rintro ⟨htarget, hfind⟩
    rw [locate_eq, htarget]
    change settle path (disk.root.spot place) = _
    rw [Folder.spot, hfind]
    rfl

theorem locate_eq_file_iff {content : Content} {age : Option Int} :
    disk.locate path = .ok (.node place (.file content age)) ↔
      disk.target? path = .ok place ∧ disk.thing? place = some (.file content age) ∧
        Path.endsInSlash path = false := by
  rw [thing?_eq_file_iff]
  constructor
  · intro h
    obtain ⟨_, htarget, ⟨_, ⟨⟩⟩ | ⟨_, _, ⟨⟩⟩ | ⟨_, _, hfind, ⟨⟩, hslash⟩⟩ := locate_cases h
    exact ⟨htarget, hfind, hslash⟩
  · rintro ⟨htarget, hfind, hslash⟩
    rw [locate_eq, htarget]
    change settle path (disk.root.spot place) = _
    rw [Folder.spot, hfind, settle, hslash]
    rfl

theorem locate_eq_dir {inner : Folder} (h : disk.locate path = .ok (.node place (.dir inner))) :
    disk.target? path = .ok place ∧ Folder.find? place disk.root = some (.dir inner) := by
  obtain ⟨_, htarget, ⟨_, ⟨⟩⟩ | ⟨_, hfind, ⟨⟩⟩ | ⟨_, _, _, ⟨⟩, _⟩⟩ := locate_cases h
  exact ⟨htarget, hfind⟩

end Locate

/-! ### Directories that stay -/

/-- The directories of one disk are directories of another, and both are looked at from the same
working directory. -/
structure KeepsDirs (disk disk' : Disk) : Prop where
  dir : ∀ place, disk.thing? place = some .dir → disk'.thing? place = some .dir
  cwd : disk'.cwd = disk.cwd

theorem KeepsDirs.refl (disk : Disk) : KeepsDirs disk disk :=
  ⟨fun _ h ↦ h, rfl⟩

theorem KeepsDirs.trans {a b c : Disk} (hab : KeepsDirs a b) (hbc : KeepsDirs b c) :
    KeepsDirs a c :=
  ⟨fun place h ↦ hbc.dir place (hab.dir place h), hbc.cwd.trans hab.cwd⟩

theorem ite_nil_eq_ok_iff {names place found : List String} {e : IoError} :
    (if names = [] then .ok place else .error e) = Except.ok found ↔
      names = [] ∧ place = found := by
  split <;> simp [*]

/-- Names lead to the same place as long as no directory goes away. -/
theorem follow_mono {look look' : List String → Option Thing}
    (h : ∀ place, look place = some .dir → look' place = some .dir) {start place : List String}
    {names : List String} (hfollow : follow look start names = .ok place) :
    follow look' start names = .ok place := by
  induction names generalizing start with
  | nil => exact hfollow
  | cons name names ih =>
    rw [follow] at hfollow ⊢
    split at hfollow
    next hdot => rw [if_pos hdot]; exact ih hfollow
    next hdot =>
      rw [if_neg hdot]
      split at hfollow
      next hdots => rw [if_pos hdots]; exact ih hfollow
      next hdots =>
        rw [if_neg hdots]
        split at hfollow
        · contradiction
        next hlong =>
          rw [if_neg hlong]
          split at hfollow
          next hlook =>
            rw [h _ hlook]
            exact ih hfollow
          next =>
            obtain ⟨rfl, rfl⟩ := ite_nil_eq_ok_iff.mp hfollow
            rcases look' (start ++ [name]) with _ | _ | _ <;> rfl
          next =>
            obtain ⟨rfl, rfl⟩ := ite_nil_eq_ok_iff.mp hfollow
            rcases look' (start ++ [name]) with _ | _ | _ <;> rfl

/-- What stops a path before its names are followed is the same on every disk. -/
theorem target?_eq_of_follow {disk disk' : Disk} {path : String}
    {result : Except IoError (List String)} (hcwd : disk'.cwd = disk.cwd)
    (hfollow : ∀ names, follow disk.thing? [] names = result →
      follow disk'.thing? [] names = result)
    (h : disk.target? path = result) : disk'.target? path = result := by
  unfold target? at h ⊢
  rw [hcwd]
  split
  next hnul => rwa [if_pos hnul] at h
  next hnul =>
    rw [if_neg hnul] at h
    split
    next hlong => rwa [if_pos hlong] at h
    next hlong =>
      rw [if_neg hlong] at h
      split
      next hempty => rwa [if_pos hempty] at h
      next hempty =>
        rw [if_neg hempty] at h
        exact hfollow _ h

theorem KeepsDirs.target? {disk disk' : Disk} (h : KeepsDirs disk disk') {path : String}
    {place : List String} (htarget : disk.target? path = .ok place) :
    disk'.target? path = .ok place :=
  target?_eq_of_follow h.cwd (fun _ ↦ follow_mono h.dir) htarget

end Responsive.Disk
