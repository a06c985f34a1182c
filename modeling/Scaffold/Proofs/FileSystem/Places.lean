import Scaffold.FileSystem
import Scaffold.Proofs.Checked
import Scaffold.Proofs.Path.Join

/-!
# What stands at a path

`FileSystem.at?` is what a path leads to.  Two file systems with the same directories send every
path that leads somewhere to the same location (`SameDirectories.locate_eq_ok`), and a proper name
in a directory to the location of its own behind that of the directory (`exists_of_locate_join`).

`AgreeAt` says that two file systems look the same at a path, the reason for which it may be out of
reach included; `DifferOnlyAt` says that nothing differs elsewhere than at some paths.
-/

set_option autoImplicit false

namespace Scaffold

open Checked

namespace FileSystem

variable {fs before after last : FileSystem} {location other : Location} {path name dir : String}

/-- What stands at a path; nothing when the path leads nowhere. -/
def at? (fs : FileSystem) (path : String) : Option Node :=
  match fs.locate path with
  | .ok location => fs.node? location
  | .error _ => none

theorem at?_of_locate (located : fs.locate path = .ok location) :
    fs.at? path = fs.node? location := by
  simp only [at?, located]

/-! ## The same directories -/

structure SameDirectories (before after : FileSystem) : Prop where
  workingDirectory : after.workingDirectory = before.workingDirectory
  directory : ∀ location,
    after.node? location = some .directory ↔ before.node? location = some .directory

namespace SameDirectories

theorem refl (fs : FileSystem) : SameDirectories fs fs := ⟨rfl, fun _ => Iff.rfl⟩

theorem symm (same : SameDirectories before after) : SameDirectories after before :=
  ⟨same.workingDirectory.symm, fun location => (same.directory location).symm⟩

theorem trans (first : SameDirectories before after) (second : SameDirectories after last) :
    SameDirectories before last :=
  ⟨second.workingDirectory.trans first.workingDirectory,
    fun location => (second.directory location).trans (first.directory location)⟩

end SameDirectories

theorem directory_of_step {next : Location} (stepped : fs.step location name = .ok next) :
    fs.node? location = some .directory := by
  unfold step at stepped
  split at stepped
  · cases stepped
  · cases stepped
  · assumption

theorem step_of_directory (directory : fs.node? location = some .directory) (proper : name ≠ "..") :
    fs.step location name =
      if 255 < name.utf8ByteSize then .error .nameTooLong else .ok (location ++ [name]) := by
  simp only [step, directory, if_neg proper]

theorem SameDirectories.step_eq (same : SameDirectories before after)
    (directory : before.node? location = some .directory) (name : String) :
    after.step location name = before.step location name := by
  simp only [step, directory, (same.directory location).mpr directory]

def walk (fs : FileSystem) (dir : String) : Except FileCause Location :=
  (Path.steps dir).foldlM fs.step (if Path.isAbsolute dir then [] else fs.workingDirectory)

theorem SameDirectories.foldlM_step (same : SameDirectories before after) :
    ∀ (names : List String) (start last : Location),
      names.foldlM before.step start = .ok last → names.foldlM after.step start = .ok last := by
  intro names
  induction names with
  | nil => intro start last walked; exact walked
  | cons name rest ih =>
      intro start last walked
      rw [List.foldlM_cons] at walked ⊢
      obtain ⟨next, stepped, walked⟩ := bind_eq_ok.mp walked
      rw [same.step_eq (directory_of_step stepped), stepped]
      exact ih next last walked

theorem SameDirectories.walk_eq_ok (same : SameDirectories before after)
    (walked : before.walk dir = .ok location) : after.walk dir = .ok location := by
  unfold walk at walked ⊢
  rw [same.workingDirectory]
  exact same.foldlM_step _ _ _ walked

theorem locate_eq (fs : FileSystem) (path : String) :
    fs.locate path =
      if path = "" then .error .notFound
      else if path.toList.contains '\x00' then .error .nullCharacter
      else if 4096 ≤ path.utf8ByteSize then .error .nameTooLong
      else fs.walk path := rfl

theorem SameDirectories.locate_eq_ok (same : SameDirectories before after)
    (located : before.locate path = .ok location) : after.locate path = .ok location := by
  rw [locate_eq] at located ⊢
  split_ifs at located ⊢
  exact same.walk_eq_ok located

/-! ## Proper names in a directory -/

theorem locate_join (fs : FileSystem) (dir : String) (proper : Path.IsName name) :
    fs.locate (Path.join dir name) =
      if (Path.join dir name).toList.contains '\x00' then .error .nullCharacter
      else if 4096 ≤ (Path.join dir name).utf8ByteSize then .error .nameTooLong
      else fs.walk dir >>= fun location => fs.step location name := by
  have spelled : Path.join dir name ≠ "" := by
    intro empty
    have steps := Path.steps_join dir proper
    rw [empty] at steps
    simp [show Path.steps "" = [] from rfl] at steps
  simp only [locate, if_neg spelled, Path.steps_join dir proper, Path.isAbsolute_join dir proper,
    List.foldlM_append, List.foldlM_cons, List.foldlM_nil, bind_pure]
  rfl

/-- Once the directory is found, every proper name in it is looked for alike. -/
theorem SameDirectories.locate_join (same : SameDirectories before after)
    (walked : before.walk dir = .ok location) (proper : Path.IsName name)
    (directory : before.node? location = some .directory) :
    after.locate (Path.join dir name) = before.locate (Path.join dir name) := by
  rw [FileSystem.locate_join before dir proper, FileSystem.locate_join after dir proper, walked,
    same.walk_eq_ok walked]
  split_ifs
  · rfl
  · rfl
  · exact same.step_eq directory name

theorem exists_of_locate_join (proper : Path.IsName name)
    (located : fs.locate (Path.join dir name) = .ok location) :
    ∃ front, fs.walk dir = .ok front ∧ fs.node? front = some .directory ∧
      location = front ++ [name] := by
  rw [locate_join fs dir proper] at located
  split_ifs at located
  obtain ⟨front, walked, stepped⟩ := bind_eq_ok.mp located
  have directory := directory_of_step stepped
  rw [step_of_directory directory proper.2.2.2] at stepped
  split_ifs at stepped
  exact ⟨front, walked, directory, (Except.ok.inj stepped).symm⟩

/-- Different proper names, in whatever directories, have different locations. -/
theorem name_eq_of_locate_join {name' dir' : String} (proper : Path.IsName name)
    (proper' : Path.IsName name') (located : fs.locate (Path.join dir name) = .ok location)
    (located' : fs.locate (Path.join dir' name') = .ok location) : name = name' := by
  obtain ⟨front, _, _, rfl⟩ := exists_of_locate_join proper located
  obtain ⟨front', _, _, same⟩ := exists_of_locate_join proper' located'
  have last := congrArg List.getLast? same
  simpa using last

/-! ## Changing one location -/

theorem not_isPrefixOf_of_node? (notDirectory : fs.node? location ≠ some .directory) :
    location.isPrefixOf fs.workingDirectory = false := by
  by_contra isPrefix
  exact notDirectory (by simp only [node?, Bool.not_eq_false] at isPrefix ⊢; rw [if_pos isPrefix])

theorem node?_put (notDirectory : fs.node? location ≠ some .directory) (node : Node)
    (other : Location) :
    (fs.put location node).node? other =
      if other = location then some node else fs.node? other := by
  have outside := not_isPrefixOf_of_node? notDirectory
  simp only [node?, put, Std.ExtTreeMap.getElem?_insert, Std.LawfulEqCmp.compare_eq_iff_eq]
  by_cases same : other = location
  · subst same
    simp [outside]
  · rw [if_neg (Ne.symm same), if_neg same]

theorem node?_drop (notDirectory : fs.node? location ≠ some .directory) (other : Location) :
    (fs.drop location).node? other = if other = location then none else fs.node? other := by
  have outside := not_isPrefixOf_of_node? notDirectory
  simp only [node?, drop, Std.ExtTreeMap.getElem?_erase, Std.LawfulEqCmp.compare_eq_iff_eq]
  by_cases same : other = location
  · subst same
    simp [outside]
  · rw [if_neg (Ne.symm same), if_neg same]

/-- A file can be put at a path: the path leads to a location where no directory stands. -/
def Replaceable (fs : FileSystem) (path : String) : Prop :=
  ∃ location, fs.locate path = .ok location ∧ fs.node? location ≠ some .directory

/-- The two file systems look the same at a path: it leads to the same place, or fails for the same
reason, and the same stands there. -/
structure AgreeAt (path : String) (before after : FileSystem) : Prop where
  locate : after.locate path = before.locate path
  node : ∀ location, before.locate path = .ok location →
    after.node? location = before.node? location

namespace AgreeAt

theorem refl (path : String) (fs : FileSystem) : AgreeAt path fs fs := ⟨rfl, fun _ _ => rfl⟩

theorem trans (first : AgreeAt path before after) (second : AgreeAt path after last) :
    AgreeAt path before last where
  locate := second.locate.trans first.locate
  node location located :=
    (second.node location (first.locate.trans located)).trans (first.node location located)

theorem at?_eq (agree : AgreeAt path before after) : after.at? path = before.at? path := by
  unfold at?
  rw [agree.locate]
  cases located : before.locate path with
  | error cause => rfl
  | ok location => exact agree.node location located

end AgreeAt

structure DifferOnlyAt (paths : List String) (before after : FileSystem) : Prop where
  same : SameDirectories before after
  elsewhere : ∀ location, (∀ path ∈ paths, before.locate path ≠ .ok location) →
    after.node? location = before.node? location

namespace DifferOnlyAt

variable {paths others : List String}

theorem refl (paths : List String) (fs : FileSystem) : DifferOnlyAt paths fs fs :=
  ⟨.refl fs, fun _ _ => rfl⟩

theorem trans (first : DifferOnlyAt paths before after) (second : DifferOnlyAt others after last) :
    DifferOnlyAt (paths ++ others) before last where
  same := first.same.trans second.same
  elsewhere location away := by
    have awayFirst : ∀ path ∈ paths, before.locate path ≠ .ok location :=
      fun path member => away path (List.mem_append_left _ member)
    have awaySecond : ∀ path ∈ others, after.locate path ≠ .ok location := by
      intro path member located
      exact away path (List.mem_append_right _ member) (first.same.symm.locate_eq_ok located)
    rw [second.elsewhere location awaySecond, first.elsewhere location awayFirst]

theorem exists_of_node?_ne (differ : DifferOnlyAt paths before after)
    (changed : after.node? location ≠ before.node? location) :
    ∃ path ∈ paths, before.locate path = .ok location := by
  by_contra none
  apply changed
  apply differ.elsewhere
  intro path member located
  exact none ⟨path, member, located⟩

/-- A path that shares its location with none of the given ones looks the same. -/
theorem at?_eq (differ : DifferOnlyAt paths before after)
    (away : ∀ location, before.locate path = .ok location →
      ∀ other ∈ paths, before.locate other ≠ .ok location) :
    after.at? path = before.at? path := by
  cases located : before.locate path with
  | ok location =>
      rw [at?_of_locate located, at?_of_locate (differ.same.locate_eq_ok located)]
      exact differ.elsewhere location (away location located)
  | error cause =>
      have lost : ∀ location, after.locate path ≠ .ok location := by
        intro location found
        rw [differ.same.symm.locate_eq_ok found] at located
        cases located
      simp only [at?, located]
      cases found : after.locate path with
      | ok location => exact absurd found (lost location)
      | error _ => rfl

end DifferOnlyAt

theorem write_of_locate (located : fs.locate path = .ok location) (content : List UInt8) :
    fs.write path content =
      if fs.node? location = some .directory then .error .isDirectory
      else if Path.endsInDirectory path then .error .isDirectory
      else .ok (fs.put location (.file content)) := by
  simp only [write, located]
  rfl

theorem remove_of_locate (located : fs.locate path = .ok location) :
    fs.remove path =
      match fs.node? location with
      | none => .error .notFound
      | some .directory => .error .isDirectory
      | some (.file _) =>
        if Path.endsInDirectory path then .error .notDirectory else .ok (fs.drop location) := by
  simp only [remove, located]
  rfl

theorem exists_of_remove (removed : before.remove path = .ok after) :
    ∃ location, before.locate path = .ok location ∧ before.node? location ≠ some .directory ∧
      after = before.drop location := by
  obtain ⟨location, located, _⟩ := bind_eq_ok.mp removed
  rw [remove_of_locate located] at removed
  refine ⟨location, located, ?_⟩
  split at removed
  · cases removed
  · cases removed
  · next content stands =>
    split_ifs at removed
    exact ⟨by simp [stands], (Except.ok.inj removed).symm⟩

theorem at?_of_remove_notFound (removed : before.remove path = .error .notFound) :
    before.at? path = none := by
  cases located : before.locate path with
  | error cause => simp only [at?, located]
  | ok location =>
      rw [remove_of_locate located] at removed
      rw [at?_of_locate located]
      split at removed
      · assumption
      · cases removed
      · split_ifs at removed
        cases removed

end FileSystem

end Scaffold
