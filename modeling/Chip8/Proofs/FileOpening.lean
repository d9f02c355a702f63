import Chip8.Log

/-! What is there stays where it is while files and folders are made, so a file that could be had
once can be had again, and nothing has to be made for it then. -/
namespace Chip8
namespace FileTree

variable {t t' : FileTree} {p : Path} {path : String} {place place' : List String}
  {found : Option Node} {node other : Node} {parts : List String}

def Grown (t t' : FileTree) : Prop :=
  ∀ place node, t.node? place = some node → t'.node? place = some node

theorem grownSelf (t : FileTree) : Grown t t := fun _ _ held => held

theorem topFolder (top : isTop place = true) : t.node? place = some .folder := by
  rw [node?, if_pos top]

theorem nodeAdded (free : t.node? place = none) : (t.add place node).node? place = some node := by
  have inside : ¬isTop place = true := fun top => by simp [topFolder top] at free
  simp [node?, add, inside]

theorem nodeKept (free : t.node? place = none) : Grown t (t.add place node) := by
  intro other held there
  by_cases top : isTop other = true
  · rwa [topFolder top] at there ⊢
  · have apart : place ≠ other := by
      rintro rfl
      simp [free] at there
    have unlike : (decide (place = other)) = false := decide_eq_false apart
    simp only [node?, if_neg top, add, List.find?_cons, unlike] at there ⊢
    cases listed : t.nodes.find? (·.1 = other) with
    | some entry => simpa [listed] using there
    | none =>
      simp only [listed, List.any_cons] at there ⊢
      split at there
      · rename_i above
        simpa [above] using there
      · contradiction

theorem followFromFound (followed : t.followFrom path place parts = .ok (place', found)) :
    found = t.node? place' := by
  induction parts generalizing place with
  | nil =>
    cases followed
    rfl
  | cons part rest ih =>
    simp only [followFrom] at followed
    split at followed <;> try contradiction
    split at followed <;> try contradiction
    exact ih followed

theorem followFromGrown (grown : Grown t t')
    (followed : t.followFrom path place parts = .ok (place', found)) :
    t'.followFrom path place parts = .ok (place', t'.node? place') := by
  induction parts generalizing place with
  | nil =>
    cases followed
    rfl
  | cons part rest ih =>
    simp only [followFrom] at followed ⊢
    split at followed <;> try contradiction
    rename_i folder
    rw [grown _ _ folder]
    split at followed <;> try contradiction
    rename_i short
    simpa only [if_neg short] using ih followed

theorem followFound (followed : t.follow p = .ok (place, found)) : found = t.node? place := by
  unfold follow at followed
  split at followed <;> try contradiction
  exact followFromFound followed

theorem followGrown (grown : Grown t t') (followed : t.follow p = .ok (place, found)) :
    t'.follow p = .ok (place, t'.node? place) := by
  unfold follow at followed ⊢
  split at followed <;> try contradiction
  rename_i short
  rw [if_neg short]
  exact followFromGrown grown followed

theorem followHeld (grown : Grown t t') (followed : t.follow p = .ok (place, some node)) :
    t'.follow p = .ok (place, some node) := by
  rw [followGrown grown followed, grown place node (followFound followed).symm]

theorem followMade (followed : t.follow p = .ok (place, none)) :
    (t.add place node).follow p = .ok (place, some node) := by
  have free := (followFound followed).symm
  rw [followGrown (nodeKept free) followed, nodeAdded free]

theorem folderFollowed :
    t.isFolder p = true ↔ ∃ place, t.follow p = .ok (place, some .folder) := by
  unfold isFolder
  split
  · rename_i place followed
    simp [followed]
  · rename_i other
    simpa using fun place followed => other place followed

theorem makeFolderMakes (made : t.makeFolder p = (t', none)) : t'.isFolder p = true := by
  unfold makeFolder at made
  split at made
  · simp at made
  · simp at made
  · rename_i place followed
    cases made
    exact folderFollowed.mpr ⟨place, followMade followed⟩

theorem haveFolderMakes (had : t.haveFolder p = (t', none)) : t'.isFolder p = true := by
  unfold haveFolder at had
  split at had
  rename_i tree e made
  simp only [Prod.mk.injEq] at had
  obtain ⟨rfl, answer⟩ := had
  split at answer
  · assumption
  · subst answer
    exact makeFolderMakes made

theorem makeFoldersMakes (made : t.makeFolders p = (t', none)) : t'.isFolder p = true := by
  unfold makeFolders at made
  split at made
  · rename_i tree once
    cases made
    exact makeFolderMakes once
  · rename_i tree e once
    split at made
    · split at made
      · simp at made
      · split at made
        · simp at made
        · exact haveFolderMakes made
    · simp only [Prod.mk.injEq] at made
      obtain ⟨rfl, answer⟩ := made
      split at answer
      · assumption
      · contradiction

theorem makeFoldersAgain (there : t.isFolder p = true) : t.makeFolders p = (t, none) := by
  obtain ⟨place, followed⟩ := folderFollowed.mp there
  have once : t.makeFolder p = (t, some (.alreadyThere p.text)) := by rw [makeFolder, followed]
  have other : FileError.alreadyThere p.text ≠ .notFound p.text := by
    simp [FileError.alreadyThere, FileError.notFound]
  unfold makeFolders
  rw [once]
  simp [other, there]

theorem haveFileHas (had : t.haveFile p = (t', none)) :
    Grown t t' ∧ p.valid = true ∧
      ∃ place node, t'.follow p = .ok (place, some node) ∧ node ≠ .folder := by
  unfold haveFile at had
  split at had
  · simp at had
  · rename_i valid
    have valid : p.valid = true := by simpa using valid
    split at had
    · simp at had
    · simp at had
    · rename_i place node other followed
      cases had
      exact ⟨grownSelf t, valid, place, node, followed, fun same => other (by rw [same])⟩
    · rename_i place followed
      cases had
      have free := (followFound followed).symm
      exact ⟨nodeKept free, valid, place, _, followMade followed, by simp⟩

theorem haveFileAgain (valid : p.valid = true) (followed : t.follow p = .ok (place, some node))
    (other : node ≠ .folder) : t.haveFile p = (t, none) := by
  unfold haveFile
  simp only [valid, followed]
  cases node with
  | folder => contradiction
  | file | void => rfl

theorem prepareAgain (prepared : t.prepareFile p = (t', none)) : t'.prepareFile p = (t', none) := by
  unfold prepareFile at prepared ⊢
  split at prepared
  · simp at prepared
  · rename_i named
    split at prepared
    · simp at prepared
    · rename_i tree made
      obtain ⟨grown, valid, place, node, followed, other⟩ := haveFileHas prepared
      obtain ⟨above, folder⟩ := folderFollowed.mp (makeFoldersMakes made)
      have there : t'.isFolder p.parent = true :=
        folderFollowed.mpr ⟨above, followHeld grown folder⟩
      rw [if_neg named, makeFoldersAgain there]
      exact haveFileAgain valid followed other

end FileTree

namespace LogSetup

theorem openAgain {s : LogSetup} {t t' : FileTree} (opened : s.openIn t = (t', none)) :
    s.openIn t' = (t', none) := by
  unfold openIn at opened ⊢
  cases path : s.path? with
  | none => rfl
  | some p =>
    rw [path] at opened
    exact FileTree.prepareAgain opened

end LogSetup
end Chip8
