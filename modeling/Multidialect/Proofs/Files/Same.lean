import Multidialect.Generation.Registry
import Multidialect.Proofs.Outcome

/-! # Trees that look the same

A tree keeps its entries in the order in which they were made, but nothing that a run does with files
depends on it. Trees are the `Same` if the same stands at every location. Looking then finds the
same, and changing fails alike or leaves trees that are the same again (`Same.put`,
`Same.writeFiles`).
-/

namespace Multidialect

open Path (Component)

namespace FileTree

variable {t t' : FileTree}

/-- The same stands at every location, and the current directory is the same. -/
structure Same (t t' : FileTree) : Prop where
  current : t'.current = t.current
  get? : ∀ l, t'.get? l = t.get? l

namespace Same

theorem refl (t : FileTree) : Same t t := ⟨rfl, fun _ => rfl⟩

/-! ## Looking -/

theorem walk (h : Same t t') (l : Location) (cs : List Component) :
    t'.walk l cs = t.walk l cs := by
  induction cs generalizing l with
  | nil => rfl
  | cons c cs ih => simp only [FileTree.walk, h.get?, ih]

theorem locate (h : Same t t') (p : Path) : t'.locate p = t.locate p := by
  simp only [FileTree.locate, h.walk, h.current]

theorem entry (h : Same t t') (p : Path) : t'.entry p = t.entry p := by
  simp only [FileTree.entry, h.locate, h.get?]

theorem exists? (h : Same t t') (p : Path) : t'.exists? p = t.exists? p := by
  simp only [FileTree.exists?, h.entry]

theorem leadsToDir (h : Same t t') (cs : List Component) : t'.leadsToDir cs = t.leadsToDir cs := by
  simp only [FileTree.leadsToDir, isDirAt, h.walk, h.current, h.get?]

/-! ## Changing -/

theorem set (h : Same t t') (l : Location) (e : FileEntry) : Same (t.set l e) (t'.set l e) :=
  ⟨h.current, fun k => by rw [get?_set, get?_set, h.get?]⟩

end Same

/-- Both fail alike, or both give trees that are the same. -/
inductive Alike : Except FileFault FileTree → Except FileFault FileTree → Prop
  | error (e : FileFault) : Alike (.error e) (.error e)
  | ok {t t' : FileTree} (h : Same t t') : Alike (.ok t) (.ok t')

namespace Same

theorem createDirAt (h : Same t t') (cs : List Component) :
    Alike (t.createDirAt cs) (t'.createDirAt cs) := by
  simp only [FileTree.createDirAt, h.walk, h.current]
  cases t.walk t.current cs with
  | error e => exact .error e
  | ok l =>
    simp only [bind, Except.bind, h.get?]
    cases t.get? l with
    | none => exact .ok (h.set l .directory)
    | some e => exact .error _

theorem createDirsAt (h : Same t t') (cs : List Component) :
    Same (t.createDirsAt cs).1 (t'.createDirsAt cs).1 ∧
      (t'.createDirsAt cs).2 = (t.createDirsAt cs).2 := by
  induction cs with
  | nil => exact ⟨h, rfl⟩
  | cons c rest ih =>
    unfold FileTree.createDirsAt
    have hfirst := h.createDirAt (c :: rest).reverse
    simp only
    generalize t.createDirAt (c :: rest).reverse = x at hfirst ⊢
    generalize t'.createDirAt (c :: rest).reverse = x' at hfirst ⊢
    cases hfirst with
    | ok h => exact ⟨h, rfl⟩
    | error e =>
      by_cases he : e = .notFound
      · subst he
        generalize t.createDirsAt rest = made at ih ⊢
        generalize t'.createDirsAt rest = made' at ih ⊢
        obtain ⟨t₁, r⟩ := made
        obtain ⟨t₁', r'⟩ := made'
        obtain ⟨h₁, rfl⟩ : Same t₁ t₁' ∧ r' = r := ih
        cases r' with
        | error e => exact ⟨h₁, rfl⟩
        | ok u =>
          have hlast := h₁.createDirAt (c :: rest).reverse
          simp only
          generalize t₁.createDirAt (c :: rest).reverse = y at hlast ⊢
          generalize t₁'.createDirAt (c :: rest).reverse = y' at hlast ⊢
          cases hlast with
          | ok h => exact ⟨h, rfl⟩
          | error e => exact ⟨h₁, by simp only [h₁.leadsToDir]⟩
      · cases e <;> first | exact absurd rfl he | exact ⟨h, by simp only [h.leadsToDir]⟩

theorem createDirs (h : Same t t') (p : Path) :
    Same (t.createDirs p).1 (t'.createDirs p).1 ∧ (t'.createDirs p).2 = (t.createDirs p).2 :=
  h.createDirsAt _

theorem write (h : Same t t') (p : Path) (content : ByteArray) :
    Alike (t.write p content) (t'.write p content) := by
  simp only [FileTree.write, h.locate]
  cases t.locate p with
  | error e => exact .error e
  | ok l =>
    simp only [bind, Except.bind, h.get?]
    split
    · exact .error _
    · split
      · exact .error _
      · exact .ok (h.set l _)
    · split
      · exact .error _
      · split
        · exact .error _
        · exact .ok (h.set l _)

theorem writeBytes (h : Same t t') (p : Path) (content : ByteArray) :
    Same (t.writeBytes p content).1 (t'.writeBytes p content).1 ∧
      (t'.writeBytes p content).2 = (t.writeBytes p content).2 := by
  have hw := h.write p content
  unfold FileTree.writeBytes
  generalize t.write p content = x at hw ⊢
  generalize t'.write p content = x' at hw ⊢
  cases hw with
  | error e => exact ⟨h, rfl⟩
  | ok h => exact ⟨h, rfl⟩

theorem putBytes (h : Same t t') (p : Path) (content : ByteArray) :
    Same (t.putBytes p content).1 (t'.putBytes p content).1 ∧
      (t'.putBytes p content).2 = (t.putBytes p content).2 := by
  unfold FileTree.putBytes
  cases p.parent? with
  | none => exact h.writeBytes p content
  | some parent =>
    obtain ⟨hdirs, hr⟩ := h.createDirs parent
    simp only [hr]
    cases (t.createDirs parent).2 with
    | error e => exact ⟨hdirs, rfl⟩
    | ok u => exact hdirs.writeBytes p content

/-- **Putting a file** in trees that are the same leaves them the same. -/
theorem put (h : Same t t') (p : Path) (text : String) :
    Same (t.put p text).1 (t'.put p text).1 ∧ (t'.put p text).2 = (t.put p text).2 := by
  rw [FileTree.put, FileTree.put]
  exact h.putBytes p text.toUTF8

/-- **Writing files** to trees that are the same leaves them the same. -/
theorem writeFiles (h : Same t t') (base : Path) (files : List PlannedFile) :
    Same (FileRegistry.writeFiles base files t).1 (FileRegistry.writeFiles base files t').1 ∧
      (FileRegistry.writeFiles base files t').2 = (FileRegistry.writeFiles base files t).2 := by
  induction files generalizing t t' with
  | nil => exact ⟨h, rfl⟩
  | cons f rest ih =>
    have hkept : f.isKept base t' = f.isKept base t := by
      simp only [PlannedFile.isKept, h.exists?]
    simp only [FileRegistry.writeFiles, hkept]
    split
    · obtain ⟨hrest, hr⟩ := ih h
      exact ⟨hrest, by simp only [hr]⟩
    · have hput := h.put (base.join f.path) f.content
      generalize t.put (base.join f.path) f.content = x at hput ⊢
      generalize t'.put (base.join f.path) f.content = x' at hput ⊢
      obtain ⟨t₁, r⟩ := x
      obtain ⟨t₁', r'⟩ := x'
      obtain ⟨h₁, rfl⟩ : Same t₁ t₁' ∧ r' = r := hput
      cases r' with
      | error e => exact ⟨h₁, rfl⟩
      | ok u =>
        obtain ⟨hrest, hr⟩ := ih h₁
        exact ⟨hrest, by simp only [hr]⟩

end Same

end FileTree

end Multidialect
