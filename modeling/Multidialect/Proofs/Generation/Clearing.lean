import Multidialect.Proofs.Files.Change
import Multidialect.Proofs.Generation.Runs
import Multidialect.Proofs.Manifest.Accepted

/-! # What clearing an output deletes

The directories that hold templates and extra modules must not be in a directory that is cleared. A
manifest is refused if its paths say so in normal form, but the directories that are cleared are
found from the root. The two agree on paths that start from the same directory; a manifest that
writes its output directory another way is let through, and its templates may be deleted
(`clearing_spares_inputs` says exactly when, `clearing_deletes_templates` is a case).
-/

namespace Multidialect

open Path (SameStart MayHold)

namespace Manifest

/-- That the output of a dialect, as the manifest writes it, never holds a directory: they start
from the same directory, where the manifest was checked, or no root brings them together. -/
def KeepsApart (m : Manifest) (d : Dialect) (dir : Path) : Prop :=
  SameStart (m.generator.output.child d.name) dir ∨ ¬ MayHold (m.generator.output.child d.name) dir

instance (m : Manifest) (d : Dialect) (dir : Path) : Decidable (m.KeepsApart d dir) :=
  inferInstanceAs (Decidable (_ ∨ _))

end Manifest

namespace Generator

variable {g : Generator} {t : FileTree}

/-- Whether the directory of a dialect is a directory of the project or one above it. -/
def Covers (g : Generator) (d : Dialect) (dir : Path) : Prop :=
  (g.dialectDir d).resolve [] <+: (g.root.join dir).resolve []

instance (g : Generator) (d : Dialect) (dir : Path) : Decidable (g.Covers d dir) :=
  inferInstanceAs (Decidable (_ <+: _))

/-! ## The directory of a dialect -/

theorem resolve_dialectDir (g : Generator) (d : Dialect) (base : Location) :
    (g.dialectDir d).resolve base =
      (g.root.join (g.manifest.generator.output.child d.name)).resolve base := by
  rw [dialectDir, outputDir, Path.resolve_child _ (Path.isName_dialect d), Path.resolve_join,
    Path.resolve_join, Path.resolve_child _ (Path.isName_dialect d)]

theorem isAbsolute_dialectDir (hroot : g.root.isAbsolute = true) (d : Dialect) :
    (g.dialectDir d).isAbsolute = true :=
  Path.isAbsolute_join_left (Path.isAbsolute_join_left hroot _) _

/-- **Where the check is right**: no root puts an input below the output of a dialect. -/
theorem not_covers_iff {m : Manifest} (hm : m.Valid) (d : Dialect) {dir : Path}
    (hdir : dir ∈ m.inputDirs) :
    (∀ root : Path, root.isAbsolute = true → ¬ Covers ⟨m, root⟩ d dir) ↔ m.KeepsApart d dir := by
  have hcovers : ∀ root : Path, Covers ⟨m, root⟩ d dir ↔
      (root.join (m.generator.output.child d.name)).resolve [] <+: (root.join dir).resolve [] := by
    intro root
    rw [Covers, resolve_dialectDir]
  constructor
  · intro h
    refine .inr fun hmay => ?_
    obtain ⟨root, hr, hc⟩ := Path.mayHold_iff.1 hmay
    exact h root hr ((hcovers root).2 hc)
  · rintro (h | h) root hr hc
    · have hlayout : ¬ dir.normalize.startsWith (m.normalOutput d) = true := by
        simp [hm.layout d dir hdir]
      rw [hcovers, Path.resolve_join, Path.resolve_join, Path.resolve_prefix_iff h] at hc
      exact hlayout ((Path.startsWith_normalize h).2 hc)
    · exact h (Path.mayHold_iff.2 ⟨root, hr, (hcovers root).1 hc⟩)

/-! ## What is deleted -/

theorem prefix_dropLast {a l : Location} (h : a <+: l) (hne : a ≠ l) : a <+: l.dropLast := by
  rcases List.eq_nil_or_concat l with rfl | ⟨front, n, rfl⟩
  · exact absurd (List.prefix_nil.1 h) hne
  · rw [List.concat_eq_append] at h hne ⊢
    rw [List.dropLast_concat]
    exact (List.prefix_concat_iff.1 h).resolve_left hne

/-- A well-formed tree with a given current directory and a given file. -/
structure HoldsFile (current l : Location) (content : ByteArray) (t : FileTree) : Prop where
  wellFormed : t.WellFormed
  current : t.current = current
  get? : t.get? l = some (.file content)

variable {current l : Location} {content : ByteArray}

/-- Clearing a directory keeps files that are not below it. -/
theorem HoldsFile.clear (h : HoldsFile current l content t) {p : Path} {t' : FileTree} {gone : Bool}
    (hc : t.clear p = .ok (t', gone)) (hl : ¬ p.resolve current <+: l.dropLast) :
    HoldsFile current l content t' := by
  have hchange := FileTree.change_clear h.wellFormed hc
  refine ⟨hchange.wellFormed, hchange.current.trans h.current, hchange.get?_file ?_ h.get?⟩
  rintro ⟨hpre, hd⟩
  rw [h.current] at hpre hd
  by_cases he : p.resolve current = l
  · rw [he, h.get?] at hd
    cases hd
  · exact hl (prefix_dropLast hpre he)

theorem HoldsFile.createDirs (h : HoldsFile current l content t) (p : Path) :
    HoldsFile current l content (t.createDirs p).1 := by
  have hchange := FileTree.change_createDirs h.wellFormed p
  exact ⟨hchange.wellFormed, hchange.current.trans h.current, hchange.get?_file (fun hf => hf) h.get?⟩

/-- Preparing or removing directories of dialects keeps files that are not below any of them. -/
theorem HoldsFile.cleared (h : HoldsFile current l content t) {ds : List Dialect}
    (hl : ∀ d ∈ ds, ¬ (g.dialectDir d).resolve current <+: l.dropLast) (flag : Bool) :
    HoldsFile current l content (g.prepareDirs flag ds t).1 ∧
      HoldsFile current l content (g.clean flag ds t).1 :=
  ⟨prepareDirs_induct h (fun d hd _ _ _ h hc => h.clear hc (hl d hd))
      fun d _ _ h => h.createDirs (g.dialectDir d),
    clean_induct h fun d hd _ _ _ h hc => h.clear hc (hl d hd)⟩

/-- What stands in a directory that was removed is gone. -/
theorem get?_clean {ds : List Dialect} {t' : FileTree} {removed : List Path}
    (h : g.clean false ds t = (t', .ok removed)) {p : Path} (hp : p ∈ removed) {l : Location}
    (hl : p.resolve t.current <+: l) : t'.get? l = none := by
  induction ds generalizing t removed with
  | nil =>
    obtain ⟨-, hr⟩ := Prod.mk.inj h
    obtain rfl := Except.ok.inj hr
    cases hp
  | cons d rest ih =>
    simp only [clean, Bool.false_eq_true, if_false] at h
    cases hc : t.clear (g.dialectDir d) with
    | error e => simp [hc] at h
    | ok r =>
      obtain ⟨t₁, gone⟩ := r
      simp only [hc] at h
      obtain ⟨ht', hr⟩ := Prod.mk.inj h
      obtain ⟨more, hmore, hr⟩ := map_eq_ok.1 hr
      have hcur : t₁.current = t.current := by
        rcases FileTree.clear_eq_ok hc with ⟨-, rfl⟩ | ⟨-, -, rfl⟩ <;> rfl
      have hrest : p ∈ more → t'.get? l = none := fun hp =>
        ih (Prod.ext ht' hmore) hp (hcur ▸ hl)
      cases gone with
      | false =>
        rw [← hr, if_neg Bool.false_ne_true] at hp
        exact hrest hp
      | true =>
        rw [← hr, if_pos rfl] at hp
        rcases List.mem_cons.1 hp with rfl | hp
        · rw [← ht']
          exact clean_induct (P := fun t => t.get? l = none) (FileTree.get?_clear hc hl)
            fun _ _ _ _ _ hn hc => FileTree.get?_clear_none hc hn
        · exact hrest hp

/-- **When clearing spares the inputs.** The directory of a dialect holds no directory of templates
or extra modules, wherever the root is, exactly if the manifest keeps them apart. Where the
directories of some dialects hold none of these, no template and no extra module is deleted when
they are prepared or removed; where one that is removed holds such a directory, all in it is. -/
theorem clearing_spares_inputs {text fileName : String} {m : Manifest}
    (h : Manifest.read text fileName = .ok m) :
    (∀ d, ∀ dir ∈ m.inputDirs,
      (∀ root : Path, root.isAbsolute = true → ¬ Covers ⟨m, root⟩ d dir) ↔ m.KeepsApart d dir) ∧
    ∀ (root : Path) (ds : List Dialect) (t : FileTree), root.isAbsolute = true → t.WellFormed →
      ((∀ d ∈ ds, ∀ dir ∈ m.inputDirs, ¬ Covers ⟨m, root⟩ d dir) →
        ∀ dir ∈ m.inputDirs, ∀ (name : String) (content : ByteArray),
          t.get? ((root.join dir).resolve [] ++ [name]) = some (.file content) →
          ∀ flag : Bool,
            (prepareDirs ⟨m, root⟩ flag ds t).1.get? ((root.join dir).resolve [] ++ [name]) =
                some (.file content) ∧
              (clean ⟨m, root⟩ flag ds t).1.get? ((root.join dir).resolve [] ++ [name]) =
                some (.file content)) ∧
      ∀ (t' : FileTree) (removed : List Path),
        clean ⟨m, root⟩ false ds t = (t', .ok removed) →
        ∀ d, dialectDir ⟨m, root⟩ d ∈ removed → ∀ dir, Covers ⟨m, root⟩ d dir →
          ∀ name, t'.get? ((root.join dir).resolve [] ++ [name]) = none := by
  refine ⟨fun d dir hdir => not_covers_iff (Manifest.valid_of_read h) d hdir, ?_⟩
  intro root ds t hroot ht
  have hbase : ∀ d, (dialectDir ⟨m, root⟩ d).resolve t.current = (dialectDir ⟨m, root⟩ d).resolve [] :=
    fun d => Path.resolve_of_isAbsolute (isAbsolute_dialectDir (g := ⟨m, root⟩) hroot d) _ _
  refine ⟨fun hc dir hdir name content hf flag => ?_, fun t' removed hr d hd dir hc name => ?_⟩
  · have hkept : ∀ d ∈ ds, ¬ (dialectDir ⟨m, root⟩ d).resolve t.current <+:
        ((root.join dir).resolve [] ++ [name]).dropLast := by
      intro d hd
      rw [List.dropLast_concat, hbase]
      exact hc d hd dir hdir
    obtain ⟨hprepared, hcleaned⟩ := HoldsFile.cleared (g := ⟨m, root⟩) ⟨ht, rfl, hf⟩ hkept flag
    exact ⟨hprepared.get?, hcleaned.get?⟩
  · refine get?_clean (g := ⟨m, root⟩) hr hd ?_
    rw [hbase]
    exact hc.trans (List.prefix_append _ _)

/-- With the settings that are built in, preparing and removing directories below `/work` keeps a
template. -/
theorem clearing_spares_inputs_standard :
    Manifest.read "" "dialectic.toml" = .ok .standard ∧
      ∀ ds flag,
        (clean ⟨.standard, ⟨"/work"⟩⟩ flag ds
            (FileTree.empty.put ⟨"src/dialect/count.ts"⟩ "").1).1.get?
          ["work", "src", "dialect", "count.ts"] = some (.file ByteArray.empty) := by
  have h : Manifest.read "" "dialectic.toml" = .ok .standard := ok_of_toOption (by decide +kernel)
  obtain ⟨hapart, hkept⟩ := clearing_spares_inputs h
  have hk : ∀ d, ∀ dir ∈ Manifest.standard.inputDirs, Manifest.standard.KeepsApart d dir := by
    intro d
    cases d <;> decide +kernel
  have hcovers : ∀ d, ∀ dir ∈ Manifest.standard.inputDirs, ¬ Covers ⟨.standard, ⟨"/work"⟩⟩ d dir :=
    fun d dir hdir => (hapart d dir hdir).2 (hk d dir hdir) _ (by decide)
  refine ⟨h, fun ds flag => ?_⟩
  have hcleared := (hkept ⟨"/work"⟩ ds (FileTree.empty.put ⟨"src/dialect/count.ts"⟩ "").1 (by decide)
    (by decide +kernel)).1 fun d _ => hcovers d
  exact (hcleared ⟨"src/dialect"⟩ (.head _) "count.ts" ByteArray.empty (by decide +kernel) flag).2

/-- A manifest whose output directory goes out of the project and back in. -/
def roundabout : String :=
  "[generator]\ntemplates = \"src/pg/templates\"\noutput = \"../proj/src\"\n"

/-- **Clearing may delete the templates**: the output directory, written as a way around, holds
them. -/
theorem clearing_deletes_templates :
    ∃ m : Manifest, Manifest.read roundabout "dialectic.toml" = .ok m ∧
      (⟨"/work/proj"⟩ : Path).isAbsolute = true ∧
      Covers ⟨m, ⟨"/work/proj"⟩⟩ .pg m.generator.templates ∧
      ∃ t : FileTree, t.WellFormed ∧
        (t.get? ["work", "proj", "src", "pg", "templates", "count.ts"]).isSome ∧
        (clean ⟨m, ⟨"/work/proj"⟩⟩ false [.pg] t).1.get?
          ["work", "proj", "src", "pg", "templates", "count.ts"] = none := by
  refine ⟨{ Manifest.standard with generator := { GeneratorSettings.standard with
    templates := ⟨"src/pg/templates"⟩, output := ⟨"../proj/src"⟩ } },
    ok_of_toOption (by decide +kernel), by decide, by decide +kernel,
    (FileTree.empty.put ⟨"proj/src/pg/templates/count.ts"⟩ "").1, by decide +kernel,
    by decide +kernel, by decide +kernel⟩

end Generator

end Multidialect
