import Multidialect.Generation.Generate
import Multidialect.Proofs.Files.Change
import Multidialect.Proofs.Generation.Pairs

/-! # What holds throughout a run

A run changes the tree directory by directory and file by file. What each such change keeps is kept
by preparing all directories (`prepareDirs_induct`), by removing them (`clean_induct`) and by
writing all files (`writeFiles_induct`), also if they are given up half-way. If all files are
written, each stands where it should (`isFile_writeFiles`). A run that succeeds has planned and
written all files (`generate_eq_ok`).
-/

namespace Multidialect

variable {P : FileTree → Prop} {t : FileTree}

namespace Generator

variable {g : Generator}

/-- **Preparing directories** keeps what clearing and making each of them keeps. -/
theorem prepareDirs_induct {keepExisting : Bool} {ds : List Dialect} (h : P t)
    (hclear : ∀ d ∈ ds, ∀ t t' gone, P t → t.clear (g.dialectDir d) = .ok (t', gone) → P t')
    (hmake : ∀ d ∈ ds, ∀ t, P t → P (t.createDirs (g.dialectDir d)).1) :
    P (g.prepareDirs keepExisting ds t).1 := by
  induction ds generalizing t with
  | nil => exact h
  | cons d rest ih =>
    simp only [prepareDirs]
    split
    · exact h
    · rename_i t' gone hc
      have h' : P t' := by
        split at hc
        · obtain ⟨rfl, -⟩ := Prod.mk.inj (Except.ok.inj hc)
          exact h
        · exact hclear d (.head _) t t' gone h hc
      have hmade := hmake d (.head _) t' h'
      cases hr : t'.createDirs (g.dialectDir d) with
      | mk t'' r =>
        rw [hr] at hmade
        cases r with
        | error e => exact hmade
        | ok u =>
          exact ih hmade (fun d' hm => hclear d' (.tail _ hm)) fun d' hm => hmake d' (.tail _ hm)

/-- **Removing directories** keeps what clearing each of them keeps. -/
theorem clean_induct {dryRun : Bool} {ds : List Dialect} (h : P t)
    (hclear : ∀ d ∈ ds, ∀ t t' gone, P t → t.clear (g.dialectDir d) = .ok (t', gone) →
      P t') : P (g.clean dryRun ds t).1 := by
  induction ds generalizing t with
  | nil => exact h
  | cons d rest ih =>
    have hrest := fun d' hm => hclear d' (List.mem_cons_of_mem d hm)
    simp only [clean]
    split
    · exact h
    · rename_i t' gone hc
      split at hc
      · obtain ⟨rfl, -⟩ := Prod.mk.inj (Except.ok.inj hc)
        exact ih h hrest
      · exact ih (hclear d (.head _) t t' gone h hc) hrest

end Generator

/-- **Writing files** keeps what putting each of them keeps. -/
theorem FileRegistry.writeFiles_induct {base : Path} {files : List PlannedFile} (h : P t)
    (hput : ∀ f ∈ files, ∀ t, P t → P (t.put (base.join f.path) f.content).1) :
    P (writeFiles base files t).1 := by
  induction files generalizing t with
  | nil => exact h
  | cons f rest ih =>
    have hrest := fun f' hm => hput f' (List.mem_cons_of_mem f hm)
    simp only [writeFiles]
    split
    · exact ih h hrest
    · have hone := hput f (.head _) t h
      cases hr : t.put (base.join f.path) f.content with
      | mk t' r =>
        rw [hr] at hone
        cases r with
        | error e => exact hone
        | ok u => exact ih hone hrest

/-- **Files that are written are there**: wherever a file stands or is to be written, one stands when
all are written. -/
theorem FileRegistry.isFile_writeFiles {base : Path} {files : List PlannedFile} {t' : FileTree}
    {stats : WriteStats} (ht : t.WellFormed)
    (hsteps : ∀ f ∈ files, (base.join f.path).steps ≠ [])
    (h : writeFiles base files t = (t', .ok stats)) :
    (∀ l, (∃ old, t.get? l = some (.file old)) → ∃ new, t'.get? l = some (.file new)) ∧
      ∀ f ∈ files, f.overwrite = .always →
        ∃ new, t'.get? ((base.join f.path).resolve t.current) = some (.file new) := by
  induction files generalizing t stats with
  | nil =>
    obtain ⟨rfl, -⟩ := Prod.mk.inj h
    exact ⟨fun _ hl => hl, fun _ hf => absurd hf List.not_mem_nil⟩
  | cons f rest ih =>
    have hrest := fun f' hm => hsteps f' (List.mem_cons_of_mem f hm)
    simp only [writeFiles] at h
    split at h
    · rename_i hkept
      obtain ⟨ht', hr⟩ := Prod.mk.inj h
      obtain ⟨stats', hs, -⟩ := map_eq_ok.1 hr
      obtain ⟨hold, hnew⟩ := ih ht hrest (Prod.ext ht' hs)
      refine ⟨hold, fun f' hm hover => ?_⟩
      rcases List.mem_cons.1 hm with rfl | hm
      · rw [PlannedFile.isKept, hover] at hkept
        simp at hkept
      · exact hnew f' hm hover
    · cases hput : t.put (base.join f.path) f.content with
      | mk t₁ r =>
        rw [hput] at h
        cases r with
        | error e => cases (Prod.mk.inj h).2
        | ok u =>
          obtain ⟨ht', hr⟩ := Prod.mk.inj h
          obtain ⟨stats', hs, -⟩ := map_eq_ok.1 hr
          rw [FileTree.put] at hput
          have hchange := FileTree.change_putBytes_only ht (hsteps f (.head _)) f.content.toUTF8
          rw [hput] at hchange
          obtain ⟨hold, hnew⟩ := ih hchange.wellFormed hrest (Prod.ext ht' hs)
          rw [hchange.current] at hnew
          refine ⟨fun l hl => hold l (FileTree.isFile_putBytes ht (hsteps f (.head _)) hput hl),
            fun f' hm hover => ?_⟩
          rcases List.mem_cons.1 hm with rfl | hm
          · exact hold _ ⟨_, FileTree.get?_putBytes ht hput⟩
          · exact hnew f' hm hover

/-- **A run that succeeds** has loaded the templates, rendered every pair and planned all files; a dry
run leaves the tree as it is, any other one has written them. -/
theorem Generator.generate_eq_ok {g : Generator} {o : GenerateOptions} {t' : FileTree}
    {outcome : GenerateOutcome} (h : g.generate o t = (t', .ok outcome)) :
    ∃ ts registry, g.loadTemplates t = .ok ts ∧
      (g.render ts (Dialect.selected o.dialects)).failures = [] ∧
      g.plan (g.render ts (Dialect.selected o.dialects)).modules (Dialect.selected o.dialects)
        o.keepExisting t = .ok registry ∧
      outcome.files = registry.inOrder ∧
      (o.dryRun = true ∧ t' = t ∨ o.dryRun = false ∧ ∃ written,
        g.writeOut o.keepExisting (Dialect.selected o.dialects) registry t = (t', .ok written)) := by
  unfold generate generateWith at h
  cases hts : g.loadTemplates t with
  | error e => simp [hts] at h
  | ok ts =>
    simp only [hts, renderWith_nil] at h
    split at h
    · simp at h
    · rename_i hfail
      cases hplan : g.plan (g.render ts (Dialect.selected o.dialects)).modules
          (Dialect.selected o.dialects) o.keepExisting t with
      | error e => simp [hplan] at h
      | ok registry =>
        refine ⟨ts, registry, rfl, by simpa using hfail, hplan, ?_⟩
        simp only [hplan] at h
        split at h
        · rename_i hdry
          obtain ⟨rfl, hout⟩ := Prod.mk.inj h
          obtain rfl := Except.ok.inj hout
          exact ⟨rfl, .inl ⟨hdry, rfl⟩⟩
        · rename_i hdry
          split at h
          · simp at h
          · rename_i hw
            obtain ⟨rfl, hout⟩ := Prod.mk.inj h
            obtain rfl := Except.ok.inj hout
            exact ⟨rfl, .inr ⟨by simpa using hdry, _, hw⟩⟩

end Multidialect
