import Multidialect.Proofs.Generation.Isolation
import Multidialect.Proofs.Pipeline.Order
import Multidialect.Proofs.Pipeline.Run
import Multidialect.Proofs.Text.LineEndings

/-! # Nothing unresolved

The last look of a rendering refuses a text in which a line is still a directive or a marker
(`residue?_eq_none`). It runs behind every pass of an earlier stage, in whatever order passes were
added, so that nothing that replacers, inserted code, renamings, overrides or further passes bring
in is left in a module (`Pipeline.run_leaves_plain_lines`, `Generator.plain_of_mem_modules`).
-/

namespace Multidialect

open Text

namespace Text

/-- A line that says nothing to the generator: no directive, and no marker, well formed or not. -/
def IsPlain (line : Text) : Prop := Directive.parse? line = none ∧ Marker.parse? line = none

/-! ## Terminators do not matter -/

theorem comment?_content (line : Text) : comment? (content line) = comment? line := by
  obtain ⟨ending, hline, hending⟩ := exists_content_append line
  unfold comment?
  rw [← trim_append_blank hending, ← hline]

theorem isPlain_content {line : Text} : IsPlain (content line) ↔ IsPlain line := by
  simp only [IsPlain, Directive.parse?, Marker.parse?, comment?_content]

/-! ## What the last look lets through -/

theorem isTemplateSyntax_eq_false {line : Text} :
    isTemplateSyntax line = false ↔ IsPlain line := by
  simp [isTemplateSyntax, isMarker, IsPlain]

end Text

theorem residueFrom?_eq_none {n : Nat} {ls : List Text} :
    residueFrom? n ls = none ↔ ∀ line ∈ ls, IsPlain line := by
  induction ls generalizing n with
  | nil => simp [residueFrom?]
  | cons line ls ih =>
    rw [residueFrom?, List.forall_mem_cons, ← isTemplateSyntax_eq_false, ← ih (n := n + 1)]
    cases h : isTemplateSyntax line <;> simp

/-- Nothing is left in a text exactly if all its lines are plain, with or without what ends
them. -/
theorem residue?_eq_none {t : Text} :
    residue? t = none ↔ ∀ line ∈ physicalLines t, IsPlain line := by
  rw [residue?, residueFrom?_eq_none, lines, List.forall_mem_map]
  simp only [isPlain_content]

theorem Pass.residue?_of_verify {c : RenderContext} {d d' : Draft}
    (h : Pass.verify.run c d = (d', .ok ())) : residue? d'.text = none := by
  have hchecked := ofText_eq_ok h
  split at hchecked
  · cases hchecked
  · rename_i hnone
    rw [← Except.ok.inj hchecked]
    exact hnone

namespace Pipeline

variable {σ : Type}

/-- The last look comes last, whatever passes of earlier stages there are and in whatever order they
were added. -/
theorem exists_front_of_perm {registry : ReplacerRegistry} {passes more : List Pass}
    (hpasses : passes.Perm (Pass.standard registry ++ more))
    (hmore : ∀ p ∈ more, p.stage ≠ .verify) :
    ∃ front, (empty.addPasses passes).passes = front ++ [Pass.verify] := by
  have hnone : Pass.ofStage .verify more = [] := List.filter_eq_nil_iff.2 (by simpa using hmore)
  have hlast : (Pass.ofStage .verify passes).Perm [Pass.verify] := by
    have hfilter := hpasses.filter (fun p : Pass => decide (p.stage = .verify))
    rw [List.filter_append] at hfilter
    have hstandard : Pass.ofStage .verify (Pass.standard registry) = [Pass.verify] := rfl
    rw [← hstandard, ← List.append_nil (Pass.ofStage .verify (Pass.standard registry)), ← hnone]
    exact hfilter
  obtain ⟨front, hfront⟩ := exists_front_verify passes
  exact ⟨front, by rw [hfront, List.perm_singleton.1 hlast]⟩

theorem residue?_of_run {registry : ReplacerRegistry} {passes more : List Pass}
    (hpasses : passes.Perm (Pass.standard registry ++ more))
    (hmore : ∀ p ∈ more, p.stage ≠ .verify) {c : RenderContext} {draft : Draft} {kept : σ}
    {s : Attended σ} (h : (empty.addPasses passes).run [] c ⟨draft, kept⟩ = (s, .ok ())) :
    residue? s.draft.text = none := by
  obtain ⟨front, hlast⟩ := exists_front_of_perm hpasses hmore
  obtain ⟨d, hverify⟩ := exists_run_last hlast h
  exact Pass.residue?_of_verify hverify

/-- **Nothing is left unresolved**: if a rendering by the standard passes and further ones of
earlier stages ends well, no line of the text is a directive or a marker, whichever way lines are
read. -/
theorem run_leaves_plain_lines {registry : ReplacerRegistry} {passes more : List Pass}
    (hpasses : passes.Perm (Pass.standard registry ++ more))
    (hmore : ∀ p ∈ more, p.stage ≠ .verify) {c : RenderContext} {draft : Draft} {kept : σ}
    {s : Attended σ} (h : (empty.addPasses passes).run [] c ⟨draft, kept⟩ = (s, .ok ())) :
    (∀ line ∈ physicalLines s.draft.text,
        Directive.parse? line = none ∧ Marker.parse? line = none) ∧
      ∀ line ∈ lines s.draft.text, Directive.parse? line = none ∧ Marker.parse? line = none := by
  have hplain := residue?_eq_none.1 (residue?_of_run hpasses hmore h)
  refine ⟨hplain, List.forall_mem_map.2 fun line hline => ?_⟩
  exact isPlain_content.2 (hplain line hline)

/-- A pass of the first stage, added before all others, puts a directive in front: it is carried
out like those of the template. -/
theorem run_leaves_plain_lines_heading :
    let heading := Pass.ofText "heading" "Put a line in front" .replace fun _ t =>
      .ok ("// mysql-insert: const a = 1\n".toList ++ t)
    let t : Template := .ofSource "cursor.ts" "// @start then\nexport {}\n// @end then\n"
    (∀ p ∈ [heading], p.stage ≠ .verify) ∧ ∃ s : Attended Unit,
      (empty.addPasses (heading :: Pass.standard .builtins)).run []
          ⟨t, Dialect.mysql.profile, Dialect.pg.profile, .standard⟩ ⟨.ofTemplate t, ()⟩ =
        (s, .ok ()) ∧
      ∀ line ∈ physicalLines s.draft.text,
        Directive.parse? line = none ∧ Marker.parse? line = none := by
  intro heading t
  have hstage : ∀ p ∈ [heading], p.stage ≠ .verify := by simp [heading, Pass.ofText]
  have hpasses : (heading :: Pass.standard .builtins).Perm (Pass.standard .builtins ++ [heading]) :=
    (List.perm_append_singleton heading _).symm
  obtain ⟨s, hrun⟩ : ∃ s : Attended Unit,
      (empty.addPasses (heading :: Pass.standard .builtins)).run []
        ⟨t, Dialect.mysql.profile, Dialect.pg.profile, .standard⟩ ⟨.ofTemplate t, ()⟩ =
      (s, .ok ()) := Action.exists_eq_ok (by decide +kernel)
  exact ⟨hstage, s, hrun, (run_leaves_plain_lines hpasses hstage hrun).1⟩

end Pipeline

namespace Generator

/-- No line of a variant's module is a directive or a marker. -/
theorem plain_of_mem_modules {g : Generator} {ts : List Template} {ds : List Dialect}
    {x : GeneratedModule} (h : x ∈ (g.render ts ds).modules)
    (hx : x.dialect ≠ g.manifest.reference) :
    ∀ line ∈ physicalLines x.content.toList, IsPlain line := by
  obtain ⟨-, t, -, content, remarks, hr, hc⟩ := g.exists_rendered_of_mem_modules h
  obtain ⟨s, hrun, rfl, -⟩ := g.exists_run_of_rendered hx hr
  rw [pipeline, Pipeline.standard_eq] at hrun
  have hpasses : (Pass.standard g.replacers).Perm (Pass.standard g.replacers ++ []) := by simp
  rw [hc, String.toList_ofList]
  exact residue?_eq_none.1 (Pipeline.residue?_of_run hpasses (by simp) hrun)

end Generator

end Multidialect
