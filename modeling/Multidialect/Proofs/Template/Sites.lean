import Multidialect.Proofs.Text.Characters
import Multidialect.Proofs.Text.Sites
import Multidialect.Template.Comparison
import Multidialect.Template.Generics
import Multidialect.Template.Vocabulary
import Multidialect.Replacer.Builtin

/-! # What the rules' sites cover

For each rule that changes a template, the text that its sites cover, in terms of what is found
there: the placeholder with its operator, two literals compared, the start of a parameter list, a
session annotation, an identifier, a word.
-/

namespace Multidialect

open Text

namespace Text

theorem stripStart?_eq_some {start t rest : Text} :
    stripStart? start t = some rest ↔ t = start ++ rest := isPrefixOf?_eq_some

theorem eq_append_of_comparison? {t op rest : Text} (h : comparison? t = some (op, rest)) :
    t = op ++ rest := by
  unfold comparison? at h
  split at h
  · obtain ⟨rfl, rfl⟩ := Prod.mk.inj (Option.some.inj h)
    rfl
  · obtain ⟨rfl, rfl⟩ := Prod.mk.inj (Option.some.inj h)
    rfl
  · cases h

theorem mem_blankSplits {ws rest : Text} (hws : ∀ c ∈ ws, isBlank c = true) :
    (ws, rest) ∈ blankSplits (ws ++ rest) := by
  induction ws with
  | nil =>
    cases rest with
    | nil => exact .head _
    | cons c rest =>
      rw [List.nil_append, blankSplits]
      split <;> simp
  | cons c ws ih =>
    rw [List.cons_append, blankSplits, if_pos (hws c (.head _))]
    exact List.mem_append_left _
      (List.mem_map.2 ⟨(ws, rest), ih fun d hd => hws d (.tail _ hd), rfl⟩)

theorem isBlank_of_mem_blankSplits {t ws rest : Text} (h : (ws, rest) ∈ blankSplits t) :
    ∀ c ∈ ws, isBlank c = true := by
  induction t generalizing ws with
  | nil =>
    obtain ⟨rfl, -⟩ := Prod.mk.inj (List.mem_singleton.1 h)
    simp
  | cons c cs ih =>
    rw [blankSplits] at h
    split at h
    · rename_i hc
      rcases List.mem_append.1 h with h | h
      · obtain ⟨⟨ws', rest'⟩, hm, he⟩ := List.mem_map.1 h
        obtain ⟨rfl, rfl⟩ := Prod.mk.inj he
        intro d hd
        rcases List.mem_cons.1 hd with rfl | hd
        · exact hc
        · exact ih hm d hd
      · obtain ⟨rfl, -⟩ := Prod.mk.inj (List.mem_singleton.1 h)
        simp
    · obtain ⟨rfl, -⟩ := Prod.mk.inj (List.mem_singleton.1 h)
      simp

theorem finds_wordSite (word : Text) : Finds (wordSite word) fun _ covered => covered = word := by
  intro before after a n h
  unfold wordSite at h
  split at h
  · rename_i hword
    obtain ⟨-, rfl⟩ := Prod.mk.inj (Option.some.inj h)
    obtain ⟨rest, rfl⟩ := List.isPrefixOf_iff_prefix.1 (Bool.and_eq_true_iff.1 hword).2
    exact List.take_left
  · cases h

end Text

/-! ## The placeholder -/

namespace Placeholder

theorem operand?_eq_some {name lead t : Text} {around : Text × Text} {n : Nat}
    (h : operand? name lead t = some (around, n)) :
    around.1 = lead ∧ ∃ rest, t = name ++ around.2 ++ rest ∧
      n = (lead ++ name ++ around.2).length := by
  unfold operand? at h
  obtain ⟨rest, hrest, h⟩ := Option.bind_eq_some_iff.1 h
  obtain ⟨⟨op, more⟩, hop, h⟩ := Option.bind_eq_some_iff.1 h
  obtain ⟨rfl, rfl⟩ := Prod.mk.inj (Option.some.inj h)
  have hsplit : rest = rest.takeWhile isBlank ++ (op ++ more) := by
    rw [← eq_append_of_comparison? hop, takeWhile_append_trimStart]
  refine ⟨rfl, more, ?_, by simp only [List.length_append]⟩
  rw [stripStart?_eq_some.1 hrest]
  simpa using hsplit

theorem finds_leftOperand (name : Text) :
    Finds (leftOperand name) fun around covered => covered = around.1 ++ name ++ around.2 := by
  intro before after around n h
  rcases Option.or_eq_some_iff.1 h with h | ⟨-, h⟩
  · split at h
    · obtain ⟨hlead, rest, rfl, rfl⟩ := operand?_eq_some h
      rw [hlead]
      exact List.take_left
    · cases h
  · split at h
    · rename_i c cs
      split at h
      · cases h
      · obtain ⟨hlead, rest, rfl, rfl⟩ := operand?_eq_some h
        rw [hlead]
        exact take_of_eq_append rest (by simp) rfl
    · cases h

theorem finds_rightOperand (name : Text) :
    Finds (rightOperand name) fun around covered => covered = around.1 ++ name ++ around.2 := by
  intro before after around n h
  obtain ⟨⟨op, rest⟩, hop, h⟩ := Option.bind_eq_some_iff.1 h
  obtain ⟨⟨ws, tail⟩, hws, h⟩ := List.exists_of_findSome?_eq_some h
  obtain ⟨more, hmore, h⟩ := Option.bind_eq_some_iff.1 h
  have hafter : after = op ++ ws ++ name ++ more := by
    rw [eq_append_of_comparison? hop, append_of_mem_blankSplits hws, stripStart?_eq_some.1 hmore]
    simp
  dsimp only at h
  split at h
  · obtain ⟨rfl, rfl⟩ := Prod.mk.inj (Option.some.inj h)
    exact take_of_eq_append [] (by simpa using hafter) (by simp; omega)
  · rename_i c more
    split at h
    · cases h
    · obtain ⟨rfl, rfl⟩ := Prod.mk.inj (Option.some.inj h)
      exact take_of_eq_append more (by simp [hafter]) (by simp; omega)

end Placeholder

/-! ## Comparisons -/

namespace Comparison

/-- The body of a literal ends at its quote. -/
theorem body?_eq_some {q : Char} {t body rest : Text} (h : body? q t = some (body, rest)) :
    t = body ++ q :: rest := by
  fun_induction body? q t generalizing body with
  | case1 => cases h
  | case2 cs =>
    obtain ⟨rfl, rfl⟩ := Prod.mk.inj (Option.some.inj h)
    rfl
  | case3 => cases h
  | case4 => cases h
  | case5 => cases h
  | case6 d ds hd hq hn ih =>
    obtain ⟨⟨more, rest'⟩, hmore, h⟩ := Option.map_eq_some_iff.1 h
    obtain ⟨rfl, rfl⟩ := Prod.mk.inj h
    rw [ih hmore]
    rfl
  | case7 c cs hq hn hb ih =>
    obtain ⟨⟨more, rest'⟩, hmore, h⟩ := Option.map_eq_some_iff.1 h
    obtain ⟨rfl, rfl⟩ := Prod.mk.inj h
    rw [ih hmore]
    rfl

theorem literal?_eq_some {t body rest : Text} (h : literal? t = some (body, rest)) :
    ∃ q, (q = '\'' ∨ q = '"') ∧ t = q :: body ++ q :: rest := by
  unfold literal? at h
  split at h
  · cases h
  · rename_i c cs
    split at h
    · rename_i hc
      exact ⟨c, hc, by rw [body?_eq_some h]; rfl⟩
    · cases h

/-- A comparison ends with the quote of its second literal. -/
theorem parse?_eq_some {t rest : Text} {c : Comparison} (h : parse? t = some (c, rest)) :
    ∃ front q, (q = '\'' ∨ q = '"') ∧ t = front ++ [q] ++ rest := by
  obtain ⟨⟨left, more⟩, hleft, h⟩ := Option.bind_eq_some_iff.1 h
  obtain ⟨⟨op, more'⟩, hop, h⟩ := Option.bind_eq_some_iff.1 h
  obtain ⟨⟨right, more''⟩, hright, h⟩ := Option.bind_eq_some_iff.1 h
  obtain ⟨rfl, rfl⟩ := Prod.mk.inj (Option.some.inj h)
  obtain ⟨p, -, ht⟩ := literal?_eq_some hleft
  obtain ⟨q, hq, hmore'⟩ := literal?_eq_some hright
  have hmore : more = more.takeWhile isBlank ++ (op ++ more') := by
    rw [← eq_append_of_comparison? hop, takeWhile_append_trimStart]
  have hrest : more' = more'.takeWhile isBlank ++ (q :: right ++ q :: more'') := by
    rw [← hmore', takeWhile_append_trimStart]
  refine ⟨p :: left ++ p :: more.takeWhile isBlank ++ op ++ more'.takeWhile isBlank ++ q :: right,
    q, hq, ?_⟩
  calc t = p :: left ++ p :: more := ht
    _ = p :: left ++ p :: (more.takeWhile isBlank ++ (op ++ more')) := by rw [← hmore]
    _ = p :: left ++ p :: (more.takeWhile isBlank ++
          (op ++ (more'.takeWhile isBlank ++ (q :: right ++ q :: more'')))) := by rw [← hrest]
    _ = _ := by simp

theorem finds_site :
    Finds site fun _ covered => ∃ front q, (q = '\'' ∨ q = '"') ∧ covered = front ++ [q] := by
  intro before after value n h
  obtain ⟨⟨c, rest⟩, hparse, h⟩ := Option.bind_eq_some_iff.1 h
  obtain ⟨-, rfl⟩ := Prod.mk.inj (Option.some.inj h)
  obtain ⟨front, q, hq, hafter⟩ := parse?_eq_some hparse
  exact ⟨front, q, hq, take_sub_of_eq_append hafter⟩

end Comparison

/-! ## Parameter lists -/

namespace Generics

theorem opening?_iff {name t blanks : Text} {n : Nat} :
    opening? name t = some (blanks, n) ↔
      n = (name ++ '<' :: blanks).length ∧ (∀ c ∈ blanks, isBlank c = true) ∧
        ∃ rest, rest.head?.any isBlank = false ∧ t = name ++ '<' :: blanks ++ rest := by
  constructor
  · intro h
    obtain ⟨rest, hrest, h⟩ := Option.bind_eq_some_iff.1 h
    split at h
    · rename_i rest
      obtain ⟨rfl, rfl⟩ := Prod.mk.inj (Option.some.inj h)
      refine ⟨by simp; omega, all_takeWhile, rest.dropWhile isBlank, head?_dropWhile, ?_⟩
      rw [stripStart?_eq_some.1 hrest]
      simp
    · cases h
  · rintro ⟨rfl, hblanks, rest, hrest, rfl⟩
    have hstrip : stripStart? name (name ++ '<' :: blanks ++ rest) = some ('<' :: (blanks ++ rest)) :=
      stripStart?_eq_some.2 (by simp)
    rw [opening?, hstrip]
    simp [(takeWhile_of_run hblanks hrest).1]
    omega

/-- The characters of a declaration, from its keyword on. -/
structure IsDeclaration (name t keyword ws blanks rest : Text) : Prop where
  declares : keyword ∈ keywords
  apart : ws ≠ []
  blank : ∀ c ∈ ws, isBlank c = true
  behind : ∀ c ∈ blanks, isBlank c = true
  ends : rest.head?.any isBlank = false
  split : t = keyword ++ (ws ++ (name ++ '<' :: (blanks ++ rest)))

theorem isDeclaration_of_declaration? {name t blanks : Text} {n : Nat}
    (h : declaration? name t = some (blanks, n)) :
    ∃ keyword ws rest, IsDeclaration name t keyword ws blanks rest ∧
      n = (keyword ++ ws ++ name ++ '<' :: blanks).length := by
  obtain ⟨keyword, hkeyword, h⟩ := List.exists_of_findSome?_eq_some h
  obtain ⟨rest, hrest, h⟩ := Option.bind_eq_some_iff.1 h
  obtain ⟨⟨ws, tail⟩, hws, h⟩ := List.exists_of_findSome?_eq_some h
  dsimp only at h
  split at h
  · cases h
  · rename_i hne
    obtain ⟨⟨blanks', n'⟩, hopening, h⟩ := Option.bind_eq_some_iff.1 h
    obtain ⟨rfl, rfl⟩ := Prod.mk.inj (Option.some.inj h)
    obtain ⟨rfl, hblanks, more, hmore, rfl⟩ := opening?_iff.1 hopening
    refine ⟨keyword, ws, more, ⟨hkeyword, hne, isBlank_of_mem_blankSplits hws, hblanks, hmore, ?_⟩,
      by simp only [List.length_append]; omega⟩
    rw [stripStart?_eq_some.1 hrest, append_of_mem_blankSplits hws]
    simp

/-- A site of the builder ends with `<` and the white space that was found. -/
theorem finds_builderSite (name : Text) :
    Finds (builderSite name) fun o covered => ∃ front, covered = front ++ '<' :: o.blanks := by
  intro before after o n h
  unfold builderSite at h
  split at h
  · rcases Option.or_eq_some_iff.1 h with h | ⟨-, h⟩
    · obtain ⟨⟨blanks, m⟩, hd, h⟩ := Option.map_eq_some_iff.1 h
      obtain ⟨rfl, rfl⟩ := Prod.mk.inj h
      obtain ⟨keyword, ws, rest, hdecl, rfl⟩ := isDeclaration_of_declaration? hd
      refine ⟨keyword ++ ws ++ name, ?_⟩
      rw [hdecl.split]
      exact take_of_eq_append rest (by simp) rfl
    · obtain ⟨⟨blanks, m⟩, ho, h⟩ := Option.map_eq_some_iff.1 h
      obtain ⟨rfl, rfl⟩ := Prod.mk.inj h
      obtain ⟨rfl, -, rest, -, rfl⟩ := opening?_iff.1 ho
      exact ⟨name, List.take_left⟩
  · cases h

theorem finds_querySite (name : Text) :
    Finds (querySite name) fun blanks covered => covered = name ++ '<' :: blanks := by
  intro before after blanks n h
  unfold querySite at h
  split at h
  · obtain ⟨rfl, -, rest, -, rfl⟩ := opening?_iff.1 h
    exact List.take_left
  · cases h

theorem injectQueries_fst (p : TypeParams) (queries : List String) (t : Text) :
    (injectQueries p queries t).1 =
      queries.foldl (fun t query => injectQuery query.toList p t) t := by
  induction queries generalizing t with
  | nil => rfl
  | cons query queries ih => exact ih _

end Generics

/-! ## Annotations and identifiers -/

/-- An annotation without type arguments covers the name, and ends with it. -/
theorem Session.finds_site (session : Text) :
    Finds (site session) fun hasArguments covered =>
      hasArguments = false → ∃ ws, covered = ':' :: ws ++ session := by
  intro before after hasArguments n h hbare
  unfold site at h
  split at h
  · rename_i rest
    obtain ⟨⟨ws, tail⟩, hws, h⟩ := List.exists_of_findSome?_eq_some h
    obtain ⟨more, hmore, h⟩ := Option.bind_eq_some_iff.1 h
    dsimp only at h
    split at h
    · split at h
      · obtain ⟨rfl, -⟩ := Prod.mk.inj (Option.some.inj h)
        cases hbare
      · obtain ⟨-, rfl⟩ := Prod.mk.inj (Option.some.inj h)
        refine ⟨ws, take_of_eq_append more ?_ (by simp)⟩
        rw [append_of_mem_blankSplits hws, stripStart?_eq_some.1 hmore]
        simp
    · cases h
  · cases h

namespace Vocabulary

theorem identifier?_eq_some {name lead lead' before t : Text} {n : Nat}
    (h : identifier? name lead before t = some (lead', n)) :
    lead' = lead ∧ n = (lead ++ name).length ∧ ∃ rest, t = name ++ rest := by
  obtain ⟨rest, hrest, h⟩ := Option.bind_eq_some_iff.1 h
  split at h
  · cases h
  · obtain ⟨rfl, rfl⟩ := Prod.mk.inj (Option.some.inj h)
    exact ⟨rfl, by simp, rest, stripStart?_eq_some.1 hrest⟩

theorem finds_identifierSite (name : Text) :
    Finds (identifierSite name) fun lead covered => covered = lead ++ name := by
  intro before after lead n h
  rcases Option.or_eq_some_iff.1 h with h | ⟨-, h⟩
  · split at h
    · obtain ⟨rfl, rfl, rest, rfl⟩ := identifier?_eq_some h
      exact List.take_left
    · cases h
  · split at h
    · split at h
      · cases h
      · obtain ⟨rfl, rfl, rest, rfl⟩ := identifier?_eq_some h
        exact take_of_eq_append rest (by simp) rfl
    · cases h

end Vocabulary

end Multidialect
