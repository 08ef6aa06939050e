import Multidialect.Proofs.Template.Annotations
import Multidialect.Proofs.Text.Rewording

/-! # The reference's words are gone

In the words of a built-in variant a text holds none of the reference's prefixes any more, neither
that of its modules nor that of its types. Each is exchanged wherever it is found
(`lacks_exchangeWord`); the prefixes of two dialects never start alike, so the second exchange brings
nothing back, and neither do the type arguments. All else is kept
(`Vocabulary.adapt_leaves_no_reference`).
-/

namespace Multidialect

open Text

namespace Profile

/-- What the names of a dialect's modules start with. -/
def moduleWord (p : Profile) : Text := p.modulePrefix.toList ++ ['-']

/-- What the names of a dialect's types start with. -/
def typeWord (p : Profile) : Text := p.typePrefix.toList

end Profile

/-! ## Type arguments -/

namespace Session

variable {session params : Text}

/-- What an annotation covers. If it has no type arguments, its name ends there. -/
theorem exists_of_site {before after : Text} {hasArguments : Bool} {n : Nat}
    (h : site session before after = some (hasArguments, n)) :
    ∃ covered rest, after = covered ++ rest ∧ covered ≠ [] ∧ n = covered.length ∧
      (hasArguments = false → atWordBoundary (covered.reverse ++ before) rest = true) := by
  obtain ⟨ws, rest, hsite, hfound⟩ := isAnnotation_of_site h
  rw [found] at hfound
  split at hfound
  · rename_i more hmore
    obtain ⟨ws', back, rfl, -, rfl⟩ := exists_of_argumentsStart? hmore
    obtain ⟨rfl, rfl⟩ := Prod.mk.inj hfound
    exact ⟨':' :: (ws ++ session) ++ (ws' ++ ['<']), back, by simp [hsite.split], by simp,
      (List.length_append ..).symm, by simp⟩
  · obtain ⟨rfl, rfl⟩ := Prod.mk.inj hfound
    exact ⟨':' :: (ws ++ session), rest, hsite.split, by simp, rfl, fun _ => hsite.bound⟩

/-- Adding type arguments to a text that had some put in before is rewording it. -/
theorem reworded_addParams (session : Text) {t u : Text}
    (h : Reworded [] (Nested (arguments params)) [] t u) :
    Reworded [] (Nested (arguments params)) [] t (addParams session params u) := by
  refine replaceSites_keeps_at (I := Reworded [] (Nested (arguments params)) [] t) ?_ ?_ ?_ h
  · intro before after hasArguments n hsite
    obtain ⟨covered, rest, rfl, hne, rfl, -⟩ := exists_of_site hsite
    rwa [List.take_left]
  · intro before after hasArguments n hsite
    obtain ⟨covered, rest, rfl, -, rfl, -⟩ := exists_of_site hsite
    simp
  · intro hasArguments covered before x y hsite hx
    cases hasArguments with
    | true => exact hx
    | false =>
      obtain ⟨covered', rest, hsplit, hne, hlength, hbound⟩ := exists_of_site hsite
      obtain ⟨rfl, rfl⟩ := List.append_inj hsplit hlength
      have hrev : covered.reverse ≠ [] := mt List.reverse_eq_nil_iff.1 hne
      have hplace : atWordBoundary ((x ++ covered).reverse ++ []) y = true := by
        have hfound := hbound rfl
        rw [atWordBoundary_iff, startsWord_append hrev] at hfound
        rwa [List.append_nil, List.reverse_append, atWordBoundary_iff, startsWord_append hrev]
      have hput := hx.insert ⟨params, rfl⟩ (.inl rfl) hplace
      simpa [arguments] using hput

end Session

namespace Vocabulary

/-- The type arguments of a dialect, perhaps with further ones within. -/
def IsArguments (p : Profile) (b : Text) : Prop :=
  ∃ params, p.sessionParams = some params ∧ Nested (Session.arguments params) b

theorem reworded_annotate (sessions : List String) (p : Profile) (t : Text) :
    Reworded [] (IsArguments p) [] t (annotate sessions p t) := by
  unfold annotate
  split
  · exact .refl [] t
  · rename_i params hparams
    have hput : Reworded [] (Nested (Session.arguments params)) [] t
        (sessions.foldl (fun t session => Session.addParams session.toList params t) t) :=
      List.foldlRecOn sessions _ (.refl [] t) fun _ h session _ =>
        Session.reworded_addParams session.toList h
    exact hput.mono (fun _ hm => hm) fun b hb => ⟨params, hparams, hb⟩

/-! ## Prefixes -/

/-- The prefixes of a dialect. -/
def words (p : Profile) : List Text := [p.moduleWord, p.typeWord]

/-- The exchanges of the reference's prefixes for those of a dialect. -/
def exchanges (reference p : Profile) : List (Text × Text) :=
  [(reference.moduleWord, p.moduleWord), (reference.typeWord, p.typeWord)]

theorem IsArguments.bracketed {p : Profile} {b : Text} (h : IsArguments p b) : Bracketed b := by
  obtain ⟨params, -, hb⟩ := h
  exact hb.bracketed ⟨params, rfl⟩

theorem mem_words_of_exchange {reference p : Profile} {rule : Text × Text}
    (h : rule ∈ exchanges reference p) : rule.1 ∈ words reference ∧ rule.2 ∈ words p := by
  rcases List.mem_cons.1 h with rfl | h
  · exact ⟨.head _, .head _⟩
  · obtain rfl := List.mem_singleton.1 h
    exact ⟨.tail _ (.head _), .tail _ (.head _)⟩

theorem isTerm_word {d : Dialect} {word : Text} (h : word ∈ words d.profile) : IsTerm word := by
  have hwords : ∀ word ∈ words d.profile, startsWord word = true ∧
      word.dropLast.all isWordChar = true ∧ '<' ∉ word ∧ '\n' ∉ word := by cases d <;> decide
  obtain ⟨hstarts, hinner, hopen, hfeed⟩ := hwords word h
  exact ⟨hstarts, List.all_eq_true.1 hinner, hopen, hfeed⟩

section Builtin

variable {r v : Dialect} (h : r ≠ v)
include h

/-- The prefixes of two dialects do not start alike. -/
theorem head?_word_ne {old new : Text} (hold : old ∈ words r.profile)
    (hnew : new ∈ words v.profile) : new.head? ≠ old.head? := by
  have hapart : ∀ old ∈ words r.profile, ∀ new ∈ words v.profile, new.head? ≠ old.head? := by
    cases r <;> cases v <;> first | exact absurd rfl h | decide
  exact hapart old hold new hnew

/-- The type arguments of a dialect hold no character that a prefix of another one starts with. -/
theorem head?_ne_of_isArguments {word b : Text} (hword : word ∈ words r.profile)
    (hb : IsArguments v.profile b) : ∀ c ∈ b, word.head? ≠ some c := by
  have hapart : ∀ params, v.profile.sessionParams = some params →
      ∀ word ∈ words r.profile, (Session.arguments params).all (word.head? != some ·) = true := by
    cases r <;> cases v <;> first | exact absurd rfl h | rintro _ ⟨⟩ <;> decide
  obtain ⟨params, hparams, hb⟩ := hb
  exact fun c hc => bne_iff_ne.1 (List.all_eq_true.1 (hapart params hparams word hword) c (hb.mem hc))

theorem isExchange_modules : IsExchange r.profile.moduleWord v.profile.moduleWord where
  heads := head?_word_ne h (.head _) (.head _)
  ends := by cases r <;> cases v <;> decide
  old := isTerm_word (.head _)
  new := isTerm_word (.head _)

theorem isExchange_types : IsExchange r.profile.typeWord v.profile.typeWord where
  heads := head?_word_ne h (.tail _ (.head _)) (.tail _ (.head _))
  ends := by cases r <;> cases v <;> decide
  old := isTerm_word (.tail _ (.head _))
  new := isTerm_word (.tail _ (.head _))

theorem isExchange_of_mem : ∀ rule ∈ exchanges r.profile v.profile, IsExchange rule.1 rule.2 :=
  List.forall_mem_cons.2 ⟨isExchange_modules h, List.forall_mem_singleton.2 (isExchange_types h)⟩

/-- Exchanging a prefix is one more rewording. -/
theorem reworded_exchangeWord {old new t u : Text}
    (hrule : (old, new) ∈ exchanges r.profile v.profile)
    (ht : Reworded (exchanges r.profile v.profile) (IsArguments v.profile) [] t u) :
    Reworded (exchanges r.profile v.profile) (IsArguments v.profile) [] t
      (exchangeWord old new u) := by
  have hword := mem_words_of_exchange hrule
  exact ht.exchangeWord (fun _ => IsArguments.bracketed) (isExchange_of_mem h) hrule
    (fun rule hr => head?_word_ne h hword.1 (mem_words_of_exchange hr).2)
    (fun _ hb => head?_ne_of_isArguments h hword.1 hb) (.inl rfl)

theorem exchangeModules_eq (t : Text) : exchangeModules r.profile v.profile t =
    exchangeWord r.profile.moduleWord v.profile.moduleWord t :=
  if_neg (by cases r <;> cases v <;> first | exact absurd rfl h | decide)

theorem exchangeTypes_eq (t : Text) : exchangeTypes r.profile v.profile t =
    exchangeWord r.profile.typeWord v.profile.typeWord t :=
  if_neg (by cases r <;> cases v <;> first | exact absurd rfl h | decide)

end Builtin

theorem rename_builtin (d : Dialect) (t : Text) : rename d.profile.renames t = t := by
  cases d <;> rfl

/-- In the words of a dialect a text is reworded. -/
theorem reworded_adapt (r v : Dialect) (sessions : List String) (t : Text) :
    Reworded (exchanges r.profile v.profile) (IsArguments v.profile) [] t
      (adapt sessions r.profile v.profile t) := by
  have hannotated : Reworded (exchanges r.profile v.profile) (IsArguments v.profile) [] t
      (annotate sessions v.profile t) :=
    (reworded_annotate sessions v.profile t).mono (by simp) fun _ hb => hb
  rw [adapt, rename_builtin]
  by_cases h : r = v
  · subst h
    simpa [exchangeTypes, exchangeModules] using hannotated
  · rw [exchangeTypes_eq h, exchangeModules_eq h]
    exact reworded_exchangeWord h (.tail _ (.head _)) (reworded_exchangeWord h (.head _) hannotated)

/-- **No word of the reference is left** in the words of another dialect: neither the prefix of its
modules, with the hyphen, nor that of its types stands where a word starts or ends. What has been
changed is that such prefixes were exchanged and that type arguments were put in; every other
character is as it was. -/
theorem adapt_leaves_no_reference {r v : Dialect} (h : r ≠ v) (sessions : List String) (t : Text) :
    Lacks r.profile.moduleWord [] (adapt sessions r.profile v.profile t) ∧
    Lacks r.profile.typeWord [] (adapt sessions r.profile v.profile t) ∧
    Reworded (exchanges r.profile v.profile) (IsArguments v.profile) [] t
      (adapt sessions r.profile v.profile t) := by
  have hmodules := isExchange_modules h
  have htypes := isExchange_types h
  have hhead := head?_word_ne h (.head _) (.tail _ (.head _))
  refine ⟨?_, ?_, reworded_adapt r v sessions t⟩
  · rw [adapt, exchangeTypes_eq h, exchangeModules_eq h]
    exact lacks_exchangeWord htypes hmodules.old hhead
      (.inr (lacks_exchangeWord hmodules hmodules.old hmodules.heads (.inl rfl)))
  · rw [adapt, exchangeTypes_eq h]
    exact lacks_exchangeWord htypes htypes.old htypes.heads (.inl rfl)

/-- From the reference to a dialect with type arguments; words that merely hold a prefix stay. -/
theorem adapt_leaves_no_reference_sqlite :
    let t : Text := "import 'pg-core/Pg-pg-apg-'; (s: PgSession) => PgPg, _Pg".toList
    let s := adapt ["PgSession"] Dialect.pg.profile Dialect.sqlite.profile t
    Dialect.pg ≠ .sqlite ∧
      s = ("import 'sqlite-core/SQLite-sqlite-apg-'; " ++
        "(s: SQLiteSession<'sync' | 'async', any>) => SQLitePg, _Pg").toList ∧
      Lacks "pg-".toList [] s ∧ Lacks "Pg".toList [] s := by
  intro t s
  have hne : Dialect.pg ≠ .sqlite := by decide
  have hlacks := adapt_leaves_no_reference hne ["PgSession"] t
  exact ⟨hne, by decide +kernel, hlacks.1, hlacks.2.1⟩

end Vocabulary

end Multidialect
