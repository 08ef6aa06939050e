import Multidialect.Files.Access
import Multidialect.Proofs.Outcome
import Multidialect.Proofs.Path.Route

/-! # What an operation changes

A `Change` of a tree keeps all that does not stand inside some locations, but for directories that
are made on the way there. Each operation is a change with its own bounds: removing a directory
changes what is below it (`change_clear`), making a directory adds what its path passes
(`change_createDirs`), and putting a file does this for the file's directory and then changes the
file (`change_putBytes`). All of them keep a tree well-formed.
-/

namespace Multidialect

open Path (IsName Component)

/-- The locations that a path passes on its way from `base`, the end included. -/
def Path.Passes (p : Path) (base l : Location) : Prop :=
  ∃ front, front <+: p.steps ∧ front.foldl FileTree.step base = l

namespace FileTree

/-- Every location is there once, consists of names, and stands in a directory. -/
structure WellFormed (t : FileTree) : Prop where
  distinct : (t.entries.map Prod.fst).Nodup
  names : ∀ entry ∈ t.entries, ∀ n ∈ entry.1, IsName n
  parent : ∀ entry ∈ t.entries, entry.1 ≠ [] → t.get? entry.1.dropLast = some .directory

instance (t : FileTree) : Decidable t.WellFormed :=
  decidable_of_iff
    ((t.entries.map Prod.fst).Nodup ∧ (∀ entry ∈ t.entries, ∀ n ∈ entry.1, IsName n) ∧
      ∀ entry ∈ t.entries, entry.1 ≠ [] → t.get? entry.1.dropLast = some .directory)
    ⟨fun h => ⟨h.1, h.2.1, h.2.2⟩, fun h => ⟨h.1, h.2, h.3⟩⟩

/-- A change keeps what is not `inside`; only directories that are missing `onWay` are made. -/
structure Change (inside onWay : Location → Prop) (t t' : FileTree) : Prop where
  wellFormed : t'.WellFormed
  current : t'.current = t.current
  get? : ∀ l, ¬ inside l →
    t'.get? l = t.get? l ∨ onWay l ∧ t.get? l = none ∧ t'.get? l = some .directory

variable {inside onWay : Location → Prop} {t t' t'' : FileTree}

/-! ## Changes one after another -/

theorem Change.refl (ht : t.WellFormed) : Change inside onWay t t :=
  ⟨ht, rfl, fun _ _ => .inl rfl⟩

theorem Change.trans (h : Change inside onWay t t') (h' : Change inside onWay t' t'') :
    Change inside onWay t t'' := by
  refine ⟨h'.wellFormed, h'.current.trans h.current, fun l hl => ?_⟩
  rcases h.get? l hl with he | ⟨hw, hn, hd⟩
  · rw [← he]
    exact h'.get? l hl
  · rcases h'.get? l hl with he' | ⟨-, hn', -⟩
    · exact .inr ⟨hw, hn, he'.trans hd⟩
    · rw [hd] at hn'
      cases hn'

theorem Change.mono {inside' onWay' : Location → Prop} (h : Change inside onWay t t')
    (hin : ∀ l, inside l → inside' l) (hway : ∀ l, onWay l → inside' l ∨ onWay' l) :
    Change inside' onWay' t t' := by
  refine ⟨h.wellFormed, h.current, fun l hl => ?_⟩
  rcases h.get? l fun hi => hl (hin l hi) with he | ⟨hw, hn, hd⟩
  · exact .inl he
  · exact .inr ⟨(hway l hw).resolve_left hl, hn, hd⟩

/-- A file outside stays what it is. -/
theorem Change.get?_file (h : Change inside onWay t t') {l : Location} {content : ByteArray}
    (hl : ¬ inside l) (hf : t.get? l = some (.file content)) :
    t'.get? l = some (.file content) := by
  rcases h.get? l hl with he | ⟨-, hn, -⟩
  · exact he.trans hf
  · rw [hf] at hn
    cases hn

/-! ## Entries -/

theorem mem_of_get? {l : Location} {e : FileEntry} (h : t.get? l = some e) :
    (l, e) ∈ t.entries := by
  obtain ⟨_, _, he, -⟩ := List.lookup_eq_some_iff.1 h
  simp [he]

theorem WellFormed.names_of_get? (ht : t.WellFormed) {l : Location} {e : FileEntry}
    (h : t.get? l = some e) : ∀ n ∈ l, IsName n := ht.names _ (mem_of_get? h)

/-- What is above a directory is a directory. -/
theorem WellFormed.parent_of_get? (ht : t.WellFormed) {l : Location}
    (h : t.get? l = some .directory) : t.get? l.dropLast = some .directory := by
  by_cases hl : l = []
  · subst hl
    exact h
  · exact ht.parent _ (mem_of_get? h) hl

theorem mem_setEntry {l : Location} {e : FileEntry} {es : List (Location × FileEntry)}
    {entry : Location × FileEntry} (h : entry ∈ set.setEntry l e es) :
    entry = (l, e) ∨ entry ∈ es := by
  induction es with
  | nil => exact .inl (List.mem_singleton.1 h)
  | cons x es ih =>
    obtain ⟨k, old⟩ := x
    simp only [set.setEntry] at h
    split at h
    · rcases List.mem_cons.1 h with h | h
      · exact .inl h
      · exact .inr (.tail _ h)
    · rcases List.mem_cons.1 h with h | h
      · exact .inr (h ▸ .head _)
      · exact (ih h).imp_right (.tail _)

theorem nodup_setEntry {l : Location} {e : FileEntry} {es : List (Location × FileEntry)}
    (h : (es.map Prod.fst).Nodup) : ((set.setEntry l e es).map Prod.fst).Nodup := by
  induction es with
  | nil => simp [set.setEntry]
  | cons x es ih =>
    obtain ⟨k, old⟩ := x
    rw [List.map_cons, List.nodup_cons] at h
    simp only [set.setEntry]
    split
    · rename_i hk
      rw [List.map_cons, List.nodup_cons]
      exact ⟨hk ▸ h.1, h.2⟩
    · rename_i hk
      rw [List.map_cons, List.nodup_cons]
      refine ⟨fun hm => ?_, ih h.2⟩
      obtain ⟨entry, hm, he⟩ := List.mem_map.1 hm
      rcases mem_setEntry hm with rfl | hm
      · exact hk he.symm
      · exact h.1 (he ▸ List.mem_map_of_mem hm)

/-- An entry in place of no directory leaves a tree well-formed. -/
theorem WellFormed.set (ht : t.WellFormed) {l : Location} {e : FileEntry}
    (hl : t.get? l ≠ some .directory) (hn : ∀ n ∈ l, IsName n)
    (hp : l ≠ [] → t.get? l.dropLast = some .directory) : (t.set l e).WellFormed := by
  have hdir : ∀ k, t.get? k = some .directory → (t.set l e).get? k = some .directory := by
    intro k hk
    rw [get?_set, if_neg fun h : k = l => hl (h ▸ hk)]
    exact hk
  refine ⟨nodup_setEntry ht.distinct, fun entry hm => ?_, fun entry hm hne => ?_⟩
  · rcases mem_setEntry hm with rfl | hm
    · exact hn
    · exact ht.names _ hm
  · rcases mem_setEntry hm with rfl | hm
    · exact hdir _ (hp hne)
    · exact hdir _ (ht.parent _ hm hne)

theorem lookup_filter {k : Location} (f : Location → Bool) (es : List (Location × FileEntry)) :
    (es.filter fun entry => f entry.1).lookup k = if f k then es.lookup k else none := by
  induction es with
  | nil => simp
  | cons x es ih =>
    obtain ⟨k', e⟩ := x
    by_cases hk : k = k'
    · subst hk
      cases hf : f k <;> simp [hf, ih]
    · cases hf : f k' <;>
        simp [hf, ih, List.lookup_cons, beq_eq_false_iff_ne.2 hk]

/-- **What a removal does to a tree**: what is at or below the location is gone, nothing else. -/
theorem get?_removeBelow (t : FileTree) (l k : Location) :
    (t.removeBelow l).get? k = if l <+: k then none else t.get? k := by
  rw [FileTree.get?, removeBelow, lookup_filter fun k => !l.isPrefixOf k]
  by_cases h : l <+: k
  · simp [h, List.isPrefixOf_iff_prefix.2 h]
  · have : l.isPrefixOf k = false := by simpa [← List.isPrefixOf_iff_prefix] using h
    simp [h, this, FileTree.get?]

theorem WellFormed.removeBelow (ht : t.WellFormed) (l : Location) :
    (t.removeBelow l).WellFormed := by
  refine ⟨(List.filter_sublist.map _).nodup ht.distinct, fun entry hm => ?_, fun entry hm hne => ?_⟩
  · exact ht.names _ (List.mem_filter.1 hm).1
  · obtain ⟨hm, hk⟩ := List.mem_filter.1 hm
    have hk : ¬ l <+: entry.1 := by simpa [← List.isPrefixOf_iff_prefix] using hk
    rw [get?_removeBelow, if_neg fun h => hk (h.trans (List.dropLast_prefix _))]
    exact ht.parent _ hm hne

/-! ## Finding the way -/

theorem walk_eq {cs : List Component} {l l' : Location} (h : t.walk l cs = .ok l') :
    l' = cs.foldl step l := by
  induction cs generalizing l with
  | nil => exact (Except.ok.inj h).symm
  | cons c cs ih =>
    simp only [walk] at h
    split at h
    · exact ih h
    · cases h
    · cases h

/-- The last component is looked up in a directory. -/
theorem walk_concat {cs : List Component} {c : Component} {l l' : Location}
    (h : t.walk l (cs ++ [c]) = .ok l') :
    t.get? (cs.foldl step l) = some .directory ∧ l' = step (cs.foldl step l) c := by
  refine ⟨?_, by simpa using walk_eq h⟩
  induction cs generalizing l with
  | nil =>
    simp only [List.nil_append, walk] at h
    split at h
    · assumption
    · cases h
    · cases h
  | cons x cs ih =>
    simp only [List.cons_append, walk] at h
    split at h
    · exact ih h
    · cases h
    · cases h

/-- A place that one component leads to from a directory consists of names and is in a directory. -/
theorem WellFormed.step (ht : t.WellFormed) {l : Location} (hl : t.get? l = some .directory)
    {c : Component} (hc : ∀ s, c = .name s → IsName s) :
    (∀ n ∈ FileTree.step l c, IsName n) ∧
      (FileTree.step l c ≠ [] → t.get? (FileTree.step l c).dropLast = some .directory) := by
  have hn := ht.names_of_get? hl
  cases c with
  | root => exact ⟨by simp [FileTree.step], fun h => absurd rfl h⟩
  | here => exact ⟨hn, fun _ => ht.parent_of_get? hl⟩
  | up =>
    exact ⟨fun n hm => hn n (List.dropLast_subset _ hm),
      fun _ => ht.parent_of_get? (ht.parent_of_get? hl)⟩
  | name s =>
    refine ⟨fun n hm => ?_, fun _ => by simpa [FileTree.step] using hl⟩
    rcases List.mem_append.1 hm with hm | hm
    · exact hn n hm
    · exact List.mem_singleton.1 hm ▸ hc s rfl

theorem foldl_components (p : Path) (base : Location) :
    p.components.foldl step base = p.resolve base := by
  rcases Path.components_eq p with h | h <;> rw [h] <;> rfl

theorem isName_of_mem_components {p : Path} {s : String} (h : .name s ∈ p.components) :
    IsName s := by
  refine Path.isName_of_mem_steps (p := p) ?_
  rcases Path.components_eq p with he | he
  · exact he ▸ h
  · rw [he] at h
    simpa using h

theorem locate_eq_ok {p : Path} {l : Location} (h : t.locate p = .ok l) :
    l = p.resolve t.current ∧ t.walk t.current p.components = .ok l := by
  unfold locate at h
  split at h
  · cases h
  · exact ⟨(walk_eq h).trans (foldl_components p _), h⟩

theorem entry_eq_ok {p : Path} {l : Location} {e : FileEntry} (h : t.entry p = .ok (l, e)) :
    l = p.resolve t.current ∧ t.get? l = some e := by
  obtain ⟨k, hk, h⟩ := bind_eq_ok.1 h
  split at h
  · rename_i hd
    obtain ⟨rfl, rfl⟩ := Prod.mk.inj (Except.ok.inj h)
    exact ⟨(locate_eq_ok hk).1, hd⟩
  · rename_i hf
    split at h
    · cases h
    · obtain ⟨rfl, rfl⟩ := Prod.mk.inj (Except.ok.inj h)
      exact ⟨(locate_eq_ok hk).1, hf⟩
  · cases h

/-! ## The operations -/

/-- Making one directory changes nothing but the place that its path leads to. -/
theorem change_createDirAt (ht : t.WellFormed) {cs : List Component} {c : Component}
    (hcs : ∀ s, .name s ∈ cs ++ [c] → IsName s) (h : t.createDirAt (cs ++ [c]) = .ok t') :
    Change (fun _ => False) (· = (cs ++ [c]).foldl step t.current) t t' := by
  obtain ⟨l, hw, h⟩ := bind_eq_ok.1 h
  obtain ⟨hdir, hl⟩ := walk_concat hw
  split at h
  · cases h
  · rename_i hnone
    obtain rfl := Except.ok.inj h
    obtain ⟨hn, hp⟩ := ht.step hdir (c := c) fun s hs => hcs s (by simp [hs])
    rw [← hl] at hn hp
    refine ⟨ht.set (by simp [hnone]) hn hp, rfl, fun k _ => ?_⟩
    rw [get?_set]
    split
    · rename_i hk
      subst hk
      exact .inr ⟨by simp [hl], hnone, rfl⟩
    · exact .inl rfl

theorem change_createDirsAt (ht : t.WellFormed) {cs : List Component}
    (hcs : ∀ s, .name s ∈ cs → IsName s) :
    Change (fun _ => False) (fun l => ∃ front, front <+: cs.reverse ∧ front.foldl step t.current = l)
      t (t.createDirsAt cs).1 := by
  induction cs generalizing t with
  | nil => exact .refl ht
  | cons c rest ih =>
    have hcs' : ∀ s, .name s ∈ rest.reverse ++ [c] → IsName s := fun s hs => hcs s (by
      rw [List.mem_cons]
      simpa [or_comm] using hs)
    -- the place itself, reached by all components
    have hone : ∀ {t t' : FileTree}, t.WellFormed → t.createDirAt (c :: rest).reverse = .ok t' →
        Change (fun _ => False)
          (fun l => ∃ front, front <+: (c :: rest).reverse ∧ front.foldl step t.current = l)
          t t' := by
      intro t t' ht h
      rw [List.reverse_cons] at h ⊢
      refine (change_createDirAt ht hcs' h).mono (fun _ hf => hf) fun l hl => .inr ?_
      exact ⟨_, List.prefix_rfl, hl.symm⟩
    have hway : Change (fun _ => False)
        (fun l => ∃ front, front <+: (c :: rest).reverse ∧ front.foldl step t.current = l)
        t (t.createDirsAt rest).1 :=
      (ih ht fun s hs => hcs s (.tail _ hs)).mono (fun _ hf => hf) fun l ⟨front, hf, hl⟩ => .inr
        ⟨front, hf.trans (by rw [List.reverse_cons]; exact List.prefix_append _ _), hl⟩
    unfold createDirsAt
    simp only
    split
    · rename_i h
      exact hone ht h
    · split
      · rename_i h
        rw [h] at hway
        exact hway
      · rename_i h
        rw [h] at hway
        split
        · rename_i h'
          have := hone hway.wellFormed h'
          rw [hway.current] at this
          exact hway.trans this
        · exact hway
    · exact .refl ht

/-- **Making a directory** adds missing directories that its path passes. -/
theorem change_createDirs (ht : t.WellFormed) (p : Path) :
    Change (fun _ => False) (p.Passes t.current) t (t.createDirs p).1 := by
  refine (change_createDirsAt ht fun s hs =>
    isName_of_mem_components (List.mem_reverse.1 hs)).mono (fun _ hf => hf) fun l hl => .inr ?_
  obtain ⟨front, hf, rfl⟩ := hl
  rw [List.reverse_reverse] at hf
  rcases Path.components_eq p with he | he
  · exact ⟨front, he ▸ hf, rfl⟩
  · -- the `.` in front is no step
    rw [he] at hf
    rcases List.prefix_cons_iff.1 hf with rfl | ⟨rest, rfl, hr⟩
    · exact ⟨[], List.nil_prefix, rfl⟩
    · exact ⟨rest, hr, rfl⟩

theorem components_concat {p : Path} {cs : List Component} {c : Component}
    (h : p.steps = cs ++ [c]) :
    ∃ cs', p.components = cs' ++ [c] ∧ ∀ base : Location, cs'.foldl step base = cs.foldl step base := by
  rcases Path.components_eq p with he | he
  · exact ⟨cs, by rw [he, h], fun _ => rfl⟩
  · exact ⟨.here :: cs, by rw [he, h]; rfl, fun _ => rfl⟩

/-- What a write does: no directory is there, and then the file is. -/
theorem write_eq_ok {p : Path} {content : ByteArray} (h : t.write p content = .ok t') :
    t.locate p = .ok (p.resolve t.current) ∧ t.get? (p.resolve t.current) ≠ some .directory ∧
      t' = t.set (p.resolve t.current) (.file content) := by
  obtain ⟨l, hl, h⟩ := bind_eq_ok.1 h
  obtain rfl := (locate_eq_ok hl).1
  refine ⟨hl, ?_⟩
  split at h
  · cases h
  · rename_i hf
    split at h
    · cases h
    · exact ⟨by simp [hf], (Except.ok.inj h).symm⟩
  · rename_i hn
    split at h
    · cases h
    · split at h
      · cases h
      · exact ⟨by simp [hn], (Except.ok.inj h).symm⟩

/-- A write changes the file and nothing else, and its path does not end in `..`. -/
theorem change_write (ht : t.WellFormed) {p : Path} {cs : List Component} {c : Component}
    (hp : p.steps = cs ++ [c]) {content : ByteArray} (h : t.write p content = .ok t') :
    c ≠ .up ∧ Change (· = p.resolve t.current) (fun _ => False) t t' := by
  obtain ⟨hloc, hnd, rfl⟩ := write_eq_ok h
  obtain ⟨cs', hcs, hfold⟩ := components_concat hp
  have hw := (locate_eq_ok hloc).2
  rw [hcs] at hw
  obtain ⟨hdir, hl⟩ := walk_concat hw
  rw [hfold] at hdir hl
  obtain ⟨hn, hpar⟩ := ht.step hdir (c := c) fun s hs =>
    Path.isName_of_mem_steps (p := p) (by simp [hp, hs])
  rw [← hl] at hn hpar
  refine ⟨?_, ht.set hnd hn hpar, rfl, fun k hk => .inl (by rw [get?_set, if_neg hk])⟩
  rintro rfl
  rw [hl] at hnd
  exact hnd (ht.parent_of_get? hdir)

theorem change_writeBytes (ht : t.WellFormed) {p : Path} {cs : List Component} {c : Component}
    (hp : p.steps = cs ++ [c]) (content : ByteArray)
    (hend : c ≠ .up → inside (p.resolve t.current)) :
    Change inside onWay t (t.writeBytes p content).1 := by
  unfold writeBytes
  cases hw : t.write p content with
  | error e => exact .refl ht
  | ok t' =>
    obtain ⟨hup, hchange⟩ := change_write ht hp hw
    exact hchange.mono (fun l hl => hl ▸ hend hup) fun _ hf => hf.elim

/-- **Putting a file** makes directories on the way to it and changes the file, if its path does not
end in `..`. -/
theorem change_putBytes (ht : t.WellFormed) {p : Path} {cs : List Component} {c : Component}
    (hp : p.steps = cs ++ [c]) (content : ByteArray)
    (hway : ∀ front, front <+: cs →
      inside (front.foldl step t.current) ∨ onWay (front.foldl step t.current))
    (hend : c ≠ .up → inside (p.resolve t.current)) :
    Change inside onWay t (t.putBytes p content).1 := by
  unfold putBytes
  cases hpar : p.parent? with
  | none => exact change_writeBytes ht hp content hend
  | some parent =>
    have hsteps := Path.steps_parent? hpar
    rw [hp, List.dropLast_concat] at hsteps
    have hdirs : Change inside onWay t (t.createDirs parent).1 := by
      refine (change_createDirs ht parent).mono (fun _ hf => hf.elim) fun l hl => ?_
      obtain ⟨front, hf, hl⟩ := hl
      exact hl ▸ hway front (hsteps ▸ hf)
    simp only
    cases hr : (t.createDirs parent).2 with
    | error e => exact hdirs
    | ok u =>
      exact hdirs.trans (change_writeBytes hdirs.wellFormed hp content (hdirs.current ▸ hend))

/-- Putting a file changes no file but this one. -/
theorem change_putBytes_only (ht : t.WellFormed) {p : Path} (hp : p.steps ≠ []) (content : ByteArray) :
    Change (· = p.resolve t.current) (fun _ => True) t (t.putBytes p content).1 := by
  rcases List.eq_nil_or_concat p.steps with hs | ⟨cs, c, hs⟩
  · exact absurd hs hp
  · exact change_putBytes ht (hs.trans (List.concat_eq_append ..)) content
      (fun _ _ => .inr trivial) fun _ => rfl

theorem get?_writeBytes {p : Path} {content : ByteArray}
    (h : t.writeBytes p content = (t', .ok ())) :
    t'.get? (p.resolve t.current) = some (.file content) := by
  unfold writeBytes at h
  cases hw : FileFault.during .write p (t.write p content) with
  | error e => simp [hw] at h
  | ok t₂ =>
    obtain rfl : t₂ = t' := by simpa [hw] using h
    obtain ⟨-, -, rfl⟩ := write_eq_ok (mapError_eq_ok.1 hw)
    rw [get?_set, if_pos rfl]

/-- A file that is put is there. -/
theorem get?_putBytes (ht : t.WellFormed) {p : Path} {content : ByteArray}
    (h : t.putBytes p content = (t', .ok ())) :
    t'.get? (p.resolve t.current) = some (.file content) := by
  unfold putBytes at h
  cases hpar : p.parent? with
  | none =>
    simp only [hpar] at h
    exact get?_writeBytes h
  | some parent =>
    have hdirs := change_createDirs ht parent
    simp only [hpar] at h
    cases hr : t.createDirs parent with
    | mk t₁ r =>
      rw [hr] at h hdirs
      cases r with
      | error e => simp [FileFault.during, Except.mapError] at h
      | ok u => exact hdirs.current ▸ get?_writeBytes h

/-- A file stays a file when another one is put, also in its place. -/
theorem isFile_putBytes (ht : t.WellFormed) {p : Path} (hp : p.steps ≠ []) {content : ByteArray}
    (h : t.putBytes p content = (t', .ok ())) {l : Location}
    (hl : ∃ old, t.get? l = some (.file old)) : ∃ new, t'.get? l = some (.file new) := by
  obtain ⟨old, hold⟩ := hl
  by_cases he : l = p.resolve t.current
  · exact ⟨content, he ▸ get?_putBytes ht h⟩
  · have hchange := change_putBytes_only ht hp content
    rw [h] at hchange
    exact ⟨old, hchange.get?_file he hold⟩

/-- What clearing does: there was nothing, or the directory that was there is removed. -/
theorem clear_eq_ok {p : Path} {gone : Bool} (h : t.clear p = .ok (t', gone)) :
    gone = false ∧ t' = t ∨
      gone = true ∧ t.get? (p.resolve t.current) = some .directory ∧
        t' = t.removeBelow (p.resolve t.current) := by
  unfold clear at h
  split at h
  · obtain ⟨t'', hr, he⟩ := map_eq_ok.1 h
    obtain ⟨rfl, rfl⟩ := Prod.mk.inj he
    obtain ⟨⟨l, e⟩, hentry, hr⟩ := bind_eq_ok.1 (mapError_eq_ok.1 hr)
    obtain ⟨rfl, hd⟩ := entry_eq_ok hentry
    cases e with
    | file content => cases hr
    | directory => exact .inr ⟨rfl, hd, (Except.ok.inj hr).symm⟩
  · obtain ⟨rfl, rfl⟩ := Prod.mk.inj (Except.ok.inj h)
    exact .inl ⟨rfl, rfl⟩

/-- **Removing a directory** changes only what is at and below it, and it is a directory. -/
theorem change_clear (ht : t.WellFormed) {p : Path} {gone : Bool} (h : t.clear p = .ok (t', gone)) :
    Change (fun l => p.resolve t.current <+: l ∧ t.get? (p.resolve t.current) = some .directory)
      (fun _ => False) t t' := by
  rcases clear_eq_ok h with ⟨-, rfl⟩ | ⟨-, hd, rfl⟩
  · exact .refl ht
  · refine ⟨ht.removeBelow _, rfl, fun k hk => .inl ?_⟩
    rw [get?_removeBelow, if_neg fun hpre => hk ⟨hpre, hd⟩]

/-- What a directory that is cleared held is gone. -/
theorem get?_clear {p : Path} (h : t.clear p = .ok (t', true)) {l : Location}
    (hl : p.resolve t.current <+: l) : t'.get? l = none := by
  rcases clear_eq_ok h with ⟨hf, -⟩ | ⟨-, -, rfl⟩
  · cases hf
  · rw [get?_removeBelow, if_pos hl]

/-- Clearing brings nothing back. -/
theorem get?_clear_none {p : Path} {gone : Bool} (h : t.clear p = .ok (t', gone)) {l : Location}
    (hl : t.get? l = none) : t'.get? l = none := by
  rcases clear_eq_ok h with ⟨-, rfl⟩ | ⟨-, -, rfl⟩
  · exact hl
  · rw [get?_removeBelow, hl]
    split <;> rfl

end FileTree

end Multidialect
