import Multidialect.Proofs.Template.Directives
import Multidialect.Template.Region

/-! # What directives and markers look like

A line is a directive or a marker for what stands on it between white space: two slashes, white space
or none, and then a word. The word of a directive has a tag in front of it, and as no tag holds a hyphen
it is cut where the word stands (`insertion?_iff`, `removal?_iff`); the word of a marker has a key behind
it, which white space parts from it (`ofComment?_iff`). So both readers find what is written, whatever
else the line holds, no line is read by both of them, and what a line says can be written in no other way
(`parse_spelled`).
-/

namespace Multidialect

open Text

/-! ## Lines that say something -/

/-- Between white space the line consists of two slashes, white space or none, and what it says. -/
def Says (line said : Text) : Prop :=
  ∃ ws, (∀ c ∈ ws, isBlank c = true) ∧ trim line = "//".toList ++ ws ++ said

/-- A line that puts `code` in for a dialect: a tag, the word, and the code with white space around
it. -/
def IsInsertion (line tag code : Text) : Prop :=
  (∀ c ∈ tag, isTagChar c = true) ∧
    ∃ text, Says line (tag ++ "-insert:".toList ++ text) ∧ trim text = code

/-- A line that takes the next one out for a dialect: a tag and the word. -/
def IsRemoval (line tag : Text) : Prop :=
  (∀ c ∈ tag, isTagChar c = true) ∧ Says line (tag ++ "-remove-next-line".toList)

/-- A line with the word of a marker, white space and a key. -/
def IsMarked (word : String) (line : Text) (key : String) : Prop :=
  key ≠ "" ∧ (∀ c ∈ key.toList, isTagChar c = true) ∧
    ∃ ws, ws ≠ [] ∧ (∀ c ∈ ws, isBlank c = true) ∧ Says line (word.toList ++ ws ++ key.toList)

theorem not_isBlank_of_isTagChar {c : Char} (h : isTagChar c = true) : isBlank c = false := by
  have hname : isNameChar c = true := by
    rw [isNameChar, show (isAlphanumeric c || c == '_') = isTagChar c from rfl, h, Bool.true_or]
  refine Bool.eq_false_iff.2 fun hblank => ?_
  rw [not_isNameChar_of_isBlank hblank] at hname
  cases hname

theorem notMem_of_tag {tag : Text} {c : Char} (h : ∀ c ∈ tag, isTagChar c = true)
    (hc : isTagChar c = false) : c ∉ tag := fun hm => by
  rw [h c hm] at hc
  cases hc

/-- A comment is what the line says, from where it is no white space on. -/
theorem comment?_iff {line said : Text} (h : said.head?.any isBlank = false) :
    comment? line = some said ↔ Says line said := by
  rw [comment?, Option.map_eq_some_iff]
  simp only [stripStart?_eq_some]
  constructor
  · rintro ⟨more, hmore, rfl⟩
    refine ⟨more.takeWhile isBlank, all_takeWhile, ?_⟩
    rw [hmore, List.append_assoc, takeWhile_append_trimStart]
    rfl
  · rintro ⟨ws, hws, hsaid⟩
    exact ⟨ws ++ said, by rw [hsaid, List.append_assoc]; rfl, trimStart_of_run hws h⟩

theorem head?_comment? {line said : Text} (h : comment? line = some said) :
    said.head?.any isBlank = false := by
  obtain ⟨more, -, rfl⟩ := Option.map_eq_some_iff.1 h
  exact head?_dropWhile

/-- A line's comment ends where the line does, with a character that is no white space. -/
theorem isBlank_last_comment? {line said : Text} {c : Char} (h : comment? line = some (said ++ [c])) :
    isBlank c = false := by
  obtain ⟨front, hfront⟩ := comment?_eq_some h
  rw [← List.append_assoc] at hfront
  exact isBlank_last_trim hfront

/-! ## Directives -/

namespace Directive

theorem isTag_iff {tag : Text} : isTag tag = true ↔ ∀ c ∈ tag, isTagChar c = true := List.all_eq_true

/-- The text in front of the first hyphen. -/
theorem eq_of_hyphen {tag tag' rest rest' : Text} (htag : ∀ c ∈ tag, isTagChar c = true)
    (htag' : ∀ c ∈ tag', isTagChar c = true) (h : tag ++ '-' :: rest = tag' ++ '-' :: rest') :
    tag = tag' ∧ rest = rest' := by
  have hstop : isTagChar '-' = false := by decide
  obtain ⟨rfl, hrest⟩ := run_unique h htag hstop htag' hstop
  exact ⟨rfl, (List.cons.inj hrest).2⟩

theorem insertion?_iff {comment tag code : Text} :
    insertion? comment = some ⟨tag, .insert code⟩ ↔
      (∀ c ∈ tag, isTagChar c = true) ∧
        ∃ text, comment = tag ++ "-insert:".toList ++ text ∧ trim text = code := by
  constructor
  · intro h
    unfold insertion? at h
    split at h
    · rename_i front text hsplit
      split at h
      · rename_i htag
        obtain ⟨rfl, hcode⟩ := Directive.mk.inj (Option.some.inj h)
        exact ⟨isTag_iff.1 htag, text, splitOnce?_append hsplit, DirectiveAction.insert.inj hcode⟩
      · cases h
    · cases h
  · rintro ⟨htag, text, rfl, rfl⟩
    have hsplit : splitOnce? insertWord (tag ++ insertWord ++ text) = some (tag, text) :=
      splitOnce?_word (notMem_of_tag htag (by decide)) text
    rw [show tag ++ "-insert:".toList ++ text = tag ++ insertWord ++ text from rfl, insertion?, hsplit]
    exact if_pos (isTag_iff.2 htag)

theorem removal?_iff {comment tag : Text} :
    removal? comment = some ⟨tag, .removeNextLine⟩ ↔
      (∀ c ∈ tag, isTagChar c = true) ∧ comment = tag ++ "-remove-next-line".toList := by
  constructor
  · intro h
    unfold removal? at h
    split at h
    · rename_i front hstrip
      split at h
      · rename_i htag
        obtain ⟨rfl, -⟩ := Directive.mk.inj (Option.some.inj h)
        exact ⟨isTag_iff.1 htag, stripEnd?_eq_some.1 hstrip⟩
      · cases h
    · cases h
  · rintro ⟨htag, rfl⟩
    have hstrip : stripEnd? removeWord (tag ++ removeWord) = some tag := stripEnd?_eq_some.2 rfl
    rw [show tag ++ "-remove-next-line".toList = tag ++ removeWord from rfl, removal?, hstrip]
    exact if_pos (isTag_iff.2 htag)

theorem parse?_eq_some {line : Text} {d : Directive} :
    parse? line = some d ↔ ∃ comment, comment? line = some comment ∧
      (insertion? comment = some d ∨ insertion? comment = none ∧ removal? comment = some d) := by
  rw [parse?]
  split
  · rename_i hnone
    simp [hnone]
  · rename_i comment hcomment
    simp [hcomment, Option.or_eq_some_iff]

theorem head?_tagged {tag rest : Text} (htag : ∀ c ∈ tag, isTagChar c = true) :
    (tag ++ '-' :: rest).head?.any isBlank = false := by
  cases tag with
  | nil => exact (by decide : isBlank '-' = false)
  | cons c tag => exact not_isBlank_of_isTagChar (htag c (.head _))

theorem parse?_insert_iff {line tag code : Text} :
    parse? line = some ⟨tag, .insert code⟩ ↔ IsInsertion line tag code := by
  rw [parse?_eq_some]
  constructor
  · rintro ⟨comment, hcomment, hinsert | ⟨-, hremove⟩⟩
    · obtain ⟨htag, text, rfl, hcode⟩ := insertion?_iff.1 hinsert
      exact ⟨htag, text, (comment?_iff (head?_comment? hcomment)).1 hcomment, hcode⟩
    · cases removal?_eq_some hremove
  · rintro ⟨htag, text, hsays, hcode⟩
    have hhead : (tag ++ "-insert:".toList ++ text).head?.any isBlank = false := by
      rw [List.append_assoc]
      exact head?_tagged htag
    exact ⟨_, (comment?_iff hhead).2 hsays, .inl (insertion?_iff.2 ⟨htag, text, rfl, hcode⟩)⟩

/-- Behind its tag a line goes on with one word only. -/
theorem not_isInsertion_of_isRemoval {line tag : Text} (h : IsRemoval line tag) (tag' code : Text) :
    ¬ IsInsertion line tag' code := by
  rintro ⟨htag', text, hinsert, -⟩
  obtain ⟨htag, hremove⟩ := h
  rw [List.append_assoc] at hinsert
  have hremoves : comment? line = some (tag ++ '-' :: "remove-next-line".toList) :=
    (comment?_iff (head?_tagged htag)).2 hremove
  have hinserts : comment? line = some (tag' ++ '-' :: ("insert:".toList ++ text)) :=
    (comment?_iff (head?_tagged htag')).2 hinsert
  have hwords := (eq_of_hyphen htag htag' (Option.some.inj (hremoves.symm.trans hinserts))).2
  have hletter : 'r' = 'i' := (List.cons.inj hwords).1
  exact absurd hletter (by decide)

theorem parse?_remove_iff {line tag : Text} :
    parse? line = some ⟨tag, .removeNextLine⟩ ↔ IsRemoval line tag := by
  constructor
  · intro h
    obtain ⟨comment, hcomment, hinsert | ⟨-, hremove⟩⟩ := parse?_eq_some.1 h
    · obtain ⟨_, _, _, haction⟩ := insertion?_eq_some hinsert
      cases haction
    · obtain ⟨htag, rfl⟩ := removal?_iff.1 hremove
      exact ⟨htag, (comment?_iff (head?_comment? hcomment)).1 hcomment⟩
  · intro h
    have hcomment : comment? line = some (tag ++ "-remove-next-line".toList) :=
      (comment?_iff (head?_tagged h.1)).2 h.2
    refine parse?_eq_some.2 ⟨_, hcomment, .inr ⟨?_, removal?_iff.2 ⟨h.1, rfl⟩⟩⟩
    refine Option.eq_none_iff_forall_ne_some.2 fun ⟨tag', action⟩ hinsert => ?_
    obtain ⟨_, text, _, haction⟩ := insertion?_eq_some hinsert
    obtain rfl : action = .insert (trim text) := haction
    exact not_isInsertion_of_isRemoval h _ _ (parse?_insert_iff.1
      (parse?_eq_some.2 ⟨_, hcomment, .inl hinsert⟩))

end Directive

/-! ## Markers -/

namespace Marker

theorem trim_of_tag {ws key : Text} (hws : ∀ c ∈ ws, isBlank c = true) (hne : key ≠ [])
    (hkey : ∀ c ∈ key, isTagChar c = true) : trim (ws ++ key) = key := by
  have hhead : key.head?.any isBlank = false := by
    obtain ⟨c, rest, rfl⟩ := List.exists_cons_of_ne_nil hne
    exact not_isBlank_of_isTagChar (hkey c (.head _))
  have hlast : key.reverse.dropWhile isBlank = key.reverse := by
    obtain ⟨front, c, rfl⟩ := List.eq_nil_or_concat key |>.resolve_left hne
    have hc : isBlank c = false := not_isBlank_of_isTagChar (hkey c (by simp))
    simp [hc]
  rw [trim, trimStart_of_run hws hhead, trimEnd, hlast, List.reverse_reverse]

/-- A key is all that follows white space behind a marker's word. -/
theorem key?_iff {line word rest : Text} {key : String} (h : comment? line = some (word ++ rest)) :
    key? rest = some key ↔ key ≠ "" ∧ (∀ c ∈ key.toList, isTagChar c = true) ∧
      ∃ ws, ws ≠ [] ∧ (∀ c ∈ ws, isBlank c = true) ∧ rest = ws ++ key.toList := by
  rw [key?]
  constructor
  · intro hkey
    split at hkey
    · rename_i hform
      simp only [Bool.and_eq_true, decide_eq_true_eq] at hform
      obtain ⟨⟨hhead, hne⟩, htag⟩ := hform
      have htext : key.toList = trim rest := by rw [← Option.some.inj hkey, String.toList_ofList]
      rw [← htext, List.all_eq_true] at htag
      rw [← htext] at hne
      obtain ⟨lead, trail, hrest, hlead, htrail⟩ := exists_around_trim rest
      rw [← htext] at hrest
      refine ⟨fun he => hne (by rw [he]; rfl), htag, lead, ?_, hlead, ?_⟩
      · rintro rfl
        obtain ⟨c, more, hmore⟩ := List.exists_cons_of_ne_nil hne
        have hc := not_isBlank_of_isTagChar (htag c (by simp [hmore]))
        rw [hrest, hmore] at hhead
        exact absurd hhead (by simp [hc])
      · -- White space behind the key would end the line.
        rcases List.eq_nil_or_concat trail with rfl | ⟨front, c, rfl⟩
        · rwa [List.append_nil] at hrest
        · have hc := htrail c (by simp)
          rw [hrest, List.concat_eq_append, ← List.append_assoc, ← List.append_assoc,
            ← List.append_assoc] at h
          rw [isBlank_last_comment? h] at hc
          cases hc
    · cases hkey
  · rintro ⟨hne, htag, ws, hws, hblank, rfl⟩
    have hkey : key.toList ≠ [] := fun he => hne (String.toList_eq_nil_iff.1 he)
    obtain ⟨c, more, rfl⟩ := List.exists_cons_of_ne_nil hws
    have hall : key.toList.all isTagChar = true := List.all_eq_true.2 htag
    have hc : isBlank c = true := hblank c (.head _)
    rw [trim_of_tag hblank hkey htag]
    simp [hc, hkey, hall]

/-- A marker is told by its word; without a key behind it it is malformed. -/
theorem ofComment?_iff {comment : Text} {m : Marker} :
    ofComment? comment = some m ↔ ∃ rest,
      comment = "@start".toList ++ rest ∧ m = (key? rest).elim .malformed .start ∨
        comment = "@end".toList ++ rest ∧ m = (key? rest).elim .malformed .stop := by
  have hwords : ∀ rest more : Text, "@start".toList ++ rest ≠ "@end".toList ++ more := by
    intro rest more h
    have hletter : 's' = 'e' := (List.cons.inj (List.cons.inj h).2).1
    exact absurd hletter (by decide)
  rw [ofComment?]
  constructor
  · intro h
    split at h
    · rename_i rest hstrip
      exact ⟨rest, .inl ⟨stripStart?_eq_some.1 hstrip, (Option.some.inj h).symm⟩⟩
    · split at h
      · rename_i rest hstrip
        exact ⟨rest, .inr ⟨stripStart?_eq_some.1 hstrip, (Option.some.inj h).symm⟩⟩
      · cases h
  · rintro ⟨rest, ⟨rfl, rfl⟩ | ⟨rfl, rfl⟩⟩
    · rw [stripStart?_eq_some.2 rfl]
    · have hother : stripStart? "@start".toList ("@end".toList ++ rest) = none :=
        Option.eq_none_iff_forall_ne_some.2 fun more hmore =>
          hwords more rest (stripStart?_eq_some.1 hmore).symm
      rw [hother, stripStart?_eq_some.2 rfl]

theorem parse?_iff {line : Text} {m : Marker} :
    parse? line = some m ↔ ∃ rest,
      comment? line = some ("@start".toList ++ rest) ∧ m = (key? rest).elim .malformed .start ∨
        comment? line = some ("@end".toList ++ rest) ∧ m = (key? rest).elim .malformed .stop := by
  rw [parse?, Option.bind_eq_some_iff]
  simp only [ofComment?_iff]
  constructor
  · rintro ⟨comment, hcomment, rest, ⟨rfl, hm⟩ | ⟨rfl, hm⟩⟩
    · exact ⟨rest, .inl ⟨hcomment, hm⟩⟩
    · exact ⟨rest, .inr ⟨hcomment, hm⟩⟩
  · rintro ⟨rest, ⟨hcomment, hm⟩ | ⟨hcomment, hm⟩⟩
    · exact ⟨_, hcomment, rest, .inl ⟨rfl, hm⟩⟩
    · exact ⟨_, hcomment, rest, .inr ⟨rfl, hm⟩⟩

/-- A line has a word and a key behind it exactly if its comment is read so. -/
theorem isMarked_iff {line : Text} {word key : String}
    (hword : ∀ rest, (word.toList ++ rest).head?.any isBlank = false) :
    IsMarked word line key ↔
      ∃ rest, comment? line = some (word.toList ++ rest) ∧ key? rest = some key := by
  constructor
  · rintro ⟨hne, htag, ws, hws, hblank, hsays⟩
    rw [List.append_assoc, ← comment?_iff (hword _)] at hsays
    exact ⟨_, hsays, (key?_iff hsays).2 ⟨hne, htag, ws, hws, hblank, rfl⟩⟩
  · rintro ⟨rest, hcomment, hkey⟩
    obtain ⟨hne, htag, ws, hws, hblank, rfl⟩ := (key?_iff hcomment).1 hkey
    refine ⟨hne, htag, ws, hws, hblank, ?_⟩
    rw [List.append_assoc]
    exact (comment?_iff (hword _)).1 hcomment

theorem head?_start (rest : Text) : ("@start".toList ++ rest).head?.any isBlank = false :=
  (by decide : isBlank '@' = false)

theorem head?_end (rest : Text) : ("@end".toList ++ rest).head?.any isBlank = false :=
  (by decide : isBlank '@' = false)

theorem parse?_start_iff {line : Text} {key : String} :
    parse? line = some (.start key) ↔ IsMarked "@start" line key := by
  rw [isMarked_iff head?_start, parse?_iff]
  refine exists_congr fun rest => ⟨?_, fun ⟨hcomment, hkey⟩ => .inl ⟨hcomment, by rw [hkey]; rfl⟩⟩
  rintro (⟨hcomment, hkey⟩ | ⟨-, hkey⟩)
  · cases hk : key? rest <;> simp_all
  · cases hk : key? rest <;> simp [hk] at hkey

theorem parse?_stop_iff {line : Text} {key : String} :
    parse? line = some (.stop key) ↔ IsMarked "@end" line key := by
  rw [isMarked_iff head?_end, parse?_iff]
  refine exists_congr fun rest => ⟨?_, fun ⟨hcomment, hkey⟩ => .inr ⟨hcomment, by rw [hkey]; rfl⟩⟩
  rintro (⟨-, hkey⟩ | ⟨hcomment, hkey⟩)
  · cases hk : key? rest <;> simp [hk] at hkey
  · cases hk : key? rest <;> simp_all

/-- Every line with the word of a marker is one. -/
theorem exists_parse?_iff {line : Text} :
    (∃ m, parse? line = some m) ↔
      ∃ rest, Says line ("@start".toList ++ rest) ∨ Says line ("@end".toList ++ rest) := by
  simp only [← comment?_iff (head?_start _), ← comment?_iff (head?_end _), parse?_iff]
  constructor
  · rintro ⟨m, rest, ⟨hcomment, -⟩ | ⟨hcomment, -⟩⟩
    · exact ⟨rest, .inl hcomment⟩
    · exact ⟨rest, .inr hcomment⟩
  · rintro ⟨rest, hcomment | hcomment⟩
    · exact ⟨_, rest, .inl ⟨hcomment, rfl⟩⟩
    · exact ⟨_, rest, .inr ⟨hcomment, rfl⟩⟩

theorem parse?_malformed_iff {line : Text} :
    parse? line = some .malformed ↔
      (∃ rest, Says line ("@start".toList ++ rest) ∨ Says line ("@end".toList ++ rest)) ∧
        ∀ key, ¬ IsMarked "@start" line key ∧ ¬ IsMarked "@end" line key := by
  simp only [← exists_parse?_iff, ← parse?_start_iff, ← parse?_stop_iff]
  constructor
  · intro h
    exact ⟨⟨_, h⟩, fun key => by simp [h]⟩
  · rintro ⟨⟨m, hm⟩, hnone⟩
    cases m with
    | malformed => exact hm
    | start key => exact absurd hm (hnone key).1
    | stop key => exact absurd hm (hnone key).2

end Marker

/-- A directive's comment does not start as a marker's does. -/
theorem parse?_none_or_none (line : Text) :
    Directive.parse? line = none ∨ Marker.parse? line = none := by
  by_contra h
  simp only [not_or, Option.ne_none_iff_exists'] at h
  obtain ⟨⟨⟨tag, action⟩, hd⟩, m, hm⟩ := h
  obtain ⟨comment, hcomment, hmarker⟩ : ∃ comment, comment? line = some comment ∧
      comment.head? = some '@' := by
    obtain ⟨rest, ⟨hcomment, -⟩ | ⟨hcomment, -⟩⟩ := Marker.parse?_iff.1 hm
    · exact ⟨_, hcomment, rfl⟩
    · exact ⟨_, hcomment, rfl⟩
  have htagged : ∃ rest, (∀ c ∈ tag, isTagChar c = true) ∧ comment = tag ++ '-' :: rest := by
    cases action with
    | insert code =>
      obtain ⟨htag, text, hsays, -⟩ := Directive.parse?_insert_iff.1 hd
      rw [List.append_assoc] at hsays
      have hsaid : comment? line = some (tag ++ '-' :: ("insert:".toList ++ text)) :=
        (comment?_iff (Directive.head?_tagged htag)).2 hsays
      exact ⟨_, htag, Option.some.inj (hcomment.symm.trans hsaid)⟩
    | removeNextLine =>
      obtain ⟨htag, hsays⟩ := Directive.parse?_remove_iff.1 hd
      have hsaid : comment? line = some (tag ++ '-' :: "remove-next-line".toList) :=
        (comment?_iff (Directive.head?_tagged htag)).2 hsays
      exact ⟨_, htag, Option.some.inj (hcomment.symm.trans hsaid)⟩
  obtain ⟨rest, htag, rfl⟩ := htagged
  cases tag with
  | nil => exact absurd (Option.some.inj hmarker) (by decide)
  | cons c tag =>
    have hc : isTagChar c = true := htag c (.head _)
    rw [show c = '@' from Option.some.inj hmarker] at hc
    exact absurd hc (by decide)

/-- **What directives and markers look like.** A line is read as an insertion, a removal, the start or the
end of a region exactly if it spells one, and as a malformed marker exactly if it starts as a marker does
and spells none. No line is both a directive and a marker, and the tag, the code and the key are told by
the line. -/
theorem parse_recognises_grammar (line : Text) :
    (∀ tag code, Directive.parse? line = some ⟨tag, .insert code⟩ ↔ IsInsertion line tag code) ∧
      (∀ tag, Directive.parse? line = some ⟨tag, .removeNextLine⟩ ↔
        (∀ tag' code, ¬ IsInsertion line tag' code) ∧ IsRemoval line tag) ∧
      (∀ key, Marker.parse? line = some (.start key) ↔ IsMarked "@start" line key) ∧
      (∀ key, Marker.parse? line = some (.stop key) ↔ IsMarked "@end" line key) ∧
      (Marker.parse? line = some .malformed ↔
        (∃ rest, Says line ("@start".toList ++ rest) ∨ Says line ("@end".toList ++ rest)) ∧
          ∀ key, ¬ IsMarked "@start" line key ∧ ¬ IsMarked "@end" line key) ∧
      (Directive.parse? line = none ∨ Marker.parse? line = none) ∧
      (∀ tag code tag' code', IsInsertion line tag code → IsInsertion line tag' code' →
        tag = tag' ∧ code = code') ∧
      (∀ tag tag', IsRemoval line tag → IsRemoval line tag' → tag = tag') ∧
      (∀ key key', IsMarked "@start" line key → IsMarked "@start" line key' → key = key') ∧
      (∀ key key', IsMarked "@end" line key → IsMarked "@end" line key' → key = key') := by
  refine ⟨fun _ _ => Directive.parse?_insert_iff, fun tag => ?_, fun _ => Marker.parse?_start_iff,
    fun _ => Marker.parse?_stop_iff, Marker.parse?_malformed_iff, parse?_none_or_none line,
    ?_, ?_, ?_, ?_⟩
  · rw [Directive.parse?_remove_iff]
    exact ⟨fun h => ⟨Directive.not_isInsertion_of_isRemoval h, h⟩, fun h => h.2⟩
  · simp only [← Directive.parse?_insert_iff]
    intro tag code tag' code' h h'
    simpa using h.symm.trans h'
  · simp only [← Directive.parse?_remove_iff]
    intro tag tag' h h'
    simpa using h.symm.trans h'
  · simp only [← Marker.parse?_start_iff]
    intro key key' h h'
    simpa using h.symm.trans h'
  · simp only [← Marker.parse?_stop_iff]
    intro key key' h h'
    simpa using h.symm.trans h'

/-- The code of an insertion may look like a directive itself. -/
example : Directive.parse? " // pg-insert: // mysql-remove-next-line\n".toList =
    some ⟨"pg".toList, .insert "// mysql-remove-next-line".toList⟩ := by decide +kernel

end Multidialect
