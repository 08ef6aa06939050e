import Multidialect.Manifest.Source
import Multidialect.Proofs.Text.Lines
import Multidialect.Proofs.Text.Occurrences

/-! # Where an error points

A place that is found for a name or value starts and ends between two characters of the manifest, and
what stands there is the name or value (`Span.Covers`, `Span.find?_covers`). It can stand in six forms,
and of each form only the first occurrence is looked at (`Span.find?_eq_none_iff`). Between delimiters
that is enough, as one occurrence is as good as another. A key is a key only if no word goes on with it:
the key of a line is missed exactly if it is hidden behind the tail of a longer word further up
(`Span.Hidden`, `ManifestSource.span_found_iff`).
-/

namespace Multidialect

open Text

/-! ## Bytes -/

theorem Text.byteLength_eq (t : Text) : byteLength t = (String.ofList t).utf8ByteSize := by
  have hfold : ∀ n, t.foldl (fun n c => n + c.utf8Size) n = n + (String.ofList t).utf8ByteSize := by
    induction t with
    | nil => simp
    | cons c t ih =>
      intro n
      rw [List.foldl_cons, ih, String.ofList_cons, String.utf8ByteSize_append,
        String.utf8ByteSize_singleton, Nat.add_assoc]
  rw [byteLength, hfold, Nat.zero_add]

theorem Text.byteLength_append (a b : Text) :
    byteLength (a ++ b) = byteLength a + byteLength b := by
  simp only [byteLength_eq, String.ofList_append, String.utf8ByteSize_append]

namespace Span

variable {needle ending before part line t : Text} {opening closing : Char} {span : Span}

/-! ## What stands at a place -/

/-- A place covers a name or value, which is not empty: it starts and ends between two characters of
the text, and what stands there is the name or value. -/
structure Covers (span : Span) (needle text : String) : Prop where
  needle_ne : needle ≠ ""
  length_eq : span.length = needle.utf8ByteSize
  le_size : span.offset + span.length ≤ text.utf8ByteSize
  start : String.Pos.Raw.IsValid text ⟨span.offset⟩
  stop : String.Pos.Raw.IsValid text ⟨span.offset + span.length⟩
  extract_eq : text.extract ⟨⟨span.offset⟩, start⟩ ⟨⟨span.offset + span.length⟩, stop⟩ = needle

theorem covers_append {needle : String} (hne : needle ≠ "") (front back : String) :
    Covers ⟨front.utf8ByteSize, needle.utf8ByteSize⟩ needle (front ++ needle ++ back) where
  needle_ne := hne
  length_eq := rfl
  le_size := by
    simp only [String.utf8ByteSize_append]
    omega
  start := String.Pos.Raw.isValid_iff_exists_append.2
    ⟨front, needle ++ back, String.append_assoc, rfl⟩
  stop := String.Pos.Raw.isValid_iff_exists_append.2
    ⟨front ++ needle, back, rfl, by simp [String.rawEndPos]⟩
  extract_eq := by
    have hsize : front.utf8ByteSize + needle.utf8ByteSize = (front ++ needle).toByteArray.size := by
      simp
    rw [← String.toByteArray_inj, String.toByteArray_extract, String.toByteArray_append]
    simp only [hsize, ByteArray.extract_append_size_left, String.toByteArray_append]
    exact ByteArray.extract_append_eq_right (by simp) (by simp)

/-- A place behind `before`, as long as what stands there. -/
def IsAt (span : Span) (needle t : Text) : Prop :=
  ∃ before after, t = before ++ needle ++ after ∧ span = ⟨byteLength before, byteLength needle⟩

theorem IsAt.covers {needle text : String} (h : span.IsAt needle.toList text.toList)
    (hne : needle ≠ "") : span.Covers needle text := by
  obtain ⟨before, after, htext, rfl⟩ := h
  have happend : text = String.ofList before ++ needle ++ String.ofList after := by
    rw [← String.toList_inj, htext]
    simp
  rw [happend, byteLength_eq, byteLength_eq, String.ofList_toList]
  exact covers_append hne _ _

theorem textBefore?_eq_none : textBefore? part t = none ↔ ¬ part <:+: t := by
  rw [textBefore?, Option.map_eq_none_iff, splitOnce?_eq_none_iff]

theorem textBefore?_eq_some : textBefore? part t = some before ↔ OccursFirst part before t := by
  constructor
  · intro h
    obtain ⟨found, hsplit, rfl⟩ := Option.map_eq_some_iff.1 h
    exact occursFirst_of_splitOnce? hsplit
  · intro h
    obtain ⟨after, hafter⟩ := h.occurs
    rw [textBefore?, splitOnce?_eq_some_iff.2 ⟨h, hafter.symm⟩]
    rfl

/-- An opening delimiter is one byte, so what it opens starts one byte behind it. -/
theorem between?_isAt (hsize : opening.utf8Size = 1)
    (h : between? opening closing needle t = some span) : span.IsAt needle t := by
  obtain ⟨before, hbefore, rfl⟩ := Option.map_eq_some_iff.1 h
  obtain ⟨after, rfl⟩ := (textBefore?_eq_some.1 hbefore).occurs
  refine ⟨before ++ [opening], closing :: after, by simp, ?_⟩
  rw [byteLength_append, show byteLength [opening] = 1 by simp [byteLength, hsize]]

theorem key?_isAt (h : key? needle ending t = some span) : span.IsAt needle t := by
  unfold key? at h
  split at h
  · rename_i before hbefore
    obtain ⟨after, rfl⟩ := (textBefore?_eq_some.1 hbefore).occurs
    split at h
    · obtain rfl := Option.some.inj h
      exact ⟨before, ending ++ after, by simp, rfl⟩
    · cases h
  · cases h

theorem ne_nil_of_find? (h : find? needle t = some span) : needle ≠ [] := by
  rintro rfl
  simp [find?] at h

theorem find?_isAt (h : find? needle t = some span) : span.IsAt needle t := by
  rw [find?, if_neg (ne_nil_of_find? h)] at h
  simp only [Option.or_eq_some_iff] at h
  rcases h with h | ⟨-, h | ⟨-, h | ⟨-, h | ⟨-, h | ⟨-, h⟩⟩⟩⟩⟩
  · exact between?_isAt (by decide) h
  · exact between?_isAt (by decide) h
  · exact between?_isAt (by decide) h
  · exact between?_isAt (by decide) h
  · exact key?_isAt h
  · exact key?_isAt h

/-- **What is found** stands where it is found, in whichever form. -/
theorem find?_covers {needle text : String} (h : find? needle.toList text.toList = some span) :
    span.Covers needle text :=
  (find?_isAt h).covers fun hempty => ne_nil_of_find? h (by rw [hempty, String.toList_empty])

/-! ## What is missed -/

/-- The characters between which a value stands, or a part of a table's header. -/
def delimiters : List (Char × Char) := [('"', '"'), ('\'', '\''), ('.', ']'), ('.', '.')]

/-- What follows a key. -/
def assignments : List Text := [" =".toList, "=".toList]

/-- A word goes on behind a text: the text ends, and not with white space, a brace or a comma. -/
def EndsInWord (before : Text) : Prop :=
  ∃ c ∈ before.getLast?, isBlank c = false ∧ c ≠ '\x7b' ∧ c ≠ ','

theorem keyCanFollow_eq_false : keyCanFollow before = false ↔ EndsInWord before := by
  rw [keyCanFollow, EndsInWord]
  cases before.getLast? <;> simp [and_assoc]

theorem between?_eq_none :
    between? opening closing needle t = none ↔ ¬ opening :: needle ++ [closing] <:+: t := by
  rw [between?, Option.map_eq_none_iff, textBefore?_eq_none]

theorem key?_eq_none :
    key? needle ending t = none ↔
      ∀ before, OccursFirst (needle ++ ending) before t → EndsInWord before := by
  unfold key?
  split
  · rename_i front hfront
    have hfirst := textBefore?_eq_some.1 hfront
    constructor
    · intro h before hbefore
      obtain rfl := hbefore.unique hfirst
      exact keyCanFollow_eq_false.1 (by simpa using h)
    · intro h
      simp [keyCanFollow_eq_false.2 (h front hfirst)]
  · rename_i hnone
    exact iff_of_true rfl fun before hbefore => absurd hbefore.isInfix (textBefore?_eq_none.1 hnone)

theorem find?_eq_none_iff (hne : needle ≠ []) :
    find? needle t = none ↔
      (∀ d ∈ delimiters, ¬ d.1 :: needle ++ [d.2] <:+: t) ∧
        ∀ ending ∈ assignments, ∀ before, OccursFirst (needle ++ ending) before t →
          EndsInWord before := by
  rw [find?, if_neg hne]
  simp only [Option.or_eq_none_iff, between?_eq_none, key?_eq_none, delimiters, assignments,
    List.forall_mem_cons, List.not_mem_nil, false_implies, implies_true, and_true, and_assoc]
  rfl

/-- A line that starts, white space apart, with a key and what follows a key. -/
def IsKeyLine (needle line : Text) : Prop :=
  ∃ lead, (∀ c ∈ lead, isBlank c = true) ∧
    ∃ ending ∈ assignments, ∃ rest, line = lead ++ needle ++ ending ++ rest

/-- The first occurrence of a part is the tail of a longer word, and there is another one that is
not. -/
def Shadowed (part t : Text) : Prop :=
  ∃ before key, OccursFirst part before t ∧ EndsInWord before ∧
    key ++ part <+: t ∧ ¬ EndsInWord key

/-- A key is hidden: it stands between no delimiters, what follows it follows the tail of a longer word
first, and no other way to assign makes up for this. -/
structure Hidden (needle t : Text) : Prop where
  undelimited : ∀ d ∈ delimiters, ¬ d.1 :: needle ++ [d.2] <:+: t
  shadowed : ∃ ending ∈ assignments, Shadowed (needle ++ ending) t
  tails : ∀ ending ∈ assignments, ∀ before,
    OccursFirst (needle ++ ending) before t → EndsInWord before

/-- At the start of a line, white space apart, no word goes on. -/
theorem not_endsInWord {front lead : Text} (hfront : Closed front)
    (hlead : ∀ c ∈ lead, isBlank c = true) : ¬ EndsInWord (front ++ lead) := by
  rintro ⟨c, hc, hblank, -⟩
  rw [List.getLast?_append] at hc
  cases hlast : lead.getLast? with
  | none =>
    rw [hlast, Option.none_or] at hc
    rw [hfront c hc] at hblank
    exact absurd hblank (by decide)
  | some d =>
    rw [hlast, Option.some_or] at hc
    obtain rfl := Option.some.inj hc
    rw [hlead _ (List.mem_of_getLast? hlast)] at hblank
    cases hblank

theorem exists_of_isKeyLine (hmem : line ∈ lines t) (h : IsKeyLine needle line) :
    ∃ ending ∈ assignments, ∃ key, key ++ (needle ++ ending) <+: t ∧ ¬ EndsInWord key := by
  obtain ⟨front, back, rfl, hfront⟩ := exists_around_of_mem_lines hmem
  obtain ⟨lead, hlead, ending, hending, rest, rfl⟩ := h
  exact ⟨ending, hending, front ++ lead, ⟨rest ++ back, by simp⟩, not_endsInWord hfront hlead⟩

/-- **What is missed.** The key of a line is missed exactly if it is hidden. -/
theorem find?_eq_none_iff_hidden (hne : needle ≠ []) (hmem : line ∈ lines t)
    (h : IsKeyLine needle line) : find? needle t = none ↔ Hidden needle t := by
  rw [find?_eq_none_iff hne]
  constructor
  · rintro ⟨hdelimiters, htails⟩
    obtain ⟨ending, hending, key, hkey, hstart⟩ := exists_of_isKeyLine hmem h
    have hoccurs : needle ++ ending <:+: t :=
      (List.suffix_append key _).isInfix.trans hkey.isInfix
    obtain ⟨before, -, -, hbefore⟩ := exists_occursFirst hoccurs
    have htail := htails ending hending before hbefore
    exact ⟨hdelimiters, ⟨ending, hending, before, key, hbefore, htail, hkey, hstart⟩, htails⟩
  · exact fun hhidden => ⟨hhidden.undelimited, hhidden.tails⟩

end Span

namespace ManifestSource

open Span

/-- **The place of a name or value.** A place that is found starts and ends between two characters of
the manifest, and what stands there is the name or value, which is not empty. A place is found for the
key of a line exactly if the key is not empty and not hidden behind the tail of a longer word. -/
theorem span_found_iff (s : ManifestSource) (needle : String) :
    (∀ span, s.span? needle = some span → span.Covers needle s.text) ∧
      ((∃ line ∈ lines s.text.toList, IsKeyLine needle.toList line) →
        ((s.span? needle).isSome ↔ needle ≠ "" ∧ ¬ Hidden needle.toList s.text.toList)) := by
  refine ⟨fun span h => find?_covers h, ?_⟩
  rintro ⟨line, hmem, hline⟩
  by_cases hne : needle = ""
  · subst hne
    simp [span?, find?]
  · have hnil : needle.toList ≠ [] := by simpa using hne
    rw [Option.isSome_iff_ne_none, span?, ne_eq, find?_eq_none_iff_hidden hnil hmem hline]
    simp [hne]

/-- A key found behind a character of two bytes. -/
theorem span_found_accented :
    Covers ⟨5, 6⟩ "barrel" "# é\nbarrel = \"\"\n" ∧
      ¬ Hidden "barrel".toList "# é\nbarrel = \"\"\n".toList := by
  have hspan : (ofText "# é\nbarrel = \"\"\n" "dialectic.toml").span? "barrel" = some ⟨5, 6⟩ := by
    decide +kernel
  have hline : "barrel = \"\"".toList ∈ lines "# é\nbarrel = \"\"\n".toList := by decide +kernel
  have hkey : IsKeyLine "barrel".toList "barrel = \"\"".toList :=
    ⟨[], by simp, " =".toList, by decide, " \"\"".toList, by decide +kernel⟩
  obtain ⟨hcovers, hfound⟩ :=
    span_found_iff (ofText "# é\nbarrel = \"\"\n" "dialectic.toml") "barrel"
  exact ⟨hcovers _ hspan, ((hfound ⟨_, hline, hkey⟩).1 (by rw [hspan]; rfl)).2⟩

/-- The rename of `my_barrel` hides the key `barrel` further down. -/
theorem span_misses_key :
    (∃ line ∈ lines
        "[dialects.sqlite.renames]\nmy_barrel = \"shelf\"\n\n[generator]\nbarrel = \"\"\n".toList,
      IsKeyLine "barrel".toList line) ∧
      (ofText "[dialects.sqlite.renames]\nmy_barrel = \"shelf\"\n\n[generator]\nbarrel = \"\"\n"
        "dialectic.toml").span? "barrel" = none :=
  ⟨⟨"barrel = \"\"".toList, by decide +kernel, [], by simp, " =".toList, by decide, " \"\"".toList,
    by decide +kernel⟩, by decide +kernel⟩

end ManifestSource

end Multidialect
