import Multidialect.Proofs.Pipeline.Residue
import Multidialect.Proofs.Template.Comparisons
import Multidialect.Proofs.Template.LineEndings
import Multidialect.Proofs.Template.Markers
import Multidialect.Proofs.Template.Regions

/-! # Regions one behind another

Behind each segment of a text but the last a new line starts, whatever the regions are filled with
(`Region.closed_fill`). So what must not be left in a module is found in the first segment that holds
any of it, and an override that is a marker itself is found unless there is something in front
(`Region.residue?_fill_stray`).
-/

namespace Multidialect

open Text

namespace Text

/-! ## Closed texts -/

theorem Closed.append {a b : Text} (ha : Closed a) (hb : Closed b) : Closed (a ++ b) := by
  intro c hc
  rw [List.getLast?_append] at hc
  cases hlast : b.getLast? with
  | none => exact ha c (by simpa [hlast] using hc)
  | some d => exact hb c (by simpa [hlast] using hc)

theorem closed_flatten {ts : List Text} (h : ∀ t ∈ ts, Closed t) : Closed ts.flatten := by
  induction ts with
  | nil => exact closed_nil
  | cons t ts ih =>
    obtain ⟨ht, hts⟩ := List.forall_mem_cons.1 h
    exact ht.append (ih hts)

theorem closed_append_newline (a : Text) (n : Newline) : Closed (a ++ n.text) := by
  cases n with
  | lf => exact closed_append_feed.2 closed_nil
  | crlf =>
    have hsplit : a ++ Newline.crlf.text = (a ++ ['\r']) ++ '\n' :: [] := by simp [Newline.text]
    rw [hsplit]
    exact closed_append_feed.2 closed_nil

/-- Lines with others behind them are closed. -/
theorem closed_of_followed {t : Text} {front back : List Text} (h : physicalLines t = front ++ back)
    (hback : back ≠ []) {line : Text} (hline : line ∈ front) : Closed line := by
  obtain ⟨xs, ys, rfl⟩ := List.mem_iff_append.1 hline
  rw [List.append_assoc, List.cons_append] at h
  obtain ⟨body, rfl⟩ := exists_feed_of_followed h (by simp [hback])
  exact closed_append_feed.2 closed_nil

/-- A line in front of others, with either terminator. -/
theorem lines_append_newline {line : Text} (hfeed : '\n' ∉ line) (hlast : line.getLast? ≠ some '\r')
    (n : Newline) (rest : Text) : lines (line ++ (n.text ++ rest)) = line :: lines rest := by
  cases n with
  | lf =>
    rw [Newline.text, List.singleton_append, lines_append_feed hfeed, content_append_feed hlast]
  | crlf =>
    have hreturn : '\n' ∉ line ++ ['\r'] := by simp [hfeed]
    have hsplit : line ++ (Newline.crlf.text ++ rest) = (line ++ ['\r']) ++ '\n' :: rest := by
      simp [Newline.text]
    have hends : line ++ ['\r'] ++ ['\n'] = line ++ ['\r', '\n'] := by simp
    rw [hsplit, lines_append_feed hreturn, hends, content_append_return]

end Text

/-! ## What must not be left -/

theorem residueFrom?_append (n : Nat) (front back : List Text) :
    residueFrom? n (front ++ back) =
      (residueFrom? n front).or (residueFrom? (n + front.length) back) := by
  induction front generalizing n with
  | nil => rfl
  | cons line front ih =>
    simp only [List.cons_append, residueFrom?, ih, List.length_cons, Nat.add_assoc,
      Nat.add_comm 1]
    split <;> rfl

/-- What is found in a closed text is found in any text that starts with it. -/
theorem residue?_append {a : Text} (ha : Closed a) (b : Text) :
    residue? (a ++ b) = (residue? a).or (residueFrom? (1 + (lines a).length) (lines b)) := by
  have hlines : lines (a ++ b) = lines a ++ lines b := by
    rw [lines, physicalLines_append_of_closed ha, List.map_append, lines, lines]
  rw [residue?, hlines, residueFrom?_append, residue?]

namespace Region

/-! ## The keys of regions -/

/-- The keys of the regions of a text are all different. -/
theorem nodup_keys {t : Text} {segments : List Segment} (h : parse t = .ok segments) :
    ((regionsOf segments).map (·.1)).Nodup := by
  have hverdict := verdict_parse t
  rw [h] at hverdict
  obtain ⟨hregular, hregions⟩ := hverdict
  rw [hregions]
  exact (regular_iff.1 hregular).1

theorem mem_regionsOf {segments : List Segment} {key : String} :
    key ∈ (regionsOf segments).map (·.1) ↔ ∃ r, .region r ∈ segments ∧ r.key = key := by
  constructor
  · intro h
    obtain ⟨_, hmem, rfl⟩ := List.mem_map.1 h
    obtain ⟨r, hr, rfl⟩ := List.mem_map.1 hmem
    obtain ⟨s, hs, hregion⟩ := List.mem_filterMap.1 hr
    cases s with
    | literal => cases hregion
    | region r' =>
      obtain rfl : r' = r := Option.some.inj hregion
      exact ⟨_, hs, rfl⟩
  · rintro ⟨r, hr, rfl⟩
    exact List.mem_map.2 ⟨(r.key, r.line), List.mem_map_of_mem (List.mem_filterMap.2 ⟨_, hr, rfl⟩), rfl⟩

theorem key_ne_of_before {t : Text} {before after : List Segment} {r r' : Region}
    (h : parse t = .ok (before ++ .region r :: after)) (hr' : .region r' ∈ before) :
    r'.key ≠ r.key := by
  intro hsame
  have hnodup := nodup_keys h
  have hsplit : (regionsOf (before ++ .region r :: after)).map (·.1) =
      (regionsOf before).map (·.1) ++ r.key :: (regionsOf after).map (·.1) := by
    simp [regionsOf, Segment.region?]
  rw [hsplit] at hnodup
  exact (List.nodup_append.1 hnodup).2.2 _ (mem_regionsOf.2 ⟨r', hr', hsame⟩) _ (.head _) rfl

/-! ## Filling -/

theorem fill_append (lookup : String → Option Text) (front back : List Segment) :
    fill lookup (front ++ back) = fill lookup front ++ fill lookup back := List.flatMap_append

theorem closed_replaced {lookup : String → Option Text} {s : Segment} {ls : List Text} {part : Text}
    (hs : s.Spells ls) (hls : ∀ line ∈ ls, Closed line) (hpart : s.Replaced lookup part) :
    Closed part := by
  cases hpart with
  | literal =>
    cases hs with
    | literal => exact closed_flatten hls
  | default =>
    cases hs with
    | @region key n opening closing body =>
      exact closed_flatten fun line hm => hls line (by simp [hm])
  | removed => exact closed_nil
  | override =>
    refine closed_flatten fun line hm => ?_
    obtain ⟨l, -, rfl⟩ := List.mem_map.1 hm
    exact closed_append_newline l _

theorem closed_fill_of_spells {segments : List Segment} {blocks : List (List Text)}
    (h : List.Forall₂ Segment.Spells segments blocks) (hclosed : ∀ line ∈ blocks.flatten, Closed line)
    (lookup : String → Option Text) : Closed (fill lookup segments) := by
  obtain ⟨parts, hparts, hfill⟩ := exists_replaced_fill lookup segments
  rw [hfill]
  clear hfill
  refine closed_flatten fun part hpart => ?_
  induction h generalizing parts with
  | nil => cases hparts; cases hpart
  | @cons s ls segments blocks hs _ ih =>
    obtain ⟨part', parts, hfirst, hmore, rfl⟩ := List.forall₂_cons_left_iff.1 hparts
    rw [List.flatten_cons, List.forall_mem_append] at hclosed
    rcases List.mem_cons.1 hpart with rfl | hpart
    · exact closed_replaced hs hclosed.1 hfirst
    · exact ih hclosed.2 parts hmore hpart

/-- **A new line starts in front of a region**, whatever the regions before it are filled with. -/
theorem closed_fill {t : Text} {before after : List Segment} {r : Region}
    (h : parse t = .ok (before ++ .region r :: after)) (lookup : String → Option Text) :
    Closed (fill lookup before) := by
  obtain ⟨blocks, hall, hlines⟩ := spelled_of_parse h
  have hfront := List.forall₂_take before.length hall
  have hback := List.forall₂_drop before.length hall
  rw [List.take_left] at hfront
  rw [List.drop_left] at hback
  obtain ⟨ls, more, hregion, -, hdrop⟩ := List.forall₂_cons_left_iff.1 hback
  refine closed_fill_of_spells hfront (fun line hline => ?_) lookup
  have hsplit : physicalLines t =
      (blocks.take before.length).flatten ++ (blocks.drop before.length).flatten := by
    rw [← List.flatten_append, List.take_append_drop, hlines]
  refine closed_of_followed hsplit ?_ hline
  rw [hdrop]
  cases hregion
  simp

/-- What is found in front of a region is all that is found. -/
theorem residue?_fill_of_before {t : Text} {before after : List Segment} {r : Region}
    (h : parse t = .ok (before ++ .region r :: after)) {lookup : String → Option Text}
    {x : Nat × Text} (hbefore : residue? (fill lookup before) = some x) :
    residue? (fill lookup (before ++ .region r :: after)) = some x := by
  rw [fill_append, residue?_append (closed_fill h lookup), hbefore, Option.some_or]

/-- **Only regions that are come to matter**: if overrides agree on each region in front of which
nothing is found, the texts are the same, or the same is found in both. -/
theorem fill_of_agree {t : Text} {segments : List Segment} (h : parse t = .ok segments)
    {lookup lookup' : String → Option Text}
    (hagree : ∀ before r after, segments = before ++ .region r :: after →
      residue? (fill lookup before) = none → lookup' r.key = lookup r.key) :
    fill lookup' segments = fill lookup segments ∨
      ∃ x, residue? (fill lookup' segments) = some x ∧ residue? (fill lookup segments) = some x := by
  -- Segment by segment, as long as the texts are the same and nothing is found.
  suffices hstep : ∀ after before, segments = before ++ after →
      fill lookup' before = fill lookup before →
      fill lookup' segments = fill lookup segments ∨
        ∃ x, residue? (fill lookup' segments) = some x ∧ residue? (fill lookup segments) = some x from
    hstep segments [] rfl rfl
  intro after
  induction after with
  | nil =>
    intro before hsplit hsame
    rw [List.append_nil] at hsplit
    exact .inl (by rw [hsplit, hsame])
  | cons s after ih =>
    intro before hsplit hsame
    have hnext : segments = (before ++ [s]) ++ after := by simpa using hsplit
    cases s with
    | literal u => exact ih _ hnext (by rw [fill_append, fill_append, hsame]; rfl)
    | region r =>
      rw [hsplit] at h
      cases hfound : residue? (fill lookup before) with
      | none =>
        have hkey := hagree before r after hsplit hfound
        refine ih _ hnext ?_
        rw [fill_append, fill_append, hsame]
        simp only [fill, List.flatMap_singleton, filled, hkey]
      | some x =>
        refine .inr ⟨x, ?_, ?_⟩
        · rw [hsplit]
          exact residue?_fill_of_before h (by rw [hsame, hfound])
        · rw [hsplit]
          exact residue?_fill_of_before h hfound

/-! ## An override that is a marker -/

/-- A marker that belongs to no region. -/
def stray (first : Bool) : Text := if first then "// @end a".toList else "// @end b".toList

theorem reindent_stray (first : Bool) (indent : Text) :
    reindent (stray first) indent = indent ++ stray first := by
  have hsame : lines (dedent (unlines (trimBlankLines (lines (stray first))))) = [stray first] := by
    cases first <;> decide +kernel
  have hne : stray first ≠ [] := by cases first <;> decide
  rw [reindent, hsame]
  simp [unlines, join, indentLine, hne]

/-- The marker is the first line of the text that takes the region's place. -/
theorem lines_filled_stray {lookup : String → Option Text} {r : Region} {first : Bool}
    (h : lookup r.key = some (stray first)) (rest : Text) :
    lines (filled lookup r ++ rest) = (r.indent ++ stray first) :: lines rest := by
  have hfeed : '\n' ∉ r.indent ++ stray first := by
    rw [List.mem_append, not_or]
    exact ⟨notMem_indentation r.opening, by cases first <;> decide⟩
  have hlast : (r.indent ++ stray first).getLast? ≠ some '\r' := by
    rw [List.getLast?_append]
    cases first <;> simp [stray]
  have hne : r.indent ++ stray first ≠ [] := by cases first <;> simp [stray]
  have hfilled : filled lookup r = r.indent ++ stray first ++ r.newline.text := by
    simp only [filled, h, reindent_stray, if_neg hne, flatMap_exchange_of_notMem hfeed]
  rw [hfilled, List.append_assoc, lines_append_newline hfeed hlast]

theorem trim_stray (r : Region) (first : Bool) : trim (r.indent ++ stray first) = stray first := by
  have hblank : ∀ c ∈ r.indent, isBlank c = true :=
    List.all_eq_true.1 (isBlankText_indentation r.opening)
  have hhead : (stray first).head?.any isBlank = false := by cases first <;> decide
  rw [trim, trimStart_of_run hblank hhead]
  cases first <;> decide

/-- **An override that is a marker is found**, unless something is found in front of the region. -/
theorem residue?_fill_stray {t : Text} {before after : List Segment} {r : Region}
    (h : parse t = .ok (before ++ .region r :: after)) {lookup : String → Option Text}
    (hbefore : residue? (fill lookup before) = none) {first : Bool}
    (hr : lookup r.key = some (stray first)) :
    residue? (fill lookup (before ++ .region r :: after)) =
      some (1 + (lines (fill lookup before)).length, stray first) := by
  have hsyntax : isTemplateSyntax (r.indent ++ stray first) = true := by
    have hcomment : comment? (r.indent ++ stray first) = comment? (stray first) := by
      have htrim : trim (stray first) = stray first := by cases first <;> decide
      rw [comment?, comment?, trim_stray, htrim]
    rw [isTemplateSyntax, isMarker, Marker.parse?, Directive.parse?, hcomment]
    cases first <;> decide
  have hfill : fill lookup (.region r :: after) = filled lookup r ++ fill lookup after := rfl
  rw [fill_append, residue?_append (closed_fill h lookup), hbefore, Option.none_or, hfill,
    lines_filled_stray hr, residueFrom?, if_pos hsyntax, trim_stray]

end Region

end Multidialect
