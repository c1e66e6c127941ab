import TeeSelector.Theorems.Mapping

/-! `extract_components` finds exactly the component reports of a log. Every group that `findall` returns is a
    capture of `COMPONENT_RE`, and the group reads a capture whole. No match runs over a line break, so the
    components of a log are those of its lines, in order, and a line that reports a component after text where
    no match starts gives that component. -/

namespace TeeSelector

/-! ### Separators -/

/-- A character that no part of a match holds: it is outside the literal, the run and `(strong)`. --/
def Separator (x : Char) : Prop :=
  x ∉ componentMarker ∧ componentChar x = false ∧ x ∉ "(strong)".toList

instance : DecidablePred Separator := fun _ => inferInstanceAs (Decidable (_ ∧ _))

theorem separator_newline : Separator '\n' := by decide

theorem isPrefixOf_append_sep {x : Char} {t : List Char} : ∀ {p : List Char} (l : List Char), x ∉ p →
    p.isPrefixOf (l ++ x :: t) = p.isPrefixOf l
  | [], _, _ => by simp [List.isPrefixOf]
  | a :: p, [], hx => by simp [List.isPrefixOf, Ne.symm (List.ne_of_not_mem_cons hx)]
  | a :: p, b :: l, hx =>
    show (a == b && p.isPrefixOf (l ++ x :: t)) = (a == b && p.isPrefixOf l) by
      rw [isPrefixOf_append_sep l (List.not_mem_of_not_mem_cons hx)]

theorem takeWhile_append_sep {p : Char → Bool} {x : Char} {t : List Char} (hx : p x = false) :
    ∀ l : List Char, (l ++ x :: t).takeWhile p = l.takeWhile p
  | [] => by simp [hx]
  | c :: l => by rw [List.cons_append, List.takeWhile_cons, List.takeWhile_cons, takeWhile_append_sep hx l]

/-! ### The group of one match -/

/-- A separator after the text leaves the group as it is, and stays in the text after the match. --/
theorem componentGroup_append_sep {x : Char} (hx : Separator x) (s t : List Char) :
    componentGroup (s ++ x :: t) = (componentGroup s).map fun (g, r) => (g, r ++ x :: t) := by
  simp only [componentGroup, takeWhile_append_sep hx.2.1,
    List.drop_append_of_le_length (List.takeWhile_prefix _).length_le, isPrefixOf_append_sep _ hx.2.2]
  split_ifs with empty strong
  · rfl
  · rw [List.drop_append_of_le_length (show 8 ≤ _ from (List.isPrefixOf_iff_prefix.mp strong).length_le)]
    rfl
  · rfl

/-- What the group reads is a capture of `COMPONENT_RE`. --/
theorem capture_of_componentGroup {s g rest : List Char} (h : componentGroup s = some (g, rest)) :
    isComponentCapture g = true := by
  have inRun : ∀ x ∈ s.takeWhile componentChar, componentChar x = true := fun _ => List.mem_takeWhile_imp
  simp only [componentGroup] at h
  split_ifs at h with empty strong <;> cases h
  · rw [isComponentCapture, if_pos (List.isSuffixOf_iff_suffix.mpr (List.suffix_append _ _)),
      List.take_left' (by simp)]
    simp [empty, List.all_eq_true.mpr inRun]
  · have plain : "(strong)".toList.isSuffixOf (s.takeWhile componentChar) = false := by
      rw [Bool.eq_false_iff]
      intro suffix
      have := inRun _ ((List.isSuffixOf_iff_suffix.mp suffix).subset (by decide : ')' ∈ "(strong)".toList))
      exact absurd this (by decide)
    rw [isComponentCapture, if_neg (by rw [plain]; decide)]
    simp [empty, List.all_eq_true.mpr inRun]

/-- A capture is read whole by the group, with nothing after it. --/
theorem componentGroup_of_capture {g : List Char} (hg : isComponentCapture g = true) :
    componentGroup g = some (g, []) := by
  simp only [isComponentCapture, Bool.and_eq_true, Bool.not_eq_true', List.isEmpty_eq_false] at hg
  split_ifs at hg with strong
  · obtain ⟨run, rfl⟩ := List.isSuffixOf_iff_suffix.mp strong
    rw [List.take_left' (by simp)] at hg
    have whole : run.takeWhile componentChar = run := List.takeWhile_eq_self_iff.mpr (List.all_eq_true.mp hg.2)
    have opening : "(strong)".toList = '(' :: "strong)".toList := rfl
    simp only [componentGroup, opening, takeWhile_append_sep (by decide : componentChar '(' = false), whole,
      List.drop_left, List.isEmpty_eq_false.mpr hg.1]
    rfl
  · have whole : g.takeWhile componentChar = g := List.takeWhile_eq_self_iff.mpr (List.all_eq_true.mp hg.2)
    simp only [componentGroup, whole, List.drop_length, List.isEmpty_eq_false.mpr hg.1]
    rfl

/-! ### The scan -/

theorem length_le_of_marker {s : List Char} (marker : componentMarker.isPrefixOf s = true) :
    componentMarker.length ≤ s.length :=
  (List.isPrefixOf_iff_prefix.mp marker).length_le

@[simp] theorem findComponents_nil : findComponents [] = [] := by
  rw [findComponents]

theorem findComponents_of_group {s g rest : List Char} (marker : componentMarker.isPrefixOf s = true)
    (h : componentGroup (s.drop componentMarker.length) = some (g, rest)) :
    findComponents s = g :: findComponents rest := by
  obtain _ | ⟨c, cs⟩ := s
  · exact absurd (length_le_of_marker marker) (by decide)
  rw [findComponents, if_pos marker]
  split
  next g' rest' h' => rw [h] at h'; cases h'; rfl
  next h' => rw [h] at h'; cases h'

theorem findComponents_of_no_group {c : Char} {cs : List Char}
    (marker : componentMarker.isPrefixOf (c :: cs) = true)
    (h : componentGroup ((c :: cs).drop componentMarker.length) = none) :
    findComponents (c :: cs) = findComponents cs := by
  rw [findComponents, if_pos marker]
  split
  next g' rest' h' => rw [h] at h'; cases h'
  next => rfl

theorem findComponents_of_not_marker {c : Char} {cs : List Char}
    (marker : componentMarker.isPrefixOf (c :: cs) = false) : findComponents (c :: cs) = findComponents cs := by
  rw [findComponents, if_neg (by rw [marker]; decide)]

theorem findComponents_sep {x : Char} (hx : Separator x) (t : List Char) :
    findComponents (x :: t) = findComponents t := by
  have start : componentMarker.isPrefixOf ([] ++ x :: t) = componentMarker.isPrefixOf [] :=
    isPrefixOf_append_sep [] hx.1
  exact findComponents_of_not_marker (by simpa using start)

/-- Every group that `findall` returns is a capture of `COMPONENT_RE`. --/
theorem capture_of_mem_findComponents {g : List Char} (s : List Char) :
    g ∈ findComponents s → isComponentCapture g = true := by
  induction s using findComponents.induct with
  | case1 => simp
  | case2 c cs marker g' rest h ih =>
    rw [findComponents_of_group marker h, List.mem_cons]
    rintro (rfl | m)
    · exact capture_of_componentGroup h
    · exact ih m
  | case3 c cs marker h ih => rw [findComponents_of_no_group marker h]; exact ih
  | case4 c cs marker ih => rw [findComponents_of_not_marker (Bool.eq_false_iff.mpr marker)]; exact ih

/-- No match runs over a separator: the text before it and the text after it are scanned apart. --/
theorem findComponents_append_sep {x : Char} (hx : Separator x) (t s : List Char) :
    findComponents (s ++ x :: t) = findComponents s ++ findComponents t := by
  induction s using findComponents.induct with
  | case1 => rw [List.nil_append, findComponents_sep hx, findComponents_nil, List.nil_append]
  | case2 c cs marker g rest h ih =>
    have marker' : componentMarker.isPrefixOf ((c :: cs) ++ x :: t) = true := by
      rw [isPrefixOf_append_sep _ hx.1]; exact marker
    have h' : componentGroup (((c :: cs) ++ x :: t).drop componentMarker.length) = some (g, rest ++ x :: t) := by
      rw [List.drop_append_of_le_length (length_le_of_marker marker), componentGroup_append_sep hx, h]; rfl
    rw [findComponents_of_group marker' h', ih, findComponents_of_group marker h, List.cons_append]
  | case3 c cs marker h ih =>
    have marker' : componentMarker.isPrefixOf (c :: (cs ++ x :: t)) = true := by
      rw [← List.cons_append, isPrefixOf_append_sep _ hx.1]; exact marker
    have h' : componentGroup ((c :: (cs ++ x :: t)).drop componentMarker.length) = none := by
      rw [← List.cons_append, List.drop_append_of_le_length (length_le_of_marker marker),
        componentGroup_append_sep hx, h]; rfl
    rw [List.cons_append, findComponents_of_no_group marker' h', findComponents_of_no_group marker h, ih]
  | case4 c cs marker ih =>
    have marker' : componentMarker.isPrefixOf (c :: (cs ++ x :: t)) = false := by
      rw [← List.cons_append, isPrefixOf_append_sep _ hx.1]; exact Bool.eq_false_iff.mpr marker
    rw [List.cons_append, findComponents_of_not_marker marker',
      findComponents_of_not_marker (Bool.eq_false_iff.mpr marker), ih]

/-- A match of `COMPONENT_RE` starts at the front of `s`: the literal, then a group. --/
def MatchStarts (s : List Char) : Prop :=
  componentMarker.isPrefixOf s = true ∧ (componentGroup (s.drop componentMarker.length)).isSome = true

/-- Text in which no match starts adds nothing to the scan of what follows it. --/
theorem findComponents_of_no_match {t : List Char} : ∀ {pre : List Char},
    (∀ s, s <:+ pre → s ≠ [] → ¬MatchStarts (s ++ t)) → findComponents (pre ++ t) = findComponents t
  | [], _ => rfl
  | c :: cs, h => by
    have rest := findComponents_of_no_match fun s suffix ne => h s (suffix.trans (List.suffix_cons c cs)) ne
    have here := h _ (List.suffix_refl _) (List.cons_ne_nil c cs)
    rw [List.cons_append] at here ⊢
    cases marker : componentMarker.isPrefixOf (c :: (cs ++ t))
    · rw [findComponents_of_not_marker marker, rest]
    · have group : componentGroup ((c :: (cs ++ t)).drop componentMarker.length) = none :=
        Option.not_isSome_iff_eq_none.mp fun found => here ⟨marker, found⟩
      rw [findComponents_of_no_group marker group, rest]

/-! ### `extract_components` -/

/-- For every log, each component that `extract_components` returns is a capture of `COMPONENT_RE`. The scan of
    a log of lines is the scans of its lines, in order. A line that reports a capture `comp` after text where no
    match starts gives `[comp]`. --/
theorem extractComponents_spec :
    (∀ text : List Char, ∀ comp ∈ extractComponents text, isComponentCapture comp.toList = true) ∧
    (∀ lines : List (List Char), findComponents (lines.flatMap (· ++ ['\n'])) = lines.flatMap findComponents) ∧
    (∀ pre comp : List Char, isComponentCapture comp = true →
      (∀ s, s <:+ pre → s ≠ [] → ¬MatchStarts (s ++ componentMarker ++ comp)) →
      findComponents (pre ++ componentMarker ++ comp) = [comp]) := by
  refine ⟨fun text comp m => ?_, fun lines => ?_, fun pre comp hc noMatch => ?_⟩
  · obtain ⟨g, mg, rfl⟩ := List.mem_map.mp m
    exact capture_of_mem_findComponents _ mg
  · induction lines with
    | nil => exact findComponents_nil
    | cons l ls ih =>
      rw [List.flatMap_cons, List.append_assoc, List.singleton_append, findComponents_append_sep separator_newline,
        ih, List.flatMap_cons]
  · have marker : componentMarker.isPrefixOf (componentMarker ++ comp) = true :=
      List.isPrefixOf_iff_prefix.mpr (List.prefix_append _ _)
    rw [List.append_assoc, findComponents_of_no_match (by simpa only [List.append_assoc] using noMatch),
      findComponents_of_group marker (by rw [List.drop_left]; exact componentGroup_of_capture hc), findComponents_nil]

end TeeSelector
