import EventMessages.Path
import Mathlib.Data.List.TakeWhile

/-!
# EventMessages.Proofs.Path

Paths and the names they are walked by. A path is walked through the names of its directory part
and then to its last name, which it keeps wherever it is seen from (`stem_join`).
-/

namespace EventMessages.Path

/-! ## Segments -/

theorem segments_ne_nil (path : List Char) : segments path ≠ [] := by
  cases path with
  | nil => simp [segments]
  | cons c rest =>
      rw [segments]
      split
      · simp
      · split <;> simp

/-- A slash separates the segments before it from those behind it. -/
theorem segments_append_slash (a b : List Char) :
    segments (a ++ '/' :: b) = segments a ++ segments b := by
  induction a with
  | nil => simp [segments]
  | cons c a ih =>
      rw [List.cons_append, segments, segments]
      by_cases hc : c = '/'
      · rw [if_pos hc, if_pos hc, ih, List.cons_append]
      · obtain ⟨first, others, hs⟩ := List.exists_cons_of_ne_nil (segments_ne_nil a)
        rw [if_neg hc, if_neg hc, ih, hs]
        rfl

theorem segments_of_notMem {path : List Char} (h : '/' ∉ path) : segments path = [path] := by
  induction path with
  | nil => rfl
  | cons c path ih =>
      have hc : c ≠ '/' := fun he => h (he ▸ List.mem_cons_self)
      rw [segments, if_neg hc, ih fun hm => h (List.mem_cons_of_mem _ hm)]

/-! ## Names -/

/-- The names of a path: its segments that are not empty. -/
def names (path : List Char) : List (List Char) := (segments path).filter (· ≠ [])

theorem route_names (path : String) :
    (route path).names = (names path.toList).map String.ofList := rfl

theorem names_append_slash (a b : List Char) : names (a ++ '/' :: b) = names a ++ names b := by
  rw [names, segments_append_slash, List.filter_append, names, names]

theorem names_nil : names [] = [] := rfl

theorem names_of_notMem {path : List Char} (h : '/' ∉ path) (hne : path ≠ []) :
    names path = [path] := by
  simp [names, segments_of_notMem h, hne]

theorem names_append_slashes {slashes : List Char} (h : ∀ c ∈ slashes, c = '/')
    (path : List Char) : names (path ++ slashes) = names path := by
  induction slashes generalizing path with
  | nil => rw [List.append_nil]
  | cons c slashes ih =>
      have hc : c = '/' := h c List.mem_cons_self
      have hs := ih (fun d hd => h d (List.mem_cons_of_mem _ hd)) []
      rw [hc, names_append_slash, ← List.nil_append slashes, hs, names_nil, List.append_nil]

/-! ## The directory part -/

/-- What is trimmed from a path is slashes. -/
theorem exists_trimSlashes_append (path : List Char) :
    ∃ slashes, (∀ c ∈ slashes, c = '/') ∧ path = trimSlashes path ++ slashes := by
  rw [trimSlashes]
  split
  · exact ⟨[], by simp, by rw [List.append_nil]⟩
  · refine ⟨(path.reverse.takeWhile (· == '/')).reverse, fun c hc => ?_, ?_⟩
    · have := List.mem_takeWhile_imp (List.mem_reverse.mp hc)
      simpa using this
    · rw [← List.reverse_append, List.takeWhile_append_dropWhile, List.reverse_reverse]

theorem slash_notMem_afterSlash (path : List Char) : '/' ∉ afterSlash path := by
  intro h
  have := List.mem_takeWhile_imp (List.mem_reverse.mp h)
  simp at this

theorem throughSlash_eq_nil_or (path : List Char) :
    throughSlash path = [] ∨ ∃ front, throughSlash path = front ++ ['/'] := by
  rw [throughSlash]
  cases h : path.reverse.dropWhile (· != '/') with
  | nil => exact Or.inl rfl
  | cons c rest =>
      have hc : c = '/' := by
        have := List.head_dropWhile_not (· != '/') (l := path.reverse) (by simp [h])
        simpa [h] using this
      exact Or.inr ⟨rest.reverse, by rw [hc, List.reverse_cons]⟩

/-- Only a path that ends in a slash has nothing behind its last slash. -/
theorem afterSlash_ne_nil {path : List Char} (hne : path ≠ [])
    (hlast : path.getLast? ≠ some '/') : afterSlash path ≠ [] := by
  intro h
  have hpath := throughSlash_append_afterSlash path
  rw [h, List.append_nil] at hpath
  obtain ht | ⟨front, ht⟩ := throughSlash_eq_nil_or path
  · exact hne (hpath ▸ ht)
  · rw [ht] at hpath
    exact hlast (by rw [← hpath, List.getLast?_concat])

theorem names_parentChars (path : List Char) :
    names (parentChars path) = names (throughSlash path) := by
  obtain ⟨slashes, hs, he⟩ := exists_trimSlashes_append (throughSlash path)
  conv => rhs; rw [he]
  rw [names_append_slashes hs, parentChars]

theorem parentChars_isPrefix (path : List Char) : parentChars path <+: path := by
  obtain ⟨slashes, -, he⟩ := exists_trimSlashes_append (throughSlash path)
  refine ⟨slashes ++ afterSlash path, ?_⟩
  rw [parentChars, ← List.append_assoc, ← he, throughSlash_append_afterSlash]

/-- Slashes alone are their own directory part. -/
theorem eq_slash_of_isPrefix_parentChars {path : List Char} (h : path <+: parentChars path) :
    ∀ c ∈ path, c = '/' := by
  have he : parentChars path = path :=
    (parentChars_isPrefix path).eq_of_length (le_antisymm (parentChars_isPrefix path).length_le
      h.length_le)
  have hlast : afterSlash path = [] := by
    have hpath := congrArg List.length (throughSlash_append_afterSlash path)
    have htrim := congrArg List.length he
    obtain ⟨slashes, -, hs⟩ := exists_trimSlashes_append (throughSlash path)
    have hthrough := congrArg List.length hs
    rw [List.length_append] at hpath hthrough
    rw [parentChars] at htrim
    exact List.eq_nil_of_length_eq_zero (by omega)
  have hthrough : throughSlash path = path := by
    conv => rhs; rw [← throughSlash_append_afterSlash path, hlast, List.append_nil]
  rw [parentChars, hthrough, trimSlashes] at he
  split at he
  · next hall => simpa using hall
  · next hall =>
    -- the slash at the end would have been trimmed
    obtain ht | ⟨front, ht⟩ := throughSlash_eq_nil_or path
    · rw [hthrough] at ht
      simp [ht] at hall
    · rw [hthrough] at ht
      rw [ht, List.reverse_append, List.reverse_singleton, List.singleton_append,
        List.dropWhile_cons_of_pos rfl] at he
      have hdrop := (List.dropWhile_sublist (l := front.reverse) (· == '/')).length_le
      have hfull := congrArg List.length he
      simp only [List.length_reverse, List.length_append, List.length_singleton] at hdrop hfull
      omega

/-- A path leads through its directory part to its last name. -/
theorem names_eq_concat {path : List Char} (h : afterSlash path ≠ []) :
    names path = names (parentChars path) ++ [afterSlash path] := by
  have hlast : names (afterSlash path) = [afterSlash path] :=
    names_of_notMem (slash_notMem_afterSlash path) h
  have hpath := throughSlash_append_afterSlash path
  rw [names_parentChars]
  obtain ht | ⟨front, ht⟩ := throughSlash_eq_nil_or path
  · rw [ht, List.nil_append] at hpath
    rw [ht, names_nil, List.nil_append, ← hlast, hpath]
  · rw [ht, List.append_assoc, List.singleton_append] at hpath
    rw [ht, ← hlast, names_append_slash, names_nil, List.append_nil, ← names_append_slash, hpath]

/-- A path that ends in a slash has the names of its directory part. -/
theorem names_of_afterSlash_eq_nil {path : List Char} (h : afterSlash path = []) :
    names path = names (parentChars path) := by
  have hpath := throughSlash_append_afterSlash path
  rw [h, List.append_nil] at hpath
  rw [names_parentChars, hpath]

/-! ## Last names -/

/-- What follows the last slash does not depend on what stands before a slash. -/
theorem afterSlash_append_slash (a b : List Char) :
    afterSlash (a ++ '/' :: b) = afterSlash b := by
  have hslash : ('/' :: a.reverse).takeWhile (· != '/') = [] := by simp
  rw [afterSlash, afterSlash, List.reverse_append, List.reverse_cons, List.append_assoc,
    List.singleton_append, List.takeWhile_append, hslash]
  split
  · next hl =>
    rw [List.append_nil, (List.takeWhile_prefix _).eq_of_length hl]
  · rfl

/-- A path keeps its last name when it is seen from a directory. -/
theorem afterSlash_joinChars (directory path : List Char) :
    afterSlash (joinChars directory path) = afterSlash path := by
  rw [joinChars]
  split
  · rfl
  · split
    · next h =>
      obtain rfl | hlast := h
      · rfl
      · obtain ⟨front, rfl⟩ := List.getLast?_eq_some_iff.mp hlast
        rw [List.append_assoc, List.singleton_append, afterSlash_append_slash]
    · rw [afterSlash_append_slash]

@[simp] theorem stem_join (directory path : String) : stem (join directory path) = stem path := by
  rw [stem, toList_join, afterSlash_joinChars, stem]

end EventMessages.Path
