import Mathlib.Data.List.Basic
import PredicateLang.Text.Split

/-!
# Pieces of a text

Cutting a text and joining its pieces gives it back. A joined text is its first piece with every
other piece behind a separator, which is the form that induction over the pieces needs.
-/

namespace PredicateLang.Text

variable {separator : Char} {text : List Char}

theorem toList_join_cons (between first : String) (others : List String) :
    (join between (first :: others)).toList
      = first.toList ++ others.flatMap fun piece => between.toList ++ piece.toList := by
  rw [join, String.toList_ofList]
  induction others generalizing first with
  | nil => simp
  | cons second others ih =>
    rw [List.map_cons, List.map_cons, List.intercalate_cons_cons, ← List.map_cons, ih,
      List.flatMap_cons, List.append_assoc, List.append_assoc]

theorem join_singleton (between piece : String) : join between [piece] = piece := by simp [join]

theorem join_cons_cons (between first second : String) (others : List String) :
    join between (first :: second :: others)
      = first ++ between ++ join between (second :: others) := by
  apply String.toList_inj.mp
  simp [join]

/-- There is always a piece. -/
theorem splitChars_ne_nil (separator : Char) (text : List Char) :
    splitChars separator text ≠ [] := by
  fun_cases splitChars separator text <;> simp

theorem intercalate_splitChars :
    [separator].intercalate (splitChars separator text) = text := by
  induction text with
  | nil => rfl
  | cons c rest ih =>
    obtain ⟨piece, pieces, e⟩ := List.exists_cons_of_ne_nil (splitChars_ne_nil separator rest)
    rw [e] at ih
    rw [splitChars]
    split
    · rename_i cut
      rw [e, List.intercalate_cons_cons, ih, cut]
      rfl
    · rw [e]
      cases pieces with
      | nil => simpa using ih
      | cons second pieces =>
        rw [List.intercalate_cons_cons] at ih ⊢
        rw [List.cons_append, List.cons_append, ih]

/-- Joining the pieces gives the text back. -/
theorem join_split (path : String) : join "." (split '.' path) = path := by
  rw [join, split, List.map_map]
  have back : String.toList ∘ String.ofList = id := funext fun text => String.toList_ofList
  rw [back, List.map_id]
  exact (congrArg String.ofList intercalate_splitChars).trans String.ofList_toList

/-! ## Cutting what was joined -/

/-- No piece holds the separator. -/
theorem separator_notMem_piece : ∀ piece ∈ splitChars separator text, separator ∉ piece := by
  fun_induction splitChars separator text with
  | case1 => simp
  | case2 rest ih => simpa using ih
  | case3 c rest other nothing ih => simpa using Ne.symm other
  | case4 c rest other piece pieces cut ih =>
    rw [cut, List.forall_mem_cons] at ih
    exact List.forall_mem_cons.mpr ⟨List.not_mem_cons_of_ne_of_not_mem (Ne.symm other) ih.1, ih.2⟩

theorem splitChars_of_notMem {piece : List Char} (clean : separator ∉ piece) :
    splitChars separator piece = [piece] := by
  induction piece with
  | nil => rfl
  | cons c piece ih =>
    rw [List.mem_cons, not_or] at clean
    obtain ⟨other, clean⟩ := clean
    rw [splitChars, if_neg (Ne.symm other), ih clean]

theorem splitChars_append_cons {piece : List Char} (clean : separator ∉ piece) :
    splitChars separator (piece ++ separator :: text) = piece :: splitChars separator text := by
  induction piece with
  | nil => rw [List.nil_append, splitChars, if_pos rfl]
  | cons c piece ih =>
    rw [List.mem_cons, not_or] at clean
    obtain ⟨other, clean⟩ := clean
    rw [List.cons_append, splitChars, if_neg (Ne.symm other), ih clean]

/-- Cutting gives back the pieces that were joined if none holds the separator. -/
theorem splitChars_intercalate {pieces : List (List Char)} (some_piece : pieces ≠ [])
    (clean : ∀ piece ∈ pieces, separator ∉ piece) :
    splitChars separator ([separator].intercalate pieces) = pieces := by
  match pieces with
  | [piece] =>
    rw [List.intercalate_singleton]
    exact splitChars_of_notMem (clean piece (.head _))
  | piece :: second :: pieces =>
    rw [List.forall_mem_cons] at clean
    rw [List.intercalate_cons_cons, List.append_assoc, List.singleton_append,
      splitChars_append_cons clean.1, splitChars_intercalate (List.cons_ne_nil _ _) clean.2]

theorem split_join {pieces : List String} (some_piece : pieces ≠ [])
    (clean : ∀ piece ∈ pieces, '.' ∉ piece.toList) : split '.' (join "." pieces) = pieces := by
  rw [split, join, String.toList_ofList, show ".".toList = ['.'] from rfl, splitChars_intercalate,
    List.map_map]
  · exact (List.map_congr_left fun piece _ => String.ofList_toList).trans (List.map_id _)
  · simpa using some_piece
  · simpa using clean

theorem split_ne_nil (path : String) : split separator path ≠ [] := by
  simpa [split] using splitChars_ne_nil separator path.toList

theorem separator_notMem_split (path : String) :
    ∀ piece ∈ split separator path, separator ∉ piece.toList := by
  simpa [split] using separator_notMem_piece

end PredicateLang.Text
