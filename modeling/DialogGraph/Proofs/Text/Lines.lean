import DialogGraph.Text.Lines
import DialogGraph.Text.Pieces
import Mathlib.Data.List.Basic

/-!
# Lines and words put together again

Nothing is lost when characters are cut into lines or words. Where line feeds are the only line ends
and do not come last, even the lines without their ends give the text back.
-/

namespace DialogGraph.Text

variable {cs : List Char}

theorem flatten_addPiece (done : List (List Char)) (piece : List Char) :
    (addPiece done piece).reverse.flatten = done.reverse.flatten ++ piece.reverse := by
  rw [addPiece]
  split_ifs with hempty
  · simp [List.isEmpty_iff.1 hempty]
  · simp

theorem flatten_linesFrom (done : List (List Char)) (line cs : List Char) :
    (linesFrom done line cs).flatten = done.reverse.flatten ++ line.reverse ++ cs := by
  fun_induction linesFrom done line cs with
  | case1 done line => simp [flatten_addPiece]
  | case2 done line rest ih => simp [ih, flatten_addPiece]
  | case3 done line c rest _ _ ih => simp [ih, flatten_addPiece]
  | case4 done line c rest _ _ ih => simp [ih]

@[simp]
theorem flatten_lines (cs : List Char) : (lines cs).flatten = cs := by
  rw [lines, flatten_linesFrom]
  rfl

theorem flatten_wordsFrom (done : List (List Char)) (word : List Char) (blank : Bool)
    (cs : List Char) :
    (wordsFrom done word blank cs).flatten = done.reverse.flatten ++ word.reverse ++ cs := by
  fun_induction wordsFrom done word blank cs with
  | case1 done word => simp [flatten_addPiece]
  | case2 done word blank c rest _ ih => simp [ih]
  | case3 done word c rest _ ih => simp [ih, flatten_addPiece]
  | case4 done word blank c rest _ _ ih => simp [ih]

@[simp]
theorem flatten_words (cs : List Char) : (words cs).flatten = cs := by
  rw [words, flatten_wordsFrom]
  rfl

/-! ### Line feeds -/

/-- Whether the only line ends are line feeds. -/
def OnlyFeeds (cs : List Char) : Prop := ∀ c ∈ cs, isLineEnd c = true → c = '\n'

instance (cs : List Char) : Decidable (OnlyFeeds cs) :=
  List.decidableBAll (fun c => isLineEnd c = true → c = '\n') cs

theorem OnlyFeeds.append {rest : List Char} (hcs : OnlyFeeds cs) (hrest : OnlyFeeds rest) :
    OnlyFeeds (cs ++ rest) := by
  intro c hc
  exact (List.mem_append.1 hc).elim (hcs c) (hrest c)

/-- What holds of the characters of all parts and of what stands between them. -/
theorem forall_mem_intercalate {P : Char → Prop} {separator : List Char} {parts : List (List Char)}
    (hseparator : ∀ c ∈ separator, P c) (hparts : ∀ part ∈ parts, ∀ c ∈ part, P c) :
    ∀ c ∈ separator.intercalate parts, P c := by
  induction parts with
  | nil => exact nofun
  | cons part parts ih =>
    obtain ⟨hpart, hmore⟩ := List.forall_mem_cons.1 hparts
    cases parts with
    | nil => rwa [List.intercalate_singleton]
    | cons other others =>
      rw [List.intercalate_cons_cons]
      exact List.forall_mem_append.2 ⟨List.forall_mem_append.2 ⟨hpart, hseparator⟩, ih hmore⟩

theorem OnlyFeeds.intercalate {separator : List Char} {parts : List (List Char)}
    (hseparator : OnlyFeeds separator) (hparts : ∀ part ∈ parts, OnlyFeeds part) :
    OnlyFeeds (separator.intercalate parts) :=
  forall_mem_intercalate hseparator hparts

/-- A line that has no end. -/
theorem withoutLineEnd_of_none {line : List Char} (hline : ∀ c ∈ line, isLineEnd c = false) :
    withoutLineEnd line = line := by
  rw [withoutLineEnd]
  split
  · rename_i rest hsame
    have hmem : '\n' ∈ line := List.mem_reverse.1 (hsame ▸ List.mem_cons_self)
    cases hline _ hmem
  · rename_i c rest _ hsame
    have hmem : c ∈ line := List.mem_reverse.1 (hsame ▸ List.mem_cons_self)
    rw [hline c hmem]
    rfl
  · rename_i hnil
    rw [List.reverse_eq_nil_iff] at hnil
    exact hnil.symm

theorem withoutLineEnd_feed {line : List Char} (hline : ∀ c ∈ line, isLineEnd c = false) :
    withoutLineEnd (line ++ ['\n']) = line := by
  rw [withoutLineEnd, List.reverse_append, List.reverse_singleton, List.singleton_append]
  split
  · rename_i rest hsame
    have hmem : '\r' ∈ line := by
      rw [← List.mem_reverse, (List.cons.inj hsame).2]
      exact List.mem_cons_self
    cases hline _ hmem
  · rename_i c rest _ hsame
    obtain ⟨rfl, rfl⟩ := List.cons.inj hsame
    rw [if_pos (by decide), List.reverse_reverse]
  · rename_i hnil
    cases hnil

/-- The pieces from an unfinished line on. -/
theorem exists_pieces (done : List (List Char)) (line cs : List Char) (hcs : OnlyFeeds cs)
    (hline : ∀ c ∈ line, isLineEnd c = false)
    (hlast : (line.reverse ++ cs).getLast? ≠ some '\n') :
    ∃ pieces, linesFrom done line cs = done.reverse ++ pieces ∧
      ['\n'].intercalate (pieces.map withoutLineEnd) = line.reverse ++ cs ∧
        (pieces = [] → line.reverse ++ cs = []) := by
  fun_induction linesFrom done line cs with
  | case1 done line =>
    rw [addPiece]
    split_ifs with hempty
    · exact ⟨[], by simp, by simp [List.isEmpty_iff.1 hempty], fun _ => by
        simp [List.isEmpty_iff.1 hempty]⟩
    · refine ⟨[line.reverse], by simp, ?_, by simp⟩
      rw [List.map_singleton, List.intercalate_singleton, List.append_nil,
        withoutLineEnd_of_none fun c hc => hline c (List.mem_reverse.1 hc)]
  | case2 done line rest ih => cases hcs '\r' List.mem_cons_self rfl
  | case3 done line c rest _ hend ih =>
    obtain rfl := hcs c List.mem_cons_self hend
    have hrest : OnlyFeeds rest := fun c hc => hcs c (List.mem_cons_of_mem _ hc)
    have hmore : rest ≠ [] := by
      rintro rfl
      exact hlast (by simp)
    have hlast : rest.getLast? ≠ some '\n' := by
      rwa [List.getLast?_append_of_ne_nil _ (List.cons_ne_nil _ _),
        List.getLast?_cons_of_ne_nil hmore] at hlast
    obtain ⟨pieces, hpieces, hjoined, hnone⟩ := ih hrest nofun hlast
    obtain ⟨piece, pieces, rfl⟩ := List.exists_cons_of_ne_nil fun hnil => hmore (hnone hnil)
    refine ⟨('\n' :: line).reverse :: piece :: pieces, ?_, ?_, by simp⟩
    · rw [hpieces, addPiece]
      simp
    · rw [List.map_cons] at hjoined
      rw [List.map_cons, List.map_cons, List.intercalate_cons_cons, hjoined, List.reverse_cons,
        withoutLineEnd_feed fun c hc => hline c (List.mem_reverse.1 hc)]
      simp
  | case4 done line c rest _ hother ih =>
    rw [List.reverse_cons, List.append_assoc, List.singleton_append] at ih
    refine ih (fun c hc => hcs c (List.mem_cons_of_mem _ hc)) ?_ hlast
    exact List.forall_mem_cons.2 ⟨by simpa using hother, hline⟩

/-- Lines that end with line feeds give the text back, unless a line feed comes last. -/
theorem intercalate_linesOf {s : String} (hs : OnlyFeeds s.toList)
    (hlast : s.toList.getLast? ≠ some '\n') : "\n".intercalate (linesOf s) = s := by
  obtain ⟨pieces, hpieces, hjoined, -⟩ := exists_pieces [] [] s.toList hs nofun hlast
  have hlines : (linesOf s).map String.toList = pieces.map withoutLineEnd := by
    rw [linesOf, lines, hpieces, List.reverse_nil, List.nil_append, List.map_map]
    exact List.map_congr_left fun _ _ => String.toList_ofList
  rw [← String.toList_inj, String.toList_intercalate, hlines]
  exact hjoined

theorem linesOf_ne_nil {s : String} (hs : s ≠ "") : linesOf s ≠ [] := by
  intro hnil
  have hlines : lines s.toList = [] := List.map_eq_nil_iff.1 hnil
  have hchars := flatten_lines s.toList
  rw [hlines] at hchars
  exact hs (String.toList_inj.1 hchars.symm)

/-! ### Texts on one line -/

def OneLine (s : String) : Prop := '\n' ∉ s.toList

instance (s : String) : Decidable (OneLine s) := inferInstanceAs (Decidable ('\n' ∉ s.toList))

theorem oneLine_of_none {s : String} (hs : ∀ c ∈ s.toList, isLineEnd c = false) : OneLine s := by
  intro hfeed
  cases hs '\n' hfeed

@[simp]
theorem oneLine_append {s t : String} : OneLine (s ++ t) ↔ OneLine s ∧ OneLine t := by
  simp [OneLine]

theorem oneLine_intercalate {separator : String} {parts : List String}
    (hseparator : OneLine separator) (hparts : ∀ part ∈ parts, OneLine part) :
    OneLine (separator.intercalate parts) := by
  intro hfeed
  rw [String.toList_intercalate] at hfeed
  refine forall_mem_intercalate (P := (· ≠ '\n')) ?_ ?_ '\n' hfeed rfl
  · exact fun c hc hsame => hseparator (hsame ▸ hc)
  · refine List.forall_mem_map.2 fun part hpart c hc hsame => hparts part hpart (hsame ▸ hc)

/-- The lines of a text that is put together line by line. -/
theorem pieces_line {line : String} (hline : OneLine line) (rest : String) :
    pieces '\n' (line ++ "\n" ++ rest) = line :: pieces '\n' rest := by
  have hchars : (line ++ "\n" ++ rest).toList = line.toList ++ '\n' :: rest.toList := by
    simp
  rw [pieces, hchars, List.splitOn_append_cons_self_of_not_mem hline, List.map_cons,
    String.ofList_toList]
  rfl

/-- What is put together begins with the first part. -/
theorem exists_intercalate_cons (separator line : String) (rest : List String) :
    ∃ tail, separator.intercalate (line :: rest) = line ++ tail :=
  ⟨separator.intercalate ("" :: rest), by
    rw [← String.intercalate_cons_append, String.append_empty]⟩

end DialogGraph.Text
